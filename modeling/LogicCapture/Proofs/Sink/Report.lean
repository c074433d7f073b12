/-
The reports of a sink that writes raw samples, when it is asked for several.

* `FileSink.Call`, `FileSink.run`: a sink is told of events and asked for reports, in any order;
* `FileSink.Loses`, `FileSink.Lossless`: samples are lost if they are dropped or cannot be written
  in full, and when none are;
* `FileSink.account_run`: what the writer has taken is all that has been delivered exactly if
  nothing has been lost;
* `FileSink.exists_report`: the error behind a loss stays until a report gives it;
* `FileSink.report_iff`: a number that is reported is that of the samples, and they have all been
  written, exactly if nothing has been lost; what has been lost has been reported before;
* `FileSink.report_afterFailure`: such a number after a loss.
-/
import LogicCapture.Proofs.Sink.Failure
import LogicCapture.Proofs.Trace

namespace LogicCapture

namespace FileSink

variable {W : Type} [Writer W] {s : FileSink W} {error : WriteError}

/-! ### Calls -/

/-- What a sink can be asked for. -/
inductive Call where
  | told (event : SinkEvent)
  | report
  deriving DecidableEq

/-- The samples that a call brings. -/
def Call.samples : Call → Bytes
  | told event => event.samples
  | report => []

/-- The sink after a call. -/
def perform (s : FileSink W) : Call → FileSink W
  | .told event => SampleSink.tell s event
  | .report => s.finish.2

/-- The sink after calls. -/
def run (s : FileSink W) (calls : List Call) : FileSink W := calls.foldl perform s

lemma run_append (s : FileSink W) (before after : List Call) :
    s.run (before ++ after) = (s.run before).run after := List.foldl_append

lemma run_concat (s : FileSink W) (calls : List Call) (last : Call) :
    s.run (calls ++ [last]) = (s.run calls).perform last :=
  run_append s calls [last]

/-- A call loses samples: an error is kept, so that they are dropped, or they cannot be written in
full. -/
def Loses (s : FileSink W) (call : Call) : Prop :=
  call.samples ≠ [] ∧ (s.error ≠ none ∨ (Writer.writeAll s.writer call.samples).1 ≠ .ok ())

lemma loses_deliver {samples : Bytes} {format : StreamFormat} :
    s.Loses (.told (.deliver samples format)) ↔
      samples ≠ [] ∧ (s.error ≠ none ∨ (Writer.writeAll s.writer samples).1 ≠ .ok ()) := Iff.rfl

/-- No call has lost samples. -/
def Lossless (s : FileSink W) (calls : List Call) : Prop :=
  Historic (fun before call => ¬ (s.run before).Loses call) calls

/-! ### What is taken -/

/-- A report writes nothing. -/
lemma contents_finish (s : FileSink W) :
    Writer.contents s.finish.2.writer = Writer.contents s.writer := by
  cases hkept : s.error with
  | some error => rw [finish_of_error hkept]
  | none =>
      rw [finish_of_clean hkept]
      exact Writer.contents_flush s.writer

/-- A report counts nothing. -/
lemma bytesWritten_finish (s : FileSink W) : s.finish.2.bytesWritten = s.bytesWritten := by
  cases hkept : s.error with
  | some error => rw [finish_of_error hkept]
  | none => rw [finish_of_clean hkept]

/-- Without an error before it, an event is served. -/
lemma writer_tell_of_clean (hclean : s.error = none) (event : SinkEvent) :
    (SampleSink.tell s event).writer = (Writer.serve s.writer event).2 := by
  rw [tell_of_clean hclean]
  rcases Writer.serve s.writer event with ⟨error | _, w⟩ <;> rfl

/-- **Of the samples of a call** a prefix is taken, and all of them exactly if none are lost. -/
lemma taken_perform (s : FileSink W) (call : Call) :
    ∃ taken, taken <+: call.samples ∧
      Writer.contents (s.perform call).writer = Writer.contents s.writer ++ taken ∧
      (taken = call.samples ↔ ¬ s.Loses call) := by
  cases call with
  | report =>
      refine ⟨[], List.prefix_rfl, ?_, by simp [Loses, Call.samples]⟩
      rw [List.append_nil]
      exact contents_finish s
  | told event =>
      cases hkept : s.error with
      | some error =>
          refine ⟨[], List.nil_prefix, ?_, eq_comm.trans (by simp [Loses, hkept])⟩
          rw [perform, tell_of_error hkept, List.append_nil]
          exact Writer.contents_flushed _ _
      | none =>
          rw [perform, writer_tell_of_clean hkept]
          cases event with
          | deliver samples format =>
              obtain ⟨taken, hprefix, hcontents, hall⟩ := Writer.taken_writeAll s.writer samples
              have hloses : s.Loses (.told (.deliver samples format)) ↔
                  (Writer.writeAll s.writer samples).1 ≠ .ok () := by
                simp only [loses_deliver, hkept, ne_eq, not_true_eq_false, false_or,
                  and_iff_right_iff_imp]
                rintro hfails rfl
                exact hfails (congrArg Prod.fst (Writer.writeAll_nil s.writer))
              exact ⟨taken, hprefix, hcontents, by rw [hloses, not_not]; exact hall.symm⟩
          | started format =>
              exact ⟨[], List.prefix_rfl, (List.append_nil _).symm,
                by simp [Loses, Call.samples, SinkEvent.samples]⟩
          | stopped =>
              refine ⟨[], List.prefix_rfl, ?_, by simp [Loses, Call.samples, SinkEvent.samples]⟩
              rw [List.append_nil]
              exact Writer.contents_flush s.writer

/-- A call without samples counts nothing. -/
lemma bytesWritten_of_nil {call : Call} (hnil : call.samples = []) :
    (s.perform call).bytesWritten = s.bytesWritten := by
  cases call with
  | report => exact bytesWritten_finish s
  | told event =>
      rw [perform]
      cases hkept : s.error with
      | some error => rw [tell_of_error hkept]
      | none =>
          have hlength : event.samples.length = 0 := congrArg List.length hnil
          rw [tell_of_clean hkept, hlength]
          rcases Writer.serve s.writer event with ⟨error | _, w⟩
          · rfl
          · exact UInt64.add_zero _

/-- Samples that are not lost are counted. -/
lemma bytesWritten_perform {call : Call} (h : ¬ s.Loses call) :
    (s.perform call).bytesWritten = s.bytesWritten + UInt64.ofNat call.samples.length := by
  by_cases hnil : call.samples = []
  · rw [bytesWritten_of_nil hnil, hnil]
    exact (UInt64.add_zero _).symm
  · match call, hnil with
    | .told (.deliver samples format), hnil =>
        obtain ⟨hclean, hwrite⟩ : s.error = none ∧
            (Writer.writeAll s.writer samples).1 = .ok () := by
          have hsamples : samples ≠ [] := hnil
          simpa [loses_deliver, hsamples] using h
        rw [perform, tell_of_clean hclean]
        rcases hserve : Writer.serve s.writer (.deliver samples format) with ⟨error | _, w⟩
        · cases hwrite.symm.trans (congrArg Prod.fst hserve)
        · rfl

/-- **What has been taken** is no more than what has been delivered, and all of it exactly if
nothing has been lost. -/
lemma taken_run (s : FileSink W) (calls : List Call) :
    ∃ taken, Writer.contents (s.run calls).writer = Writer.contents s.writer ++ taken ∧
      taken.length ≤ (calls.flatMap Call.samples).length ∧
      (taken.length = (calls.flatMap Call.samples).length → s.Lossless calls) ∧
      (s.Lossless calls → taken = calls.flatMap Call.samples) := by
  induction calls using List.reverseRecOn with
  | nil => exact ⟨[], (List.append_nil _).symm, Nat.le_refl _, fun _ => Historic.nil, fun _ => rfl⟩
  | append_singleton calls last ih =>
      obtain ⟨taken, hcontents, hle, hall, hlossless⟩ := ih
      obtain ⟨piece, hprefix, hpiece, hwhole⟩ := taken_perform (s.run calls) last
      have hpieceLe := hprefix.length_le
      have hsum : ((calls ++ [last]).flatMap Call.samples).length =
          (calls.flatMap Call.samples).length + last.samples.length := by simp
      have hiff : s.Lossless (calls ++ [last]) ↔
          s.Lossless calls ∧ ¬ (s.run calls).Loses last := Historic.concat_iff
      refine ⟨taken ++ piece, ?_, ?_, fun h => ?_, fun h => ?_⟩
      · rw [run_concat, hpiece, hcontents, List.append_assoc]
      · rw [hsum, List.length_append]
        omega
      · rw [hsum, List.length_append] at h
        have hwholePiece : piece = last.samples := hprefix.eq_of_length (by omega)
        exact hiff.mpr ⟨hall (by omega), hwhole.mp hwholePiece⟩
      · obtain ⟨hbefore, hlast⟩ := hiff.mp h
        rw [hlossless hbefore, hwhole.mpr hlast]
        simp

/-- **The account of a sink**: what has been taken is all that has been delivered exactly if nothing
has been lost. -/
theorem account_run (s : FileSink W) (calls : List Call) :
    Writer.contents (s.run calls).writer =
      Writer.contents s.writer ++ calls.flatMap Call.samples ↔ s.Lossless calls := by
  obtain ⟨taken, hcontents, -, hall, hlossless⟩ := taken_run s calls
  rw [hcontents, List.append_cancel_left_eq]
  exact ⟨fun h => hall (congrArg List.length h), hlossless⟩

/-- As long as nothing is lost, everything is counted. -/
lemma bytesWritten_run (s : FileSink W) (calls : List Call) (h : s.Lossless calls) :
    (s.run calls).bytesWritten =
      s.bytesWritten + UInt64.ofNat (calls.flatMap Call.samples).length := by
  induction calls using List.reverseRecOn with
  | nil => exact (UInt64.add_zero _).symm
  | append_singleton calls last ih =>
      obtain ⟨hbefore, hlast⟩ := Historic.concat_iff.mp h
      calc (s.run (calls ++ [last])).bytesWritten
        _ = (s.run calls).bytesWritten + UInt64.ofNat last.samples.length := by
            rw [run_concat, bytesWritten_perform hlast]
        _ = s.bytesWritten + UInt64.ofNat (calls.flatMap Call.samples).length +
              UInt64.ofNat last.samples.length := by rw [ih hbefore]
        _ = s.bytesWritten + UInt64.ofNat ((calls ++ [last]).flatMap Call.samples).length := by
            rw [List.flatMap_append, List.flatMap_singleton, List.length_append, UInt64.ofNat_add,
              UInt64.add_assoc]

/-! ### The error behind a loss -/

/-- When samples are lost, an error is kept. -/
lemma error_of_loses {call : Call} (h : s.Loses call) :
    ∃ error, (s.perform call).error = some error := by
  match call, h with
  | .told (.deliver samples format), h =>
      have hcause := (loses_deliver.mp h).2
      rw [perform]
      cases hkept : s.error with
      | some error => exact ⟨error, by rw [tell_of_error hkept, hkept]⟩
      | none =>
          have hfails : (Writer.writeAll s.writer samples).1 ≠ .ok () := by
            simpa [hkept] using hcause
          rw [tell_of_clean hkept]
          rcases hserve : Writer.serve s.writer (.deliver samples format) with ⟨error | _, w⟩
          · exact ⟨error, rfl⟩
          · exact absurd (congrArg Prod.fst hserve) hfails

/-- An error is kept through all events. -/
lemma error_run {calls : List Call} (hkept : s.error = some error) (h : .report ∉ calls) :
    (s.run calls).error = some error := by
  induction calls generalizing s with
  | nil => exact hkept
  | cons call rest ih =>
      rw [List.mem_cons, not_or] at h
      match call, h with
      | .told event, h =>
          rw [run, List.foldl_cons, ← run]
          exact ih (by rw [perform, tell_of_error hkept, hkept]) h.2
      | .report, h => exact absurd rfl h.1

/-- **An error is kept until it is reported**, and it is what the first report gives. -/
lemma exists_report {calls : List Call} (hkept : s.error = some error)
    (hclean : (s.run calls).error = none) :
    ∃ meanwhile later, calls = meanwhile ++ .report :: later ∧
      (s.run meanwhile).error = some error := by
  have hmem : .report ∈ calls := by
    by_contra hnone
    cases hclean.symm.trans (error_run hkept hnone)
  obtain ⟨meanwhile, later, rfl, hfirst⟩ := List.eq_append_cons_of_mem hmem
  exact ⟨meanwhile, later, rfl, error_run hkept hfirst⟩

/-- When no error is left after a loss, a report has found it. -/
lemma found_of_loses {before after : List Call} {call : Call}
    (hclean : (s.run (before ++ call :: after)).error = none) (hloses : (s.run before).Loses call) :
    ∃ error meanwhile later, after = meanwhile ++ .report :: later ∧
      (s.run (before ++ [call])).error = some error ∧
      (s.run (before ++ call :: meanwhile)).error = some error := by
  obtain ⟨error, hkept⟩ := error_of_loses hloses
  rw [← run_concat] at hkept
  rw [List.append_cons, run_append] at hclean
  obtain ⟨meanwhile, later, hafter, hmeanwhile⟩ := exists_report hkept hclean
  exact ⟨error, meanwhile, later, hafter, hkept, by rwa [List.append_cons, run_append]⟩

/-- A number is reported only without an error, and it is what has been counted. -/
lemma finish_of_ok {n : UInt64} {s' : FileSink W} (h : s.finish = (.ok n, s')) :
    s.error = none ∧ n = s.bytesWritten := by
  cases hkept : s.error with
  | some error => cases (finish_of_error hkept).symm.trans h
  | none =>
      rw [finish_of_clean hkept] at h
      have hresult := congrArg Prod.fst h
      rcases hflush : (Writer.flush s.writer).1 with error | _
      · rw [hflush] at hresult
        cases hresult
      · rw [hflush] at hresult
        exact ⟨rfl, (Except.ok.inj hresult).symm⟩

/-! ### The number reported -/

/-- **A number that is reported** is that of the samples, and they have all been written, exactly if
none have been lost: no error was kept when they came, and they could be written in full.  Whenever
samples have been lost, an earlier report has given the error that was kept then.  So as long as no
report has found an error, every number is right. -/
theorem report_iff {w : W} {calls : List Call} {n : UInt64} {s : FileSink W}
    (h : (run { writer := w } calls).finish = (.ok n, s)) :
    ((Writer.contents s.writer = Writer.contents w ++ calls.flatMap Call.samples ∧
        n = UInt64.ofNat (calls.flatMap Call.samples).length) ↔
      Lossless { writer := w } calls) ∧
    (∀ before call after, calls = before ++ call :: after →
      Loses (run { writer := w } before) call →
      ∃ error meanwhile later, after = meanwhile ++ .report :: later ∧
        (run { writer := w } (before ++ [call])).error = some error ∧
        (run { writer := w } (before ++ call :: meanwhile)).finish.1 = .error error) ∧
    ((∀ earlier later, calls = earlier ++ .report :: later →
        (run { writer := w } earlier).error = none) → Lossless { writer := w } calls) := by
  obtain ⟨hclean, hn⟩ := finish_of_ok h
  have hcontents := contents_finish (run { writer := w } calls)
  rw [h] at hcontents
  refine ⟨⟨?_, fun hlossless => ⟨?_, ?_⟩⟩, ?_, ?_⟩
  · rintro ⟨hall, -⟩
    exact (account_run _ calls).mp (hcontents.symm.trans hall)
  · exact hcontents.trans ((account_run _ calls).mpr hlossless)
  · rw [hn, bytesWritten_run _ _ hlossless]
    exact UInt64.zero_add _
  · rintro before call after rfl hloses
    obtain ⟨error, meanwhile, later, hafter, hkept, hmeanwhile⟩ :=
      found_of_loses hclean hloses
    exact ⟨error, meanwhile, later, hafter, hkept,
      congrArg Prod.fst (finish_of_error hmeanwhile)⟩
  · rintro hnone before call after rfl hloses
    obtain ⟨error, meanwhile, later, rfl, -, hmeanwhile⟩ := found_of_loses hclean hloses
    have hearlier := hnone (before ++ call :: meanwhile) later (by simp)
    cases hearlier.symm.trans hmeanwhile

/-- A writer that cannot be flushed once. -/
def unsettled : BoundedWriter := { limit := 8, chunk := 8, flushes := [false] }

/-- What comes between a failed flush and the report of it is missing from the number that is
reported later, and from the middle of the samples. -/
theorem report_iff_gap :
    let calls : List Call := [.told (.deliver [1] ⟨1000000, 8, 0x81⟩), .told .stopped,
      .told (.deliver [2] ⟨1000000, 8, 0x81⟩), .report, .told (.deliver [3] ⟨1000000, 8, 0x81⟩)]
    ∃ s, (run { writer := unsettled } calls).finish = (.ok 2, s) ∧
      Writer.contents s.writer = [1, 3] ∧ ¬ Lossless { writer := unsettled } calls ∧
      ∃ earlier later, calls = earlier ++ .report :: later ∧
        (run { writer := unsettled } earlier).error ≠ none := by
  intro calls
  have hfirst : Writer.writeAll unsettled [1] = (.ok (), { unsettled with data := [1] }) :=
    (Writer.writeAll_of_took (n := 0) (by decide) rfl).trans (Writer.writeAll_nil _)
  have hlast : Writer.writeAll ({ limit := 8, chunk := 8, data := [1] } : BoundedWriter) [3] =
      (.ok (), { limit := 8, chunk := 8, data := [1, 3] }) :=
    (Writer.writeAll_of_took (n := 0) (by decide) rfl).trans (Writer.writeAll_nil _)
  have hbefore : run { writer := unsettled } (calls.take 4) =
      ⟨{ limit := 8, chunk := 8, data := [1] }, 1, none⟩ := by
    simp only [calls, List.take, run, List.foldl, perform, SampleSink.tell, SampleSink.deliver,
      deliver, hfirst]
    rfl
  have hreport : (run { writer := unsettled } calls).finish =
      (.ok 2, ⟨{ limit := 8, chunk := 8, data := [1, 3] }, 2, none⟩) := by
    change ((run { writer := unsettled } (calls.take 4)).deliver [3]).finish = _
    rw [hbefore, deliver, hlast]
    rfl
  obtain ⟨hright, -, hlossless⟩ := report_iff hreport
  have hlossy : ¬ Lossless { writer := unsettled } calls := by
    intro h
    exact absurd (hright.mpr h).1 (by decide)
  refine ⟨_, hreport, rfl, hlossy, ?_⟩
  by_contra hnone
  exact hlossy (hlossless fun earlier later hsplit =>
    by_contra fun hkept => hnone ⟨earlier, later, hsplit, hkept⟩)

/-- A writer that takes four bytes, two at a time. -/
def narrow : BoundedWriter := { limit := 4, chunk := 2 }

/-- Four of six bytes are taken. -/
lemma writeAll_narrow : Writer.writeAll narrow [1, 2, 3, 4, 5, 6] =
    (.error (.failed "disk full"), { narrow with data := [1, 2, 3, 4] }) :=
  calc Writer.writeAll narrow [1, 2, 3, 4, 5, 6]
    _ = Writer.writeAll { narrow with data := [1, 2] } [3, 4, 5, 6] :=
      Writer.writeAll_of_took (n := 1) (by decide) rfl
    _ = Writer.writeAll { narrow with data := [1, 2, 3, 4] } [5, 6] :=
      Writer.writeAll_of_took (n := 1) (by decide) rfl
    _ = _ := Writer.writeAll_of_failed (by decide) rfl

/-- **The report after that of a failure** gives a number again, though samples have been lost: it
is neither that of the samples delivered nor that of those in the writer. -/
theorem report_afterFailure :
    let calls : List Call := [.told (.deliver [1, 2, 3, 4, 5, 6] ⟨1000000, 8, 0x81⟩),
      .told (.deliver [7] ⟨1000000, 8, 0x81⟩), .report]
    ∃ s, (run { writer := narrow } calls).finish = (.ok 0, s) ∧
      Writer.contents s.writer = [1, 2, 3, 4] ∧
      ¬ (Writer.contents s.writer = Writer.contents narrow ++ calls.flatMap Call.samples ∧
        0 = UInt64.ofNat (calls.flatMap Call.samples).length) := by
  intro calls
  have hreport : (run { writer := narrow } calls).finish =
      (.ok 0, ⟨{ limit := 4, chunk := 2, data := [1, 2, 3, 4] }, 0, none⟩) := by
    simp only [calls, run, List.foldl, perform, SampleSink.tell, SampleSink.deliver, deliver,
      writeAll_narrow]
    rfl
  exact ⟨_, hreport, rfl, fun h => absurd h.1 (by decide)⟩

end FileSink

end LogicCapture
