/-
The first failure of a sink that writes raw samples, and what becomes of the samples after it.

* `SampleSink.tell`: a sink is told of an event;
* `Writer.serve`, `Writer.Serves`: what an event asks of the writer, and events that are served
  without failure; `Writer.serves_or_fails`: of any events all are served, or there is a first one
  that fails;
* `Writer.Noted`: a writer that notes what it is asked for, and changes nothing else;
* `FileSink.tell_of_clean`, `FileSink.tell_of_error`: what one event does to a sink, with
  `FileSink.told_of_serves` and `FileSink.told_of_fails` for many;
* `FileSink.Intact`, `FileSink.Broken`: all samples have been written and counted, or those before
  the first failure have;
* `FileSink.first_failure`: every sink is one or the other, and reports accordingly.
-/
import LogicCapture.Proofs.Sink.Contents
import Mathlib.Logic.Function.Iterate

namespace LogicCapture

variable {W : Type} [Writer W]

/-! ### Events -/

/-- A sink is told of an event. -/
def SampleSink.tell {S : Type} [SampleSink S] (sink : S) : SinkEvent → S
  | .started format => started sink format
  | .deliver samples format => deliver sink samples format
  | .stopped => stopped sink

/-- The samples that an event brings. -/
def SinkEvent.samples : SinkEvent → Bytes
  | deliver samples _ => samples
  | started _ | stopped => []

namespace Writer

/-- What an event asks of the writer: samples are to be written, and a stop is to flush. -/
def serve (w : W) : SinkEvent → Except WriteError Unit × W
  | .started _ => (.ok (), w)
  | .deliver samples _ => writeAll w samples
  | .stopped => flush w

/-- These events are served in turn without failure, and the writer is left like this. -/
inductive Serves : W → List SinkEvent → W → Prop where
  | done {w} : Serves w [] w
  | event {w w' w'' event rest} :
      serve w event = (.ok (), w') → Serves w' rest w'' → Serves w (event :: rest) w''

/-- Of the samples of an event a prefix is taken, and all of them if it is served. -/
lemma taken_serve (w : W) (event : SinkEvent) :
    ∃ taken, taken <+: event.samples ∧ contents (serve w event).2 = contents w ++ taken ∧
      ((serve w event).1 = .ok () → taken = event.samples) := by
  cases event with
  | started format => exact ⟨[], List.prefix_rfl, (List.append_nil _).symm, fun _ => rfl⟩
  | deliver samples format =>
      obtain ⟨taken, hprefix, hcontents, hall⟩ := taken_writeAll w samples
      exact ⟨taken, hprefix, hcontents, hall.mp⟩
  | stopped =>
      refine ⟨[], List.prefix_rfl, ?_, fun _ => rfl⟩
      rw [List.append_nil]
      exact contents_flush w

/-- The samples of an event that is served are taken. -/
lemma contents_serve {w w' : W} {event : SinkEvent} (h : serve w event = (.ok (), w')) :
    contents w' = contents w ++ event.samples := by
  obtain ⟨taken, -, hcontents, hall⟩ := taken_serve w event
  rw [h] at hcontents hall
  rw [hcontents, hall rfl]

/-- The samples of events that are served stand at the end of the contents. -/
lemma Serves.contents_eq {w w' : W} {events : List SinkEvent} (h : Serves w events w') :
    contents w' = contents w ++ events.flatMap SinkEvent.samples := by
  induction h with
  | done => exact (List.append_nil _).symm
  | event hserve _ ih => rw [ih, contents_serve hserve, List.flatMap_cons, List.append_assoc]

/-- **Of any events** all are served, or there is a first one that fails. -/
lemma serves_or_fails (w : W) (events : List SinkEvent) :
    (∃ w', Serves w events w') ∨
      ∃ before event after error w₁ w₂, events = before ++ event :: after ∧
        Serves w before w₁ ∧ serve w₁ event = (.error error, w₂) := by
  induction events generalizing w with
  | nil => exact Or.inl ⟨w, .done⟩
  | cons event rest ih =>
      rcases hserve : serve w event with ⟨error | _, w'⟩
      · exact Or.inr ⟨[], event, rest, error, w, w', rfl, .done, hserve⟩
      · rcases ih w' with ⟨w'', hserves⟩ |
          ⟨before, failing, after, error, w₁, w₂, rfl, hserves, hfails⟩
        · exact Or.inl ⟨w'', .event hserve hserves⟩
        · exact Or.inr ⟨event :: before, failing, after, error, w₁, w₂, rfl,
            .event hserve hserves, hfails⟩

/-- The writer after so many flushes, whatever came of them. -/
def flushed (count : Nat) (w : W) : W := (fun w => (flush w).2)^[count] w

lemma contents_flushed (count : Nat) (w : W) : contents (flushed count w) = contents w := by
  induction count generalizing w with
  | zero => rfl
  | succ count ih =>
      rw [flushed, Function.iterate_succ_apply]
      exact (ih _).trans (contents_flush w)

/-! ### A writer with notes -/

/-- What a writer is asked for. -/
inductive Request where
  | write (offered : Bytes)
  | flush
  deriving DecidableEq

/-- A writer that notes what it is asked for. -/
structure Noted (W : Type) where
  writer : W
  /-- The requests so far. -/
  requests : List Request := []

namespace Noted

instance : Writer (Noted W) where
  write n bytes := ((write n.writer bytes).1,
    ⟨(write n.writer bytes).2, n.requests ++ [.write bytes]⟩)
  flush n := ((flush n.writer).1, ⟨(flush n.writer).2, n.requests ++ [.flush]⟩)
  contents n := contents n.writer
  interruptions n := interruptions n.writer
  interruptions_lt n bytes := interruptions_lt n.writer bytes
  contents_took n bytes := contents_took n.writer bytes
  contents_interrupted n bytes := contents_interrupted n.writer bytes
  contents_failed n bytes := contents_failed n.writer bytes
  contents_flush n := contents_flush n.writer

/-- A buffer is written as it would be without notes. -/
lemma writeAll_eq (n : Noted W) (bytes : Bytes) :
    (writeAll n bytes).1 = (writeAll n.writer bytes).1 ∧
      (writeAll n bytes).2.writer = (writeAll n.writer bytes).2 := by
  induction n, bytes using writeAll.induct (W := Noted W) with
  | case1 n => simp
  | case2 n bytes hne htook =>
      rw [writeAll_of_tookNothing hne htook, writeAll_of_tookNothing (w := n.writer) hne htook]
      exact ⟨rfl, rfl⟩
  | case3 n bytes hne count htook ih =>
      rw [writeAll_of_took hne htook, writeAll_of_took (w := n.writer) hne htook]
      exact ih
  | case4 n bytes hne hinterrupted ih =>
      rw [writeAll_of_interrupted hne hinterrupted,
        writeAll_of_interrupted (w := n.writer) hne hinterrupted]
      exact ih
  | case5 n bytes hne error hfailed =>
      rw [writeAll_of_failed hne hfailed, writeAll_of_failed (w := n.writer) hne hfailed]
      exact ⟨rfl, rfl⟩

/-- An event is served as it would be without notes. -/
lemma serve_eq (n : Noted W) (event : SinkEvent) :
    (serve n event).1 = (serve n.writer event).1 ∧
      (serve n event).2.writer = (serve n.writer event).2 := by
  cases event with
  | started format => exact ⟨rfl, rfl⟩
  | deliver samples format => exact writeAll_eq n samples
  | stopped => exact ⟨rfl, rfl⟩

lemma writer_flushed (count : Nat) (n : Noted W) :
    (flushed count n).writer = flushed count n.writer := by
  induction count generalizing n with
  | zero => rfl
  | succ count ih => exact ih (flush n).2

/-- Flushes are noted as such. -/
lemma requests_flushed (count : Nat) (n : Noted W) :
    (flushed count n).requests = n.requests ++ List.replicate count .flush := by
  induction count generalizing n with
  | zero => exact (List.append_nil _).symm
  | succ count ih =>
      refine (ih (flush n).2).trans ?_
      rw [List.replicate_succ, List.append_cons]
      rfl

end Noted

end Writer

namespace FileSink

open Writer (Serves Noted serve flushed)

variable {s s' : FileSink W} {error : WriteError}

/-- **An event without an error before it** is served; samples that could be written are counted,
and a failure is kept. -/
lemma tell_of_clean (hclean : s.error = none) (event : SinkEvent) :
    SampleSink.tell s event =
      match serve s.writer event with
      | (.ok (), w) => ⟨w, s.bytesWritten + UInt64.ofNat event.samples.length, none⟩
      | (.error error, w) => ⟨w, s.bytesWritten, some error⟩ := by
  obtain ⟨writer, counted, error⟩ := s
  obtain rfl : error = none := hclean
  have hzero : counted + UInt64.ofNat 0 = counted := UInt64.add_zero counted
  cases event with
  | started format =>
      exact congrArg (fun counted => (⟨writer, counted, none⟩ : FileSink W)) hzero.symm
  | deliver samples format =>
      have hserve : serve writer (.deliver samples format) = Writer.writeAll writer samples := rfl
      change deliver (⟨writer, counted, none⟩ : FileSink W) samples = _
      rw [deliver, hserve]
      rcases Writer.writeAll writer samples with ⟨_ | _, w⟩ <;> rfl
  | stopped =>
      have hserve : serve writer .stopped = Writer.flush writer := rfl
      change stopped (⟨writer, counted, none⟩ : FileSink W) = _
      rw [stopped, hserve, SinkEvent.samples, List.length_nil, hzero]
      rcases Writer.flush writer with ⟨_ | _, w⟩ <;> rfl

/-- **An event after an error** leaves all as it is, but that a stop still flushes. -/
lemma tell_of_error (hkept : s.error = some error) (event : SinkEvent) :
    SampleSink.tell s event = { s with writer := flushed ([event].count .stopped) s.writer } := by
  obtain ⟨writer, counted, kept⟩ := s
  obtain rfl : kept = some error := hkept
  cases event with
  | started format => rfl
  | deliver samples format => rfl
  | stopped =>
      change stopped (⟨writer, counted, some error⟩ : FileSink W) = _
      have hone : flushed ([SinkEvent.stopped].count .stopped) writer =
          (Writer.flush writer).2 := rfl
      rw [stopped, hone]
      rcases Writer.flush writer with ⟨_ | _, w⟩ <;> rfl

/-- The sink after events. -/
def told (s : FileSink W) (events : List SinkEvent) : FileSink W := events.foldl SampleSink.tell s

/-- After an error there is nothing but flushes. -/
lemma told_of_error (hkept : s.error = some error) (events : List SinkEvent) :
    s.told events = { s with writer := flushed (events.count .stopped) s.writer } := by
  induction events generalizing s with
  | nil => rfl
  | cons event rest ih =>
      have htell := tell_of_error hkept event
      have hcount : (event :: rest).count .stopped =
          rest.count .stopped + [event].count .stopped := by
        rw [← List.singleton_append, List.count_append, Nat.add_comm]
      have hrest := ih (s := SampleSink.tell s event) (by rw [htell, hkept])
      rw [told, List.foldl_cons, ← told, hrest, htell, hcount, flushed, flushed, flushed,
        Function.iterate_add_apply]

/-- As long as events are served, their samples are counted. -/
lemma told_of_serves {w : W} {events : List SinkEvent} (hclean : s.error = none)
    (h : Serves s.writer events w) :
    s.told events =
      ⟨w, s.bytesWritten + UInt64.ofNat (events.flatMap SinkEvent.samples).length, none⟩ := by
  obtain ⟨writer, counted, error⟩ := s
  obtain rfl : error = none := hclean
  dsimp only at h ⊢
  induction h generalizing counted with
  | done =>
      exact congrArg (fun counted => (⟨_, counted, none⟩ : FileSink W)) (UInt64.add_zero _).symm
  | @event writer _ _ event _ hserve _ ih =>
      have htell := tell_of_clean (s := (⟨writer, counted, none⟩ : FileSink W)) rfl event
      rw [told, List.foldl_cons, ← told, htell, hserve]
      dsimp only
      rw [ih, List.flatMap_cons, List.length_append, UInt64.ofNat_add, UInt64.add_assoc]

lemma told_append (s : FileSink W) (before after : List SinkEvent) :
    s.told (before ++ after) = (s.told before).told after := List.foldl_append

/-- The first failure is kept, and after it there is nothing but flushes. -/
lemma told_of_fails {before : List SinkEvent} {event : SinkEvent} {w w' : W}
    (hclean : s.error = none) (hserves : Serves s.writer before w)
    (hfails : serve w event = (.error error, w')) (after : List SinkEvent) :
    s.told (before ++ event :: after) = ⟨flushed (after.count .stopped) w',
      s.bytesWritten + UInt64.ofNat (before.flatMap SinkEvent.samples).length, some error⟩ := by
  have hevent := tell_of_clean (s := s.told before) (by rw [told_of_serves hclean hserves]) event
  rw [told_of_serves hclean hserves, hfails] at hevent
  rw [told_append, told_of_serves hclean hserves, told, List.foldl_cons, ← told, hevent]
  exact told_of_error rfl after

/-! ### What is asked of the writer -/

/-- The sink without the notes of its writer. -/
def unnoted (s : FileSink (Noted W)) : FileSink W := ⟨s.writer.writer, s.bytesWritten, s.error⟩

/-- Notes change nothing. -/
lemma unnoted_tell (s : FileSink (Noted W)) (event : SinkEvent) :
    (SampleSink.tell s event).unnoted = SampleSink.tell s.unnoted event := by
  cases hkept : s.error with
  | some error =>
      have hkept' : s.unnoted.error = some error := hkept
      rw [tell_of_error hkept, tell_of_error hkept']
      simp [unnoted, Noted.writer_flushed]
  | none =>
      have hkept' : s.unnoted.error = none := hkept
      have hwriter : s.unnoted.writer = s.writer.writer := rfl
      obtain ⟨hresult, hstate⟩ := Noted.serve_eq s.writer event
      rw [tell_of_clean hkept, tell_of_clean hkept', hwriter]
      rcases hserve : serve s.writer event with ⟨result, n⟩
      rcases hserve' : serve s.writer.writer event with ⟨result', w⟩
      rw [hserve, hserve'] at hresult hstate
      obtain rfl : result = result' := hresult
      obtain rfl : n.writer = w := hstate
      cases result <;> rfl

lemma unnoted_told (s : FileSink (Noted W)) (events : List SinkEvent) :
    (s.told events).unnoted = s.unnoted.told events := by
  induction events generalizing s with
  | nil => rfl
  | cons event rest ih =>
      have htell := unnoted_tell s event
      rw [told, List.foldl_cons, ← told, ih, htell]
      rfl

/-- What a sink has asked of its writer since the beginning. -/
def requests (w : W) (events : List SinkEvent) : List Writer.Request :=
  (told ({ writer := ⟨w, []⟩ } : FileSink (Noted W)) events).writer.requests

/-- After the first failure a sink asks for nothing but flushes. -/
lemma requests_of_fails {w w₁ w₂ : W} {before : List SinkEvent} {event : SinkEvent}
    (hserves : Serves w before w₁) (hfails : serve w₁ event = (.error error, w₂))
    (after : List SinkEvent) :
    requests w (before ++ event :: after) =
      requests w (before ++ [event]) ++ List.replicate (after.count .stopped) .flush := by
  let start : FileSink (Noted W) := { writer := ⟨w, []⟩ }
  have hkept : (start.told (before ++ [event])).error = some error := by
    have hunnoted := unnoted_told start (before ++ [event])
    rw [told_of_fails (s := start.unnoted) rfl hserves hfails []] at hunnoted
    exact congrArg FileSink.error hunnoted
  rw [requests, List.append_cons, told_append, told_of_error hkept]
  exact Noted.requests_flushed _ _

/-! ### With and without a failure -/

/-- **Nothing has failed**: the samples of all events are in the writer, and they have been
counted. -/
structure Intact (w : W) (events : List SinkEvent) (s : FileSink W) : Prop where
  serves : Serves w events s.writer
  contents : Writer.contents s.writer =
    Writer.contents w ++ events.flatMap SinkEvent.samples
  counted : s.bytesWritten = UInt64.ofNat (events.flatMap SinkEvent.samples).length
  kept : s.error = none

/-- **An event has failed**, after others that were served: the samples of those are in the writer
and have been counted, a prefix of its own samples is behind them, and its error is kept.  Since
then the writer has only been flushed, once at every stop. -/
structure Broken (w : W) (before : List SinkEvent) (event : SinkEvent) (after : List SinkEvent)
    (error : WriteError) (s : FileSink W) : Prop where
  fails : ∃ w₁ w₂, Serves w before w₁ ∧ serve w₁ event = (.error error, w₂)
  contents : ∃ taken, taken <+: event.samples ∧ Writer.contents s.writer =
    Writer.contents w ++ before.flatMap SinkEvent.samples ++ taken
  counted : s.bytesWritten = UInt64.ofNat (before.flatMap SinkEvent.samples).length
  kept : s.error = some error
  requests : requests w (before ++ event :: after) =
    requests w (before ++ [event]) ++ List.replicate (after.count .stopped) .flush

/-- Without an error, a report flushes and gives the number or the error of this flush. -/
lemma finish_of_clean (hclean : s.error = none) :
    s.finish = ((Writer.flush s.writer).1.map fun _ => s.bytesWritten,
      { s with writer := (Writer.flush s.writer).2 }) := by
  obtain ⟨writer, counted, error⟩ := s
  obtain rfl : error = none := hclean
  dsimp only [finish]
  rcases Writer.flush writer with ⟨error | _, w⟩ <;> rfl

/-- An error that is kept is reported, and nothing else happens. -/
lemma finish_of_error (hkept : s.error = some error) :
    s.finish = (.error error, { s with error := none }) := by
  rw [finish, hkept]

/-- As long as nothing has failed, all is as it should be. -/
lemma intact_of_serves {w w' : W} {events : List SinkEvent} (h : Serves w events w') :
    Intact w events (told { writer := w } events) := by
  have htold := told_of_serves (s := { writer := w }) rfl h
  rw [UInt64.zero_add] at htold
  rw [htold]
  exact ⟨h, h.contents_eq, rfl, rfl⟩

/-- Once something has failed, all is as it was before, but for a part of a buffer. -/
lemma broken_of_fails {w w₁ w₂ : W} {before : List SinkEvent} {event : SinkEvent}
    (hserves : Serves w before w₁) (hfails : serve w₁ event = (.error error, w₂))
    (after : List SinkEvent) :
    Broken w before event after error (told { writer := w } (before ++ event :: after)) := by
  have htold := told_of_fails (s := { writer := w }) rfl hserves hfails after
  rw [UInt64.zero_add] at htold
  rw [htold]
  obtain ⟨taken, hprefix, hcontents, -⟩ := Writer.taken_serve w₁ event
  rw [hfails, hserves.contents_eq] at hcontents
  exact ⟨⟨w₁, w₂, hserves, hfails⟩,
    ⟨taken, hprefix, (Writer.contents_flushed _ w₂).trans hcontents⟩, rfl, rfl,
    requests_of_fails hserves hfails after⟩

/-- **The first failure** of a sink that has been told of any events and has not reported yet.  If
there is none, all samples are in the writer, and the report flushes and gives their number or the
error of this flush.  If there is one, a write or a flush, the samples before it are in the writer
and counted, nothing has been written after it, and the report gives its error.  (The requests are
those of the same sink over a writer with notes, which does all the same.) -/
theorem first_failure (w : W) (events : List SinkEvent) :
    let s := told ({ writer := w } : FileSink W) events
    (Intact w events s ∧ s.finish = ((Writer.flush s.writer).1.map fun _ => s.bytesWritten,
        { s with writer := (Writer.flush s.writer).2 }) ∨
      ∃ before event after error, events = before ++ event :: after ∧
        Broken w before event after error s ∧ s.finish = (.error error, { s with error := none })) ∧
    (told ({ writer := ⟨w, []⟩ } : FileSink (Noted W)) events).unnoted = s := by
  refine ⟨?_, unnoted_told _ events⟩
  rcases Writer.serves_or_fails w events with ⟨w', hserves⟩ |
    ⟨before, event, after, error, w₁, w₂, rfl, hserves, hfails⟩
  · have hintact := intact_of_serves hserves
    exact Or.inl ⟨hintact, finish_of_clean hintact.kept⟩
  · have hbroken := broken_of_fails hserves hfails after
    exact Or.inr ⟨before, event, after, error, rfl, hbroken, finish_of_error hbroken.kept⟩

end FileSink

end LogicCapture
