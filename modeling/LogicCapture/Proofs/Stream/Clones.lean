/-
The completion handler of a stream and its clones: what they make of any completions, with the flag
that they share written from outside in between.

* `Stimulus`, `flagAfter`: what happens to the clones, and what it leaves in the flag;
* `Clones`, `Clones.run`: the clones, each with what it has captured, are told of completions and
  answer them;
* `Arrival`, `arrivals`: the completions, each with the flag as it was on its arrival;
* `Conducted`: the sink has been given what has been taken, the counters have grown, and the answers
  are those to the arrivals; `Conducted.cons` is one completion of these;
* `Clones.conducted_of_run`: so it is after all that can happen, whichever clones are told.
-/
import LogicCapture.Proofs.Stream.Intake
import Mathlib.Logic.Function.Basic

namespace LogicCapture

/-- A transfer that ends like this has failed. -/
def TransferStatus.isFailure : TransferStatus → Bool
  | error | stall | overflow | noDevice => true
  | completed | timedOut | cancelled => false

namespace Streaming

variable {ι S : Type}

/-! ### What happens to the clones -/

/-- What can happen to the clones of a handler. -/
inductive Stimulus (ι : Type) where
  /-- This one is told of a completion. -/
  | told (clone : ι) (completion : Completion)
  /-- The flag is written from outside. -/
  | write (running : Bool)

/-- The same for a handler without clones. -/
def Stimulus.unaddressed : Stimulus ι → Stimulus Unit
  | told _ completion => told () completion
  | write running => write running

/-- What is written to the flag: a handler only ever notes there that the device is gone. -/
def Stimulus.written? : Stimulus ι → Option Bool
  | told _ completion => if completion.status = .noDevice then some false else none
  | write running => some running

/-- The flag holds what has been written last. -/
def flagAfter (running : Bool) (stimuli : List (Stimulus ι)) : Bool :=
  (stimuli.filterMap Stimulus.written?).getLastD running

/-- A completion, and the flag as it was on its arrival. -/
structure Arrival where
  running : Bool
  completion : Completion

/-- A completion arrives under the flag that is set at the time. -/
def Stimulus.arrival? (running : Bool) : Stimulus ι → Option Arrival
  | told _ completion => some ⟨running, completion⟩
  | write _ => none

/-- The completions that arrive, whichever clones are told of them. -/
def arrivals (running : Bool) : List (Stimulus ι) → List Arrival
  | [] => []
  | stimulus :: rest =>
    (stimulus.arrival? running).toList ++ arrivals (flagAfter running [stimulus]) rest

lemma flagAfter_cons (running : Bool) (stimulus : Stimulus ι) (rest : List (Stimulus ι)) :
    flagAfter running (stimulus :: rest) = flagAfter (flagAfter running [stimulus]) rest := by
  cases h : stimulus.written? with
  | none => simp [flagAfter, h]
  | some written =>
      have hone : flagAfter running [stimulus] = written := by simp [flagAfter, h]
      rw [flagAfter, List.filterMap_cons_some h, List.getLastD_cons, hone, flagAfter]

namespace Arrival

/-- What a completion brings, if it is taken: it has to be a normal one, and the flag set. -/
def taken? (a : Arrival) : Option Bytes :=
  if a.running = true ∧ a.completion.status = .completed then some a.completion.data else none

/-- A completion is to be followed by another one of the same transfer. -/
def Recurs (a : Arrival) : Prop :=
  a.running = true ∧ (a.completion.status = .completed ∨ a.completion.status = .timedOut)

instance (a : Arrival) : Decidable a.Recurs := inferInstanceAs (Decidable (_ ∧ _))

/-- The answer to a completion. -/
def answer (a : Arrival) : Rearm := if a.Recurs then .resubmit else .release

end Arrival

/-! ### The clones -/

/-- Clones of the handler of a stream. -/
structure Clones (ι S : Type) where
  /-- What each of them has captured. -/
  captured : ι → StreamFormat
  /-- What they share. -/
  feed : Feed S

namespace Clones

/-- Clones that nothing has happened to yet. -/
def of (format : StreamFormat) (feed : Feed S) : Clones ι S := ⟨fun _ => format, feed⟩

variable [DecidableEq ι] [SampleSink S]

/-- A clone is told of a completion and answers, or the flag is written. -/
def step (h : Clones ι S) : Stimulus ι → Option Rearm × Clones ι S
  | .told clone completion =>
    let (rearm, captured, feed) := Consumer.consume (h.captured clone) completion h.feed
    (some rearm, ⟨Function.update h.captured clone captured, feed⟩)
  | .write running => (none, { h with feed := { h.feed with running } })

/-- The answers to all that happens, and the clones after it. -/
def run (h : Clones ι S) : List (Stimulus ι) → List Rearm × Clones ι S
  | [] => ([], h)
  | stimulus :: rest =>
    let (answer, h) := h.step stimulus
    let (answers, h) := h.run rest
    (answer.toList ++ answers, h)

end Clones

variable [SampleSink S] {format : StreamFormat} {opened feed : Feed S}

/-- **Completions have been handled**: the sink has been given the data of those that have been
taken, in their order; transfers, bytes and failures have been counted, modulo `2 ^ 64`; and each
has been answered. -/
structure Conducted (format : StreamFormat) (opened : Feed S) (arrived : List Arrival)
    (answers : List Rearm) (feed : Feed S) : Prop where
  sink : feed.sink = passOn format opened.sink (arrived.filterMap Arrival.taken?)
  transfers : feed.stats.transfers =
    opened.stats.transfers + UInt64.ofNat (arrived.filterMap Arrival.taken?).length
  bytes : feed.stats.bytes =
    opened.stats.bytes + UInt64.ofNat (arrived.filterMap Arrival.taken?).flatten.length
  errors : feed.stats.errors =
    opened.stats.errors + UInt64.ofNat (arrived.countP fun a => a.completion.status.isFailure)
  answers : answers = arrived.map Arrival.answer

lemma Conducted.nil (format : StreamFormat) (feed : Feed S) : Conducted format feed [] [] feed where
  sink := rfl
  transfers := (UInt64.add_zero _).symm
  bytes := (UInt64.add_zero _).symm
  errors := (UInt64.add_zero _).symm
  answers := rfl

/-! ### One completion -/

/-- The flag after a completion. -/
lemma running_completed (feed : Feed S) (format : StreamFormat) (clone : ι) (c : Completion) :
    (feed.complete format c).2.running = flagAfter feed.running [.told clone c] := by
  obtain ⟨status, data⟩ := c
  cases status <;> cases h : feed.running <;>
    simp [Feed.complete, Feed.accept, Feed.reject, flagAfter, Stimulus.written?, h]

/-- The answer to a completion. -/
lemma answer_completed (feed : Feed S) (format : StreamFormat) (c : Completion) :
    (feed.complete format c).1 = Arrival.answer ⟨feed.running, c⟩ := by
  obtain ⟨status, data⟩ := c
  cases status <;> simp [Feed.complete, Feed.verdict, Arrival.answer, Arrival.Recurs]

lemma passOn_cons (format : StreamFormat) (sink : S) (piece : Bytes) (pieces : List Bytes) :
    passOn format sink (piece :: pieces) =
      passOn format (if piece.isEmpty then sink else SampleSink.deliver sink piece format)
        pieces := by
  cases h : piece.isEmpty <;> simp [passOn, h]

variable {a : Arrival} {data : Bytes} {arrived : List Arrival} {answers : List Rearm}
  {opened' : Feed S}

/-- Data is taken before all the others. -/
lemma Conducted.take (h : Conducted format (opened.accept data format) arrived answers feed)
    (htaken : a.taken? = some data) (hfailure : a.completion.status.isFailure = false) :
    Conducted format opened (a :: arrived) (a.answer :: answers) feed where
  sink := by
    rw [List.filterMap_cons_some htaken, passOn_cons, h.sink]
    rfl
  transfers := calc feed.stats.transfers
    _ = opened.stats.transfers + 1 + UInt64.ofNat (arrived.filterMap Arrival.taken?).length :=
        h.transfers
    _ = opened.stats.transfers + UInt64.ofNat (1 + (arrived.filterMap Arrival.taken?).length) := by
        rw [UInt64.ofNat_add, ← UInt64.add_assoc]
        rfl
    _ = opened.stats.transfers + UInt64.ofNat ((a :: arrived).filterMap Arrival.taken?).length := by
        rw [List.filterMap_cons_some htaken, List.length_cons, Nat.add_comm]
  bytes := calc feed.stats.bytes
    _ = opened.stats.bytes + UInt64.ofNat data.length +
          UInt64.ofNat (arrived.filterMap Arrival.taken?).flatten.length := h.bytes
    _ = opened.stats.bytes +
          UInt64.ofNat ((a :: arrived).filterMap Arrival.taken?).flatten.length := by
        rw [List.filterMap_cons_some htaken, List.flatten_cons, List.length_append,
          UInt64.ofNat_add, UInt64.add_assoc]
  errors := by
    rw [List.countP_cons_of_neg (by simp [hfailure]), h.errors]
    rfl
  answers := by rw [h.answers, List.map_cons]

/-- Nothing is taken; there may be one failure more. -/
lemma Conducted.skip (h : Conducted format opened' arrived answers feed) (htaken : a.taken? = none)
    (hsink : opened'.sink = opened.sink)
    (htransfers : opened'.stats.transfers = opened.stats.transfers)
    (hbytes : opened'.stats.bytes = opened.stats.bytes)
    (herrors : opened'.stats.errors =
      opened.stats.errors + if a.completion.status.isFailure then 1 else 0) :
    Conducted format opened (a :: arrived) (a.answer :: answers) feed where
  sink := by rw [List.filterMap_cons_none htaken, h.sink, hsink]
  transfers := by rw [List.filterMap_cons_none htaken, h.transfers, htransfers]
  bytes := by rw [List.filterMap_cons_none htaken, h.bytes, hbytes]
  errors := by
    rw [h.errors, herrors, List.countP_cons, Nat.add_comm, UInt64.ofNat_add, ← UInt64.add_assoc]
    cases a.completion.status.isFailure <;> rfl
  answers := by rw [h.answers, List.map_cons]

/-- **One completion is handled** before all the others. -/
theorem Conducted.cons {c : Completion}
    (h : Conducted format (opened.complete format c).2 arrived answers feed) :
    Conducted format opened (⟨opened.running, c⟩ :: arrived)
      ((opened.complete format c).1 :: answers) feed := by
  rw [answer_completed]
  obtain ⟨status, data⟩ := c
  cases status
  case completed =>
    cases hrunning : opened.running with
    | true =>
        have hcomplete :
            (opened.complete format ⟨.completed, data⟩).2 = opened.accept data format := by
          simp [Feed.complete, hrunning]
        rw [hcomplete] at h
        exact h.take rfl rfl
    | false =>
        have hcomplete : (opened.complete format ⟨.completed, data⟩).2 = opened := by
          simp [Feed.complete, hrunning]
        rw [hcomplete] at h
        exact h.skip rfl rfl rfl rfl (UInt64.add_zero _).symm
  case timedOut | cancelled =>
    exact h.skip (by simp [Arrival.taken?]) rfl rfl rfl (UInt64.add_zero _).symm
  case noDevice | error | stall | overflow =>
    exact h.skip (by simp [Arrival.taken?]) rfl rfl rfl rfl

/-! ### Runs -/

namespace Clones

variable [DecidableEq ι]

/-- A clone that is told of a completion is like the others afterwards. -/
lemma step_told (format : StreamFormat) (feed : Feed S) (clone : ι) (c : Completion) :
    (of format feed).step (.told clone c) =
      (some (feed.complete format c).1, of format (feed.complete format c).2) := by
  have hcaptured : Function.update (fun _ : ι => format) clone format = fun _ => format :=
    Function.update_eq_self clone fun _ => format
  exact congrArg (fun captured => (some (feed.complete format c).1,
    (⟨captured, (feed.complete format c).2⟩ : Clones ι S))) hcaptured

/-- Writing the flag changes nothing else. -/
lemma step_write (format : StreamFormat) (feed : Feed S) (running : Bool) :
    (of format feed : Clones ι S).step (.write running) =
      (none, of format { feed with running }) := rfl

/-- Another handler without clones is in step with all of them. -/
lemma run_unaddressed (format : StreamFormat) (stimuli : List (Stimulus ι)) (feed : Feed S) :
    ((of format feed : Clones Unit S).run (stimuli.map Stimulus.unaddressed)).1 =
        ((of format feed).run stimuli).1 ∧
      ((of format feed : Clones Unit S).run (stimuli.map Stimulus.unaddressed)).2.feed =
        ((of format feed).run stimuli).2.feed := by
  induction stimuli generalizing feed with
  | nil => exact ⟨rfl, rfl⟩
  | cons stimulus rest ih =>
      cases stimulus with
      | told clone c =>
          simp only [List.map_cons, Stimulus.unaddressed, run, step_told]
          exact ⟨congrArg _ (ih _).1, (ih _).2⟩
      | write running =>
          simp only [List.map_cons, Stimulus.unaddressed, run, step_write]
          exact ⟨congrArg _ (ih _).1, (ih _).2⟩

/-- The flag is what has been written to it last. -/
lemma running_run (format : StreamFormat) (opened : Feed S) (stimuli : List (Stimulus ι)) :
    ((of format opened).run stimuli).2.feed.running = flagAfter opened.running stimuli := by
  induction stimuli generalizing opened with
  | nil => rfl
  | cons stimulus rest ih =>
      rw [flagAfter_cons]
      cases stimulus with
      | told clone c =>
          rw [← running_completed opened format clone c, run, step_told]
          exact ih _
      | write running =>
          rw [run, step_write]
          exact ih _

/-- All that arrives is handled. -/
lemma conducted_run (format : StreamFormat) (opened : Feed S) (stimuli : List (Stimulus ι)) :
    Conducted format opened (arrivals opened.running stimuli) ((of format opened).run stimuli).1
      ((of format opened).run stimuli).2.feed := by
  induction stimuli generalizing opened with
  | nil => exact .nil format opened
  | cons stimulus rest ih =>
      rw [arrivals]
      cases stimulus with
      | told clone c =>
          rw [← running_completed opened format clone c, run, step_told]
          exact (ih _).cons
      | write running =>
          rw [run, step_write]
          obtain ⟨hsink, htransfers, hbytes, herrors, hanswers⟩ := ih { opened with running }
          exact ⟨hsink, htransfers, hbytes, herrors, hanswers⟩

/-- **The clones of a handler**, told of any completions in turn, with the flag written from outside
in between: the sink is given the data of those, and only those, that are normal and not empty and
arrive while the flag is set, in order and with the format of the handler.  Transfers and bytes are
counted of those that are normal and arrive while it is set, failures always.  A transfer is to be
submitted again exactly if it has completed or timed out and the flag is set.  The flag is what has
been written to it last, from outside or by a handler that the device is gone.  All of this is as if
one handler had been told of everything. -/
theorem conducted_of_run (format : StreamFormat) (opened : Feed S) (stimuli : List (Stimulus ι)) :
    Conducted format opened (arrivals opened.running stimuli) ((of format opened).run stimuli).1
        ((of format opened).run stimuli).2.feed ∧
      ((of format opened).run stimuli).2.feed.running = flagAfter opened.running stimuli ∧
      ((of format opened : Clones Unit S).run (stimuli.map Stimulus.unaddressed)).1 =
        ((of format opened).run stimuli).1 ∧
      ((of format opened : Clones Unit S).run (stimuli.map Stimulus.unaddressed)).2.feed =
        ((of format opened).run stimuli).2.feed :=
  ⟨conducted_run format opened stimuli, running_run format opened stimuli,
    run_unaddressed format stimuli opened⟩

end Clones

end Streaming

end LogicCapture
