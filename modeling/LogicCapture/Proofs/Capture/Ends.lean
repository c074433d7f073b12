/-
How captures end.

* `Capture.Ends`: what a capture comes to (`Capture.ends_of_run`);
* `Capture.streamUntil_isSome`, `Capture.run_isSome`: over a link, captures come to an end;
* `Capture.Orderly`: the acquisition is cancelled before the transfers are given back and the sink
  reports;
* `Capture.orderly_iff`: a capture whose acquisition has been set going ends in this way exactly if
  the clock can express its deadline.
-/
import LogicCapture.Capture
import LogicCapture.Proofs.Link.Halts
import LogicCapture.Proofs.Link.Returns
import LogicCapture.Timespan.Seconds

namespace LogicCapture

open Analyzer (Plugged)
open HostStack (Call)

namespace Capture

section
variable {τ S W : Type} [Transport τ (Handler StreamFormat)]

/-! ### What captures come to -/

/-- The analyzer after so many event passes. -/
def passed [SampleSink S] : Nat → Analyzer τ S → Analyzer τ S
  | 0, a => a
  | passes + 1, a => passed passes (a.poll passMs).2

/-- Streaming is a number of event passes, however it ends. -/
lemma passed_of_streamUntil [SampleSink S] {clock : Clock} {deadline fuel reading : Nat}
    {a b : Analyzer τ S} {result : Except Interruption Unit}
    (h : streamUntil clock deadline fuel reading a = some (result, b)) :
    ∃ passes, b = passed passes a := by
  induction fuel generalizing reading a with
  | zero => cases h
  | succ fuel ih =>
      rw [streamUntil] at h
      split at h
      · cases h
        exact ⟨0, rfl⟩
      · split at h
        · cases h
          exact ⟨0, rfl⟩
        · split at h
          · rename_i hpoll
            cases h
            exact ⟨1, (congrArg Prod.snd hpoll).symm⟩
          · rename_i hpoll
            obtain ⟨passes, rfl⟩ := ih h
            exact ⟨passes + 1, by rw [passed, hpoll]⟩

variable [Writer W]

/-- The acquisition is set going: there are transfers, and the device streams. -/
def Acquires (a started : Analyzer τ (Option (FileSink W))) : Prop :=
  ∃ allocated, a.allocateTransfers = (.ok (), allocated) ∧
    allocated.acquire = some (.ok (), started)

/-- The clock can express the deadline. -/
def Expressible (clock : Clock) (duration : Timespan) : Prop :=
  clock 0 + duration.nanoseconds < clockLimit

/-- **What a capture comes to.** -/
inductive Ends (clock : Clock) (duration : Timespan) (a : Analyzer τ (Option (FileSink W))) :
    Ending → Analyzer τ (Option (FileSink W)) → Prop where
  /-- There are no transfers. -/
  | unallocated {error b} : a.allocateTransfers = (.error error, b) →
      Ends clock duration a (.unallocated error) b.teardown
  /-- The acquisition does not begin. -/
  | unstarted {b c error} : a.allocateTransfers = (.ok (), b) →
      b.acquire = some (.error error, c) → Ends clock duration a (.unstarted error) c.teardown
  /-- The clock cannot express the deadline, and the acquisition goes on. -/
  | beyond {started} : Acquires a started → ¬ Expressible clock duration →
      Ends clock duration a .deadlineBeyondClock started.teardown
  /-- Samples are streamed, and then the acquisition is cancelled. -/
  | streamed {started result passes answer stopped} : Acquires a started →
      Expressible clock duration → (passed passes started).cancel = some (answer, stopped) →
      Ends clock duration a (.streamed result (finish stopped.teardown).1)
        (finish stopped.teardown).2

lemma ends_of_run {clock : Clock} {duration : Timespan} {a b : Analyzer τ (Option (FileSink W))}
    {ending : Ending} (h : run clock duration a = some (ending, b)) :
    Ends clock duration a ending b := by
  rw [run] at h
  split at h
  · rename_i hallocate
    cases h
    exact .unallocated hallocate
  · rename_i allocated hallocate
    simp only [Option.bind_eq_bind, Option.bind_eq_some_iff, Prod.exists] at h
    obtain ⟨result, started, hacquire, hrest⟩ := h
    cases result with
    | error error =>
        cases hrest
        exact .unstarted hallocate hacquire
    | ok _ =>
        have hacquires : Acquires a started := ⟨allocated, hallocate, hacquire⟩
        dsimp only at hrest
        split at hrest
        · rename_i hbeyond
          cases hrest
          exact .beyond hacquires (Nat.not_lt.mpr hbeyond)
        · rename_i hwithin
          simp only [Option.bind_eq_some_iff, Prod.exists] at hrest
          obtain ⟨interruption, last, hstream, answer, stopped, hcancel, hend⟩ := hrest
          obtain ⟨passes, rfl⟩ := passed_of_streamUntil hstream
          cases hend
          exact .streamed hacquires (Nat.not_le.mp hwithin) hcancel

/-- An acquisition begins in one way. -/
lemma Acquires.unique {a started started' : Analyzer τ (Option (FileSink W))}
    (h : Acquires a started) (h' : Acquires a started') : started' = started := by
  obtain ⟨allocated, hallocate, hacquire⟩ := h
  obtain ⟨allocated', hallocate', hacquire'⟩ := h'
  obtain ⟨-, rfl⟩ := Prod.mk.inj (hallocate.symm.trans hallocate')
  exact (Prod.mk.inj (Option.some.inj (hacquire'.symm.trans hacquire))).2

/-- A capture that has been set going ends at once if the clock cannot express its deadline. -/
lemma run_of_beyond {clock : Clock} {duration : Timespan}
    {a started : Analyzer τ (Option (FileSink W))} (h : Acquires a started)
    (hbeyond : ¬ Expressible clock duration) :
    run clock duration a = some (.deadlineBeyondClock, started.teardown) := by
  obtain ⟨allocated, hallocate, hacquire⟩ := h
  rw [run, hallocate]
  dsimp only
  rw [hacquire, Option.bind_eq_bind, Option.bind_some]
  exact if_pos (Nat.not_lt.mp hbeyond)

/-- **The acquisition is cancelled** after some event passes, and only then are the transfers given
back and does the sink report. -/
def Orderly (started : Analyzer τ (Option (FileSink W))) (ending : Ending)
    (b : Analyzer τ (Option (FileSink W))) : Prop :=
  ∃ passes answer stopped result, (passed passes started).cancel = some (answer, stopped) ∧
    ending = .streamed result (finish stopped.teardown).1 ∧ b = (finish stopped.teardown).2

end

/-! ### Captures over a link -/

section
variable {S W : Type}

/-- What a single event pass keeps, any number of them keeps. -/
lemma passed_induction [SampleSink S] {I : Plugged S → Prop}
    (hpoll : ∀ {a}, I a → I (a.poll passMs).2) {a : Plugged S} (passes : Nat) (ha : I a) :
    I (passed passes a) := by
  induction passes generalizing a with
  | zero => exact ha
  | succ passes ih => exact ih (hpoll ha)

/-- **Streaming over a link comes to an end**, whatever the clock shows. -/
theorem streamUntil_isSome [SampleSink S] {a : Plugged S} (h : a.Alert) (clock : Clock)
    (deadline : Nat) {fuel : Nat} (reading : Nat)
    (hfuel : a.session.transport.stack.slack < fuel) :
    (streamUntil clock deadline fuel reading a).isSome = true := by
  induction fuel generalizing reading a with
  | zero => exact absurd hfuel (Nat.not_lt_zero _)
  | succ fuel ih =>
      rw [streamUntil]
      split
      · rfl
      · split
        · rfl
        · have hafter := Analyzer.stable_alert.poll passMs h
          split
          · rfl
          · rename_i hpoll
            have hless := Analyzer.slack_poll h hpoll
            rw [hpoll] at hafter
            exact ih hafter _ (Nat.lt_of_lt_of_le hless (Nat.le_of_lt_succ hfuel))

variable [Writer W] {a started b : Plugged (Option (FileSink W))}

/-- **A capture over a link comes to an end**, whatever the device, the clock and the file do. -/
theorem run_isSome (h : a.Alert) (clock : Clock) (duration : Timespan) :
    (run clock duration a).isSome = true := by
  have hallocated : a.allocateTransfers.2.Alert := Analyzer.stable_alert.allocate h
  rw [run]
  split
  · rfl
  · rename_i allocated hallocate
    rw [hallocate] at hallocated
    obtain ⟨⟨result, started⟩, hacquire⟩ :=
      Option.isSome_iff_exists.mp (Analyzer.acquire_isSome hallocated)
    have hstarted := Analyzer.stable_alert.acquire hallocated hacquire
    rw [hacquire, Option.bind_eq_bind, Option.bind_some]
    cases result with
    | error error => rfl
    | ok _ =>
        dsimp only
        split
        · rfl
        · have hpatience : started.session.transport.stack.slack < patience started :=
            Nat.lt_succ_of_lt (DeviceLink.slack_lt_patience _)
          obtain ⟨⟨interruption, last⟩, hstream⟩ := Option.isSome_iff_exists.mp
            (streamUntil_isSome hstarted clock (clock 0 + duration.nanoseconds) 1 hpatience)
          obtain ⟨passes, rfl⟩ := passed_of_streamUntil hstream
          have hlast := passed_induction (Analyzer.stable_alert.poll passMs) passes hstarted
          obtain ⟨⟨answer, stopped⟩, hcancel⟩ :=
            Option.isSome_iff_exists.mp (Analyzer.cancel_isSome hlast)
          rw [hstream, Option.bind_eq_bind, Option.bind_some]
          dsimp only
          rw [hcancel]
          rfl

lemma Acquires.alert (h : Acquires a started) (ha : a.Alert) : started.Alert := by
  obtain ⟨allocated, hallocate, hacquire⟩ := h
  have hallocated := Analyzer.stable_alert.allocate ha
  rw [hallocate] at hallocated
  exact Analyzer.stable_alert.acquire hallocated hacquire

/-- What the sink reports is of no concern to the transport. -/
lemma transport_finish (a : Plugged (Option (FileSink W))) :
    (finish a).2.session.transport = a.session.transport := by
  rw [finish]
  split <;> rfl

/-- Event passes only add to the list of calls. -/
lemma begins_passed [SampleSink S] {a : Plugged S} {base : List Call} (passes : Nat)
    (h : base <+: a.session.transport.stack.calls) :
    base <+: (passed passes a).session.transport.stack.calls :=
  passed_induction (I := fun a : Plugged S => base <+: a.session.transport.stack.calls)
    ((Analyzer.stable_begins base).poll passMs) passes h

/-- **An orderly end gives the streaming interface back.** -/
lemma begins_of_orderly {ending : Ending} (h : Orderly started ending b) :
    ∃ before code, started.session.transport.stack.calls ++ before ++
      [.release Protocol.streamingInterface code] <+: b.session.transport.stack.calls := by
  obtain ⟨passes, answer, stopped, result, hcancel, -, rfl⟩ := h
  obtain ⟨polled, hpolled⟩ := begins_passed (a := started) passes List.prefix_rfl
  obtain ⟨before, code, hreleased⟩ := Analyzer.begins_of_cancel hcancel
  rw [← hpolled, List.append_assoc _ polled] at hreleased
  refine ⟨polled ++ before, code, ?_⟩
  rw [transport_finish]
  exact (Analyzer.stable_begins _).teardown hreleased

/-- **An end beyond the clock halts nothing.** -/
lemma unhalted_teardown (h : started.Alert) :
    started.teardown.session.transport.Unhalted started.session.transport.stack.calls :=
  (DeviceLink.spared_unhalted _).teardown (.refl h.alert)

/-- **A capture whose acquisition has been set going** comes to an end, and this end is orderly
exactly if the clock can express its deadline.  Otherwise the streaming interface is not given back
and no command is submitted any more. -/
theorem orderly_iff {script : List HostStack.Cue} {vendor product : UInt16}
    {link : DeviceLink (Handler StreamFormat)} {settings : AcquisitionSettings}
    {sink : Option (FileSink W)} {clock : Clock} {duration : Timespan}
    (hopen : DeviceLink.connect (script.foldl HostStack.cue {}) vendor product = .ok link)
    (hacquires : Acquires (.new link settings sink) started) :
    ∃ ending b more, run clock duration (.new link settings sink) = some (ending, b) ∧
      b.session.transport.stack.calls = started.session.transport.stack.calls ++ more ∧
      (Orderly started ending b ↔ Expressible clock duration) ∧
      ((∃ code, .release Protocol.streamingInterface code ∈ more) ↔
        Expressible clock duration) ∧
      ((∃ call ∈ more, call.isHalting = true) ↔ Expressible clock duration) ∧
      (ending = .deadlineBeyondClock ↔ ¬ Expressible clock duration) := by
  have hnew := Analyzer.alert_new settings sink hopen
  have hstarted := hacquires.alert hnew
  obtain ⟨⟨ending, b⟩, hrun⟩ := Option.isSome_iff_exists.mp (run_isSome hnew clock duration)
  cases ends_of_run hrun with
  | unallocated hno =>
      obtain ⟨allocated, hallocate, -⟩ := hacquires
      cases hallocate.symm.trans hno
  | unstarted hallocate' hno =>
      obtain ⟨allocated, hallocate, hacquire⟩ := hacquires
      cases hallocate.symm.trans hallocate'
      cases hacquire.symm.trans hno
  | beyond hacquires' hbeyond =>
      cases hacquires.unique hacquires'
      obtain ⟨more, hmore, hquiet⟩ := (unhalted_teardown hstarted).since
      have hnone : ¬ ∃ call ∈ more, call.isHalting = true := by
        rintro ⟨call, hcall, hhalts⟩
        rw [hquiet call hcall] at hhalts
        cases hhalts
      refine ⟨_, _, more, hrun, hmore, ?_, ?_, ?_, ?_⟩
      · simp only [hbeyond, iff_false]
        rintro ⟨passes, answer, stopped, result, -, hno, -⟩
        cases hno
      · simp only [hbeyond, iff_false]
        exact fun ⟨code, hcode⟩ => hnone ⟨_, hcode, rfl⟩
      · simp only [hbeyond, iff_false]
        exact hnone
      · simp [hbeyond]
  | @streamed started' result passes answer stopped hacquires' hwithin hcancel =>
      cases hacquires.unique hacquires'
      have horderly : Orderly started (.streamed result (finish stopped.teardown).1)
          (finish stopped.teardown).2 := ⟨passes, answer, stopped, result, hcancel, rfl, rfl⟩
      obtain ⟨before, code, after, hafter⟩ := begins_of_orderly horderly
      refine ⟨_, _, before ++ .release Protocol.streamingInterface code :: after, hrun,
        by simp [← hafter], ?_, ?_, ?_, ?_⟩
      · exact iff_of_true horderly hwithin
      · exact iff_of_true ⟨code, by simp⟩ hwithin
      · exact iff_of_true ⟨.release Protocol.streamingInterface code, by simp, rfl⟩ hwithin
      · exact iff_of_false (by simp) (not_not.mpr hwithin)

end

/-- A script with one device, which agrees to be configured. -/
def agreeing : List HostStack.Cue :=
  [.device 1 2, .control (some { status := 0 }),
    .control (some { status := 0, data := [64, 66, 15, 0, 0, 0, 0, 0, 0x82] })]

/-- The link to that device, just opened. -/
def agreeingLink : DeviceLink (Handler StreamFormat) where
  stack := {
    devices := [(1, 2)]
    controlReplies := [some { status := 0 },
      some { status := 0, data := [64, 66, 15, 0, 0, 0, 0, 0, 0x82] }]
    calls := DeviceLink.openCalls {} 1 2 }

lemma connect_agreeing :
    DeviceLink.connect (agreeing.foldl HostStack.cue {}) 1 2 = .ok agreeingLink := rfl

/-- A new analyzer with a single transfer on this link; its samples go nowhere. -/
def onAgreeing : Plugged (Option (FileSink FileContents)) :=
  .new agreeingLink { transferPoolSize := 1, transferBufferSize := 2 } none

lemma acquires_onAgreeing : ∃ started, Acquires onAgreeing started := by
  have hallocate : onAgreeing.allocateTransfers.1 = .ok () := by decide +kernel
  have hacquire : onAgreeing.allocateTransfers.2.acquire.map (·.1) = some (.ok ()) := by
    decide +kernel
  obtain ⟨⟨result, started⟩, hstarted, rfl⟩ := Option.map_eq_some_iff.mp hacquire
  exact ⟨started, _, Prod.ext hallocate rfl, hstarted⟩

/-- A clock that shows a tenth of a second more at each reading. -/
def tenths : Clock := fun reading => reading * 100000000

theorem orderly_halfSecond : ∃ started ending b, Acquires onAgreeing started ∧
    run tenths (.ofMillis 500) onAgreeing = some (ending, b) ∧ Orderly started ending b := by
  obtain ⟨started, hacquires⟩ := acquires_onAgreeing
  have hwithin : Expressible tenths (.ofMillis 500) := by
    unfold Expressible
    decide
  obtain ⟨ending, b, -, hrun, -, horderly, -⟩ :=
    @orderly_iff _ _ started agreeing 1 2 agreeingLink _ none tenths (.ofMillis 500)
      connect_agreeing hacquires
  exact ⟨started, ending, b, hacquires, hrun, horderly.mpr hwithin⟩

/-- **A capture that does not end orderly**: ten quintillion seconds are accepted as a length of
time, and take the deadline beyond the clock. -/
theorem not_orderly_tenQuintillion : ∃ duration started b more,
    Timespan.ofSeconds (.finite false 19073486328125 19) = .ok duration ∧
    DeviceLink.connect (agreeing.foldl HostStack.cue {}) 1 2 = .ok agreeingLink ∧
    Acquires onAgreeing started ∧
    run tenths duration onAgreeing = some (.deadlineBeyondClock, b) ∧
    ¬ Orderly started .deadlineBeyondClock b ∧
    b.session.transport.stack.calls = started.session.transport.stack.calls ++ more ∧
    ∀ call ∈ more, call.isHalting = false := by
  obtain ⟨started, hacquires⟩ := acquires_onAgreeing
  have hstarted := hacquires.alert (Analyzer.alert_new _ _ connect_agreeing)
  obtain ⟨more, hmore, hquiet⟩ := (unhalted_teardown hstarted).since
  have hbeyond : ¬ Expressible tenths ⟨10000000000000000000 * Timespan.nanosPerSecond⟩ := by
    unfold Expressible
    decide
  refine ⟨_, started, started.teardown, more, rfl, connect_agreeing, hacquires,
    run_of_beyond hacquires hbeyond, ?_, hmore, hquiet⟩
  rintro ⟨passes, answer, stopped, result, -, hno, -⟩
  cases hno

end Capture

end LogicCapture
