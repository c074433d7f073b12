/-
A start is all or nothing.

* `Analyzer.Flowing`: all slots of the pool are in flight, and none is to be cancelled;
* `Analyzer.flowing_or_ebbing`: arming an idle stream comes to that, or to nothing but cancelled
  transfers;
* `Analyzer.Started`: what a start comes to, with what it leaves behind where it fails;
* `Analyzer.Reachable`: the states of an analyzer in any life in which any buffer may be denied;
* `Analyzer.started_of_reachable`: from each of them, a start comes to one of these.
-/
import LogicCapture.Proofs.Pool.Arming
import LogicCapture.Proofs.Stream.Shut
import LogicCapture.Proofs.Stream.Verdicts

namespace LogicCapture

namespace Analyzer

open Feed (Shut)

variable {S : Type} {a b : Benched S} {format : StreamFormat} {granted : Pool.Slot → Bool}

/-! ### Arming the stream -/

/-- **All slots of the pool are in flight** to the endpoint of the format, each with a buffer of its
own, and no cancellation has been requested. -/
structure Flowing (format : StreamFormat) (a : Benched S) : Prop where
  slots : a.pool.slots ≠ []
  inFlight : a.session.transport.inFlight =
    a.pool.slots.map fun slot => slot.streaming a.pool.bufferSize format.endpoint format false
  armed : ∀ slot ∈ a.pool.slots, a.session.host.isArmed slot.key = true

variable [SampleSink S]

/-- The pool that is to be armed: the errors on the way to it are the transport's, and nothing is
in flight then, either. -/
lemma pooled_of_idle {result : Except CaptureError Unit} (hheld : a.pool.Held none a.session)
    (hnone : a.session.transport.inFlight = [])
    (hrun : (if a.pool.isEmpty then a.allocateTransfers else (.ok (), a)) = (result, b)) :
    b.pool.Held none b.session ∧ b.session.transport.inFlight = [] ∧
      ∀ error, result = .error error → ∃ cause, error = .usb cause := by
  split at hrun
  · have hafter : a.allocateTransfers.2.pool.Held none a.allocateTransfers.2.session :=
      stable_held.allocate hheld
    have hstill : a.allocateTransfers.2.session.transport.inFlight = [] :=
      List.eq_nil_iff_forall_not_mem.mpr fun t ht =>
        absurd (hnone ▸ Pool.mem_of_mem_allocate ht) List.not_mem_nil
    obtain ⟨answer, pool, session, -, hanswer, -⟩ := allocates_of_allocateTransfers hrun
    rw [hrun] at hafter hstill
    refine ⟨hafter, hstill, ?_⟩
    rintro error rfl
    exact CaptureError.usb_of_mapError hanswer.symm
  · cases hrun
    exact ⟨hheld, hnone, fun error hno => by cases hno⟩

/-- **Arming a stream** with nothing in flight puts all slots in flight, or leaves nothing in flight
but what is to be cancelled. -/
theorem flowing_or_ebbing {result : Except CaptureError Unit} (hheld : a.pool.Held none a.session)
    (hnone : a.session.transport.inFlight = [])
    (hrun : a.armStreamingBy (granting granted) format = (result, b)) :
    result = .ok () ∧ b.Flowing format ∨
      ∃ error, result = .error (.usb error) ∧ b.session.Ebbing := by
  have hnothing {c : Benched S} (h : c.session.transport.inFlight = []) : c.session.Ebbing :=
    fun t ht => absurd (h ▸ ht) List.not_mem_nil
  rw [armStreamingBy] at hrun
  split at hrun
  · rename_i error c hpool
    obtain ⟨-, hstill, hcause⟩ := pooled_of_idle hheld hnone hpool
    obtain ⟨cause, rfl⟩ := hcause error rfl
    cases hrun
    exact Or.inr ⟨cause, rfl, hnothing hstill⟩
  · rename_i c hpool
    obtain ⟨hheld', hstill, -⟩ := pooled_of_idle hheld hnone hpool
    by_cases hslots : c.pool.slots = []
    · -- there is nothing to arm
      have harm : granting granted format c.pool c.session = (.error .invalidParam, c.session) := by
        rw [granting, Pool.armGranted, if_pos (by simp [Pool.isEmpty, hslots])]
      rw [harm] at hrun
      cases hrun
      exact Or.inr ⟨_, rfl, hnothing hstill⟩
    · have hidle : c.pool.armedCount c.session.host = 0 := by
        rw [hheld'.custody.armedCount_eq_length, hstill]
        rfl
      have harms := Pool.arms_of_held hheld' hslots hidle granted format.endpoint format
      rcases harm : c.pool.armGranted granted format.endpoint format c.session with
        ⟨answer, session⟩
      have harm' : granting granted format c.pool c.session = (answer, session) := harm
      rw [harm] at harms
      rw [harm'] at hrun
      cases harms with
      | all _ _ hunderway =>
          cases hrun
          exact Or.inl ⟨rfl, hslots, hunderway.inFlight, fun slot hslot =>
            (hunderway.armed slot hslot).mpr hslot⟩
      | @undone before _ _ error _ _ _ _ _ hunderway _ =>
          cases hrun
          refine Or.inr ⟨error, rfl, fun t ht _ => ?_⟩
          have ht : t ∈ before.map fun slot => slot.streaming c.pool.bufferSize format.endpoint
            format true := hunderway.inFlight ▸ ht
          obtain ⟨slot, -, rfl⟩ := List.mem_map.mp ht
          rfl

/-- Stopping takes no cancellation back. -/
lemma ebbing_of_stop {result : Except CaptureError Unit} (h : a.session.Ebbing)
    (hrun : a.stop = some (result, b)) : b.session.Ebbing := by
  obtain ⟨answer, session, hsent, -, rfl⟩ := stop_eq_some.mp hrun
  have hhalted : a.halted.Ebbing := by
    have hflight := congrArg Bench.inFlight
      (Bench.release_frame a.session.transport Protocol.streamingInterface)
    exact fun t ht => h t (hflight ▸ ht)
  have hafter : session.Ebbing := Session.kept_ebbing.execute hhalted hsent
  exact hafter

/-! ### Starting -/

/-- **Nothing goes on**: the analyzer is idle, its feed does not run, and whatever bulk transfer is
still in flight is to be cancelled. -/
structure Ceased (a : Benched S) : Prop where
  phase : a.phase = .idle
  running : a.feed.running = false
  ebbing : a.session.Ebbing

/-- **What a start comes to.** -/
inductive Started (granted : Pool.Slot → Bool) (a : Benched S) :
    Except CaptureError Unit → Benched S → Prop where
  /-- It is refused, and nothing has changed. -/
  | refused {error : CaptureError} : a.Refuses error → Started granted a (.error error) a
  /-- The device does not carry the start command out, and the sink is told nothing. -/
  | failed {format : StreamFormat} {answer : CommandResult} {session cause} {b : Benched S} :
      a.Launches format answer session → answer.result = .error cause →
      b.Ceased → b.feed.sink = a.feed.sink →
      Started granted a (.error (.command "start" cause)) b
  /-- The device does, but the stream cannot be armed: it is stopped again, and the sink is told of
  the start and of the end. -/
  | undone {format : StreamFormat} {answer : CommandResult} {session n error ended}
      {c b : Benched S} :
      a.Launches format answer session → answer.result = .ok n →
      (({ a with session } : Benched S).openFeed format).armStreamingBy (granting granted) format =
        (.error (.usb error), c) →
      c.stop = some (ended, b) →
      b.Ceased → b.feed.sink = SampleSink.stopped (SampleSink.started a.feed.sink format) →
      Started granted a (.error (.usb error)) b
  /-- The stream flows from the endpoint that has been negotiated. -/
  | streaming {format : StreamFormat} {response : ConfigureResponse} {b : Benched S} :
      a.context.negotiated = some response → format.endpoint = response.endpoint →
      b.phase = .streaming → b.feed = ⟨true, {}, SampleSink.started a.feed.sink format⟩ →
      b.Flowing format → Started granted a (.ok ()) b

/-- A format that is known comes from a response. -/
lemma Launches.negotiated {answer : CommandResult}
    {session : Session (Bench (Handler StreamFormat)) (Feed S)}
    (h : a.Launches format answer session) : ∃ response,
      a.context.negotiated = some response ∧ format.endpoint = response.endpoint := by
  have hknown := h.known
  rw [DeviceContext.streamFormat, Option.map_eq_some_iff] at hknown
  obtain ⟨response, hresponse, rfl⟩ := hknown
  exact ⟨response, hresponse, rfl⟩

/-- When the stream is to be armed, the pool has custody of its slots and nothing is in flight. -/
lemma Launches.opened {answer : CommandResult}
    {session : Session (Bench (Handler StreamFormat)) (Feed S)}
    (h : a.Launches format answer session) (hheld : a.pool.Held none a.session) :
    (({ a with session } : Benched S).openFeed format).pool.Held none
        (({ a with session } : Benched S).openFeed format).session ∧
      (({ a with session } : Benched S).openFeed format).session.transport.inFlight = [] := by
  have hafter := stable_held.exchange hheld h.sent
  have hnone := hheld.inFlight_of_execute h.unarmed h.sent
  exact ⟨hafter.congr (.refl _) rfl rfl, hnone⟩

/-- A start leaves the pool in custody of its slots, and the analyzer settled. -/
lemma kept_of_startBy {result : Except CaptureError Unit} (hheld : a.pool.Held none a.session)
    (hsettled : a.Settled) (hrun : a.startBy (granting granted) = some (result, b)) :
    b.pool.Held none b.session ∧ b.Settled := by
  have harmed {format : StreamFormat} {answer : CommandResult} {session c}
      {armed : Except CaptureError Unit} (hlaunch : a.Launches format answer session)
      (harm : (({ a with session } : Benched S).openFeed format).armStreamingBy
        (granting granted) format = (armed, c)) : c.pool.Held none c.session := by
    let I (a : Benched S) : Prop := a.pool.Held none a.session
    have hafter : I (armStreamingBy (granting granted) _ format).2 :=
      armStreamingBy_induction stable_held.allocate
        (fun h => h.armGranted granted format.endpoint format) (hlaunch.opened hheld).1
    rwa [harm] at hafter
  cases startsBy_of_startBy hrun with
  | refused _ => exact ⟨hheld, hsettled⟩
  | failed hlaunch _ =>
      refine ⟨stable_held.exchange hheld hlaunch.sent, fun hon => ?_⟩
      have hstreaming := hsettled (running_execute hlaunch.sent hon)
      cases hlaunch.configured.symm.trans hstreaming
  | armed hlaunch _ harm =>
      have hafter := harmed hlaunch harm
      exact ⟨hafter, fun _ => rfl⟩
  | undone hlaunch _ harm hstop =>
      exact ⟨stable_held.stop (harmed hlaunch harm) hstop, .of_off (shut_of_stop hstop).off⟩

/-- **Starting a settled analyzer** comes to one of these. -/
lemma started_of_startBy {result : Except CaptureError Unit} (hheld : a.pool.Held none a.session)
    (hsettled : a.Settled) (hrun : a.startBy (granting granted) = some (result, b)) :
    a.Started granted result b := by
  have hshut (hphase : a.phase = .configured) : Shut a.feed a.feed := by
    refine .refl ?_
    by_contra hon
    cases hphase.symm.trans (hsettled (by simpa using hon))
  cases startsBy_of_startBy hrun with
  | refused hrefused => exact .refused hrefused
  | failed hlaunch hfail =>
      have hafter := Session.shut_execute (hshut hlaunch.configured) hlaunch.sent
      have hnone := hheld.inFlight_of_execute hlaunch.unarmed hlaunch.sent
      exact .failed hlaunch hfail
        ⟨rfl, hafter.off, fun t ht => absurd (hnone ▸ ht) List.not_mem_nil⟩ hafter.sink_eq
  | armed hlaunch hok harm =>
      obtain ⟨response, hresponse, hendpoint⟩ := hlaunch.negotiated
      have hfeed := opened_of_launch (hshut hlaunch.configured) hlaunch harm
      obtain ⟨hopened, hnone⟩ := hlaunch.opened hheld
      rcases flowing_or_ebbing hopened hnone harm with
        ⟨-, hslots, hflight, harmed⟩ | ⟨error, hno, -⟩
      · exact .streaming hresponse hendpoint rfl hfeed ⟨hslots, hflight, harmed⟩
      · cases hno
  | undone hlaunch hok harm hstop =>
      have hfeed := opened_of_launch (hshut hlaunch.configured) hlaunch harm
      obtain ⟨hopened, hnone⟩ := hlaunch.opened hheld
      rcases flowing_or_ebbing hopened hnone harm with ⟨hno, -⟩ | ⟨error, hcause, hebbing⟩
      · cases hno
      · cases hcause
        have hafter := shut_of_stop hstop
        refine .undone hlaunch hok harm hstop
          ⟨(phase_of_stop hstop).1, hafter.off, ebbing_of_stop hebbing hstop⟩ ?_
        rw [hafter.sink_eq, hfeed]

/-! ### Starting in any state -/

/-- **The states of an analyzer** on a bench, after any operations and new script entries, where a
start may at any slot find no memory for a buffer. -/
inductive Reachable : Benched S → Prop
  | new (settings : AcquisitionSettings) (sink : S) : Reachable (onBench settings sink)
  | step {a b : Benched S} {action : Step Bench.Cue} :
      Reachable a → a.step action = some b → Reachable b
  | start {a b : Benched S} {granted : Pool.Slot → Bool} {result : Except CaptureError Unit} :
      Reachable a → a.startBy (granting granted) = some (result, b) → Reachable b

/-- Every run leads to such states. -/
lemma Reachable.run {steps : List (Step Bench.Cue)} (h : Reachable a)
    (hrun : Analyzer.run steps a = some b) : Reachable b :=
  run_induction (fun _ _ hreach hstep => .step hreach hstep) h hrun

/-- In all of them the pool and the bench agree on who holds what, and only a streaming analyzer has
a running feed. -/
theorem Reachable.kept (h : Reachable a) : a.pool.Held none a.session ∧ a.Settled := by
  induction h with
  | new settings sink => exact ⟨Pool.Held.start _ {} rfl _, .of_off rfl⟩
  | @step a b action hreach hstep ih =>
      cases action with
      | call op =>
          obtain ⟨⟨answer, c⟩, hop, rfl⟩ := Option.map_eq_some_iff.mp hstep
          exact ⟨stable_held.perform ih.1 hop, ih.2.perform hop⟩
      | cue cue =>
          cases hstep
          exact ⟨Pool.enduring_held.cue cue ih.1, ih.2⟩
  | start hreach hrun ih => exact kept_of_startBy ih.1 ih.2 hrun

/-- **A start is all or nothing**, in every state of an analyzer and whichever buffers are denied
and transfers refused: either all slots are in flight and the sink is told, or nothing has changed,
or nothing goes on, and what the sink has been told of the start it has been told of the end. -/
theorem started_of_reachable (h : Reachable a) :
    a.start = a.startBy (granting fun _ => a.pool.bufferSize ≤ Pool.addressSpace) ∧
      ∀ (granted : Pool.Slot → Bool) (result : Except CaptureError Unit) (b : Benched S),
        a.startBy (granting granted) = some (result, b) → a.Started granted result b :=
  ⟨a.start_eq_granting, fun _ _ _ hrun => started_of_startBy h.kept.1 h.kept.2 hrun⟩

/-- A configured analyzer with two slots to come, of which the second will be refused, and a stop
command that will fail, too. -/
def secondSlotRefused : List (Step Bench.Cue) :=
  [.cue (.response [64, 66, 15, 0, 0, 0, 0, 0, 0x82]), .cue (.failSubmit 4 .pipe),
    .cue (.event .dispatch), .cue (.event .dispatch), .cue (.event .dispatch),
    .cue (.event (.fail .io)), .call .configure]

theorem started_secondSlotRefused :
    ∃ a b : Benched SinkTrace, Reachable a ∧
      a.startBy (granting fun _ => true) = some (.error (.usb .io), b) ∧
      a.Started (fun _ => true) (.error (.usb .io)) b ∧
      b.session.transport.inFlight.map (·.cancelled) = [true] ∧ b.feed.sink.events.length = 2 := by
  have hend : (run secondSlotRefused (new (τ := Bench (Handler StreamFormat)) {}
      { transferPoolSize := 2, transferBufferSize := 2 } ({} : SinkTrace))).bind (fun a =>
        (a.startBy (granting fun _ => true)).map fun r =>
          (decide (r.1 = .error (.usb .io)), r.2.session.transport.inFlight.map (·.cancelled),
            r.2.feed.sink.events.length)) =
      some (true, [true], 2) := by
    decide +kernel
  obtain ⟨a, hrun, hend⟩ := Option.bind_eq_some_iff.mp hend
  obtain ⟨⟨result, b⟩, hstart, hend⟩ := Option.map_eq_some_iff.mp hend
  simp only [Prod.mk.injEq, decide_eq_true_eq] at hend
  obtain ⟨rfl, hmarked, htold⟩ := hend
  have hreach : Reachable a := (Reachable.new _ _).run hrun
  exact ⟨a, b, hreach, hstart, (started_of_reachable hreach).2 _ _ _ hstart, hmarked, htold⟩

end Analyzer

end LogicCapture
