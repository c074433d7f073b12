/-
What becomes of transfers that are given back while they are in flight.

* `SinkTrace.PassedOn`: the sink is told of the samples that handlers pass on, and of no others;
* `Pool.Upheld.released`: giving the transfers of a pool back keeps what every call keeps;
* `Analyzer.quiet_iff`: a transfer that has been given back stays quiet exactly if none of its
  completions comes while a stream goes on.
-/
import LogicCapture.Proofs.Stream.Bracket
import LogicCapture.Proofs.Stream.Verdicts

namespace LogicCapture

variable {τ κ S C : Type}

open HandlerCall

/-! ### Samples that are passed on -/

/-- The sink is told of samples. -/
def SinkEvent.isDelivery : SinkEvent → Bool
  | deliver _ _ => true
  | _ => false

/-- What the handler of a slot has told the sink. -/
def HandlerCall.passedOn (c : HandlerCall (Handler StreamFormat)) : Option SinkEvent :=
  match c.handler with
  | .control _ => none
  | .slot _ format =>
    if c.isHonoured ∧ c.completion.status = .completed ∧ c.completion.data ≠ [] then
      some (.deliver c.completion.data format)
    else none

lemma HandlerCall.isDelivery_of_passedOn {c : HandlerCall (Handler StreamFormat)}
    {event : SinkEvent}
    (h : c.passedOn = some event) : event.isDelivery = true := by
  rw [passedOn] at h
  split at h
  · cases h
  · split at h
    · cases h
      rfl
    · cases h

/-- What a handler passes on, it passes on of a transfer that is armed again. -/
lemma HandlerCall.isHonoured_of_passedOn {c : HandlerCall (Handler StreamFormat)}
    {event : SinkEvent}
    (h : c.passedOn = some event) : c.isHonoured = true := by
  rw [passedOn] at h
  split at h
  · cases h
  · split at h
    · rename_i hpassed
      exact hpassed.1
    · cases h

namespace SinkTrace

/-- **The samples that the sink has been told of** since are those that handlers have passed on. -/
def PassedOn (earlier : List SinkEvent) (handled : List (HandlerCall (Handler StreamFormat)))
    (feed : Feed SinkTrace) : Prop :=
  ∃ told, feed.sink.events = earlier ++ told ∧
    told.filter SinkEvent.isDelivery = handled.filterMap HandlerCall.passedOn

variable {earlier : List SinkEvent} {handled : List (HandlerCall (Handler StreamFormat))}
  {feed feed' : Feed SinkTrace}

/-- Other events do not count. -/
lemma PassedOn.push (h : PassedOn earlier handled feed) (event : SinkEvent)
    (hevent : event.isDelivery = false) (hfeed : feed'.sink = feed.sink.push event) :
    PassedOn earlier handled feed' := by
  obtain ⟨told, htold, hsame⟩ := h
  refine ⟨told ++ [event], ?_, ?_⟩
  · rw [hfeed, SinkTrace.push, htold, List.append_assoc]
  · rw [List.filter_append, hsame]
    simp [hevent]

/-- A handler call tells the sink what it passes on. -/
lemma told_react (handler : Handler StreamFormat) (c : Completion) (host : Host (Feed SinkTrace)) :
    (handler.react c host).2.2.shared.sink.events = host.shared.sink.events ++
      (HandlerCall.passedOn ⟨handler, c, (handler.react c host).1⟩).toList := by
  cases handler with
  | control ticket =>
      rw [Handler.shared_react_control]
      simp [HandlerCall.passedOn]
  | slot key format =>
      obtain ⟨rearm, format', shared, hconsume, hreact⟩ := Handler.react_slot key format c host
      cases hconsume
      rw [hreact]
      obtain ⟨status, data⟩ := c
      -- only a normal completion of a feed that runs passes samples on, if there are any
      cases hrunning : host.shared.running <;> cases status <;> cases data <;>
        simp [Feed.verdict, Feed.accept, Feed.reject, HandlerCall.passedOn,
          HandlerCall.isHonoured, Rearm.honoured, TransferStatus.allowsResubmit, hrunning,
          SampleSink.deliver, SinkTrace.push]

lemma answering_passedOn : Analyzer.Answering (PassedOn earlier) := by
  rintro handler c handled host ⟨told, htold, hsame⟩
  have hmore := told_react handler c host
  rw [htold, List.append_assoc] at hmore
  refine ⟨_, hmore, ?_⟩
  rw [List.filter_append, List.filterMap_append, hsame]
  refine congrArg (_ ++ ·) ?_
  cases hpassed : HandlerCall.passedOn ⟨handler, c, (handler.react c host).1⟩ with
  | none => simp [hpassed]
  | some event => simp [hpassed, HandlerCall.isDelivery_of_passedOn hpassed]

/-- **Every operation** passes on what its handlers pass on. -/
lemma stable_passedOn [Transport τ (Handler StreamFormat)] (earlier : List SinkEvent) :
    Analyzer.Stable fun a : Analyzer.Logged τ SinkTrace => PassedOn earlier a.handled a.feed :=
  .ofHandled answering_passedOn (fun h => h) (fun h _ => h.push .stopped rfl rfl)
    fun format h => h.push (.started format) rfl rfl

/-- New script entries tell the sink nothing. -/
lemma passedOn_cued [Scripted τ C] {a : Analyzer.Logged τ SinkTrace} (cue : C)
    (h : PassedOn earlier a.handled a.feed) :
    PassedOn earlier (a.cued cue).handled (a.cued cue).feed := h

end SinkTrace

/-! ### Transfers that are given back -/

namespace Analyzer

/-- The operations that give the transfers of the pool back. -/
def Op.releases : Op → Bool
  | free | teardown => true
  | _ => false

end Analyzer

/-- **Giving the transfers of a pool back** keeps what every call keeps, of the pool with its slots
even. -/
theorem Pool.Upheld.released [Transport τ (Handler StreamFormat)] [SampleSink S]
    {P : Pool → Session τ (Feed S) → Prop} (h : Upheld P) {a b : Analyzer τ S} {op : Analyzer.Op}
    {answer : Analyzer.Answer} (ha : P a.pool a.session) (hop : op.releases = true)
    (hrun : a.perform op = some (answer, b)) :
    b.pool = { a.pool with slots := [] } ∧ P a.pool b.session := by
  cases op <;> cases hop
  case free =>
    cases hrun
    exact ⟨rfl, h.freeSlots _ ha⟩
  case teardown =>
    cases hrun
    have hhalt := h.shared { a.feed with running := false } ha
    rw [Analyzer.teardown]
    dsimp only
    split
    · exact ⟨rfl, h.freeSlots _ hhalt⟩
    · exact ⟨rfl, h.freeSlots _ (Analyzer.drain_induction (R := P a.pool)
        (fun ms hs => h.pass ms hs) _ (h.cancelAll hhalt))⟩

/-- **A transfer that has been given back stays quiet**: its handler passes nothing on, and it is
not submitted again. -/
def Pool.Slot.Quiet (slot : Slot) (handled : List (HandlerCall (Handler StreamFormat)))
    (calls : List HostStack.Call) : Prop :=
  (∀ c ∈ handled, c.handler.key = some slot.key → c.passedOn = none) ∧
    slot.transfer ∉ HostStack.submittedIds calls

namespace Analyzer

variable {script : List HostStack.Cue} {vendor product : UInt16}
  {link : DeviceLink (Handler StreamFormat)} {settings : AcquisitionSettings}
  {before after : List (Step HostStack.Cue)} {op : Op} {answer : Answer} {a b c : Plugged SinkTrace}

/-- **Transfers that have been given back** stay quiet exactly if none of their completions that
allow another submission comes while a stream goes on, the one in which they were given back or a
later one. -/
theorem quiet_iff
    (hopen : DeviceLink.connect (script.foldl HostStack.cue {}) vendor product = .ok link)
    (hbefore : run before (new link settings {}) = some a) (hop : op.releases = true)
    (hrelease : a.perform op = some (answer, b)) (hafter : run after b = some c) :
    ∃ (w : Logged (DeviceLink (Handler StreamFormat)) SinkTrace) (told : List SinkEvent)
      (calls : List HostStack.Call),
      run after b.journaled = some w ∧ w.bare = c ∧
      c.feed.sink.events = b.feed.sink.events ++ told ∧
      told.filter SinkEvent.isDelivery = w.handled.filterMap HandlerCall.passedOn ∧
      c.session.transport.stack.calls = b.session.transport.stack.calls ++ calls ∧
      ∀ slot ∈ a.pool.slots, slot.Quiet w.handled calls ↔
        ¬ HeardIn b.journaled after slot.key := by
  obtain ⟨w, hw, rfl⟩ := run_journaled hafter
  -- at the release, pool and link agree about the slots that are given back
  have hlinked : a.pool.Linked a.session :=
    (Pool.upheld_linked.stable (C := HostStack.Cue) Pool.linked_cue).run
      (fun cue h => Pool.linked_cue cue h) (Pool.Linked.start _ _ hopen) hbefore
  obtain ⟨hpool, hgone⟩ := Pool.upheld_linked.released hlinked hop hrelease
  have hstart : Pool.Accounted a.pool.slots b.session.transport.stack.calls b.journaled.pool
      b.journaled.session := by
    refine ⟨?_, .start _ _⟩
    show (b.pool.withSlots a.pool.slots).Linked b.session
    rwa [hpool, Pool.withSlots, List.nil_append]
  have hsettled : b.journaled.Settled := by
    have hrun : run (before ++ [.call op]) (new link settings ({} : SinkTrace)) = some b :=
      run_concat_eq_some.mpr ⟨a, hbefore, by rw [step, hrelease]; rfl⟩
    obtain ⟨b', hb', rfl⟩ := run_journaled hrun
    have hend : b'.Settled := settled_of_run (.of_off rfl) hb'
    exact hend
  -- from then on, three accounts are kept
  obtain ⟨-, calls, hcalls, haccount⟩ : Pool.Accounted _ _ w.pool w.session :=
    ((Pool.upheld_accounted _ _).stable (C := HostStack.Cue) Pool.accounted_cue).run
      (fun cue h => Pool.accounted_cue cue h) hstart hw
  obtain ⟨told, htold, hpassed⟩ := (SinkTrace.stable_passedOn b.feed.sink.events).run
    (fun (cue : HostStack.Cue) h => SinkTrace.passedOn_cued cue h)
    (⟨[], by simp [journaled, feed], rfl⟩ :
      SinkTrace.PassedOn b.feed.sink.events b.journaled.handled b.journaled.feed) hw
  refine ⟨w, told, calls, hw, rfl, htold, hpassed, hcalls, fun slot hslot => ?_⟩
  have hrearmed : slot.key ∈ rearmedKeys w.handled ↔ HeardIn b.journaled after slot.key := by
    rw [rearmed_iff_of_run hsettled hw]
    simp [handled, journaled, rearmedKeys]
  rw [← hrearmed, Pool.Slot.Quiet, haccount slot hslot]
  refine and_iff_right_of_imp fun hnever call hcall hkey => ?_
  by_contra hsome
  obtain ⟨event, hevent⟩ := Option.ne_none_iff_exists'.mp hsome
  exact hnever (mem_rearmedKeys.mpr ⟨call, hcall, hkey, isHonoured_of_passedOn hevent⟩)

/-- A device that agrees to be configured. -/
def agreeing : List (Step HostStack.Cue) :=
  [.cue (.control (some { status := 0 })),
    .cue (.control (some { status := 0, data := [64, 66, 15, 0, 0, 0, 0, 0, 0x82] }))]

/-- The transfer completes with two bytes in the next event pass. -/
def twoBytes : List (Step HostStack.Cue) :=
  [.cue (.bulk { status := 0, data := [1, 2] }), .call (.poll 10)]

/-- A new analyzer with a single transfer, on the link to a single device. -/
def singlePlugged : Plugged SinkTrace :=
  new (DeviceLink.onePluggedLink _) { transferPoolSize := 1, transferBufferSize := 2 } {}

/-- Between the release and the completion, the stream is stopped and a later one is started. -/
def laterStream : List (Step HostStack.Cue) :=
  .call .stop :: agreeing ++ .call .acquire :: twoBytes

theorem quiet_laterStream : ∃ a b c : Plugged SinkTrace,
    run (agreeing ++ [.call .acquire]) singlePlugged = some a ∧
    a.perform .free = some (.done (.ok ()), b) ∧ run laterStream b = some c ∧
    c.feed.sink.events = b.feed.sink.events ++
      [.stopped, .started ⟨1000000, 8, 0x82⟩, .deliver [1, 2] ⟨1000000, 8, 0x82⟩] ∧
    ∃ (w : Logged (DeviceLink (Handler StreamFormat)) SinkTrace) (slot : Pool.Slot)
      (calls : List HostStack.Call),
      run laterStream b.journaled = some w ∧ w.bare = c ∧ slot ∈ a.pool.slots ∧
        ¬ slot.Quiet w.handled calls ∧ HeardIn b.journaled laterStream slot.key := by
  have hall : ((run (agreeing ++ [.call .acquire]) singlePlugged).bind fun a =>
      (run laterStream a.freeTransfers).map fun c =>
        (c.feed.sink.events, a.freeTransfers.feed.sink.events, a.pool.slots,
          HostStack.submittedIds (c.session.transport.stack.calls.drop
            a.freeTransfers.session.transport.stack.calls.length))) =
      some ([.started ⟨1000000, 8, 0x82⟩, .stopped, .started ⟨1000000, 8, 0x82⟩,
        .deliver [1, 2] ⟨1000000, 8, 0x82⟩], [.started ⟨1000000, 8, 0x82⟩], [⟨0, 3⟩],
        [4, 5, 6, 7, 8, 3]) := by
    decide +kernel
  obtain ⟨a, ha, hrest⟩ := Option.bind_eq_some_iff.mp hall
  obtain ⟨c, hc, hend⟩ := Option.map_eq_some_iff.mp hrest
  simp only [Prod.mk.injEq] at hend
  obtain ⟨htold, hearlier, hslots, hids⟩ := hend
  obtain ⟨w, told, calls, hw, hsame, -, -, hcalls, hiff⟩ :=
    quiet_iff (DeviceLink.connect_onePlugged _) ha (show Op.releases .free = true from rfl) rfl hc
  have hslot : (⟨0, 3⟩ : Pool.Slot) ∈ a.pool.slots := by simp [hslots]
  have hloud : ¬ (⟨0, 3⟩ : Pool.Slot).Quiet w.handled calls := by
    rintro ⟨-, hnever⟩
    rw [hcalls, List.drop_left] at hids
    simp [hids] at hnever
  refine ⟨a, a.freeTransfers, c, ha, rfl, hc, ?_, w, _, calls, hw, hsame, hslot, hloud, ?_⟩
  · rw [htold, hearlier]
    rfl
  · exact not_not.mp fun hno => hloud ((hiff _ hslot).mpr hno)

/-- **A transfer that does not stay quiet**: it is given back in flight, completes while the stream
goes on, and so its bytes reach the sink and it is submitted again. -/
theorem not_quiet_leaked : ∃ a b c : Plugged SinkTrace,
    run (agreeing ++ [.call .acquire]) singlePlugged = some a ∧
    a.perform .free = some (.done (.ok ()), b) ∧ run twoBytes b = some c ∧
    c.feed.sink.events = b.feed.sink.events ++ [.deliver [1, 2] ⟨1000000, 8, 0x82⟩] ∧
    ∃ slot ∈ a.pool.slots, ∃ calls,
      c.session.transport.stack.calls = b.session.transport.stack.calls ++ calls ∧
      slot.transfer ∈ HostStack.submittedIds calls := by
  have hall : ((run (agreeing ++ [.call .acquire]) singlePlugged).bind fun a =>
      (run twoBytes a.freeTransfers).map fun c =>
        (c.feed.sink.events, a.freeTransfers.feed.sink.events, a.pool.slots,
          decide (c.session.transport.stack.calls = a.freeTransfers.session.transport.stack.calls ++
            c.session.transport.stack.calls.drop
              a.freeTransfers.session.transport.stack.calls.length),
          HostStack.submittedIds (c.session.transport.stack.calls.drop
              a.freeTransfers.session.transport.stack.calls.length))) =
      some ([.started ⟨1000000, 8, 0x82⟩, .deliver [1, 2] ⟨1000000, 8, 0x82⟩],
        [.started ⟨1000000, 8, 0x82⟩], [⟨0, 3⟩], true, [3]) := by
    decide +kernel
  obtain ⟨a, ha, hrest⟩ := Option.bind_eq_some_iff.mp hall
  obtain ⟨c, hc, hend⟩ := Option.map_eq_some_iff.mp hrest
  simp only [Prod.mk.injEq, decide_eq_true_eq] at hend
  obtain ⟨htold, hearlier, hslots, hcalls, hids⟩ := hend
  refine ⟨a, a.freeTransfers, c, ha, rfl, hc, ?_, ⟨0, 3⟩, ?_, _, hcalls, ?_⟩
  · rw [htold, hearlier]
    rfl
  · simp [hslots]
  · simp [hids]

end Analyzer

end LogicCapture
