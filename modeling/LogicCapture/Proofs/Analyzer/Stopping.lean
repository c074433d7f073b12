/-
What a stop does, in any state and whatever the device does.

* `Analyzer.stop_eq`: a stop is a control transfer in a halted session;
* `Analyzer.Halts`: what a stop does up to the end of its command;
* `Feed.Hushed`: since the stop, the sink has been told of nothing but further stops;
* `Analyzer.Deed.Launches`, `Analyzer.governed_hushed`: the feed stays hushed until a start command
  has been carried out;
* `Analyzer.stop_hushes`: a stop shuts the feed, gives the interface back, sends the command once,
  tells the sink and leaves the analyzer idle, and the feed stays hushed.
-/
import LogicCapture.Proofs.Analyzer.Deeds
import LogicCapture.Proofs.Session.Framing
import LogicCapture.Proofs.Stream.Shut
import Mathlib.Logic.Function.Iterate

namespace LogicCapture

variable {τ S C : Type}

/-! ### The command -/

namespace Analyzer

variable [Transport τ (Handler StreamFormat)] [SampleSink S]

/-- **A stop** is a control transfer in a halted session; then the analyzer is idle and the sink is
told. -/
lemma stop_eq (a : Analyzer τ S) : a.stop =
    (a.halted.controlTransfer Protocol.requestNumber Protocol.valueExecute Protocol.skipResponse
      (.send stopPacket.encode) a.settings.stopTimeoutMs).map fun done =>
        ((done.1.result.map fun _ => ()).mapError (.command "stop"),
          ({ a with session := done.2, phase := .idle } : Analyzer τ S).notified) := by
  rw [stop_eq_map, Session.execute_none, Option.map_map]
  refine congrArg (Option.map · _) (funext fun done => ?_)
  dsimp only [Function.comp]
  cases done.1.result <;> rfl

end Analyzer

/-! ### Handler calls -/

namespace Feed

variable [SampleSink S]

/-- **A feed that does not run** has nothing armed again. -/
lemma release_react (handler : Handler StreamFormat) (c : Completion) {host : Host (Feed S)}
    (h : host.shared.running = false) : (handler.react c host).1 = .release := by
  cases handler with
  | control ticket => rfl
  | slot key format =>
      obtain ⟨rearm, _, shared, hconsume, hreact⟩ := Handler.react_slot key format c host
      rw [hreact]
      cases hconsume
      obtain ⟨status, data⟩ := c
      cases status <;> simp [verdict, h]

/-- **A hushed feed** does not run, and its sink has been told of nothing but stops since it was
`sink`. -/
def Hushed (sink : S) (feed : Feed S) : Prop :=
  feed.running = false ∧ ∃ stops, feed.sink = SampleSink.stopped^[stops] sink

lemma Hushed.of_shut {sink : S} {before feed : Feed S} (h : Hushed sink before)
    (hshut : Shut before feed) : Hushed sink feed :=
  ⟨hshut.off, hshut.sink_eq ▸ h.2⟩

end Feed

namespace Analyzer

variable [Transport τ (Handler StreamFormat)] [SampleSink S]

open Feed (Shut Hushed)

/-! ### A stop -/

/-- The analyzer with a transcript. -/
def transcribed (a : Analyzer τ S) (calls : List (Transport.Call (Handler StreamFormat))) :
    Analyzer (Transcribed τ (Handler StreamFormat)) S :=
  { a with session := a.session.transcribed calls }

/-- **What a stop does up to the end of its command**: the stream is halted before anything can
complete, the interface is given back, and then the stop command is sent. -/
structure Halts (a : Analyzer τ S) (given : Except UsbError Unit) (sent : ControlResult)
    (s : Session τ (Feed S)) (calls : List (Transport.Call (Handler StreamFormat))) : Prop where
  /-- What completes from now on finds that the stream does not run. -/
  halted : a.halted.host = { a.session.host with shared := { a.feed with running := false } }
  /-- The interface is given back once, before everything else. -/
  released : ∃ rest, calls = .release Protocol.streamingInterface given :: rest ∧
    ∀ call ∈ rest, call.isRelease = false
  /-- The command is one control transfer, which asks for no response. -/
  command : (a.halted.transcribed
    [.release Protocol.streamingInterface given]).controlTransfer 0x65 0 1
      (.send stopPacket.encode) a.settings.stopTimeoutMs = some (sent, s.transcribed calls)
  /-- It is submitted once at most, -/
  once : (Transport.submissions calls).length ≤ 1
  /-- and carries the stop packet then. -/
  framed : ∀ request ∈ Transport.submissions calls, ∃ body length,
    Framed request ⟨0x42, 0x65, 0, 1, length⟩ body ∧ CommandPacket.decode body = .ok stopPacket ∧
    request.timeoutMs = a.settings.stopTimeoutMs
  /-- Nothing is armed again meanwhile, -/
  releasing : ∀ call ∈ calls, ∀ h ∈ call.handled, h.rearm = .release
  /-- and nothing is delivered. -/
  shut : Shut a.feed s.host.shared

/-- Whatever the device does, a stop gets to the end of its command in this way. -/
lemma halts_of_controlTransfer {a : Analyzer τ S} {released : Except UsbError Unit}
    {sent : ControlResult} {w : Session (Transcribed τ (Handler StreamFormat)) (Feed S)}
    (hrun : (a.halted.transcribed
      [.release Protocol.streamingInterface released]).controlTransfer 0x65 0 1
        (.send stopPacket.encode) a.settings.stopTimeoutMs = some (sent, w)) :
    a.Halts released sent w.bare w.transport.transcript := by
  obtain ⟨rest, hcalls, hconduct⟩ := Session.conduct_of_controlTransfer
    ((Session.controlTransfer_eq_granted ..).symm.trans hrun)
  obtain ⟨hframed, honce⟩ := hconduct.submits (P := fun request => ∃ body length,
    Framed request ⟨0x42, 0x65, 0, 1, length⟩ body ∧ CommandPacket.decode body = .ok stopPacket ∧
    request.timeoutMs = a.settings.stopTimeoutMs) fun hfits =>
      ⟨_, _, framed_send _ _ _ hfits _, stopPacket.decode_encode, rfl⟩
  have hrest : Transport.submissions w.transport.transcript = Transport.submissions rest := by
    rw [hcalls]
    rfl
  have hshown := (Session.Kept.ofTranscript
    (R := fun host : Host (Feed S) => Shut a.feed host.shared) (C := fun h => h.rearm = .release)
    (fun _ h => h) fun handler c host h =>
      ⟨Shut.react handler c host h, Feed.release_react handler c h.off⟩).controlTransfer
        ⟨⟨a.feed.stats.errors, rfl⟩, fun call hcall => by
          rw [List.mem_singleton.mp hcall]
          exact nofun⟩ hrun
  exact {
    halted := rfl
    released := ⟨rest, hcalls, hconduct.not_release⟩
    command := hrun
    once := hrest ▸ honce
    framed := hrest ▸ hframed
    releasing := hshown.2
    shut := hshown.1 }

/-! ### After it -/

/-- While no stream is begun, a feed stays hushed. -/
lemma lasting_hushed (sink : S) : Lasting fun a : Analyzer τ S => Hushed sink a.feed where
  exchange h hrun := h.of_shut (Session.shut_execute (Shut.refl h.1) hrun)
  pass ms h := h.of_shut (Session.shut_events ms (Shut.refl h.1))
  context _ h := h
  allocate {a} h := by
    have hfeed : a.allocateTransfers.2.feed = a.feed :=
      congrArg Host.shared (Pool.host_allocate _ _ _)
    rwa [hfeed]
  free h := h
  claim _ h := h
  release _ h := h
  phase _ h := h
  halt h := ⟨rfl, h.2⟩
  notify h hoff := by
    obtain ⟨-, stops, hsink⟩ := h
    refine ⟨hoff, stops + 1, ?_⟩
    rw [Function.iterate_succ_apply', ← hsink]
    rfl
  cancelAll h := h

/-- The deed is a start whose command the device carries out, which leads to the session `s`. -/
def Deed.Launches (d : Deed τ S) (s : Session τ (Feed S)) : Prop :=
  d.op = .start ∧ ∃ format answer n, d.before.Launches format answer s ∧ answer.result = .ok n

/-- Until a start command is carried out, the feed is hushed, also when it is. -/
def Hushes (sink : S) (earlier : List (Deed τ S)) (d : Deed τ S) : Prop :=
  (∀ e ∈ earlier, ∀ s, ¬ e.Launches s) →
    (∀ s, d.Launches s → Hushed sink s.host.shared) ∧
      ((∀ s, ¬ d.Launches s) → Hushed sink d.after.feed)

/-- **Until a start command is carried out**, no deed brings anything to the sink. -/
lemma governed_hushed (sink : S) : Governed (τ := τ)
    (fun ds a => (∀ e ∈ ds, ∀ s, ¬ e.Launches s) → Hushed sink a.feed) (Hushes sink) where
  each {ds a op answer b} hop ha hrun := by
    have hdeed (hquiet : ∀ e ∈ ds, ∀ s, ¬ e.Launches s) :
        (∀ s, (⟨op, answer, a, b⟩ : Deed τ S).Launches s → Hushed sink s.host.shared) ∧
          ((∀ s, ¬ (⟨op, answer, a, b⟩ : Deed τ S).Launches s) → Hushed sink b.feed) := by
      have hbefore := ha hquiet
      refine ⟨?_, fun hno => ?_⟩
      · rintro s ⟨-, format, answer', n, hlaunch, -⟩
        exact (lasting_hushed sink).exchange hbefore hlaunch.sent
      · by_cases hopens : op.opensStream = true
        · cases performs_of_perform hrun with
          | start hstart =>
              cases starts_of_start hstart with
              | refused => exact hbefore
              | failed hlaunch => exact (lasting_hushed sink).exchange hbefore hlaunch.sent
              | armed hlaunch _ hok => exact absurd ⟨rfl, _, _, _, hlaunch, hok⟩ (hno _)
              | undone hlaunch _ _ hok => exact absurd ⟨rfl, _, _, _, hlaunch, hok⟩ (hno _)
          | acquire _ => exact absurd rfl hop
          | _ => cases hopens
        · exact (lasting_hushed sink).perform (Bool.eq_false_iff.mpr hopens) hbefore hrun
    refine ⟨hdeed, fun hall => ?_⟩
    exact (hdeed fun e he => hall e (List.mem_append_left _ he)).2
      (hall _ (List.mem_append_right _ (List.mem_singleton_self _)))

/-- **A stop**, in any state and whatever the device does, halts the stream, gives the interface
back, sends the stop command and tells the sink of the end.  Its answer is the command's, and
nothing else of the analyzer changes; then the sink is told of nothing but further stops until a
start command is carried out. -/
theorem stop_hushes [Scripted τ C] {a b : Analyzer τ S} {result : Except CaptureError Unit}
    (hrun : a.stop = some (result, b)) :
    (∃ released sent s calls,
      (a.transcribed []).stop = some (result, b.transcribed calls) ∧
      a.Halts released sent s calls ∧
      b = { a with
        session := { s with host := { s.host with
          shared := { s.host.shared with sink := SampleSink.stopped a.feed.sink } } }
        phase := .idle } ∧
      (result = .ok () ↔ ∃ n, sent.result = .ok n) ∧
      ∀ error, sent.result = .error error → result = .error (.command "stop" error)) ∧
    ∀ steps : List (Step C), Historic (Hushes b.feed.sink) (deeds steps b) := by
  refine ⟨?_, fun steps => ?_⟩
  · have hbare := stop_mapTransport Transcribed.covers (a.transcribed [])
    obtain ⟨⟨result', b'⟩, hdone, hend⟩ :=
      Option.map_eq_some_iff.mp (hbare.symm.trans hrun)
    cases hend
    rw [stop_eq] at hdone
    obtain ⟨⟨sent, w⟩, hsent, hend⟩ := Option.map_eq_some_iff.mp hdone
    cases hend
    have hhalts : a.Halts _ sent w.bare w.transport.transcript := halts_of_controlTransfer hsent
    refine ⟨_, sent, w.bare, w.transport.transcript, ?_, hhalts, ?_, ?_, ?_⟩
    · rw [stop_eq, hsent]
      rfl
    · rw [← hhalts.shut.sink_eq]
      rfl
    · cases sent.result <;> simp [Except.map, Except.mapError]
    · intro error herror
      rw [herror]
      rfl
  · have hstart : Hushed b.feed.sink b.feed := ⟨(shut_of_stop hrun).off, 0, rfl⟩
    have hnone : Historic (Hushes b.feed.sink) ([] : List (Deed τ S)) := Historic.nil
    have hdeeds := ((governed_hushed b.feed.sink).run (fun _ h => h) steps
      (fun _ => hstart) hnone).1
    rwa [List.nil_append] at hdeeds

/-- A stream that a stop finds with samples to come, on a device that does not take the interface
back and leaves the stop command unanswered until the second event pass fails. -/
def unstoppable : List (Step Bench.Cue) :=
  [.cue (.response [64, 66, 15, 0, 0, 0, 0, 0, 0x82]), .call .acquire, .cue (.releaseError .io),
    .cue (.reply .hang), .cue (.chunk [1, 2]), .cue (.event .dispatch), .cue (.event (.fail .pipe))]

theorem stop_unstoppable : ∃ a b : Analyzer (Bench (Handler StreamFormat)) SinkTrace,
    a.phase = .streaming ∧ a.feed.running = true ∧
    a.stop = some (.error (.command "stop" .pipe), b) ∧
    a.session.transport.chunks = [[1, 2]] ∧ b.session.transport.chunks = [] ∧
    a.feed.sink.events = [.started ⟨1000000, 8, 0x82⟩] ∧
    b.feed.sink.events = [.started ⟨1000000, 8, 0x82⟩, .stopped] ∧
    (∃ given sent s calls, a.Halts given sent s calls ∧ sent.result = .error .pipe) ∧
    Historic (Hushes b.feed.sink) (deeds [.call (.poll 10), .call .stop, .call .start] b) := by
  have hend : (run unstoppable (new (τ := Bench (Handler StreamFormat)) {}
      { transferPoolSize := 2, transferBufferSize := 2 } ({} : SinkTrace))).bind (fun a =>
        a.stop.map fun r => decide ((a.phase = .streaming ∧ a.feed.running = true) ∧
          r.1 = .error (.command "stop" .pipe) ∧ (a.session.transport.chunks = [[1, 2]] ∧
            r.2.session.transport.chunks = []) ∧
          a.feed.sink.events = [.started ⟨1000000, 8, 0x82⟩] ∧
          r.2.feed.sink.events = [.started ⟨1000000, 8, 0x82⟩, .stopped])) = some true := by
    decide +kernel
  obtain ⟨a, -, hend⟩ := Option.bind_eq_some_iff.mp hend
  obtain ⟨⟨result, b⟩, hstop, hend⟩ := Option.map_eq_some_iff.mp hend
  obtain ⟨⟨hphase, hrunning⟩, rfl, ⟨hchunks, hnone⟩, hbefore, hafter⟩ := of_decide_eq_true hend
  obtain ⟨⟨given, sent, s, calls, -, hhalts, -, hok, hfailed⟩, hdeeds⟩ := stop_hushes hstop
  have hsent : sent.result = .error .pipe := by
    cases hresult : sent.result with
    | ok n => cases hok.mpr ⟨n, hresult⟩
    | error error => cases hfailed error hresult; rfl
  exact ⟨a, b, hphase, hrunning, hstop, hchunks, hnone, hbefore, hafter,
    ⟨given, sent, s, calls, hhalts, hsent⟩, hdeeds _⟩

end Analyzer

end LogicCapture
