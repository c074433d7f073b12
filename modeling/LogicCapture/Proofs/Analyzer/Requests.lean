/-
What analyzers and pools ask their transport to submit.

* `Session.controlRequest`: what a control transfer asks for;
* `Transport.Restricted`: a property that is kept as long as only certain things are asked for;
* `Transport.Restricted.controlTransfer`, `Transport.Restricted.arm`: a control transfer asks for
  one thing, and arming for one thing for every slot;
* `Pool.Step.Asks`, `Transport.Restricted.poolRun`: the life of a pool asks for no more than its
  steps do;
* `AcquisitionSettings.Due`: what an analyzer with these settings asks for, each thing with its
  timeout; `AcquisitionSettings.Gives`: the commands that it gives, which ask for no more
  (`Transport.Restricted.commanded`);
* `Transport.Restricted.perform`, `Transport.Restricted.run`: it never asks for anything else.
-/
import LogicCapture.Proofs.Analyzer.Vetted
import LogicCapture.Proofs.Pool.Run

namespace LogicCapture

variable {τ κ ω S C : Type}

/-- What a control transfer asks to be submitted. -/
abbrev Session.controlRequest (request : UInt8) (value index : UInt16) (data : ControlData)
    (ms : Nat) : TransferRequest :=
  ⟨.control, controlBuffer (vendorSetup request value index data) data, ms⟩

open Session (controlRequest)

/-- **A property that is kept as long as only such things are asked for**, control transfers for
their callers and bulk transfers for slots. -/
structure Transport.Restricted (ω : Type) [Transport τ (Handler κ)] [Consumer κ ω]
    (asks : TransferRequest → Prop) (R : τ → Prop) : Prop extends Transport.Passive ω R where
  command : ∀ {t id request ticket}, R t → asks request →
    R (Transport.submit t id request (.control ticket)).2
  slot : ∀ {t id endpoint buffer ms key consumer}, R t → asks ⟨.bulkIn endpoint, buffer, ms⟩ →
    R (Transport.submit t id ⟨.bulkIn endpoint, buffer, ms⟩ (.slot key consumer)).2
  claim : ∀ {t} interface, R t → R (Transport.claim t interface).2
  release : ∀ {t} interface, R t → R (Transport.release t interface).2

namespace Transport.Restricted

section
variable [Transport τ (Handler κ)] [Consumer κ ω] {asks : TransferRequest → Prop} {R : τ → Prop}

/-- It is kept all the more if less is asked for. -/
lemma mono (h : Restricted ω asks R) {fewer : TransferRequest → Prop}
    (hfewer : ∀ request, fewer request → asks request) : Restricted ω fewer R where
  toPassive := h.toPassive
  command ht hasks := h.command ht (hfewer _ hasks)
  slot ht hasks := h.slot ht (hfewer _ hasks)
  claim := h.claim
  release := h.release

/-- **A control transfer** asks for one thing, if its length fits. -/
lemma controlTransfer (h : Restricted ω asks R) {s s' : Session τ ω} {request : UInt8}
    {value index : UInt16} {data : ControlData} {ms : Nat} {result : ControlResult}
    (hasks : data.length < UInt16.size → asks (controlRequest request value index data ms))
    (hs : R s.transport)
    (hrun : s.controlTransfer request value index data ms = some (result, s')) :
    R s'.transport :=
  h.toPassive.controlTransfer (fun hfits _ _ _ ht => h.command ht (hasks hfits)) hs hrun

/-- **Arming** asks for one thing for every slot. -/
lemma arm (h : Restricted ω asks R) {p : Pool} {s : Session τ ω} {endpoint : UInt8}
    (hasks : asks ⟨.bulkIn endpoint, zeros p.bufferSize, 0⟩) (consumer : κ) (hs : R s.transport) :
    R (p.arm endpoint consumer s).2.transport :=
  h.toPassive.arm (fun _ _ _ ht => h.slot ht hasks) hs

end

end Transport.Restricted

/-! ### Pools -/

/-- What a step in the life of a pool with buffers of this size asks for. -/
inductive Pool.Step.Asks (bufferSize : Nat) : Pool.Step κ C → TransferRequest → Prop where
  | slot {endpoint consumer} :
      Asks bufferSize (.arm endpoint consumer) ⟨.bulkIn endpoint, zeros bufferSize, 0⟩
  | command {request value index data ms} : data.length < UInt16.size →
      Asks bufferSize (.transfer request value index data ms)
        (controlRequest request value index data ms)

namespace Transport.Restricted

section
variable [Transport τ (Handler κ)] [Consumer κ ω] [Scripted τ C] {asks : TransferRequest → Prop}
  {R : τ → Prop}

/-- **A step in the life of a pool** keeps the property, and the size of the pool's buffers. -/
lemma poolStep (h : Restricted ω asks R) (hcue : ∀ {t} (cue : C), R t → R (Scripted.cue t cue))
    {p p' : Pool} {s s' : Session τ ω} {step : Pool.Step κ C}
    (hasks : ∀ request, step.Asks p.bufferSize request → asks request) (hs : R s.transport)
    (hstep : p.step s step = some (p', s')) :
    p'.bufferSize = p.bufferSize ∧ R s'.transport := by
  cases step with
  | allocate count =>
      have hafter : R (p.allocate count s).2.2.transport :=
        Pool.allocate_induction h.alloc h.free p count hs
      have hsize := p.bufferSize_allocate count s
      rw [Option.some.inj hstep] at hafter hsize
      exact ⟨hsize, hafter⟩
  | arm endpoint consumer =>
      cases hstep
      exact ⟨rfl, h.arm (hasks _ .slot) consumer hs⟩
  | cancelAll =>
      cases hstep
      exact ⟨rfl, h.toPassive.cancelAll p hs⟩
  | freeAll =>
      cases hstep
      exact ⟨rfl, Pool.freeSlots_induction h.free p.slots hs⟩
  | transfer request value index data ms =>
      obtain ⟨⟨result, s₁⟩, hrun, hend⟩ := Option.map_eq_some_iff.mp hstep
      cases hend
      exact ⟨rfl, h.controlTransfer (fun hfits => hasks _ (.command hfits)) hs hrun⟩
  | pass ms =>
      cases hstep
      exact ⟨rfl, h.events ms hs⟩
  | cue cue =>
      cases hstep
      exact ⟨rfl, hcue cue hs⟩

/-- **The life of a pool** asks for no more than its steps do. -/
theorem poolRun (h : Restricted ω asks R) (hcue : ∀ {t} (cue : C), R t → R (Scripted.cue t cue))
    {steps : List (Pool.Step κ C)} {p p' : Pool} {s s' : Session τ ω}
    (hasks : ∀ step ∈ steps, ∀ request, step.Asks p.bufferSize request → asks request)
    (hs : R s.transport) (hrun : Pool.run steps p s = some (p', s')) : R s'.transport := by
  -- the buffers keep their size, so every step asks for what it asked for at first
  have hend : p'.bufferSize = p.bufferSize ∧ R s'.transport :=
    Pool.run_induction (I := fun q s => q.bufferSize = p.bufferSize ∧ R s.transport)
      (fun step hmem hq hstep => by
        obtain ⟨hsize, hafter⟩ := h.poolStep hcue (hq.1.symm ▸ hasks step hmem) hq.2 hstep
        exact ⟨hsize.trans hq.1, hafter⟩) ⟨rfl, hs⟩ hrun
  exact hend.2

end

end Transport.Restricted

/-! ### Analyzers -/

/-- **What an analyzer with these settings asks for**: the stop command with its timeout, other
commands and their answers with theirs, and samples without a limit. -/
inductive AcquisitionSettings.Due (settings : AcquisitionSettings) : TransferRequest → Prop where
  | stop {flags} : settings.Due (controlRequest Protocol.requestNumber Protocol.valueExecute flags
      (.send stopPacket.encode) settings.stopTimeoutMs)
  | command {flags packet} : packet ≠ stopPacket → packet.encode.length < UInt16.size →
      settings.Due (controlRequest Protocol.requestNumber Protocol.valueExecute flags
        (.send packet.encode) settings.commandTimeoutMs)
  | answer {buffer} : buffer.length < UInt16.size →
      settings.Due (controlRequest Protocol.requestNumber Protocol.valueExecute 0
        (.receive buffer) settings.commandTimeoutMs)
  | samples {endpoint length} : settings.Due ⟨.bulkIn endpoint, zeros length, 0⟩

/-- A configure command is no stop command. -/
lemma ConfigurePayload.toPacket_ne_stop (payload : ConfigurePayload) :
    payload.toPacket ≠ stopPacket := fun h =>
  absurd (show Protocol.verbConfigure = Protocol.verbStop from congrArg CommandPacket.verb h)
    (by decide)

/-- Nor is a core command. -/
lemma CommandPacket.core_ne_stop (verb : UInt32) :
    headerOnly Protocol.classCore verb ≠ stopPacket := fun h =>
  absurd (show Protocol.classCore = Protocol.classLogicAnalyzer from congrArg classId h) (by decide)

/-- The commands that an analyzer with these settings gives, with the room for their answers and
their timeouts. -/
inductive AcquisitionSettings.Gives (settings : AcquisitionSettings) :
    CommandPacket → Option Bytes → Nat → Prop where
  | stop : settings.Gives stopPacket none settings.stopTimeoutMs
  | query {packet response} : packet ≠ stopPacket →
      settings.Gives packet response settings.commandTimeoutMs

namespace Transport.Restricted

variable [Transport τ (Handler StreamFormat)] [SampleSink S] {settings : AcquisitionSettings}
  {R : τ → Prop} {a b : Analyzer τ S}

/-- **Its commands ask for no more**: the stop command has its own timeout and no answer, and the
other commands have theirs in both phases. -/
lemma execute (h : Restricted (Feed S) settings.Due R) {s s' : Session τ (Feed S)}
    {packet : CommandPacket} {response : Option Bytes} {ms : Nat} {answer : CommandResult}
    (hgives : settings.Gives packet response ms) (hs : R s.transport)
    (hrun : s.execute packet response ms = some (answer, s')) : R s'.transport := by
  cases hgives with
  | stop =>
      rw [Session.execute_none] at hrun
      obtain ⟨⟨sent, s₁⟩, hsend, hend⟩ := Option.map_eq_some_iff.mp hrun
      cases hend
      exact h.controlTransfer (fun _ => .stop) hs hsend
  | query hpacket =>
      cases Session.executes_of_execute hrun with
      | unsent hsend => exact h.controlTransfer (fun hfits => .command hpacket hfits) hs hsend
      | sent hsend => exact h.controlTransfer (fun hfits => .command hpacket hfits) hs hsend
      | read hsend _ _ hread =>
          have hsent := h.controlTransfer (fun hfits => .command hpacket hfits) hs hsend
          exact h.controlTransfer (fun hfits => .answer hfits) hsent hread

lemma commanded (h : Restricted (Feed S) settings.Due R) : Commanded S settings.Gives R where
  toPassive := h.toPassive
  execute hgives hs hrun := h.execute hgives hs hrun
  claim := h.claim
  release := h.release

/-- Arming a stream asks for samples. -/
lemma armStreaming (h : Restricted (Feed S) settings.Due R) (format : StreamFormat)
    (ha : R a.session.transport) : R (a.armStreaming format).2.session.transport :=
  Analyzer.armStreaming_induction (I := fun c => R c.session.transport)
    (fun hc => h.toPassive.allocateTransfers hc) (fun hc => h.arm .samples _ hc) ha

/-- **No operation asks for anything else.** -/
theorem perform (h : Restricted (Feed S) a.settings.Due R) {op : Analyzer.Op}
    {answer : Analyzer.Answer} (ha : R a.session.transport)
    (hrun : a.perform op = some (answer, b)) : R b.session.transport := by
  have hrequest {response : Option Bytes} : a.settings.Gives a.request.toPacket response
      a.settings.commandTimeoutMs := .query a.request.toPacket_ne_stop
  have hstart : a.settings.Gives startPacket none a.settings.commandTimeoutMs := .query (by decide)
  have hcore {verb : UInt32} {response : Option Bytes} : a.settings.Gives
      (.headerOnly Protocol.classCore verb) response a.settings.commandTimeoutMs :=
    .query (CommandPacket.core_ne_stop verb)
  cases Analyzer.performs_of_perform hrun with
  | configure hconf => exact h.commanded.configure hrequest ha hconf
  | start hbegin =>
      exact h.commanded.start hstart .stop (fun format _ => h.armStreaming format) ha hbegin
  | stop hstop => exact h.commanded.stop .stop ha hstop
  | cancel hcancel => exact h.commanded.cancelled .stop ha hcancel
  | acquire hacquire =>
      exact h.commanded.acquire hrequest hstart .stop (fun format _ => h.armStreaming format) ha
        hacquire
  | poll => exact h.toPassive.poll _ ha
  | allocate => exact h.toPassive.allocateTransfers ha
  | free => exact h.toPassive.freeTransfers ha
  | teardown => exact h.toPassive.teardown ha
  | setRate | setChannels => exact ha
  | version hread | serialNumber hread => exact h.commanded.readCoreString hcore ha hread

/-- **No run asks for anything else.** -/
theorem run [Scripted τ C] {settings : AcquisitionSettings}
    (h : Restricted (Feed S) settings.Due R) (hcue : ∀ {t} (cue : C), R t → R (Scripted.cue t cue))
    {steps : List (Analyzer.Step C)} (hsized : a.Sized settings) (ha : R a.session.transport)
    (hrun : Analyzer.run steps a = some b) : R b.session.transport := by
  -- no operation changes the settings, so all ask for the same
  have hend : b.Sized settings ∧ R b.session.transport :=
    Analyzer.run_induction (I := fun c => c.Sized settings ∧ R c.session.transport)
      (fun step _ hc hstep => by
        refine ⟨(Analyzer.stable_sized settings).step (fun _ hsized =>
          ⟨hsized.settings_eq, hsized.bufferSize⟩) hc.1 hstep, ?_⟩
        cases step with
        | call op =>
            obtain ⟨⟨answer, d⟩, hop, rfl⟩ := Option.map_eq_some_iff.mp hstep
            exact perform (hc.1.settings_eq.symm ▸ h) hc.2 hop
        | cue cue =>
            cases hstep
            exact hcue cue hc.2) ⟨hsized, ha⟩ hrun
  exact hend.2

end Transport.Restricted

end LogicCapture
