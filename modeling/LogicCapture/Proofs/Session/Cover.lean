/-
Transports that do what other transports do, and keep something on the side.

* `Transport.Covers`: forgetting what is on the side commutes with every call;
* `Session.events_mapTransport`, `Session.execute_mapTransport`: a session over the covering
  transport does what it does over the other;
* `Pool.allocate_mapTransport`, `Pool.arm_mapTransport`, …: so do the operations of a pool;
* `Analyzer.perform_mapTransport`, `Analyzer.run_mapTransport`: so do an analyzer's operations and
  its runs.
-/
import LogicCapture.Proofs.Analyzer.Run

namespace LogicCapture

variable {τ τ' κ ω H S C : Type}

/-- `bare` forgets what a transport has on the side: a call does to the bare transport what it does
to the whole one. -/
structure Transport.Covers [Transport τ' H] [Transport τ H] (bare : τ' → τ) : Prop where
  attached : ∀ t, Transport.attached (bare t) = Transport.attached t
  alloc : ∀ t, Transport.alloc (bare t) = Prod.map id bare (Transport.alloc t)
  submit : ∀ t id' request handler, Transport.submit (bare t) id' request handler =
    Prod.map id bare (Transport.submit t id' request handler)
  cancel : ∀ t id', Transport.cancel (bare t) id' = Prod.map id bare (Transport.cancel t id')
  free : ∀ t id', Transport.free (bare t) id' = bare (Transport.free t id')
  claim : ∀ t interface, Transport.claim (bare t) interface =
    Prod.map id bare (Transport.claim t interface)
  release : ∀ t interface, Transport.release (bare t) interface =
    Prod.map id bare (Transport.release t interface)
  events : ∀ {σ : Type} (react : Reaction H σ) t ms s, (Transport.events (bare t) ms).run react s =
    Prod.map id (Prod.map bare id) ((Transport.events t ms).run react s)
  handlers : ∀ t, Transport.handlers (bare t) = Transport.handlers t
  patience : ∀ t, Transport.patience (bare t) = Transport.patience t

namespace Session

/-- The session with its transport changed. -/
def mapTransport (f : τ' → τ) (s : Session τ' ω) : Session τ ω := ⟨f s.transport, s.host⟩

variable [Transport τ' (Handler κ)] [Transport τ (Handler κ)] [Consumer κ ω] {bare : τ' → τ}

lemma events_mapTransport (h : Transport.Covers bare) (s : Session τ' ω) (ms : Nat) :
    (s.mapTransport bare).events ms = Prod.map id (mapTransport bare) (s.events ms) := by
  have hrun := h.events Handler.react s.transport ms s.host
  rw [events, events]
  rw [mapTransport, hrun]
  rfl

lemma await_mapTransport (h : Transport.Covers bare) (id' : TransferId) (passes : Nat)
    (s : Session τ' ω) : await id' passes (s.mapTransport bare) =
      (await id' passes s).map (Prod.map id (mapTransport bare)) := by
  induction passes generalizing s with
  | zero => rfl
  | succ passes ih =>
      have habandoned : (s.mapTransport bare).isAbandoned = s.isAbandoned := by
        rw [isAbandoned, isAbandoned]
        exact congrArg (List.all · _) (h.handlers s.transport)
      have hattached : Transport.attached (s.mapTransport bare).transport =
        Transport.attached s.transport := h.attached s.transport
      have hreply : (s.mapTransport bare).host.reply = s.host.reply := rfl
      rw [await, await, hreply, habandoned, hattached, events_mapTransport h]
      split
      · rfl
      · split
        · rfl
        · split
          · rfl
          · rcases s.events waitPassMs with ⟨result, s'⟩
            cases result with
            | ok _ => exact ih s'
            | error error =>
                have hcancel : Transport.cancel (s'.mapTransport bare).transport id' = _ :=
                  h.cancel s'.transport id'
                dsimp only [Prod.map, id]
                split
                · exact ih s'
                · rw [hcancel]
                  rfl

lemma controlTransfer_mapTransport (h : Transport.Covers bare) (s : Session τ' ω)
    (request : UInt8) (value index : UInt16) (data : ControlData) (ms : Nat) :
    (s.mapTransport bare).controlTransfer request value index data ms =
      (s.controlTransfer request value index data ms).map (Prod.map id (mapTransport bare)) := by
  have hattached : Transport.attached (s.mapTransport bare).transport =
    Transport.attached s.transport := h.attached s.transport
  have halloc : Transport.alloc (s.mapTransport bare).transport = _ := h.alloc s.transport
  have hhost : (s.mapTransport bare).host = s.host := rfl
  rw [controlTransfer, controlTransfer, hattached, halloc, hhost]
  split
  · rfl
  · rcases Transport.alloc s.transport with ⟨result, t⟩
    cases result with
    | error error => rfl
    | ok id' =>
        dsimp only [Prod.map, id]
        rw [h.submit]
        rcases Transport.submit t id' _ _ with ⟨result, t'⟩
        cases result with
        | error error =>
            dsimp only [Prod.map, id]
            rw [h.free]
            rfl
        | ok _ =>
            dsimp only [Prod.map, id]
            have hwait := await_mapTransport h id' (Transport.patience t' + 1)
              (⟨t', s.host.expect⟩ : Session τ' ω)
            rw [mapTransport] at hwait
            rw [h.patience, hwait]
            rcases await id' (Transport.patience t' + 1)
              (⟨t', s.host.expect⟩ : Session τ' ω) with - | ⟨outcome, s'⟩
            · rfl
            · have hfree := h.free s'.transport id'
              dsimp only [Option.map_some, Option.bind_eq_bind, Option.bind_some, Prod.map, id]
              rw [mapTransport, hfree]
              rfl

/-- **Commands do over the bare transport** what they do over the whole one. -/
theorem execute_mapTransport (h : Transport.Covers bare) (s : Session τ' ω)
    (packet : CommandPacket) (response : Option Bytes) (ms : Nat) :
    (s.mapTransport bare).execute packet response ms =
      (s.execute packet response ms).map (Prod.map id (mapTransport bare)) := by
  rw [execute, execute, controlTransfer_mapTransport h]
  rcases s.controlTransfer Protocol.requestNumber Protocol.valueExecute _ _ _ with - | ⟨sent, s'⟩
  · rfl
  · dsimp only [Option.map_some, Option.bind_eq_bind, Option.bind_some, Prod.map, id]
    split
    · rfl
    · rfl
    · rw [controlTransfer_mapTransport h]
      cases s'.controlTransfer Protocol.requestNumber Protocol.valueExecute 0 _ ms <;> rfl

lemma readCoreString_mapTransport (h : Transport.Covers bare) (s : Session τ' ω) (verb : UInt32)
    (ms : Nat) : (s.mapTransport bare).readCoreString verb ms =
      (s.readCoreString verb ms).map (Prod.map id (mapTransport bare)) := by
  rw [readCoreString, readCoreString, execute_mapTransport h]
  rcases s.execute _ _ _ with - | ⟨answer, s'⟩
  · rfl
  · dsimp only [Option.map_some, Option.bind_eq_bind, Option.bind_some, Prod.map, id]
    split <;> rfl

end Session

namespace Pool

variable [Transport τ' (Handler κ)] [Transport τ (Handler κ)] {bare : τ' → τ}

lemma freeSlots_mapTransport (h : Transport.Covers bare) (slots : List Slot) (t : τ') :
    freeSlots slots (bare t) = bare (freeSlots slots t) := by
  induction slots generalizing t with
  | nil => rfl
  | cons slot rest ih =>
      have hfree := h.free t slot.transfer
      rw [freeSlots, List.foldl_cons, hfree]
      exact ih _

lemma obtain_mapTransport (h : Transport.Covers bare) (count key : Nat) (taken : List Slot)
    (t : τ') : obtain count key taken (bare t) =
      Prod.map id bare (obtain count key taken t) := by
  induction count generalizing key taken t with
  | zero => rfl
  | succ count ih =>
      rw [obtain, obtain, h.alloc]
      rcases Transport.alloc t with ⟨result, t'⟩
      cases result with
      | ok id' => exact ih _ _ _
      | error error =>
          dsimp only [Prod.map, id]
          rw [freeSlots_mapTransport h]

lemma allocateGranted_mapTransport (h : Transport.Covers bare) (p : Pool) (granted : Bool)
    (count : Nat) (s : Session τ' ω) :
    p.allocateGranted granted count (s.mapTransport bare) =
      Prod.map id (Prod.map id (Session.mapTransport bare))
        (p.allocateGranted granted count s) := by
  have htransport : (s.mapTransport bare).transport = bare s.transport := rfl
  rw [allocateGranted, allocateGranted]
  split
  · rfl
  · split
    · rfl
    · split
      · rfl
      · rw [htransport, obtain_mapTransport h]
        rcases obtain count p.nextKey [] s.transport with ⟨result, t⟩
        cases result <;> rfl

lemma allocate_mapTransport (h : Transport.Covers bare) (p : Pool) (count : Nat)
    (s : Session τ' ω) : p.allocate count (s.mapTransport bare) =
      Prod.map id (Prod.map id (Session.mapTransport bare)) (p.allocate count s) := by
  rw [allocate_eq_allocateGranted, allocate_eq_allocateGranted]
  exact allocateGranted_mapTransport h p _ count s

lemma cancelSlots_mapTransport (h : Transport.Covers bare) (host : Host ω) (slots : List Slot)
    (result : Except UsbError Unit) (t : τ') : cancelSlots host slots result (bare t) =
      Prod.map id bare (cancelSlots host slots result t) := by
  induction slots generalizing result t with
  | nil => rfl
  | cons slot rest ih =>
      rw [cancelSlots, cancelSlots, h.cancel]
      split
      · rcases Transport.cancel t slot.transfer with ⟨answer, t'⟩
        cases answer <;> exact ih _ _
      · exact ih _ _

lemma cancelAll_mapTransport (h : Transport.Covers bare) (p : Pool) (s : Session τ' ω) :
    p.cancelAll (s.mapTransport bare) =
      Prod.map id (Session.mapTransport bare) (p.cancelAll s) := by
  have hcancel := cancelSlots_mapTransport h s.host p.slots (.ok ()) s.transport
  rw [cancelAll, cancelAll, Session.mapTransport, hcancel]
  rfl

lemma submitSlots_mapTransport (h : Transport.Covers bare) (length : Nat) (endpoint : UInt8)
    (consumer : κ) (slots : List Slot) (s : Session τ' ω) :
    submitSlots length endpoint consumer slots (s.mapTransport bare) =
      Prod.map id (Session.mapTransport bare)
        (submitSlots length endpoint consumer slots s) := by
  induction slots generalizing s with
  | nil => rfl
  | cons slot rest ih =>
      have hsubmit : Transport.submit (s.mapTransport bare).transport slot.transfer
        ⟨.bulkIn endpoint, zeros length, 0⟩ (.slot slot.key consumer) = _ :=
          h.submit s.transport slot.transfer _ _
      rw [submitSlots, submitSlots, hsubmit]
      split
      · rfl
      · generalize Transport.submit s.transport slot.transfer _ _ = submitted
        obtain ⟨answer, t'⟩ := submitted
        cases answer with
        | ok _ => exact ih ⟨t', s.host.arm slot.key⟩
        | error error => rfl

lemma arm_mapTransport (h : Transport.Covers bare) (p : Pool) (endpoint : UInt8) (consumer : κ)
    (s : Session τ' ω) : p.arm endpoint consumer (s.mapTransport bare) =
      Prod.map id (Session.mapTransport bare) (p.arm endpoint consumer s) := by
  have hhost : (s.mapTransport bare).host = s.host := rfl
  rw [arm, arm, hhost, submitSlots_mapTransport h]
  split
  · rfl
  · split
    · rfl
    · rcases submitSlots p.bufferSize endpoint consumer p.slots s with ⟨result, s'⟩
      cases result with
      | ok _ => rfl
      | error error =>
          dsimp only [Prod.map, id]
          rw [cancelAll_mapTransport h]
          rfl

lemma freeAll_mapTransport (h : Transport.Covers bare) (p : Pool) (s : Session τ' ω) :
    p.freeAll (s.mapTransport bare) =
      Prod.map id (Session.mapTransport bare) (p.freeAll s) := by
  have hfree := freeSlots_mapTransport h p.slots s.transport
  rw [freeAll, freeAll, Session.mapTransport, hfree]
  rfl

end Pool

namespace Analyzer

/-- The analyzer with its transport changed. -/
def mapTransport (f : τ' → τ) (a : Analyzer τ' S) : Analyzer τ S :=
  { a with session := a.session.mapTransport f }

variable [Transport τ' (Handler StreamFormat)] [Transport τ (Handler StreamFormat)]
  [SampleSink S] {bare : τ' → τ}

omit [SampleSink S] in
lemma allocateTransfers_mapTransport (h : Transport.Covers bare) (a : Analyzer τ' S) :
    (a.mapTransport bare).allocateTransfers =
      Prod.map id (mapTransport bare) a.allocateTransfers := by
  have hallocate := Pool.allocate_mapTransport h a.pool a.settings.transferPoolSize a.session
  exact congrArg (fun r : Except UsbError Unit × Pool × Session τ (Feed S) =>
    (r.1.mapError CaptureError.usb,
      ({ a.mapTransport bare with pool := r.2.1, session := r.2.2 } : Analyzer τ S))) hallocate

omit [SampleSink S] in
lemma freeTransfers_mapTransport (h : Transport.Covers bare) (a : Analyzer τ' S) :
    (a.mapTransport bare).freeTransfers = a.freeTransfers.mapTransport bare := by
  have hfree := Pool.freeAll_mapTransport h a.pool a.session
  exact congrArg (fun r : Pool × Session τ (Feed S) =>
    ({ a.mapTransport bare with pool := r.1, session := r.2 } : Analyzer τ S)) hfree

lemma negotiate_mapTransport (h : Transport.Covers bare) (a : Analyzer τ' S) :
    (a.mapTransport bare).negotiate =
      a.negotiate.map (Prod.map id (mapTransport bare)) := by
  have hcontext : (a.mapTransport bare).context = a.context := rfl
  have hsettings : (a.mapTransport bare).settings = a.settings := rfl
  have hsession : (a.mapTransport bare).session = a.session.mapTransport bare := rfl
  rw [negotiate, negotiate, hcontext, hsettings, hsession]
  dsimp only
  split
  · rfl
  · rw [Session.execute_mapTransport h]
    rcases a.session.execute _ _ _ with - | ⟨answer, s⟩
    · rfl
    · have hclaim : Transport.claim (s.mapTransport bare).transport
        Protocol.streamingInterface = _ := h.claim s.transport Protocol.streamingInterface
      dsimp only [Option.map_some, Option.bind_eq_bind, Option.bind_some, Prod.map, id]
      split
      · rfl
      · rw [hclaim]
        rcases Transport.claim s.transport Protocol.streamingInterface with ⟨claimed, t⟩
        cases claimed <;> rfl

lemma configure_mapTransport (h : Transport.Covers bare) (a : Analyzer τ' S) :
    (a.mapTransport bare).configure =
      a.configure.map (Prod.map id (mapTransport bare)) := by
  have hphase : (a.mapTransport bare).phase = a.phase := rfl
  have hnegotiate := negotiate_mapTransport h { a with phase := .configuring }
  rw [configure, configure, hphase]
  split
  · rfl
  · rw [show ({ a.mapTransport bare with phase := .configuring } : Analyzer τ S) =
      ({ a with phase := .configuring } : Analyzer τ' S).mapTransport bare from rfl, hnegotiate]
    rcases ({ a with phase := .configuring } : Analyzer τ' S).negotiate with - | ⟨result, b⟩
    · rfl
    · cases result <;> rfl

lemma stop_mapTransport (h : Transport.Covers bare) (a : Analyzer τ' S) :
    (a.mapTransport bare).stop = a.stop.map (Prod.map id (mapTransport bare)) := by
  have hrelease : Transport.release (a.mapTransport bare).session.transport
    Protocol.streamingInterface = _ := h.release a.session.transport Protocol.streamingInterface
  have hhalted : (a.mapTransport bare).halted = a.halted.mapTransport bare := by
    rw [halted, hrelease]
    rfl
  rw [stop_eq_map, stop_eq_map, hhalted,
    show (a.mapTransport bare).settings = a.settings from rfl, Session.execute_mapTransport h,
    Option.map_map, Option.map_map]
  rfl

lemma cancel_mapTransport (h : Transport.Covers bare) (a : Analyzer τ' S) :
    (a.mapTransport bare).cancel = a.cancel.map (Prod.map id (mapTransport bare)) := by
  have hcancel := Pool.cancelAll_mapTransport h a.pool a.session
  rw [cancel, cancel, show (a.mapTransport bare).pool = a.pool from rfl,
    show (a.mapTransport bare).session = a.session.mapTransport bare from rfl, hcancel]
  exact stop_mapTransport h { a with session := (a.pool.cancelAll a.session).2 }

omit [SampleSink S] in
lemma armStreaming_mapTransport (h : Transport.Covers bare) (a : Analyzer τ' S)
    (format : StreamFormat) : (a.mapTransport bare).armStreaming format =
      Prod.map id (mapTransport bare) (a.armStreaming format) := by
  have hpool : (if (a.mapTransport bare).pool.isEmpty then
      (a.mapTransport bare).allocateTransfers else (.ok (), a.mapTransport bare)) =
        Prod.map id (mapTransport bare)
          (if a.pool.isEmpty then a.allocateTransfers else (.ok (), a)) := by
    rw [show (a.mapTransport bare).pool = a.pool from rfl, allocateTransfers_mapTransport h]
    split <;> rfl
  rw [armStreaming, armStreaming, hpool]
  rcases (if a.pool.isEmpty then a.allocateTransfers else (.ok (), a)) with ⟨result, b⟩
  cases result with
  | error error => rfl
  | ok _ =>
      have harm := Pool.arm_mapTransport h b.pool format.endpoint format b.session
      dsimp only [Prod.map, id]
      rw [show (b.mapTransport bare).pool = b.pool from rfl,
        show (b.mapTransport bare).session = b.session.mapTransport bare from rfl, harm]
      rfl

lemma start_mapTransport (h : Transport.Covers bare) (a : Analyzer τ' S) :
    (a.mapTransport bare).start = a.start.map (Prod.map id (mapTransport bare)) := by
  have hexecute : (a.mapTransport bare).session.execute startPacket none
      (a.mapTransport bare).settings.commandTimeoutMs = _ :=
    Session.execute_mapTransport h a.session startPacket none a.settings.commandTimeoutMs
  have harm (format : StreamFormat) (s : Session τ' (Feed S)) :
      (({ session := s.mapTransport bare, pool := (a.mapTransport bare).pool, context := a.context,
          settings := (a.mapTransport bare).settings, phase := a.phase } :
        Analyzer τ S).openFeed format).armStreaming format = _ :=
    armStreaming_mapTransport h (({ a with session := s } : Analyzer τ' S).openFeed format) format
  rw [start, start, hexecute, show (a.mapTransport bare).phase = a.phase from rfl,
    show (a.mapTransport bare).armedCount = a.armedCount from rfl,
    show (a.mapTransport bare).context = a.context from rfl]
  split
  · rfl
  · split
    · rfl
    · split
      · rfl
      · rename_i format _
        rcases a.session.execute startPacket none a.settings.commandTimeoutMs with
          - | ⟨answer, s⟩
        · rfl
        · dsimp only [Option.map_some, Option.bind_eq_bind, Option.bind_some, Prod.map, id]
          split
          · rfl
          · rw [harm]
            rcases (({ a with session := s } : Analyzer τ' S).openFeed format).armStreaming
              format with ⟨result, b⟩
            cases result with
            | ok _ => rfl
            | error error =>
                dsimp only [Prod.map, id]
                rw [stop_mapTransport h]
                cases b.stop <;> rfl

lemma acquire_mapTransport (h : Transport.Covers bare) (a : Analyzer τ' S) :
    (a.mapTransport bare).acquire = a.acquire.map (Prod.map id (mapTransport bare)) := by
  rw [acquire, acquire, configure_mapTransport h]
  rcases a.configure with - | ⟨result, b⟩
  · rfl
  · cases result with
    | error error => rfl
    | ok response => exact start_mapTransport h b

lemma poll_mapTransport (h : Transport.Covers bare) (a : Analyzer τ' S) (ms : Nat) :
    (a.mapTransport bare).poll ms = Prod.map id (mapTransport bare) (a.poll ms) := by
  rw [poll, poll, show (a.mapTransport bare).session = a.session.mapTransport bare from rfl,
    Session.events_mapTransport h]
  rcases a.session.events ms with ⟨result, s⟩
  cases result with
  | ok _ => rfl
  | error error =>
      dsimp only [Prod.map, id]
      split <;> rfl

lemma drain_mapTransport (h : Transport.Covers bare) (passes : Nat) (s : Session τ' (Feed S)) :
    drain passes (s.mapTransport bare) = (drain passes s).mapTransport bare := by
  induction passes generalizing s with
  | zero => rfl
  | succ passes ih =>
      rw [drain, drain, Session.events_mapTransport h]
      rcases s.events drainPassMs with ⟨result, s'⟩
      cases result with
      | ok _ => exact ih s'
      | error error =>
          dsimp only [Prod.map, id]
          split
          · exact ih s'
          · rfl

lemma teardown_mapTransport (h : Transport.Covers bare) (a : Analyzer τ' S) :
    (a.mapTransport bare).teardown = a.teardown.mapTransport bare := by
  let b : Analyzer τ' S := a.withFeed { a.feed with running := false }
  let drained (s : Session τ' (Feed S)) : Session τ' (Feed S) :=
    drain drainPasses (b.pool.cancelAll s).2
  have hdrained : drain drainPasses ((b.mapTransport bare).pool.cancelAll
      (b.mapTransport bare).session).2 = (drained b.session).mapTransport bare := by
    rw [show (b.mapTransport bare).session = b.session.mapTransport bare from rfl,
      show (b.mapTransport bare).pool = b.pool from rfl, Pool.cancelAll_mapTransport h]
    exact drain_mapTransport h _ _
  rw [teardown, teardown]
  dsimp only
  rw [show (a.mapTransport bare).withFeed { (a.mapTransport bare).feed with running := false } =
    b.mapTransport bare from rfl, hdrained]
  rw [show (b.mapTransport bare).pool.isEmpty = b.pool.isEmpty from rfl]
  by_cases hempty : b.pool.isEmpty
  · rw [if_pos hempty, if_pos hempty]
    exact freeTransfers_mapTransport h b
  · rw [if_neg hempty, if_neg hempty]
    exact freeTransfers_mapTransport h { b with session := drained b.session }

/-- **Every operation does over the bare transport** what it does over the whole one. -/
theorem perform_mapTransport (h : Transport.Covers bare) (a : Analyzer τ' S) (op : Op) :
    (a.mapTransport bare).perform op =
      (a.perform op).map (Prod.map id (mapTransport bare)) := by
  have hsession : (a.mapTransport bare).session = a.session.mapTransport bare := rfl
  have hsettings : (a.mapTransport bare).settings = a.settings := rfl
  cases op
  case configure =>
    rw [perform, perform, configure_mapTransport h]
    cases a.configure <;> rfl
  case start =>
    rw [perform, perform, start_mapTransport h]
    cases a.start <;> rfl
  case stop =>
    rw [perform, perform, stop_mapTransport h]
    cases a.stop <;> rfl
  case cancel =>
    rw [perform, perform, cancel_mapTransport h]
    cases a.cancel <;> rfl
  case acquire =>
    rw [perform, perform, acquire_mapTransport h]
    cases a.acquire <;> rfl
  case poll ms =>
    rw [perform, perform, poll_mapTransport h]
    rfl
  case allocate =>
    rw [perform, perform, allocateTransfers_mapTransport h]
    rfl
  case free =>
    rw [perform, perform, freeTransfers_mapTransport h]
    rfl
  case teardown =>
    rw [perform, perform, teardown_mapTransport h]
    rfl
  case setRate hz => rfl
  case setChannels count => rfl
  case version =>
    rw [perform, perform, version_eq_map, version_eq_map, hsession, hsettings,
      Session.readCoreString_mapTransport h]
    cases a.session.readCoreString Protocol.verbReadVersion a.settings.commandTimeoutMs <;> rfl
  case serialNumber =>
    rw [perform, perform, serialNumber_eq_map, serialNumber_eq_map, hsession, hsettings,
      Session.readCoreString_mapTransport h]
    cases a.session.readCoreString Protocol.verbReadSerial a.settings.commandTimeoutMs <;> rfl

/-- **Every run does over the bare transport** what it does over the whole one. -/
theorem run_mapTransport [Scripted τ' C] [Scripted τ C] (h : Transport.Covers bare)
    (hcue : ∀ t (cue : C), Scripted.cue (bare t) cue = bare (Scripted.cue t cue))
    (steps : List (Step C)) (a : Analyzer τ' S) :
    run steps (a.mapTransport bare) = (run steps a).map (mapTransport bare) := by
  induction steps generalizing a with
  | nil => rfl
  | cons s rest ih =>
      rw [run, run]
      cases s with
      | cue cue =>
          have hcued : (a.mapTransport bare).cued cue = (a.cued cue).mapTransport bare := by
            have hscript := hcue a.session.transport cue
            rw [cued, cued, mapTransport, Session.mapTransport, hscript]
            rfl
          rw [step, step, hcued]
          exact ih _
      | call op =>
          rw [step, step, perform_mapTransport h]
          rcases a.perform op with - | ⟨answer, b⟩
          · rfl
          · exact ih b

end Analyzer

end LogicCapture
