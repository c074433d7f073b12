/-
Runs of an analyzer: operations in any order, between which the script of the transport may be
extended.

* `Scripted`: transports with a script, namely the bench, the faulty bench and the link to a
  USB stack;
* `Analyzer.Step`, `Analyzer.run`: the steps of a run, and what a run comes to;
* `Analyzer.Performs`: what an operation comes to (`Analyzer.performs_of_perform`);
* `Analyzer.Configures`: what a configure comes to (`Analyzer.configures_of_configure`);
* `Analyzer.Starts`: what a start comes to (`Analyzer.starts_of_start`);
* `Analyzer.Steady`: a property that a streaming analyzer keeps as long as nothing ends its
  stream; `Analyzer.Steady.run` follows it through such a period;
* `Analyzer.Lasting`: a property that the pieces of all operations but `start` keep;
* `Analyzer.Stable`: a property that the pieces of all operations keep; `Analyzer.Stable.run`
  shows that then whole runs keep it.
-/
import LogicCapture.Proofs.Pool.Operations
import LogicCapture.Proofs.Session.Exchange
import LogicCapture.Proofs.Wire.Packet
import LogicCapture.Usb.Bench.Fault
import LogicCapture.Usb.DeviceLink
import LogicCapture.Usb.HostStack.Script

namespace LogicCapture

/-- A transport whose device follows a script that can be extended while it is in use. -/
class Scripted (τ : Type) (C : outParam Type) where
  /-- The transport with one more entry in its script. -/
  cue : τ → C → τ

instance {H : Type} : Scripted (Bench H) Bench.Cue := ⟨Bench.cue⟩

instance {H : Type} : Scripted (FaultyBench H) FaultyBench.Cue := ⟨FaultyBench.cue⟩

instance {H : Type} : Scripted (DeviceLink H) HostStack.Cue :=
  ⟨fun link cue => { link with stack := link.stack.cue cue }⟩

/-- An error of the transport is reported as such. -/
lemma CaptureError.usb_of_mapError {result : Except UsbError Unit} {error : CaptureError}
    (h : result.mapError .usb = .error error) : ∃ cause, error = .usb cause := by
  cases result with
  | error cause => exact ⟨cause, (Except.error.inj h).symm⟩
  | ok _ => cases h

namespace Analyzer

variable {τ S C : Type}

/-- A step of a run: an operation, or an entry for the script of the transport. -/
inductive Step (C : Type) where
  | call (op : Op)
  | cue (cue : C)

/-- The operations after which no stream runs on: they end it whatever they answer. -/
def Op.endsStream : Op → Bool
  | stop | cancel | teardown => true
  | _ => false

/-- The operations that begin a stream if they succeed. -/
def Op.opensStream : Op → Bool
  | start | acquire => true
  | _ => false

/-- The steps with an operation that ends a stream. -/
def Step.endsStream : Step C → Bool
  | call op => op.endsStream
  | cue _ => false

/-- The analyzer on a transport with one more entry in its script. -/
def cued [Scripted τ C] (a : Analyzer τ S) (cue : C) : Analyzer τ S :=
  { a with session := { a.session with transport := Scripted.cue a.session.transport cue } }

variable [Transport τ (Handler StreamFormat)] [SampleSink S] [Scripted τ C]

/-- Takes a step; `none` if the operation never returns. -/
def step (a : Analyzer τ S) : Step C → Option (Analyzer τ S)
  | .call op => (a.perform op).map (·.2)
  | .cue cue => some (a.cued cue)

/-- Takes steps in turn. -/
def run : List (Step C) → Analyzer τ S → Option (Analyzer τ S)
  | [], a => some a
  | step :: rest, a => (a.step step).bind (run rest)

/-- What every step keeps, a run keeps. -/
lemma run_induction {I : Analyzer τ S → Prop} {steps : List (Step C)} {a a' : Analyzer τ S}
    (hstep : ∀ {b b'}, ∀ s ∈ steps, I b → b.step s = some b' → I b') (ha : I a)
    (hrun : run steps a = some a') : I a' := by
  induction steps generalizing a with
  | nil =>
      cases hrun
      exact ha
  | cons s rest ih =>
      obtain ⟨b, hfirst, hrest⟩ := Option.bind_eq_some_iff.mp hrun
      exact ih (fun later hlater => hstep later (List.mem_cons_of_mem _ hlater))
        (hstep s List.mem_cons_self ha hfirst) hrest

/-- A run in two parts. -/
lemma run_append (before after : List (Step C)) (a : Analyzer τ S) :
    run (before ++ after) a = (run before a).bind (run after) := by
  induction before generalizing a with
  | nil => rfl
  | cons s rest ih =>
      rw [List.cons_append, run, run, Option.bind_assoc]
      exact Option.bind_congr fun b _ => ih b

/-- A run and its last step. -/
lemma run_concat_eq_some {before : List (Step C)} {s : Step C} {a a' : Analyzer τ S} :
    run (before ++ [s]) a = some a' ↔ ∃ b, run before a = some b ∧ b.step s = some a' := by
  simp [run_append, run, Option.bind_eq_some_iff]

/-! ### The operations that are made of others -/

/-- Acquiring is configuring and, if that succeeds, starting. -/
lemma acquire_eq_some {a a' : Analyzer τ S} {result : Except CaptureError Unit} :
    a.acquire = some (result, a') ↔
      (∃ error, a.configure = some (.error error, a') ∧ result = .error error) ∨
        ∃ response b, a.configure = some (.ok response, b) ∧ b.start = some (result, a') := by
  rw [acquire]
  simp only [Option.bind_eq_bind, Option.bind_eq_some_iff, Prod.exists]
  constructor
  · rintro ⟨answer, b, hconf, h⟩
    cases answer with
    | error error =>
        cases h
        exact Or.inl ⟨error, hconf, rfl⟩
    | ok response => exact Or.inr ⟨response, b, hconf, h⟩
  · rintro (⟨error, hconf, rfl⟩ | ⟨response, b, hconf, h⟩)
    · exact ⟨_, _, hconf, rfl⟩
    · exact ⟨_, _, hconf, h⟩

/-- The session in which the stop command is sent: the stream does not run any more, and the
interface has been given back. -/
def halted (a : Analyzer τ S) : Session τ (Feed S) where
  transport := (Transport.release a.session.transport Protocol.streamingInterface).2
  host := { a.session.host with shared := { a.feed with running := false } }

/-- Tells the sink of the end of the acquisition. -/
def notified (a : Analyzer τ S) : Analyzer τ S :=
  a.withFeed { a.feed with sink := SampleSink.stopped a.feed.sink }

/-- **Stopping** sends the stop command in a halted session; then the analyzer is idle and the
sink is told, whatever the device has answered. -/
lemma stop_eq_map (a : Analyzer τ S) : a.stop =
    (a.halted.execute stopPacket none a.settings.stopTimeoutMs).map fun r =>
      ((r.1.result.map fun _ => ()).mapError (.command "stop"),
        ({ a with session := r.2, phase := .idle } : Analyzer τ S).notified) := by
  have hhalted : a.halted.execute stopPacket none a.settings.stopTimeoutMs =
    (⟨(Transport.release a.session.transport Protocol.streamingInterface).2,
      { a.session.host with shared := { a.feed with running := false } }⟩ :
        Session τ (Feed S)).execute stopPacket none a.settings.stopTimeoutMs := rfl
  rw [stop, hhalted]
  dsimp only [withFeed]
  rcases Session.execute _ _ _ _ with - | ⟨answer, session⟩
  · rfl
  · dsimp only [Option.map_some, Option.bind_eq_bind, Option.bind_some]
    cases answer.result <;> rfl

lemma stop_eq_some {a b : Analyzer τ S} {result : Except CaptureError Unit} :
    a.stop = some (result, b) ↔ ∃ answer session,
      a.halted.execute stopPacket none a.settings.stopTimeoutMs = some (answer, session) ∧
      result = (answer.result.map fun _ => ()).mapError (.command "stop") ∧
      b = ({ a with session, phase := .idle } : Analyzer τ S).notified := by
  rw [stop_eq_map, Option.map_eq_some_iff]
  constructor
  · rintro ⟨⟨answer, session⟩, hex, hend⟩
    cases hend
    exact ⟨answer, session, hex, rfl, rfl⟩
  · rintro ⟨answer, session, hex, rfl, rfl⟩
    exact ⟨(answer, session), hex, rfl⟩

/-- A streaming analyzer refuses to be configured. -/
lemma configure_of_streaming {a : Analyzer τ S} (h : a.phase = .streaming) :
    a.configure = some (.error (.invalidPhase "configure" .streaming), a) := by
  rw [configure, if_pos h, h]

/-- A streaming analyzer refuses to be started. -/
lemma start_of_streaming {a : Analyzer τ S} (h : a.phase = .streaming) :
    a.start = some (.error (.invalidPhase "start" .streaming), a) := by
  rw [start, if_pos (by simp [h]), h]

/-- Reading the version reads a string of the core class. -/
lemma version_eq_map (a : Analyzer τ S) : a.version =
    (a.session.readCoreString Protocol.verbReadVersion a.settings.commandTimeoutMs).map
      fun told => (told.1, { a with session := told.2 }) := by
  rw [version, Session.version, Option.map_eq_bind]
  rfl

/-- So does reading the serial number. -/
lemma serialNumber_eq_map (a : Analyzer τ S) : a.serialNumber =
    (a.session.readCoreString Protocol.verbReadSerial a.settings.commandTimeoutMs).map
      fun told => (told.1, { a with session := told.2 }) := by
  rw [serialNumber, Session.serialNumber, Option.map_eq_bind]
  rfl

/-! ### What an operation comes to -/

/-- **What an operation comes to**: its answer, and the analyzer that it leaves. -/
inductive Performs (a : Analyzer τ S) : Op → Answer → Analyzer τ S → Prop where
  | configure {result b} : a.configure = some (result, b) →
      Performs a .configure (.configured result) b
  | start {result b} : a.start = some (result, b) → Performs a .start (.done result) b
  | stop {result b} : a.stop = some (result, b) → Performs a .stop (.done result) b
  | cancel {result b} : a.cancel = some (result, b) → Performs a .cancel (.done result) b
  | acquire {result b} : a.acquire = some (result, b) → Performs a .acquire (.done result) b
  | poll {ms} : Performs a (.poll ms) (.done (a.poll ms).1) (a.poll ms).2
  | allocate : Performs a .allocate (.done a.allocateTransfers.1) a.allocateTransfers.2
  | free : Performs a .free (.done (.ok ())) a.freeTransfers
  | teardown : Performs a .teardown (.done (.ok ())) a.teardown
  | setRate {hz} : Performs a (.setRate hz) (.done (.ok ())) (a.setSampleRate hz)
  | setChannels {count} :
      Performs a (.setChannels count) (.done (.ok ())) (a.setNumChannels count)
  | version {text session} :
      a.session.readCoreString Protocol.verbReadVersion a.settings.commandTimeoutMs =
        some (text, session) → Performs a .version (.text text) { a with session }
  | serialNumber {text session} :
      a.session.readCoreString Protocol.verbReadSerial a.settings.commandTimeoutMs =
        some (text, session) → Performs a .serialNumber (.text text) { a with session }

theorem performs_of_perform {a b : Analyzer τ S} {op : Op} {answer : Answer}
    (h : a.perform op = some (answer, b)) : a.Performs op answer b := by
  cases op
  case poll | allocate | free | teardown | setRate | setChannels =>
    cases h
    constructor
  case version =>
    rw [perform, version_eq_map, Option.map_map] at h
    obtain ⟨told, hread, hend⟩ := Option.map_eq_some_iff.mp h
    cases hend
    exact .version hread
  case serialNumber =>
    rw [perform, serialNumber_eq_map, Option.map_map] at h
    obtain ⟨told, hread, hend⟩ := Option.map_eq_some_iff.mp h
    cases hend
    exact .serialNumber hread
  all_goals
    obtain ⟨done, hrun, hend⟩ := Option.map_eq_some_iff.mp h
    cases hend
    constructor
    exact hrun

/-- An operation that begins a stream ends in a start, perhaps after a configure. -/
lemma start_of_perform {a a' : Analyzer τ S} {op : Op} (hop : op.opensStream = true)
    (h : a.perform op = some (.done (.ok ()), a')) :
    ∃ b, (b = a ∨ ∃ response, a.configure = some (.ok response, b)) ∧
      b.start = some (.ok (), a') := by
  cases op <;> cases hop <;> simp only [perform, Option.map_eq_some_iff, Prod.exists,
    Prod.mk.injEq, Answer.done.injEq] at h
  case start =>
    obtain ⟨result, b, hstart, rfl, rfl⟩ := h
    exact ⟨a, Or.inl rfl, hstart⟩
  case acquire =>
    obtain ⟨result, b, hacquire, rfl, rfl⟩ := h
    rcases acquire_eq_some.mp hacquire with ⟨error, _, hno⟩ | ⟨response, c, hconf, hstart⟩
    · cases hno
    · exact ⟨c, Or.inr ⟨response, hconf⟩, hstart⟩

/-! ### Arming in other ways -/

/-- A way to arm a pool for a stream. -/
abbrev Arming (τ S : Type) : Type :=
  StreamFormat → Pool → Session τ (Feed S) → Except UsbError Unit × Session τ (Feed S)

/-- Arming as it is. -/
def arming : Arming τ S := fun format p s => p.arm format.endpoint format s

/-- Arming whose buffers are granted or denied as `granted` says. -/
def granting (granted : Pool.Slot → Bool) : Arming τ S := fun format p s =>
  p.armGranted granted format.endpoint format s

/-- Arms the stream, the pool in the given way. -/
def armStreamingBy (arm : Arming τ S) (a : Analyzer τ S) (format : StreamFormat) :
    Except CaptureError Unit × Analyzer τ S :=
  match if a.pool.isEmpty then a.allocateTransfers else (.ok (), a) with
  | (.error error, a) => (.error error, a)
  | (.ok (), a) =>
    let (result, session) := arm format a.pool a.session
    (result.mapError .usb, { a with session })

/-- Starts with the pool armed in the given way. -/
def startBy (arm : Arming τ S) (a : Analyzer τ S) :
    Option (Except CaptureError Unit × Analyzer τ S) :=
  if a.phase ≠ .configured then some (.error (.invalidPhase "start" a.phase), a)
  else if 0 < a.armedCount then some (.error (.transfersPending a.armedCount), a)
  else
    match a.context.streamFormat with
    | none => some (.error (.invalidPhase "start" a.phase), a)
    | some format => do
      let (answer, session) ← a.session.execute startPacket none a.settings.commandTimeoutMs
      let a := { a with session }
      match answer.result with
      | .error error => return (.error (.command "start" error), { a with phase := .idle })
      | .ok _ =>
        match (a.openFeed format).armStreamingBy arm format with
        | (.ok (), a) => return (.ok (), { a with phase := .streaming })
        | (.error error, a) =>
          let (_, a) ← a.stop
          return (.error error, a)

omit [SampleSink S] in
lemma armStreaming_eq_armStreamingBy (a : Analyzer τ S) (format : StreamFormat) :
    a.armStreaming format = a.armStreamingBy arming format := rfl

lemma start_eq_startBy (a : Analyzer τ S) : a.start = a.startBy arming := rfl

omit [SampleSink S] in
/-- No pool changes the size of its buffers, so they are granted all together or not at all. -/
lemma armStreaming_eq_granting (a : Analyzer τ S) (format : StreamFormat) :
    a.armStreaming format = a.armStreamingBy
      (granting fun _ => a.pool.bufferSize ≤ Pool.addressSpace) format := by
  have hsize : (if a.pool.isEmpty then a.allocateTransfers else (.ok (), a)).2.pool.bufferSize =
      a.pool.bufferSize := by
    split
    · exact Pool.bufferSize_allocate _ _ _
    · rfl
  rw [armStreaming, armStreamingBy]
  generalize (if a.pool.isEmpty then a.allocateTransfers else (.ok (), a)) = pooled at hsize ⊢
  obtain ⟨result, b⟩ := pooled
  cases result with
  | error error => rfl
  | ok _ =>
      dsimp only [granting] at hsize ⊢
      rw [Pool.arm_eq_armGranted, hsize]

/-- A start is one whose buffers are granted if there is room for one of them. -/
lemma start_eq_granting (a : Analyzer τ S) :
    a.start = a.startBy (granting fun _ => a.pool.bufferSize ≤ Pool.addressSpace) := by
  rw [start, startBy]
  simp only [armStreaming_eq_granting]
  rfl

omit [SampleSink S] in
/-- What allocation and arming keep, arming the stream keeps. -/
lemma armStreamingBy_induction {I : Analyzer τ S → Prop} {arm : Arming τ S} {a : Analyzer τ S}
    {format : StreamFormat} (hallocate : ∀ {b}, I b → I b.allocateTransfers.2)
    (harm : ∀ {b}, I b → I { b with session := (arm format b.pool b.session).2 })
    (ha : I a) : I (a.armStreamingBy arm format).2 := by
  have hpool : I (if a.pool.isEmpty then a.allocateTransfers else (.ok (), a)).2 := by
    split
    · exact hallocate ha
    · exact ha
  rw [armStreamingBy]
  split
  · rename_i hrun
    rw [hrun] at hpool
    exact hpool
  · rename_i hrun
    rw [hrun] at hpool
    exact harm hpool

omit [SampleSink S] in
lemma armStreaming_induction {I : Analyzer τ S → Prop} {a : Analyzer τ S} {format : StreamFormat}
    (hallocate : ∀ {b}, I b → I b.allocateTransfers.2)
    (harm : ∀ {b}, I b → I { b with
      session := (b.pool.arm format.endpoint format b.session).2 })
    (ha : I a) : I (a.armStreaming format).2 := by
  rw [armStreaming_eq_armStreamingBy]
  exact armStreamingBy_induction hallocate harm ha

omit [SampleSink S] in
/-- An allocation concerns the pool and its session. -/
lemma allocates_of_allocateTransfers {a b : Analyzer τ S} {result : Except CaptureError Unit}
    (h : a.allocateTransfers = (result, b)) : ∃ answer pool session,
      a.pool.Allocates a.settings.transferPoolSize a.session answer pool session ∧
        result = answer.mapError .usb ∧ b = { a with pool, session } := by
  rcases hrun : a.pool.allocate a.settings.transferPoolSize a.session with ⟨answer, pool, session⟩
  rw [allocateTransfers, hrun] at h
  cases h
  exact ⟨answer, pool, session, Pool.allocates_of_allocate hrun, rfl, rfl⟩

omit [SampleSink S] in
/-- If the stream cannot be armed, that is the transport's fault. -/
lemma error_of_armStreaming {a b : Analyzer τ S} {format : StreamFormat} {error : CaptureError}
    (h : a.armStreaming format = (.error error, b)) : ∃ cause, error = .usb cause := by
  rw [armStreaming] at h
  split at h
  · rename_i hpool
    cases h
    split at hpool
    · obtain ⟨answer, pool, session, -, hanswer, -⟩ := allocates_of_allocateTransfers hpool
      exact CaptureError.usb_of_mapError hanswer.symm
    · cases hpool
  · exact CaptureError.usb_of_mapError (congrArg Prod.fst h)

/-- What event passes keep, draining keeps. -/
lemma drain_induction {R : Session τ (Feed S) → Prop}
    (hpass : ∀ {s} ms, R s → R (s.events ms).2) {s : Session τ (Feed S)} (passes : Nat) (hs : R s) :
    R (drain passes s) := by
  induction passes generalizing s with
  | zero => exact hs
  | succ passes ih =>
      have hafter := hpass drainPassMs hs
      rw [drain]
      split
      · rename_i hev
        rw [hev] at hafter
        exact ih hafter
      · rename_i hev
        rw [hev] at hafter
        split
        · exact ih hafter
        · exact hafter

omit [SampleSink S] in
/-- The stream is armed if the pool has slots, or gets some, and all of them can be submitted. -/
lemma armStreaming_eq_ok {a a' : Analyzer τ S} {format : StreamFormat}
    (h : a.armStreaming format = (.ok (), a')) :
    ∃ b session, (b = a ∨ b = a.allocateTransfers.2) ∧ b.pool.isEmpty = false ∧
      b.pool.armedCount b.session.host = 0 ∧
      Pool.submitSlots b.pool.bufferSize format.endpoint format b.pool.slots b.session =
        (.ok (), session) ∧ a' = { b with session } := by
  have harm {b : Analyzer τ S} {result : Except UsbError Unit} {session : Session τ (Feed S)}
      (hrun : b.pool.arm format.endpoint format b.session = (result, session))
      (hok : result = .ok ()) : b.pool.isEmpty = false ∧
        b.pool.armedCount b.session.host = 0 ∧
        Pool.submitSlots b.pool.bufferSize format.endpoint format b.pool.slots b.session =
          (.ok (), session) := by
    rw [Pool.arm] at hrun
    split at hrun
    · cases hrun
      cases hok
    · rename_i hempty
      split at hrun
      · cases hrun
        cases hok
      · rename_i hidle
        split at hrun
        · rename_i hsubmit
          cases hrun
          exact ⟨by simpa using hempty, by omega, hsubmit⟩
        · cases hrun
          cases hok
  rw [armStreaming] at h
  split at h
  · cases h
  · rename_i b hpool
    rcases hrun : b.pool.arm format.endpoint format b.session with ⟨result, session⟩
    rw [hrun] at h
    cases result with
    | error error => cases h
    | ok _ =>
        cases h
        refine ⟨b, session, ?_, (harm hrun rfl).1, (harm hrun rfl).2.1, (harm hrun rfl).2.2, rfl⟩
        split at hpool
        · exact Or.inr (congrArg Prod.snd hpool).symm
        · exact Or.inl (Prod.mk.inj hpool).2.symm

/-- **What reading a response comes to.** -/
inductive Reads (answer : CommandResult) : Except CaptureError ConfigureResponse → Prop where
  /-- The command has failed. -/
  | failed {cause} : answer.result = .error cause →
      Reads answer (.error (.command "configure" cause))
  /-- What has been received is no response, or not a valid one. -/
  | rejected {n cause} : answer.result = .ok n → Reads answer (.error (.wire cause))
  /-- A valid response has been received. -/
  | accepted {n response} : answer.result = .ok n → response.validate = .ok () →
      Reads answer (.ok response)

lemma reads_readResponse (answer : CommandResult) : Reads answer (readResponse answer) := by
  rw [readResponse]
  cases hresult : answer.result with
  | error cause => exact .failed hresult
  | ok n =>
      simp only [Except.mapError, bind, Except.bind]
      cases ConfigureResponse.decode ((answer.response.getD []).take n) with
      | error cause => exact .rejected hresult
      | ok response =>
          dsimp only
          cases hvalid : response.validate with
          | error cause => exact .rejected hresult
          | ok valid => exact .accepted hresult hvalid

/-- A response that is read is valid, and it has been received. -/
lemma valid_of_readResponse {answer : CommandResult} {response : ConfigureResponse}
    (h : readResponse answer = .ok response) :
    response.validate = .ok () ∧ ∃ n, answer.result = .ok n := by
  have hreads := reads_readResponse answer
  rw [h] at hreads
  cases hreads with
  | accepted hresult hvalid => exact ⟨hvalid, _, hresult⟩

/-- **What has been received is accepted** just if it has nine bytes and the endpoint leads to the
host. -/
lemma readResponse_eq_ok_iff {n : Nat} {bytes : Bytes} {r : ConfigureResponse} :
    readResponse ⟨.ok n, some bytes⟩ = .ok r ↔
      ConfigureResponse.size ≤ (bytes.take n).length ∧ isInEndpoint r.endpoint = true ∧
        r = .spelled (bytes.take n) := by
  rw [readResponse]
  simp only [Except.mapError, bind, Except.bind, Option.getD_some]
  cases hdecode : ConfigureResponse.decode (bytes.take n) with
  | error error =>
      have hnone : ¬ (ConfigureResponse.size ≤ (bytes.take n).length ∧
          r = .spelled (bytes.take n)) := fun hlong => by
        rw [ConfigureResponse.decode_eq_ok_iff.mpr hlong] at hdecode
        cases hdecode
      simp only [reduceCtorEq, false_iff]
      exact fun ⟨hlong, _, heq⟩ => hnone ⟨hlong, heq⟩
  | ok response =>
      obtain ⟨hlong, rfl⟩ := ConfigureResponse.decode_eq_ok_iff.mp hdecode
      by_cases hin : isInEndpoint (ConfigureResponse.spelled (bytes.take n)).endpoint = true
      · simp only [ConfigureResponse.validate, if_pos hin, pure, Except.pure, Except.ok.injEq]
        exact ⟨fun heq => ⟨hlong, heq ▸ hin, heq.symm⟩, fun h => h.2.2.symm⟩
      · simp only [ConfigureResponse.validate, if_neg hin, reduceCtorEq, false_iff]
        rintro ⟨-, hno, rfl⟩
        exact hin hno

/-- What a configure asks of the device. -/
def request (a : Analyzer τ S) : ConfigurePayload :=
  ⟨UInt32.ofNat a.context.sampleRateHz, a.context.numChannels⟩

/-- The configure command is sent. -/
structure Asks (a : Analyzer τ S) (answer : CommandResult) (session : Session τ (Feed S)) :
    Prop where
  notStreaming : a.phase ≠ .streaming
  sent : a.session.execute a.request.toPacket (some (zeros ConfigureResponse.size))
    a.settings.commandTimeoutMs = some (answer, session)

/-- **What a configure comes to.** -/
inductive Configures (a : Analyzer τ S) :
    Except CaptureError ConfigureResponse → Analyzer τ S → Prop where
  /-- It is refused, and nothing is sent. -/
  | refused : a.phase = .streaming →
      Configures a (.error (.invalidPhase "configure" .streaming)) a
  /-- The rate does not fit the command, and nothing is sent. -/
  | unasked {error} : a.phase ≠ .streaming → UInt32.size ≤ a.context.sampleRateHz →
      Configures a (.error error) { a with context := a.context.clear, phase := .idle }
  /-- The device gives no answer that is valid. -/
  | unanswered {answer session error} :
      a.Asks answer session → readResponse answer = .error error →
      Configures a (.error error) { a with session, context := a.context.clear, phase := .idle }
  /-- The streaming interface cannot be claimed. -/
  | unclaimed {answer session response error} :
      a.Asks answer session → readResponse answer = .ok response →
      (Transport.claim session.transport Protocol.streamingInterface).1 = .error error →
      Configures a (.error (.usb error)) { a with
        session := { session with
          transport := (Transport.claim session.transport Protocol.streamingInterface).2 }
        context := (a.context.apply response).clear, phase := .idle }
  /-- Device and host agree. -/
  | agreed {answer session response} :
      a.Asks answer session → readResponse answer = .ok response →
      (Transport.claim session.transport Protocol.streamingInterface).1 = .ok () →
      Configures a (.ok response) { a with
        session := { session with
          transport := (Transport.claim session.transport Protocol.streamingInterface).2 }
        context := a.context.apply response, phase := .configured }

lemma configures_of_configure {a b : Analyzer τ S} {result : Except CaptureError ConfigureResponse}
    (h : a.configure = some (result, b)) : a.Configures result b := by
  by_cases hphase : a.phase = .streaming
  · cases (configure_of_streaming hphase).symm.trans h
    exact .refused hphase
  · rw [configure, if_neg hphase, negotiate] at h
    dsimp only at h
    split at h
    · rename_i hlarge
      cases h
      exact .unasked hphase hlarge
    · simp only [Option.bind_eq_bind, Option.bind_eq_some_iff, Prod.exists] at h
      obtain ⟨answer, b', ⟨reply, session, hsent, hrest⟩, h⟩ := h
      have hasks : a.Asks reply session := ⟨hphase, hsent⟩
      split at hrest
      · rename_i hread
        cases hrest
        cases h
        exact .unanswered hasks hread
      · rename_i hread
        split at hrest
        · rename_i hclaim
          cases hrest
          cases h
          exact .unclaimed hasks hread hclaim
        · rename_i hclaim
          cases hrest
          cases h
          exact .agreed hasks hread hclaim

/-- **A configure succeeds** with the response that it is given, if the rate fits and the interface
can be claimed. -/
lemma configure_of_asks {a : Analyzer τ S} {answer : CommandResult} {session : Session τ (Feed S)}
    {response : ConfigureResponse} (hrate : a.context.sampleRateHz < UInt32.size)
    (hasks : a.Asks answer session) (hread : readResponse answer = .ok response)
    (hclaim : (Transport.claim session.transport Protocol.streamingInterface).1 = .ok ()) :
    a.configure = some (.ok response, { a with
      session := { session with
        transport := (Transport.claim session.transport Protocol.streamingInterface).2 }
      context := a.context.apply response, phase := .configured }) := by
  have hsent := hasks.sent
  rw [request] at hsent
  have hclaimed : Transport.claim session.transport Protocol.streamingInterface =
      (.ok (), (Transport.claim session.transport Protocol.streamingInterface).2) :=
    Prod.ext hclaim rfl
  rw [configure, if_neg hasks.notStreaming, negotiate, if_neg (Nat.not_le.mpr hrate)]
  simp only [Option.bind_eq_bind, hsent, Option.bind_some, hread]
  rw [hclaimed]
  rfl

/-- The start command is sent: the format is known, and no slot is armed. -/
structure Launches (a : Analyzer τ S) (format : StreamFormat) (answer : CommandResult)
    (session : Session τ (Feed S)) : Prop where
  configured : a.phase = .configured
  unarmed : a.armedCount = 0
  known : a.context.streamFormat = some format
  sent : a.session.execute startPacket none a.settings.commandTimeoutMs = some (answer, session)

/-- **What a start comes to.** -/
inductive Starts (a : Analyzer τ S) : Except CaptureError Unit → Analyzer τ S → Prop where
  /-- It is refused, and nothing is sent. -/
  | refused {error} : Starts a (.error error) a
  /-- The device does not carry the start command out. -/
  | failed {format answer session error} :
      a.Launches format answer session → Starts a (.error error) { a with session, phase := .idle }
  /-- The stream is armed. -/
  | armed {format answer session b n} :
      a.Launches format answer session →
      (({ a with session } : Analyzer τ S).openFeed format).armStreaming format = (.ok (), b) →
      answer.result = .ok n → Starts a (.ok ()) { b with phase := .streaming }
  /-- The stream cannot be armed, and the device is stopped again. -/
  | undone {format answer session b error ended c n} :
      a.Launches format answer session →
      (({ a with session } : Analyzer τ S).openFeed format).armStreaming format =
        (.error error, b) →
      b.stop = some (ended, c) → answer.result = .ok n → Starts a (.error error) c

/-- Why a start is refused. -/
inductive Refuses (a : Analyzer τ S) : CaptureError → Prop where
  | unconfigured : a.phase ≠ .configured → Refuses a (.invalidPhase "start" a.phase)
  | pending : a.phase = .configured → 0 < a.armedCount →
      Refuses a (.transfersPending a.armedCount)
  | unknown : a.phase = .configured → a.armedCount = 0 → a.context.streamFormat = none →
      Refuses a (.invalidPhase "start" a.phase)

/-- What a start comes to, with its errors and with the pool armed in the given way. -/
inductive StartsBy (arm : Arming τ S) (a : Analyzer τ S) :
    Except CaptureError Unit → Analyzer τ S → Prop where
  | refused {error} : a.Refuses error → StartsBy arm a (.error error) a
  | failed {format answer session cause} :
      a.Launches format answer session → answer.result = .error cause →
      StartsBy arm a (.error (.command "start" cause)) { a with session, phase := .idle }
  | armed {format answer session b n} :
      a.Launches format answer session → answer.result = .ok n →
      (({ a with session } : Analyzer τ S).openFeed format).armStreamingBy arm format =
        (.ok (), b) →
      StartsBy arm a (.ok ()) { b with phase := .streaming }
  | undone {format answer session b error ended c n} :
      a.Launches format answer session → answer.result = .ok n →
      (({ a with session } : Analyzer τ S).openFeed format).armStreamingBy arm format =
        (.error error, b) →
      b.stop = some (ended, c) → StartsBy arm a (.error error) c

lemma startsBy_of_startBy {arm : Arming τ S} {a b : Analyzer τ S}
    {result : Except CaptureError Unit} (h : a.startBy arm = some (result, b)) :
    a.StartsBy arm result b := by
  rw [startBy] at h
  split at h
  · rename_i hphase
    cases h
    exact .refused (.unconfigured hphase)
  · rename_i hphase
    have hphase := not_not.mp hphase
    split at h
    · rename_i harmed
      cases h
      exact .refused (.pending hphase harmed)
    · rename_i harmed
      have hidle := Nat.eq_zero_of_not_pos harmed
      split at h
      · rename_i hformat
        cases h
        exact .refused (.unknown hphase hidle hformat)
      · rename_i format hformat
        simp only [Option.bind_eq_bind, Option.bind_eq_some_iff, Prod.exists] at h
        obtain ⟨answer, session, hex, hrest⟩ := h
        have hsent : a.Launches format answer session := ⟨hphase, hidle, hformat, hex⟩
        split at hrest
        · rename_i hfail
          cases hrest
          exact .failed hsent hfail
        · rename_i hok
          split at hrest
          · rename_i harm
            cases hrest
            exact .armed hsent hok harm
          · rename_i harm
            simp only [Option.bind_eq_some_iff, Prod.exists] at hrest
            obtain ⟨ended, c, hstop, hend⟩ := hrest
            cases hend
            exact .undone hsent hok harm hstop

lemma starts_of_start {a b : Analyzer τ S} {result : Except CaptureError Unit}
    (h : a.start = some (result, b)) : a.Starts result b := by
  rw [start_eq_startBy] at h
  cases startsBy_of_startBy h with
  | refused _ => exact .refused
  | failed hsent _ => exact .failed hsent
  | armed hsent hok harm => exact .armed hsent harm hok
  | undone hsent hok harm hstop => exact .undone hsent harm hstop hok

/-- **A successful start** finds the analyzer configured and its slots idle, is acknowledged by
the device, and arms the stream. -/
lemma start_eq_ok {a a' : Analyzer τ S} (h : a.start = some (.ok (), a')) :
    ∃ format answer session b, a.phase = .configured ∧ a.armedCount = 0 ∧
      a.context.streamFormat = some format ∧
      a.session.execute startPacket none a.settings.commandTimeoutMs = some (answer, session) ∧
      (({ a with session } : Analyzer τ S).openFeed format).armStreaming format = (.ok (), b) ∧
      a' = { b with phase := .streaming } := by
  cases starts_of_start h with
  | armed hsent harm =>
      exact ⟨_, _, _, _, hsent.configured, hsent.unarmed, hsent.known, hsent.sent, harm, rfl⟩

/-- A successful start leaves the analyzer streaming on a pool that has slots. -/
lemma streaming_of_start {a b : Analyzer τ S} (h : a.start = some (.ok (), b)) :
    b.phase = .streaming ∧ b.pool.isEmpty = false := by
  obtain ⟨format, answer, session, c, -, -, -, -, harm, rfl⟩ := start_eq_ok h
  obtain ⟨d, session', -, hslots, -, -, rfl⟩ := armStreaming_eq_ok harm
  exact ⟨rfl, hslots⟩

/-- A successful start leaves every slot of the pool armed. -/
lemma armed_of_start {a b : Analyzer τ S} (h : a.start = some (.ok (), b)) :
    ∀ slot ∈ b.pool.slots, slot.key ∈ b.session.host.armed := by
  obtain ⟨format, answer, session, c, -, -, -, -, harm, rfl⟩ := start_eq_ok h
  obtain ⟨d, session', -, -, -, hsubmit, rfl⟩ := armStreaming_eq_ok harm
  exact (Pool.armed_of_submitSlots hsubmit).2

omit [Transport τ (Handler StreamFormat)] [SampleSink S] in
lemma armedCount_eq_zero {a : Analyzer τ S} :
    a.armedCount = 0 ↔ ∀ slot ∈ a.pool.slots, slot.key ∉ a.session.host.armed :=
  Pool.armedCount_eq_zero_iff

/-! ### Phases -/

/-- A configure is refused while streaming, or leaves the analyzer configured or idle. -/
lemma phase_of_configure {a a' : Analyzer τ S} {result : Except CaptureError ConfigureResponse}
    (h : a.configure = some (result, a')) :
    (a.phase = .streaming ∧ a' = a ∧ result = .error (.invalidPhase "configure" .streaming)) ∨
      (a'.phase = .configured ∧ ∃ response, result = .ok response) ∨
      (a'.phase = .idle ∧ ∃ error, result = .error error) := by
  cases configures_of_configure h with
  | refused hphase => exact Or.inl ⟨hphase, rfl, rfl⟩
  | unasked _ => exact Or.inr (Or.inr ⟨rfl, _, rfl⟩)
  | unanswered _ _ => exact Or.inr (Or.inr ⟨rfl, _, rfl⟩)
  | unclaimed _ _ _ => exact Or.inr (Or.inr ⟨rfl, _, rfl⟩)
  | agreed _ _ _ => exact Or.inr (Or.inl ⟨rfl, _, rfl⟩)

/-- Stopping leaves the analyzer idle and its context as it was. -/
lemma phase_of_stop {a a' : Analyzer τ S} {result : Except CaptureError Unit}
    (h : a.stop = some (result, a')) : a'.phase = .idle ∧ a'.context = a.context := by
  obtain ⟨answer, session, -, -, rfl⟩ := stop_eq_some.mp h
  exact ⟨rfl, rfl⟩

/-- A start is refused, or leaves the analyzer streaming if it succeeds and idle if it fails. -/
lemma phase_of_start {a a' : Analyzer τ S} {result : Except CaptureError Unit}
    (h : a.start = some (result, a')) :
    a' = a ∨ (a'.phase = .streaming ∧ result = .ok ()) ∨ a'.phase = .idle := by
  cases starts_of_start h with
  | refused => exact Or.inl rfl
  | failed _ => exact Or.inr (Or.inr rfl)
  | armed _ _ => exact Or.inr (Or.inl ⟨rfl, rfl⟩)
  | undone _ _ hstop => exact Or.inr (Or.inr (phase_of_stop hstop).1)

/-- An event pass leaves context and phase alone. -/
lemma frame_poll (a : Analyzer τ S) (ms : Nat) :
    (a.poll ms).2.context = a.context ∧ (a.poll ms).2.phase = a.phase := by
  rw [poll]
  dsimp only
  split
  · exact ⟨rfl, rfl⟩
  · split <;> exact ⟨rfl, rfl⟩

/-- So does a teardown. -/
lemma frame_teardown (a : Analyzer τ S) :
    a.teardown.context = a.context ∧ a.teardown.phase = a.phase := by
  rw [teardown]
  dsimp only
  split <;> exact ⟨rfl, rfl⟩

/-- Of the operations that begin no stream, only `configure` and the setters touch the context,
and only `configure` leaves the analyzer in another phase than before or idle. -/
lemma frame_of_perform {a b : Analyzer τ S} {op : Op} {answer : Answer}
    (hopens : op.opensStream = false) (hconf : op ≠ .configure) (hrate : ∀ hz, op ≠ .setRate hz)
    (hchannels : ∀ count, op ≠ .setChannels count) (hrun : a.perform op = some (answer, b)) :
    b.context = a.context ∧ (b.phase = a.phase ∨ b.phase = .idle) := by
  cases performs_of_perform hrun with
  | configure _ => exact absurd rfl hconf
  | start _ => cases hopens
  | stop hstop =>
      obtain ⟨hphase, hcontext⟩ := phase_of_stop hstop
      exact ⟨hcontext, Or.inr hphase⟩
  | cancel hcancel =>
      obtain ⟨hphase, hcontext⟩ := phase_of_stop hcancel
      exact ⟨hcontext, Or.inr hphase⟩
  | acquire _ => cases hopens
  | poll => exact (frame_poll a _).imp_right Or.inl
  | teardown => exact (frame_teardown a).imp_right Or.inl
  | setRate => exact absurd rfl (hrate _)
  | setChannels => exact absurd rfl (hchannels _)
  | allocate | free | version _ | serialNumber _ => exact ⟨rfl, Or.inl rfl⟩

/-! ### Properties that a stream keeps -/

/-- **A property kept by the pieces of the operations that leave a stream alone.** -/
structure Steady (I : Analyzer τ S → Prop) : Prop where
  exchange : ∀ {a packet response ms answer s}, I a →
    a.session.execute packet response ms = some (answer, s) → I { a with session := s }
  pass : ∀ {a} ms, I a → I { a with session := (a.session.events ms).2 }
  context : ∀ {a} context, I a → I { a with context }
  allocate : ∀ {a}, I a → I a.allocateTransfers.2
  free : ∀ {a}, I a → I a.freeTransfers

namespace Steady

variable {I : Analyzer τ S → Prop}

lemma readCoreString (h : Steady I) {a : Analyzer τ S} {verb : UInt32} {ms : Nat}
    {text : Option String} {s : Session τ (Feed S)} (ha : I a)
    (hrun : a.session.readCoreString verb ms = some (text, s)) : I { a with session := s } := by
  rw [Session.readCoreString] at hrun
  simp only [Option.bind_eq_bind, Option.bind_eq_some_iff, Prod.exists] at hrun
  obtain ⟨answer, s₁, hex, hrest⟩ := hrun
  have hs : I { a with session := s₁ } := h.exchange ha hex
  split at hrest <;> cases hrest <;> exact hs

lemma version (h : Steady I) {a a' : Analyzer τ S} {text : Option String} (ha : I a)
    (hrun : a.version = some (text, a')) : I a' := by
  rw [version_eq_map] at hrun
  obtain ⟨told, hread, hend⟩ := Option.map_eq_some_iff.mp hrun
  cases hend
  exact h.readCoreString ha hread

lemma poll (h : Steady I) {a : Analyzer τ S} (ms : Nat) (ha : I a) : I (a.poll ms).2 := by
  have hpass := h.pass ms ha
  rw [Analyzer.poll]
  dsimp only
  split
  · exact hpass
  · split <;> exact hpass

end Steady

/-- Only the pieces of `start`, `stop`, `cancel` and `teardown` touch the phase of a streaming
analyzer, so until one of these is called it goes on streaming. -/
lemma perform_streaming {I : Analyzer τ S → Prop} (h : Steady I) {a a' : Analyzer τ S} {op : Op}
    {answer : Answer} (hop : op.endsStream = false) (hphase : a.phase = .streaming) (ha : I a)
    (hrun : a.perform op = some (answer, a')) : a'.phase = .streaming ∧ I a' := by
  have hsteady : Steady fun b => b.phase = .streaming ∧ I b :=
    { exchange := fun hb hex => ⟨hb.1, h.exchange hb.2 hex⟩
      pass := fun ms hb => ⟨hb.1, h.pass ms hb.2⟩
      context := fun context hb => ⟨hb.1, h.context context hb.2⟩
      allocate := fun hb => ⟨hb.1, h.allocate hb.2⟩
      free := fun hb => ⟨hb.1, h.free hb.2⟩ }
  have hboth : a.phase = .streaming ∧ I a := ⟨hphase, ha⟩
  cases performs_of_perform hrun with
  | configure hconf =>
      cases (configure_of_streaming hphase).symm.trans hconf
      exact hboth
  | start hstart =>
      cases (start_of_streaming hphase).symm.trans hstart
      exact hboth
  | acquire hacquire =>
      rcases acquire_eq_some.mp hacquire with ⟨error, hconf, -⟩ | ⟨response, b, hconf, -⟩
      all_goals cases (configure_of_streaming hphase).symm.trans hconf
      exact hboth
  | poll => exact hsteady.poll _ hboth
  | allocate => exact hsteady.allocate hboth
  | free => exact hsteady.free hboth
  | setRate | setChannels => exact hsteady.context _ hboth
  | version hread | serialNumber hread => exact hsteady.readCoreString hboth hread
  | stop _ | cancel _ | teardown => cases hop

/-- The entries that steps add to the script. -/
def cues : List (Step C) → List C :=
  List.filterMap fun
    | .call _ => none
    | .cue cue => some cue

/-- **A period of a stream keeps** what leaving the stream alone keeps.  The property may depend
on the entries that the script has got since the period began. -/
theorem Steady.run {I : List C → Analyzer τ S → Prop} (given : List C)
    (h : ∀ given, Steady (I given))
    (hcue : ∀ {given a} (cue : C), I given a → I (given ++ [cue]) (a.cued cue))
    {steps : List (Step C)} {a a' : Analyzer τ S}
    (hsteps : ∀ s ∈ steps, s.endsStream = false) (hphase : a.phase = .streaming)
    (ha : I given a) (hrun : Analyzer.run steps a = some a') :
    a'.phase = .streaming ∧ I (given ++ cues steps) a' := by
  induction steps generalizing a given with
  | nil =>
      cases hrun
      exact ⟨hphase, by simpa [cues] using ha⟩
  | cons s rest ih =>
      obtain ⟨b, hstep, hrest⟩ := Option.bind_eq_some_iff.mp hrun
      have hlater : ∀ s' ∈ rest, s'.endsStream = false := fun s' hs' =>
        hsteps s' (List.mem_cons_of_mem _ hs')
      cases s with
      | call op =>
          obtain ⟨⟨answer, b'⟩, hop, rfl⟩ := Option.map_eq_some_iff.mp hstep
          obtain ⟨hphase', hb⟩ := perform_streaming (h given)
            (hsteps (.call op) List.mem_cons_self) hphase ha hop
          exact ih given hlater hphase' hb hrest
      | cue cue =>
          cases hstep
          have hphase' : (a.cued cue).phase = .streaming := hphase
          have hend := ih _ hlater hphase' (hcue cue ha) hrest
          rwa [List.append_assoc] at hend

/-! ### Properties that every operation keeps -/

/-- **A property kept by the pieces of the operations that begin no stream.** -/
structure Lasting (I : Analyzer τ S → Prop) : Prop extends Steady I where
  claim : ∀ {a} interface, I a → I { a with session :=
    { a.session with transport := (Transport.claim a.session.transport interface).2 } }
  release : ∀ {a} interface, I a → I { a with session :=
    { a.session with transport := (Transport.release a.session.transport interface).2 } }
  phase : ∀ {a} phase, I a → I { a with phase }
  halt : ∀ {a}, I a → I (a.withFeed { a.feed with running := false })
  notify : ∀ {a}, I a → a.feed.running = false →
    I (a.withFeed { a.feed with sink := SampleSink.stopped a.feed.sink })
  cancelAll : ∀ {a}, I a → I { a with session := (a.pool.cancelAll a.session).2 }

/-- **A property kept by the pieces of all operations.** -/
structure Stable (I : Analyzer τ S → Prop) : Prop extends Lasting I where
  begin : ∀ {a format answer s}, I a → a.armedCount = 0 →
    a.session.execute startPacket none a.settings.commandTimeoutMs = some (answer, s) →
    I ((({ a with session := s } : Analyzer τ S).openFeed format).armStreaming format).2

/-- No command sets a stream going that does not run. -/
lemma running_execute {s s' : Session τ (Feed S)} {packet : CommandPacket}
    {response : Option Bytes} {ms : Nat} {answer : CommandResult}
    (hrun : s.execute packet response ms = some (answer, s'))
    (h : s'.host.shared.running = true) : s.host.shared.running = true := by
  by_contra hoff
  let Off (host : Host (Feed S)) : Prop := host.shared.running ≠ true
  have hkept : Session.Kept (fun s : Session τ (Feed S) => Off s.host) (fun _ s => Off s.host) :=
    Session.Kept.ofHost (fun _ h => h) fun _ _ _ h hon => h (Feed.running_react hon)
  exact hkept.execute hoff hrun h

namespace Lasting

variable {I : Analyzer τ S → Prop}

lemma configure (h : Lasting I) {a a' : Analyzer τ S}
    {result : Except CaptureError ConfigureResponse} (ha : I a)
    (hrun : a.configure = some (result, a')) : I a' := by
  cases configures_of_configure hrun with
  | refused _ => exact ha
  | unasked _ => exact h.phase .idle (h.context a.context.clear ha)
  | unanswered hasks _ =>
      exact h.phase .idle (h.context a.context.clear (h.exchange ha hasks.sent))
  | unclaimed hasks _ _ =>
      exact h.phase .idle (h.context _ (h.claim Protocol.streamingInterface
        (h.exchange ha hasks.sent)))
  | agreed hasks _ _ =>
      exact h.phase .configured (h.context _ (h.claim Protocol.streamingInterface
        (h.exchange ha hasks.sent)))

lemma stop (h : Lasting I) {a a' : Analyzer τ S} {result : Except CaptureError Unit} (ha : I a)
    (hrun : a.stop = some (result, a')) : I a' := by
  obtain ⟨answer, s, hex, -, rfl⟩ := stop_eq_some.mp hrun
  have hhalted : I { a with session := a.halted } :=
    h.release Protocol.streamingInterface (h.halt ha)
  have hoff : s.host.shared.running = false := by
    by_contra hon
    exact absurd (running_execute hex (by simpa using hon)) (by simp [halted])
  exact h.notify (h.phase .idle (h.exchange hhalted hex)) hoff

lemma cancel (h : Lasting I) {a a' : Analyzer τ S} {result : Except CaptureError Unit} (ha : I a)
    (hrun : a.cancel = some (result, a')) : I a' :=
  h.stop (h.cancelAll ha) hrun

lemma drain (h : Lasting I) {a : Analyzer τ S} (passes : Nat) (ha : I a) :
    I { a with session := Analyzer.drain passes a.session } :=
  drain_induction (R := fun s => I { a with session := s }) (fun ms hs => h.pass ms hs) passes ha

lemma teardown (h : Lasting I) {a : Analyzer τ S} (ha : I a) : I a.teardown := by
  have hhalt := h.halt ha
  rw [Analyzer.teardown]
  refine h.free ?_
  dsimp only
  split
  · exact hhalt
  · exact h.drain drainPasses (h.cancelAll hhalt)

/-- Every operation that begins no stream keeps what its pieces keep. -/
theorem perform (h : Lasting I) {a a' : Analyzer τ S} {op : Op} {answer : Answer}
    (hop : op.opensStream = false) (ha : I a) (hrun : a.perform op = some (answer, a')) : I a' := by
  cases performs_of_perform hrun with
  | configure hconf => exact h.configure ha hconf
  | stop hstop => exact h.stop ha hstop
  | cancel hcancel => exact h.cancel ha hcancel
  | poll => exact h.poll _ ha
  | allocate => exact h.allocate ha
  | free => exact h.free ha
  | teardown => exact h.teardown ha
  | setRate | setChannels => exact h.context _ ha
  | version hread | serialNumber hread => exact h.readCoreString ha hread
  | start _ | acquire _ => cases hop

end Lasting

namespace Stable

variable {I : Analyzer τ S → Prop}

lemma start (h : Stable I) {a a' : Analyzer τ S} {result : Except CaptureError Unit} (ha : I a)
    (hrun : a.start = some (result, a')) : I a' := by
  have hbegin {format : StreamFormat} {answer : CommandResult} {session : Session τ (Feed S)}
      {armed : Except CaptureError Unit} {b : Analyzer τ S}
      (hsent : a.Launches format answer session)
      (harm : (({ a with session } : Analyzer τ S).openFeed format).armStreaming format =
        (armed, b)) : I b := by
    have hafter : I ((({ a with session } : Analyzer τ S).openFeed format).armStreaming format).2 :=
      h.begin ha hsent.unarmed hsent.sent
    rwa [harm] at hafter
  cases starts_of_start hrun with
  | refused => exact ha
  | failed hsent => exact h.phase .idle (h.exchange ha hsent.sent)
  | armed hsent harm => exact h.phase .streaming (hbegin hsent harm)
  | undone hsent harm hstop => exact h.stop (hbegin hsent harm) hstop

lemma acquire (h : Stable I) {a a' : Analyzer τ S} {result : Except CaptureError Unit} (ha : I a)
    (hrun : a.acquire = some (result, a')) : I a' := by
  rcases acquire_eq_some.mp hrun with ⟨error, hconf, rfl⟩ | ⟨response, b, hconf, hstart⟩
  · exact h.configure ha hconf
  · exact h.start (h.configure ha hconf) hstart

/-- **Every operation keeps** what its pieces keep. -/
theorem perform (h : Stable I) {a a' : Analyzer τ S} {op : Op} {answer : Answer} (ha : I a)
    (hrun : a.perform op = some (answer, a')) : I a' := by
  cases performs_of_perform hrun with
  | start hstart => exact h.start ha hstart
  | acquire hacquire => exact h.acquire ha hacquire
  | _ => exact h.toLasting.perform rfl ha hrun

/-- **Every step keeps** what the pieces of the operations and new script entries keep. -/
theorem step (h : Stable I) (hcue : ∀ {a : Analyzer τ S} (cue : C), I a → I (a.cued cue))
    {s : Step C} {a a' : Analyzer τ S} (ha : I a) (hstep : a.step s = some a') : I a' := by
  cases s with
  | call op =>
      obtain ⟨⟨answer, b⟩, hop, rfl⟩ := Option.map_eq_some_iff.mp hstep
      exact h.perform ha hop
  | cue cue =>
      cases hstep
      exact hcue cue ha

/-- **Every run keeps it.** -/
theorem run (h : Stable I) (hcue : ∀ {a : Analyzer τ S} (cue : C), I a → I (a.cued cue))
    {steps : List (Step C)} {a a' : Analyzer τ S} (ha : I a)
    (hrun : Analyzer.run steps a = some a') : I a' :=
  run_induction (fun _ _ ha hstep => h.step hcue ha hstep) ha hrun

end Stable

/-! ### The size of the buffers -/

/-- The settings are as they were given, and the pool's buffers have their size. -/
structure Sized (settings : AcquisitionSettings) (a : Analyzer τ S) : Prop where
  settings_eq : a.settings = settings
  bufferSize : a.pool.bufferSize = settings.transferBufferSize

lemma stable_sized (settings : AcquisitionSettings) :
    Stable (Sized settings : Analyzer τ S → Prop) := by
  have hallocate {a : Analyzer τ S} (h : Sized settings a) : Sized settings a.allocateTransfers.2 :=
    ⟨h.settings_eq, (Pool.bufferSize_allocate _ _ _).trans h.bufferSize⟩
  exact {
    exchange := fun h _ => ⟨h.1, h.2⟩
    pass := fun _ h => ⟨h.1, h.2⟩
    context := fun _ h => ⟨h.1, h.2⟩
    allocate := hallocate
    free := fun h => ⟨h.1, h.2⟩
    claim := fun _ h => ⟨h.1, h.2⟩
    release := fun _ h => ⟨h.1, h.2⟩
    phase := fun _ h => ⟨h.1, h.2⟩
    halt := fun h => ⟨h.1, h.2⟩
    notify := fun h _ => ⟨h.1, h.2⟩
    cancelAll := fun h => ⟨h.1, h.2⟩
    begin := fun h _ _ =>
      armStreaming_induction hallocate (fun h => ⟨h.1, h.2⟩) ⟨h.1, h.2⟩ }

end Analyzer

end LogicCapture
