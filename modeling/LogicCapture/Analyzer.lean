/-
The analyzer: one device, taken through configure, start, stop and cancel.

* `Analyzer`: session, transfer pool, device context, settings and phase;
* `Analyzer.configure`, `start`, `stop`, `cancel`, `acquire`: the life of an
  acquisition;
* `Analyzer.poll`, `teardown`, `dispose`: event passes, and the end of everything;
* `Analyzer.Op`, `Analyzer.perform`: the operations as data.
-/
import LogicCapture.Analyzer.Context
import LogicCapture.Analyzer.Error
import LogicCapture.Control.Command
import LogicCapture.Pool
import LogicCapture.Settings
import LogicCapture.Stream.Feed

namespace LogicCapture

variable {τ S : Type}

/-- A logic analyzer on a transport `τ` whose samples go to a sink `S`. -/
structure Analyzer (τ S : Type) where
  session : Session τ (Feed S)
  pool : Pool
  context : DeviceContext
  settings : AcquisitionSettings
  phase : Phase := .idle

namespace Analyzer

/-- An analyzer on which nothing has been done yet. -/
def new (transport : τ) (settings : AcquisitionSettings) (sink : S) : Analyzer τ S where
  session := .start transport { sink }
  pool := .empty settings.transferBufferSize
  context := { sampleRateHz := settings.sampleRateHz, numChannels := settings.numChannels }
  settings

/-- What the slots of the stream share with the analyzer. -/
def feed (a : Analyzer τ S) : Feed S := a.session.host.shared

/-- The analyzer with its feed changed. -/
def withFeed (a : Analyzer τ S) (feed : Feed S) : Analyzer τ S :=
  { a with session := { a.session with host := { a.session.host with shared := feed } } }

/-- Samples are expected to flow. -/
def isStreaming (a : Analyzer τ S) : Bool := a.phase = .streaming && a.feed.running

/-- The slots of the pool that the transport still owns. -/
def armedCount (a : Analyzer τ S) : Nat := a.pool.armedCount a.session.host

/-- Asks for another rate from the next configure on. -/
def setSampleRate (a : Analyzer τ S) (hz : Nat) : Analyzer τ S :=
  { a with context := { a.context with sampleRateHz := hz } }

/-- Asks for another number of channels from the next configure on. -/
def setNumChannels (a : Analyzer τ S) (count : UInt8) : Analyzer τ S :=
  { a with context := { a.context with numChannels := count } }

variable [Transport τ (Handler StreamFormat)] [SampleSink S]

/-! ### Identity and transfers -/

/-- Reads the firmware version. -/
def version (a : Analyzer τ S) : Option (Option String × Analyzer τ S) := do
  let (text, session) ← a.session.version a.settings.commandTimeoutMs
  return (text, { a with session })

/-- Reads the serial number. -/
def serialNumber (a : Analyzer τ S) : Option (Option String × Analyzer τ S) := do
  let (text, session) ← a.session.serialNumber a.settings.commandTimeoutMs
  return (text, { a with session })

/-- Allocates the transfers of the pool. -/
def allocateTransfers (a : Analyzer τ S) : Except CaptureError Unit × Analyzer τ S :=
  let (result, pool, session) := a.pool.allocate a.settings.transferPoolSize a.session
  (result.mapError .usb, { a with pool, session })

/-- Gives the transfers of the pool back. -/
def freeTransfers (a : Analyzer τ S) : Analyzer τ S :=
  let (pool, session) := a.pool.freeAll a.session
  { a with pool, session }

/-! ### Configure -/

/-- What the device's answer to a configure command comes to. -/
def readResponse (answer : CommandResult) : Except CaptureError ConfigureResponse := do
  let length ← answer.result.mapError (.command "configure")
  let received := (answer.response.getD []).take length
  let response ← (ConfigureResponse.decode received).mapError .wire
  response.validate.mapError .wire
  return response

/-- Sends the configure command, records what the device agrees to and claims the
streaming interface. -/
def negotiate (a : Analyzer τ S) :
    Option (Except CaptureError ConfigureResponse × Analyzer τ S) :=
  if UInt32.size ≤ a.context.sampleRateHz then
    let fault := SettingsFault.rateTooLarge a.context.sampleRateHz
    some (.error (.invalidSettings fault.message), a)
  else do
    let payload : ConfigurePayload :=
      ⟨UInt32.ofNat a.context.sampleRateHz, a.context.numChannels⟩
    let (answer, session) ← a.session.execute payload.toPacket
      (some (zeros ConfigureResponse.size)) a.settings.commandTimeoutMs
    match readResponse answer with
    | .error error => return (.error error, { a with session })
    | .ok response =>
      let context := a.context.apply response
      let (claimed, transport) := Transport.claim session.transport Protocol.streamingInterface
      let a := { a with session := { session with transport }, context }
      match claimed with
      | .error error => return (.error (.usb error), a)
      | .ok () => return (.ok response, a)

/-- Negotiates rate and channels with the device. -/
def configure (a : Analyzer τ S) :
    Option (Except CaptureError ConfigureResponse × Analyzer τ S) :=
  if a.phase = .streaming then some (.error (.invalidPhase "configure" a.phase), a)
  else do
    match ← { a with phase := .configuring }.negotiate with
    | (.ok response, a) => return (.ok response, { a with phase := .configured })
    | (.error error, a) =>
      return (.error error, { a with context := a.context.clear, phase := .idle })

/-! ### Stop and cancel -/

/-- Halts streaming on the device.  Transfers in flight are not cancelled; they
are let go as they complete. -/
def stop (a : Analyzer τ S) : Option (Except CaptureError Unit × Analyzer τ S) := do
  let a := { a.withFeed { a.feed with running := false } with phase := .stopping }
  let (_, transport) := Transport.release a.session.transport Protocol.streamingInterface
  let (answer, session) ← { a.session with transport }.execute stopPacket none
    a.settings.stopTimeoutMs
  let a := { a with session, phase := .idle }
  let a := a.withFeed { a.feed with sink := SampleSink.stopped a.feed.sink }
  match answer.result with
  | .ok _ => return (.ok (), a)
  | .error error => return (.error (.command "stop" error), a)

/-- Requests the cancellation of every outstanding transfer, then stops. -/
def cancel (a : Analyzer τ S) : Option (Except CaptureError Unit × Analyzer τ S) :=
  let (_, session) := a.pool.cancelAll a.session
  { a with session }.stop

/-! ### Start -/

/-- Allocates the pool if it has no slots yet, and arms it. -/
def armStreaming (a : Analyzer τ S) (format : StreamFormat) :
    Except CaptureError Unit × Analyzer τ S :=
  match if a.pool.isEmpty then a.allocateTransfers else (.ok (), a) with
  | (.error error, a) => (.error error, a)
  | (.ok (), a) =>
    let (result, session) := a.pool.arm format.endpoint format a.session
    (result.mapError .usb, { a with session })

/-- Opens the stream towards the sink: fresh counters, the notification, and
samples are wanted. -/
def openFeed (a : Analyzer τ S) (format : StreamFormat) : Analyzer τ S :=
  a.withFeed { running := true, stats := {}, sink := SampleSink.started a.feed.sink format }

/-- Starts the device and arms the pool; if arming fails the device is stopped
again. -/
def start (a : Analyzer τ S) : Option (Except CaptureError Unit × Analyzer τ S) :=
  if a.phase ≠ .configured then some (.error (.invalidPhase "start" a.phase), a)
  else if 0 < a.armedCount then some (.error (.transfersPending a.armedCount), a)
  else
    match a.context.streamFormat with
    | none => some (.error (.invalidPhase "start" a.phase), a)
    | some format => do
      let (answer, session) ← a.session.execute startPacket none a.settings.commandTimeoutMs
      let a := { a with session }
      match answer.result with
      | .error error => return (.error (.command "start" error), { a with phase := .idle })
      | .ok _ =>
        match (a.openFeed format).armStreaming format with
        | (.ok (), a) => return (.ok (), { a with phase := .streaming })
        | (.error error, a) =>
          let (_, a) ← a.stop
          return (.error error, a)

/-- Configures and starts. -/
def acquire (a : Analyzer τ S) : Option (Except CaptureError Unit × Analyzer τ S) := do
  match ← a.configure with
  | (.error error, a) => return (.error error, a)
  | (.ok _, a) => a.start

/-! ### Event passes and teardown -/

/-- One event pass; an interrupted one counts as a success. -/
def poll (a : Analyzer τ S) (timeoutMs : Nat) : Except CaptureError Unit × Analyzer τ S :=
  let (result, session) := a.session.events timeoutMs
  let a := { a with session }
  match result with
  | .ok () => (.ok (), a)
  | .error error => if error.isTransient then (.ok (), a) else (.error (.usb error), a)

/-- The event passes that a teardown spends on outstanding completions. -/
def drainPasses : Nat := 8

/-- The longest of these passes, in milliseconds. -/
def drainPassMs : Nat := 10

/-- Event passes until `passes` are spent or one fails for good. -/
def drain : Nat → Session τ (Feed S) → Session τ (Feed S)
  | 0, s => s
  | passes + 1, s =>
    match s.events drainPassMs with
    | (.ok (), s) => drain passes s
    | (.error error, s) => if error.isTransient then drain passes s else s

/-- Cancels what is still armed, gives completions a few passes to come, and gives
the transfers back. -/
def teardown (a : Analyzer τ S) : Analyzer τ S :=
  let a := a.withFeed { a.feed with running := false }
  let a := if a.pool.isEmpty then a
    else { a with session := drain drainPasses (a.pool.cancelAll a.session).2 }
  a.freeTransfers

/-- Ends the life of an analyzer: it is torn down, and then its pool gives back what it
still holds. -/
def dispose (a : Analyzer τ S) : Analyzer τ S := a.teardown.freeTransfers

/-! ### Operations as data -/

/-- An operation on an analyzer. -/
inductive Op where
  | configure
  | start
  | stop
  | cancel
  | acquire
  | poll (timeoutMs : Nat)
  | allocate
  | free
  | teardown
  | setRate (hz : Nat)
  | setChannels (count : UInt8)
  | version
  | serialNumber
  deriving DecidableEq

/-- What an operation answers. -/
inductive Answer where
  | done (result : Except CaptureError Unit)
  | configured (result : Except CaptureError ConfigureResponse)
  | text (text : Option String)

/-- Performs an operation; `none` if it never returns. -/
def perform (a : Analyzer τ S) : Op → Option (Answer × Analyzer τ S)
  | .configure => a.configure.map fun (r, a) => (.configured r, a)
  | .start => a.start.map fun (r, a) => (.done r, a)
  | .stop => a.stop.map fun (r, a) => (.done r, a)
  | .cancel => a.cancel.map fun (r, a) => (.done r, a)
  | .acquire => a.acquire.map fun (r, a) => (.done r, a)
  | .poll timeoutMs =>
    let (r, a) := a.poll timeoutMs
    some (.done r, a)
  | .allocate =>
    let (r, a) := a.allocateTransfers
    some (.done r, a)
  | .free => some (.done (.ok ()), a.freeTransfers)
  | .teardown => some (.done (.ok ()), a.teardown)
  | .setRate hz => some (.done (.ok ()), a.setSampleRate hz)
  | .setChannels count => some (.done (.ok ()), a.setNumChannels count)
  | .version => a.version.map fun (t, a) => (.text t, a)
  | .serialNumber => a.serialNumber.map fun (t, a) => (.text t, a)

end Analyzer

end LogicCapture
