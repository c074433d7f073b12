/-
A test bench with faults between the host and the device: bulk completions
whose status is replaced, control handlers that are lost, called twice or told
other bytes, and cancellations and allocations that fail.

* `FaultyBench`: a bench and the queues of faults still to be injected;
* `FaultyBench.weave`: the handler calls of a pass, with the faults worked in.
-/
import LogicCapture.Usb.Bench

namespace LogicCapture

variable {H : Type}

/-- What goes wrong with the handler of a control transfer. -/
inductive ControlFault where
  /-- The handler is lost at submission; nothing is ever reported. -/
  | drop
  /-- The handler is called again, with `Completion.refused`, after each call. -/
  | twice
  /-- The handler is told these bytes in place of those that arrived. -/
  | substitute (data : Bytes)
  deriving DecidableEq

/-- A handler in the keeping of a faulty bench. -/
inductive Faulty (H : Type) where
  | plain (handler : H)
  | dropped
  | twice (handler : H)
  | substituted (handler : H) (data : Bytes)
  /-- The handler of a bulk transfer, whose completions may change their status. -/
  | bulk (handler : H)

namespace Faulty

/-- The handler that may still be called. -/
def handler? : Faulty H → Option H
  | plain h | twice h | substituted h _ | bulk h => some h
  | dropped => none

/-- A control handler with the fault that befalls it. -/
def ofFault (handler : H) : Option ControlFault → Faulty H
  | none => plain handler
  | some .drop => dropped
  | some .twice => twice handler
  | some (.substitute data) => substituted handler data

end Faulty

/-- A bench and the faults still to be injected. -/
structure FaultyBench (H : Type) where
  bench : Bench (Faulty H) := {}
  /-- The statuses that replace `completed` in the next bulk completions. -/
  statuses : List (Option TransferStatus) := []
  /-- The faults of the next control submissions. -/
  controlFaults : List (Option ControlFault) := []
  /-- The results of the next cancellations. -/
  cancelErrors : List (Option UsbError) := []
  /-- The results of the next allocations. -/
  allocErrors : List (Option UsbError) := []

namespace FaultyBench

/-- Arms a transfer on the bench, its handler wrapped in the fault due to it. -/
def submit (f : FaultyBench H) (id : TransferId) (request : TransferRequest) (handler : H) :
    Except UsbError Unit × FaultyBench H :=
  match request.kind with
  | .bulkIn _ =>
    let (result, bench) := f.bench.submit id request (.bulk handler)
    (result, { f with bench })
  | .control =>
    let fault := f.controlFaults.head?.join
    let (result, bench) := f.bench.submit id request (.ofFault handler fault)
    (result, { f with bench, controlFaults := f.controlFaults.tail })

/-- Hands out a transfer, unless a fault is due. -/
def alloc (f : FaultyBench H) : Except UsbError TransferId × FaultyBench H :=
  let fault := f.allocErrors.head?.join
  let f := { f with allocErrors := f.allocErrors.tail }
  match fault with
  | some error => (.error error, f)
  | none =>
    let (result, bench) := f.bench.alloc
    (result, { f with bench })

/-- Requests a cancellation, unless a fault is due. -/
def cancel (f : FaultyBench H) (id : TransferId) : Except UsbError Unit × FaultyBench H :=
  let fault := f.cancelErrors.head?.join
  let f := { f with cancelErrors := f.cancelErrors.tail }
  match fault with
  | some error => (.error error, f)
  | none =>
    let (result, bench) := f.bench.cancel id
    (result, { f with bench })

/-- A pass of the bench with the faults worked into its handler calls. -/
def weave (f : FaultyBench H) : Pass (Bench (Faulty H)) (Faulty H) → Pass (FaultyBench H) H
  | .done result bench => .done result { f with bench }
  | .call (.plain h) c resume => .call h c fun rearm h => weave f (resume rearm (.plain h))
  | .call .dropped _ resume => weave f (resume .release .dropped)
  | .call (.twice h) c resume =>
    .call h c fun rearm h => .call h .refused fun _ h => weave f (resume rearm (.twice h))
  | .call (.substituted h data) c resume =>
    .call h ⟨c.status, data⟩ fun rearm h => weave f (resume rearm (.substituted h data))
  | .call (.bulk h) c resume =>
    if c.status = .completed then
      let status := f.statuses.head?.join.getD .completed
      let f := { f with statuses := f.statuses.tail }
      .call h ⟨status, c.data⟩ fun rearm h =>
        weave f (resume (if status.allowsResubmit then rearm else .release) (.bulk h))
    else .call h c fun rearm h => weave f (resume rearm (.bulk h))

instance : Transport (FaultyBench H) H where
  attached f := f.bench.attached
  alloc := alloc
  submit := submit
  cancel := cancel
  free f id := { f with bench := f.bench.free id }
  events f _ := weave f f.bench.events
  claim f interface :=
    let (result, bench) := f.bench.claim interface
    (result, { f with bench })
  release f interface :=
    let (result, bench) := f.bench.release interface
    (result, { f with bench })
  handlers f := f.bench.inFlight.filterMap (·.handler.handler?)
  patience f := f.bench.script.length + 1

/-- An entry of a script with faults. -/
inductive Cue where
  | bench (cue : Bench.Cue)
  /-- The status of the next bulk completion. -/
  | status (status : Option TransferStatus)
  | controlFault (fault : Option ControlFault)
  | cancelError (error : Option UsbError)
  | allocError (error : Option UsbError)

/-- The faulty bench with one more entry in its script. -/
def cue (f : FaultyBench H) : Cue → FaultyBench H
  | .bench cue => { f with bench := f.bench.cue cue }
  | .status status => { f with statuses := f.statuses ++ [status] }
  | .controlFault fault => { f with controlFaults := f.controlFaults ++ [fault] }
  | .cancelError error => { f with cancelErrors := f.cancelErrors ++ [error] }
  | .allocError error => { f with allocErrors := f.allocErrors ++ [error] }

end FaultyBench

end LogicCapture
