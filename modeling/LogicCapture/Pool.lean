/-
The pool of bulk transfers that carry a sample stream.  Its slots are allocated
once and used for one acquisition after another.  Arming is all or nothing, and
a slot counts as armed until the transport leaves it idle.

* `Pool.allocate`: obtains the slots;
* `Pool.arm`: submits every slot with a fresh buffer;
* `Pool.cancelAll`, `Pool.freeAll`: request cancellation, give the slots back.
-/
import LogicCapture.Session

namespace LogicCapture

variable {τ κ ω : Type}

/-- A bulk transfer of the pool. -/
structure Pool.Slot where
  /-- The slot's own number, never used for another slot. -/
  key : Nat
  transfer : TransferId
  deriving DecidableEq

/-- A set of bulk transfers with buffers of one size. -/
structure Pool where
  slots : List Pool.Slot := []
  /-- The bytes in each transfer's buffer. -/
  bufferSize : Nat
  /-- The number of the next slot. -/
  nextKey : Nat := 0

namespace Pool

/-- The bytes that one address space holds; no reservation can be larger. -/
def addressSpace : Nat := Nat.pow 2 47

/-- The bytes that the pool's table takes for one slot. -/
def slotBytes : Nat := 16

/-- A pool without slots. -/
def empty (bufferSize : Nat) : Pool := { bufferSize }

/-- The pool has no slots. -/
def isEmpty (p : Pool) : Bool := p.slots.isEmpty

/-- The number of slots. -/
def size (p : Pool) : Nat := p.slots.length

/-- The number of slots that the transport still owns. -/
def armedCount (p : Pool) (host : Host ω) : Nat :=
  (p.slots.filter fun slot => host.isArmed slot.key).length

section
variable [Transport τ (Handler κ)]

/-- Gives slots back to the transport. -/
def freeSlots (slots : List Slot) (t : τ) : τ :=
  slots.foldl (fun t slot => Transport.free t slot.transfer) t

/-- Obtains `count` slots numbered from `key` on, or gives back those obtained so
far together with `taken`. -/
def obtain : Nat → Nat → List Slot → τ → Except UsbError (List Slot) × τ
  | 0, _, taken, t => (.ok taken, t)
  | count + 1, key, taken, t =>
    match Transport.alloc t with
    | (.ok transfer, t) => obtain count (key + 1) (taken ++ [⟨key, transfer⟩]) t
    | (.error _, t) => (.error .noMemory, freeSlots taken t)

/-- Obtains `count` slots for a pool that has none. -/
def allocate (p : Pool) (count : Nat) (s : Session τ ω) :
    Except UsbError Unit × Pool × Session τ ω :=
  if count = 0 then (.error .invalidParam, p, s)
  else if !p.isEmpty then (.error .busy, p, s)
  else if addressSpace < count * slotBytes then (.error .noMemory, p, s)
  else
    match obtain count p.nextKey [] s.transport with
    | (.error error, transport) => (.error error, p, { s with transport })
    | (.ok slots, transport) =>
      (.ok (), { p with slots, nextKey := p.nextKey + count }, { s with transport })

/-- Requests the cancellation of every armed slot in turn; the last failure is
reported. -/
def cancelSlots (host : Host ω) : List Slot → Except UsbError Unit → τ → Except UsbError Unit × τ
  | [], result, t => (result, t)
  | slot :: rest, result, t =>
    if host.isArmed slot.key then
      match Transport.cancel t slot.transfer with
      | (.ok (), t) => cancelSlots host rest result t
      | (.error error, t) => cancelSlots host rest (.error error) t
    else cancelSlots host rest result t

/-- Requests the cancellation of every armed slot.  A slot stays armed until its
cancelled completion has come. -/
def cancelAll (p : Pool) (s : Session τ ω) : Except UsbError Unit × Session τ ω :=
  let (result, transport) := cancelSlots s.host p.slots (.ok ()) s.transport
  (result, { s with transport })

/-- Submits slots in turn, each with a zeroed buffer, and stops at the first that
cannot be submitted. -/
def submitSlots (bufferSize : Nat) (endpoint : UInt8) (consumer : κ) :
    List Slot → Session τ ω → Except UsbError Unit × Session τ ω
  | [], s => (.ok (), s)
  | slot :: rest, s =>
    if addressSpace < bufferSize then (.error .noMemory, s)
    else
      match Transport.submit s.transport slot.transfer
        ⟨.bulkIn endpoint, zeros bufferSize, 0⟩ (.slot slot.key consumer) with
      | (.ok (), transport) =>
        submitSlots bufferSize endpoint consumer rest ⟨transport, s.host.arm slot.key⟩
      | (.error _, transport) => (.error .io, { s with transport })

/-- Submits every slot against `endpoint`, each with its own copy of the consumer.
If one cannot be submitted, those armed so far are cancelled. -/
def arm (p : Pool) (endpoint : UInt8) (consumer : κ) (s : Session τ ω) :
    Except UsbError Unit × Session τ ω :=
  if p.isEmpty then (.error .invalidParam, s)
  else if 0 < p.armedCount s.host then (.error .busy, s)
  else
    match submitSlots p.bufferSize endpoint consumer p.slots s with
    | (.ok (), s) => (.ok (), s)
    | (.error error, s) =>
      let (_, s) := p.cancelAll s
      (.error error, s)

/-- Gives every slot back. -/
def freeAll (p : Pool) (s : Session τ ω) : Pool × Session τ ω :=
  ({ p with slots := [] }, { s with transport := freeSlots p.slots s.transport })

end

end Pool

end LogicCapture
