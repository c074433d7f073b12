/-
Notes that a transport takes in its event passes, and only there.

* `Transport.Notes`: no call but an event pass changes what is noted;
* `Transport.Notes.allocate`, `Transport.Notes.arm`, …: so the operations of a pool leave it alone;
* `Transport.Notes.kept`, `Transport.Notes.steady`: what event passes keep of the notes and the
  host's state, commands keep, and so does a stream.
-/
import LogicCapture.Proofs.Analyzer.Run

namespace LogicCapture

variable {τ κ ω ν H S : Type}

/-- **`note` reads what a transport notes in event passes**: it is the same after every other
call. -/
structure Transport.Notes [Transport τ H] (note : τ → ν) : Prop where
  alloc : ∀ t, note (Transport.alloc t).2 = note t
  submit : ∀ t id request handler, note (Transport.submit t id request handler).2 = note t
  cancel : ∀ t id, note (Transport.cancel t id).2 = note t
  free : ∀ t id, note (Transport.free t id) = note t

namespace Transport.Notes

section
variable [Transport τ (Handler κ)] {note : τ → ν}

lemma allocated (h : Notes note) {t t' : τ} {answer : Except UsbError TransferId}
    (hrun : Transport.alloc t = (answer, t')) : note t' = note t := by
  have hsame := h.alloc t
  rwa [hrun] at hsame

lemma submitted (h : Notes note) {t t' : τ} {id : TransferId} {request : TransferRequest}
    {handler : Handler κ} {answer : Except UsbError Unit}
    (hrun : Transport.submit t id request handler = (answer, t')) : note t' = note t := by
  have hsame := h.submit t id request handler
  rwa [hrun] at hsame

/-! ### Pools -/

lemma freeSlots (h : Notes note) (slots : List Pool.Slot) (t : τ) :
    note (Pool.freeSlots slots t) = note t :=
  Pool.freeSlots_induction (R := fun t' => note t' = note t) (fun id hsame =>
    (h.free _ id).trans hsame) slots rfl

lemma allocate (h : Notes note) (p : Pool) (count : Nat) (s : Session τ ω) :
    note (p.allocate count s).2.2.transport = note s.transport :=
  Pool.allocate_induction (R := fun t => note t = note s.transport)
    (fun hsame => (h.alloc _).trans hsame) (fun id hsame => (h.free _ id).trans hsame) p count rfl

lemma cancelAll (h : Notes note) (p : Pool) (s : Session τ ω) :
    note (p.cancelAll s).2.transport = note s.transport :=
  Pool.cancelSlots_induction (R := fun t => note t = note s.transport)
    (fun id hsame => (h.cancel _ id).trans hsame) s.host p.slots (.ok ()) rfl

lemma arm (h : Notes note) (p : Pool) (endpoint : UInt8) (consumer : κ) (s : Session τ ω) :
    note (p.arm endpoint consumer s).2.transport = note s.transport :=
  Pool.arm_induction (R := fun s' => note s'.transport = note s.transport) rfl
    (Pool.submitSlots_induction (R := fun s' => note s'.transport = note s.transport)
      (fun _ hsame hrun => (h.submitted hrun).trans hsame)
      fun _ hsame hrun => (h.submitted hrun).trans hsame)
    fun hsame => (h.cancelAll p _).trans hsame

/-! ### Commands -/

variable [Consumer κ ω] {R : ν → Host ω → Prop}

/-- **What event passes and new control transfers keep** of the notes and the host's state, commands
keep. -/
theorem kept (h : Notes note) (hexpect : ∀ noted host, R noted host → R noted host.expect)
    (hpass : ∀ {s : Session τ ω} ms, R (note s.transport) s.host →
      R (note (s.events ms).2.transport) (s.events ms).2.host) :
    Session.Kept (fun s : Session τ ω => R (note s.transport) s.host)
      fun _ s => R (note s.transport) s.host where
  unallocated hs halloc := (h.allocated halloc).symm ▸ hs
  refused {s id t request error t'} hs _ halloc _ hsubmit := by
    have hsame : note (Transport.free t' id) = note s.transport :=
      ((h.free t' id).trans (h.submitted hsubmit)).trans (h.allocated halloc)
    exact hsame.symm ▸ hexpect _ _ hs
  submitted {s id t request t'} hs _ halloc _ hsubmit := by
    have hsame : note t' = note s.transport := (h.submitted hsubmit).trans (h.allocated halloc)
    exact hsame.symm ▸ hexpect _ _ hs
  passed hs := hpass _ hs
  cancelled hs := (h.cancel _ _).symm ▸ hs
  freed hs := (h.free _ _).symm ▸ hs

end

/-! ### Streams -/

section
variable [Transport τ (Handler StreamFormat)] [SampleSink S] {note : τ → ν}
  {R : ν → Host (Feed S) → Prop}

/-- **So do the operations that leave a stream alone.** -/
theorem steady (h : Notes note) (hexpect : ∀ noted host, R noted host → R noted host.expect)
    (hpass : ∀ {s : Session τ (Feed S)} ms, R (note s.transport) s.host →
      R (note (s.events ms).2.transport) (s.events ms).2.host) :
    Analyzer.Steady fun a : Analyzer τ S => R (note a.session.transport) a.session.host where
  exchange ha hrun := (h.kept hexpect hpass).execute ha hrun
  pass ms ha := hpass ms ha
  context _ ha := ha
  allocate {a} ha := by
    have hnote : note a.allocateTransfers.2.session.transport = note a.session.transport :=
      h.allocate _ _ _
    have hhost : a.allocateTransfers.2.session.host = a.session.host := Pool.host_allocate _ _ _
    rwa [hnote, hhost]
  free {a} ha := by
    have hnote : note a.freeTransfers.session.transport = note a.session.transport :=
      h.freeSlots _ _
    have hhost : a.freeTransfers.session.host = a.session.host := rfl
    rwa [hnote, hhost]

end

end Transport.Notes

end LogicCapture
