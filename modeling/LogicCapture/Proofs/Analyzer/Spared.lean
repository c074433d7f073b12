/-
What the transport keeps as long as nothing is submitted but transfers of a pool, and no interface
is claimed or given back.

* `Transport.Passive`: a property that all calls keep that submit nothing, and event passes;
* `Transport.Passive.teardown`, `Transport.Passive.poll`, …: so do the operations made of such
  calls;
* `Transport.Passive.arm`: arming keeps it if the submissions of the pool's slots do;
* `Transport.Spared`: a property that transfers of a pool keep as well;
* `Transport.Spared.arm`, `Transport.Spared.armStreaming`: so does arming.
-/
import LogicCapture.Proofs.Analyzer.Run

namespace LogicCapture

variable {τ κ ω S : Type}

/-- **A property that is kept as long as nothing is submitted**, also by event passes, whose
handlers share a state in `ω`. -/
structure Transport.Passive (ω : Type) [Transport τ (Handler κ)] [Consumer κ ω] (R : τ → Prop) :
    Prop where
  alloc : ∀ {t}, R t → R (Transport.alloc t).2
  cancel : ∀ {t} id, R t → R (Transport.cancel t id).2
  free : ∀ {t} id, R t → R (Transport.free t id)
  events : ∀ {s : Session τ ω} ms, R s.transport → R (s.events ms).2.transport

/-- **A property that the transfers of a pool keep**, too. -/
structure Transport.Spared (ω : Type) [Transport τ (Handler κ)] [Consumer κ ω] (R : τ → Prop) :
    Prop extends Transport.Passive ω R where
  submit : ∀ {t id endpoint buffer ms handler}, R t →
    R (Transport.submit t id ⟨.bulkIn endpoint, buffer, ms⟩ handler).2

namespace Transport.Passive

section
variable [Transport τ (Handler κ)] [Consumer κ ω] {R : τ → Prop}

/-- Waiting for a control transfer keeps it. -/
lemma awaited (h : Passive ω R) : Session.Awaited fun _ (s : Session τ ω) => R s.transport :=
  ⟨fun hs => h.events _ hs, fun hs => h.cancel _ hs⟩

lemma cancelAll (h : Passive ω R) (p : Pool) {s : Session τ ω} (hs : R s.transport) :
    R (p.cancelAll s).2.transport :=
  Pool.cancelSlots_induction h.cancel s.host p.slots (.ok ()) hs

/-- **Arming keeps it** if the submissions of the pool's slots do. -/
lemma arm (h : Passive ω R) {p : Pool} {endpoint : UInt8} {consumer : κ} {s : Session τ ω}
    (hsubmit : ∀ slot ∈ p.slots, ∀ {t}, R t → R (Transport.submit t slot.transfer
      ⟨.bulkIn endpoint, zeros p.bufferSize, 0⟩ (.slot slot.key consumer)).2)
    (hs : R s.transport) : R (p.arm endpoint consumer s).2.transport := by
  have hanswered {slot : Pool.Slot} {s : Session τ ω} {result : Except UsbError Unit} {t : τ}
      (hslot : slot ∈ p.slots) (hs : R s.transport)
      (hrun : Transport.submit s.transport slot.transfer
        ⟨.bulkIn endpoint, zeros p.bufferSize, 0⟩ (.slot slot.key consumer) = (result, t)) :
      R t := by
    have hafter := hsubmit slot hslot hs
    rwa [hrun] at hafter
  exact Pool.arm_induction (R := fun s => R s.transport) hs
    (Pool.submitSlots_induction (R := fun s => R s.transport) hanswered hanswered)
    fun hs => h.cancelAll p hs

end

section
variable [Transport τ (Handler StreamFormat)] [SampleSink S] {R : τ → Prop} {a : Analyzer τ S}

lemma allocateTransfers (h : Passive (Feed S) R) (ha : R a.session.transport) :
    R a.allocateTransfers.2.session.transport :=
  Pool.allocate_induction h.alloc h.free a.pool a.settings.transferPoolSize ha

lemma freeTransfers (h : Passive (Feed S) R) (ha : R a.session.transport) :
    R a.freeTransfers.session.transport :=
  Pool.freeSlots_induction h.free a.pool.slots ha

lemma poll (h : Passive (Feed S) R) (ms : Nat) (ha : R a.session.transport) :
    R (a.poll ms).2.session.transport := by
  have hpass := h.events ms ha
  rw [Analyzer.poll]
  dsimp only
  split
  · exact hpass
  · split <;> exact hpass

lemma teardown (h : Passive (Feed S) R) (ha : R a.session.transport) :
    R a.teardown.session.transport := by
  rw [Analyzer.teardown]
  refine h.freeTransfers ?_
  dsimp only
  split
  · exact ha
  · exact Analyzer.drain_induction (R := fun s => R s.transport) (fun ms hs => h.events ms hs) _
      (h.cancelAll _ ha)

end

end Transport.Passive

namespace Transport.Spared

section
variable [Transport τ (Handler κ)] [Consumer κ ω] {R : τ → Prop}

lemma arm (h : Spared ω R) (p : Pool) (endpoint : UInt8) (consumer : κ) {s : Session τ ω}
    (hs : R s.transport) : R (p.arm endpoint consumer s).2.transport :=
  h.toPassive.arm (fun _ _ _ ht => h.submit ht) hs

end

section
variable [Transport τ (Handler StreamFormat)] [SampleSink S] {R : τ → Prop} {a : Analyzer τ S}

lemma armStreaming (h : Spared (Feed S) R) (format : StreamFormat) (ha : R a.session.transport) :
    R (a.armStreaming format).2.session.transport :=
  Analyzer.armStreaming_induction (I := fun a : Analyzer τ S => R a.session.transport)
    h.allocateTransfers (fun ha => h.arm _ _ _ ha) ha

lemma armed (h : Spared (Feed S) R) {b : Analyzer τ S} {format : StreamFormat}
    {result : Except CaptureError Unit} (hrun : a.armStreaming format = (result, b))
    (ha : R a.session.transport) : R b.session.transport := by
  have hafter := h.armStreaming format ha
  rwa [hrun] at hafter

end

end Transport.Spared

end LogicCapture
