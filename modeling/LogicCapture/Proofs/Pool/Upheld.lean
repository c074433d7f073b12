/-
Properties that every single call on a transport keeps.

* `Pool.Upheld`: such a property, for each of the calls that pools, control transfers and analyzers
  make;
* `Pool.Upheld.enduring`: it endures in the life of a pool;
* `Pool.Upheld.stable`: it is stable in every analyzer;
* `Pool.Numbered`: the keys of slots, idle or armed, have been given away, which every call keeps
  (`Pool.upheld_numbered`, `Pool.numbered_of_run`).
-/
import LogicCapture.Proofs.Analyzer.Custody

namespace LogicCapture

namespace Pool

variable {τ κ ω C : Type} [Transport τ (Handler κ)] [Consumer κ ω]

/-- **A property that every call keeps**, with what is known of the call: control transfers are new
and submitted while the device is there, bulk transfers are those of slots. -/
structure Upheld (P : Pool → Session τ ω → Prop) : Prop where
  pass : ∀ {p s} ms, P p s → P p (s.events ms).2
  alloc : ∀ {p s}, P p s → P p { s with transport := (Transport.alloc s.transport).2 }
  command : ∀ {p s id t request result t'}, P p s → Transport.attached s.transport = true →
    Transport.alloc s.transport = (.ok id, t) → request.kind = .control →
    Transport.submit t id request (.control s.host.expect.ticket) = (result, t') →
    P p ⟨t', s.host.expect⟩
  submit : ∀ {p s slot endpoint buffer ms consumer t}, P p s → slot ∈ p.slots →
    Transport.submit s.transport slot.transfer ⟨.bulkIn endpoint, buffer, ms⟩
      (.slot slot.key consumer) = (.ok (), t) → P p ⟨t, s.host.arm slot.key⟩
  reject : ∀ {p s slot endpoint buffer ms consumer error t}, P p s → slot ∈ p.slots →
    Transport.submit s.transport slot.transfer ⟨.bulkIn endpoint, buffer, ms⟩
      (.slot slot.key consumer) = (.error error, t) → P p { s with transport := t }
  cancel : ∀ {p s} id, P p s → P p { s with transport := (Transport.cancel s.transport id).2 }
  free : ∀ {p s} id, P p s → P p { s with transport := Transport.free s.transport id }
  /-- The pool gets slots that have just been obtained. -/
  fill : ∀ {p s count slots t}, P p s → p.slots = [] →
    obtain count p.nextKey [] s.transport = (.ok slots, t) → P p { s with transport := t } →
    P { p with slots, nextKey := p.nextKey + count } { s with transport := t }
  /-- The pool loses its slots. -/
  empty : ∀ {p s}, P p s → P { p with slots := [] } s
  claim : ∀ {p s} interface, P p s →
    P p { s with transport := (Transport.claim s.transport interface).2 }
  release : ∀ {p s} interface, P p s →
    P p { s with transport := (Transport.release s.transport interface).2 }
  /-- What the handlers share does not matter. -/
  shared : ∀ {p s} shared, P p s → P p { s with host := { s.host with shared } }

namespace Upheld

variable {P : Pool → Session τ ω → Prop}

/-- Control transfers keep it. -/
lemma kept (h : Upheld P) (p : Pool) : Session.Kept (P p) (fun _ => P p) where
  unallocated hs halloc := by
    have hafter := h.alloc hs
    rwa [halloc] at hafter
  refused hs hattached halloc hkind hsubmit :=
    h.free _ (h.command hs hattached halloc hkind hsubmit)
  submitted hs hattached halloc hkind hsubmit := h.command hs hattached halloc hkind hsubmit
  passed hs := h.pass _ hs
  cancelled hs := h.cancel _ hs
  freed hs := h.free _ hs

lemma freeSlots (h : Upheld P) {p : Pool} {s : Session τ ω} (slots : List Slot) (hs : P p s) :
    P p { s with transport := Pool.freeSlots slots s.transport } :=
  freeSlots_induction (R := fun t => P p { s with transport := t }) (fun id ht => h.free id ht)
    slots hs

lemma allocate (h : Upheld P) {p : Pool} {s : Session τ ω} (count : Nat) (hs : P p s) :
    P (p.allocate count s).2.1 (p.allocate count s).2.2 := by
  have hobtain : P p { s with transport := (obtain count p.nextKey [] s.transport).2 } :=
    obtain_induction (R := fun t => P p { s with transport := t }) (fun ht => h.alloc ht)
      (fun id ht => h.free id ht) count p.nextKey [] hs
  rcases hrun : p.allocate count s with ⟨result, p', s'⟩
  cases allocates_of_allocate hrun with
  | refused _ => exact hs
  | failed _ hnone =>
      rw [hnone] at hobtain
      exact hobtain
  | filled hempty hslots =>
      rw [hslots] at hobtain
      exact h.fill hs hempty hslots hobtain

lemma cancelAll (h : Upheld P) {p : Pool} {s : Session τ ω} (hs : P p s) :
    P p (p.cancelAll s).2 :=
  cancelSlots_induction (R := fun t => P p { s with transport := t }) (fun id ht => h.cancel id ht)
    s.host p.slots (.ok ()) hs

lemma arm (h : Upheld P) {p : Pool} {s : Session τ ω} (endpoint : UInt8) (consumer : κ)
    (hs : P p s) : P p (p.arm endpoint consumer s).2 :=
  arm_induction hs (submitSlots_induction (fun hslot hs hsubmit => h.submit hs hslot hsubmit)
    fun hslot hs hsubmit => h.reject hs hslot hsubmit) h.cancelAll

/-- **What every call keeps endures in the life of a pool.** -/
theorem enduring [Scripted τ C] (h : Upheld P) (hcue : ∀ {p s} (cue : C), P p s →
    P p { s with transport := Scripted.cue s.transport cue }) :
    Enduring (C := C) P (fun p _ => P p) where
  kept := h.kept
  pass := h.pass
  allocate := h.allocate
  arm := h.arm
  cancelAll := h.cancelAll
  freeAll hs := h.empty (h.freeSlots _ hs)
  cue := hcue

end Upheld

end Pool

/-- **What every call keeps is stable** in the analyzer that makes the calls. -/
theorem Pool.Upheld.stable {τ S C : Type} [Transport τ (Handler StreamFormat)] [SampleSink S]
    [Scripted τ C] {P : Pool → Session τ (Feed S) → Prop} (h : Pool.Upheld P)
    (hcue : ∀ {p s} (cue : C), P p s → P p { s with transport := Scripted.cue s.transport cue }) :
    Analyzer.Stable fun a : Analyzer τ S => P a.pool a.session :=
  Analyzer.stable_ofPool (h.enduring hcue) h.claim h.release h.shared

/-! ### Keys that have been given away -/

namespace Pool

variable {τ κ ω C : Type}

/-- The keys of slots, idle or armed, have been given away. -/
structure Numbered (p : Pool) (s : Session τ ω) : Prop where
  slots : ∀ slot ∈ p.slots, slot.key < p.nextKey
  armed : ∀ key ∈ s.host.armed, key < p.nextKey

variable [Transport τ (Handler κ)] [Consumer κ ω]

lemma upheld_numbered : Upheld (κ := κ) (Numbered : Pool → Session τ ω → Prop) where
  pass ms h := ⟨h.slots, fun key hkey => h.armed key (Session.armed_events _ ms hkey)⟩
  alloc h := ⟨h.slots, h.armed⟩
  command h _ _ _ _ := ⟨h.slots, h.armed⟩
  submit h hslot _ := ⟨h.slots, fun key hkey =>
    (List.mem_insert_iff.mp hkey).elim (fun hnew => hnew ▸ h.slots _ hslot) (h.armed key)⟩
  reject h _ _ := ⟨h.slots, h.armed⟩
  cancel _ h := ⟨h.slots, h.armed⟩
  free _ h := ⟨h.slots, h.armed⟩
  fill {p s count slots t} h _ hobtain _ := by
    refine ⟨fun slot hslot => ?_, fun key hkey => Nat.lt_add_right _ (h.armed key hkey)⟩
    have hkey : slot.key ∈ slots.map (·.key) := List.mem_map_of_mem hslot
    rw [obtain_keys hobtain] at hkey
    exact (List.mem_range'_1.mp hkey).2
  empty h := ⟨fun _ hslot => absurd hslot List.not_mem_nil, h.armed⟩
  claim _ h := ⟨h.slots, h.armed⟩
  release _ h := ⟨h.slots, h.armed⟩
  shared _ h := ⟨h.slots, h.armed⟩

/-- **Throughout the life of a pool** its keys have been given away, whatever the transport does. -/
theorem numbered_of_run [Scripted τ C] {steps : List (Step κ C)} {bufferSize : Nat} {t : τ}
    {shared : ω} {p : Pool} {s : Session τ ω}
    (hrun : run steps (.empty bufferSize) (.start t shared) = some (p, s)) : p.Numbered s :=
  (upheld_numbered.enduring fun _ h => ⟨h.slots, h.armed⟩).run
    ⟨fun _ hslot => absurd hslot List.not_mem_nil, fun _ hkey => absurd hkey List.not_mem_nil⟩ hrun

end Pool

end LogicCapture
