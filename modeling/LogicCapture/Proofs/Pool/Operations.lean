/-
What handlers do to slots, and what the operations of a pool are made of, on any transport.

* `Handler.react_slot`, `Handler.armed_react_subset`: a handler call changes the shared state as
  the consumer says, and may leave its slot idle;
* `Pool.allocateGranted`: allocation when the memory for the pool's table may be denied, of which
  allocation is a case (`Pool.allocate_eq_allocateGranted`);
* `Pool.submitGranted`, `Pool.armGranted`: arming when any buffer may be denied, of which arming is
  a case (`Pool.arm_eq_armGranted`);
* `Pool.submitSlots_induction`, `Pool.arm_induction`: what single submissions keep, arming keeps
  (`obtain_induction`, `allocate_induction`, `freeSlots_induction`, `cancelSlots_induction`:
  likewise);
* `Pool.Allocates`: what an allocation comes to (`Pool.allocates_of_allocate`);
* `Pool.obtain_keys`, `Pool.allocate_cases`: slots are numbered in turn;
* `Pool.host_allocate`, `Pool.shared_arm`: allocation leaves the host alone, and arming leaves
  alone what the handlers share.
-/
import LogicCapture.Pool
import Mathlib.Tactic.Common

namespace LogicCapture

variable {τ κ ω : Type}

/-- The armed slots are those on the host's list. -/
lemma Host.isArmed_iff {host : Host ω} {key : Nat} :
    host.isArmed key = true ↔ key ∈ host.armed := by
  simp [isArmed]

/-! ### What handlers do to slots -/

namespace Handler

variable [Consumer κ ω]

lemma armed_react_control {ticket : Nat} {c : Completion} {host : Host ω} :
    ((Handler.control (κ := κ) ticket).react c host).2.2.armed = host.armed := by
  simp only [react, Host.note]
  split <;> rfl

/-- A control transfer leaves alone what the handlers share. -/
lemma shared_react_control {ticket : Nat} {c : Completion} {host : Host ω} :
    ((Handler.control (κ := κ) ticket).react c host).2.2.shared = host.shared := by
  simp only [react, Host.note]
  split <;> rfl

lemma react_slot (key : Nat) (consumer : κ) (c : Completion) (host : Host ω) :
    ∃ rearm consumer' shared, Consumer.consume consumer c host.shared = (rearm, consumer', shared) ∧
      (Handler.slot key consumer).react c host = (rearm, .slot key consumer', { host with
        shared
        armed := if rearm.honoured c.status then host.armed
          else host.armed.filter (· ≠ key) }) := by
  rcases hconsume : Consumer.consume consumer c host.shared with ⟨rearm, consumer', shared⟩
  refine ⟨rearm, consumer', shared, rfl, ?_⟩
  simp only [react, hconsume, Host.disarm]
  split <;> rfl

/-- A slot changes what the handlers share as its consumer says. -/
lemma shared_react_slot (key : Nat) (consumer : κ) (c : Completion) (host : Host ω) :
    ((Handler.slot key consumer).react c host).2.2.shared =
      (Consumer.consume consumer c host.shared).2.2 := by
  obtain ⟨rearm, consumer', shared, hconsume, hreact⟩ := react_slot key consumer c host
  rw [hreact, hconsume]

lemma not_honoured_refused (rearm : Rearm) :
    rearm.honoured Completion.refused.status = false := by
  cases rearm <;> rfl

/-- No completion arms a slot. -/
lemma armed_react_subset (handler : Handler κ) (c : Completion)
    (host : Host ω) : (handler.react c host).2.2.armed ⊆ host.armed := by
  cases handler with
  | control ticket =>
      rw [armed_react_control]
      exact List.Subset.refl _
  | slot key consumer =>
      obtain ⟨rearm, consumer', shared, -, hreact⟩ := react_slot key consumer c host
      rw [hreact]
      dsimp only
      split
      · exact List.Subset.refl _
      · exact List.filter_sublist.subset

end Handler

namespace Pool

lemma armedCount_eq_zero_iff {p : Pool} {host : Host ω} :
    p.armedCount host = 0 ↔ ∀ slot ∈ p.slots, slot.key ∉ host.armed := by
  simp [armedCount, Host.isArmed]

variable [Transport τ (Handler κ)]

/-! ### Memory that may be denied -/

/-- Obtains `count` slots for a pool that has none, as `allocate` does, where `granted` says whether
there is memory for the pool's table. -/
def allocateGranted (p : Pool) (granted : Bool) (count : Nat) (s : Session τ ω) :
    Except UsbError Unit × Pool × Session τ ω :=
  if count = 0 then (.error .invalidParam, p, s)
  else if !p.isEmpty then (.error .busy, p, s)
  else if granted = false then (.error .noMemory, p, s)
  else
    match obtain count p.nextKey [] s.transport with
    | (.error error, transport) => (.error error, p, { s with transport })
    | (.ok slots, transport) =>
      (.ok (), { p with slots, nextKey := p.nextKey + count }, { s with transport })

/-- **Allocation is a case of it** in which the size of the table decides. -/
lemma allocate_eq_allocateGranted (p : Pool) (count : Nat) (s : Session τ ω) :
    p.allocate count s = p.allocateGranted (count * slotBytes ≤ addressSpace) count s := by
  have hdenied : addressSpace < count * slotBytes ↔
      decide (count * slotBytes ≤ addressSpace) = false := by simp
  exact if_congr Iff.rfl rfl (if_congr Iff.rfl rfl (if_congr hdenied rfl rfl))

/-- Submits slots in turn, as `submitSlots` does, where `granted` says which of them there is memory
for a buffer for. -/
def submitGranted (granted : Slot → Bool) (bufferSize : Nat) (endpoint : UInt8) (consumer : κ) :
    List Slot → Session τ ω → Except UsbError Unit × Session τ ω
  | [], s => (.ok (), s)
  | slot :: rest, s =>
    if granted slot = false then (.error .noMemory, s)
    else
      match Transport.submit s.transport slot.transfer
        ⟨.bulkIn endpoint, zeros bufferSize, 0⟩ (.slot slot.key consumer) with
      | (.ok (), transport) =>
        submitGranted granted bufferSize endpoint consumer rest ⟨transport, s.host.arm slot.key⟩
      | (.error _, transport) => (.error .io, { s with transport })

/-- Submits every slot, as `arm` does, where `granted` says which of them there is memory for a
buffer for. -/
def armGranted (p : Pool) (granted : Slot → Bool) (endpoint : UInt8) (consumer : κ)
    (s : Session τ ω) : Except UsbError Unit × Session τ ω :=
  if p.isEmpty then (.error .invalidParam, s)
  else if 0 < p.armedCount s.host then (.error .busy, s)
  else
    match submitGranted granted p.bufferSize endpoint consumer p.slots s with
    | (.ok (), s) => (.ok (), s)
    | (.error error, s) =>
      let (_, s) := p.cancelAll s
      (.error error, s)

/-- There is memory for all buffers or for none. -/
lemma submitSlots_eq_submitGranted (length : Nat) (endpoint : UInt8) (consumer : κ)
    (slots : List Slot) (s : Session τ ω) : submitSlots length endpoint consumer slots s =
      submitGranted (fun _ => length ≤ addressSpace) length endpoint consumer slots s := by
  induction slots generalizing s with
  | nil => rfl
  | cons slot rest ih =>
      rw [submitSlots, submitGranted]
      by_cases hroom : length ≤ addressSpace
      · rw [if_neg (Nat.not_lt.mpr hroom), if_neg (by simpa using hroom)]
        cases hsubmit : Transport.submit s.transport slot.transfer
          ⟨.bulkIn endpoint, zeros length, 0⟩ (.slot slot.key consumer) with
        | mk result t =>
            cases result with
            | error error => rfl
            | ok done => exact ih _
      · rw [if_pos (Nat.lt_of_not_le hroom), if_pos (by simpa using hroom)]

/-- **Arming is a case of it** in which the size of the buffers decides. -/
theorem arm_eq_armGranted (p : Pool) (endpoint : UInt8) (consumer : κ) (s : Session τ ω) :
    p.arm endpoint consumer s =
      p.armGranted (fun _ => p.bufferSize ≤ addressSpace) endpoint consumer s := by
  rw [arm, submitSlots_eq_submitGranted]
  rfl

/-! ### The operations, one transfer at a time -/

/-- What every single submission keeps, submitting slots keeps, whatever buffers are granted. -/
lemma submitGranted_induction {R : Session τ ω → Prop} {granted : Slot → Bool} {length : Nat}
    {endpoint : UInt8} {consumer : κ} {slots : List Slot}
    (hok : ∀ {slot s t}, slot ∈ slots → R s → Transport.submit s.transport slot.transfer
      ⟨.bulkIn endpoint, zeros length, 0⟩ (.slot slot.key consumer) = (.ok (), t) →
      R ⟨t, s.host.arm slot.key⟩)
    (herror : ∀ {slot s error t}, slot ∈ slots → R s → Transport.submit s.transport slot.transfer
      ⟨.bulkIn endpoint, zeros length, 0⟩ (.slot slot.key consumer) = (.error error, t) →
      R { s with transport := t })
    {s : Session τ ω} (hs : R s) :
    R (submitGranted granted length endpoint consumer slots s).2 := by
  induction slots generalizing s with
  | nil => exact hs
  | cons slot rest ih =>
      rw [submitGranted]
      split
      · exact hs
      · split
        · rename_i hsubmit
          exact ih (fun hslot => hok (List.mem_cons_of_mem _ hslot))
            (fun hslot => herror (List.mem_cons_of_mem _ hslot))
            (hok List.mem_cons_self hs hsubmit)
        · rename_i hsubmit
          exact herror List.mem_cons_self hs hsubmit

/-- What every single submission keeps, submitting slots keeps. -/
lemma submitSlots_induction {R : Session τ ω → Prop} {length : Nat} {endpoint : UInt8}
    {consumer : κ} {slots : List Slot}
    (hok : ∀ {slot s t}, slot ∈ slots → R s → Transport.submit s.transport slot.transfer
      ⟨.bulkIn endpoint, zeros length, 0⟩ (.slot slot.key consumer) = (.ok (), t) →
      R ⟨t, s.host.arm slot.key⟩)
    (herror : ∀ {slot s error t}, slot ∈ slots → R s → Transport.submit s.transport slot.transfer
      ⟨.bulkIn endpoint, zeros length, 0⟩ (.slot slot.key consumer) = (.error error, t) →
      R { s with transport := t })
    {s : Session τ ω} (hs : R s) : R (submitSlots length endpoint consumer slots s).2 := by
  rw [submitSlots_eq_submitGranted]
  exact submitGranted_induction hok herror hs

/-- What giving back single transfers keeps, giving back slots keeps. -/
lemma freeSlots_induction {R : τ → Prop} (hfree : ∀ {t} id, R t → R (Transport.free t id))
    (slots : List Slot) {t : τ} (ht : R t) : R (freeSlots slots t) := by
  induction slots generalizing t with
  | nil => exact ht
  | cons slot rest ih => exact ih (hfree slot.transfer ht)

/-- What single allocations keep, and giving transfers back, obtaining slots keeps. -/
lemma obtain_induction {R : τ → Prop} (halloc : ∀ {t}, R t → R (Transport.alloc t).2)
    (hfree : ∀ {t} id, R t → R (Transport.free t id)) (count key : Nat) (taken : List Slot)
    {t : τ} (ht : R t) : R (obtain count key taken t).2 := by
  induction count generalizing key taken t with
  | zero => exact ht
  | succ count ih =>
      have hafter := halloc ht
      rw [obtain]
      split
      · rename_i hrun
        rw [hrun] at hafter
        exact ih _ _ hafter
      · rename_i hrun
        rw [hrun] at hafter
        exact freeSlots_induction hfree taken hafter

/-- If slots cannot be obtained, that is for want of memory. -/
lemma error_of_obtain {count key : Nat} {taken : List Slot} {t t' : τ} {error : UsbError}
    (h : obtain count key taken t = (.error error, t')) : error = .noMemory := by
  induction count generalizing key taken t with
  | zero => cases h
  | succ count ih =>
      rw [obtain] at h
      split at h
      · exact ih h
      · cases h
        rfl

/-- **What an allocation comes to.** -/
inductive Allocates (p : Pool) (count : Nat) (s : Session τ ω) :
    Except UsbError Unit → Pool → Session τ ω → Prop where
  /-- It is refused, and the transport is asked for nothing. -/
  | refused {error} : (count ≠ 0 → p.slots = [] → error = .noMemory) →
      Allocates p count s (.error error) p s
  /-- Slots cannot be obtained. -/
  | failed {t} : p.slots = [] → obtain count p.nextKey [] s.transport = (.error .noMemory, t) →
      Allocates p count s (.error .noMemory) p { s with transport := t }
  /-- The pool gets its slots. -/
  | filled {slots t} : p.slots = [] → obtain count p.nextKey [] s.transport = (.ok slots, t) →
      Allocates p count s (.ok ()) { p with slots, nextKey := p.nextKey + count }
        { s with transport := t }

lemma allocates_of_allocate {p p' : Pool} {count : Nat} {s s' : Session τ ω}
    {result : Except UsbError Unit} (h : p.allocate count s = (result, p', s')) :
    p.Allocates count s result p' s' := by
  rw [allocate] at h
  split at h
  · rename_i hcount
    cases h
    exact .refused fun hne => absurd hcount hne
  · split at h
    · rename_i hfull
      cases h
      exact .refused fun _ hslots => by simp [isEmpty, hslots] at hfull
    · rename_i hempty
      have hslots : p.slots = [] := by simpa [isEmpty] using hempty
      split at h
      · cases h
        exact .refused fun _ _ => rfl
      · split at h
        · rename_i hobtain
          cases h
          cases error_of_obtain hobtain
          exact .failed hslots hobtain
        · rename_i hobtain
          cases h
          exact .filled hslots hobtain

/-- What single allocations keep, and giving transfers back, an allocation keeps. -/
lemma allocate_induction {R : τ → Prop} (halloc : ∀ {t}, R t → R (Transport.alloc t).2)
    (hfree : ∀ {t} id, R t → R (Transport.free t id)) (p : Pool) (count : Nat) {s : Session τ ω}
    (hs : R s.transport) : R (p.allocate count s).2.2.transport := by
  have hobtain := obtain_induction halloc hfree count p.nextKey [] hs
  rcases hrun : p.allocate count s with ⟨result, p', s'⟩
  cases allocates_of_allocate hrun with
  | refused _ => exact hs
  | failed _ hnone =>
      rw [hnone] at hobtain
      exact hobtain
  | filled _ hslots =>
      rw [hslots] at hobtain
      exact hobtain

/-- What single cancellations keep, cancelling slots keeps. -/
lemma cancelSlots_induction {R : τ → Prop} (hcancel : ∀ {t} id, R t → R (Transport.cancel t id).2)
    (host : Host ω) (slots : List Slot) (result : Except UsbError Unit) {t : τ} (ht : R t) :
    R (cancelSlots host slots result t).2 := by
  induction slots generalizing result t with
  | nil => exact ht
  | cons slot rest ih =>
      have hafter := hcancel slot.transfer ht
      rw [cancelSlots]
      split
      · split
        all_goals
          rename_i hrun
          rw [hrun] at hafter
          exact ih _ hafter
      · exact ih _ ht

/-- What submitting slots and cancelling them all keep, arming keeps, whatever buffers are
granted. -/
lemma armGranted_induction {R : Session τ ω → Prop} {p : Pool} {granted : Slot → Bool}
    {endpoint : UInt8} {consumer : κ} {s : Session τ ω} (hs : R s)
    (hsubmit : R s → R (submitGranted granted p.bufferSize endpoint consumer p.slots s).2)
    (hcancel : ∀ {s}, R s → R (p.cancelAll s).2) :
    R (p.armGranted granted endpoint consumer s).2 := by
  rw [armGranted]
  split
  · exact hs
  · split
    · exact hs
    · have hsent := hsubmit hs
      split
      · rename_i hrun
        rw [hrun] at hsent
        exact hsent
      · rename_i hrun
        rw [hrun] at hsent
        exact hcancel hsent

/-- What submitting slots and cancelling them all keep, arming keeps. -/
lemma arm_induction {R : Session τ ω → Prop} {p : Pool} {endpoint : UInt8} {consumer : κ}
    {s : Session τ ω} (hs : R s)
    (hsubmit : R s → R (submitSlots p.bufferSize endpoint consumer p.slots s).2)
    (hcancel : ∀ {s}, R s → R (p.cancelAll s).2) : R (p.arm endpoint consumer s).2 := by
  rw [arm_eq_armGranted]
  rw [submitSlots_eq_submitGranted] at hsubmit
  exact armGranted_induction hs hsubmit hcancel

/-- The slots obtained are numbered from the given key on. -/
lemma obtain_keys {count key : Nat} {taken slots : List Slot} {t t' : τ}
    (h : obtain count key taken t = (.ok slots, t')) :
    slots.map (·.key) = taken.map (·.key) ++ List.range' key count := by
  induction count generalizing key taken t with
  | zero =>
      cases h
      simp
  | succ count ih =>
      rw [obtain] at h
      split at h
      · rw [ih h]
        simp [List.range'_succ]
      · cases h

/-- Allocation changes nothing of the pool, or gives it slots numbered from its next key on. -/
lemma allocate_cases (p : Pool) (count : Nat) (s : Session τ ω) :
    (p.allocate count s).2.1 = p ∨ ∃ slots : List Slot,
      (∀ slot ∈ slots, p.nextKey ≤ slot.key ∧ slot.key < p.nextKey + count) ∧
      (p.allocate count s).2.1 = { p with slots, nextKey := p.nextKey + count } := by
  rcases hrun : p.allocate count s with ⟨result, p', s'⟩
  cases allocates_of_allocate hrun with
  | refused _ => exact Or.inl rfl
  | failed _ _ => exact Or.inl rfl
  | @filled slots t _ hslots =>
      refine Or.inr ⟨slots, ?_, rfl⟩
      intro slot hslot
      have hkey : slot.key ∈ slots.map (·.key) := List.mem_map_of_mem hslot
      rw [obtain_keys hslots] at hkey
      simpa using hkey

/-- Allocation changes nothing of the pool, or gives it as many slots as were asked for. -/
lemma size_allocate (p : Pool) (count : Nat) (s : Session τ ω) :
    (p.allocate count s).2.1 = p ∨ (p.allocate count s).2.1.size = count := by
  rcases hrun : p.allocate count s with ⟨result, p', s'⟩
  cases allocates_of_allocate hrun with
  | refused _ => exact Or.inl rfl
  | failed _ _ => exact Or.inl rfl
  | filled _ hslots =>
      exact Or.inr (by simpa [size] using congrArg List.length (obtain_keys hslots))

/-- Allocation is the transport's business alone. -/
lemma host_allocate (p : Pool) (count : Nat) (s : Session τ ω) :
    (p.allocate count s).2.2.host = s.host := by
  rcases hrun : p.allocate count s with ⟨result, p', s'⟩
  cases allocates_of_allocate hrun <;> rfl

/-- Allocation does not change the size of the pool's buffers. -/
lemma bufferSize_allocate (p : Pool) (count : Nat) (s : Session τ ω) :
    (p.allocate count s).2.1.bufferSize = p.bufferSize := by
  rcases hrun : p.allocate count s with ⟨result, p', s'⟩
  cases allocates_of_allocate hrun <;> rfl

/-- Slots that have all been submitted are all armed. -/
lemma armed_of_submitSlots {length : Nat} {endpoint : UInt8} {consumer : κ} {slots : List Slot}
    {s s' : Session τ ω} (h : submitSlots length endpoint consumer slots s = (.ok (), s')) :
    s.host.armed ⊆ s'.host.armed ∧ ∀ slot ∈ slots, slot.key ∈ s'.host.armed := by
  induction slots generalizing s with
  | nil =>
      cases h
      exact ⟨List.Subset.refl _, by simp⟩
  | cons slot rest ih =>
      rw [submitSlots] at h
      split at h
      · cases h
      · split at h
        · obtain ⟨hkept, hrest⟩ := ih h
          refine ⟨fun key hkey => hkept (List.mem_insert_of_mem hkey), ?_⟩
          rintro slot' (_ | ⟨_, hslot'⟩)
          · exact hkept List.mem_insert_self
          · exact hrest slot' hslot'
        · cases h

/-- Arming leaves alone what the handlers share, whatever buffers are granted. -/
lemma shared_armGranted (p : Pool) (granted : Slot → Bool) (endpoint : UInt8) (consumer : κ)
    (s : Session τ ω) :
    (p.armGranted granted endpoint consumer s).2.host.shared = s.host.shared := by
  let R (s' : Session τ ω) : Prop := s'.host.shared = s.host.shared
  exact armGranted_induction (R := R) rfl
    (submitGranted_induction (R := R) (fun _ hs _ => hs) fun _ hs _ => hs) fun hs => hs

/-- Arming leaves alone what the handlers share. -/
lemma shared_arm (p : Pool) (endpoint : UInt8) (consumer : κ) (s : Session τ ω) :
    (p.arm endpoint consumer s).2.host.shared = s.host.shared := by
  rw [arm_eq_armGranted]
  exact shared_armGranted _ _ _ _ _

end Pool

end LogicCapture
