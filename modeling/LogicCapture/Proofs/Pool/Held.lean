/-
The pool of a session on the bench, through control transfers and its own operations.

* `Pool.allocate_bench`, `Pool.freeSlots_bench`, `Pool.cancelAll_bench`: what allocation,
  release and cancellation do to the bench;
* `Pool.Held`: custody in a session, with the numbers of slots and transfers still ahead of
  those in use;
* `Pool.Held.kept`: control transfers and commands keep it;
* `Pool.Held.allocate`, `arm`, `cancelAll`, `freeAll`: so do the operations of the pool.
-/
import LogicCapture.Proofs.Pool.Custody

namespace LogicCapture

variable {τ κ ω H : Type}

/-- No step of a line arms a slot. -/
lemma Line.Step.armed_subset [Consumer κ ω] {l l' : Line κ ω} (h : Line.Step l l') :
    l'.host.armed ⊆ l.host.armed := by
  cases h with
  | ended _ => exact Handler.armed_react_subset _ _ _
  | rearmed _ => exact Handler.armed_react_subset _ _ _
  | refused _ =>
      exact List.Subset.trans (Handler.armed_react_subset _ _ _)
        (Handler.armed_react_subset _ _ _)

namespace Pool

/-! ### What the operations do to the bench -/

/-- Giving slots back takes their transfers out of flight. -/
lemma freeSlots_bench (slots : List Slot) (b : Bench (Handler κ)) :
    freeSlots slots b = { b with
      inFlight := b.inFlight.filter fun t => t.id ∉ slots.map (·.transfer)
      freed := b.freed ++ slots.map (·.transfer) } := by
  induction slots generalizing b with
  | nil => simp [freeSlots]
  | cons slot rest ih =>
      have hstep : freeSlots (slot :: rest) b = freeSlots rest (b.free slot.transfer) := rfl
      have hkeep (t : Bench.InFlight (Handler κ)) :
          (decide (t.id ∉ rest.map (·.transfer)) && decide (t.id ≠ slot.transfer)) =
            decide (t.id ∉ (slot :: rest).map (·.transfer)) := by
        rw [← Bool.decide_and, decide_eq_decide, List.map_cons, List.mem_cons, not_or, and_comm]
      rw [hstep, ih, Bench.free]
      simp only [List.filter_filter, List.append_assoc, List.singleton_append, hkeep]
      rfl

/-- Obtaining slots hands out transfers in turn; if that fails, all of them are taken back. -/
lemma obtain_bench {count key : Nat} {taken : List Slot} {b b' : Bench (Handler κ)}
    {result : Except UsbError (List Slot)} (h : obtain count key taken b = (result, b')) :
    (∃ slots, result = .ok slots ∧ b' = { b with allocated := b.allocated + count } ∧
      slots.map (·.transfer) = taken.map (·.transfer) ++ List.range' b.allocated count) ∨
    ∃ error n ids, result = .error error ∧ b' = { b with
      allocated := b.allocated + n, freed := b.freed ++ ids
      inFlight := b.inFlight.filter fun t => t.id ∉ ids } ∧
      ids = taken.map (·.transfer) ++ List.range' b.allocated n := by
  induction count generalizing key taken b with
  | zero =>
      cases h
      exact Or.inl ⟨taken, rfl, rfl, by simp⟩
  | succ count ih =>
      have halloc : (Transport.alloc b : Except UsbError TransferId × Bench (Handler κ)) =
        b.alloc := rfl
      rw [obtain, halloc, Bench.alloc] at h
      by_cases hfail : b.failAllocAt = some b.allocated
      · rw [if_pos hfail] at h
        cases h
        refine Or.inr ⟨.noMemory, 0, taken.map (·.transfer), rfl, ?_, by simp⟩
        rw [freeSlots_bench]
        rfl
      · rw [if_neg hfail] at h
        rcases ih h with ⟨slots, hres, hb, hids⟩ | ⟨error, n, ids, hres, hb, hids⟩
        · refine Or.inl ⟨slots, hres, ?_, ?_⟩
          · rw [hb]
            simp [Nat.add_comm, Nat.add_left_comm]
          · rw [hids]
            simp [List.range'_succ]
        · refine Or.inr ⟨error, n + 1, ids, hres, ?_, ?_⟩
          · rw [hb]
            simp [Nat.add_comm, Nat.add_left_comm]
          · rw [hids]
            simp [List.range'_succ]

/-- Cancelling slots marks transfers in flight. -/
lemma cancelSlots_bench {host : Host ω} {slots : List Slot} {result result' : Except UsbError Unit}
    {b b' : Bench (Handler κ)} (h : cancelSlots host slots result b = (result', b')) :
    ∃ inFlight cancelRequests, b' = { b with inFlight, cancelRequests } ∧
      inFlight.map (·.unmarked) = b.inFlight.map (·.unmarked) := by
  induction slots generalizing result b with
  | nil =>
      cases h
      exact ⟨_, _, rfl, rfl⟩
  | cons slot rest ih =>
      rw [cancelSlots] at h
      split at h
      · split at h
        all_goals
          rename_i hcancel
          obtain ⟨inFlight₁, rfl, hmarks₁⟩ := Bench.cancel_cases hcancel
          obtain ⟨inFlight, cancelRequests, rfl, hmarks⟩ := ih h
          exact ⟨inFlight, cancelRequests, rfl, hmarks.trans hmarks₁⟩
      · exact ih h

/-- Cancelling the pool marks transfers in flight. -/
lemma cancelAll_bench (p : Pool) (s : Session (Bench (Handler κ)) ω) :
    ∃ inFlight cancelRequests,
      (p.cancelAll s).2 = ⟨{ s.transport with inFlight, cancelRequests }, s.host⟩ ∧
      inFlight.map (·.unmarked) = s.transport.inFlight.map (·.unmarked) := by
  rcases hcancel : cancelSlots s.host p.slots (.ok ()) s.transport with ⟨result, b⟩
  obtain ⟨inFlight, cancelRequests, rfl, hmarks⟩ := cancelSlots_bench hcancel
  exact ⟨inFlight, cancelRequests, by rw [cancelAll, hcancel], hmarks⟩

/-- Cancelling the pool's slots leaves the handlers with their transfers. -/
lemma exists_handler_of_cancelAll {p : Pool} {s : Session (Bench (Handler κ)) ω}
    {t' : Bench.InFlight (Handler κ)} (ht' : t' ∈ (p.cancelAll s).2.transport.inFlight) :
    ∃ t ∈ s.transport.inFlight, t.handler = t'.handler := by
  obtain ⟨inFlight, cancelRequests, hafter, hmarks⟩ := p.cancelAll_bench s
  rw [hafter] at ht'
  exact Bench.exists_handler_of_unmarked hmarks ht'

/-- Giving the pool's slots back puts nothing in flight. -/
lemma mem_of_mem_freeAll {p : Pool} {s : Session (Bench (Handler κ)) ω}
    {t : Bench.InFlight (Handler κ)} (ht : t ∈ (p.freeAll s).2.transport.inFlight) :
    t ∈ s.transport.inFlight := by
  rw [freeAll, freeSlots_bench] at ht
  exact (List.mem_filter.mp ht).1

/-- **An allocation on the bench** changes nothing; or it is for a pool without slots, hands out
transfers in turn and takes all of them back; or it makes them the slots of such a pool. -/
theorem allocate_bench (p : Pool) (count : Nat) (s : Session (Bench (Handler κ)) ω) :
    (p.allocate count s).2 = (p, s) ∨
    (p.slots = [] ∧ ∃ n ids, ids = List.range' s.transport.allocated n ∧
      (p.allocate count s).2 = (p, ⟨{ s.transport with
        allocated := s.transport.allocated + n, freed := s.transport.freed ++ ids
        inFlight := s.transport.inFlight.filter fun t => t.id ∉ ids }, s.host⟩)) ∨
    (p.slots = [] ∧ ∃ slots, slots.map (·.key) = List.range' p.nextKey count ∧
      slots.map (·.transfer) = List.range' s.transport.allocated count ∧
      (p.allocate count s).2 = ({ p with slots, nextKey := p.nextKey + count },
        ⟨{ s.transport with allocated := s.transport.allocated + count }, s.host⟩)) := by
  rcases hrun : p.allocate count s with ⟨result, p', s'⟩
  cases allocates_of_allocate hrun with
  | refused _ => exact Or.inl rfl
  | failed hempty hnone =>
      rcases obtain_bench hnone with ⟨_, hno, -⟩ | ⟨error, n, ids, -, rfl, hids⟩
      · cases hno
      · exact Or.inr (Or.inl ⟨hempty, n, ids, hids, rfl⟩)
  | filled hempty hslots =>
      rcases obtain_bench hslots with ⟨taken, heq, rfl, hids⟩ | ⟨_, _, _, hno, -⟩
      · cases heq
        exact Or.inr (Or.inr ⟨hempty, _, obtain_keys hslots, hids, rfl⟩)
      · cases hno

/-- Allocation leaves the rest of the bench alone. -/
lemma allocate_frame (p : Pool) (count : Nat) (s : Session (Bench (Handler κ)) ω) :
    ∃ allocated freed inFlight, (p.allocate count s).2.2.transport =
      { s.transport with allocated, freed, inFlight } := by
  rcases p.allocate_bench count s with hafter | ⟨-, n, ids, -, hafter⟩ | ⟨-, slots, -, -, hafter⟩
  all_goals
    rw [hafter]
    exact ⟨_, _, _, rfl⟩

/-- Allocation puts nothing in flight. -/
lemma mem_of_mem_allocate {p : Pool} {count : Nat} {s : Session (Bench (Handler κ)) ω}
    {t : Bench.InFlight (Handler κ)}
    (ht : t ∈ (p.allocate count s).2.2.transport.inFlight) : t ∈ s.transport.inFlight := by
  rcases p.allocate_bench count s with hafter | ⟨-, n, ids, -, hafter⟩ | ⟨-, slots, -, -, hafter⟩
  · rwa [hafter] at ht
  · rw [hafter] at ht
    exact (List.mem_filter.mp ht).1
  · rwa [hafter] at ht

/-! ### Custody in a session -/

/-- **The session's transport and host agree with the pool**, and the numbers to come are new. -/
structure Held (p : Pool) (waiting : Option TransferId)
    (s : Session (Bench (Handler κ)) ω) : Prop where
  custody : p.Custody waiting s.transport.inFlight s.host.armed
  keys_lt : ∀ slot ∈ p.slots, slot.key < p.nextKey
  armed_lt : ∀ key ∈ s.host.armed, key < p.nextKey
  transfers_lt : ∀ slot ∈ p.slots, slot.transfer < s.transport.allocated
  waiting_lt : ∀ id ∈ waiting, id < s.transport.allocated

namespace Held

variable {p : Pool} {waiting : Option TransferId} {s s' : Session (Bench (Handler κ)) ω}

/-- The transfers in flight have been handed out. -/
lemma id_lt (h : p.Held waiting s) {t : Bench.InFlight (Handler κ)}
    (ht : t ∈ s.transport.inFlight) : t.id < s.transport.allocated := by
  rcases h.custody.source t ht with ⟨slot, hc⟩ | ⟨id, hid, hc⟩
  · rw [hc.id_eq]
    exact h.transfers_lt slot hc.mem
  · rw [hc.id_eq]
    exact h.waiting_lt id hid

/-- Custody only sees the transfers in flight, the armed slots and the count of transfers. -/
lemma congr (h : p.Held waiting s)
    (hflight : (s'.transport.inFlight.map (·.badge)).Perm (s.transport.inFlight.map (·.badge)))
    (harmed : s'.host.armed = s.host.armed)
    (halloc : s'.transport.allocated = s.transport.allocated) : p.Held waiting s' :=
  ⟨harmed ▸ h.custody.congr hflight, h.keys_lt, harmed ▸ h.armed_lt, halloc ▸ h.transfers_lt,
    halloc ▸ h.waiting_lt⟩

/-- Custody does not depend on the rest of the bench. -/
lemma reframe {b : Bench (Handler κ)} (h : p.Held waiting s)
    (hflight : b.inFlight = s.transport.inFlight) (halloc : b.allocated = s.transport.allocated) :
    p.Held waiting { s with transport := b } :=
  h.congr (.of_eq (congrArg (List.map (·.badge)) hflight)) rfl halloc

/-- With no armed slots, nothing is in flight. -/
lemma inFlight_eq_nil (h : p.Held none s) (hidle : ∀ slot ∈ p.slots, slot.key ∉ s.host.armed) :
    s.transport.inFlight = [] :=
  h.custody.eq_nil hidle

/-- A cancellation keeps custody. -/
lemma marked {b : Bench (Handler κ)} (h : p.Held waiting s)
    (hmarks : b.inFlight.map (·.unmarked) = s.transport.inFlight.map (·.unmarked))
    (halloc : b.allocated = s.transport.allocated) : p.Held waiting { s with transport := b } := by
  refine h.congr ?_ rfl halloc
  have hbadges := congrArg (List.map (·.badge)) hmarks
  simp only [List.map_map, Function.comp_def] at hbadges
  exact .of_eq hbadges

/-! ### The operations of the pool -/

lemma cancelAll (h : p.Held waiting s) : p.Held waiting (p.cancelAll s).2 := by
  obtain ⟨inFlight, cancelRequests, hafter, hmarks⟩ := p.cancelAll_bench s
  rw [hafter]
  exact h.marked hmarks rfl

lemma freeAll (h : p.Held none s) : (p.freeAll s).1.Held none (p.freeAll s).2 := by
  have hnone : (s.transport.inFlight.filter fun t => t.id ∉ p.slots.map (·.transfer)) = [] := by
    refine List.filter_eq_nil_iff.mpr ?_
    intro t ht
    obtain ⟨slot, hc⟩ := h.custody.carried ht
    simpa using ⟨slot, hc.mem, hc.id_eq.symm⟩
  rw [Pool.freeAll, freeSlots_bench, hnone]
  exact ⟨⟨.nil, .nil, by simp, .nil, by simp, by simp⟩, by simp, h.armed_lt, by simp, by simp⟩

lemma allocate (h : p.Held none s) (count : Nat) :
    (p.allocate count s).2.1.Held none (p.allocate count s).2.2 := by
  -- a pool without slots has nothing in flight
  have hidle (hslots : p.slots = []) : s.transport.inFlight = [] :=
    h.inFlight_eq_nil (by simp [hslots])
  rcases p.allocate_bench count s with
    hafter | ⟨hslots, n, ids, -, hafter⟩ | ⟨hslots, slots, hkeys, hids, hafter⟩
  · rwa [hafter]
  · rw [hafter]
    refine ⟨?_, h.keys_lt, h.armed_lt, by simp [hslots], by simp⟩
    simpa [hidle hslots] using h.custody
  · rw [hafter]
    have hkey {slot : Slot} (hslot : slot ∈ slots) :
        p.nextKey ≤ slot.key ∧ slot.key < p.nextKey + count := by
      have := hkeys ▸ List.mem_map_of_mem (f := Slot.key) hslot
      exact List.mem_range'_1.mp this
    have hid {slot : Slot} (hslot : slot ∈ slots) :
        slot.transfer < s.transport.allocated + count := by
      have := hids ▸ List.mem_map_of_mem (f := Slot.transfer) hslot
      exact (List.mem_range'_1.mp this).2
    refine ⟨⟨hkeys ▸ List.nodup_range', hids ▸ List.nodup_range', by simp, ?_, ?_,
      ?_⟩, fun slot hslot => (hkey hslot).2, ?_, fun slot hslot => hid hslot, by simp⟩
    · simp [hidle hslots]
    · simp [hidle hslots]
    · intro slot hslot
      have hunarmed : slot.key ∉ s.host.armed := fun hmem =>
        absurd (h.armed_lt _ hmem) (by have := (hkey hslot).1; omega)
      simp [hidle hslots, hunarmed]
    · intro key hmem
      have := h.armed_lt key hmem
      dsimp only
      omega

/-- A slot's transfer submitted with a buffer of the pool's size is the slot's. -/
lemma submitted {slot : Slot} {endpoint : UInt8} {consumer : κ} {b : Bench (Handler κ)}
    (h : p.Held waiting s) (hslot : slot ∈ p.slots)
    (hsubmit : s.transport.submit slot.transfer ⟨.bulkIn endpoint, zeros p.bufferSize, 0⟩
      (.slot slot.key consumer) = (.ok (), b)) :
    p.Held waiting ⟨b, s.host.arm slot.key⟩ := by
  obtain ⟨hidle, controlLog, replies, reply, rfl⟩ := Bench.submit_ok hsubmit
  refine ⟨h.custody.add_slot hidle ⟨hslot, rfl, rfl, ⟨consumer, rfl⟩, by simp [zeros]⟩,
    h.keys_lt, ?_, h.transfers_lt, h.waiting_lt⟩
  intro key hkey
  rcases List.mem_insert_iff.mp hkey with rfl | hkey
  · exact h.keys_lt slot hslot
  · exact h.armed_lt key hkey

/-- Submitting slots in turn keeps custody, whatever buffers are granted. -/
lemma submitGranted (h : p.Held waiting s) (granted : Slot → Bool) (endpoint : UInt8)
    (consumer : κ) :
    p.Held waiting (submitGranted granted p.bufferSize endpoint consumer p.slots s).2 := by
  refine submitGranted_induction (fun hslot hs hsubmit => hs.submitted hslot hsubmit) ?_ h
  intro slot s error b hslot hs hsubmit
  obtain ⟨controlLog, replies, rfl⟩ := Bench.submit_error hsubmit
  exact hs.congr (.refl _) rfl rfl

lemma armGranted (h : p.Held waiting s) (granted : Slot → Bool) (endpoint : UInt8)
    (consumer : κ) : p.Held waiting (p.armGranted granted endpoint consumer s).2 :=
  armGranted_induction h (fun h => h.submitGranted granted endpoint consumer) fun h => h.cancelAll

lemma arm (h : p.Held waiting s) (endpoint : UInt8) (consumer : κ) :
    p.Held waiting (p.arm endpoint consumer s).2 := by
  rw [arm_eq_armGranted]
  exact h.armGranted _ endpoint consumer

/-- A session that has just begun holds nothing for an empty pool. -/
lemma start (bufferSize : Nat) (b : Bench (Handler κ)) (hb : b.inFlight = []) (shared : ω) :
    (Pool.empty bufferSize).Held none (Session.start b shared) := by
  refine ⟨⟨.nil, .nil, by simp, ?_, ?_, ?_⟩, ?_, ?_, ?_, ?_⟩ <;>
    simp [Session.start, Pool.empty, hb]

/-! ### Event passes and control transfers -/

variable [Consumer κ ω]

/-- An event pass keeps custody. -/
lemma passed (h : p.Held waiting s) (hpass : Session.Passed s s') : p.Held waiting s' := by
  let R (l : Line κ ω) : Prop :=
    p.Custody waiting l.entries l.host.armed ∧ ∀ key ∈ l.host.armed, key < p.nextKey
  have hline : R s'.line := by
    refine hpass.line_induction (R := R) (fun hset hl => ⟨?_, hl.2⟩)
      (fun hstep hl => ⟨hl.1.step hstep, fun key hkey => hl.2 key (hstep.armed_subset hkey)⟩)
      ⟨h.custody, h.armed_lt⟩
    refine hl.1.congr ?_
    have hshapes := (Bench.settleAll_perm hset).map (·.badge)
    simp only [List.map_map, Function.comp_def, Bench.InFlight.badge_shape] at hshapes
    exact hshapes
  have halloc : s'.transport.allocated = s.transport.allocated := by rw [hpass.frame]
  exact ⟨hline.1, h.keys_lt, hline.2, halloc ▸ h.transfers_lt, halloc ▸ h.waiting_lt⟩

/-- **Control transfers keep custody.**  While one is in flight, its id is no slot's. -/
theorem kept (p : Pool) :
    Session.Kept (Held (κ := κ) (ω := ω) p none) (fun id => p.Held (some id)) := by
  -- a transfer just handed out may be submitted for control
  have hout {s : Session (Bench (Handler κ)) ω} {id : TransferId} {b : Bench (Handler κ)}
      (h : p.Held none s) (halloc : s.transport.alloc = (.ok id, b)) :
      p.Held (some id) ⟨b, s.host.expect⟩ ∧ ∀ t ∈ b.inFlight, t.id ≠ id := by
    obtain ⟨rfl, rfl⟩ := Bench.alloc_ok halloc
    refine ⟨⟨⟨h.custody.keys, h.custody.transfers, ?_, h.custody.ids, ?_,
      h.custody.armed_iff⟩, h.keys_lt, h.armed_lt, ?_, ?_⟩, ?_⟩
    · rintro id ⟨⟩ slot hslot
      exact Nat.ne_of_lt (h.transfers_lt slot hslot)
    · intro t ht
      exact Or.inl (h.custody.carried ht)
    · intro slot hslot
      exact Nat.lt_succ_of_lt (h.transfers_lt slot hslot)
    · rintro id ⟨⟩
      exact Nat.lt_succ_self _
    · intro t ht
      exact Nat.ne_of_lt (h.id_lt ht)
  have hfree {s : Session (Bench (Handler κ)) ω} {id : TransferId} (h : p.Held (some id) s) :
      p.Held none { s with transport := s.transport.free id } :=
    ⟨h.custody.free_control, h.keys_lt, h.armed_lt, h.transfers_lt, by simp⟩
  refine {
    unallocated := ?unallocated, refused := ?refused, submitted := ?submitted
    passed := ?passed, cancelled := ?cancelled, freed := ?freed }
  case unallocated =>
    intro s error b h halloc
    obtain rfl := Bench.alloc_error halloc
    exact h
  case refused =>
    intro s id b request error b' h _ halloc hkind hsubmit
    obtain ⟨controlLog, replies, rfl⟩ := Bench.submit_error hsubmit
    exact hfree (s := ⟨_, s.host.expect⟩) ((hout h halloc).1.congr (.refl _) rfl rfl)
  case submitted =>
    intro s id b request b' h _ halloc hkind hsubmit
    obtain ⟨hheld, hfresh⟩ := hout h halloc
    obtain ⟨-, controlLog, replies, reply, rfl⟩ := Bench.submit_ok hsubmit
    exact ⟨hheld.custody.add_control hfresh ⟨rfl, hkind, _, rfl⟩, hheld.keys_lt,
      hheld.armed_lt, hheld.transfers_lt, hheld.waiting_lt⟩
  case passed =>
    intro id s ms h
    exact h.passed (Session.passed_events s ms)
  case cancelled =>
    intro id s h
    rcases hcancel : s.transport.cancel id with ⟨result, b⟩
    obtain ⟨inFlight, rfl, hmarks⟩ := Bench.cancel_cases hcancel
    change p.Held (some id) { s with transport := (s.transport.cancel id).2 }
    rw [hcancel]
    exact h.marked hmarks rfl
  case freed =>
    intro id s h
    exact hfree h

/-- A command that finds no slot armed leaves nothing in flight. -/
lemma inFlight_of_execute {packet : CommandPacket} {response : Option Bytes} {ms : Nat}
    {answer : CommandResult} (h : p.Held none s) (hidle : p.armedCount s.host = 0)
    (hrun : s.execute packet response ms = some (answer, s')) : s'.transport.inFlight = [] :=
  ((kept p).execute h hrun).inFlight_eq_nil fun slot hslot hmem =>
    armedCount_eq_zero_iff.mp hidle slot hslot (Session.armed_execute hrun hmem)

end Held

end Pool

end LogicCapture
