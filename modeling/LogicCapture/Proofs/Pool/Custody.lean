/-
Who holds the transfers of a pool on the bench.

* `Pool.Carries`, `Bench.InFlight.Controls`: transfers that carry samples of a slot, and control
  transfers;
* `Pool.Custody`: every transfer in flight is one or the other, and a slot is armed exactly if
  its transfer is in flight;
* `Pool.Custody.armedCount_eq_length`, `Pool.Custody.filter_isBulk`: between control transfers, the
  armed slots and the transfers in flight, all of them bulk transfers, are equal in number;
* `Pool.Custody.step`: custody outlives every completion, whatever the consumer makes of it.
-/
import LogicCapture.Proofs.Bench.Moves
import LogicCapture.Proofs.Pool.Operations
import Mathlib.Data.List.Nodup

namespace LogicCapture

variable {κ ω H : Type}

namespace Bench.InFlight

/-- What custody sees of a transfer. -/
def badge (t : InFlight H) : TransferId × TransferKind × H × Nat :=
  (t.id, t.kind, t.handler, t.buffer.length)

lemma badge_shape (t : InFlight H) : t.shape.badge = t.badge := by
  simp [badge, shape, zeros]

/-- The transfer is the control transfer with this id. -/
structure Controls (t : InFlight (Handler κ)) (id : TransferId) : Prop where
  id_eq : t.id = id
  kind : t.kind = .control
  handler : ∃ ticket, t.handler = .control ticket

end Bench.InFlight

namespace Pool

/-! ### Custody -/

/-- The transfer carries samples of a slot of the pool. -/
structure Carries (p : Pool) (t : Bench.InFlight (Handler κ)) (slot : Slot) : Prop where
  mem : slot ∈ p.slots
  id_eq : t.id = slot.transfer
  kind : t.kind.isBulk = true
  handler : ∃ consumer, t.handler = .slot slot.key consumer
  length : t.buffer.length = p.bufferSize

/-- **The pool and the transport agree on who holds what**, while the transport may also hold
the control transfer `waiting`. -/
structure Custody (p : Pool) (waiting : Option TransferId)
    (ts : List (Bench.InFlight (Handler κ))) (armed : List Nat) : Prop where
  keys : (p.slots.map (·.key)).Nodup
  transfers : (p.slots.map (·.transfer)).Nodup
  apart : ∀ id ∈ waiting, ∀ slot ∈ p.slots, slot.transfer ≠ id
  ids : (ts.map (·.id)).Nodup
  source : ∀ t ∈ ts, (∃ slot, p.Carries t slot) ∨ ∃ id ∈ waiting, t.Controls id
  armed_iff : ∀ slot ∈ p.slots, slot.key ∈ armed ↔ ∃ t ∈ ts, t.id = slot.transfer

namespace Custody

variable {p : Pool} {waiting : Option TransferId} {armed : List Nat}
  {t t' : Bench.InFlight (Handler κ)} {ts ts' : List (Bench.InFlight (Handler κ))}

/-- Custody does not depend on the order of the transfers, on what their buffers hold or on
which of them are to be cancelled. -/
lemma congr (hperm : (ts'.map (·.badge)).Perm (ts.map (·.badge)))
    (h : p.Custody waiting ts armed) : p.Custody waiting ts' armed := by
  have hids : (ts'.map (·.id)).Perm (ts.map (·.id)) := by
    have := hperm.map (·.1)
    simpa [Function.comp_def, Bench.InFlight.badge] using this
  refine ⟨h.keys, h.transfers, h.apart, hids.nodup_iff.mpr h.ids, ?_,
    fun slot hslot => (h.armed_iff slot hslot).trans ?_⟩
  · intro t' ht'
    obtain ⟨t, ht, hbadge⟩ := List.mem_map.mp (hperm.subset (List.mem_map_of_mem ht'))
    simp only [Bench.InFlight.badge, Prod.mk.injEq] at hbadge
    obtain ⟨hid, hkind, hhandler, hlen⟩ := hbadge
    rcases h.source t ht with ⟨slot, hc⟩ | ⟨id, hw, hc⟩
    · exact Or.inl ⟨slot, hc.mem, hid ▸ hc.id_eq, hkind ▸ hc.kind, hhandler ▸ hc.handler,
        hlen ▸ hc.length⟩
    · exact Or.inr ⟨id, hw, hid ▸ hc.id_eq, hkind ▸ hc.kind, hhandler ▸ hc.handler⟩
  · have hmem : slot.transfer ∈ ts'.map (·.id) ↔ slot.transfer ∈ ts.map (·.id) := hids.mem_iff
    simpa using hmem.symm

/-- A slot is known by its key. -/
lemma eq_of_key (h : p.Custody waiting ts armed) {slot slot' : Slot} (hs : slot ∈ p.slots)
    (hs' : slot' ∈ p.slots) (hkey : slot.key = slot'.key) : slot = slot' :=
  List.inj_on_of_nodup_map h.keys hs hs' hkey

/-- A slot is known by its transfer. -/
lemma eq_of_transfer (h : p.Custody waiting ts armed) {slot slot' : Slot} (hs : slot ∈ p.slots)
    (hs' : slot' ∈ p.slots) (htransfer : slot.transfer = slot'.transfer) : slot = slot' :=
  List.inj_on_of_nodup_map h.transfers hs hs' htransfer

/-- The control transfer ends. -/
lemma drop_control {id : TransferId} (h : p.Custody waiting (t :: ts) armed) (hw : id ∈ waiting)
    (hc : t.Controls id) : p.Custody waiting ts armed := by
  refine ⟨h.keys, h.transfers, h.apart, (List.nodup_cons.mp h.ids).2,
    fun t' ht' => h.source t' (List.mem_cons_of_mem _ ht'), ?_⟩
  intro slot hslot
  have hne : t.id ≠ slot.transfer := fun heq => h.apart id hw slot hslot (heq.symm.trans hc.id_eq)
  rw [h.armed_iff slot hslot]
  simp [hne]

/-- The transfer of a slot ends, and the slot is marked idle. -/
lemma drop_slot {slot : Slot} (h : p.Custody waiting (t :: ts) armed) (hc : p.Carries t slot) :
    p.Custody waiting ts (armed.filter (· ≠ slot.key)) := by
  have hids := List.nodup_cons.mp h.ids
  refine ⟨h.keys, h.transfers, h.apart, hids.2,
    fun t' ht' => h.source t' (List.mem_cons_of_mem _ ht'), ?_⟩
  intro slot' hslot'
  by_cases hsame : slot' = slot
  · -- no other transfer has the id of the one that ends
    subst hsame
    have hnone : ¬ ∃ t' ∈ ts, t'.id = slot'.transfer := by
      rintro ⟨t', ht', hid⟩
      exact hids.1 (List.mem_map.mpr ⟨t', ht', hid.trans hc.id_eq.symm⟩)
    simp [hnone]
  · have hkey : slot'.key ≠ slot.key := fun heq => hsame (h.eq_of_key hslot' hc.mem heq)
    have hid : t.id ≠ slot'.transfer := fun heq =>
      hsame (h.eq_of_transfer hslot' hc.mem (heq.symm.trans hc.id_eq))
    have hiff := h.armed_iff slot' hslot'
    simpa [hkey, hid] using hiff

/-- The transfer of a slot changes hands. -/
lemma replace {slot : Slot} (h : p.Custody waiting (t :: ts) armed) (hc : p.Carries t slot)
    (hc' : p.Carries t' slot) : p.Custody waiting (t' :: ts) armed := by
  have hid : t'.id = t.id := hc'.id_eq.trans hc.id_eq.symm
  refine ⟨h.keys, h.transfers, h.apart, ?_, ?_, ?_⟩
  · simpa only [List.map_cons, hid] using h.ids
  · intro t₀ ht₀
    rcases List.mem_cons.mp ht₀ with rfl | ht₀
    · exact Or.inl ⟨slot, hc'⟩
    · exact h.source t₀ (List.mem_cons_of_mem _ ht₀)
  · intro slot' hslot'
    rw [h.armed_iff slot' hslot']
    simp [hid]

/-- A transfer of an idle slot is put in flight, and the slot is marked. -/
lemma add_slot {slot : Slot} (h : p.Custody waiting ts armed) (hidle : ∀ t' ∈ ts, t'.id ≠ t.id)
    (hc : p.Carries t slot) : p.Custody waiting (ts ++ [t]) (armed.insert slot.key) := by
  refine ⟨h.keys, h.transfers, h.apart, ?_, ?_, ?_⟩
  · rw [List.map_append, List.nodup_append]
    refine ⟨h.ids, List.nodup_singleton _, ?_⟩
    intro id hid id' hid'
    obtain ⟨t', ht', rfl⟩ := List.mem_map.mp hid
    rw [List.map_singleton, List.mem_singleton] at hid'
    exact hid' ▸ hidle t' ht'
  · intro t' ht'
    rcases List.mem_append.mp ht' with ht' | ht'
    · exact h.source t' ht'
    · exact Or.inl ⟨slot, List.mem_singleton.mp ht' ▸ hc⟩
  · intro slot' hslot'
    rw [List.mem_insert_iff, h.armed_iff slot' hslot']
    constructor
    · rintro (hkey | ⟨t', ht', hid⟩)
      · have hsame := h.eq_of_key hslot' hc.mem hkey
        exact ⟨t, by simp, hsame ▸ hc.id_eq⟩
      · exact ⟨t', List.mem_append_left _ ht', hid⟩
    · rintro ⟨t', ht', hid⟩
      rcases List.mem_append.mp ht' with ht' | ht'
      · exact Or.inr ⟨t', ht', hid⟩
      · rw [List.mem_singleton.mp ht'] at hid
        have hsame := h.eq_of_transfer hslot' hc.mem (hid.symm.trans hc.id_eq)
        exact Or.inl (by rw [hsame])

/-- The control transfer is put in flight. -/
lemma add_control {id : TransferId} (h : p.Custody (some id) ts armed)
    (hidle : ∀ t' ∈ ts, t'.id ≠ id) (hc : t.Controls id) :
    p.Custody (some id) (ts ++ [t]) armed := by
  refine ⟨h.keys, h.transfers, h.apart, ?_, ?_, ?_⟩
  · rw [List.map_append, List.nodup_append]
    refine ⟨h.ids, List.nodup_singleton _, ?_⟩
    intro id₁ hid₁ id₂ hid₂
    obtain ⟨t', ht', rfl⟩ := List.mem_map.mp hid₁
    rw [List.map_singleton, List.mem_singleton, hc.id_eq] at hid₂
    exact hid₂ ▸ hidle t' ht'
  · intro t' ht'
    rcases List.mem_append.mp ht' with ht' | ht'
    · exact h.source t' ht'
    · exact Or.inr ⟨id, rfl, List.mem_singleton.mp ht' ▸ hc⟩
  · intro slot hslot
    have hne : ¬ t.id = slot.transfer := fun heq =>
      h.apart id rfl slot hslot (heq.symm.trans hc.id_eq)
    rw [h.armed_iff slot hslot]
    simp [or_and_right, exists_or, hne]

/-- The control transfer is taken back, in flight or not. -/
lemma free_control {id : TransferId} (h : p.Custody (some id) ts armed) :
    p.Custody none (ts.filter fun t => t.id ≠ id) armed := by
  refine ⟨h.keys, h.transfers, by simp, h.ids.sublist (List.filter_sublist.map _),
    ?_, ?_⟩
  · intro t ht
    obtain ⟨ht, hne⟩ := List.mem_filter.mp ht
    rcases h.source t ht with hc | ⟨id', hid', hc⟩
    · exact Or.inl hc
    · cases hid'
      exact absurd hc.id_eq (by simpa using hne)
  · intro slot hslot
    have hne (t : Bench.InFlight (Handler κ)) (heq : t.id = slot.transfer) : t.id ≠ id := by
      rw [heq]
      exact h.apart id rfl slot hslot
    rw [h.armed_iff slot hslot]
    constructor
    · rintro ⟨t, ht, hid⟩
      exact ⟨t, List.mem_filter.mpr ⟨ht, by simpa using hne t hid⟩, hid⟩
    · rintro ⟨t, ht, hid⟩
      exact ⟨t, (List.mem_filter.mp ht).1, hid⟩

/-- Between control transfers, only slots' transfers are in flight. -/
lemma carried (h : p.Custody none ts armed) (ht : t ∈ ts) : ∃ slot, p.Carries t slot := by
  rcases h.source t ht with hc | ⟨id, hid, -⟩
  · exact hc
  · cases hid

/-- Between control transfers, a pool without armed slots has nothing in flight. -/
lemma eq_nil (h : p.Custody none ts armed) (harmed : ∀ slot ∈ p.slots, slot.key ∉ armed) :
    ts = [] := by
  refine List.eq_nil_iff_forall_not_mem.mpr ?_
  intro t ht
  obtain ⟨slot, hc⟩ := h.carried ht
  exact harmed slot hc.mem ((h.armed_iff slot hc.mem).mpr ⟨t, ht, hc.id_eq⟩)

/-- Between control transfers, a slot is armed for every transfer in flight. -/
lemma armedCount_eq_length {host : Host ω} (h : p.Custody none ts host.armed) :
    p.armedCount host = ts.length := by
  have hperm : ((p.slots.filter fun slot => host.isArmed slot.key).map (·.transfer)).Perm
      (ts.map (·.id)) := by
    refine (List.perm_ext_iff_of_nodup (h.transfers.sublist (List.filter_sublist.map _)) h.ids).mpr
      fun id => ⟨fun hid => ?_, fun hid => ?_⟩
    · obtain ⟨slot, hslot, rfl⟩ := List.mem_map.mp hid
      obtain ⟨hslot, harmed⟩ := List.mem_filter.mp hslot
      obtain ⟨t, ht, hid⟩ := (h.armed_iff slot hslot).mp (Host.isArmed_iff.mp harmed)
      exact List.mem_map.mpr ⟨t, ht, hid⟩
    · obtain ⟨t, ht, rfl⟩ := List.mem_map.mp hid
      obtain ⟨slot, hc⟩ := h.carried ht
      have harmed := (h.armed_iff slot hc.mem).mpr ⟨t, ht, hc.id_eq⟩
      exact List.mem_map.mpr ⟨slot, List.mem_filter.mpr ⟨hc.mem, Host.isArmed_iff.mpr harmed⟩,
        hc.id_eq.symm⟩
  simpa [armedCount] using hperm.length_eq

/-- Between control transfers, all transfers in flight are bulk transfers. -/
lemma filter_isBulk (h : p.Custody none ts armed) : (ts.filter fun t => t.kind.isBulk) = ts := by
  refine List.filter_eq_self.mpr fun t ht => ?_
  obtain ⟨slot, hc⟩ := h.carried ht
  exact hc.kind

variable [Consumer κ ω]

/-- **Custody outlives every completion**: transfers that end leave their slots idle, those
armed again leave them armed, and a refused resubmission leaves its slot idle too. -/
theorem step {l l' : Line κ ω} (hstep : Line.Step l l')
    (h : p.Custody waiting l.entries l.host.armed) :
    p.Custody waiting l'.entries l'.host.armed := by
  -- every step takes the head of the line, which belongs to a slot or to the control transfer
  cases hstep with
  | @ended t c rest inFlight host hhon =>
      rcases h.source t List.mem_cons_self with ⟨slot, hc⟩ | ⟨id, hw, hc⟩
      · obtain ⟨consumer, hhandler⟩ := hc.handler
        obtain ⟨rearm, consumer', shared, -, hreact⟩ :=
          Handler.react_slot slot.key consumer c host
        rw [Line.call, hhandler, hreact] at hhon
        simp only [Line.call, hhandler, hreact, hhon]
        exact h.drop_slot hc
      · obtain ⟨ticket, hhandler⟩ := hc.handler
        simp only [Line.call, hhandler, Handler.armed_react_control]
        exact h.drop_control hw hc
  | @rearmed t c rest inFlight host hhon =>
      rcases h.source t List.mem_cons_self with ⟨slot, hc⟩ | ⟨id, hw, hc⟩
      · obtain ⟨consumer, hhandler⟩ := hc.handler
        obtain ⟨rearm, consumer', shared, -, hreact⟩ :=
          Handler.react_slot slot.key consumer c host
        rw [Line.call, hhandler, hreact] at hhon
        simp only [Line.call, hhandler, hreact, hhon, if_true, Line.entries]
        let again : Bench.InFlight (Handler κ) :=
          { t with handler := .slot slot.key consumer', reply := none, cancelled := false }
        have hagain : p.Carries again slot :=
          ⟨hc.mem, hc.id_eq, hc.kind, ⟨consumer', rfl⟩, hc.length⟩
        have hnew := h.replace hc hagain
        refine hnew.congr (List.Perm.map _ ?_)
        rw [← List.append_assoc]
        exact List.perm_append_singleton _ _
      · obtain ⟨ticket, hhandler⟩ := hc.handler
        rw [Line.call, hhandler] at hhon
        cases hhon
  | @refused t c rest inFlight host hhon =>
      rcases h.source t List.mem_cons_self with ⟨slot, hc⟩ | ⟨id, hw, hc⟩
      · obtain ⟨consumer, hhandler⟩ := hc.handler
        obtain ⟨rearm, consumer', shared, -, hreact⟩ :=
          Handler.react_slot slot.key consumer c host
        rw [Line.call, hhandler, hreact] at hhon
        simp only [Line.call, hhandler, hreact, hhon, if_true]
        obtain ⟨rearm₂, consumer₂, shared₂, -, hagain⟩ := Handler.react_slot slot.key consumer'
          Completion.refused ({ host with shared } : Host ω)
        simp only [hagain, Handler.not_honoured_refused]
        exact h.drop_slot hc
      · obtain ⟨ticket, hhandler⟩ := hc.handler
        rw [Line.call, hhandler] at hhon
        cases hhon

end Custody

end Pool

end LogicCapture
