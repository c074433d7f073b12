/-
The ledger of transfers: what the bench has handed out, what has been given back to it, and what
the pool still holds.

* `Bench.handedOut`: the transfers that the bench has handed out;
* `Pool.Balanced`: each of them has been given back once, or is a slot's, or is the control
  transfer in flight;
* `Pool.enduring_balanced`: the ledger stays balanced, whatever fails;
* `Pool.Balanced.outstanding_iff`, `Pool.Balanced.count_freed`: what a balanced ledger says of a
  single transfer.
-/
import LogicCapture.Proofs.Pool.Run

namespace LogicCapture

variable {κ ω H : Type}

namespace Bench

/-- The transfers that the bench has handed out, in order. -/
def handedOut (b : Bench H) : List TransferId := List.range b.allocated

/-- Each transfer handed out is a new one. -/
lemma handedOut_alloc {b b' : Bench H} {id : TransferId} (h : b.alloc = (.ok id, b')) :
    b'.handedOut = b.handedOut ++ [id] := by
  obtain ⟨rfl, rfl⟩ := alloc_ok h
  exact List.range_succ

/-- Transfers handed out in turn. -/
lemma range_add_allocated (b : Bench H) (count : Nat) :
    List.range (b.allocated + count) = b.handedOut ++ List.range' b.allocated count := by
  rw [handedOut, List.range_eq_range', List.range_eq_range']
  simpa using (List.range'_append_1 (s := 0) (m := b.allocated) (n := count)).symm

end Bench

namespace Pool

/-! ### The balance -/

/-- **The ledger is balanced**: what has been handed out has been given back once, or is a slot's,
or is the control transfer `waiting`. -/
def Balanced (p : Pool) (waiting : Option TransferId) (s : Session (Bench (Handler κ)) ω) : Prop :=
  (s.transport.freed ++ waiting.toList ++ p.slots.map (·.transfer)).Perm s.transport.handedOut

namespace Balanced

variable {p : Pool} {waiting : Option TransferId} {s : Session (Bench (Handler κ)) ω}
  {b : Bench (Handler κ)}

/-- Only the ledger matters. -/
lemma congr {s' : Session (Bench (Handler κ)) ω} (h : p.Balanced waiting s)
    (halloc : s'.transport.allocated = s.transport.allocated)
    (hfreed : s'.transport.freed = s.transport.freed) : p.Balanced waiting s' := by
  rw [Balanced, Bench.handedOut, halloc, hfreed]
  exact h

lemma nodup (h : p.Balanced waiting s) :
    (s.transport.freed ++ waiting.toList ++ p.slots.map (·.transfer)).Nodup :=
  h.nodup_iff.mpr List.nodup_range

/-- **What is outstanding is the pool's.** -/
theorem outstanding_iff (h : p.Balanced none s) (id : TransferId) :
    id ∈ s.transport.handedOut ∧ id ∉ s.transport.freed ↔ ∃ slot ∈ p.slots, slot.transfer = id := by
  have hnodup := h.nodup
  rw [Option.toList_none, List.append_nil, List.nodup_append'] at hnodup
  rw [← h.mem_iff, Option.toList_none, List.append_nil, List.mem_append, List.mem_map]
  constructor
  · rintro ⟨hfreed | hslot, hkept⟩
    · exact absurd hfreed hkept
    · exact hslot
  · intro hslot
    exact ⟨Or.inr hslot, fun hfreed => hnodup.2.2 hfreed (List.mem_map.mpr hslot)⟩

/-- **A pool without slots has given everything back**, each transfer once. -/
theorem count_freed (h : p.Balanced none s) (hslots : p.slots = []) (id : TransferId) :
    s.transport.freed.count id = if id ∈ s.transport.handedOut then 1 else 0 := by
  have hperm : s.transport.freed.Perm s.transport.handedOut := by
    simpa [Balanced, hslots] using h
  have hnodup : s.transport.handedOut.Nodup := List.nodup_range
  rw [hperm.count_eq, hnodup.count]

/-! ### What keeps it -/

/-- A transfer is handed out for control. -/
lemma issue {id : TransferId} (h : p.Balanced none s) (halloc : s.transport.alloc = (.ok id, b)) :
    p.Balanced (some id) ⟨b, s.host.expect⟩ := by
  have hissued := Bench.handedOut_alloc halloc
  have hbefore : (s.transport.freed ++ p.slots.map (·.transfer)).Perm s.transport.handedOut := by
    simpa [Balanced] using h
  obtain ⟨-, rfl⟩ := Bench.alloc_ok halloc
  rw [Balanced, hissued]
  refine List.Perm.trans ?_ (hbefore.append_right [id])
  rw [List.append_assoc, List.append_assoc]
  exact List.perm_append_comm.append_left _

/-- The control transfer is given back. -/
lemma giveBack {id : TransferId} (h : p.Balanced (some id) s) :
    p.Balanced none { s with transport := s.transport.free id } := by
  simpa [Balanced, Bench.free, Bench.handedOut] using h

lemma cancelAll (h : p.Balanced waiting s) : p.Balanced waiting (p.cancelAll s).2 := by
  obtain ⟨inFlight, cancelRequests, hafter, -⟩ := p.cancelAll_bench s
  rw [hafter]
  exact h.congr rfl rfl

lemma freeAll (h : p.Balanced none s) : (p.freeAll s).1.Balanced none (p.freeAll s).2 := by
  rw [Pool.freeAll, freeSlots_bench]
  simpa [Balanced, Bench.handedOut] using h

/-- Allocation gives the pool all that it is handed out, or gives all of it back. -/
lemma allocate (h : p.Balanced none s) (count : Nat) :
    (p.allocate count s).2.1.Balanced none (p.allocate count s).2.2 := by
  have hbefore (hslots : p.slots = []) : s.transport.freed.Perm s.transport.handedOut := by
    simpa [Balanced, hslots] using h
  rcases p.allocate_bench count s with
    hafter | ⟨hslots, n, ids, hids, hafter⟩ | ⟨hslots, slots, -, hids, hafter⟩
  · rwa [hafter]
  · rw [hafter, Balanced, Bench.handedOut, Bench.range_add_allocated, hids]
    simpa [hslots] using (hbefore hslots).append_right _
  · rw [hafter, Balanced, Bench.handedOut, Bench.range_add_allocated, hids]
    simpa using (hbefore hslots).append_right _

/-- Submissions hand nothing out. -/
lemma arm (h : p.Balanced waiting s) (endpoint : UInt8) (consumer : κ) :
    p.Balanced waiting (p.arm endpoint consumer s).2 := by
  refine arm_induction h (fun h => ?_) fun h => h.cancelAll
  refine submitSlots_induction ?_ ?_ h
  all_goals
    intros
    rename_i hs hsubmit
    obtain ⟨controlLog, replies, ⟨_, _, rfl⟩ | ⟨_, _, reply, rfl⟩⟩ := Bench.submit_cases hsubmit
    all_goals exact hs.congr rfl rfl

variable [Consumer κ ω]

/-- An event pass takes nothing back. -/
lemma passed {s' : Session (Bench (Handler κ)) ω} (h : p.Balanced waiting s)
    (hpass : Session.Passed s s') : p.Balanced waiting s' := by
  have halloc := congrArg Bench.allocated hpass.frame
  have hfreed := congrArg Bench.freed hpass.frame
  exact h.congr halloc hfreed

/-- **Control transfers keep the balance**: on every way out the transfer is given back. -/
theorem kept (p : Pool) :
    Session.Kept (Balanced (κ := κ) (ω := ω) p none) (fun id => p.Balanced (some id)) where
  unallocated {s error b} h halloc := by
    obtain rfl := Bench.alloc_error halloc
    exact h
  refused {s id b request error b'} h _ halloc _ hsubmit := by
    obtain ⟨controlLog, replies, rfl⟩ := Bench.submit_error hsubmit
    have hissued : p.Balanced (some id) ⟨{ b with
        submissions := b.submissions + 1, controlLog, replies }, s.host.expect⟩ :=
      (h.issue halloc).congr rfl rfl
    exact hissued.giveBack
  submitted {s id b request b'} h _ halloc _ hsubmit := by
    obtain ⟨-, controlLog, replies, reply, rfl⟩ := Bench.submit_ok hsubmit
    exact (h.issue halloc).congr rfl rfl
  passed h := h.passed (Session.passed_events _ _)
  cancelled {id s} h := by
    rcases hcancel : s.transport.cancel id with ⟨result, b⟩
    obtain ⟨inFlight, rfl, -⟩ := Bench.cancel_cases hcancel
    have hafter : (s.transport.cancel id).2 = _ := congrArg Prod.snd hcancel
    have halloc := congrArg Bench.allocated hafter
    have hfreed := congrArg Bench.freed hafter
    exact h.congr halloc hfreed
  freed h := h.giveBack

end Balanced

/-- **The ledger stays balanced** in every step of a pool's life. -/
theorem enduring_balanced [Consumer κ ω] : Enduring (κ := κ) (ω := ω) (τ := Bench (Handler κ))
    (fun p s => p.Balanced none s) (fun p id s => p.Balanced (some id) s) where
  kept := Balanced.kept
  pass ms h := h.passed (Session.passed_events _ ms)
  allocate count h := h.allocate count
  arm endpoint consumer h := h.arm endpoint consumer
  cancelAll h := h.cancelAll
  freeAll h := h.freeAll
  cue {p s} cue h := by
    obtain ⟨-, halloc, hfreed⟩ := s.transport.cue_frame cue
    exact h.congr halloc hfreed

end Pool

end LogicCapture
