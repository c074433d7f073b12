/-
Transfers that settle in turn, each with what those before it have left of a queue.

* `Settling`: which of the transfers are completed so, and which stay in flight; functions that go
  through them in turn come to this (`Settling.of_recursion`);
* `Settling.perm`, `Settling.sublist`: they are divided into the two, and those that stay keep their
  order;
* `Settling.ready_settled`, `Settling.pending_settled`: what is completed has settled, and what
  stays has not;
* `Settling.exists_turn`: every transfer has its turn.
-/
import Mathlib.Data.List.Perm.Basic

namespace LogicCapture

variable {α β χ γ : Type}

/-- **Transfers settle in turn**: `settle` says how a transfer ends, if it does, and what it leaves
of the queue for those after it. -/
inductive Settling (settle : α → χ → Option β × χ) :
    List α → χ → List β → List α → χ → Prop where
  | nil {queue} : Settling settle [] queue [] [] queue
  | ended {t ts e queue queue₁ queue' ready pending} : settle t queue = (some e, queue₁) →
      Settling settle ts queue₁ ready pending queue' →
      Settling settle (t :: ts) queue (e :: ready) pending queue'
  | stays {t ts queue queue₁ queue' ready pending} : settle t queue = (none, queue₁) →
      Settling settle ts queue₁ ready pending queue' →
      Settling settle (t :: ts) queue ready (t :: pending) queue'

namespace Settling

variable {settle : α → χ → Option β × χ} {ts pending : List α} {ready : List β} {queue queue' : χ}

/-- A function that has transfers settle one after the other comes to this. -/
theorem of_recursion (all : List α → χ → List β × List α × χ)
    (hnil : ∀ queue, all [] queue = ([], [], queue))
    (hended : ∀ {t e queue queue₁} ts, settle t queue = (some e, queue₁) →
      all (t :: ts) queue = (e :: (all ts queue₁).1, (all ts queue₁).2))
    (hstays : ∀ {t queue queue₁} ts, settle t queue = (none, queue₁) →
      all (t :: ts) queue = ((all ts queue₁).1, t :: (all ts queue₁).2.1, (all ts queue₁).2.2))
    (ts : List α) (queue : χ) :
    Settling settle ts queue (all ts queue).1 (all ts queue).2.1 (all ts queue).2.2 := by
  induction ts generalizing queue with
  | nil =>
      rw [hnil]
      exact .nil
  | cons t rest ih =>
      rcases hsettle : settle t queue with ⟨ending, queue₁⟩
      cases ending with
      | some e =>
          rw [hended rest hsettle]
          exact .ended hsettle (ih queue₁)
      | none =>
          rw [hstays rest hsettle]
          exact .stays hsettle (ih queue₁)

/-- **The transfers are divided** into those that are completed and those that stay, if a completion
shows what transfer it is of. -/
theorem perm {f : α → γ} {g : β → γ} (h : Settling settle ts queue ready pending queue')
    (hshows : ∀ {t queue e queue₁}, settle t queue = (some e, queue₁) → g e = f t) :
    (ready.map g ++ pending.map f).Perm (ts.map f) := by
  induction h with
  | nil => exact .nil
  | ended hsettle _ ih =>
      rw [List.map_cons, List.map_cons, hshows hsettle]
      exact ih.cons _
  | stays _ _ ih =>
      rw [List.map_cons, List.map_cons]
      exact List.perm_middle.trans (ih.cons _)

lemma sublist (h : Settling settle ts queue ready pending queue') : pending.Sublist ts := by
  induction h with
  | nil => exact .slnil
  | ended _ _ ih => exact ih.cons _
  | stays _ _ ih => exact ih.cons_cons _

lemma ready_settled (h : Settling settle ts queue ready pending queue') :
    ∀ e ∈ ready, ∃ t ∈ ts, ∃ queue, (settle t queue).1 = some e := by
  induction h with
  | nil => simp
  | @ended t _ _ queue _ _ _ _ hsettle _ ih =>
      intro e he
      rcases List.mem_cons.mp he with rfl | he
      · exact ⟨t, List.mem_cons_self, queue, by rw [hsettle]⟩
      · obtain ⟨t', ht', hsettled⟩ := ih e he
        exact ⟨t', List.mem_cons_of_mem _ ht', hsettled⟩
  | stays _ _ ih =>
      intro e he
      obtain ⟨t', ht', hsettled⟩ := ih e he
      exact ⟨t', List.mem_cons_of_mem _ ht', hsettled⟩

lemma pending_settled (h : Settling settle ts queue ready pending queue') :
    ∀ t ∈ pending, t ∈ ts ∧ ∃ queue, (settle t queue).1 = none := by
  intro t ht
  refine ⟨h.sublist.subset ht, ?_⟩
  induction h with
  | nil => cases ht
  | ended _ _ ih => exact ih ht
  | @stays _ _ queue _ _ _ _ hsettle _ ih =>
      rcases List.mem_cons.mp ht with rfl | ht
      · exact ⟨queue, by rw [hsettle]⟩
      · exact ih ht

/-- **Every transfer has its turn**: with what is left of the queue then, it is completed if it
settles and stays in flight if not. -/
theorem exists_turn {t : α} (h : Settling settle ts queue ready pending queue') (ht : t ∈ ts) :
    ∃ queue, (∀ e ∈ (settle t queue).1, e ∈ ready) ∧ ((settle t queue).1 = none → t ∈ pending) := by
  induction h with
  | nil => cases ht
  | @ended _ _ _ queue _ _ _ _ hsettle _ ih =>
      rcases List.mem_cons.mp ht with rfl | ht
      · exact ⟨queue, by simp [hsettle], fun hno => by simp [hsettle] at hno⟩
      · obtain ⟨queue, hready, hpending⟩ := ih ht
        exact ⟨queue, fun e he => List.mem_cons_of_mem _ (hready e he), hpending⟩
  | @stays _ _ queue _ _ _ _ hsettle _ ih =>
      rcases List.mem_cons.mp ht with rfl | ht
      · exact ⟨queue, by simp [hsettle], fun _ => List.mem_cons_self⟩
      · obtain ⟨queue, hready, hpending⟩ := ih ht
        exact ⟨queue, hready, fun hnone => List.mem_cons_of_mem _ (hpending hnone)⟩

end Settling

end LogicCapture
