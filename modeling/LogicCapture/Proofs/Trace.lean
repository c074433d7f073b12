/-
Lists that grow at their end, as traces and lists of calls do.

* `split_of_concat_eq`: where an entry can stand in a list with one more at its end;
* `Historic`: a law about every entry and the entries before it;
* `Historic.concat_iff`, `Historic.append`: it is decided by the entries one at a time, and entries
  that the law does not speak about may be added freely;
* `Historic.flatMap`: it holds of lists in a row if each keeps it behind those before.
-/
import Mathlib.Tactic.Common
import Mathlib.Data.List.Induction

namespace LogicCapture

variable {α : Type} {l before after more : List α} {last x : α}

/-- Where an element can stand in a list with one more at its end. -/
lemma split_of_concat_eq (h : l ++ [last] = before ++ x :: after) :
    (l = before ∧ last = x) ∨ ∃ after', l = before ++ x :: after' := by
  rcases List.eq_nil_or_concat after with rfl | ⟨after', y, rfl⟩
  · obtain ⟨hl, hlast⟩ := List.append_inj' h rfl
    exact Or.inl ⟨hl, List.head_eq_of_cons_eq hlast⟩
  · rw [List.concat_eq_append, ← List.cons_append, ← List.append_assoc] at h
    exact Or.inr ⟨after', (List.append_inj' h rfl).1⟩

/-- Every entry suits the entries before it. -/
def Historic (law : List α → α → Prop) (l : List α) : Prop :=
  ∀ before x after, l = before ++ x :: after → law before x

namespace Historic

variable {law : List α → α → Prop}

lemma nil : Historic law [] := fun before x after h => by
  simp at h

lemma mono {law' : List α → α → Prop} (h : Historic law l)
    (hlaw : ∀ before x, law before x → law' before x) : Historic law' l :=
  fun before x after heq => hlaw before x (h before x after heq)

/-- The law is decided by the entries one at a time. -/
lemma concat (h : Historic law l) (hlast : law l last) : Historic law (l ++ [last]) := by
  intro before x after heq
  rcases split_of_concat_eq heq with ⟨rfl, rfl⟩ | ⟨after', hsplit⟩
  · exact hlast
  · exact h before x after' hsplit

/-- The entries before the last keep the law, and so does the last. -/
lemma concat_iff : Historic law (l ++ [last]) ↔ Historic law l ∧ law l last := by
  refine ⟨fun h => ⟨fun before x after heq => ?_, h l last [] rfl⟩, fun h => h.1.concat h.2⟩
  exact h before x (after ++ [last]) (by rw [heq, List.append_assoc, List.cons_append])

/-- Entries that suit every history may be added freely. -/
lemma append (h : Historic law l) (hmore : ∀ x ∈ more, ∀ before, law before x) :
    Historic law (l ++ more) := by
  induction more using List.reverseRecOn with
  | nil => rwa [List.append_nil]
  | append_singleton more last ih =>
      rw [← List.append_assoc]
      exact (ih fun x hx => hmore x (List.mem_append_left _ hx)).concat (hmore last (by simp) _)

/-- Lists that entries come to keep a law if each of them keeps it behind those before. -/
lemma flatMap {β : Type} {f : α → List β} {law : List β → β → Prop}
    (h : Historic (fun before x => ∀ earlier y later, f x = earlier ++ y :: later →
      law (before.flatMap f ++ earlier) y) l) : Historic law (l.flatMap f) := by
  induction l using List.reverseRecOn with
  | nil => exact nil
  | append_singleton l last ih =>
      have hrest : Historic law (l.flatMap f) := by
        refine ih fun before x after hl => h before x (after ++ [last]) ?_
        rw [hl, List.append_assoc, List.cons_append]
      have hlast := h l last [] rfl
      rw [List.flatMap_append, List.flatMap_singleton]
      -- the entries of the last list come one at a time
      suffices hsome : ∀ done more, f last = done ++ more →
          Historic law (l.flatMap f ++ done) from hsome (f last) [] (List.append_nil _).symm
      intro done
      induction done using List.reverseRecOn with
      | nil => exact fun more _ => by rwa [List.append_nil]
      | append_singleton done y ihdone =>
          intro more hsplit
          rw [List.append_assoc, List.singleton_append] at hsplit
          rw [← List.append_assoc]
          exact (ihdone (y :: more) hsplit).concat (hlast done y more hsplit)

end Historic

end LogicCapture
