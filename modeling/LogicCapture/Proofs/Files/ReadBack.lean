/-
Reading a file that has just been written.

* `FileTree.create_eq_ok`: what it takes to make a file;
* `FileTree.place_put`: a file in the place of what is no directory is in nobody's way;
* `FileTree.read_write`: what has been written to a path is read from it.
-/
import LogicCapture.Files.Tree
import Mathlib.Tactic.Common

namespace LogicCapture.FileTree

variable {t t' : FileTree} {path : Path} {location : Location}

/-- Where nothing has been put, all is as before. -/
lemma node?_put_of_ne {other : Location} (h : other ≠ location) (node : FileNode) :
    (t.put location node).node? other = t.node? other := by
  have hlookup : (t.entries.filter fun entry => entry.1 ≠ location).lookup other =
      t.entries.lookup other := by
    induction t.entries with
    | nil => rfl
    | cons entry entries ih =>
      obtain ⟨at_, node⟩ := entry
      by_cases hat : at_ = location
      · have hother : (other == at_) = false := beq_eq_false_iff_ne.mpr (hat ▸ h)
        simpa [hat, List.lookup_cons, hat ▸ hother] using ih
      · simp only [List.filter_cons, hat, ne_eq, not_false_eq_true, decide_true, if_true,
          List.lookup_cons, ih]
  have hother : (other == location) = false := beq_eq_false_iff_ne.mpr h
  simp only [node?, put, List.lookup_cons, hother, hlookup]

/-- A file is made where the path leads, if that is no directory. -/
lemma create_eq_ok {made : Location × FileTree} : t.create path = .ok made ↔
    ∃ location, t.place path = .ok location ∧ namesDirectory path = false ∧
      t.node? location ≠ some .directory ∧ made = (location, t.put location (.file [])) := by
  cases hplace : t.place path with
  | error e => simp [create, hplace, bind, Except.bind]
  | ok location =>
    cases hname : namesDirectory path with
    | true => simp [create, hplace, hname, bind, Except.bind, throw, throwThe, MonadExceptOf.throw]
    | false =>
      cases hnode : t.node? location with
      | none =>
        simp [create, hplace, hname, hnode, bind, Except.bind, pure, Except.pure, eq_comm]
      | some node =>
        cases node <;>
          simp [create, hplace, hname, hnode, bind, Except.bind, pure, Except.pure, throw,
            throwThe, MonadExceptOf.throw, eq_comm]

/-- Going through a directory is going through it after a file has been put elsewhere. -/
lemma step_put (h : t.node? location ≠ some .directory) {node : FileNode}
    {start next : Location} {name : String} (gone : t.step start name = .ok next) :
    (t.put location node).step start name = .ok next := by
  have hstart : t.node? start = some .directory := by
    rw [step] at gone
    split at gone
    · cases gone
    · cases gone
    · assumption
  have hne : start ≠ location := by
    rintro rfl
    exact h hstart
  rw [step, node?_put_of_ne hne]
  exact gone

/-- **A file is in nobody's way**: a path leads where it led before the file was put in the place
of what was no directory. -/
lemma place_put (h : t.node? location ≠ some .directory) {node : FileNode} {target : Location}
    (leads : t.place path = .ok target) : (t.put location node).place path = .ok target := by
  have hwalk (names : List String) (start : Location)
      (walked : names.foldlM t.step start = .ok target) :
      names.foldlM (t.put location node).step start = .ok target := by
    induction names generalizing start with
    | nil => exact walked
    | cons name names ih =>
      rw [List.foldlM_cons] at walked ⊢
      cases gone : t.step start name with
      | error e => simp [gone, bind, Except.bind] at walked
      | ok next =>
        rw [step_put h gone]
        exact ih next (by simpa [gone, bind, Except.bind] using walked)
  cases hpath : checkPath path with
  | error e => simp [place, hpath, bind, Except.bind] at leads
  | ok _ =>
    simp only [place, hpath, bind, Except.bind] at leads ⊢
    exact hwalk _ _ leads

/-- **What has been written to a path is read from it.** -/
theorem read_write {contents : Bytes} (written : t.write path contents = .ok t') :
    t'.read path = .ok contents := by
  cases made : t.create path with
  | error e => simp [write, made, bind, Except.bind] at written
  | ok made' =>
    obtain ⟨location, leads, hname, hnode, rfl⟩ := create_eq_ok.mp made
    simp only [write, made, bind, Except.bind, pure, Except.pure, Except.ok.injEq] at written
    have hlocation : location ≠ [] := by
      rintro rfl
      exact hnode rfl
    have hempty : (t.put location (.file [])).node? location ≠ some .directory := by
      rw [node?_put_self t hlocation]
      simp
    have hleads : t'.place path = .ok location := by
      rw [← written]
      exact place_put hempty (place_put hnode leads)
    have hread : t'.node? location = some (.file contents) := by
      rw [← written]
      exact node?_put_self _ hlocation _
    simp [read, hleads, hread, hname, bind, Except.bind, pure, Except.pure]

end LogicCapture.FileTree
