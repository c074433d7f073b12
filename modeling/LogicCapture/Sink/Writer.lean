/-
Writers that take bytes in pieces, and writing a whole buffer to one:

* `Writer`: a writer may take part of what it is offered, ask to be tried again,
  or fail; only bytes it has taken appear in its contents;
* `Writer.writeAll`: offers a buffer until it has been taken or writing fails;
* `BoundedWriter`, `FileContents`: a writer of limited room that can be
  interrupted, and one that takes everything.
-/
import LogicCapture.Bytes

namespace LogicCapture

/-- Why bytes could not be written. -/
inductive WriteError where
  /-- The writer failed, with this description. -/
  | failed (detail : String)
  /-- The writer took none of the bytes offered. -/
  | tookNothing
  deriving DecidableEq

/-- The text that reports a write error. -/
def WriteError.message : WriteError → String
  | failed detail => detail
  | tookNothing => "failed to write whole buffer"

/-- A writer's answer to bytes offered. -/
inductive WriteStep where
  /-- It took this many of them. -/
  | took (count : Nat)
  /-- It was interrupted and may be tried again. -/
  | interrupted
  | failed (error : WriteError)
  deriving DecidableEq

/-- A writer with states `W`. -/
class Writer (W : Type) where
  /-- Offers bytes. -/
  write : W → Bytes → WriteStep × W
  /-- Asks for what was taken to be stored. -/
  flush : W → Except WriteError Unit × W
  /-- The bytes taken so far. -/
  contents : W → Bytes
  /-- A bound on the interruptions still to come before the next other answer. -/
  interruptions : W → Nat
  interruptions_lt : ∀ w bytes, (write w bytes).1 = .interrupted →
    interruptions (write w bytes).2 < interruptions w
  contents_took : ∀ w bytes n, (write w bytes).1 = .took n →
    n ≤ bytes.length ∧ contents (write w bytes).2 = contents w ++ bytes.take n
  contents_interrupted : ∀ w bytes, (write w bytes).1 = .interrupted →
    contents (write w bytes).2 = contents w
  contents_failed : ∀ w bytes error, (write w bytes).1 = .failed error →
    contents (write w bytes).2 = contents w
  contents_flush : ∀ w, contents (flush w).2 = contents w

namespace Writer

variable {W : Type} [Writer W]

/-- Offers a buffer until all of it has been taken or writing fails. -/
def writeAll (w : W) (bytes : Bytes) : Except WriteError Unit × W :=
  if bytes = [] then (.ok (), w)
  else
    match h : (write w bytes).1 with
    | .took 0 => (.error .tookNothing, (write w bytes).2)
    | .took (n + 1) => writeAll (write w bytes).2 (bytes.drop (n + 1))
    | .interrupted => writeAll (write w bytes).2 bytes
    | .failed error => (.error error, (write w bytes).2)
termination_by (bytes.length, interruptions w)
decreasing_by
  · apply Prod.Lex.left
    rename_i hne
    have := List.length_pos_iff.mpr hne
    simp only [List.length_drop]
    omega
  · apply Prod.Lex.right
    exact interruptions_lt w bytes h

end Writer

/-! ### A writer of limited room -/

/-- A writer that takes at most `chunk` bytes at a time and holds at most `limit`. -/
structure BoundedWriter where
  limit : Nat
  chunk : Nat
  /-- The interruptions still to come. -/
  interrupts : Nat := 0
  /-- Whether the next flushes succeed; later ones do. -/
  flushes : List Bool := []
  data : Bytes := []

namespace BoundedWriter

/-- Takes what fits, once the interruptions are over. -/
def write (w : BoundedWriter) (bytes : Bytes) : WriteStep × BoundedWriter :=
  if 0 < w.interrupts then (.interrupted, { w with interrupts := w.interrupts - 1 })
  else
    let n := min bytes.length w.chunk
    if w.limit < w.data.length + n then (.failed (.failed "disk full"), w)
    else (.took n, { w with data := w.data ++ bytes.take n })

/-- Succeeds or fails as the script says. -/
def flush (w : BoundedWriter) : Except WriteError Unit × BoundedWriter :=
  match w.flushes with
  | false :: rest => (.error (.failed "flush failed"), { w with flushes := rest })
  | true :: rest => (.ok (), { w with flushes := rest })
  | [] => (.ok (), w)

instance : Writer BoundedWriter where
  write := write
  flush := flush
  contents w := w.data
  interruptions w := w.interrupts
  interruptions_lt w bytes h := by
    unfold write at h ⊢
    by_cases hwait : 0 < w.interrupts
    · rw [if_pos hwait]
      exact Nat.sub_lt hwait Nat.one_pos
    · rw [if_neg hwait] at h
      dsimp only at h
      split at h <;> simp at h
  contents_took w bytes n h := by
    simp only [write] at h ⊢
    by_cases hwait : 0 < w.interrupts
    · rw [if_pos hwait] at h
      simp at h
    · rw [if_neg hwait] at h ⊢
      by_cases hfull : w.limit < w.data.length + min bytes.length w.chunk
      · rw [if_pos hfull] at h
        simp at h
      · rw [if_neg hfull] at h ⊢
        cases h
        exact ⟨Nat.min_le_left _ _, rfl⟩
  contents_interrupted w bytes h := by
    unfold write at h ⊢
    by_cases hwait : 0 < w.interrupts
    · rw [if_pos hwait]
    · rw [if_neg hwait] at h
      dsimp only at h
      split at h <;> simp at h
  contents_failed w bytes error h := by
    simp only [write] at h ⊢
    by_cases hwait : 0 < w.interrupts
    · rw [if_pos hwait]
    · rw [if_neg hwait] at h ⊢
      by_cases hfull : w.limit < w.data.length + min bytes.length w.chunk
      · rw [if_pos hfull]
      · rw [if_neg hfull] at h
        simp at h
  contents_flush w := by
    unfold flush
    split <;> rfl

end BoundedWriter

/-! ### A writer without limits -/

/-- The contents of a file that is being written. -/
structure FileContents where
  bytes : Bytes := []

instance : Writer FileContents where
  write w bytes := (.took bytes.length, ⟨w.bytes ++ bytes⟩)
  flush w := (.ok (), w)
  contents w := w.bytes
  interruptions _ := 0
  interruptions_lt _ _ h := by simp at h
  contents_took w bytes n h := by
    simp only [WriteStep.took.injEq] at h
    subst h
    simp
  contents_interrupted _ _ h := by simp at h
  contents_failed _ _ _ h := by simp at h
  contents_flush _ := rfl

end LogicCapture
