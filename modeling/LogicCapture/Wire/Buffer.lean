/-
Buffers that a message is put into, one field after the other:

* `ByteBuffer`: bytes are put behind those that have been put before;
* byte strings, which grow as bytes are put;
* `Region`: a stretch of memory of fixed length, overwritten from its front.
-/
import LogicCapture.Bytes

namespace LogicCapture

/-- Buffers with states `B` that bytes are put into. -/
class ByteBuffer (B : Type) where
  /-- The bytes that have been put. -/
  contents : B → Bytes
  /-- There is room for so many more bytes. -/
  HasRoom : B → Nat → Prop
  /-- Puts bytes behind the contents; without room for them all, the program fails. -/
  put : B → Bytes → Option B
  put_isSome : ∀ b bytes, (put b bytes).isSome = true ↔ HasRoom b bytes.length
  contents_put : ∀ {b bytes b'}, put b bytes = some b' → contents b' = contents b ++ bytes
  /-- Bytes may be put at once or in pieces. -/
  put_append : ∀ b first second, put b (first ++ second) = (put b first).bind (put · second)

/-- A byte string grows. -/
instance : ByteBuffer Bytes where
  contents b := b
  HasRoom _ _ := True
  put b bytes := some (b ++ bytes)
  put_isSome _ _ := by simp
  contents_put h := (Option.some.inj h).symm
  put_append b first second := by simp

/-- A stretch of memory whose front has been written. -/
structure Region where
  written : Bytes := []
  /-- What has not been overwritten yet. -/
  free : Bytes

namespace Region

/-- Overwrites the front of what is free. -/
def put (r : Region) (bytes : Bytes) : Option Region :=
  if bytes.length ≤ r.free.length then some ⟨r.written ++ bytes, r.free.drop bytes.length⟩
  else none

instance : ByteBuffer Region where
  contents r := r.written
  HasRoom r n := n ≤ r.free.length
  put := put
  put_isSome r bytes := by
    rw [put]
    split <;> simp_all
  contents_put h := by
    rw [put] at h
    split at h
    · exact (congrArg written (Option.some.inj h)).symm
    · cases h
  put_append r first second := by
    by_cases hfirst : first.length ≤ r.free.length
    · simp only [put, hfirst, List.length_append, List.length_drop, Option.bind_some, if_true,
        List.append_assoc, List.drop_drop, Nat.le_sub_iff_add_le' hfirst]
    · have hboth : ¬ (first ++ second).length ≤ r.free.length := by
        rw [List.length_append]
        omega
      rw [put, if_neg hboth, put, if_neg hfirst, Option.bind_none]

end Region

end LogicCapture
