/-
What a sink that writes raw samples leaves in its writer.

* `Writer.taken_writeAll`: a prefix of a buffer is taken, and all of it if the write succeeds;
* `Writer.Writes`, `Writer.Stores`: buffers are written in turn, and stored by two flushes, one at
  the end of the acquisition and one before the report;
* `FileSink.foldl_deliver_eq_iff`: a sink has no error exactly as long as its buffers are written;
* `FileSink.finish_eq_ok_iff`: it reports a number exactly if they are stored as well, and this
  number is their length.
-/
import LogicCapture.Sink.File
import Mathlib.Tactic.Common

namespace LogicCapture

variable {W : Type} [Writer W]

namespace Writer

/-! ### One buffer -/

/-- There is nothing to offer of an empty buffer. -/
@[simp] lemma writeAll_nil (w : W) : writeAll w [] = (.ok (), w) := by
  rw [writeAll, if_pos rfl]

section
variable {w : W} {bytes : Bytes} {n : Nat} {error : WriteError}

/-- What has not been taken is offered again. -/
lemma writeAll_of_took (hne : bytes ≠ []) (h : (write w bytes).1 = .took (n + 1)) :
    writeAll w bytes = writeAll (write w bytes).2 (bytes.drop (n + 1)) := by
  rw [writeAll, if_neg hne]
  split <;> simp_all

/-- A writer that takes nothing fails. -/
lemma writeAll_of_tookNothing (hne : bytes ≠ []) (h : (write w bytes).1 = .took 0) :
    writeAll w bytes = (.error .tookNothing, (write w bytes).2) := by
  rw [writeAll, if_neg hne]
  split <;> simp_all

/-- After an interruption all is offered again. -/
lemma writeAll_of_interrupted (hne : bytes ≠ []) (h : (write w bytes).1 = .interrupted) :
    writeAll w bytes = writeAll (write w bytes).2 bytes := by
  rw [writeAll, if_neg hne]
  split <;> simp_all

/-- A writer that fails is not asked again. -/
lemma writeAll_of_failed (hne : bytes ≠ []) (h : (write w bytes).1 = .failed error) :
    writeAll w bytes = (.error error, (write w bytes).2) := by
  rw [writeAll, if_neg hne]
  split <;> simp_all

end

/-- **What is taken of a buffer** is a prefix of it, and all of it exactly if the write succeeds. -/
theorem taken_writeAll (w : W) (bytes : Bytes) :
    ∃ taken, taken <+: bytes ∧ contents (writeAll w bytes).2 = contents w ++ taken ∧
      ((writeAll w bytes).1 = .ok () ↔ taken = bytes) := by
  induction w, bytes using writeAll.induct (W := W) with
  | case1 w => exact ⟨[], List.prefix_rfl, by simp, by simp⟩
  | case2 w bytes hne htook =>
      have htaken := (contents_took w bytes 0 htook).2
      rw [writeAll_of_tookNothing hne htook]
      exact ⟨[], List.nil_prefix, htaken, by simpa using fun h : [] = bytes => hne h.symm⟩
  | case3 w bytes hne n htook ih =>
      obtain ⟨taken, hprefix, hcontents, hall⟩ := ih
      have htaken := (contents_took w bytes (n + 1) htook).2
      have hsplit := List.take_append_drop (n + 1) bytes
      have hwhole : bytes.take (n + 1) ++ taken = bytes ↔ taken = bytes.drop (n + 1) := by
        constructor
        · exact fun h => List.append_cancel_left (h.trans hsplit.symm)
        · rintro rfl
          exact hsplit
      have hfront : bytes.take (n + 1) ++ taken <+: bytes.take (n + 1) ++ bytes.drop (n + 1) :=
        (List.prefix_append_right_inj _).mpr hprefix
      rw [hsplit] at hfront
      rw [writeAll_of_took hne htook]
      exact ⟨bytes.take (n + 1) ++ taken, hfront,
        by rw [hcontents, htaken, List.append_assoc], hall.trans hwhole.symm⟩
  | case4 w bytes hne hinterrupted ih =>
      rw [writeAll_of_interrupted hne hinterrupted, ← contents_interrupted w bytes hinterrupted]
      exact ih
  | case5 w bytes hne error hfailed =>
      rw [writeAll_of_failed hne hfailed]
      exact ⟨[], List.nil_prefix, by simp [contents_failed w bytes error hfailed],
        by simpa using fun h : [] = bytes => hne h.symm⟩

/-- A buffer that is written in full stands at the end of the contents. -/
lemma contents_writeAll {w w' : W} {bytes : Bytes} (h : writeAll w bytes = (.ok (), w')) :
    contents w' = contents w ++ bytes := by
  obtain ⟨taken, -, hcontents, hall⟩ := taken_writeAll w bytes
  rw [h] at hcontents hall
  rw [hcontents, hall.mp rfl]

/-! ### Buffers in turn -/

/-- These buffers are written in full, one after the other, and the writer is left like this. -/
inductive Writes : W → List Bytes → W → Prop where
  | done {w} : Writes w [] w
  | write {w w' w'' buffer rest} :
      writeAll w buffer = (.ok (), w') → Writes w' rest w'' → Writes w (buffer :: rest) w''

/-- Buffers written in turn stand at the end of the contents, in their order. -/
lemma Writes.contents_eq {w w' : W} {buffers : List Bytes} (h : Writes w buffers w') :
    contents w' = contents w ++ buffers.flatten := by
  induction h with
  | done => exact (List.append_nil _).symm
  | write hwrite _ ih =>
      rw [ih, contents_writeAll hwrite, List.flatten_cons, List.append_assoc]

/-- **These buffers are written and stored**: nothing fails, neither as they are written in turn nor
as the writer is flushed, at the end of the acquisition and before the report. -/
def Stores (w : W) (buffers : List Bytes) (w' : W) : Prop :=
  ∃ w₁ w₂, Writes w buffers w₁ ∧ flush w₁ = (.ok (), w₂) ∧ flush w₂ = (.ok (), w')

/-- What is stored are the buffers. -/
lemma Stores.contents_eq {w w' : W} {buffers : List Bytes} (h : Stores w buffers w') :
    contents w' = contents w ++ buffers.flatten := by
  obtain ⟨w₁, w₂, hwrites, hflush, hagain⟩ := h
  have hstored : w' = (flush w₂).2 := (congrArg Prod.snd hagain).symm
  have hflushed : w₂ = (flush w₁).2 := (congrArg Prod.snd hflush).symm
  rw [hstored, contents_flush, hflushed, contents_flush, hwrites.contents_eq]

/-- A writer without limits takes a buffer at once. -/
lemma writeAll_fileContents (w : FileContents) (buffer : Bytes) :
    writeAll w buffer = (.ok (), ⟨w.bytes ++ buffer⟩) := by
  cases buffer with
  | nil => rw [writeAll_nil, List.append_nil]
  | cons byte rest =>
      have htook : (Writer.write w (byte :: rest)).1 = .took (rest.length + 1) := rfl
      have hrest : (byte :: rest).drop (rest.length + 1) = [] := by simp
      rw [writeAll_of_took (List.cons_ne_nil _ _) htook, hrest, writeAll_nil]
      rfl

/-- It stores all buffers. -/
lemma stores_fileContents (w : FileContents) (buffers : List Bytes) :
    Stores w buffers ⟨w.bytes ++ buffers.flatten⟩ := by
  refine ⟨_, _, ?_, rfl, rfl⟩
  induction buffers generalizing w with
  | nil =>
      rw [List.flatten_nil, List.append_nil]
      exact .done
  | cons buffer rest ih =>
      refine .write (writeAll_fileContents w buffer) ?_
      rw [List.flatten_cons, ← List.append_assoc]
      exact ih ⟨w.bytes ++ buffer⟩

end Writer

namespace FileSink

open Writer (Writes Stores)

variable {s : FileSink W}

/-! ### A sink and its error -/

/-- A sink with an error drops what it is given. -/
lemma foldl_deliver_of_error {error : WriteError} (h : s.error = some error)
    (buffers : List Bytes) : buffers.foldl deliver s = s := by
  induction buffers with
  | nil => rfl
  | cons buffer rest ih =>
      rw [List.foldl_cons, deliver, h]
      exact ih

/-- Empty buffers make no difference. -/
lemma deliver_nil (s : FileSink W) : s.deliver [] = s := by
  rw [deliver]
  cases h : s.error with
  | some error => rfl
  | none =>
      rw [Writer.writeAll_nil, List.length_nil]
      simp [← h]

/-- **A sink stays without an error** exactly as long as its buffers are written, and counts them
then. -/
theorem foldl_deliver_eq_iff (hclean : s.error = none) {buffers : List Bytes} {w : W} {n : UInt64} :
    buffers.foldl deliver s = ⟨w, n, none⟩ ↔
      Writes s.writer buffers w ∧ n = s.bytesWritten + UInt64.ofNat buffers.flatten.length := by
  induction buffers generalizing s with
  | nil =>
      obtain ⟨writer, bytesWritten, error⟩ := s
      obtain rfl : error = none := hclean
      have hcount :
          bytesWritten + UInt64.ofNat ([] : List Bytes).flatten.length = bytesWritten := by
        simp
      rw [hcount, List.foldl_nil, mk.injEq]
      constructor
      · rintro ⟨rfl, rfl, -⟩
        exact ⟨.done, rfl⟩
      · rintro ⟨hwrites, rfl⟩
        cases hwrites
        exact ⟨rfl, rfl, rfl⟩
  | cons buffer rest ih =>
      rw [List.foldl_cons, deliver, hclean]
      rcases hwrite : Writer.writeAll s.writer buffer with ⟨error | _, w₁⟩
      · -- the error is kept, and the rest is dropped
        refine iff_of_false ?_ ?_
        · dsimp only
          rw [foldl_deliver_of_error rfl]
          simp
        · rintro ⟨hwrites, -⟩
          cases hwrites with
          | write hwrite' _ => cases hwrite.symm.trans hwrite'
      · dsimp only
        rw [ih rfl]
        have hcount (n : UInt64) : n + UInt64.ofNat buffer.length +
            UInt64.ofNat rest.flatten.length =
              n + UInt64.ofNat (buffer :: rest).flatten.length := by
          rw [List.flatten_cons, List.length_append, UInt64.ofNat_add, UInt64.add_assoc]
        rw [hcount]
        refine and_congr_left fun _ => ?_
        constructor
        · exact fun hrest => .write hwrite hrest
        · intro hwrites
          cases hwrites with
          | write hwrite' hrest =>
              cases hwrite.symm.trans hwrite'
              exact hrest

/-- After the end of an acquisition, a sink without an error that can be flushed twice reports the
bytes that it has counted. -/
lemma finish_stopped_eq_ok_iff {n : UInt64} {s' : FileSink W} :
    s.stopped.finish = (.ok n, s') ↔ s.error = none ∧ n = s.bytesWritten ∧
      ∃ w₁ w, Writer.flush s.writer = (.ok (), w₁) ∧ Writer.flush w₁ = (.ok (), w) ∧
        s' = ⟨w, n, none⟩ := by
  obtain ⟨writer, counted, error⟩ := s
  rw [stopped]
  rcases hflush : Writer.flush writer with ⟨failure | _, w₁⟩
  · simp [finish]
  · cases error with
    | some error => simp [finish]
    | none =>
        rw [finish]
        dsimp only
        rcases hagain : Writer.flush w₁ with ⟨failure | _, w⟩
        · simp [hagain]
        · simp only [Prod.mk.injEq, Except.ok.injEq, true_and]
          constructor
          · rintro ⟨rfl, rfl⟩
            exact ⟨rfl, w₁, w, rfl, hagain, rfl⟩
          · rintro ⟨rfl, w₂, w', rfl, hagain', rfl⟩
            obtain rfl := (Prod.mk.inj (hagain.symm.trans hagain')).2
            exact ⟨rfl, rfl⟩

/-- **The sink reports a number** exactly if its buffers are written and stored, and then it is
their length. -/
theorem finish_eq_ok_iff (hclean : s.error = none) {buffers : List Bytes} {n : UInt64}
    {s' : FileSink W} : (buffers.foldl deliver s).stopped.finish = (.ok n, s') ↔
      n = s.bytesWritten + UInt64.ofNat buffers.flatten.length ∧
        ∃ w, Stores s.writer buffers w ∧ s' = ⟨w, n, none⟩ := by
  rw [finish_stopped_eq_ok_iff]
  constructor
  · rintro ⟨hnone, hn, w₁, w, hflush, hagain, rfl⟩
    have hall : buffers.foldl deliver s = ⟨(buffers.foldl deliver s).writer, n, none⟩ := by
      rw [hn, ← hnone]
    obtain ⟨hwrites, hcount⟩ := (foldl_deliver_eq_iff hclean).mp hall
    exact ⟨hcount, w, ⟨_, _, hwrites, hflush, hagain⟩, rfl⟩
  · rintro ⟨hcount, w, ⟨w₁, w₂, hwrites, hflush, hagain⟩, rfl⟩
    rw [(foldl_deliver_eq_iff hclean).mpr ⟨hwrites, hcount⟩]
    exact ⟨rfl, rfl, w₂, w, hflush, hagain, rfl⟩

end FileSink

end LogicCapture
