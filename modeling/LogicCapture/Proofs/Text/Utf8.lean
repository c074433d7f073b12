/-
A text is read back from its UTF-8 bytes.

* `step_next`, `step_last`: the bytes inside a character;
* `lead_three`, `lead_four`: the first byte of a long character narrows the second just as far
  as the character allows;
* `scan_char`: the bytes of a character are read as that character;
* `decode?_encode`, `decodeLossy_encode`: the bytes of a text are read as that text;
* `zero_notMem_encode`: they are zero only for the zero character.
-/
import LogicCapture.Text.Utf8
import Mathlib.Tactic.Common

namespace LogicCapture.Utf8

/-! ### The bytes of a text -/

lemma toList_loop (bytes : ByteArray) (i : Nat) (read : List UInt8) :
    ByteArray.toList.loop bytes i read = read.reverse ++ bytes.data.toList.drop i := by
  induction i, read using ByteArray.toList.loop.induct bytes with
  | case1 i read more ih =>
    have hi : i < bytes.data.toList.length := by simpa using more
    have hget : bytes.get! i = bytes.data.toList[i] := by
      simpa [ByteArray.get!] using getElem!_pos bytes.data i (by simpa using more)
    rw [ByteArray.toList.loop, if_pos more, ih, List.drop_eq_getElem_cons hi, hget]
    simp
  | case2 i read none =>
    have hi : bytes.data.toList.length ≤ i := by simpa using none
    rw [ByteArray.toList.loop, if_neg none, List.drop_eq_nil_of_le hi, List.append_nil]

/-- The bytes of a text are those of its characters. -/
lemma encode_ofList (chars : List Char) :
    encode (String.ofList chars) = chars.flatMap String.utf8EncodeChar := by
  rw [encode, String.toUTF8_eq_toByteArray, String.toByteArray_ofList, ByteArray.toList,
    toList_loop, List.utf8Encode, List.toList_data_toByteArray]
  rfl

/-! ### One character -/

@[simp] lemma scanFrom_cons (state : State) (b : UInt8) (rest : Bytes) :
    scanFrom state (b :: rest) = (step state b).1 ++ scanFrom (step state b).2 rest := by
  cases state <;> rfl

section Inside

variable {code d : Nat} {lo hi : UInt8}

lemma toNat_continuation (hhi : d + 0x80 ≤ hi.toNat) :
    (UInt8.ofNat (d + 0x80)).toNat = d + 0x80 := by
  have := hi.toNat_lt
  rw [UInt8.toNat_ofNat']
  omega

/-- A byte in range goes on with the character. -/
lemma step_next {more : Nat} (hlo : lo.toNat ≤ d + 0x80) (hhi : d + 0x80 ≤ hi.toNat) :
    step (.within (more + 1) code lo hi) (UInt8.ofNat (d + 0x80)) =
      ([], .within more (code * 64 + d) 0x80 0xBF) := by
  simp only [step, UInt8.le_iff_toNat_le, toNat_continuation hhi]
  rw [if_pos ⟨hlo, hhi⟩, Nat.add_sub_cancel]

/-- The last byte finishes it. -/
lemma step_last (hlo : lo.toNat ≤ d + 0x80) (hhi : d + 0x80 ≤ hi.toNat) :
    step (.within 0 code lo hi) (UInt8.ofNat (d + 0x80)) =
      ([some (Char.ofNat (code * 64 + d))], .between) := by
  simp only [step, UInt8.le_iff_toNat_le, toNat_continuation hhi]
  rw [if_pos ⟨hlo, hhi⟩, Nat.add_sub_cancel]

end Inside

section Lead

variable {v : Nat}

lemma lead_one (h : v ≤ 0x7F) : lead (UInt8.ofNat v) = ([some (Char.ofNat v)], .between) := by
  have hb : (UInt8.ofNat v).toNat = v := by
    rw [UInt8.toNat_ofNat']
    omega
  simp [lead, hb, show v < 0x80 by omega]

lemma lead_two (h : 0x7F < v) (h' : v ≤ 0x7FF) :
    lead (UInt8.ofNat (v / 64 + 0xC0)) = ([], .within 0 (v / 64) 0x80 0xBF) := by
  have hb : (UInt8.ofNat (v / 64 + 0xC0)).toNat = v / 64 + 0xC0 := by
    rw [UInt8.toNat_ofNat']
    omega
  simp only [lead, hb]
  rw [if_neg (by omega), if_neg (by omega), if_pos (by omega), Nat.add_sub_cancel]

/-- The first of three bytes leaves room for just the second bytes of characters that have no
shorter form and are no surrogates. -/
lemma lead_three (h : 0x7FF < v) (h' : v ≤ 0xFFFF) (valid : v.isValidChar) :
    ∃ lo hi, lead (UInt8.ofNat (v / 4096 + 0xE0)) = ([], .within 1 (v / 4096) lo hi) ∧
      lo.toNat ≤ v / 64 % 64 + 0x80 ∧ v / 64 % 64 + 0x80 ≤ hi.toNat := by
  have hb : (UInt8.ofNat (v / 4096 + 0xE0)).toNat = v / 4096 + 0xE0 := by
    rw [UInt8.toNat_ofNat']
    omega
  simp only [lead, hb]
  rw [if_neg (by omega), if_neg (by omega), if_neg (by omega)]
  by_cases first : v / 4096 = 0
  · rw [if_pos (by omega), first]
    exact ⟨0xA0, 0xBF, rfl, by change 160 ≤ _; omega, by change _ ≤ 191; omega⟩
  by_cases surrogate : v / 4096 = 0xD
  · rw [if_neg (by omega), if_pos (by omega), surrogate]
    have hv : v < 0xD800 := by
      rcases valid with hv | hv <;> omega
    exact ⟨0x80, 0x9F, rfl, by change 128 ≤ _; omega, by change _ ≤ 159; omega⟩
  · rw [if_neg (by omega), if_neg (by omega), if_pos (by omega), Nat.add_sub_cancel]
    exact ⟨0x80, 0xBF, rfl, by change 128 ≤ _; omega, by change _ ≤ 191; omega⟩

/-- The first of four bytes leaves room for just the second bytes of characters that have no
shorter form and are not beyond the last one. -/
lemma lead_four (h : 0xFFFF < v) (valid : v.isValidChar) :
    ∃ lo hi, lead (UInt8.ofNat (v / 262144 + 0xF0)) = ([], .within 2 (v / 262144) lo hi) ∧
      lo.toNat ≤ v / 4096 % 64 + 0x80 ∧ v / 4096 % 64 + 0x80 ≤ hi.toNat := by
  have hv : v < 0x110000 := by
    rcases valid with hv | hv <;> omega
  have hb : (UInt8.ofNat (v / 262144 + 0xF0)).toNat = v / 262144 + 0xF0 := by
    rw [UInt8.toNat_ofNat']
    omega
  simp only [lead, hb]
  rw [if_neg (by omega), if_neg (by omega), if_neg (by omega), if_neg (by omega),
    if_neg (by omega), if_neg (by omega)]
  by_cases first : v / 262144 = 0
  · rw [if_pos (by omega), first]
    exact ⟨0x90, 0xBF, rfl, by change 144 ≤ _; omega, by change _ ≤ 191; omega⟩
  by_cases last : v / 262144 = 4
  · rw [if_neg (by omega), if_neg (by omega), if_pos (by omega), last]
    exact ⟨0x80, 0x8F, rfl, by change 128 ≤ _; omega, by change _ ≤ 143; omega⟩
  · rw [if_neg (by omega), if_pos (by omega), Nat.add_sub_cancel]
    exact ⟨0x80, 0xBF, rfl, by change 128 ≤ _; omega, by change _ ≤ 191; omega⟩

end Lead

/-- **The bytes of a character are read as that character.** -/
theorem scan_char (c : Char) (rest : Bytes) :
    scanFrom .between (String.utf8EncodeChar c ++ rest) = some c :: scanFrom .between rest := by
  have hc : Char.ofNat c.val.toNat = c := Char.ofNat_toNat c
  have valid : c.val.toNat.isValidChar := c.valid
  simp only [String.utf8EncodeChar]
  generalize c.val.toNat = v at hc valid
  -- Bytes behind the second one are not narrowed.
  have hlo : (0x80 : UInt8).toNat ≤ v % 64 + 0x80 := by change 128 ≤ _; omega
  have hhi : v % 64 + 0x80 ≤ (0xBF : UInt8).toNat := by change _ ≤ 191; omega
  have hlo' : (0x80 : UInt8).toNat ≤ v / 64 % 64 + 0x80 := by change 128 ≤ _; omega
  have hhi' : v / 64 % 64 + 0x80 ≤ (0xBF : UInt8).toNat := by change _ ≤ 191; omega
  split
  case isTrue one =>
    simp [step, lead_one one, hc]
  split
  case isTrue two =>
    rw [Nat.mod_eq_of_lt (by omega : v / 64 < 0x20)]
    simp only [List.cons_append, List.nil_append, scanFrom_cons, step.eq_1,
      lead_two (by omega) two, step_last hlo hhi]
    rw [(by omega : v / 64 * 64 + v % 64 = v), hc]
  split
  case isTrue three =>
    obtain ⟨lo, hi, hlead, hsecond, hsecond'⟩ := lead_three (by omega) three valid
    rw [Nat.mod_eq_of_lt (by omega : v / 4096 < 0x10)]
    simp only [List.cons_append, List.nil_append, scanFrom_cons, step.eq_1, hlead,
      step_next hsecond hsecond', step_last hlo hhi]
    rw [(by omega : (v / 4096 * 64 + v / 64 % 64) * 64 + v % 64 = v), hc]
  case isFalse four =>
    obtain ⟨lo, hi, hlead, hsecond, hsecond'⟩ := lead_four (by omega) valid
    have hv : v < 0x110000 := by
      rcases valid with hv | hv <;> omega
    rw [Nat.mod_eq_of_lt (by omega : v / 262144 < 0x8)]
    simp only [List.cons_append, List.nil_append, scanFrom_cons, step.eq_1, hlead,
      step_next hsecond hsecond', step_next hlo' hhi', step_last hlo hhi]
    rw [(by omega : ((v / 262144 * 64 + v / 4096 % 64) * 64 + v / 64 % 64) * 64 + v % 64 = v), hc]

/-- A byte of a character is the whole character, or has its highest bit set. -/
lemma toNat_of_mem_encodeChar {c : Char} {b : UInt8} (h : b ∈ String.utf8EncodeChar c) :
    b.toNat = c.val.toNat ∨ 0x80 ≤ b.toNat := by
  simp only [String.utf8EncodeChar] at h
  generalize c.val.toNat = v at h ⊢
  have hbyte {n : Nat} (hn : n < 256) : (UInt8.ofNat n).toNat = n := UInt8.toNat_ofNat_of_lt' hn
  split at h
  · rw [List.mem_singleton.mp h, hbyte (by omega)]
    exact Or.inl rfl
  · right
    have hmarked : ∃ n, 0x80 ≤ n ∧ n < 256 ∧ b = UInt8.ofNat n := by
      split at h
      case isTrue two =>
        simp only [List.mem_cons, List.not_mem_nil, or_false] at h
        rcases h with rfl | rfl <;> exact ⟨_, by omega, by omega, rfl⟩
      split at h <;> simp only [List.mem_cons, List.not_mem_nil, or_false] at h
      case isTrue three =>
        rcases h with rfl | rfl | rfl <;> exact ⟨_, by omega, by omega, rfl⟩
      case isFalse four =>
        rcases h with rfl | rfl | rfl | rfl <;> exact ⟨_, by omega, by omega, rfl⟩
    obtain ⟨n, hlow, hhigh, rfl⟩ := hmarked
    rwa [hbyte hhigh]

/-! ### Texts -/

/-- **A text is read back from its bytes.** -/
theorem decode?_encode (chars : List Char) :
    decode? (encode (String.ofList chars)) = some chars := by
  rw [encode_ofList, decode?, scan]
  induction chars with
  | nil => rfl
  | cons c chars ih => simp [List.flatMap_cons, scan_char, ih]

/-- A text without the zero character has no zero byte. -/
lemma zero_notMem_encode {chars : List Char} (h : '\x00' ∉ chars) :
    0 ∉ encode (String.ofList chars) := by
  rw [encode_ofList, List.mem_flatMap]
  rintro ⟨c, hc, hzero⟩
  rcases toNat_of_mem_encodeChar hzero with hsame | hmarked
  · exact h ((Char.ext (UInt32.toNat_inj.mp hsame) : '\x00' = c) ▸ hc)
  · exact absurd hmarked (by decide)

/-- The characters of a text are read from its bytes, without a gap. -/
lemma scan_encode (chars : List Char) :
    scan (encode (String.ofList chars)) = chars.map some := by
  rw [encode_ofList, scan]
  induction chars with
  | nil => rfl
  | cons c chars ih => rw [List.flatMap_cons, scan_char, ih, List.map_cons]

/-- **No text is lost**: where there are no gaps, none are filled. -/
theorem decodeLossy_encode (chars : List Char) :
    decodeLossy (encode (String.ofList chars)) = String.ofList chars := by
  rw [decodeLossy, scan_encode, List.map_map]
  exact congrArg String.ofList (List.map_id chars)

end LogicCapture.Utf8
