/-
How values are spelt: decimal integers and plain strings are read back as they were written.

* `decimal_digits`: the decimal digits of a number are those of a decimal;
* `moment_digits`, `decimalFloat_digits`: and neither a date or time nor a float;
* `spelt_integer`: an integer of 63 bits;
* `Plain`, `spelt_string`: a string without characters that would have to be escaped.
-/
import LogicCapture.Proofs.Toml.Reading
import LogicCapture.Toml.Printer

namespace LogicCapture.Toml

variable {rest : List Char}

/-! ### Digits -/

/-- Only zero is written with a zero in front. -/
lemma eq_zero_of_head_toDigits {n : Nat} (h : (Nat.toDigits 10 n).head? = some '0') : n = 0 := by
  induction n using Nat.strongRecOn with
  | _ n ih =>
    by_cases small : n < 10
    · rw [Nat.toDigits_of_lt_base small] at h
      simpa using h
    · obtain ⟨c, digits, hfront⟩ :=
        List.exists_cons_of_ne_nil (Nat.toDigits_ne_nil (n := n / 10) (b := 10))
      rw [Nat.toDigits_of_base_le (by decide) (Nat.le_of_not_lt small), hfront] at h
      have hzero : n / 10 = 0 := ih (n / 10) (by omega) (by simpa [hfront] using h)
      omega

lemma isDigit_of_mem {n : Nat} : ∀ c ∈ Nat.toDigits 10 n, c.isDigit = true :=
  fun _ => Nat.isDigit_of_mem_toDigits (by decide) (by decide)

/-- The decimal digits of a number spell it. -/
lemma digitsValue_toDigits (n : Nat) : digitsValue 10 (Nat.toDigits 10 n) = n := by
  have hfold : ∀ (digits : List Char) (start : Nat), (∀ c ∈ digits, c.isDigit = true) →
      digits.foldl (fun n c => 10 * n + digitValue c) start = Nat.ofDigitChars 10 digits start := by
    intro digits
    induction digits with
    | nil => simp
    | cons c digits ih =>
      intro start hdigits
      have hc : digitValue c = c.toNat - '0'.toNat := if_pos (hdigits c List.mem_cons_self)
      rw [List.foldl_cons, Nat.ofDigitChars_cons, hc,
        ih _ fun d hd => hdigits d (List.mem_cons_of_mem c hd)]
  rw [digitsValue, hfold _ 0 isDigit_of_mem, Nat.ofDigitChars_ten_toDigits]

/-- Behind some of the digits of a line stand more digits or the line end. -/
lemma char_digits {mark : Char} (hdigit : mark.isDigit = false) (hnewline : mark ≠ '\n')
    {run : List Char} (hrun : ∀ c ∈ run, c.isDigit = true) :
    char mark (run ++ '\n' :: rest) = none := by
  cases run with
  | nil => simp [hnewline.symm]
  | cons c run =>
    have hc : c ≠ mark := by
      rintro rfl
      rw [hrun c List.mem_cons_self] at hdigit
      cases hdigit
    simp [hc]

section Digits

variable {n : Nat} {α : Type}

/-- The digits of a number begin neither a quote nor a sign nor a name. -/
lemma toDigits_ne {mark : Char} (hmark : mark.isDigit = false) {c : Char} {digits : List Char}
    (h : Nat.toDigits 10 n = c :: digits) : c ≠ mark := by
  rintro rfl
  rw [isDigit_of_mem c (h ▸ List.mem_cons_self)] at hmark
  cases hmark

/-- A number of fixed width and a mark are not read off a line of digits. -/
lemma field_char_digits {mark : Char} (hdigit : mark.isDigit = false) (hnewline : mark ≠ '\n')
    (width lo hi : Nat) (more : List Char → Char → Parser α) :
    (field width lo hi >>= fun written => char mark >>= more written)
      (Nat.toDigits 10 n ++ '\n' :: rest) = none := by
  have hread := exactly_run (isDigit_of_mem (n := n))
    (stopsAt_cons.mpr (by decide) : StopsAt Char.isDigit ('\n' :: rest)) width
  have hmark : char mark ((Nat.toDigits 10 n).drop width ++ '\n' :: rest) = none :=
    char_digits hdigit hnewline fun c hc => isDigit_of_mem c (List.mem_of_mem_drop hc)
  simp only [field, bind_apply, hread]
  split
  · simp only [Option.bind_some]
    split
    · simp only [pure_apply, Option.bind_some, hmark, Option.bind_none]
    · rfl
  · rfl

/-- **A line of digits is no date and no time.** -/
lemma moment_digits : moment (Nat.toDigits 10 n ++ '\n' :: rest) = none := by
  have hdate : date (Nat.toDigits 10 n ++ '\n' :: rest) = none :=
    field_char_digits (by decide) (by decide) 4 0 9999 _
  have htime : time (Nat.toDigits 10 n ++ '\n' :: rest) = none :=
    field_char_digits (by decide) (by decide) 2 0 23 _
  simp only [moment, orElse_apply, bind_apply, hdate, htime, Option.bind_none, Option.none_or]

lemma string_digits : string (Nat.toDigits 10 n ++ '\n' :: rest) = none := by
  obtain ⟨c, digits, h⟩ := List.exists_cons_of_ne_nil (Nat.toDigits_ne_nil (n := n) (b := 10))
  have hbasic : c ≠ '"' := toDigits_ne (by decide) h
  have hliteral : c ≠ '\'' := toDigits_ne (by decide) h
  simp only [h, List.cons_append, string, orElse_apply, multilineBasic, multilineLiteral,
    multiline, basicString, literalString, bind_apply, literal_cons, char_cons, hbasic, hliteral,
    if_false, Option.bind_none, Option.none_or]

lemma sign_digits : sign (Nat.toDigits 10 n ++ '\n' :: rest) =
    some ([], Nat.toDigits 10 n ++ '\n' :: rest) := by
  obtain ⟨c, digits, h⟩ := List.exists_cons_of_ne_nil (Nat.toDigits_ne_nil (n := n) (b := 10))
  have hplus : c ≠ '+' := toDigits_ne (by decide) h
  have hminus : c ≠ '-' := toDigits_ne (by decide) h
  simp [h, sign, hplus, hminus]

/-- **The digits of a number are a decimal.** -/
lemma decimal_digits : decimal (Nat.toDigits 10 n ++ '\n' :: rest) =
    some (Nat.toDigits 10 n, '\n' :: rest) := by
  obtain ⟨c, tail, h⟩ := List.exists_cons_of_ne_nil (Nat.toDigits_ne_nil (n := n) (b := 10))
  have hdigits := isDigit_of_mem (n := n)
  rw [h] at hdigits
  by_cases zero : c = '0'
  · obtain rfl : n = 0 := eq_zero_of_head_toDigits (by rw [h, zero]; rfl)
    simp [decimal]
  · have hstar : star (satisfy Char.isDigit <|> (do let _ ← char '_'; satisfy Char.isDigit))
        (tail ++ '\n' :: rest) = some (tail, '\n' :: rest) := by
      refine star_run (fun d hd rest => ?_) (by simp)
      simp [hdigits d (List.mem_cons_of_mem c hd)]
    simp only [h, List.cons_append, decimal, digits, orElse_apply, bind_apply, char_cons, zero,
      if_false, Option.bind_none, satisfy_cons, hdigits c List.mem_cons_self, if_true,
      Option.bind_some, hstar, pure_apply, Option.none_or]

/-- A line of digits is no float. -/
lemma decimalFloat_digits : decimalFloat (Nat.toDigits 10 n ++ '\n' :: rest) = none := by
  simp only [decimalFloat, bind_apply, sign_digits, Option.bind_some, decimal_digits, orElse_apply,
    exponent, fraction, satisfy_cons, char_cons, Char.reduceEq, decide_false, Bool.or_self,
    Bool.false_eq_true, if_false, Option.bind_none, Option.or_none]

lemma based_digits {mark : Char} (hdigit : mark.isDigit = false) (hnewline : mark ≠ '\n')
    (base : Nat) (test : Char → Bool) :
    based mark base test (Nat.toDigits 10 n ++ '\n' :: rest) = none := by
  obtain ⟨c, tail, h⟩ := List.exists_cons_of_ne_nil (Nat.toDigits_ne_nil (n := n) (b := 10))
  have htail : char mark (tail ++ '\n' :: rest) = none := char_digits hdigit hnewline
    fun d hd => isDigit_of_mem d (h ▸ List.mem_cons_of_mem c hd)
  by_cases zero : c = '0'
  · simp only [based, h, List.cons_append, bind_apply, literal_cons, char_cons, zero, if_true,
      Option.bind_some, htail, Option.bind_none]
  · simp only [based, h, List.cons_append, bind_apply, literal_cons, char_cons, zero, if_false,
      Option.bind_none]

end Digits

/-- A value that is a scalar. -/
lemma value_of_scalar {cs : List Char} {read : Value × List Char} (h : scalar cs = some read) :
    value cs = some read := by
  rw [value, depthLimit, valueWithin, orElse_apply, orElse_apply, h, Option.some_or]

/-- **An integer of 63 bits is spelt by its decimal digits.** -/
theorem spelt_integer {n : Nat} (h : n ≤ maxInteger) :
    Value.Spelt (Nat.toDigits 10 n) (.integer n) := by
  have hfront : StopsAt isBlank (Nat.toDigits 10 n) := by
    obtain ⟨c, tail, hc⟩ := List.exists_cons_of_ne_nil (Nat.toDigits_ne_nil (n := n) (b := 10))
    have hspace : c ≠ ' ' := toDigits_ne (by decide) hc
    have htab : c ≠ '\t' := toDigits_ne (by decide) hc
    simp [hc, isBlank, hspace, htab]
  refine ⟨hfront, fun rest => value_of_scalar ?_⟩
  have hrange : inRange n = true := by
    simp only [maxInteger] at h
    simp only [inRange, Bool.and_eq_true, decide_eq_true_eq]
    omega
  have hinteger : integer (Nat.toDigits 10 n ++ '\n' :: rest) =
      some (.integer n, '\n' :: rest) := by
    simp only [integer, orElse_apply, based_digits (by decide : 'x'.isDigit = false) (by decide),
      based_digits (by decide : 'o'.isDigit = false) (by decide),
      based_digits (by decide : 'b'.isDigit = false) (by decide), Option.none_or, decimalInteger,
      bind_apply, sign_digits, Option.bind_some, decimal_digits, digitsValue_toDigits, ranged]
    simp [hrange]
  simp only [scalar, orElse_apply, bind_apply, string_digits, Option.bind_none, moment_digits,
    decimalFloat_digits, hinteger, Option.none_or, Option.some_or]

/-! ### Strings -/

/-- A text that stands between quotes as it is. -/
def Plain (text : List Char) : Prop := ∀ c ∈ text, isBasicChar c = true ∧ c ≠ '\t'

instance (text : List Char) : Decidable (Plain text) := List.decidableBAll _ _

section Strings

variable {text : List Char}

/-- Plain characters differ from those that a basic string cannot hold. -/
lemma Plain.ne (plain : Plain text) {c d : Char} (hc : c ∈ text) (hd : isBasicChar d = false) :
    c ≠ d := by
  rintro rfl
  rw [(plain c hc).1] at hd
  cases hd

lemma Plain.isControl (plain : Plain text) {c : Char} (hc : c ∈ text) : isControl c = false := by
  have hbasic := (plain c hc).1
  have htab := (plain c hc).2
  simp only [isBasicChar, Bool.or_eq_true, decide_eq_true_eq, Bool.and_eq_true, htab, false_or,
    isNonAscii] at hbasic
  have hcode : 0x20 ≤ c.toNat ∧ c.toNat ≠ 0x7F := by
    rcases hbasic with ((rfl | rfl) | h) | h
    · decide
    · decide
    · omega
    · omega
  simp [Toml.isControl, hcode.2, Nat.not_lt.mpr hcode.1]

/-- Nothing in a plain text is escaped. -/
lemma Plain.escaped_eq (plain : Plain text) : escaped false 0 text = text := by
  induction text with
  | nil => rfl
  | cons c text ih =>
    have hrest : Plain text := fun d hd => plain d (List.mem_cons_of_mem c hd)
    have hquote : c ≠ '"' := plain.ne List.mem_cons_self (by decide)
    have hbackslash : c ≠ '\\' := plain.ne List.mem_cons_self (by decide)
    have hnewline : c ≠ '\n' := plain.ne List.mem_cons_self (by decide)
    have htab : c ≠ '\t' := (plain c List.mem_cons_self).2
    have hcontrol : Toml.isControl c = false := plain.isControl List.mem_cons_self
    simp [escaped, hquote, hbackslash, hnewline, htab, hcontrol, ih hrest]

/-- A plain text is put between quotes. -/
lemma Plain.quote_eq (plain : Plain text) : quote text = '"' :: text ++ ['"'] := by
  have hcontrols : text.any Toml.isControl = false := by
    rw [List.any_eq_false]
    exact fun c hc => by simp [plain.isControl hc]
  have hlacks {d : Char} (hd : isBasicChar d = false) : text.contains d = false := by
    rw [List.contains_eq_mem, decide_eq_false_iff_not]
    exact fun h => plain.ne h hd rfl
  simp only [quote, hcontrols, hlacks (by decide : isBasicChar '\\' = false),
    hlacks (by decide : isBasicChar '\n' = false), hlacks (by decide : isBasicChar '"' = false),
    Bool.not_false, Bool.and_self, if_true, enclosed, plain.escaped_eq]
  rfl

/-- **A plain text between quotes spells it.** -/
theorem spelt_string (plain : Plain text) :
    Value.Spelt (quote text) (.string (String.ofList text)) := by
  rw [plain.quote_eq]
  refine ⟨by simp [isBlank], fun rest => value_of_scalar ?_⟩
  have hbody : star (satisfy isBasicChar <|> escape) (text ++ '"' :: '\n' :: rest) =
      some (text, '"' :: '\n' :: rest) := by
    refine star_run (fun c hc rest => by simp [(plain c hc).1]) ?_
    simp [isBasicChar, isNonAscii, escape]
  have hmultiline : multilineBasic ('"' :: (text ++ '"' :: '\n' :: rest)) = none := by
    cases text with
    | nil => simp [multilineBasic, multiline]
    | cons c text =>
      have hc : c ≠ '"' := plain.ne List.mem_cons_self (by decide)
      simp [multilineBasic, multiline, hc]
  have hliteral : multilineLiteral ('"' :: (text ++ '"' :: '\n' :: rest)) = none := by
    simp [multilineLiteral, multiline]
  have hstring : string ('"' :: (text ++ '"' :: '\n' :: rest)) =
      some (String.ofList text, '\n' :: rest) := by
    simp only [string, orElse_apply, hmultiline, hliteral, Option.none_or, basicString, bind_apply,
      char_cons, if_true, Option.bind_some, hbody, pure_apply, Option.some_or]
  simp only [scalar, orElse_apply, bind_apply, List.cons_append, List.append_assoc,
    List.nil_append, hstring, Option.bind_some, pure_apply, Option.some_or]

end Strings

end LogicCapture.Toml
