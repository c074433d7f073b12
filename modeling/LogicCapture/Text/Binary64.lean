/-
Decimal numbers and the binary floating-point numbers nearest to them:

* `roundDiv`: a quotient rounded to the nearest whole number, ties to even;
* `Binary64.ofDecimal`: the 64-bit binary number nearest to a decimal;
* `Binary64.parse?`: reads a number as it is written in text.
-/

namespace LogicCapture

/-- The whole number nearest to `num / den`; of two that are equally near, the even one. -/
def roundDiv (num den : Nat) : Nat :=
  let q := num / den
  let r := num % den
  if 2 * r < den then q else if den < 2 * r then q + 1 else q + q % 2

/-- A 64-bit binary floating-point number. -/
inductive Binary64 where
  /-- The number `± mantissa · 2 ^ exponent`. -/
  | finite (negative : Bool) (mantissa : Nat) (exponent : Int)
  | infinite (negative : Bool)
  | nan
  deriving DecidableEq

namespace Binary64

/-- The bits of a mantissa. -/
def precision : Nat := 53

/-- The least exponent. -/
def minExponent : Int := -1074

/-- The largest exponent. -/
def maxExponent : Int := 971

/-- `num / den` scaled down by `2 ^ exponent`, as a rounded mantissa. -/
def mantissaAt (num den : Nat) (exponent : Int) : Nat :=
  roundDiv (num * Nat.pow 2 (-exponent).toNat) (den * Nat.pow 2 exponent.toNat)

/-- The binary number nearest to `± num / den`, where neither is zero. -/
def ofRatio (negative : Bool) (num den : Nat) : Binary64 :=
  -- the quotient lies between `2 ^ (e - 1)` and `2 ^ (e + 1)`
  let e : Int := (num.log2 : Int) - (den.log2 : Int)
  let reaches : Bool := den * Nat.pow 2 e.toNat ≤ num * Nat.pow 2 (-e).toNat
  let exponent := max minExponent ((if reaches then e else e - 1) - (precision - 1 : Nat))
  let mantissa := mantissaAt num den exponent
  if maxExponent < exponent ∨ (exponent = maxExponent ∧ Nat.pow 2 precision ≤ mantissa) then
    infinite negative
  else finite negative mantissa exponent

/-- The binary number nearest to `± digits · 10 ^ exponent`. -/
def ofDecimal (negative : Bool) (digits : Nat) (exponent : Int) : Binary64 :=
  if digits = 0 then finite negative 0 0
  else
    let places : Int := ((Nat.toDigits 10 digits).length : Int) + exponent
    if 400 < places then infinite negative
    else if places < -400 then finite negative 0 0
    else ofRatio negative (digits * Nat.pow 10 exponent.toNat) (Nat.pow 10 (-exponent).toNat)

/-! ### Reading -/

/-- The number that decimal digits spell. -/
def decimalDigits (cs : List Char) : Nat :=
  cs.foldl (fun n c => 10 * n + (c.toNat - '0'.toNat)) 0

/-- The exponent after a mantissa, if the rest of the text is one or empty. -/
def exponent? : List Char → Option Int
  | [] => some 0
  | c :: rest =>
    if c = 'e' ∨ c = 'E' then
      let (negative, digits) := match rest with
        | '-' :: digits => (true, digits)
        | '+' :: digits => (false, digits)
        | digits => (false, digits)
      if digits.isEmpty ∨ digits.any (!·.isDigit) then none
      else
        let n : Int := decimalDigits digits
        some (if negative then -n else n)
    else none

/-- Reads an unsigned number: digits with at most one point among or around them,
and an exponent. -/
def unsigned? (negative : Bool) (cs : List Char) : Option Binary64 :=
  let whole := cs.takeWhile Char.isDigit
  let (fraction, rest) := match cs.dropWhile Char.isDigit with
    | '.' :: rest => (rest.takeWhile Char.isDigit, rest.dropWhile Char.isDigit)
    | rest => ([], rest)
  if whole.isEmpty ∧ fraction.isEmpty then none
  else
    (exponent? rest).map fun exponent =>
      ofDecimal negative (decimalDigits (whole ++ fraction)) (exponent - fraction.length)

/-- Reads the names of numbers that have no digits. -/
def named? (negative : Bool) (cs : List Char) : Option Binary64 :=
  match String.ofList (cs.map Char.toLower) with
  | "inf" | "infinity" => some (infinite negative)
  | "nan" => some nan
  | _ => none

/-- Reads a number. -/
def parse? (text : String) : Option Binary64 :=
  let (negative, cs) := match text.toList with
    | '-' :: cs => (true, cs)
    | '+' :: cs => (false, cs)
    | cs => (false, cs)
  (named? negative cs).or (unsigned? negative cs)

end Binary64

end LogicCapture
