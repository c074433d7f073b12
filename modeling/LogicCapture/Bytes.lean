/-
Byte strings and the words laid out in them:

* `LittleEndian.encode`: the `w` bytes of a number, least significant first;
* `LittleEndian.decode`: the number that a byte string spells;
* `LittleEndian.decode_encode`, `LittleEndian.encode_decode`: the two are
  inverse on numbers that fit and on strings of the right length;
* `hexDigit?`: the value of a hexadecimal digit;
* `hexNumber`, `hexBytes`: lower-case hexadecimal text of a number and of a
  byte string.
-/

namespace LogicCapture

/-- A byte string, in the order in which its bytes travel. -/
abbrev Bytes := List UInt8

/-- A buffer of `n` zero bytes. -/
def zeros (n : Nat) : Bytes := List.replicate n 0

@[simp] theorem length_zeros (n : Nat) : (zeros n).length = n := List.length_replicate

/-- The buffer `buffer` with its bytes from `offset` on overwritten by `data`, as
far as the buffer reaches. -/
def overwrite (buffer : Bytes) (offset : Nat) (data : Bytes) : Bytes :=
  let room := buffer.drop offset
  let fitting := data.take room.length
  buffer.take offset ++ fitting ++ room.drop fitting.length

/-- Overwriting never changes the length of a buffer. -/
@[simp] theorem length_overwrite (buffer : Bytes) (offset : Nat) (data : Bytes) :
    (overwrite buffer offset data).length = buffer.length := by
  simp [overwrite]
  omega

/-- Data written to the front of an empty buffer is followed by zeros. -/
theorem overwrite_zeros {n : Nat} {data : Bytes} (h : data.length ≤ n) :
    overwrite (zeros n) 0 data = data ++ zeros (n - data.length) := by
  simp [overwrite, zeros, List.take_of_length_le h]

/-! ### Little-endian words -/

namespace LittleEndian

/-- The `w` little-endian bytes of `n`; what does not fit in them is dropped. -/
def encode : Nat → Nat → Bytes
  | 0, _ => []
  | w + 1, n => UInt8.ofNat (n % 256) :: encode w (n / 256)

/-- The number whose little-endian bytes are given. -/
def decode : Bytes → Nat
  | [] => 0
  | b :: bs => b.toNat + 256 * decode bs

/-- The numbers that fit in `w` bytes lie below this one. -/
def bound : Nat → Nat
  | 0 => 1
  | w + 1 => 256 * bound w

/-- An encoded word has the width asked for. -/
@[simp] theorem length_encode (w n : Nat) : (encode w n).length = w := by
  induction w generalizing n with
  | zero => rfl
  | succ w ih => simp [encode, ih]

/-- A byte string spells a number that fits in its bytes. -/
theorem decode_lt (bs : Bytes) : decode bs < bound bs.length := by
  induction bs with
  | nil => exact Nat.one_pos
  | cons b bs ih =>
    have hb := b.toNat_lt
    rw [decode, List.length_cons, bound]
    omega

/-- Decoding an encoded word gives the number modulo the bound of its width. -/
theorem decode_encode (w n : Nat) : decode (encode w n) = n % bound w := by
  induction w generalizing n with
  | zero => rw [encode, decode, bound, Nat.mod_one]
  | succ w ih =>
    have h : (UInt8.ofNat (n % 256)).toNat = n % 256 := by
      rw [UInt8.toNat_ofNat']
      omega
    rw [encode, decode, ih, h, bound, Nat.mod_mul]

/-- Encoding what a byte string spells gives that string back. -/
theorem encode_decode (bs : Bytes) : encode bs.length (decode bs) = bs := by
  induction bs with
  | nil => rfl
  | cons b bs ih =>
    have hb : b.toNat < 256 := b.toNat_lt
    have hmod : (b.toNat + 256 * decode bs) % 256 = b.toNat := by omega
    have hdiv : (b.toNat + 256 * decode bs) / 256 = decode bs := by omega
    simp [encode, decode, hmod, hdiv, ih]

end LittleEndian

/-! ### Hexadecimal text -/

/-- The lower-case hexadecimal digits of a number, without leading zeros. -/
def hexNumber (n : Nat) : String := String.ofList (Nat.toDigits 16 n)

/-- The hexadecimal digits of a number, padded with zeros to at least `width`. -/
def hexPadded (width n : Nat) : String :=
  let digits := Nat.toDigits 16 n
  String.ofList (List.replicate (width - digits.length) '0' ++ digits)

/-- The hexadecimal text of a byte string, two digits a byte. -/
def hexBytes (bs : Bytes) : String :=
  String.ofList (bs.flatMap fun b => [Nat.digitChar (b.toNat / 16), Nat.digitChar (b.toNat % 16)])

/-- The value of a hexadecimal digit of either case. -/
def hexDigit? (c : Char) : Option Nat :=
  if '0' ≤ c ∧ c ≤ '9' then some (c.toNat - '0'.toNat)
  else if 'a' ≤ c ∧ c ≤ 'f' then some (c.toNat - 'a'.toNat + 10)
  else if 'A' ≤ c ∧ c ≤ 'F' then some (c.toNat - 'A'.toNat + 10)
  else none

/-- The byte string that pairs of hexadecimal digits spell, if they do. -/
def bytesOfHex? : List Char → Option Bytes
  | [] => some []
  | hi :: lo :: rest => do
    let h ← hexDigit? hi
    let l ← hexDigit? lo
    let bs ← bytesOfHex? rest
    return UInt8.ofNat (16 * h + l) :: bs
  | [_] => none

end LogicCapture
