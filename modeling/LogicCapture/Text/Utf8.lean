/-
UTF-8 as a machine that reads one byte at a time.  Where the bytes are not
UTF-8 the machine reports one gap for each longest run that begins a character
and does not finish it.

* `Utf8.scan`: the characters of a byte string, with gaps;
* `Utf8.decode?`: the characters, if there are no gaps;
* `Utf8.decodeLossy`: the characters, with U+FFFD for each gap.
-/
import LogicCapture.Bytes

namespace LogicCapture.Utf8

/-- Where the machine stands. -/
inductive State where
  /-- Between two characters. -/
  | between
  /-- Inside a character: `more + 1` bytes are to come, the next of them from `lo` to
  `hi`, and `code` is what the bytes so far contribute. -/
  | within (more : Nat) (code : Nat) (lo hi : UInt8)
  deriving DecidableEq

/-- Reads the first byte of a character. -/
def lead (b : UInt8) : List (Option Char) × State :=
  let n := b.toNat
  if n < 0x80 then ([some (Char.ofNat n)], .between)
  else if n < 0xC2 then ([none], .between)
  else if n < 0xE0 then ([], .within 0 (n - 0xC0) 0x80 0xBF)
  else if n = 0xE0 then ([], .within 1 0 0xA0 0xBF)
  else if n = 0xED then ([], .within 1 0xD 0x80 0x9F)
  else if n < 0xF0 then ([], .within 1 (n - 0xE0) 0x80 0xBF)
  else if n = 0xF0 then ([], .within 2 0 0x90 0xBF)
  else if n < 0xF4 then ([], .within 2 (n - 0xF0) 0x80 0xBF)
  else if n = 0xF4 then ([], .within 2 4 0x80 0x8F)
  else ([none], .between)

/-- Reads one byte. -/
def step : State → UInt8 → List (Option Char) × State
  | .between, b => lead b
  | .within more code lo hi, b =>
    if lo ≤ b ∧ b ≤ hi then
      let code := code * 64 + (b.toNat - 0x80)
      match more with
      | 0 => ([some (Char.ofNat code)], .between)
      | more + 1 => ([], .within more code 0x80 0xBF)
    else
      let (out, state) := lead b
      (none :: out, state)

/-- Reads the rest of the bytes. -/
def scanFrom : State → Bytes → List (Option Char)
  | .between, [] => []
  | .within _ _ _ _, [] => [none]
  | state, b :: rest =>
    let (out, state) := step state b
    out ++ scanFrom state rest

/-- The characters of a byte string, with `none` for each gap. -/
def scan (bytes : Bytes) : List (Option Char) := scanFrom .between bytes

/-- The text of a byte string that is UTF-8 throughout. -/
def decode? (bytes : Bytes) : Option (List Char) := (scan bytes).mapM id

/-- The text of a byte string, with U+FFFD for each gap. -/
def decodeLossy (bytes : Bytes) : String :=
  String.ofList ((scan bytes).map (·.getD '\uFFFD'))

/-- The UTF-8 bytes of a text. -/
def encode (text : String) : Bytes := text.toUTF8.toList

end LogicCapture.Utf8
