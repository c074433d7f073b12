/-
Writing TOML documents that consist of tables of strings and integers.

* `Toml.quote`: a string in the plainest quotes that can hold it;
* `Toml.Section`: a table with its header;
* `Toml.render?`: a document of sections, which cannot hold integers of more
  than 63 bits.
-/

namespace LogicCapture.Toml

/-! ### Strings -/

/-- A character that has to be escaped in every kind of string. -/
def isControl (c : Char) : Bool :=
  (c.toNat < 0x20 && c ≠ '\t' && c ≠ '\n') || c.toNat = 0x7F

/-- The length of the longest run of a character, after `run` of them. -/
def longestRun (x : Char) (run : Nat) : List Char → Nat
  | [] => run
  | c :: rest => if c = x then longestRun x (run + 1) rest else max run (longestRun x 0 rest)

/-- The escape sequence for a character that is not written as it is. -/
def escapeSequence (c : Char) : List Char :=
  match c with
  | '\x08' => ['\\', 'b']
  | '\t' => ['\\', 't']
  | '\n' => ['\\', 'n']
  | '\x0c' => ['\\', 'f']
  | '\x0d' => ['\\', 'r']
  | '"' => ['\\', '"']
  | '\\' => ['\\', '\\']
  | c =>
    let digit (n : Nat) : Char := (Nat.digitChar n).toUpper
    ['\\', 'u', '0', '0', digit (c.toNat / 16), digit (c.toNat % 16)]

/-- The body of a basic string.  In a multi-line one, line ends stand as they are
and so do up to two quotes in a row, of which `quotes` have been written. -/
def escaped (multi : Bool) (quotes : Nat) : List Char → List Char
  | [] => []
  | c :: rest =>
    if c = '"' ∧ multi ∧ quotes < 2 then c :: escaped multi (quotes + 1) rest
    else if c = '"' ∨ c = '\\' ∨ c = '\t' ∨ isControl c ∨ (c = '\n' ∧ !multi) then
      escapeSequence c ++ escaped multi 0 rest
    else c :: escaped multi 0 rest

/-- A text between quotes, three on each side if it may have more than one line; a
text with several lines begins on a line of its own. -/
def enclosed (quote : Char) (multi : Bool) (lines : Bool) (body : List Char) : List Char :=
  let delimiter := List.replicate (if multi then 3 else 1) quote
  delimiter ++ (if multi && lines then ['\n'] else []) ++ body ++ delimiter

/-- A string in the first of these forms that needs no escape sequences: basic,
literal, multi-line basic, multi-line literal; if none does, a basic one with
escapes. -/
def quote (cs : List Char) : List Char :=
  let lines := cs.contains '\n'
  let controls := cs.any isControl
  let backslash := cs.contains '\\'
  if !controls && !backslash && !lines && !cs.contains '"' then
    enclosed '"' false lines (escaped false 0 cs)
  else if !controls && !lines && !cs.contains '\'' then enclosed '\'' false lines cs
  else if !controls && !backslash && longestRun '"' 0 cs ≤ 2 then
    enclosed '"' true lines (escaped true 0 cs)
  else if !controls && longestRun '\'' 0 cs ≤ 2 then enclosed '\'' true lines cs
  else enclosed '"' lines lines (escaped lines 0 cs)

/-! ### Documents -/

/-- A value on one line. -/
inductive Scalar where
  | string (text : String)
  | integer (n : Nat)
  deriving DecidableEq

/-- The largest integer of a document, one of 63 bits. -/
def maxInteger : Nat := 9223372036854775807

/-- The text of a value, unless it is too large. -/
def Scalar.render? : Scalar → Option (List Char)
  | string text => some (quote text.toList)
  | integer n => if n ≤ maxInteger then some (Nat.toDigits 10 n) else none

/-- A table under a header. -/
structure Section where
  name : String
  lines : List (String × Scalar)

/-- The line of a key. -/
def renderLine? (line : String × Scalar) : Option (List Char) := do
  return line.1.toList ++ [' ', '=', ' '] ++ (← line.2.render?) ++ ['\n']

/-- The lines of a table. -/
def Section.render? (s : Section) : Option (List Char) := do
  let lines ← s.lines.mapM renderLine?
  return '[' :: s.name.toList ++ [']', '\n'] ++ lines.flatten

/-- A document; empty lines stand between its tables. -/
def render? (sections : List Section) : Option (List Char) := do
  let texts ← sections.mapM Section.render?
  return List.intercalate ['\n'] texts

end LogicCapture.Toml
