/-
Reading TOML 1.0 documents.

* `Toml.Parser`: a parser takes characters from the front of the input;
* `Toml.string`, `Toml.number`, `Toml.moment`, `Toml.value`: the values;
* `Toml.keyPath`: keys with dots;
* `Toml.parse?`: a whole document.
-/
import LogicCapture.Text.Binary64
import LogicCapture.Toml.Value

namespace LogicCapture.Toml

/-! ### Parsers -/

/-- A parser takes a value from the front of the input, or fails. -/
abbrev Parser := StateT (List Char) Option

variable {α β : Type}

/-- The next character, if it passes a test. -/
def satisfy (test : Char → Bool) : Parser Char
  | c :: rest => if test c then some (c, rest) else none
  | [] => none

/-- The given character. -/
def char (c : Char) : Parser Char := satisfy (· = c)

/-- The given characters. -/
def literal : List Char → Parser Unit
  | [] => pure ()
  | c :: cs => do
    let _ ← char c
    literal cs

/-- The longest run of characters that pass a test. -/
def span (test : Char → Bool) : Parser (List Char) :=
  fun cs => some (cs.takeWhile test, cs.dropWhile test)

/-- The longest run of characters that pass a test, if there are any. -/
def span1 (test : Char → Bool) : Parser (List Char) := do
  let c ← satisfy test
  return c :: (← span test)

/-- As many times as possible, but at most `n` times. -/
def upTo (p : Parser α) : Nat → Parser (List α)
  | 0 => pure []
  | n + 1 => (do
      let a ← p
      return a :: (← upTo p n)) <|> pure []

/-- As many times as possible; `p` takes at least one character each time. -/
def star (p : Parser α) : Parser (List α) := fun cs => upTo p cs.length cs

/-- What `p` reads, if it reads anything. -/
def optional (p : Parser α) : Parser (Option α) := (some <$> p) <|> pure none

/-- Exactly `n` characters that pass a test. -/
def exactly (test : Char → Bool) : Nat → Parser (List Char)
  | 0 => pure []
  | n + 1 => do
    let c ← satisfy test
    return c :: (← exactly test n)

/-- One or more, with separators between them. -/
def sepBy1 (p : Parser α) (separator : Parser β) : Parser (List α) := do
  let first ← p
  let rest ← star do
    let _ ← separator
    p
  return first :: rest

/-- The end of the input. -/
def atEnd : Parser Unit
  | [] => some ((), [])
  | _ => none

/-! ### Blanks, comments and line ends -/

/-- Characters beyond ASCII may stand in strings and comments. -/
def isNonAscii (c : Char) : Bool := 0x80 ≤ c.toNat

/-- A blank within a line. -/
def isBlank (c : Char) : Bool := c = ' ' || c = '\t'

/-- A character that a comment may hold. -/
def isCommentChar (c : Char) : Bool :=
  c = '\t' || (0x20 ≤ c.toNat && c.toNat ≤ 0x7E) || isNonAscii c

/-- Blanks within a line. -/
def blanks : Parser Unit := do
  let _ ← span isBlank

/-- A line end. -/
def newline : Parser Unit := literal ['\n'] <|> literal ['\x0d', '\n']

/-- A comment, up to the line end. -/
def comment : Parser Unit := do
  let _ ← char '#'
  let _ ← span isCommentChar

/-- What may follow an expression on its line. -/
def lineEnd : Parser Unit := do
  blanks
  let _ ← optional comment
  newline <|> atEnd

/-- Blanks, line ends and comments. -/
def gap : Parser Unit := do
  let _ ← star ((do let _ ← span1 isBlank) <|> newline <|> comment)

/-! ### Strings -/

/-- A character that a basic string may hold as it is. -/
def isBasicChar (c : Char) : Bool :=
  c = '\t' || c = ' ' || c = '!' || (0x23 ≤ c.toNat && c.toNat ≤ 0x7E && c ≠ '\\') || isNonAscii c

/-- A character that a literal string may hold. -/
def isLiteralChar (c : Char) : Bool :=
  c = '\t' || (0x20 ≤ c.toNat && c.toNat ≤ 0x7E && c ≠ '\'') || isNonAscii c

/-- The value of a digit in a base up to 16. -/
def digitValue (c : Char) : Nat :=
  if c.isDigit then c.toNat - '0'.toNat
  else if 'a' ≤ c ∧ c ≤ 'f' then c.toNat - 'a'.toNat + 10
  else c.toNat - 'A'.toNat + 10

/-- A hexadecimal digit. -/
def isHexDigit (c : Char) : Bool :=
  c.isDigit || ('a' ≤ c && c ≤ 'f') || ('A' ≤ c && c ≤ 'F')

/-- The number that digits spell in a base. -/
def digitsValue (base : Nat) (digits : List Char) : Nat :=
  digits.foldl (fun n c => base * n + digitValue c) 0

/-- The character with a code point of `n` hexadecimal digits. -/
def codePoint (n : Nat) : Parser Char := do
  let code := digitsValue 16 (← exactly isHexDigit n)
  if h : code.isValidChar then return Char.ofNatAux code h else failure

/-- An escape sequence. -/
def escape : Parser Char := do
  let _ ← char '\\'
  match ← satisfy fun _ => true with
  | 'b' => return '\x08'
  | 't' => return '\t'
  | 'n' => return '\n'
  | 'f' => return '\x0c'
  | 'r' => return '\x0d'
  | '"' => return '"'
  | '\\' => return '\\'
  | 'u' => codePoint 4
  | 'U' => codePoint 8
  | _ => failure

/-- A basic string on one line. -/
def basicString : Parser String := do
  let _ ← char '"'
  let body ← star (satisfy isBasicChar <|> escape)
  let _ ← char '"'
  return String.ofList body

/-- A literal string on one line. -/
def literalString : Parser String := do
  let _ ← char '\''
  let body ← span isLiteralChar
  let _ ← char '\''
  return String.ofList body

/-- A backslash at the end of a line, with all blanks and line ends after it. -/
def continuation : Parser Unit := do
  let _ ← char '\\'
  blanks
  newline
  let _ ← star ((do let _ ← span1 isBlank) <|> newline)

/-- One or two quotes that do not belong to the end of a multi-line string, or
the quotes just before that end. -/
def innerQuotes (quote : Char) : Parser (List Char) := fun cs =>
  match (cs.takeWhile (· = quote)).length with
  | 1 => some ([quote], cs.drop 1)
  | 2 => some ([quote, quote], cs.drop 2)
  | 4 => some ([quote], cs.drop 1)
  | 5 => some ([quote, quote], cs.drop 2)
  | _ => none

/-- A multi-line string between three quotes; a line end right after the first
three is dropped. -/
def multiline (quote : Char) (piece : Parser (List Char)) : Parser String := do
  let delimiter := [quote, quote, quote]
  literal delimiter
  let _ ← optional newline
  let body ← star (piece <|> innerQuotes quote)
  literal delimiter
  return String.ofList body.flatten

/-- A multi-line basic string. -/
def multilineBasic : Parser String :=
  multiline '"' (
    span1 isBasicChar <|>
    (do continuation; return []) <|>
    (do return [← escape]) <|>
    (do newline; return ['\n']))

/-- A multi-line literal string. -/
def multilineLiteral : Parser String :=
  multiline '\'' (span1 isLiteralChar <|> (do newline; return ['\n']))

/-- A string of any kind. -/
def string : Parser String :=
  multilineBasic <|> multilineLiteral <|> basicString <|> literalString

/-! ### Keys -/

/-- A character of a key without quotes. -/
def isBareChar (c : Char) : Bool := c.isAlphanum || c = '_' || c = '-'

/-- One name of a key. -/
def name : Parser String :=
  basicString <|> literalString <|> (do return String.ofList (← span1 isBareChar))

/-- The most names in one key, and the most arrays and inline tables inside one
another, plus one. -/
def depthLimit : Nat := 80

/-- A key: names with dots between them. -/
def keyPath : Parser (List String) := do
  let names ← sepBy1 (do
    blanks
    let name ← name
    blanks
    return name) (char '.')
  if names.length < depthLimit then return names else failure

/-! ### Numbers and booleans -/

/-- Digits in which single underscores may stand between two of them. -/
def digits (test : Char → Bool) : Parser (List Char) := do
  let first ← satisfy test
  let rest ← star (satisfy test <|> (do
    let _ ← char '_'
    satisfy test))
  return first :: rest

/-- The sign of a number. -/
def sign : Parser (List Char) := do
  match ← optional (satisfy fun c => c = '+' || c = '-') with
  | some c => return [c]
  | none => return []

/-- The digits of a decimal integer; only zero itself begins with a zero. -/
def decimal : Parser (List Char) :=
  (do
    let _ ← char '0'
    return ['0']) <|>
  digits Char.isDigit

/-- Integers have 64 bits. -/
def inRange (n : Int) : Bool := -9223372036854775808 ≤ n && n ≤ 9223372036854775807

/-- An integer in range. -/
def ranged (n : Int) : Parser Value := if inRange n then return .integer n else failure

/-- A decimal integer. -/
def decimalInteger : Parser Value := do
  let sign ← sign
  let n : Int := digitsValue 10 (← decimal)
  ranged (if sign = ['-'] then -n else n)

/-- An integer in another base. -/
def based (mark : Char) (base : Nat) (test : Char → Bool) : Parser Value := do
  literal ['0', mark]
  ranged (digitsValue base (← digits test))

/-- An integer. -/
def integer : Parser Value :=
  based 'x' 16 isHexDigit <|>
  based 'o' 8 (fun c => '0' ≤ c && c ≤ '7') <|>
  based 'b' 2 (fun c => c = '0' || c = '1') <|>
  decimalInteger

/-- The exponent of a float. -/
def exponent : Parser (List Char) := do
  let _ ← satisfy fun c => c = 'e' || c = 'E'
  let sign ← sign
  return 'e' :: sign ++ (← digits Char.isDigit)

/-- The fraction of a float. -/
def fraction : Parser (List Char) := do
  let _ ← char '.'
  return '.' :: (← digits Char.isDigit)

/-- A float with a fraction or an exponent.  It must not exceed the largest
64-bit float. -/
def decimalFloat : Parser Value := do
  let sign ← sign
  let whole ← decimal
  let rest ← exponent <|> (do
    let fraction ← fraction
    return fraction ++ ((← optional exponent).getD []))
  let written := String.ofList (sign ++ whole ++ rest)
  if Binary64.parse? written = some (.infinite false) then failure
  else return .float written

/-- A float that has no digits. -/
def namedFloat : Parser Value := do
  let sign ← sign
  let name := ['i', 'n', 'f']
  (do
    literal name
    return .float (String.ofList (sign ++ name))) <|> (do
    let name := ['n', 'a', 'n']
    literal name
    return .float (String.ofList (sign ++ name)))

/-- A boolean. -/
def boolean : Parser Value :=
  (do
    literal ['t', 'r', 'u', 'e']
    return .boolean true) <|> (do
    literal ['f', 'a', 'l', 's', 'e']
    return .boolean false)

/-! ### Dates and times -/

/-- A number of exactly `n` digits from `lo` to `hi`, as it is written. -/
def field (n lo hi : Nat) : Parser (List Char) := do
  let written ← exactly Char.isDigit n
  let value := digitsValue 10 written
  if lo ≤ value ∧ value ≤ hi then return written else failure

/-- The days of a month. -/
def daysIn (year month : Nat) : Nat :=
  if month = 2 then
    if year % 4 = 0 ∧ (year % 100 ≠ 0 ∨ year % 400 = 0) then 29 else 28
  else if month = 4 ∨ month = 6 ∨ month = 9 ∨ month = 11 then 30
  else 31

/-- A date. -/
def date : Parser (List Char) := do
  let year ← field 4 0 9999
  let _ ← char '-'
  let month ← field 2 1 12
  let _ ← char '-'
  let day ← field 2 1 (daysIn (digitsValue 10 year) (digitsValue 10 month))
  return year ++ '-' :: month ++ '-' :: day

/-- A time of day. -/
def time : Parser (List Char) := do
  let hour ← field 2 0 23
  let _ ← char ':'
  let minute ← field 2 0 59
  let _ ← char ':'
  let second ← field 2 0 60
  let fraction ← optional do
    let _ ← char '.'
    return '.' :: (← span1 Char.isDigit)
  return hour ++ ':' :: minute ++ ':' :: second ++ fraction.getD []

/-- The distance of a local time from universal time. -/
def offset : Parser (List Char) :=
  (do return [← satisfy fun c => c = 'Z' || c = 'z']) <|> (do
    let sign ← satisfy fun c => c = '+' || c = '-'
    let hour ← field 2 0 23
    let _ ← char ':'
    let minute ← field 2 0 59
    return sign :: hour ++ ':' :: minute)

/-- A date, a time of day, or both. -/
def moment : Parser Value :=
  (do
    let date ← date
    let rest ← optional do
      let mark ← satisfy fun c => c = 'T' || c = 't' || c = ' '
      let time ← time
      return mark :: time ++ ((← optional offset).getD [])
    return .datetime (String.ofList (date ++ rest.getD []))) <|> (do
    return .datetime (String.ofList (← time)))

/-! ### Values -/

/-- The elements of an array, whose last may be followed by a comma. -/
def arrayBody (element : Parser Value) : Parser Value := do
  let _ ← char '['
  let elements ← optional do
    let elements ← sepBy1 (do
      gap
      let v ← element
      gap
      return v) (char ',')
    let _ ← optional (char ',')
    return elements
  gap
  let _ ← char ']'
  return .array (elements.getD [])

/-- Puts the entries of an inline table together. -/
def inlineEntries (pairs : List (List String × Value)) : Option Entries :=
  pairs.foldlM (fun entries (path, v) => do
    assign (← path.getLast?) v path.dropLast entries) []

/-- The entries of an inline table, on one line and without a comma after the last. -/
def inlineBody (element : Parser Value) : Parser Value := do
  let _ ← char '\x7b'
  let pairs ← optional (sepBy1 (do
    let path ← keyPath
    let _ ← char '='
    blanks
    let v ← element
    blanks
    return (path, v)) (char ','))
  blanks
  let _ ← char '\x7d'
  match inlineEntries (pairs.getD []) with
  | some entries => return .table (finishEntries entries)
  | none => failure

/-- A value that is no array and no table. -/
def scalar : Parser Value :=
  (do return .string (← string)) <|> moment <|> decimalFloat <|> integer <|> namedFloat <|> boolean

/-- A value in which at most `depth` arrays and inline tables stand inside one another. -/
def valueWithin : Nat → Parser Value
  | 0 => scalar
  | depth + 1 => scalar <|> arrayBody (valueWithin depth) <|> inlineBody (valueWithin depth)

/-- A value. -/
def value : Parser Value := valueWithin (depthLimit - 1)

/-! ### Documents -/

/-- The state of a document: its tables so far, and the path of the open one. -/
structure Document where
  root : Entries := []
  current : List String := []

/-- An expression of a document. -/
inductive Expression where
  | blank
  | keyValue (path : List String) (value : Value)
  | header (path : List String)
  | elementHeader (path : List String)

/-- A key with its value. -/
def keyValue : Parser Expression := do
  let path ← keyPath
  let _ ← char '='
  blanks
  let v ← value
  lineEnd
  return .keyValue path v

/-- A header in the given brackets. -/
def headerIn (opening closing : List Char) (make : List String → Expression) :
    Parser Expression := do
  literal opening
  let path ← keyPath
  literal closing
  lineEnd
  return make path

/-- A header. -/
def header : Parser Expression := fun cs =>
  match cs with
  | '[' :: '[' :: _ => headerIn ['[', '['] [']', ']'] .elementHeader cs
  | _ => headerIn ['['] [']'] .header cs

/-- The next expression and the blanks after it. -/
def expression : Parser Expression := do
  let e ← fun cs =>
    match cs with
    | '#' :: _ => (do
        comment
        newline <|> atEnd
        return Expression.blank : Parser Expression) cs
    | '[' :: _ => header cs
    | '\n' :: _ | '\x0d' :: _ => (do
        newline
        return Expression.blank : Parser Expression) cs
    | _ => keyValue cs
  blanks
  return e

/-- What an expression does to a document. -/
def Document.add (d : Document) : Expression → Option Document
  | .blank => some d
  | .keyValue path v => do
    let key ← path.getLast?
    return { d with root := ← within (assign key v path.dropLast) d.current d.root }
  | .header path => do
    let key ← path.getLast?
    return { root := ← within (openTable key) path.dropLast d.root, current := path }
  | .elementHeader path => do
    let key ← path.getLast?
    return { root := ← within (openElement key) path.dropLast d.root, current := path }

/-- Reads expressions, at most `n` of them, to the end of the input. -/
def document : Nat → Document → List Char → Option Document
  | _, d, [] => some d
  | 0, _, _ => none
  | n + 1, d, cs => do
    let (e, rest) ← expression cs
    document n (← d.add e) rest

/-- The entries of a document's root table. -/
def parse? (text : List Char) : Option (List (String × Value)) := do
  let text := match text with
    | '\ufeff' :: rest => rest
    | text => text
  let text := text.dropWhile isBlank
  return finishEntries (← document text.length {} text).root

end LogicCapture.Toml
