/-
Reading regular expressions.

* `Regex.Reader`: a reader takes characters from the front of a pattern, and may
  skip blanks and comments between them;
* `Regex.escape`, `Regex.classBody`, `Regex.body`: escapes, classes in brackets, and
  what stands inside a group;
* `Regex.parse?`: a whole pattern.
-/
import LogicCapture.Bytes
import LogicCapture.Regex.Basic
import LogicCapture.Text.CharClass

namespace LogicCapture.Regex

open Text (isAlphabetic isAlphanumeric isWhiteSpace)

/-! ### Readers -/

/-- What is left of a pattern, and how it is to be read. -/
structure Source where
  rest : List Char
  /-- Blanks and comments between the parts are skipped. -/
  verbose : Bool := false
  deriving DecidableEq

/-- A reader takes a value from the front of a pattern, or fails. -/
abbrev Reader := StateT Source Option

/-- The next character, which is left where it is. -/
def peek : Reader (Option Char) := return (← get).rest.head?

/-- The next character. -/
def next : Reader Char := do
  match (← get).rest with
  | c :: rest =>
    modify ({ · with rest })
    return c
  | [] => failure

/-- Fails at the end of the pattern. -/
def more : Reader Unit := do if (← get).rest.isEmpty then failure

/-- The given characters, if they come next. -/
def accept (cs : List Char) : Reader Bool := do
  let s ← get
  if cs.isPrefixOf s.rest then
    set { s with rest := s.rest.drop cs.length }
    return true
  return false

/-- The given characters, which have to come next. -/
def expect (cs : List Char) : Reader Unit := do if !(← accept cs) then failure

/-- A pattern without the blanks and comments in front of it; a comment ends with its
line. -/
def withoutBlanks (inComment : Bool) : List Char → List Char
  | [] => []
  | c :: rest =>
    if inComment then withoutBlanks (c ≠ '\n') rest
    else if c = '#' then withoutBlanks true rest
    else if isWhiteSpace c then withoutBlanks false rest
    else c :: rest

/-- Skips blanks and comments, where they are skipped. -/
def skip : Reader Unit :=
  modify fun s => if s.verbose then { s with rest := withoutBlanks false s.rest } else s

/-- Skips blanks and comments, behind which the pattern has to go on. -/
def skipOn : Reader Unit := do
  skip
  more

/-! ### Escapes -/

/-- What an escape or another character stands for. -/
inductive Primitive where
  | literal (l : Literal)
  | dot
  | anchor
  | wordBoundary
  | shorthand (negated : Bool)
  deriving DecidableEq

/-- The part of a regular expression that is a primitive. -/
def Primitive.toRegex : Primitive → Regex
  | literal l => .literal l
  | dot => .dot
  | anchor => .anchor
  | wordBoundary => .wordBoundary
  | shorthand negated => .shorthand negated

/-- The part of a class that is a primitive, if it can be one. -/
def Primitive.toSet? : Primitive → Option ClassSet
  | literal l => some (.literal l)
  | shorthand negated => some (.shorthand negated)
  | _ => none

/-- The literal that is a primitive, if it is one. -/
def Primitive.toLiteral? : Primitive → Option Literal
  | literal l => some l
  | _ => none

/-- The number that begins with the digits of `code` and goes on with `n` more. -/
def hexCode : Nat → Nat → Reader Nat
  | 0, code => pure code
  | n + 1, code => do
    skip
    let digit ← hexDigit? (← next)
    hexCode n (16 * code + digit)

/-- The character with a code point of `n` hexadecimal digits. -/
def codePoint (n : Nat) : Reader Char := do
  let code ← hexCode n 0
  if h : code.isValidChar then return Char.ofNatAux code h else failure

/-- A character that stands for itself behind a backslash, if it has no other meaning
there. -/
def isEscapable (c : Char) : Bool :=
  c.toNat < 0x80 && !c.isAlphanum

/-- What follows a backslash.  There are no references to groups and no named classes of
characters. -/
def escape : Reader Primitive := do
  let c ← next
  let itself (c : Char) : Reader Primitive := return .literal { char := c }
  match c with
  | 'x' => return .literal { char := ← codePoint 2, asByte := true }
  | 'u' => itself (← codePoint 4)
  | 'U' => itself (← codePoint 8)
  | 'd' | 's' | 'w' => return .shorthand false
  | 'D' | 'S' | 'W' => return .shorthand true
  | 'a' => itself '\x07'
  | 'f' => itself '\x0c'
  | 't' => itself '\t'
  | 'n' => itself '\n'
  | 'r' => itself '\x0d'
  | 'v' => itself '\x0b'
  | 'A' | 'z' => return .anchor
  | 'b' | 'B' | '<' | '>' => return .wordBoundary
  | c => if isEscapable c then itself c else failure

/-- A part that is one character or an escape. -/
def primitive : Reader Primitive := do
  match ← next with
  | '\\' => escape
  | '.' => return .dot
  | '^' | '$' => return .anchor
  | c => return .literal { char := c }

/-! ### Classes -/

/-- The names that may stand between `[:` and `:]`. -/
def classNames : List String :=
  ["alnum", "alpha", "ascii", "blank", "cntrl", "digit", "graph", "lower", "print", "punct",
    "space", "upper", "word", "xdigit"]

/-- A class such as `[:alpha:]` or `[:^alpha:]`, if one comes next. -/
def namedClass? : Reader (Option ClassSet) := do
  let s ← get
  if ← accept ['[', ':'] then
    let negated ← accept ['^']
    let name := (← get).rest.takeWhile (· ≠ ':')
    if classNames.contains (String.ofList name) then
      if ← accept (name ++ [':', ']']) then return some (.named negated)
  set s
  return none

/-- A character of a class, or an escape. -/
def classPrimitive : Reader Primitive := do
  if ← accept ['\\'] then escape else return .literal { char := ← next }

/-- Whether a hyphen that comes next ends what could be a range: a bracket or another
hyphen follows it.  Where blanks are skipped they are passed over, and one sign that
opens a comment. -/
def hyphenEnds : Reader Bool := do
  let s ← get
  let after := s.rest.drop 1
  let after :=
    if s.verbose then
      match after.dropWhile isWhiteSpace with
      | '#' :: rest => rest.dropWhile isWhiteSpace
      | rest => rest
    else after
  return after.head? = some ']' || after.head? = some '-'

/-- A range, or a part of a class that is no range. -/
def classRange : Reader ClassSet := do
  let first ← classPrimitive
  skipOn
  if (← peek) ≠ some '-' ∨ (← hyphenEnds) then first.toSet?
  else
    expect ['-']
    skipOn
    let first ← first.toLiteral?
    let last ← (← classPrimitive).toLiteral?
    if first.char ≤ last.char then return .range first last else failure

/-- Hyphens at the beginning of a class, of which there may be `n`. -/
def hyphens : Nat → Reader (List ClassSet)
  | 0 => pure []
  | n + 1 => do
    if ← accept ['-'] then
      skipOn
      return .literal { char := '-' } :: (← hyphens n)
    return []

/-- The beginning of a class behind its bracket: whether it is negated, and the
characters that mean themselves only there. -/
def classOpening : Reader (Bool × List ClassSet) := do
  skipOn
  let negated ← accept ['^']
  skipOn
  let parts ← hyphens (← get).rest.length
  if parts.isEmpty then
    if ← accept [']'] then
      skipOn
      return (negated, [.literal { char := ']' }])
  return (negated, parts)

/-- The signs between two sets that are combined. -/
def operators : List (List Char) := [['&', '&'], ['-', '-'], ['~', '~']]

/-- The union of some parts, the last one first, combined with what stands on the left
of it. -/
def combine (left : Option ClassSet) (parts : List ClassSet) : ClassSet :=
  match left with
  | none => .union parts.reverse
  | some left => .combined left (.union parts.reverse)

/-- The rest of a class up to its bracket.  Of what has been read, `left` stands in
front of the last operator, and `parts` behind it, the last one first. -/
def classBody : Nat → Option ClassSet → List ClassSet → Reader ClassSet
  | 0, _, _ => failure
  | n + 1, left, parts => do
    skip
    if ← accept [']'] then return combine left parts
    else if ← operators.anyM accept then classBody n (combine left parts) []
    else
      match ← namedClass? with
      | some part => classBody n left (part :: parts)
      | none =>
        if ← accept ['['] then
          let (negated, opening) ← classOpening
          let set ← classBody n none opening.reverse
          classBody n left (.bracketed negated set :: parts)
        else
          classBody n left ((← classRange) :: parts)

/-- A class behind its bracket. -/
def bracketClass : Reader Regex := do
  let (negated, opening) ← classOpening
  return .bracketed negated (← classBody ((← get).rest.length + 1) none opening.reverse)

/-! ### Groups -/

/-- The flag that a letter names. -/
def flag? : Char → Option Flag
  | 'i' => some .caseless
  | 'm' => some .multiLine
  | 's' => some .dotAll
  | 'U' => some .swapGreed
  | 'u' => some .unicode
  | 'R' => some .crlf
  | 'x' => some .verbose
  | _ => none

/-- The flags that some letters name, each of them once. -/
def flags? (cs : List Char) : Option (List Flag) := do
  let flags ← cs.mapM flag?
  if flags.Nodup then some flags else none

/-- Flags to switch on and, behind a hyphen, flags to switch off. -/
def flagChange? (cs : List Char) : Option FlagChange := do
  let on := cs.takeWhile (· ≠ '-')
  match cs.dropWhile (· ≠ '-') with
  | [] => return { on := ← flags? on }
  | _ :: off =>
    let all ← flags? (on ++ off)
    if off.isEmpty then none
    else return { on := all.take on.length, off := all.drop on.length }

/-- A character that may begin the name of a group. -/
def beginsName (c : Char) : Bool := c = '_' || isAlphabetic c

/-- A character that may stand in the name of a group. -/
def continuesName (c : Char) : Bool :=
  c = '_' || c = '.' || c = '[' || c = ']' || isAlphanumeric c

/-- The name of a group, up to its bracket. -/
def groupName : Reader (List Char) := do
  let name := (← get).rest.takeWhile (· ≠ '>')
  expect (name ++ ['>'])
  match name with
  | c :: rest => if beginsName c ∧ rest.all continuesName then return name else failure
  | [] => failure

/-- What a parenthesis opens. -/
inductive Opening where
  | group (name : Option (List Char)) (change : FlagChange)
  /-- A change of flags for the rest of the group around it. -/
  | flags (change : FlagChange)
  deriving DecidableEq

/-- The signs that open a look around, which is refused. -/
def lookarounds : List (List Char) :=
  [['?', '='], ['?', '!'], ['?', '<', '='], ['?', '<', '!']]

/-- What stands behind an opening parenthesis and tells what it opens. -/
def opening : Reader Opening := do
  skip
  if ← lookarounds.anyM accept then failure
  else if ← [['?', 'P', '<'], ['?', '<']].anyM accept then
    return .group (some (← groupName)) {}
  else if ← accept ['?'] then
    let letters := (← get).rest.takeWhile fun c => c ≠ ':' && c ≠ ')'
    expect letters
    let change ← flagChange? letters
    if ← accept [':'] then return .group none change
    expect [')']
    if letters.isEmpty then failure else return .flags change
  else return .group none {}

/-! ### Patterns -/

/-- A part can be repeated unless it is a change of flags. -/
def isRepeatable : Regex → Bool
  | .flags _ => false
  | _ => true

/-- What stands inside a group, up to its parenthesis or the end of the pattern.  Of what
has been read, `branches` are the alternatives in front, and `parts` the parts of the
present one, the last one first in both. -/
def body : Nat → List Regex → List Regex → Reader Regex
  | 0, _, _ => failure
  | n + 1, branches, parts => do
    skip
    match ← peek with
    | none | some ')' => return .alternation (.concat parts.reverse :: branches).reverse
    | some '|' =>
      expect ['|']
      body n (.concat parts.reverse :: branches) []
    | some '(' =>
      expect ['(']
      match ← opening with
      | .flags change =>
        modify fun s => { s with verbose := change.apply .verbose s.verbose }
        body n branches (.flags change :: parts)
      | .group name change =>
        let outer := (← get).verbose
        modify ({ · with verbose := change.apply .verbose outer })
        let inner ← body n [] []
        expect [')']
        modify ({ · with verbose := outer })
        body n branches (.group name change inner :: parts)
    | some '[' =>
      expect ['[']
      let part ← bracketClass
      body n branches (part :: parts)
    | some '\x7b' => failure
    | some c =>
      if c = '?' ∨ c = '*' ∨ c = '+' then
        expect [c]
        let _ ← accept ['?']
        match parts with
        | part :: parts =>
          if isRepeatable part then body n branches (.repetition part :: parts) else failure
        | [] => failure
      else
        let part := (← primitive).toRegex
        body n branches (part :: parts)

/-- How deeply a regular expression may be nested. -/
def maximalDepth : Nat := 250

/-- The regular expression that a pattern describes. -/
def parse? (pattern : List Char) : Option Regex := do
  let (r, s) ← (body (pattern.length + 1) [] []).run { rest := pattern }
  if s.rest.isEmpty ∧ r.names.Nodup ∧ r.depth ≤ maximalDepth then some r else none

end LogicCapture.Regex
