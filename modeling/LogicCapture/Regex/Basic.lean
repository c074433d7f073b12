/-
Regular expressions, as far as it matters for whether they can be matched at all.

* `Regex`: the parts of a regular expression;
* `Regex.ClassSet`: the set of characters that a class in brackets describes;
* `Regex.depth`: how deeply the parts are nested;
* `Regex.names`: the names of its groups.
-/

namespace LogicCapture

namespace Regex

/-- A character that stands for itself. -/
structure Literal where
  char : Char
  /-- It is written as two hexadecimal digits, so that it may mean a byte. -/
  asByte : Bool := false
  deriving DecidableEq

/-- Beyond ASCII, bytes are not characters. -/
def Literal.isHighByte (l : Literal) : Bool := l.asByte && 0x80 ≤ l.char.toNat

/-- What a flag changes. -/
inductive Flag where
  | caseless
  | multiLine
  | dotAll
  | swapGreed
  | unicode
  | crlf
  | verbose
  deriving DecidableEq

/-- Flags that are switched on and flags that are switched off. -/
structure FlagChange where
  on : List Flag := []
  off : List Flag := []
  deriving DecidableEq

/-- The new value of a flag that had the value `old`. -/
def FlagChange.apply (change : FlagChange) (flag : Flag) (old : Bool) : Bool :=
  if change.on.contains flag then true else if change.off.contains flag then false else old

/-- A set of characters inside brackets. -/
inductive ClassSet where
  | literal (l : Literal)
  | range (first last : Literal)
  /-- A class such as `[:alpha:]`. -/
  | named (negated : Bool)
  /-- Digits, blanks or word characters: `\d`, `\s`, `\w`. -/
  | shorthand (negated : Bool)
  | bracketed (negated : Bool) (set : ClassSet)
  | union (parts : List ClassSet)
  /-- An intersection, a difference or a symmetric difference. -/
  | combined (left right : ClassSet)

end Regex

open Regex in
/-- A regular expression. -/
inductive Regex where
  | flags (change : FlagChange)
  | literal (l : Literal)
  /-- Any character. -/
  | dot
  /-- The beginning or the end of a line or of the text. -/
  | anchor
  /-- A place where a word begins or ends, or where none does. -/
  | wordBoundary
  | shorthand (negated : Bool)
  | bracketed (negated : Bool) (set : ClassSet)
  | repetition (part : Regex)
  | group (name : Option (List Char)) (change : FlagChange) (body : Regex)
  | concat (parts : List Regex)
  | alternation (branches : List Regex)

namespace Regex

/-! ### Nesting -/

/-- The depth of `n` parts side by side, the deepest of which has the depth `inner`:
a part alone is not nested in anything. -/
def depthOfParts (n inner : Nat) : Nat := if n < 2 then inner else inner + 1

mutual

/-- How deeply a set is nested. -/
def ClassSet.depth : ClassSet → Nat
  | .literal _ | .range _ _ | .named _ | .shorthand _ => 0
  | .bracketed _ set => set.depth + 1
  | .union parts => depthOfParts parts.length (ClassSet.maxDepth parts)
  | .combined left right => max left.depth right.depth + 1

/-- The depth of the deepest of some sets. -/
def ClassSet.maxDepth : List ClassSet → Nat
  | [] => 0
  | part :: rest => max part.depth (ClassSet.maxDepth rest)

end

mutual

/-- How deeply a regular expression is nested. -/
def depth : Regex → Nat
  | .flags _ | .literal _ | .dot | .anchor | .wordBoundary | .shorthand _ => 0
  | .bracketed _ set => set.depth + 1
  | .repetition part => part.depth + 1
  | .group _ _ body => body.depth + 1
  | .concat parts => depthOfParts parts.length (maxDepth parts)
  | .alternation branches => depthOfParts branches.length (maxDepth branches)

/-- The depth of the deepest of some regular expressions. -/
def maxDepth : List Regex → Nat
  | [] => 0
  | part :: rest => max part.depth (maxDepth rest)

end

/-! ### Groups -/

mutual

/-- The names of the groups. -/
def names : Regex → List (List Char)
  | .flags _ | .literal _ | .dot | .anchor | .wordBoundary | .shorthand _ | .bracketed _ _ => []
  | .repetition part => part.names
  | .group name _ body => name.toList ++ body.names
  | .concat parts => allNames parts
  | .alternation branches => allNames branches

/-- The names of the groups in some regular expressions. -/
def allNames : List Regex → List (List Char)
  | [] => []
  | part :: rest => part.names ++ allNames rest

end

end Regex

end LogicCapture
