/-
Whether a regular expression can be matched by an automaton over UTF-8 bytes that is
built without tables of Unicode properties.

* `Regex.Modes`: the flags that this depends on;
* `Regex.ClassSet.isSupported`, `Regex.survey`: what such an automaton supports;
* `Regex.check`: whether a pattern can be matched, and if not, why.
-/
import LogicCapture.Regex.Parser

namespace LogicCapture

/-- Why a pattern cannot be matched. -/
inductive RegexFault where
  /-- It is no regular expression, or needs tables, or matches bytes that are not UTF-8. -/
  | automaton
  /-- Where words begin and end is asked for, in any script. -/
  | wordBoundary
  deriving DecidableEq

/-- The text that reports why a pattern cannot be matched. -/
def RegexFault.message : RegexFault → String
  | automaton => "error building NFA"
  | wordBoundary => "unsupported regex feature for DFAs: " ++
      "cannot build DFAs for regexes with Unicode word boundaries; " ++
      "switch to ASCII word boundaries, or heuristically enable Unicode word boundaries " ++
      "or use a different regex engine"

namespace Regex

/-- The flags in force at a place in a regular expression. -/
structure Modes where
  /-- Capital and small letters are the same. -/
  caseless : Bool := false
  /-- Characters are matched, not bytes. -/
  unicode : Bool := true
  deriving DecidableEq

/-- The flags in force behind a change. -/
def Modes.apply (m : Modes) (change : FlagChange) : Modes where
  caseless := change.apply .caseless m.caseless
  unicode := change.apply .unicode m.unicode

/-! ### Classes -/

/-- A character in a class: among characters its other case would have to be looked up,
and among bytes it has to be one. -/
def Literal.isSupportedInClass (m : Modes) (l : Literal) : Bool :=
  if m.unicode then !m.caseless else l.char.toNat < 0x80

mutual

/-- Sets are supported where no properties have to be looked up; among bytes, those
that do not reach beyond ASCII. -/
def ClassSet.isSupported (m : Modes) : ClassSet → Bool
  | .literal l => l.isSupportedInClass m
  | .range first last => first.isSupportedInClass m && last.isSupportedInClass m
  | .named negated => if m.unicode then !m.caseless else !negated
  | .shorthand negated => !m.unicode && !negated
  | .bracketed negated set => (m.unicode || !negated) && set.isSupported m
  | .union parts => ClassSet.areSupported m parts
  | .combined left right => left.isSupported m && right.isSupported m

/-- All of some sets are supported. -/
def ClassSet.areSupported (m : Modes) : List ClassSet → Bool
  | [] => true
  | part :: rest => part.isSupported m && ClassSet.areSupported m rest

end

/-! ### Regular expressions -/

/-- A character outside classes is supported unless its other case would have to be
looked up, or it is a byte that is not ASCII. -/
def Literal.isSupported (m : Modes) (l : Literal) : Bool :=
  if m.unicode then !m.caseless else !l.isHighByte

/-- What is known of a regular expression that has been read from its beginning up to
some place. -/
structure Survey where
  modes : Modes := {}
  /-- There was a word boundary that is one in any script. -/
  wordBoundary : Bool := false
  deriving DecidableEq

mutual

/-- Goes over a regular expression from left to right; `none` if something in it is not
supported. -/
def survey (s : Survey) : Regex → Option Survey
  | .flags change => some { s with modes := s.modes.apply change }
  | .literal l => if l.isSupported s.modes then some s else none
  | .dot => if s.modes.unicode then some s else none
  | .anchor => some s
  | .wordBoundary => some { s with wordBoundary := s.wordBoundary || s.modes.unicode }
  | .shorthand negated => if !s.modes.unicode && !negated then some s else none
  | .bracketed negated set =>
    if (s.modes.unicode || !negated) && set.isSupported s.modes then some s else none
  | .repetition part => survey s part
  | .group _ change body => do
    let inner ← survey { s with modes := s.modes.apply change } body
    return { inner with modes := s.modes }
  | .concat parts => surveyAll s parts
  | .alternation branches => surveyAll s branches

/-- Goes over some regular expressions one after the other. -/
def surveyAll (s : Survey) : List Regex → Option Survey
  | [] => some s
  | part :: rest => do surveyAll (← survey s part) rest

end

/-- Checks a pattern. -/
def check (pattern : List Char) : Except RegexFault Unit :=
  match (parse? pattern).bind (survey {}) with
  | none => .error .automaton
  | some s => if s.wordBoundary then .error .wordBoundary else .ok ()

end Regex

end LogicCapture
