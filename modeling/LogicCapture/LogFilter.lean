/-
Filters that say which log messages are wanted: directives with commas between
them, such as `info`, `usb=debug` or `[span{field=value}]=trace`.

* `LogFilter.isLevel`: the names and numbers of log levels;
* `LogFilter.checkField`: what may be asked of the field of a span;
* `LogFilter.State`, `LogFilter.step`: a machine that reads one directive;
* `LogFilter.check`: whether a text is a filter, and if not, why.
-/
import LogicCapture.Regex.Fault
import LogicCapture.Text.Binary64

namespace LogicCapture

/-- Why a text is not a log filter. -/
inductive LogFilterFault where
  /-- A directive does not have the form of one. -/
  | directive
  /-- What a directive gives as its level is none. -/
  | level
  /-- The value that a field is compared with is a pattern that cannot be matched. -/
  | field (fault : RegexFault)
  deriving DecidableEq

/-- The text that reports why a filter is refused. -/
def LogFilterFault.message : LogFilterFault → String
  | directive => "invalid filter directive"
  | level => "error parsing level filter: expected one of \"off\", \"error\", \"warn\", " ++
      "\"info\", \"debug\", \"trace\", or a number 0-5"
  | field fault => s!"invalid field filter: {fault.message}"

namespace LogFilter

/-! ### Levels -/

/-- The names of the levels. -/
def levelNames : List String := ["off", "error", "warn", "info", "debug", "trace"]

/-- A number from 0 to 5, perhaps with a plus sign. -/
def isLevelNumber (cs : List Char) : Bool :=
  let digits := match cs with
    | '+' :: digits => digits
    | digits => digits
  !digits.isEmpty && digits.all Char.isDigit &&
    digits.foldl (fun n c => 10 * n + (c.toNat - '0'.toNat)) 0 ≤ 5

/-- A level: a number, or a name in letters of either case. -/
def isLevel (cs : List Char) : Bool :=
  isLevelNumber cs || levelNames.contains (String.ofList (cs.map Char.toLower))

/-! ### Pieces of a directive -/

/-- Reading a filter comes to an end, with a fault or without one, or breaks off where a
character would have to be cut in two. -/
abbrev Reading := ExceptT LogFilterFault Option

/-- The first `n` bytes of a text and the others, if the cut is between characters. -/
def splitAtByte : Nat → List Char → Option (List Char × List Char)
  | 0, cs => some ([], cs)
  | _ + 1, [] => none
  | n + 1, c :: rest => do
    if n + 1 < c.utf8Size then none
    else
      let (front, back) ← splitAtByte (n + 1 - c.utf8Size) rest
      return (c :: front, back)

/-- The text from byte `start` on. -/
def fromByte (cs : List Char) (start : Nat) : Reading (List Char) :=
  ExceptT.lift do return (← splitAtByte start cs).2

/-- The text from byte `start` up to byte `stop`. -/
def slice (cs : List Char) (start stop : Nat) : Reading (List Char) :=
  ExceptT.lift do return (← splitAtByte (stop - start) (← splitAtByte start cs).2).1

/-! ### Fields -/

/-- The value that a field is compared with: what stands behind an equality sign, up to
another one. -/
def fieldValue? (cs : List Char) : Option (List Char) :=
  match cs.dropWhile (· ≠ '=') with
  | [] => none
  | _ :: value => some (value.takeWhile (· ≠ '='))

/-- Truth values and numbers are compared as such. -/
def isPlainValue (cs : List Char) : Bool :=
  let text := String.ofList cs
  text = "true" || text = "false" || (Binary64.parse? text).isSome

/-- Checks a field; other values than plain ones are patterns. -/
def checkField (cs : List Char) : Except RegexFault Unit :=
  match fieldValue? cs with
  | none => .ok ()
  | some value => if isPlainValue value then .ok () else Regex.check value

/-! ### Directives -/

/-- Where the reading of a directive stands. -/
inductive State where
  | start
  /-- In what is a target or a level. -/
  | target
  /-- In the name of a span, which begins at this byte. -/
  | span (start : Nat)
  /-- In a field of a span, which begins at this byte. -/
  | field (start : Nat)
  /-- Behind the fields of a span. -/
  | fields
  /-- Behind a span. -/
  | closed
  /-- In the level, which begins at this byte. -/
  | level (start : Nat)
  deriving DecidableEq

/-- A character that a directive may begin with, other than a bracket. -/
def opensTarget (c : Char) : Bool :=
  c = '-' || c = ':' || c = '_' || Text.isAlphanumeric c

/-- Reads one character, the one at byte `i`.  What it ends is cut out of `whole`. -/
def step (whole : List Char) : State → Nat → Char → Reading State
  | .start, i, c =>
    if c = '[' then return .span (i + 1)
    else if opensTarget c then return .target
    else throw .directive
  | .target, i, c => do
    if c = '=' then
      let _target ← slice whole 0 i
      return .level (i + 1)
    else if c = '[' then
      let _target ← slice whole 0 i
      return .span (i + 1)
    else return .target
  | .span start, i, c => do
    if c = ']' then
      let _name ← slice whole start i
      return .closed
    else if c = '\x7b' then
      let _name ← slice whole start i
      return .field (i + 1)
    else return .span start
  | .field start, i, c => do
    if c = '\x7d' then
      let field ← slice whole start i
      if field.isEmpty then throw .directive
      ExceptT.mk (some ((checkField field).mapError .field))
      return .fields
    else return .field start
  | .fields, _, c => if c = ']' then return .closed else throw .directive
  | .closed, i, c => if c = '=' then return .level (i + 1) else throw .directive
  | .level start, _, _ => return .level start

/-- Reads the characters from byte `i` on. -/
def run (whole : List Char) : State → Nat → List Char → Reading State
  | state, _, [] => return state
  | state, i, c :: rest => do run whole (← step whole state i c) (i + c.utf8Size) rest

/-- Checks one directive.  It is read without the white space around it, but its parts
are cut out of the text with that space, at the bytes where they were found. -/
def checkDirective (cs : List Char) : Reading Unit := do
  match ← run cs .start 0 (Text.trimmed cs) with
  | .target | .closed => return ()
  | .level start =>
    let level ← fromByte cs start
    if level.isEmpty || isLevel level then return () else throw .level
  | _ => throw .directive

/-- The pieces of a text between its commas. -/
def pieces (cs : List Char) : List (List Char) := cs.splitOn ','

/-- Checks a filter; empty directives are skipped. -/
def check (filter : String) : Reading Unit :=
  ((pieces filter.toList).filter fun piece => !piece.isEmpty).forM checkDirective

end LogFilter

end LogicCapture
