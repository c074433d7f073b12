/-
The arguments of the command line.

* `Arguments`: what the arguments ask for;
* `Arguments.Choice`: the options that take a value, and `Arguments.set` what
  their values mean;
* `Arguments.parse`: reads the words of a command line; `Arguments.Stop` says
  what else they may come to.
-/
import LogicCapture.Files.Path
import LogicCapture.Text.Binary64

namespace LogicCapture

/-- What a command line asks for. -/
structure Arguments where
  config : Option Path := none
  saveConfig : Bool := false
  logLevel : Option String := none
  info : Bool := false
  sampleRate : Option Nat := none
  channels : Option UInt8 := none
  /-- The length of the capture in seconds. -/
  duration : Option Binary64 := none
  output : Option Path := none
  deriving DecidableEq

namespace Arguments

/-- Why nothing is to be run. -/
inductive Stop where
  | help
  | version
  /-- The words are no command line of this program. -/
  | misuse
  deriving DecidableEq

/-- An option that takes a value. -/
inductive Choice where
  | config
  | logLevel
  | sampleRate
  | channels
  | duration
  | output
  deriving DecidableEq

/-- An option that takes none. -/
inductive Flag where
  | saveConfig
  | info
  | help
  | version
  deriving DecidableEq

/-- An option of the program. -/
inductive Name where
  | choice (choice : Choice)
  | flag (flag : Flag)
  deriving DecidableEq

/-- The option with a long name. -/
def longName? : String → Option Name
  | "config" => some (.choice .config)
  | "save-config" => some (.flag .saveConfig)
  | "log-level" => some (.choice .logLevel)
  | "info" => some (.flag .info)
  | "sample-rate" => some (.choice .sampleRate)
  | "channels" => some (.choice .channels)
  | "duration" => some (.choice .duration)
  | "output" => some (.choice .output)
  | "help" => some (.flag .help)
  | "version" => some (.flag .version)
  | _ => none

/-- The option with a short name. -/
def shortName? : Char → Option Name
  | 'c' => some (.choice .config)
  | 'l' => some (.choice .logLevel)
  | 'r' => some (.choice .sampleRate)
  | 'n' => some (.choice .channels)
  | 'd' => some (.choice .duration)
  | 'o' => some (.choice .output)
  | 'h' => some (.flag .help)
  | 'V' => some (.flag .version)
  | _ => none

/-! ### Values -/

/-- Digits after an optional plus sign, as a number below `bound`. -/
def natBelow? (bound : Nat) (value : String) : Option Nat :=
  let digits := match value.toList with
    | '+' :: digits => digits
    | digits => digits
  if digits.isEmpty ∨ digits.any (!·.isDigit) then none
  else
    let n := Binary64.decimalDigits digits
    if n < bound then some n else none

/-- A number of channels, where zero may have a minus sign. -/
def channels? (value : String) : Option UInt8 :=
  match value.toList with
  | '-' :: digits =>
    if !digits.isEmpty ∧ digits.all (· = '0') then some 0 else none
  | _ => (natBelow? UInt8.size value).map UInt8.ofNat

/-- A value for what has none yet; an option may not be given twice. -/
def once {α : Type} (old : Option α) (new : Option α) : Except Stop (Option α) :=
  match old, new with
  | none, some value => .ok (some value)
  | _, _ => .error .misuse

/-- The arguments with the value of an option. -/
def set (a : Arguments) (choice : Choice) (value : String) : Except Stop Arguments :=
  match choice with
  | .config => do return { a with config := ← once a.config (some value) }
  | .logLevel => do return { a with logLevel := ← once a.logLevel (some value) }
  | .sampleRate => do
    return { a with sampleRate := ← once a.sampleRate (natBelow? UInt64.size value) }
  | .channels => do return { a with channels := ← once a.channels (channels? value) }
  | .duration => do return { a with duration := ← once a.duration (Binary64.parse? value) }
  | .output => do
    return { a with output := ← once a.output (if value = "" then none else some value) }

/-- The arguments with a flag. -/
def raise (a : Arguments) : Flag → Except Stop Arguments
  | .saveConfig => if a.saveConfig then .error .misuse else .ok { a with saveConfig := true }
  | .info => if a.info then .error .misuse else .ok { a with info := true }
  | .help => .error .help
  | .version => .error .version

/-! ### Words -/

/-- A word that names options rather than being a value. -/
def namesOption (word : String) : Bool := word.toList.head? = some '-' && word ≠ "-"

/-- An option as a word gives it, perhaps with a value in the same word. -/
inductive Given where
  | flag (flag : Flag)
  | choice (choice : Choice) (value : Option String)
  deriving DecidableEq

/-- The option that a word gives, if it gives one.  A value follows a long name
behind an equals sign, and a short name directly or behind one. -/
def given? (word : String) : Option Given :=
  match word.toList with
  | '-' :: '-' :: rest =>
    let value := match rest.dropWhile (· ≠ '=') with
      | _ :: value => some (String.ofList value)
      | [] => none
    match longName? (String.ofList (rest.takeWhile (· ≠ '='))), value with
    | some (.flag flag), none => some (.flag flag)
    | some (.choice choice), value => some (.choice choice value)
    | _, _ => none
  | '-' :: letter :: rest =>
    match shortName? letter, rest with
    | some (.flag flag), _ => some (.flag flag)
    | some (.choice choice), [] => some (.choice choice none)
    | some (.choice choice), '=' :: value => some (.choice choice (some (String.ofList value)))
    | some (.choice choice), value => some (.choice choice (some (String.ofList value)))
    | none, _ => none
  | _ => none

/-- Reads the words from the left; what stops the program first decides.  After
`--` no more words may come. -/
def parseFrom (a : Arguments) : List String → Except Stop Arguments
  | [] => .ok a
  | ["--"] => .ok a
  | word :: rest =>
    match given? word with
    | none => .error .misuse
    | some (.flag flag) => do parseFrom (← a.raise flag) rest
    | some (.choice choice (some value)) => do parseFrom (← a.set choice value) rest
    | some (.choice choice none) =>
      match rest with
      | [] => .error .misuse
      | value :: rest =>
        if namesOption value then .error .misuse
        else do parseFrom (← a.set choice value) rest

/-- Reads the words of a command line. -/
def parse (words : List String) : Except Stop Arguments := parseFrom {} words

end Arguments

end LogicCapture
