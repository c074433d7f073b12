/-
The script of a USB stack as lines of words.  `HostStack.Cue.parse?` reads a
line, `HostStack.cue` follows it.
-/
import LogicCapture.Usb.HostStack

namespace LogicCapture.HostStack

/-- The calls whose return codes a script queues. -/
inductive Queue where
  | alloc
  | submit
  | cancel
  | claim
  | release
  | event
  deriving DecidableEq

/-- A line of a script. -/
inductive Cue where
  | device (vendor product : UInt16)
  | init (code : Int)
  | autoDetach (code : Int)
  | codes (queue : Queue) (codes : List Int)
  /-- The answer to the next control transfer; `none` never comes. -/
  | control (reply : Option Reply)
  /-- The answer to the next bulk transfer to complete. -/
  | bulk (reply : Reply)
  /-- The completions of the next event pass. -/
  | arrivals (arrivals : List Arrival)
  deriving DecidableEq

namespace Cue

/-- The number that a word of decimal digits spells. -/
def natural? (word : List Char) : Option Nat :=
  if word.isEmpty then none
  else word.foldlM (fun n c => if c.isDigit then some (10 * n + (c.toNat - '0'.toNat)) else none) 0

/-- The integer that a word spells. -/
def integer? (word : String) : Option Int :=
  match word.toList with
  | '-' :: digits => (natural? digits).map fun n => -(n : Int)
  | digits => (natural? digits).map fun n => (n : Int)

/-- The 16-bit id that a word spells. -/
def deviceId? (word : String) : Option UInt16 := (natural? word.toList).map UInt16.ofNat

/-- The reply that the words after its kind describe. -/
def reply? : List String → Option Reply
  | [status, actual] => do
    return { status := ← integer? status, actual := ← actual? actual }
  | [status, actual, "-"] => do
    return { status := ← integer? status, actual := ← actual? actual }
  | [status, actual, data] => do
    return {
      status := ← integer? status
      actual := ← actual? actual
      data := ← bytesOfHex? data.toList }
  | _ => none
where
  /-- A reported length, or `-` where none is given. -/
  actual? (word : String) : Option (Option Int) :=
    if word = "-" then some none else (integer? word).map some

/-- The queue that a word names. -/
def queue? : String → Option Queue
  | "alloc" => some .alloc
  | "submit" => some .submit
  | "cancel" => some .cancel
  | "claim" => some .claim
  | "release" => some .release
  | "event" => some .event
  | _ => none

/-- Reads a line of a script. -/
def parse? (line : String) : Option Cue :=
  match line.splitOn " " with
  | ["device", vendor, product] => return .device (← deviceId? vendor) (← deviceId? product)
  | ["init", code] => return .init (← integer? code)
  | ["auto_detach", code] => return .autoDetach (← integer? code)
  | ["control", "hang"] => return .control none
  | "control" :: words => return .control (some (← reply? words))
  | "bulk" :: words => return .bulk (← reply? words)
  | word :: words => return .codes (← queue? word) (← words.mapM integer?)
  | [] => none

end Cue

/-- The stack with more codes in a queue. -/
def enqueue (s : HostStack) (codes : List Int) : Queue → HostStack
  | .alloc => { s with allocCodes := s.allocCodes ++ codes }
  | .submit => { s with submitCodes := s.submitCodes ++ codes }
  | .cancel => { s with cancelCodes := s.cancelCodes ++ codes }
  | .claim => { s with claimCodes := s.claimCodes ++ codes }
  | .release => { s with releaseCodes := s.releaseCodes ++ codes }
  | .event => { s with eventCodes := s.eventCodes ++ codes }

/-- The stack with one more line in its script. -/
def cue (s : HostStack) : Cue → HostStack
  | .device vendor product => { s with devices := s.devices ++ [(vendor, product)] }
  | .init code => { s with initCode := code }
  | .autoDetach code => { s with autoDetachCode := code }
  | .codes queue codes => s.enqueue codes queue
  | .control reply => { s with controlReplies := s.controlReplies ++ [reply] }
  | .bulk reply => { s with bulkReplies := s.bulkReplies ++ [reply] }
  | .arrivals arrivals => { s with arrivals := s.arrivals ++ [arrivals] }

/-- The stack with a line of text added to its script; other lines change nothing. -/
def feed (s : HostStack) (line : String) : HostStack :=
  match Cue.parse? line with
  | some cue => s.cue cue
  | none => s

end LogicCapture.HostStack
