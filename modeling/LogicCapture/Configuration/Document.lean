/-
A configuration as a TOML document: tables `logging`, `device` and
`acquisition`, in which everything may be left out.

* `Toml.Value.fields?`: the fields of a record, which is a table, or an array of
  its fields in order;
* `Configuration.ofTable?`, `Configuration.ofText?`: reading, where what is left
  out takes its default;
* `Configuration.sections`, `Configuration.text?`: writing.
-/
import LogicCapture.Configuration
import LogicCapture.Toml.Parser
import LogicCapture.Toml.Printer

namespace LogicCapture

/-! ### Records -/

namespace Toml.Value

/-- The fields of a record with these keys, each if it is given.  Keys of other
names, and elements beyond the last key, mean nothing.  A date reads as a record
in which no key is known. -/
def fields? (keys : List String) : Value → Option (List (Option Value))
  | .table entries => some (keys.map fun key => get? entries key)
  | .array elements => some (keys.mapIdx fun i _ => elements[i]?)
  | .datetime _ => some (keys.map fun _ => none)
  | _ => none

/-- A string. -/
def string? : Value → Option String
  | .string text => some text
  | _ => none

/-- An integer that is not negative and less than `bound`. -/
def nat? (bound : Nat) : Value → Option Nat
  | .integer (.ofNat n) => if n < bound then some n else none
  | _ => none

end Toml.Value

/-- Reads a field if it is given; else it has its default. -/
def fieldOr {α : Type} (default : α) (read : Toml.Value → Option α) :
    Option Toml.Value → Option α
  | none => some default
  | some value => read value

open Toml (Value)

/-! ### Reading -/

/-- The keys of acquisition settings. -/
def AcquisitionSettings.keys : List String :=
  ["sample_rate_hz", "num_channels", "transfer_pool_size", "transfer_buffer_size",
    "command_timeout_ms", "stop_timeout_ms"]

/-- Reads acquisition settings. -/
def AcquisitionSettings.ofValue? (value : Value) : Option AcquisitionSettings := do
  let long := fun (default : Nat) => fieldOr default (Value.nat? UInt64.size)
  let d : AcquisitionSettings := {}
  match ← value.fields? keys with
  | [rate, channels, poolSize, bufferSize, command, stop] =>
    return {
      sampleRateHz := ← long d.sampleRateHz rate
      numChannels := .ofNat (← fieldOr d.numChannels.toNat (Value.nat? UInt8.size) channels)
      transferPoolSize := ← long d.transferPoolSize poolSize
      transferBufferSize := ← long d.transferBufferSize bufferSize
      commandTimeoutMs := ← long d.commandTimeoutMs command
      stopTimeoutMs := ← long d.stopTimeoutMs stop }
  | _ => none

namespace Configuration

/-- The keys of the logging table. -/
def loggingKeys : List String := ["level"]

/-- The keys of the device table. -/
def deviceKeys : List String := ["vendor_id", "product_id"]

/-- Reads the log level out of a logging record. -/
def levelOf? (value : Value) : Option String := do
  match ← value.fields? loggingKeys with
  | [level] => fieldOr ({} : Configuration).logLevel Value.string? level
  | _ => none

/-- Reads vendor and product out of a device record. -/
def deviceOf? (value : Value) : Option (UInt16 × UInt16) := do
  let id := fun (default : UInt16) => fieldOr default.toNat (Value.nat? UInt16.size)
  match ← value.fields? deviceKeys with
  | [vendor, product] =>
    let d : Configuration := {}
    return (.ofNat (← id d.vendorId vendor), .ofNat (← id d.productId product))
  | _ => none

/-- Reads a configuration out of a document's tables. -/
def ofTable? (entries : List (String × Value)) : Option Configuration := do
  let d : Configuration := {}
  let level ← fieldOr d.logLevel levelOf? (Value.get? entries "logging")
  let (vendor, product) ← fieldOr (d.vendorId, d.productId) deviceOf? (Value.get? entries "device")
  let acquisition ← fieldOr d.acquisition AcquisitionSettings.ofValue?
    (Value.get? entries "acquisition")
  return ⟨level, vendor, product, acquisition⟩

/-- Reads a configuration out of a document. -/
def ofText? (text : List Char) : Option Configuration := do
  ofTable? (← Toml.parse? text)

/-! ### Writing -/

/-- The tables of a configuration. -/
def sections (c : Configuration) : List Toml.Section :=
  let s := c.acquisition
  [⟨"logging", loggingKeys.zip [.string c.logLevel]⟩,
    ⟨"device", deviceKeys.zip [.integer c.vendorId.toNat, .integer c.productId.toNat]⟩,
    ⟨"acquisition", AcquisitionSettings.keys.zip
      [.integer s.sampleRateHz, .integer s.numChannels.toNat, .integer s.transferPoolSize,
        .integer s.transferBufferSize, .integer s.commandTimeoutMs, .integer s.stopTimeoutMs]⟩]

/-- The document of a configuration, unless a number is too large for one. -/
def text? (c : Configuration) : Option String :=
  (Toml.render? c.sections).map String.ofList

end Configuration

end LogicCapture
