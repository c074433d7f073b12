/-
Reading a document that gives some of the fields of a configuration.

* `Given`: fields of a configuration of which each may be given, `Given.filledBy`: a configuration
  in which they replace the others;
* `Gives`, `Given.In`: the tables of a document give just these fields, in any order and among
  others of which nothing is known;
* `fieldOr_natural`: a number that is given replaces the default;
* `ofTable?_of_given`: such a document is read as the default configuration with these fields
  replaced.
-/
import LogicCapture.Configuration.Document
import Mathlib.Tactic.Common

namespace LogicCapture

open Toml (Value)

/-! ### Fields that are given -/

/-- The fields of a configuration, of which each may be given. -/
structure Given where
  logLevel : Option String := none
  vendorId : Option UInt16 := none
  productId : Option UInt16 := none
  sampleRateHz : Option UInt64 := none
  numChannels : Option UInt8 := none
  transferPoolSize : Option UInt64 := none
  transferBufferSize : Option UInt64 := none
  commandTimeoutMs : Option UInt64 := none
  stopTimeoutMs : Option UInt64 := none

/-- A table of a document gives just the fields that have a value here.  The table may be left
out, which gives none, and may hold other fields, in any order. -/
inductive Gives (entries : List (String × Value)) (name : String)
    (fields : List (String × Option Value)) : Prop where
  | absent (out : Value.get? entries name = none) (none_given : ∀ field ∈ fields, field.2 = none)
  | table (inner : List (String × Value)) (is_there : Value.get? entries name = some (.table inner))
    (as_given : ∀ field ∈ fields, Value.get? inner field.1 = field.2)

namespace Given

/-- The configuration with just the given fields replaced. -/
def filledBy (g : Given) (c : Configuration) : Configuration where
  logLevel := g.logLevel.getD c.logLevel
  vendorId := g.vendorId.getD c.vendorId
  productId := g.productId.getD c.productId
  acquisition :=
    { sampleRateHz := (g.sampleRateHz.map UInt64.toNat).getD c.acquisition.sampleRateHz
      numChannels := g.numChannels.getD c.acquisition.numChannels
      transferPoolSize := (g.transferPoolSize.map UInt64.toNat).getD c.acquisition.transferPoolSize
      transferBufferSize :=
        (g.transferBufferSize.map UInt64.toNat).getD c.acquisition.transferBufferSize
      commandTimeoutMs := (g.commandTimeoutMs.map UInt64.toNat).getD c.acquisition.commandTimeoutMs
      stopTimeoutMs := (g.stopTimeoutMs.map UInt64.toNat).getD c.acquisition.stopTimeoutMs }

/-- A number as a value of a document. -/
def natural (n : Nat) : Value := .integer n

/-- The fields of the logging table. -/
def logging (g : Given) : List (String × Option Value) :=
  Configuration.loggingKeys.zip [g.logLevel.map .string]

/-- The fields of the device table. -/
def device (g : Given) : List (String × Option Value) :=
  Configuration.deviceKeys.zip
    [g.vendorId.map fun n => natural n.toNat, g.productId.map fun n => natural n.toNat]

/-- The fields of the acquisition table. -/
def acquisition (g : Given) : List (String × Option Value) :=
  AcquisitionSettings.keys.zip
    [g.sampleRateHz.map fun n => natural n.toNat, g.numChannels.map fun n => natural n.toNat,
      g.transferPoolSize.map fun n => natural n.toNat,
      g.transferBufferSize.map fun n => natural n.toNat,
      g.commandTimeoutMs.map fun n => natural n.toNat,
      g.stopTimeoutMs.map fun n => natural n.toNat]

/-- The document gives just these fields, in their tables. -/
structure In (g : Given) (entries : List (String × Value)) : Prop where
  logging : Gives entries "logging" g.logging
  device : Gives entries "device" g.device
  acquisition : Gives entries "acquisition" g.acquisition

end Given

/-! ### Reading fields -/

/-- The fields of a table in the order of the keys. -/
lemma fields?_table {keys : List String} {values : List (Option Value)}
    {inner : List (String × Value)} (h : keys.length = values.length)
    (as_given : ∀ field ∈ keys.zip values, Value.get? inner field.1 = field.2) :
    Value.fields? keys (.table inner) = some values := by
  have hvalues : keys.map (Value.get? inner) = values := by
    calc
      keys.map (Value.get? inner) = ((keys.zip values).map Prod.fst).map (Value.get? inner) := by
        rw [List.map_fst_zip (Nat.le_of_eq h)]
      _ = (keys.zip values).map Prod.snd := by
        rw [List.map_map]
        exact List.map_congr_left as_given
      _ = values := List.map_snd_zip (Nat.le_of_eq h.symm)
  exact congrArg some hvalues

/-- A number that is given replaces the default. -/
lemma fieldOr_natural {α : Type} {bound : Nat} {toNat : α → Nat} (range : ∀ a, toNat a < bound)
    (default : Nat) (given : Option α) :
    fieldOr default (Value.nat? bound) (given.map fun a => Given.natural (toNat a)) =
      some ((given.map toNat).getD default) := by
  cases given with
  | none => rfl
  | some a => exact if_pos (range a)

lemma fieldOr_string (default : String) (given : Option String) :
    fieldOr default Value.string? (given.map .string) = some (given.getD default) := by
  cases given <;> rfl

variable {g : Given} {entries : List (String × Value)}

namespace Configuration

lemma levelOf?_of_given (h : Gives entries "logging" g.logging) :
    fieldOr ({} : Configuration).logLevel levelOf? (Value.get? entries "logging") =
      some (g.filledBy {}).logLevel := by
  cases h with
  | absent out none_given =>
    have hnone : g.logLevel = none := by
      simpa [Given.logging, loggingKeys] using none_given
    simp [out, fieldOr, Given.filledBy, hnone]
  | table inner is_there as_given =>
    have hfields := fields?_table (by rfl) as_given
    simp only [is_there, fieldOr, levelOf?, hfields]
    exact fieldOr_string _ g.logLevel

lemma deviceOf?_of_given (h : Gives entries "device" g.device) :
    fieldOr (({} : Configuration).vendorId, ({} : Configuration).productId) deviceOf?
        (Value.get? entries "device") =
      some ((g.filledBy {}).vendorId, (g.filledBy {}).productId) := by
  cases h with
  | absent out none_given =>
    have hnone : g.vendorId = none ∧ g.productId = none := by
      simpa [Given.device, deviceKeys] using none_given
    simp [out, fieldOr, Given.filledBy, hnone]
  | table inner is_there as_given =>
    have hfields := fields?_table (by rfl) as_given
    have hid (default : UInt16) (given : Option UInt16) :
        fieldOr default.toNat (Value.nat? UInt16.size) (given.map fun n => Given.natural n.toNat) =
          some ((given.map UInt16.toNat).getD default.toNat) :=
      fieldOr_natural UInt16.toNat_lt _ _
    have hback (default : UInt16) (given : Option UInt16) :
        UInt16.ofNat ((given.map UInt16.toNat).getD default.toNat) = given.getD default := by
      cases given <;> simp
    rw [is_there]
    change deviceOf? (.table inner) = _
    simp only [deviceOf?, hfields, Option.bind_eq_bind, Option.bind_some, hid, hback,
      Option.pure_def]
    rfl

end Configuration

lemma acquisition_of_given (h : Gives entries "acquisition" g.acquisition) :
    fieldOr ({} : Configuration).acquisition AcquisitionSettings.ofValue?
        (Value.get? entries "acquisition") = some (g.filledBy {}).acquisition := by
  cases h with
  | absent out none_given =>
    have hnone : g.sampleRateHz = none ∧ g.numChannels = none ∧ g.transferPoolSize = none ∧
        g.transferBufferSize = none ∧ g.commandTimeoutMs = none ∧ g.stopTimeoutMs = none := by
      simpa [Given.acquisition, AcquisitionSettings.keys] using none_given
    simp [out, fieldOr, Given.filledBy, hnone]
  | table inner is_there as_given =>
    have hfields := fields?_table (by rfl) as_given
    have hlong (default : Nat) (given : Option UInt64) :
        fieldOr default (Value.nat? UInt64.size) (given.map fun n => Given.natural n.toNat) =
          some ((given.map UInt64.toNat).getD default) :=
      fieldOr_natural UInt64.toNat_lt _ _
    have hchannels (default : UInt8) (given : Option UInt8) :
        fieldOr default.toNat (Value.nat? UInt8.size) (given.map fun n => Given.natural n.toNat) =
          some ((given.map UInt8.toNat).getD default.toNat) :=
      fieldOr_natural UInt8.toNat_lt _ _
    have hback (default : UInt8) (given : Option UInt8) :
        UInt8.ofNat ((given.map UInt8.toNat).getD default.toNat) = given.getD default := by
      cases given <;> simp
    rw [is_there]
    change AcquisitionSettings.ofValue? (.table inner) = _
    simp only [AcquisitionSettings.ofValue?, hfields, Option.bind_eq_bind, Option.bind_some, hlong,
      hchannels, hback, Option.pure_def]
    rfl

/-- **A document that gives some fields is read as the default configuration with these fields
replaced**, whatever else is in it. -/
theorem Configuration.ofTable?_of_given (h : g.In entries) :
    ofTable? entries = some (g.filledBy {}) := by
  simp only [ofTable?, levelOf?_of_given h.logging, deviceOf?_of_given h.device,
    acquisition_of_given h.acquisition, Option.bind_eq_bind, Option.bind_some]
  rfl

end LogicCapture
