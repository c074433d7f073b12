/-
The configuration: how much is logged, which device is opened and how samples
are acquired.

* `Configuration`: the values with their defaults;
* `Configuration.validate`: the rules that a configuration has to keep;
* `ConfigurationError`: what can go wrong with configuration files.
-/
import LogicCapture.Files.Path
import LogicCapture.Settings

namespace LogicCapture

/-- A configuration. -/
structure Configuration where
  /-- The least important messages that are logged. -/
  logLevel : String := "info"
  vendorId : UInt16 := 0x1d50
  productId : UInt16 := 0x60e6
  acquisition : AcquisitionSettings := {}
  deriving DecidableEq

/-- A rule that a configuration breaks. -/
inductive ConfigurationFault where
  | logLevel (given : String)
  | noVendor
  | acquisition (fault : SettingsFault)
  deriving DecidableEq

/-- What goes wrong with a configuration file. -/
inductive ConfigurationError where
  /-- No file was named and none is in a usual place. -/
  | missing
  | unreadable (path : Path)
  | malformed (path : Path)
  /-- The configuration holds numbers that no file can hold. -/
  | inexpressible
  /-- A directory for the file cannot be made. -/
  | noDirectory (path : Path)
  | unwritable (path : Path)
  | invalid (fault : ConfigurationFault)
  deriving DecidableEq

namespace Configuration

/-- The log levels that a configuration may name. -/
def logLevels : List String := ["trace", "debug", "info", "warn", "error"]

/-- The first rule that a configuration breaks, if it breaks any. -/
def validate (c : Configuration) : Except ConfigurationFault Unit :=
  if c.logLevel ∉ logLevels then .error (.logLevel c.logLevel)
  else if c.vendorId = 0 then .error .noVendor
  else c.acquisition.validate.mapError .acquisition

end Configuration

/-! ### Reports -/

/-- The text of a settings fault among other errors. -/
def SettingsFault.report (fault : SettingsFault) : String := s!"Invalid settings: {fault.message}"

/-- The texts that report a broken rule, outermost first. -/
def ConfigurationFault.chain : ConfigurationFault → List String
  | logLevel given =>
    [s!"Invalid log level '{given}', must be one of: " ++
      ", ".intercalate Configuration.logLevels]
  | noVendor => ["Invalid vendor_id 0x0000"]
  | acquisition fault => ["Invalid [acquisition] settings", fault.report]

/-- The texts that report a configuration error, outermost first.  What the system
has to say about files is left out. -/
def ConfigurationError.chain : ConfigurationError → List String
  | missing => ["No configuration file found, using defaults"]
  | unreadable path => [s!"Failed to read config file: {path}"]
  | malformed path => [s!"Failed to parse config file: {path}"]
  | inexpressible => ["Failed to serialize configuration"]
  | noDirectory path => [s!"Failed to create config directory: {path}"]
  | unwritable path => [s!"Failed to write config file: {path}"]
  | invalid fault => fault.chain

end LogicCapture
