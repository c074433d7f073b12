/-
The program: what it does with a command line, the files and a USB stack.

* `Surroundings`: what the program finds when it starts;
* `Failure`: why it gives up, and `Failure.chain` what it says then;
* `Outcome`: what it leaves behind;
* `CommandLine.run`: the program.
-/
import LogicCapture.Capture
import LogicCapture.CommandLine.Arguments
import LogicCapture.CommandLine.Usage
import LogicCapture.Configuration.Store
import LogicCapture.Logging
import LogicCapture.Timespan.Seconds
import LogicCapture.Usb.DeviceLink

namespace LogicCapture

/-- What the program finds when it starts. -/
structure Surroundings where
  places : ConfigurationPlaces
  files : FileTree
  stack : HostStack
  clock : Clock

/-- Why the program gives up. -/
inductive Failure where
  | save (error : ConfigurationError)
  | load (error : ConfigurationError)
  | settings (fault : SettingsFault)
  | logging (error : SetupError)
  | connect (vendor product : UInt16) (error : UsbError)
  | duration (fault : SecondsFault)
  | output (error : FileError)
  | allocate (error : CaptureError)
  | start (error : CaptureError)
  | stream (interruption : Capture.Interruption)
  | write (error : WriteError)

/-- The texts that report why the program gives up, outermost first.  What the system
has to say about files is left out. -/
def Failure.chain : Failure → List String
  | save error => "Failed to save configuration" :: error.chain
  | load error => "Failed to load configuration" :: error.chain
  | settings fault => ["Invalid acquisition settings", fault.report]
  | logging error => ["Failed to setup logging", error.message]
  | connect vendor product error =>
    [s!"Failed to open GreatFET {hexPadded 4 vendor.toNat}:{hexPadded 4 product.toNat}",
      error.message]
  | duration fault => ["Invalid --duration", fault.message]
  | output _ => ["Failed to create output file"]
  | allocate error => "Failed to allocate streaming transfers" :: error.message :: error.causes
  | start error => "Failed to start acquisition" :: error.message :: error.causes
  | stream .ended => ["Sample stream ended unexpectedly"]
  | stream (.events error) => "USB event handling failed" :: error.message :: error.causes
  | write error => ["Failed to write samples", error.message]

/-- The report of an error with its causes, which are numbered if there are several. -/
def errorReport : List String → String
  | [] => ""
  | [outer] => s!"Error: {outer}\n"
  | [outer, cause] => s!"Error: {outer}\n\nCaused by:\n    {cause}\n"
  | outer :: causes =>
    let lines := causes.mapIdx fun i cause => s!"    {i}: {cause}\n"
    s!"Error: {outer}\n\nCaused by:\n" ++ String.join lines

/-- What a program cannot go on after. -/
inductive Breakdown where
  /-- The clock does not reach the end of a capture. -/
  | deadline
  /-- A log filter is cut in the middle of a character. -/
  | filter
  deriving DecidableEq

/-- The text that reports a breakdown. -/
def Breakdown.message : Breakdown → String
  | deadline => "overflow when adding duration to instant"
  | filter => "a log filter is cut inside a character"

/-- How the program ends. -/
inductive Conclusion where
  | success
  | failure (failure : Failure)
  /-- The command line cannot be read. -/
  | misuse
  /-- The program ends abruptly. -/
  | crash (breakdown : Breakdown)

/-- The exit code of the program. -/
def Conclusion.exitCode : Conclusion → Nat
  | success => 0
  | failure _ => 1
  | misuse => 2
  | crash _ => 101

/-- What the program prints about an end other than success. -/
def Conclusion.report : Conclusion → String
  | success => ""
  | failure f => errorReport f.chain
  | misuse => Usage.misuseText
  | crash breakdown => breakdown.message ++ "\n"

/-- What the program leaves behind. -/
structure Outcome where
  conclusion : Conclusion
  /-- What it has printed, apart from log messages. -/
  output : String := ""
  files : FileTree
  stack : HostStack

namespace CommandLine

/-! ### Configuration -/

/-- The configuration that a command line asks for: the file it names, or one in a
usual place, with the sample rate and the number of channels replaced if it gives
them. -/
def configuration (s : Surroundings) (a : Arguments) : Except ConfigurationError Configuration := do
  let c ← match a.config with
    | some path => Configuration.loadExpanded s.files s.places path
    | none => pure (Configuration.loadOrDefault s.files s.places)
  let acquisition := { c.acquisition with
    sampleRateHz := a.sampleRate.getD c.acquisition.sampleRateHz
    numChannels := a.channels.getD c.acquisition.numChannels }
  return { c with acquisition }

/-- Sets logging up. -/
def setupLogging (filter : String) : Except Conclusion Unit :=
  match Logging.setup {} filter with
  | none => .error (.crash .filter)
  | some (result, _) => result.mapError fun error => .failure (.logging error)

/-- The configuration to go on with, once all that can be checked without a device
has been checked. -/
def prepare (s : Surroundings) (a : Arguments) : Except Conclusion Configuration := do
  let c ← (configuration s a).mapError fun error => .failure (.load error)
  c.acquisition.validate.mapError fun fault => .failure (.settings fault)
  setupLogging (a.logLevel.getD c.logLevel)
  return c

/-- Writes the default configuration. -/
def saveConfiguration (s : Surroundings) : Outcome :=
  let path := s.places.file
  match Configuration.save s.files {} path with
  | (.error error, files) => { conclusion := .failure (.save error), files, stack := s.stack }
  | (.ok (), files) =>
    { conclusion := .success, output := s!"Configuration saved to: {path}\n", files
      stack := s.stack }

/-! ### The device -/

/-- A connection to the device. -/
abbrev Link := DeviceLink (Handler StreamFormat)

/-- Prints the firmware version and the serial number. -/
def printInfo (s : Surroundings) (c : Configuration) (link : Link) : Option Outcome := do
  let a : Analyzer Link (Option (FileSink FileContents)) := .new link c.acquisition none
  let (version, a) ← a.version
  let (serial, a) ← a.serialNumber
  let line (text : Option String) := text.getD "unknown"
  return {
    conclusion := .success
    output := s!"Firmware version: {line version}\nSerial number:    {line serial}\n"
    files := s.files
    stack := a.teardown.session.transport.close }

/-- The file that samples go to, made empty, with its location. -/
def openOutput (files : FileTree) :
    Option Path → Except FileError (Option Location × FileTree)
  | none => .ok (none, files)
  | some path => do
    let (location, files) ← files.create path
    return (some location, files)

/-- The files after a capture: the output file holds what was written to it. -/
def storeOutput (files : FileTree) :
    Option Location → Option (FileSink FileContents) → FileTree
  | some location, some sink => files.put location (.file sink.writer.bytes)
  | _, _ => files

/-- How the program ends after a capture, and what it prints. -/
def conclude : Capture.Ending → Conclusion × String
  | .unallocated error => (.failure (.allocate error), "")
  | .unstarted error => (.failure (.start error), "")
  | .deadlineBeyondClock => (.crash .deadline, "")
  | .streamed _ (some (.error error)) => (.failure (.write error), "")
  | .streamed result written =>
    let output := match written with
      | some (.ok bytes) => s!"Wrote {bytes.toNat} bytes of samples\n"
      | _ => ""
    match result with
    | .ok () => (.success, output)
    | .error interruption => (.failure (.stream interruption), output)

/-- Captures samples. -/
def capture (s : Surroundings) (c : Configuration) (duration : Timespan) (output : Option Path)
    (link : Link) : Option Outcome :=
  match openOutput s.files output with
  | .error error =>
    some { conclusion := .failure (.output error), files := s.files, stack := link.close }
  | .ok (location, files) => do
    let sink := location.map fun _ => ({ writer := {} } : FileSink FileContents)
    let (ending, a) ← Capture.run s.clock duration (.new link c.acquisition sink)
    let (conclusion, output) := conclude ending
    return {
      conclusion
      output
      files := storeOutput files location a.feed.sink
      stack := a.session.transport.close }

/-- What the program does with an open device. -/
def use (s : Surroundings) (a : Arguments) (c : Configuration) (link : Link) : Option Outcome :=
  if a.info then printInfo s c link
  else
    match Timespan.ofSeconds (a.duration.getD (.finite false 1 0)) with
    | .error fault =>
      some { conclusion := .failure (.duration fault), files := s.files, stack := link.close }
    | .ok duration => capture s c duration a.output link

/-! ### The program -/

/-- Carries out what a command line asks for; `none` if that takes forever. -/
def perform (s : Surroundings) (a : Arguments) : Option Outcome :=
  if a.saveConfig then some (saveConfiguration s)
  else
    match prepare s a with
    | .error conclusion => some { conclusion, files := s.files, stack := s.stack }
    | .ok c =>
      match DeviceLink.connect s.stack c.vendorId c.productId with
      | .error (error, stack) =>
        some {
          conclusion := .failure (.connect c.vendorId c.productId error)
          files := s.files
          stack }
      | .ok link => use s a c link

/-- The program; `none` if it never ends. -/
def run (s : Surroundings) (words : List String) : Option Outcome :=
  let told (conclusion : Conclusion) (output : String) : Option Outcome :=
    some { conclusion, output, files := s.files, stack := s.stack }
  match Arguments.parse words with
  | .error .help => told .success Usage.helpText
  | .error .version => told .success Usage.versionText
  | .error .misuse => told .misuse ""
  | .ok a => perform s a

end CommandLine

end LogicCapture
