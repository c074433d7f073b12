/-
What the program says about itself.
-/

namespace LogicCapture.Usage

/-- The name of the program. -/
def program : String := "greatfet-logic"

/-- The version of the program. -/
def version : String := "0.1.0"

/-- The line that tells the version. -/
def versionText : String := s!"{program} {version}\n"

/-- The options and what they are for. -/
def options : List (String × String) :=
  [("-c, --config <PATH>", "Path to configuration file"),
    ("    --save-config", "Save default configuration to default location and exit"),
    ("-l, --log-level <LEVEL>", "Log level (trace, debug, info, warn, error)"),
    ("    --info", "Print firmware version and serial number and exit"),
    ("-r, --sample-rate <HZ>", "Sample rate in Hz (overrides the configuration)"),
    ("-n, --channels <COUNT>", "Number of channels to capture (overrides the configuration)"),
    ("-d, --duration <SECS>", "Capture length in seconds [default: 1]"),
    ("-o, --output <PATH>", "Write raw samples to this file"),
    ("-h, --help", "Print help"),
    ("-V, --version", "Print version")]

/-- The column in which the descriptions of options begin, beyond the indent. -/
def column : Nat := 25

/-- The line of an option. -/
def optionLine (option : String × String) : String :=
  let blanks := String.ofList (List.replicate (column - option.1.length) ' ')
  s!"  {option.1}{blanks}{option.2}\n"

/-- The help text. -/
def helpText : String :=
  s!"Capture logic analyzer samples from a GreatFET\n\nUsage: {program} [OPTIONS]\n\nOptions:\n" ++
    String.join (options.map optionLine)

/-- The text for a command line that cannot be read. -/
def misuseText : String :=
  s!"Usage: {program} [OPTIONS]\n\nFor more information, try '--help'.\n"

end LogicCapture.Usage
