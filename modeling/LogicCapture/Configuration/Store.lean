/-
Configuration files: where they are, and reading and writing them.

* `ConfigurationPlaces`: the directories of the user;
* `Configuration.loadFrom`, `load`, `loadOrDefault`: reading;
* `Configuration.save`: writing.
-/
import LogicCapture.Configuration.Document
import LogicCapture.Files.Tree
import LogicCapture.Text.Utf8

namespace LogicCapture

/-- Where a user's configuration files are. -/
structure ConfigurationPlaces where
  home : Path
  /-- The configuration directory that the user has chosen. -/
  chosen : Option Path := none

namespace ConfigurationPlaces

/-- The directory of configuration files; a choice counts only if it is absolute. -/
def directory (places : ConfigurationPlaces) : Path :=
  match places.chosen with
  | some path => if Path.isAbsolute path then path else Path.join places.home ".config"
  | none => Path.join places.home ".config"

/-- Where the user's configuration file is. -/
def file (places : ConfigurationPlaces) : Path :=
  Path.join (Path.join places.directory "greatfet-logic") "config.toml"

/-- Where the configuration file of the whole system is. -/
def systemFile : Path := "/etc/greatfet-logic/config.toml"

/-- The files that are looked for, the first one first. -/
def candidates (places : ConfigurationPlaces) : List Path := [places.file, systemFile]

end ConfigurationPlaces

namespace Configuration

/-- Loads and validates a configuration file. -/
def loadFrom (files : FileTree) (path : Path) : Except ConfigurationError Configuration := do
  let bytes ← (files.read path).mapError fun _ => .unreadable path
  let some text := Utf8.decode? bytes | throw (.unreadable path)
  let some c := ofText? text | throw (.malformed path)
  c.validate.mapError .invalid
  return c

/-- Loads the first configuration file that is there. -/
def load (files : FileTree) (places : ConfigurationPlaces) :
    Except ConfigurationError Configuration :=
  match places.candidates.find? files.holds with
  | none => .error .missing
  | some path => loadFrom files path

/-- The configuration of the first file that is there if it can be loaded, else the
default one. -/
def loadOrDefault (files : FileTree) (places : ConfigurationPlaces) : Configuration :=
  match load files places with
  | .ok c => c
  | .error _ => {}

/-- Loads the file at a path in which `~` may stand for the home directory. -/
def loadExpanded (files : FileTree) (places : ConfigurationPlaces) (path : Path) :
    Except ConfigurationError Configuration :=
  loadFrom files (Path.expandHome places.home path)

/-- Saves a configuration, with the directories that are missing.  Nothing is
touched unless the configuration can be written down. -/
def save (files : FileTree) (c : Configuration) (path : Path) :
    Except ConfigurationError Unit × FileTree :=
  match c.text? with
  | none => (.error .inexpressible, files)
  | some text =>
    let parent := (Path.parent? path).getD ""
    match files.createDirectories parent with
    | (.error _, files) => (.error (.noDirectory parent), files)
    | (.ok (), files) =>
      match files.write path (Utf8.encode text) with
      | .error _ => (.error (.unwritable path), files)
      | .ok files => (.ok (), files)

end Configuration

end LogicCapture
