/-
The program on a real system.  The files that a run may touch are read first, the
run itself is `CommandLine.run`, and then the files that it has changed are
written.  No USB library is linked in: the run finds a USB stack without devices.
-/
import LogicCapture.CommandLine.Run

namespace LogicCapture.Main

/-- The paths that a command line may use. -/
def paths (places : ConfigurationPlaces) (a : Arguments) : List Path :=
  places.candidates ++ (a.config.map (Path.expandHome places.home)).toList ++ a.output.toList

/-- The locations on the way that a path takes, the last one first. -/
def way (tree : FileTree) (path : Path) : List Location :=
  (FileTree.names path).foldl (fun visited name =>
    let here := visited.headD []
    (if name = "." then here else if name = ".." then here.dropLast else here ++ [name]) :: visited)
    [tree.origin path]

/-- The path of a location. -/
def pathOf (location : Location) : Path := "/" ++ "/".intercalate location

/-- The code with which the system refuses to read a directory as a file. -/
def directoryCode : UInt32 := 21

/-- What stands at a location of the system. -/
def inspect (location : Location) : IO (Option FileNode) := do
  try
    return some (.file (← IO.FS.readBinFile (pathOf location)).toList)
  catch
    | .inappropriateType _ code _ => return if code = directoryCode then some .directory else none
    | _ => return none

/-- Reads what stands on the ways of some paths. -/
def snapshot (tree : FileTree) (paths : List Path) : IO FileTree := do
  let mut tree := tree
  for location in tree.current :: paths.flatMap (way tree) do
    match ← inspect location with
    | some node => tree := tree.put location node
    | none => pure ()
  return tree

/-- Writes what a run has changed. -/
def store (before after : FileTree) : IO Unit := do
  for (location, node) in after.entries.reverse do
    if before.node? location ≠ some node then
      match node with
      | .directory => IO.FS.createDirAll (pathOf location)
      | .file contents => IO.FS.writeBinFile (pathOf location) ⟨contents.toArray⟩

end LogicCapture.Main

open LogicCapture in
def main (words : List String) : IO UInt32 := do
  let places : ConfigurationPlaces := {
    home := (← IO.getEnv "HOME").getD "/"
    chosen := ← IO.getEnv "XDG_CONFIG_HOME" }
  let empty : FileTree := { current := FileTree.names (← IO.currentDir).toString }
  let files ← match Arguments.parse words with
    | .ok a => Main.snapshot empty (Main.paths places a)
    | .error _ => pure empty
  let now ← IO.monoNanosNow
  match CommandLine.run { places, files, stack := {}, clock := fun _ => now } words with
  | none => return 1
  | some outcome =>
    Main.store files outcome.files
    IO.print outcome.output
    IO.eprint outcome.conclusion.report
    return UInt32.ofNat outcome.conclusion.exitCode
