/-
A tree of files and directories, and what programs do with it by path.

* `FileTree`: directories and file contents by location;
* `FileTree.place`: the location that a path leads to;
* `FileTree.read`, `exists`, `createDirectories`, `create`, `put`: operations.
-/
import LogicCapture.Bytes
import LogicCapture.Files.Path

namespace LogicCapture

/-- Why a path cannot be used. -/
inductive FileError where
  | notFound
  /-- Something that is no directory is used as one. -/
  | notADirectory
  /-- A directory is used as a file. -/
  | isADirectory
  /-- A name or the whole path is too long. -/
  | nameTooLong
  /-- The path holds a character that no path can hold. -/
  | badCharacter
  deriving DecidableEq

/-- The text that reports a file error. -/
def FileError.message : FileError → String
  | notFound => "No such file or directory"
  | notADirectory => "Not a directory"
  | isADirectory => "Is a directory"
  | nameTooLong => "File name too long"
  | badCharacter => "file name contained an unexpected NUL byte"

/-- The names on the way from the root. -/
abbrev Location := List String

/-- What stands at a location. -/
inductive FileNode where
  | directory
  | file (contents : Bytes)
  deriving DecidableEq

/-- Files and directories.  The root is always there. -/
structure FileTree where
  entries : List (Location × FileNode) := []
  /-- The directory at which relative paths begin. -/
  current : Location := []

namespace FileTree

/-- What stands at a location, if anything. -/
def node? (t : FileTree) (location : Location) : Option FileNode :=
  if location = [] then some .directory else t.entries.lookup location

/-- Puts a node at a location, in place of what is there. -/
def put (t : FileTree) (location : Location) (node : FileNode) : FileTree :=
  { t with entries := (location, node) :: t.entries.filter fun entry => entry.1 ≠ location }

/-- What has just been put at a location is found there. -/
theorem node?_put_self (t : FileTree) {location : Location} (h : location ≠ [])
    (node : FileNode) : (t.put location node).node? location = some node := by
  simp [node?, put, h]

/-! ### Following paths -/

/-- The most bytes of a name. -/
def maxName : Nat := 255

/-- The most bytes of a path. -/
def maxPath : Nat := 4095

/-- Goes from a directory to one of its names, which need not be there. -/
def step (t : FileTree) (location : Location) (name : String) : Except FileError Location :=
  match t.node? location with
  | none => .error .notFound
  | some (.file _) => .error .notADirectory
  | some .directory =>
    if name = "." then .ok location
    else if name = ".." then .ok location.dropLast
    else if maxName < name.utf8ByteSize then .error .nameTooLong
    else .ok (location ++ [name])

/-- Where a path begins. -/
def origin (t : FileTree) (path : Path) : Location :=
  if Path.isAbsolute path then [] else t.current

/-- The names that a path goes through. -/
def names (path : Path) : List String := (Path.pieces path).filter (· ≠ "")

/-- A path that can be followed at all. -/
def checkPath (path : Path) : Except FileError Unit :=
  if path = "" then .error .notFound
  else if path.toList.contains '\x00' then .error .badCharacter
  else if maxPath < path.utf8ByteSize then .error .nameTooLong
  else .ok ()

/-- The location that a path leads to.  Everything on the way has to be a directory
that is there. -/
def place (t : FileTree) (path : Path) : Except FileError Location := do
  checkPath path
  (names path).foldlM t.step (t.origin path)

/-- The path can only name a directory. -/
def namesDirectory (path : Path) : Bool := path.toList.getLast? = some '/'

/-! ### Operations -/

/-- The contents of a file. -/
def read (t : FileTree) (path : Path) : Except FileError Bytes := do
  match t.node? (← t.place path) with
  | none => throw .notFound
  | some .directory => throw .isADirectory
  | some (.file contents) =>
    if namesDirectory path then throw .notADirectory else return contents

/-- Whether a path leads to something that is there. -/
def holds (t : FileTree) (path : Path) : Bool :=
  match t.place path with
  | .error _ => false
  | .ok location =>
    match t.node? location with
    | none => false
    | some .directory => true
    | some (.file _) => !namesDirectory path

/-- Makes a file empty, or a new empty file; its location and the tree with it. -/
def create (t : FileTree) (path : Path) : Except FileError (Location × FileTree) := do
  let location ← t.place path
  if namesDirectory path then throw .isADirectory
  match t.node? location with
  | some .directory => throw .isADirectory
  | _ => return (location, t.put location (.file []))

/-- Makes a file with the given contents, in place of one that is there. -/
def write (t : FileTree) (path : Path) (contents : Bytes) : Except FileError FileTree := do
  let (location, t) ← t.create path
  return t.put location (.file contents)

/-- Makes the missing directories among the names of a path.  Those made before an
obstacle stay. -/
def createFrom (t : FileTree) (location : Location) :
    List String → Except FileError Unit × FileTree
  | [] =>
    match t.node? location with
    | some .directory => (.ok (), t)
    | some (.file _) => (.error .notADirectory, t)
    | none => (.ok (), t.put location .directory)
  | name :: rest =>
    let t := match t.node? location with
      | none => t.put location .directory
      | some _ => t
    match t.step location name with
    | .error error => (.error error, t)
    | .ok next => t.createFrom next rest

/-- Makes a directory and all that are missing on the way to it. -/
def createDirectories (t : FileTree) (path : Path) : Except FileError Unit × FileTree :=
  if path = "" then (.ok (), t)
  else
    match checkPath path with
    | .error error => (.error error, t)
    | .ok () => t.createFrom (t.origin path) (names path)

end FileTree

end LogicCapture
