/-
Paths as text.

* `Path.join`: a path seen from a directory;
* `Path.parent?`: the directory that holds what a path names;
* `Path.expandHome`: a leading `~` stands for the home directory.
-/

namespace LogicCapture

/-- The text of a path. -/
abbrev Path := String

namespace Path

/-- The path begins at the root. -/
def isAbsolute (path : Path) : Bool := path.toList.head? = some '/'

/-- A path seen from a directory. -/
def join (directory path : Path) : Path :=
  if isAbsolute path then path
  else if directory = "" ∨ directory.toList.getLast? = some '/' then directory ++ path
  else directory ++ "/" ++ path

/-- The names of a path, with empty ones where slashes meet. -/
def pieces (path : Path) : List String :=
  (path.toList.splitOn '/').map String.ofList

/-- Pieces without those at the end that lead nowhere.  A dot at the very front of a
relative path is a name of its own. -/
def trimEnd (relative : Bool) : List String → List String
  | [] => []
  | piece :: rest =>
    match trimEnd false rest with
    | [] =>
      if piece = "" ∨ (piece = "." ∧ !relative) then [] else [piece]
    | rest => piece :: rest

/-- The directory that holds what a path names; the root has none, and the empty
text is the directory at which relative paths begin. -/
def parent? (path : Path) : Option Path :=
  let absolute := isAbsolute path
  let pieces := if absolute then (pieces path).drop 1 else pieces path
  match trimEnd (!absolute) pieces with
  | [] => none
  | named =>
    let text := "/".intercalate (trimEnd (!absolute) named.dropLast)
    some (if absolute then "/" ++ text else text)

/-- The path with a leading `~` replaced by the home directory, if a slash or
nothing follows. -/
def expandHome (home path : Path) : Path :=
  match path.toList with
  | ['~'] => home
  | '~' :: '/' :: rest => home ++ String.ofList ('/' :: rest)
  | _ => path

end Path

end LogicCapture
