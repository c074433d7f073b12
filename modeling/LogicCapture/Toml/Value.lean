/-
TOML values, and the tables that a document builds up.

* `Toml.Value`: a finished value;
* `Toml.Node`: an entry of a table under construction, which remembers how it
  came to be there;
* `Toml.assign`, `Toml.openTable`, `Toml.openElement`: what a key with a value,
  a `[header]` and a `[[header]]` do to the tables, and when they clash.
-/

namespace LogicCapture.Toml

/-- A TOML value.  Floats and dates are kept as they are written. -/
inductive Value where
  | string (text : String)
  | integer (n : Int)
  | float (written : String)
  | boolean (b : Bool)
  | datetime (written : String)
  | array (elements : List Value)
  | table (entries : List (String × Value))

/-- How a table came to be. -/
inductive TableKind where
  /-- Named by a header of its own. -/
  | defined
  /-- Passed through by a header. -/
  | implied
  /-- Passed through by a dotted key. -/
  | dotted
  deriving DecidableEq

/-- An entry of a table under construction. -/
inductive Node where
  | value (value : Value)
  | table (kind : TableKind) (entries : List (String × Node))
  /-- The tables of an array of tables, the latest first. -/
  | elements (latest : List (String × Node)) (earlier : List (List (String × Node)))

/-- The entries of a table under construction, in the order of their first mention. -/
abbrev Entries := List (String × Node)

/-- The entries with the one at `key` replaced. -/
def replace (key : String) (node : Node) (entries : Entries) : Entries :=
  entries.map fun entry => if entry.1 = key then (key, node) else entry

/-- Puts a value at a dotted key.  Tables on the way are made as needed; those
with a header of their own are closed to dotted keys, and the last one has to be
a table that dotted keys made. -/
def assign (key : String) (value : Value) : List String → Entries → Option Entries
  | [], entries =>
    match entries.lookup key with
    | some _ => none
    | none => some (entries ++ [(key, .value value)])
  | name :: path, entries =>
    match entries.lookup name with
    | none => do return entries ++ [(name, .table .dotted (← assign key value path []))]
    | some (.table kind inner) =>
      if kind = .defined ∨ (path = [] ∧ kind ≠ .dotted) then none
      else do return replace name (.table kind (← assign key value path inner)) entries
    | some (.elements latest earlier) =>
      if path = [] then none
      else do return replace name (.elements (← assign key value path latest) earlier) entries
    | some (.value _) => none

/-- Changes the table at a path.  Tables on the way are made as needed, and an
array of tables stands for its latest one. -/
def within (change : Entries → Option Entries) : List String → Entries → Option Entries
  | [], entries => change entries
  | name :: path, entries =>
    match entries.lookup name with
    | none => do return entries ++ [(name, .table .implied (← within change path []))]
    | some (.table kind inner) => do
      return replace name (.table kind (← within change path inner)) entries
    | some (.elements latest earlier) => do
      return replace name (.elements (← within change path latest) earlier) entries
    | some (.value _) => none

/-- Opens a table under a header.  Only a table that headers have passed through
may be there already. -/
def openTable (key : String) (entries : Entries) : Option Entries :=
  match entries.lookup key with
  | none => some (entries ++ [(key, .table .defined [])])
  | some (.table .implied inner) => some (replace key (.table .defined inner) entries)
  | _ => none

/-- Opens the next element of an array of tables. -/
def openElement (key : String) (entries : Entries) : Option Entries :=
  match entries.lookup key with
  | none => some (entries ++ [(key, .elements [] [])])
  | some (.elements latest earlier) => some (replace key (.elements [] (latest :: earlier)) entries)
  | _ => none

mutual

/-- The finished value of an entry. -/
def Node.finish : Node → Value
  | .value value => value
  | .table _ entries => .table (finishEntries entries)
  | .elements latest earlier =>
    .array ((.table (finishEntries latest) :: finishElements earlier).reverse)

/-- The finished entries of a table. -/
def finishEntries : List (String × Node) → List (String × Value)
  | [] => []
  | (key, node) :: rest => (key, node.finish) :: finishEntries rest

/-- The finished tables of an array. -/
def finishElements : List (List (String × Node)) → List Value
  | [] => []
  | entries :: rest => .table (finishEntries entries) :: finishElements rest

end

/-- The value at a key of a finished table. -/
def Value.get? (entries : List (String × Value)) (key : String) : Option Value :=
  entries.lookup key

end LogicCapture.Toml
