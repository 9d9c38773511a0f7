import PasteQueue.Data

/-!
Tables of TOML while they are read. A table that was only named on the way to another is implicit
and may still be defined; one that came from a dotted key may only be extended by dotted keys. No
key is defined twice.
-/

namespace PasteQueue.Toml

/-- A value, a table, or an array of tables with the latest first. -/
inductive Node
  | value (value : Data)
  | table (implicit dotted : Bool) (entries : List (String × Node))
  | tables (latest : List (String × Node)) (earlier : List (List (String × Node)))
  deriving Inhabited

abbrev Entries := List (String × Node)

def Entries.put (entries : Entries) (key : String) (node : Node) : Entries :=
  match entries with
  | [] => [(key, node)]
  | (name, old) :: rest =>
    if name = key then (key, node) :: rest else (name, old) :: put rest key node

/-- A change of the entries of a table, which may be refused; it learns whether the table came from
a dotted key. -/
abbrev Change := Bool → Entries → Option Entries

/-- Applies a change at the end of a path. Tables that are missing on the way are made implicitly. A
dotted path leads only through implicit tables. -/
def changeAt (byDots : Bool) (change : Change) : List String → Change
  | [], dotted, entries => change dotted entries
  | key :: path, _, entries =>
    match entries.lookup key with
    | none => do
      let inner ← changeAt byDots change path byDots []
      return entries.put key (.table true byDots inner)
    | some (.value _) => none
    | some (.table implicit dotted inner) =>
      if byDots && !implicit then none
      else do
        let inner ← changeAt byDots change path dotted inner
        return entries.put key (.table implicit dotted inner)
    | some (.tables latest earlier) => do
      let latest ← changeAt byDots change path false latest
      return entries.put key (.tables latest earlier)

/-- Defines a key. A dotted key belongs into a table from dotted keys, a plain one into any
other. -/
def define (plain : Bool) (key : String) (value : Data) : Change := fun dotted entries =>
  if dotted == plain || (entries.lookup key).isSome then none
  else some (entries.put key (.value value))

def splitLast (path : List String) : List String × String := (path.dropLast, path.getLast?.getD "")

def defineAt (path : List String) (value : Data) (dotted : Bool) (entries : Entries) :
    Option Entries :=
  let (front, last) := splitLast path
  changeAt true (define front.isEmpty last value) front dotted entries

/-- A header opens a table: a new one, or an implicit one that was named before. -/
def openTable (key : String) : Change := fun _ entries =>
  match entries.lookup key with
  | none => some (entries.put key (.table false false []))
  | some (.table true false inner) => some (entries.put key (.table false false inner))
  | some _ => none

/-- A header in double brackets opens the next table of an array. -/
def openNext (key : String) : Change := fun _ entries =>
  match entries.lookup key with
  | none => some (entries.put key (.tables [] []))
  | some (.tables latest earlier) => some (entries.put key (.tables [] (latest :: earlier)))
  | some _ => none

mutual

def Node.toData : Node → Data
  | .value value => value
  | .table _ _ entries => .record (entriesToData entries)
  | .tables latest earlier => .list (rowsToData earlier [.record (entriesToData latest)])

def entriesToData : List (String × Node) → List (String × Data)
  | [] => []
  | (key, node) :: rest => (key, node.toData) :: entriesToData rest

/-- The rows run from the latest to the earliest, the data the other way. -/
def rowsToData : List (List (String × Node)) → List Data → List Data
  | [], later => later
  | row :: rest, later => rowsToData rest (.record (entriesToData row) :: later)

end

end PasteQueue.Toml
