/-!
How deep patterns nest. A repetition, a group, a set, an operator between sets, and several things in
a row or to choose from lie one level above the deepest of their parts; everything else lies at level
zero.
-/

namespace PasteQueue.Log.Pattern

/-- Things in a row: how many there are, and how deep the last one and those before it are. -/
structure Row where
  length : Nat := 0
  before : Nat := 0
  last : Nat := 0
  deriving DecidableEq, Repr

namespace Row

def push (row : Row) (depth : Nat) : Row := ⟨row.length + 1, max row.before row.last, depth⟩

def repeatLast (row : Row) : Row := { row with last := row.last + 1 }

/-- A row of one is that one. -/
def depth (row : Row) : Nat :=
  if row.length ≤ 1 then row.last else max row.before row.last + 1

end Row

/-- What stands between two brackets so far: how deep it is up to the last bar or operator, and the
row behind that. -/
structure Level where
  left : Option Nat := none
  row : Row := {}
  deriving DecidableEq, Repr

namespace Level

def push (level : Level) (depth : Nat) : Level := { level with row := level.row.push depth }

def repeatLast (level : Level) : Level := { level with row := level.row.repeatLast }

def depth (level : Level) : Nat :=
  match level.left with
  | none => level.row.depth
  | some left => max left level.row.depth + 1

/-- Behind a bar: all that there is to choose from lies side by side. -/
def alternate (level : Level) : Level := ⟨some (max (level.left.getD 0) level.row.depth), {}⟩

/-- Behind an operator: all before it is its left side. -/
def operate (level : Level) : Level := ⟨some level.depth, {}⟩

end Level

end PasteQueue.Log.Pattern
