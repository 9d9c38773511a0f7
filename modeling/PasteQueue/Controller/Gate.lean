/-!
Gates let one strand of execution through at a time, in the order in which they asked. Whoever goes
hands the gate to the first in line.
-/

namespace PasteQueue

/-- The number of a strand of execution. -/
abbrev StrandId := Nat

structure Gate where
  holder : Option StrandId := none
  line : List StrandId := []
  deriving DecidableEq, Repr

namespace Gate

/-- Whether the strand is let through at once; otherwise it stands in line. -/
def request (gate : Gate) (strand : StrandId) : Bool × Gate :=
  match gate.holder with
  | none => (true, { gate with holder := some strand })
  | some _ => (false, { gate with line := gate.line ++ [strand] })

/-- The gate after its holder has gone; the new holder, if there is one, can go on. -/
def release (gate : Gate) : Gate :=
  match gate.line with
  | [] => { gate with holder := none }
  | first :: rest => ⟨some first, rest⟩

def isHeldBy (gate : Gate) (strand : StrandId) : Bool := gate.holder == some strand

def withdraw (gate : Gate) (strand : StrandId) : Gate :=
  if gate.isHeldBy strand then gate.release else { gate with line := gate.line.erase strand }

end Gate

end PasteQueue
