/-!
A signal wakes one waiting party at a time. Parties stand in a line; a notice releases the one that
has stood there longest. If nobody stands in line, one notice is kept as a permit for the next who
comes. A released party that goes away unseen hands its release on.
-/

namespace PasteQueue.Capture

abbrev PartyId := Nat

structure Signal where
  line : List PartyId := []
  released : List PartyId := []
  permit : Bool := false
  deriving DecidableEq, Repr

namespace Signal

def notify (signal : Signal) : Signal :=
  match signal.line with
  | [] => { signal with permit := true }
  | first :: rest => { signal with line := rest, released := signal.released ++ [first] }

def join (signal : Signal) (party : PartyId) : Signal :=
  { signal with line := signal.line ++ [party] }

def usePermit (signal : Signal) : Signal := { signal with permit := false }

def isReleased (signal : Signal) (party : PartyId) : Bool := signal.released.contains party

def acknowledge (signal : Signal) (party : PartyId) : Signal :=
  { signal with released := signal.released.erase party }

/-- The party goes away; a release that it has not seen goes to the next. -/
def leave (signal : Signal) (party : PartyId) : Signal :=
  if signal.isReleased party then (signal.acknowledge party).notify
  else { signal with line := signal.line.erase party }

end Signal

end PasteQueue.Capture
