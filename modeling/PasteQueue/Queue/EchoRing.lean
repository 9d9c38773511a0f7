/-!
The sequence numbers of the program's own clipboard changes, in a fixed number of slots that are
written one after the other, round and round: a number stays until the cursor comes by again.
-/

namespace PasteQueue.Queue

structure EchoRing where
  slots : List (Option UInt32)
  cursor : Nat
  deriving DecidableEq, Repr

namespace EchoRing

def defaultCapacity : Nat := 8

/-- There is always room for one number. -/
def ofCapacity (requested : Nat) : EchoRing := ⟨List.replicate (max 1 requested) none, 0⟩

def capacity (ring : EchoRing) : Nat := ring.slots.length

def record (ring : EchoRing) (sequence : UInt32) : EchoRing :=
  ⟨ring.slots.set ring.cursor (some sequence), (ring.cursor + 1) % ring.capacity⟩

/-- A slot that has not been written contains no number. -/
def contains (ring : EchoRing) (sequence : UInt32) : Bool :=
  ring.slots.any fun slot => slot == some sequence

/-- How many slots have been written. -/
def size (ring : EchoRing) : Nat := ring.slots.countP Option.isSome

end EchoRing

end PasteQueue.Queue
