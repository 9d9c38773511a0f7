import PasteQueue.Key.Code

/-!
The modifier keys held while an input happens, as a set of flags in one byte. Four flags have
names; the other bits are kept as they are.
-/

namespace PasteQueue.Key

structure Modifiers where
  bits : UInt8
  deriving DecidableEq, Repr, Inhabited

namespace Modifiers

def none : Modifiers := ⟨0⟩
def ctrl : Modifiers := ⟨1⟩
def alt : Modifiers := ⟨2⟩
def shift : Modifiers := ⟨4⟩
def win : Modifiers := ⟨8⟩

def union (held more : Modifiers) : Modifiers := ⟨held.bits ||| more.bits⟩

instance : Union Modifiers := ⟨union⟩

/-- Whether all flags of the second set are in the first. -/
def contains (held flag : Modifiers) : Bool := held.bits &&& flag.bits == flag.bits

def named : List (Modifiers × String) :=
  [(ctrl, "Ctrl"), (alt, "Alt"), (shift, "Shift"), (win, "Win")]

def names (held : Modifiers) : List String :=
  (named.filter fun flag => held.contains flag.1).map Prod.snd

def words : List (Modifiers × String) :=
  [(ctrl, "Ctrl"), (ctrl, "Control"), (alt, "Alt"), (shift, "Shift"), (win, "Win")]

def ofWord? (word : List Char) : Option Modifiers :=
  (words.find? fun entry => fold entry.2.toList == fold word).map Prod.fst

theorem ofWord?_named : ∀ entry ∈ named, ofWord? entry.2.toList = some entry.1 := by
  decide +kernel

end Modifiers

end PasteQueue.Key
