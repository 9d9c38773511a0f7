import PasteQueue.Signature.Layout

/-!
Input events as devices report them, and the signature of each.
-/

namespace PasteQueue.Input

inductive Button
  | left | right | middle | back | forward
  | other (number : UInt8)
  deriving DecidableEq, Repr

def Button.number : Button → UInt8
  | left => 1
  | right => 2
  | middle => 3
  | back => 4
  | forward => 5
  | other number => number

inductive Event
  | key (code scan : UInt16) (flags : UInt32) (message : UInt16) (modifiers : Key.Modifiers)
  | button (pressed : Button) (modifiers : Key.Modifiers)
  | wheel (turn : Int16) (horizontal : Bool) (modifiers : Key.Modifiers)
  deriving DecidableEq, Repr

namespace Event

def keyDown (code scan : UInt16) (modifiers : Key.Modifiers) : Event :=
  key code scan 0 0x100 modifiers

/-- A release carries the flag of a key going up. -/
def keyUp (code scan : UInt16) (modifiers : Key.Modifiers) : Event :=
  key code scan 0x80 0x101 modifiers

def signature : Event → Signature
  | key code scan flags message modifiers => .keyboard code scan flags message modifiers
  | button pressed modifiers => .mouseButton pressed.number modifiers
  | wheel turn horizontal modifiers => .mouseWheel turn horizontal modifiers

end Event

end PasteQueue.Input
