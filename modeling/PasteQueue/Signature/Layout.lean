import PasteQueue.Signature.Basic

/-!
How each kind of event is laid out in raw bytes, words with their low byte first, and what can be
read back from a signature: the key, the message that reported it, and the reduced form that only
names the key.
-/

namespace PasteQueue

namespace Layout

def word (n : UInt16) : List UInt8 := [n.toUInt8, (n >>> 8).toUInt8]

def doubleWord (n : UInt32) : List UInt8 :=
  [n.toUInt8, (n >>> 8).toUInt8, (n >>> 16).toUInt8, (n >>> 24).toUInt8]

def ofBytes (low high : UInt8) : UInt16 := low.toUInt16 ||| (high.toUInt16 <<< 8)

def wordAt? (raw : List UInt8) (offset : Nat) : Option UInt16 :=
  match raw.drop offset with
  | low :: high :: _ => some (ofBytes low high)
  | _ => none

def keyboard (key scan : UInt16) (flags : UInt32) (message : UInt16) : List UInt8 :=
  word key ++ word scan ++ doubleWord flags ++ word message

def keyboardLength : Nat := 10

def keyOnly (key : UInt16) : List UInt8 := word key

def mouseButton (button : UInt8) : List UInt8 := [button]

/-- The turn as a two's complement word, then a byte for the axis. -/
def mouseWheel (turn : Int16) (horizontal : Bool) : List UInt8 :=
  word turn.toUInt16 ++ [if horizontal then 1 else 0]

def isKeyDown (message : UInt16) : Bool := message == 0x100 || message == 0x104

end Layout

namespace Signature

def keyboard (key scan : UInt16) (flags : UInt32) (message : UInt16) (modifiers : Key.Modifiers) :
    Signature :=
  ofRaw .keyboard (Layout.keyboard key scan flags message) modifiers

def keyOnly (key : Key.Code) (modifiers : Key.Modifiers) : Signature :=
  ofRaw .keyboard (Layout.keyOnly key) modifiers

def mouseButton (button : UInt8) (modifiers : Key.Modifiers) : Signature :=
  ofRaw .mouseButton (Layout.mouseButton button) modifiers

def mouseWheel (turn : Int16) (horizontal : Bool) (modifiers : Key.Modifiers) : Signature :=
  ofRaw .mouseWheel (Layout.mouseWheel turn horizontal) modifiers

def key? (signature : Signature) : Option Key.Code :=
  if signature.source = .keyboard then Layout.wordAt? signature.raw 0 else none

/-- Only a full keyboard layout carries a message. -/
def message? (signature : Signature) : Option UInt16 :=
  if signature.source = .keyboard ∧ Layout.keyboardLength ≤ signature.raw.length then
    Layout.wordAt? signature.raw 8
  else none

def isBareModifier (signature : Signature) : Bool := signature.key?.any Key.isModifier

/-- A key press reduced to its key and modifiers; nothing else has a reduced form. -/
def reduced? (signature : Signature) : Option Signature :=
  if signature.message?.any Layout.isKeyDown then
    signature.key?.map (keyOnly · signature.modifiers)
  else none

end Signature

end PasteQueue
