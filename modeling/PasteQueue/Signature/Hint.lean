import PasteQueue.Signature.Layout
import PasteQueue.Text.Digits

/-!
The hint of a signature: a short text for people, the names of the modifiers and of the input
joined by plus signs.
-/

namespace PasteQueue.Signature

open Text

def keyLabel : Option Key.Code → String
  | some code => (Key.name? code).getD ("Key[0x" ++ hexUpper code.toNat ++ "]")
  | none => "Key[?]"

/-- The direction of a turn of the wheel; no turn at all counts as downwards. -/
def wheelLabel (raw : List UInt8) : String :=
  match Layout.wordAt? raw 0 with
  | none => "Wheel[?]"
  | some turn =>
    match raw[2]? == some 1, decide (0 < turn.toInt16.toInt) with
    | false, true => "WheelUp"
    | false, false => "WheelDown"
    | true, true => "WheelRight"
    | true, false => "WheelLeft"

def inputLabel (signature : Signature) : String :=
  match signature.source, signature.raw with
  | .keyboard, raw => keyLabel (Layout.wordAt? raw 0)
  | .mouseButton, button :: _ => "Mouse" ++ decimal button.toNat
  | .mouseButton, [] => "Mouse[?]"
  | .mouseWheel, raw => wheelLabel raw
  | .hid, first :: _ => "HID[" ++ hexUpper first.toNat ++ "...]"
  | .hid, [] => "HID[?]"
  | .unknown, _ => "Input[0x" ++ hexUpper (signature.hash.toNat % 65536) ++ "]"

def hint (signature : Signature) : String :=
  "+".intercalate (signature.modifiers.names ++ [signature.inputLabel])

end PasteQueue.Signature
