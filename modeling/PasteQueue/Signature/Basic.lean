import PasteQueue.Key.Modifiers

/-!
The signature of an input event: what kind of device it came from, which modifiers were held, and
the raw bytes that the device reported. Two events are the same input exactly if their signatures
are equal; the hash only says where to look.
-/

namespace PasteQueue

inductive Source
  | keyboard | mouseButton | mouseWheel | hid | unknown
  deriving DecidableEq, Repr, Inhabited

namespace Source

def toByte : Source → UInt8
  | keyboard => 0
  | mouseButton => 1
  | mouseWheel => 2
  | hid => 3
  | unknown => 4

def ofByte (byte : UInt8) : Source :=
  match byte.toNat with
  | 0 => keyboard
  | 1 => mouseButton
  | 2 => mouseWheel
  | 3 => hid
  | _ => unknown

def label : Source → String
  | keyboard => "Keyboard"
  | mouseButton => "Mouse"
  | mouseWheel => "Wheel"
  | hid => "HID"
  | unknown => "Unknown"

theorem ofByte_toByte (source : Source) : ofByte source.toByte = source := by
  cases source <;> rfl

end Source

structure Signature where
  source : Source
  modifiers : Key.Modifiers
  raw : List UInt8
  raw_length_le : raw.length ≤ 65535
  deriving DecidableEq, Repr

namespace Signature

/-- The most raw bytes that a signature keeps, so that a 16-bit word holds their number. -/
def rawLimit : Nat := 65535

/-- Raw bytes past the limit are dropped. -/
def ofRaw (source : Source) (raw : List UInt8) (modifiers : Key.Modifiers) : Signature :=
  ⟨source, modifiers, raw.take rawLimit, List.length_take ▸ Nat.min_le_left ..⟩

def mix (state : UInt64) (byte : UInt8) : UInt64 := (state ^^^ byte.toUInt64) * 0x100000001b3

def hashed (signature : Signature) : List UInt8 :=
  signature.source.toByte :: signature.modifiers.bits :: signature.raw

/-- The 64-bit FNV-1a hash. -/
def hash (signature : Signature) : UInt64 := signature.hashed.foldl mix 0xcbf29ce484222325

end Signature

end PasteQueue
