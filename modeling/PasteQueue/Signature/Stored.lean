import PasteQueue.Base64
import PasteQueue.Signature.Layout
import PasteQueue.Text.Blank
import PasteQueue.Text.Utf

/-!
The stored form of a signature: a version byte, the source, the modifiers, the number of raw bytes
as a word, then those bytes; as text, the same in base64. `decode` reads it back and takes no
notice of bytes that follow.
-/

namespace PasteQueue

inductive ReadError
  | insufficient (needed available : Nat)
  | version (byte : UInt8)
  | lengthMismatch (declared available : Nat)
  | base64 (fault : Base64.Fault)
  | unknownKey (name : String)
  | missingKey (text : String)
  | emptyHotkey
  deriving DecidableEq, Repr

def ReadError.message : ReadError → String
  | .insufficient needed available =>
    "insufficient data: need at least " ++ Text.decimal needed ++ " bytes, got " ++
      Text.decimal available
  | .version byte => "unsupported signature version: " ++ Text.decimal byte.toNat
  | .lengthMismatch declared available =>
    "payload length mismatch: header says " ++ Text.decimal declared ++ ", available is " ++
      Text.decimal available
  | .base64 fault => "invalid base64 signature: " ++ fault.message
  | .unknownKey name => "unknown key name: " ++ name
  | .missingKey text => "hotkey has no key: " ++ text
  | .emptyHotkey => "hotkey string is empty"

namespace Signature

def version : UInt8 := 1

def headerLength : Nat := 4

def encode (signature : Signature) : List UInt8 :=
  version :: signature.source.toByte :: signature.modifiers.bits ::
    (Layout.word (UInt16.ofNat signature.raw.length) ++ signature.raw)

/-- The payload may be missing altogether, with its length; otherwise it is as long as declared. -/
def decodePayload (source modifiers : UInt8) : List UInt8 → Except ReadError Signature
  | low :: high :: raw =>
    let declared := (Layout.ofBytes low high).toNat
    if declared ≤ raw.length then
      .ok (ofRaw (.ofByte source) (raw.take declared) ⟨modifiers⟩)
    else .error (.lengthMismatch declared raw.length)
  | _ => .ok (ofRaw (.ofByte source) [] ⟨modifiers⟩)

def decode (bytes : List UInt8) : Except ReadError Signature :=
  match bytes with
  | first :: source :: modifiers :: rest@(_ :: _) =>
    if first = version then decodePayload source modifiers rest else .error (.version first)
  | _ => .error (.insufficient headerLength bytes.length)

/-- Blanks around the text are left out. -/
def ofBase64 (text : List Char) : Except ReadError Signature :=
  match Base64.decode (Text.utf8 (Text.trim text)) with
  | .ok bytes => decode bytes
  | .error fault => .error (.base64 fault)

def toBase64 (signature : Signature) : List Char :=
  (Base64.encode signature.encode).map fun byte => Char.ofUInt8 byte

end Signature

end PasteQueue
