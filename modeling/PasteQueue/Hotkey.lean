import PasteQueue.Signature.Stored

/-!
Hotkeys as texts. A hotkey is either a stored signature behind `sig:`, or modifier words and key
names between plus signs, as in `Ctrl+Alt+C`. The second form names a key only; its last key counts.
-/

namespace PasteQueue.Hotkey

inductive Piece
  | modifier (flag : Key.Modifiers)
  | key (code : Key.Code)
  deriving DecidableEq, Repr

/-- Modifier words go before key names. -/
def Piece.ofText? (text : List Char) : Option Piece :=
  match Key.Modifiers.ofWord? text with
  | some flag => some (.modifier flag)
  | none => (Key.ofName? text).map .key

/-- The pieces between plus signs, without blanks around them and without the empty ones. -/
def pieces (text : List Char) : List (List Char) :=
  ((text.splitOn '+').map Text.trim).filter (!·.isEmpty)

structure Chord where
  modifiers : Key.Modifiers := .none
  key : Option Key.Code := none
  deriving DecidableEq, Repr

def Chord.add (chord : Chord) : Piece → Chord
  | .modifier flag => { chord with modifiers := chord.modifiers ∪ flag }
  | .key code => { chord with key := some code }

def readPieces : Chord → List (List Char) → Except ReadError Chord
  | chord, [] => .ok chord
  | chord, text :: rest =>
    match Piece.ofText? text with
    | some piece => readPieces (chord.add piece) rest
    | none => .error (.unknownKey (String.ofList text))

def parseChord (text : List Char) : Except ReadError Signature :=
  match readPieces {} (pieces text) with
  | .error fault => .error fault
  | .ok chord =>
    match chord.key with
    | some code => .ok (Signature.keyOnly code chord.modifiers)
    | none => .error (.missingKey (String.ofList text))

def marker : List Char := ['s', 'i', 'g', ':']

def parseChars (text : List Char) : Except ReadError Signature :=
  let text := Text.trim text
  if text.isEmpty then .error .emptyHotkey
  else if marker.isPrefixOf text then Signature.ofBase64 (text.drop marker.length)
  else parseChord text

def parse (text : String) : Except ReadError Signature := parseChars text.toList

def format (signature : Signature) : String := String.ofList (marker ++ signature.toBase64)

end PasteQueue.Hotkey
