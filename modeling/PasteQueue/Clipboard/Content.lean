import PasteQueue.Text.Digits
import PasteQueue.Text.Utf

/-!
What a clipboard can hold, how much room it takes there, a short preview of it, and when two
contents count as the same copy.
-/

namespace PasteQueue.Clipboard

inductive Kind
  | empty | text | files | image
  deriving DecidableEq, Repr, Inhabited

def Kind.label : Kind → String
  | empty => "Empty"
  | text => "Text"
  | files => "Files"
  | image => "Image"

/-- An image is held as the bytes of its PNG file. -/
inductive Content
  | empty
  | text (body : String)
  | files (paths : List String)
  | image (png : List UInt8)
  deriving DecidableEq, Repr, Inhabited

namespace Content

def kind : Content → Kind
  | empty => .empty
  | text _ => .text
  | files _ => .files
  | image _ => .image

def filesHeader : Nat := 20

/-- A path is stored in UTF-16 with a terminator. -/
def pathSize (path : String) : Nat := 2 * (Text.utf16Length path.toList + 1)

/-- Bytes on the clipboard. A list of files has a terminator of its own. -/
def size : Content → Nat
  | empty => 0
  | text body => body.utf8ByteSize
  | files paths => paths.foldr (fun path size => pathSize path + size) (2 + filesHeader)
  | image png => png.length

def textPreviewLength : Nat := 80

def textPreview (body : String) : String :=
  if textPreviewLength < body.length then
    String.ofList (body.toList.take textPreviewLength) ++ "..."
  else body

def filesPreviewLength : Nat := 3

def filesPreview (paths : List String) : String :=
  ", ".intercalate (paths.take filesPreviewLength) ++
    if filesPreviewLength < paths.length then ", ..." else ""

def pngMagic : List UInt8 := [0x89, 0x50, 0x4E, 0x47, 0x0D, 0x0A, 0x1A, 0x0A]

/-- The name of the first chunk of a PNG file, which holds its measures. -/
def pngHeader : List UInt8 := [0x49, 0x48, 0x44, 0x52]

def bigEndian? : List UInt8 → Option Nat
  | [a, b, c, d] => some (((a.toNat * 256 + b.toNat) * 256 + c.toNat) * 256 + d.toNat)
  | _ => none

def pngSize? (png : List UInt8) : Option (Nat × Nat) :=
  if png.take 8 = pngMagic ∧ (png.drop 12).take 4 = pngHeader then
    match bigEndian? ((png.drop 16).take 4), bigEndian? ((png.drop 20).take 4) with
    | some width, some height => some (width, height)
    | _, _ => none
  else none

def imagePreview (png : List UInt8) : String :=
  match pngSize? png with
  | some (width, height) => Text.decimal width ++ "x" ++ Text.decimal height ++ " PNG"
  | none => "Invalid PNG image"

def preview : Content → String
  | empty => "Empty clipboard"
  | text body => textPreview body
  | files paths => filesPreview paths
  | image png => imagePreview png

/-- Texts are the same if they are equal; of files and images only kind and size are compared. -/
def same (first second : Content) : Bool :=
  match first, second with
  | text body, text other => body == other
  | first, second => first.kind == second.kind && first.size == second.size

end Content

end PasteQueue.Clipboard
