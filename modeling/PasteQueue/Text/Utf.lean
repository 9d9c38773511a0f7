/-!
Sizes and bytes of texts in the two encodings that clipboards use.
-/

namespace PasteQueue.Text

def utf8 (text : List Char) : List UInt8 := text.flatMap String.utf8EncodeChar

def unitsOf (c : Char) : Nat := if c.toNat < 0x10000 then 1 else 2

def utf16Length (text : List Char) : Nat := text.foldr (fun c length => unitsOf c + length) 0

end PasteQueue.Text
