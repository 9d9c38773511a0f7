/-!
Numerals: an optional sign, and then digits with at most one point and an exponent, or a word for
infinity or for what is no number.
-/

namespace PasteQueue.Text

def dropSign : List Char → List Char
  | '+' :: rest | '-' :: rest => rest
  | text => text

def isDigits (text : List Char) : Bool := !text.isEmpty && text.all Char.isDigit

/-- Digits on either side of the point, and on one side at least. -/
def isFixed (text : List Char) : Bool :=
  let (whole, rest) := text.span Char.isDigit
  match rest with
  | [] => !whole.isEmpty
  | '.' :: fraction => fraction.all Char.isDigit && !(whole.isEmpty && fraction.isEmpty)
  | _ => false

def numeralWords : List String := ["inf", "infinity", "nan"]

def isNumeral (text : List Char) : Bool :=
  let body := (dropSign text).map Char.toLower
  let (fixed, exponent) := body.span (· ≠ 'e')
  numeralWords.contains (String.ofList body) ||
    isFixed fixed && (exponent.isEmpty || isDigits (dropSign (exponent.drop 1)))

end PasteQueue.Text
