/-!
Structured data as interchange formats hold it. A number with a fraction, or a moment in time, is
kept only as such: no field of the program has one.
-/

namespace PasteQueue

inductive Data
  | null
  | bool (value : Bool)
  | integer (value : Int)
  | fraction
  | moment
  | text (value : String)
  | list (values : List Data)
  | record (fields : List (String × Data))
  deriving Repr, Inhabited

namespace Data

def wordBound : Nat := 0x10000000000000000

def signedBound : Nat := 0x8000000000000000

def bool? : Data → Option Bool
  | bool value => some value
  | _ => none

def text? : Data → Option String
  | text value => some value
  | _ => none

def list? : Data → Option (List Data)
  | list values => some values
  | _ => none

def nat? (bound : Nat) : Data → Option Nat
  | integer value => if 0 ≤ value ∧ value.toNat < bound then some value.toNat else none
  | _ => none

/-- The name of a choice without contents: the name itself, or a record of it and null. -/
def choice? : Data → Option String
  | text name => some name
  | record [(name, null)] => some name
  | _ => none

end Data

end PasteQueue
