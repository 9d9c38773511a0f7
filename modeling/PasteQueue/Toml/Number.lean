import PasteQueue.Data
import PasteQueue.Toml.Text

/-!
Numbers and times of TOML. Integers fit into 64 bits with a sign. Of numbers with a fraction, and of
times, only the form is looked at.
-/

namespace PasteQueue.Toml

open Text (digitValue? valueOf)

def isDigitOf (base : Nat) (c : Char) : Bool := (digitValue? base c).isSome

/-- Further digits, with single underscores between digits. -/
def moreDigits (base : Nat) : Reader (List Char)
  | [] => some ([], [])
  | '_' :: rest =>
    match rest with
    | c :: others =>
      if isDigitOf base c then (moreDigits base others).map fun read => (c :: read.1, read.2)
      else none
    | [] => none
  | c :: rest =>
    if isDigitOf base c then (moreDigits base rest).map fun read => (c :: read.1, read.2)
    else some ([], c :: rest)

def digits (base : Nat) : Reader (List Char)
  | c :: rest =>
    if isDigitOf base c then (moreDigits base rest).map fun read => (c :: read.1, read.2) else none
  | [] => none

/-- No further digit follows a zero at the start. -/
def wholeDigits : Reader (List Char)
  | '0' :: rest => some (['0'], rest)
  | text => digits 10 text

def splitSign : List Char → Bool × List Char
  | '-' :: rest => (true, rest)
  | '+' :: rest => (false, rest)
  | text => (false, text)

def integer? (negative : Bool) (digits : List Char) (base : Nat) : Option Data :=
  let value := valueOf base digits
  if negative then if value ≤ Data.signedBound then some (.integer (-value)) else none
  else if value < Data.signedBound then some (.integer value) else none

/-- The least number that is nearer to the next power of two than to the largest finite double. -/
def doubleLimit : Nat := Nat.pow 2 1024 - Nat.pow 2 970

def overflows (digits : List Char) (exponent : Int) : Bool :=
  let digits := digits.dropWhile (· == '0')
  let magnitude := digits.length + exponent
  if digits.isEmpty || magnitude < 308 then false
  else if 310 < magnitude then true
  else
    let value := valueOf 10 digits
    if 0 ≤ exponent then doubleLimit ≤ value * Nat.pow 10 exponent.toNat
    else doubleLimit * Nat.pow 10 (-exponent).toNat ≤ value

def exponent? : Reader (Option Int)
  | c :: rest =>
    if c == 'e' || c == 'E' then do
      let (negative, rest) := splitSign rest
      let (read, rest) ← digits 10 rest
      let value : Int := valueOf 10 read
      return (some (if negative then -value else value), rest)
    else some (none, c :: rest)
  | [] => some (none, [])

/-- A number with a fraction or an exponent; one too large upwards is refused. -/
def fraction? (negative : Bool) (whole : List Char) (text : List Char) :
    Option (Option Data × List Char) := do
  let (places, rest) ←
    match text with
    | '.' :: rest => (digits 10 rest).map fun read => (some read.1, read.2)
    | rest => some (none, rest)
  let (exponent, rest) ← exponent? rest
  if places.isNone && exponent.isNone then return (none, rest)
  let places := places.getD []
  let scale := exponent.getD 0 - places.length
  if !negative && overflows (whole ++ places) scale then none
  return (some .fraction, rest)

def startsWith (word : String) (text : List Char) : Option (List Char) :=
  if word.toList.isPrefixOf text then some (text.drop word.length) else none

def number? (text : List Char) : Option (Data × List Char) :=
  match text with
  | '0' :: 'x' :: rest => based 16 rest
  | '0' :: 'o' :: rest => based 8 rest
  | '0' :: 'b' :: rest => based 2 rest
  | _ =>
    let (negative, rest) := splitSign text
    match (startsWith "inf" rest).or (startsWith "nan" rest) with
    | some rest => some (.fraction, rest)
    | none => do
      let (whole, rest) ← wholeDigits rest
      match ← fraction? negative whole rest with
      | (some data, rest) => return (data, rest)
      | (none, _) => return (← integer? negative whole 10, rest)
where
  based (base : Nat) (text : List Char) : Option (Data × List Char) := do
    let (read, rest) ← digits base text
    return (← integer? false read base, rest)

/-! ### Dates and times -/

def ranged (count low high : Nat) (text : List Char) : Option (Nat × List Char) :=
  let read := text.take count
  if read.length = count ∧ read.all Char.isDigit then
    let value := valueOf 10 read
    if low ≤ value ∧ value ≤ high then some (value, text.drop count) else none
  else none

def after (c : Char) : List Char → Option (List Char)
  | first :: rest => if first == c then some rest else none
  | [] => none

def daysOf (year month : Nat) : Nat :=
  if month = 2 then if year % 4 = 0 ∧ (year % 100 ≠ 0 ∨ year % 400 = 0) then 29 else 28
  else if month = 4 ∨ month = 6 ∨ month = 9 ∨ month = 11 then 30
  else 31

def date? (text : List Char) : Option (List Char) := do
  let (year, rest) ← ranged 4 0 9999 text
  let (month, rest) ← ranged 2 1 12 (← after '-' rest)
  let (_, rest) ← ranged 2 1 (daysOf year month) (← after '-' rest)
  return rest

/-- Fractions of a second may have any number of digits. -/
def skipSubseconds : List Char → List Char
  | '.' :: c :: rest => if c.isDigit then rest.dropWhile Char.isDigit else '.' :: c :: rest
  | text => text

def time? (text : List Char) : Option (List Char) := do
  let (_, rest) ← ranged 2 0 23 text
  let (_, rest) ← ranged 2 0 59 (← after ':' rest)
  let (_, rest) ← ranged 2 0 60 (← after ':' rest)
  return skipSubseconds rest

def offset? : List Char → Option (List Char)
  | c :: rest =>
    if c == 'Z' || c == 'z' then some rest
    else if c == '+' || c == '-' then do
      let (_, rest) ← ranged 2 0 23 rest
      let (_, rest) ← ranged 2 0 59 (← after ':' rest)
      return rest
    else some (c :: rest)
  | [] => some []

def isTimeMark (c : Char) : Bool := c == 'T' || c == 't' || c == ' '

/-- A day, a time of day, or both; a time needs its colon to be taken for one. -/
def moment? (text : List Char) : Option (Data × List Char) :=
  match text.drop 4 with
  | '-' :: _ => do
    let rest ← date? text
    match rest with
    | mark :: behind =>
      if isTimeMark mark && (behind.drop 2).head? == some ':' && (ranged 2 0 23 behind).isSome then
        return (.moment, ← offset? (← time? behind))
      else return (.moment, rest)
    | [] => return (.moment, rest)
  | _ => (time? text).map fun rest => (.moment, rest)

def looksLikeMoment (text : List Char) : Bool :=
  let run := (text.takeWhile Char.isDigit).length
  (run == 4 && (text.drop 4).head? == some '-') || (run == 2 && (text.drop 2).head? == some ':')

end PasteQueue.Toml
