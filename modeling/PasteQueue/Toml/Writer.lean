import PasteQueue.Data
import PasteQueue.Text.Digits

/-!
Writing TOML. A string gets the plainest quotes in which it needs no escapes, and double quotes with
escapes if there are none.
-/

namespace PasteQueue.Toml

inductive Quotes
  | double | single | longDouble | longSingle
  deriving DecidableEq, Repr

def longestRun (c : Char) (text : List Char) : Nat :=
  (text.foldl (fun (run, longest) d =>
    let run := if d = c then run + 1 else 0
    (run, max run longest)) ((0, 0) : Nat × Nat)).2

def isControl (c : Char) : Bool := c.toNat < 0x20 || c.toNat == 0x7F

def quotesFor (text : List Char) : Quotes :=
  let controls := text.any fun c => isControl c && c != '\t' && c != '\n'
  let escapes := text.contains '\\'
  let lines := text.contains '\n'
  let doubles := longestRun '"' text
  let singles := longestRun '\'' text
  if !controls && !escapes && !lines && doubles == 0 then .double
  else if !controls && !lines && singles == 0 then .single
  else if !controls && !escapes && doubles ≤ 2 then .longDouble
  else if !controls && singles ≤ 2 then .longSingle
  else if lines then .longDouble
  else .double

def escapeOf? (c : Char) : Option String :=
  match c with
  | '\x08' => some "\\b"
  | '\t' => some "\\t"
  | '\n' => some "\\n"
  | '\x0c' => some "\\f"
  | '\r' => some "\\r"
  | '\\' => some "\\\\"
  | c =>
    if isControl c then some ("\\u" ++ Text.padLeft 4 (Text.hexUpper c.toNat)) else none

def escapeShort (c : Char) : String :=
  if c = '"' then "\\\"" else (escapeOf? c).getD c.toString

/-- Between triple quotes the third of a run of quotes is escaped, so that no run ends the string;
line feeds stand for themselves. The number counts the quotes that have just been written. -/
def escapeLong : Nat → List Char → String
  | _, [] => ""
  | run, '"' :: rest =>
    if run = 2 then "\\\"" ++ escapeLong 0 rest else "\"" ++ escapeLong (run + 1) rest
  | _, '\n' :: rest => "\n" ++ escapeLong 0 rest
  | _, c :: rest => (escapeOf? c).getD c.toString ++ escapeLong 0 rest

def quote (text : String) : String :=
  let chars := text.toList
  let opening := if chars.contains '\n' then "\n" else ""
  match quotesFor chars with
  | .double => "\"" ++ String.join (chars.map escapeShort) ++ "\""
  | .single => "'" ++ text ++ "'"
  | .longDouble => "\"\"\"" ++ opening ++ escapeLong 0 chars ++ "\"\"\""
  | .longSingle => "'''" ++ opening ++ text ++ "'''"

/-- A value on one line; integers have to fit into 64 bits with a sign. -/
def scalar? : Data → Option String
  | .bool value => some (if value then "true" else "false")
  | .integer value =>
    if -(Data.signedBound : Int) ≤ value ∧ value < Data.signedBound then
      some ((if value < 0 then "-" else "") ++ Text.decimal value.natAbs)
    else none
  | .text value => some (quote value)
  | _ => none

def section? (header : String) (fields : List (String × Data)) : Option String := do
  let lines ← fields.mapM fun field => do
    return field.1 ++ " = " ++ (← scalar? field.2) ++ "\n"
  return header ++ "\n" ++ String.join lines

end PasteQueue.Toml
