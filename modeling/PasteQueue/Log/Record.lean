import PasteQueue.Text.Lines
import PasteQueue.Text.Quoted

/-!
Log records: a severity, the part of the program that speaks, a message and named values, and the
line that is written for a record.
-/

namespace PasteQueue.Log

inductive Level
  | error | warn | info | debug | trace
  deriving DecidableEq, Repr, Inhabited

namespace Level

/-- More detailed levels have higher ranks. -/
def rank : Level → Nat
  | error => 1
  | warn => 2
  | info => 3
  | debug => 4
  | trace => 5

def label : Level → String
  | error => "ERROR"
  | warn => "WARN"
  | info => "INFO"
  | debug => "DEBUG"
  | trace => "TRACE"

def all : List Level := [error, warn, info, debug, trace]

def ofName? (name : List Char) : Option Level :=
  all.find? fun level => level.label.toList == name.map Char.toUpper

end Level

inductive Value
  | plain (text : String)
  | quoted (text : String)
  | number (n : Nat)
  deriving DecidableEq, Repr

def Value.text : Value → String
  | plain text => text
  | quoted text => Text.quoted text
  | number n => Text.decimal n

structure Record where
  level : Level
  target : String
  message : String
  fields : List (String × Value) := []
  deriving DecidableEq, Repr

def Record.line (record : Record) : String :=
  record.level.label ++ " " ++ record.target ++ ": " ++ record.message ++
    String.join (record.fields.map fun field => " " ++ field.1 ++ "=" ++ field.2.text)

def Record.lines (record : Record) : List String :=
  (Text.lines record.line.toList).map fun line => String.ofList (Text.trimStart line)

def lines (level : Level) (records : List Record) : List String :=
  (records.filter fun record => record.level.rank ≤ level.rank).flatMap Record.lines

end PasteQueue.Log
