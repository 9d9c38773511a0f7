import PasteQueue.Log.Pattern
import PasteQueue.Log.Record
import PasteQueue.Text.Numeral

/-!
Log filters. A filter is written as directives between commas, each for a target or for everything.
Of the directives that concern a record, the most specific one says up to which level records are
written.
-/

namespace PasteQueue.Log

inductive Threshold
  | off
  | upTo (level : Level)
  deriving DecidableEq, Repr

namespace Threshold

def admits : Threshold → Level → Bool
  | off, _ => false
  | upTo most, level => level.rank ≤ most.rank

def all : List Threshold := off :: Level.all.map upTo

def ofNumber? (text : List Char) : Option Threshold :=
  let digits :=
    match text with
    | '+' :: rest => rest
    | _ => text
  if digits.isEmpty || !digits.all Char.isDigit then none else all[Text.valueOf 10 digits]?

/-- A threshold is a number, the name of a level or `off`. -/
def ofText? (text : List Char) : Option Threshold :=
  match ofNumber? text, Level.ofName? text with
  | some threshold, _ => some threshold
  | none, some level => some (upTo level)
  | none, none => if text.map Char.toLower = "off".toList then some off else none

end Threshold

/-- What one part of a filter says, and of which records: those whose target starts with its
target, and that have its field. A directive for spans concerns no record. -/
structure Directive where
  target : Option (List Char) := none
  field : Option (List Char) := none
  forSpans : Bool := false
  threshold : Threshold := .upTo .trace
  deriving DecidableEq, Repr

inductive FilterFault
  | malformed
  /-- A character would have to be cut in two; that is the end of the program. -/
  | torn
  deriving DecidableEq, Repr

namespace Directive

/-! ### Reading -/

/-- The characters behind a number of bytes, unless the last byte is in the middle of one. -/
def dropBytes? : Nat → List Char → Option (List Char)
  | 0, text => some text
  | _ + 1, [] => none
  | n + 1, c :: rest => if c.utf8Size ≤ n + 1 then dropBytes? (n + 1 - c.utf8Size) rest else none

def takeBytes? : Nat → List Char → Option (List Char)
  | 0, _ => some []
  | _ + 1, [] => none
  | n + 1, c :: rest =>
    if c.utf8Size ≤ n + 1 then (takeBytes? (n + 1 - c.utf8Size) rest).map (c :: ·) else none

def cutEnd (text : List Char) (start : Nat) : Except FilterFault (List Char) :=
  match dropBytes? start text with
  | some part => .ok part
  | none => .error .torn

def cut (text : List Char) (start stop : Nat) : Except FilterFault (List Char) := do
  match takeBytes? (stop - start) (← cutEnd text start) with
  | some part => return part
  | none => throw .torn

/-- Where reading has got to, and where the part that it is in begins. -/
inductive Place
  | start
  | word (start : Nat)
  | span (start : Nat)
  | field (start : Nat)
  | fieldEnd
  | bracketEnd
  | level (start : Nat)
  deriving DecidableEq, Repr

def canStart (c : Char) : Bool := Text.isAlphanumeric c || c == '-' || c == ':' || c == '_'

/-- A number is looked for as it is, and anything else as a pattern. -/
def isValue (text : List Char) : Bool := Text.isNumeral text || isPattern text

/-- A field, of which a value may be asked. Only that of a span's field can be. -/
def withField (directive : Directive) (text : List Char) : Except FilterFault Directive :=
  match text.splitOn '=' with
  | name :: value :: _ =>
    if isValue value then .ok { directive with field := some name, forSpans := true }
    else .error .malformed
  | _ => .ok { directive with field := some text }

/-- Reads a character, given its position. Positions are counted without the blanks in front of the
directive, but parts are cut from the text with them. -/
def step (text : List Char) (position : Nat) (c : Char) (directive : Directive) :
    Place → Except FilterFault (Directive × Place)
  | .start =>
    if c = '[' then .ok (directive, .span (position + 1))
    else if canStart c then .ok (directive, .word position)
    else .error .malformed
  | .word start => do
    if c = '=' then
      return ({ directive with target := some (← cut text start position) }, .level (position + 1))
    else if c = '[' then
      return ({ directive with target := some (← cut text start position) }, .span (position + 1))
    else return (directive, .word start)
  | .span start => do
    if c = ']' then
      let _ ← cut text start position
      return ({ directive with forSpans := true }, .bracketEnd)
    else if c = '{' then
      let name ← cut text start position
      return ({ directive with forSpans := !name.isEmpty }, .field (position + 1))
    else return (directive, .span start)
  | .field start => do
    if c = '}' then
      let field ← cut text start position
      if field.isEmpty then throw .malformed
      return (← directive.withField field, .fieldEnd)
    else return (directive, .field start)
  | .fieldEnd => if c = ']' then .ok (directive, .bracketEnd) else .error .malformed
  | .bracketEnd => if c = '=' then .ok (directive, .level (position + 1)) else .error .malformed
  | .level start => .ok (directive, .level start)

/-- A word alone is a threshold for everything, or else a target. -/
def ofWord (word : List Char) : Directive :=
  match Threshold.ofText? word with
  | some threshold => { threshold }
  | none => { target := some word }

def withLevel (directive : Directive) (level : List Char) : Except FilterFault Directive :=
  if level.isEmpty then .ok directive
  else
    match Threshold.ofText? level with
    | some threshold => .ok { directive with threshold }
    | none => .error .malformed

def finish (text : List Char) (directive : Directive) : Place → Except FilterFault Directive
  | .word start => (cutEnd text start).map ofWord
  | .level start => do directive.withLevel (← cutEnd text start)
  | .bracketEnd => .ok directive
  | _ => .error .malformed

def readFrom (text : List Char) (position : Nat) (directive : Directive) (place : Place) :
    List Char → Except FilterFault Directive
  | [] => directive.finish text place
  | c :: rest => do
    let (directive, place) ← directive.step text position c place
    directive.readFrom text (position + c.utf8Size) place rest

/-- A directive is a target, then something in brackets, then a level behind an equals sign. Each
may be missing, the target only in front of a bracket. -/
def ofText (text : List Char) : Except FilterFault Directive :=
  readFrom text 0 {} .start (Text.trim text)

/-! ### Deciding -/

def hasField (record : Record) (name : List Char) : Bool :=
  name = "message".toList || record.fields.any fun field => field.1.toList = name

def concerns (directive : Directive) (record : Record) : Bool :=
  !directive.forSpans && (directive.target.getD []).isPrefixOf record.target.toList &&
    directive.field.all (hasField record)

def fieldLE : Option (List Char) → Option (List Char) → Bool
  | none, _ => true
  | some _, none => false
  | some first, some second => !decide (second < first)

/-- Whether the second directive is at least as specific: the longer target counts, then the
field. -/
def specificLE (first second : Directive) : Bool :=
  let length (directive : Directive) : Nat := (directive.target.getD []).length
  length first < length second ||
    length first == length second && fieldLE first.field second.field

end Directive

structure Filter where
  directives : List Directive
  deriving DecidableEq, Repr

namespace Filter

/-- Of equally specific directives the last one counts. -/
def mostSpecific? (directives : List Directive) : Option Directive :=
  directives.foldl
    (fun best directive =>
      match best with
      | some other => if other.specificLE directive then some directive else best
      | none => some directive)
    none

/-- Records that no directive concerns are not written. -/
def admits (filter : Filter) (record : Record) : Bool :=
  (mostSpecific? (filter.directives.filter (·.concerns record))).any
    (·.threshold.admits record.level)

def records (filter : Filter) (records : List Record) : List Record :=
  records.filter filter.admits

/-- Every part has to be a directive. Without any, errors are written. -/
def ofText (text : String) : Except FilterFault Filter := do
  let parts := (text.toList.splitOn ',').filter (!·.isEmpty)
  let directives ← parts.mapM Directive.ofText
  return ⟨if directives.isEmpty then [{ threshold := .upTo .error }] else directives⟩

def standard : Filter := ⟨[{ threshold := .upTo .info }]⟩

/-- A text that is torn is the end; any other that is no filter is as good as none. -/
def ofText? (text : String) : Option (Option Filter) :=
  match ofText text with
  | .ok filter => some (some filter)
  | .error .malformed => some none
  | .error .torn => none

def choose? (first : Option String) (second : String) : Option Filter := do
  match ← (first.map ofText?).getD (some none) with
  | some filter => return filter
  | none => return (← ofText? second).getD standard

end Filter

end PasteQueue.Log
