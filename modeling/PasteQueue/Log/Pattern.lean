import PasteQueue.Log.Nesting
import PasteQueue.Text.Alphanumeric
import PasteQueue.Text.Blank
import PasteQueue.Text.Digits

/-!
Which texts are patterns for the value of a field: regular expressions without tables of character
properties. Hence letters can be matched without regard to case, and words, digits and blanks be
asked for, only byte by byte, where nothing may match a part of a character. A text holds no closing
brace, so that nothing counted and no code in braces comes to an end. Patterns nest only so deep.
-/

namespace PasteQueue.Log.Pattern

/-- How the letters that follow are meant; a group has its own mode. -/
structure Mode where
  caseless : Bool := false
  bytes : Bool := false
  /-- Blanks count for nothing, and a number sign begins a comment. -/
  spaced : Bool := false
  deriving DecidableEq, Repr

inductive Atom
  | literal (c : Char)
  | byte (c : Char)
  | kind (negated : Bool)
  | edge
  | wordEdge
  deriving DecidableEq, Repr

namespace Mode

def flagLetters : List Char := ['i', 'm', 's', 'U', 'u', 'R', 'x']

def setFlag (mode : Mode) (on : Bool) : Char → Mode
  | 'i' => { mode with caseless := on }
  | 'u' => { mode with bytes := !on }
  | 'x' => { mode with spaced := on }
  | _ => mode

/-- Flags behind a dash are turned off. -/
def setFlags (mode : Mode) (flags : List Char) : Mode :=
  let (on, off) := flags.span (· ≠ '-')
  off.foldl (fun mode c => mode.setFlag false c) (on.foldl (fun mode c => mode.setFlag true c) mode)

def canFold (mode : Mode) : Bool := mode.bytes || !mode.caseless

def allows (mode : Mode) : Atom → Bool
  | .literal _ => mode.canFold
  | .byte c => mode.canFold && (!mode.bytes || c.toNat < 0x80)
  | .kind negated => mode.bytes && !negated
  | .edge => true
  | .wordEdge => mode.bytes

/-- Whether an atom can stand in a set. A set without members has no letters, in whatever case. -/
def allowsMember (mode : Mode) : Atom → Bool
  | .literal c | .byte c => if mode.bytes then c.toNat < 0x80 else !mode.caseless
  | .kind negated => mode.bytes && !negated
  | .edge | .wordEdge => false

end Mode

/-! ### Escapes -/

/-- How many characters count for nothing. -/
def blanksFrom (comment : Bool) : List Char → Nat
  | [] => 0
  | c :: rest =>
    if comment then blanksFrom (c ≠ '\n') rest + 1
    else if c = '#' then blanksFrom true rest + 1
    else if Text.isBlank c then blanksFrom false rest + 1
    else 0

def Mode.blanks (mode : Mode) (text : List Char) : Nat :=
  if mode.spaced then blanksFrom false text else 0

/-- The next character that counts, as far as the dash of a range looks ahead: of a comment it passes
over the sign only. -/
def Mode.peek? (mode : Mode) (text : List Char) : Option Char :=
  if mode.spaced then
    match text.dropWhile Text.isBlank with
    | '#' :: comment => (comment.dropWhile Text.isBlank).head?
    | rest => rest.head?
  else text.head?

def Mode.digits? (mode : Mode) : Nat → List Char → Option (List Char × Nat)
  | 0, _ => some ([], 0)
  | width + 1, text =>
    let blanks := mode.blanks text
    match text.drop blanks with
    | [] => none
    | c :: rest => do
      guard (Text.digitValue? 16 c).isSome
      let (digits, taken) ← mode.digits? width rest
      return (c :: digits, blanks + 1 + taken)

def charOfCode? (n : Nat) : Option Char :=
  if n.isValidChar then some (Char.ofNat n) else none

def Mode.code? (mode : Mode) (width : Nat) (text : List Char) : Option (Char × Nat) := do
  let (digits, taken) ← mode.digits? width text
  let c ← charOfCode? (Text.valueOf 16 digits)
  return (c, taken)

def controls : List (Char × Char) :=
  [('a', '\x07'), ('f', '\x0c'), ('t', '\t'), ('n', '\n'), ('r', '\r'), ('v', '\x0b')]

/-- Marks stand for themselves behind a backslash. -/
def isMark (c : Char) : Bool := c.toNat < 0x80 && !c.isAlphanum && c ≠ '<' && c ≠ '>'

def Mode.escape? (mode : Mode) : List Char → Option (Atom × Nat)
  | 'x' :: rest => (mode.code? 2 rest).map fun found => (.byte found.1, found.2 + 1)
  | 'u' :: rest => (mode.code? 4 rest).map fun found => (.literal found.1, found.2 + 1)
  | 'U' :: rest => (mode.code? 8 rest).map fun found => (.literal found.1, found.2 + 1)
  | 'b' :: '{' :: _ => none
  | c :: _ =>
    if isMark c then some (.literal c, 1)
    else if c ∈ ['d', 's', 'w'] then some (.kind false, 1)
    else if c ∈ ['D', 'S', 'W'] then some (.kind true, 1)
    else if c ∈ ['A', 'z'] then some (.edge, 1)
    else if c ∈ ['b', 'B', '<', '>'] then some (.wordEdge, 1)
    else (controls.lookup c).map fun control => (.literal control, 1)
  | [] => none

/-! ### Sets -/

/-- Where reading has got to within the brackets of a set. -/
inductive SetPlace
  /-- Behind the bracket: a caret negates, and dashes or one closing bracket are members. -/
  | opened (fresh empty : Bool)
  | body
  | member (atom : Atom)
  | range (first : Char)
  deriving DecidableEq, Repr

def namedSets : List String :=
  ["alnum", "alpha", "ascii", "blank", "cntrl", "digit", "graph", "lower", "print", "punct",
    "space", "upper", "word", "xdigit"]

/-- A named set behind its opening bracket: whether it is negated, and its length. -/
def namedSet? : List Char → Option (Bool × Nat)
  | ':' :: rest =>
    let (negated, rest) :=
      match rest with
      | '^' :: rest => (true, rest)
      | _ => (false, rest)
    let (name, rest) := rest.span (· ≠ ':')
    if [':', ']'].isPrefixOf rest && namedSets.contains (String.ofList name) then
      some (negated, name.length + if negated then 4 else 3)
    else none
  | _ => none

/-- Byte by byte, nothing is negated. -/
def Mode.allowsSet (mode : Mode) (negated : Bool) : Bool := !(mode.bytes && negated)

/-! ### Reading -/

/-- Where reading has got to. -/
inductive Spot
  /-- Between items; whether there is one that can be repeated. -/
  | item (repeatable : Bool)
  | flags (read : List Char)
  | name (read : List Char)
  /-- In a set, with the sets around it, the innermost first. -/
  | set (outer : List Level) (level : Level) (place : SetPlace)
  deriving DecidableEq, Repr

structure Reader where
  mode : Mode := {}
  level : Level := {}
  /-- The groups around it and their modes, the innermost first. -/
  outer : List (Mode × Level) := []
  names : List (List Char) := []
  spot : Spot := .item false
  skip : Nat := 0
  deriving DecidableEq, Repr

namespace Reader

def move (reader : Reader) (spot : Spot) (skip : Nat := 0) : Reader := { reader with spot, skip }

def push (reader : Reader) (depth : Nat) (repeatable : Bool) (skip : Nat := 0) : Reader :=
  { reader with level := reader.level.push depth, spot := .item repeatable, skip }

def openGroup (reader : Reader) : Reader :=
  { reader with
    level := {}, outer := (reader.mode, reader.level) :: reader.outer, spot := .item false,
    skip := 0 }

/-- Behind an opening parenthesis. What looks around is no pattern. -/
def group? (reader : Reader) (ahead : List Char) : Option Reader :=
  let blanks := reader.mode.blanks ahead
  match ahead.drop blanks with
  | '?' :: '=' :: _ | '?' :: '!' :: _ | '?' :: '<' :: '=' :: _ | '?' :: '<' :: '!' :: _ => none
  | '?' :: 'P' :: '<' :: _ => some (reader.move (.name []) (blanks + 3))
  | '?' :: '<' :: _ => some (reader.move (.name []) (blanks + 2))
  | '?' :: _ => some (reader.move (.flags []) (blanks + 1))
  | _ => some { reader.openGroup with skip := blanks }

def closeGroup? (reader : Reader) : Option Reader :=
  match reader.outer with
  | [] => none
  | (mode, level) :: outer =>
    some ({ reader with mode, level, outer }.push (reader.level.depth + 1) true)

def flag? (reader : Reader) (read : List Char) (c : Char) : Option Reader :=
  let dangling := read.getLast? = some '-'
  let mode := reader.mode.setFlags read
  match c with
  | ':' => if dangling then none else some { reader.openGroup with mode }
  | ')' => if read.isEmpty || dangling then none else some ({ reader with mode }.push 0 false)
  | c =>
    if read.contains c || !(c == '-' || Mode.flagLetters.contains c) then none
    else some (reader.move (.flags (read ++ [c])))

def canName (first : Bool) (c : Char) : Bool :=
  c == '_' || if first then Text.isAlphabetic c
    else Text.isAlphanumeric c || c == '.' || c == '[' || c == ']'

def name? (reader : Reader) (read : List Char) (c : Char) : Option Reader :=
  if c = '>' then
    if read.isEmpty || reader.names.contains read then none
    else some { reader.openGroup with names := read :: reader.names }
  else if canName read.isEmpty c then some (reader.move (.name (read ++ [c])))
  else none

def openSet? (reader : Reader) (outer : List Level) (ahead : List Char) : Option Reader :=
  let negated := (ahead.drop (reader.mode.blanks ahead)).head? = some '^'
  if reader.mode.allowsSet negated then some (reader.move (.set outer {} (.opened true true)))
  else none

def closeSet (reader : Reader) (outer : List Level) (level : Level) : Reader :=
  match outer with
  | [] => reader.push (level.depth + 1) true
  | around :: outer => reader.move (.set outer (around.push (level.depth + 1)) .body)

def member? (reader : Reader) (outer : List Level) (level : Level) (atom : Atom)
    (place : SetPlace) : Option Reader :=
  if reader.mode.allowsMember atom then some (reader.move (.set outer (level.push 0) place))
  else none

def body? (reader : Reader) (outer : List Level) (level : Level) (c : Char) (ahead : List Char) :
    Option Reader :=
  match c with
  | '[' =>
    match namedSet? ahead with
    | some (negated, length) =>
      if reader.mode.canFold && reader.mode.allowsSet negated then
        some (reader.move (.set outer (level.push 0) .body) length)
      else none
    | none => reader.openSet? (level :: outer) ahead
  | ']' => some (reader.closeSet outer level)
  | '\\' => (reader.mode.escape? ahead).map fun found =>
      reader.move (.set outer level (.member found.1)) found.2
  | c =>
    if c ∈ ['&', '-', '~'] ∧ ahead.head? = some c then
      some (reader.move (.set outer level.operate .body) 1)
    else some (reader.move (.set outer level (.member (.literal c))))

def rangeEnd? (reader : Reader) (first : Char) (c : Char) (ahead : List Char) : Option Nat := do
  let (last, taken) ← if c = '\\' then reader.mode.escape? ahead else some (.literal c, 0)
  guard (reader.mode.allowsMember last)
  match last with
  | .literal last | .byte last => guard (first ≤ last)
  | _ => none
  return taken

def set? (reader : Reader) (outer : List Level) (level : Level) (place : SetPlace) (c : Char)
    (ahead : List Char) : Option Reader :=
  match place with
  | .opened fresh empty =>
    if c = '^' ∧ fresh then some (reader.move (.set outer level (.opened false true)))
    else if c = '-' then reader.member? outer level (.literal c) (.opened false false)
    else if c = ']' ∧ empty then reader.member? outer level (.literal c) .body
    else reader.body? outer level c ahead
  | .body => reader.body? outer level c ahead
  | .member atom =>
    let next := reader.mode.peek? ahead
    if !reader.mode.allowsMember atom then none
    else if c = '-' ∧ next ≠ some ']' ∧ next ≠ some '-' then
      match atom with
      | .literal first | .byte first => some (reader.move (.set outer level (.range first)))
      | _ => none
    else reader.body? outer (level.push 0) c ahead
  | .range first =>
    (reader.rangeEnd? first c ahead).map fun taken =>
      reader.move (.set outer (level.push 0) .body) taken

/-- A question mark right behind a repetition belongs to it. -/
def item? (reader : Reader) (repeatable : Bool) (c : Char) (ahead : List Char) : Option Reader :=
  let atom (atom : Atom) (taken : Nat) : Option Reader :=
    if reader.mode.allows atom then some (reader.push 0 true taken) else none
  match c with
  | '(' => reader.group? ahead
  | ')' => reader.closeGroup?
  | '|' => some ({ reader with level := reader.level.alternate }.move (.item false))
  | '[' => reader.openSet? [] ahead
  | '?' | '*' | '+' =>
    if repeatable then
      some ({ reader with level := reader.level.repeatLast }.move (.item true)
        (if ahead.head? = some '?' then 1 else 0))
    else none
  | '{' => none
  | '\\' => (reader.mode.escape? ahead).bind fun found => atom found.1 found.2
  | '.' => if reader.mode.bytes then none else some (reader.push 0 true)
  | '^' | '$' => atom .edge 0
  | c => atom (.literal c) 0

def passesBlanks (reader : Reader) : Bool :=
  reader.mode.spaced &&
    match reader.spot with
    | .item _ | .set .. => true
    | _ => false

def step? (reader : Reader) (c : Char) (ahead : List Char) : Option Reader :=
  let blanks := blanksFrom false (c :: ahead)
  if reader.skip > 0 then some { reader with skip := reader.skip - 1 }
  else if reader.passesBlanks && blanks > 0 then some { reader with skip := blanks - 1 }
  else
    match reader.spot with
    | .item repeatable => reader.item? repeatable c ahead
    | .flags read => reader.flag? read c
    | .name read => reader.name? read c
    | .set outer level place => reader.set? outer level place c ahead

def run? (reader : Reader) : List Char → Option Reader
  | [] => some reader
  | c :: ahead => (reader.step? c ahead).bind fun reader => reader.run? ahead

def deepest : Nat := 250

def isDone (reader : Reader) : Bool :=
  match reader.spot with
  | .item _ => reader.outer.isEmpty && reader.level.depth ≤ deepest
  | _ => false

end Reader

end Pattern

def isPattern (text : List Char) : Bool := (Pattern.Reader.run? {} text).any (·.isDone)

end PasteQueue.Log
