import PasteQueue.Toml.Number
import PasteQueue.Toml.Tree

/-!
Reading TOML documents: values with their arrays and inline tables, then lines of keys and headers.
-/

namespace PasteQueue.Toml

/-- Values between separators, up to what closes the array; the last may be followed by a
separator. -/
def arrayFrom (value : Reader Data) : Nat → List Data → Reader Data
  | 0, _, _ => none
  | fuel + 1, read, text =>
    match skipLines text with
    | ']' :: rest => some (.list read.reverse, rest)
    | text => do
      let (item, rest) ← value text
      match skipLines rest with
      | ',' :: rest => arrayFrom value fuel (item :: read) rest
      | ']' :: rest => some (.list (item :: read).reverse, rest)
      | _ => none

/-- Keys and values of an inline table; the last is not followed by a separator. -/
def inlineFrom (value : Reader Data) : Nat → Entries → Reader Data
  | 0, _, _ => none
  | fuel + 1, entries, text => do
    let (path, rest) ← key? text
    match rest with
    | '=' :: rest =>
      let (item, rest) ← value (skipBlanks rest)
      let entries ← defineAt path item false entries
      match skipBlanks rest with
      | ',' :: rest => inlineFrom value fuel entries rest
      | '}' :: rest => some (.record (entriesToData entries), rest)
      | _ => none
    | _ => none

def inline? (value : Reader Data) (text : List Char) : Option (Data × List Char) :=
  match skipBlanks text with
  | '}' :: rest => some (.record [], rest)
  | text => inlineFrom value (text.length + 1) [] text

/-- A value in which arrays and tables may nest so deep. -/
def valueWithin : Nat → Reader Data
  | depth, text =>
    match text with
    | '"' :: _ | '\'' :: _ => (string? text).map fun read => (.text read.1, read.2)
    | '[' :: rest =>
      match depth with
      | 0 => none
      | depth + 1 => arrayFrom (valueWithin depth) (rest.length + 1) [] rest
    | '{' :: rest =>
      match depth with
      | 0 => none
      | depth + 1 => inline? (valueWithin depth) rest
    | 't' :: _ => (startsWith "true" text).map (.bool true, ·)
    | 'f' :: _ => (startsWith "false" text).map (.bool false, ·)
    | _ => if looksLikeMoment text then moment? text else number? text

def value? : Reader Data := valueWithin (depthLimit - 1)

/-- A document with the header that is in force: a path, whose last table takes the keys. -/
structure Draft where
  header : List String := []
  root : Entries := []

namespace Draft

def define (draft : Draft) (path : List String) (value : Data) : Option Draft := do
  let root ← changeAt false (defineAt path value) draft.header false draft.root
  return { draft with root }

def openWith (draft : Draft) (path : List String) (change : String → Change) : Option Draft := do
  let (front, last) := splitLast path
  let root ← changeAt false (change last) front false draft.root
  return { header := path, root }

end Draft

def entry? (draft : Draft) (text : List Char) : Option (Draft × List Char) := do
  match text with
  | '[' :: '[' :: rest =>
    let (path, rest) ← key? rest
    match rest with
    | ']' :: ']' :: rest => return (← draft.openWith path openNext, ← endOfLine? rest)
    | _ => none
  | '[' :: rest =>
    let (path, rest) ← key? rest
    match rest with
    | ']' :: rest => return (← draft.openWith path openTable, ← endOfLine? rest)
    | _ => none
  | text =>
    let (path, rest) ← key? text
    match rest with
    | '=' :: rest =>
      let (value, rest) ← value? (skipBlanks rest)
      let rest ← endOfLine? rest
      return (← draft.define path value, rest)
    | _ => none

def linesFrom : Nat → Draft → List Char → Option Draft
  | 0, _, _ => none
  | fuel + 1, draft, text =>
    match skipBlanks text with
    | [] => some draft
    | '#' :: rest => do linesFrom fuel draft (← endOfLine? ('#' :: rest))
    | text =>
      match newline? text with
      | some rest => linesFrom fuel draft rest
      | none => do
        let (draft, rest) ← entry? draft text
        linesFrom fuel draft rest

def skipMark : List Char → List Char
  | '\uFEFF' :: rest => rest
  | text => text

/-- The keys and values of a document, or nothing if it is malformed. -/
def parse (text : String) : Option Data :=
  let text := skipMark text.toList
  (linesFrom (text.length + 1) {} text).map fun draft => .record (entriesToData draft.root)

end PasteQueue.Toml
