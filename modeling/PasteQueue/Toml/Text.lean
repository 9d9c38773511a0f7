import PasteQueue.Text.Digits

/-!
The lexical pieces of TOML: blanks, ends of lines, comments, the four kinds of strings, and keys.
Readers take the characters that are left and give back a value and what follows it, or nothing if
the text is malformed.
-/

namespace PasteQueue.Toml

abbrev Reader (α : Type) := List Char → Option (α × List Char)

def isBlank (c : Char) : Bool := c == ' ' || c == '\t'

/-- Tabs and everything but control characters. -/
def isPlain (c : Char) : Bool := c == '\t' || (0x20 ≤ c.toNat && c.toNat != 0x7F)

def skipBlanks (text : List Char) : List Char := text.dropWhile isBlank

def newline? : List Char → Option (List Char)
  | '\n' :: rest => some rest
  | '\r' :: '\n' :: rest => some rest
  | _ => none

def skipComment : List Char → List Char
  | '#' :: rest => rest.dropWhile isPlain
  | text => text

/-- What may follow on a line: blanks and a comment. -/
def endOfLine? (text : List Char) : Option (List Char) :=
  match skipComment (skipBlanks text) with
  | [] => some []
  | rest => newline? rest

/-- Blanks, ends of lines and comments, each comment with the end of its line. -/
def skipLinesFrom : Nat → List Char → List Char
  | 0, text => text
  | fuel + 1, text =>
    let text := skipBlanks text
    match text with
    | '#' :: _ =>
      match newline? (skipComment text) with
      | some rest => skipLinesFrom fuel rest
      | none => text
    | _ =>
      match newline? text with
      | some rest => skipLinesFrom fuel rest
      | none => text

def skipLines (text : List Char) : List Char := skipLinesFrom (text.length + 1) text

/-! ### Strings -/

def simpleEscape? : Char → Option Char
  | 'b' => some '\x08'
  | 't' => some '\t'
  | 'n' => some '\n'
  | 'f' => some '\x0c'
  | 'r' => some '\r'
  | '"' => some '"'
  | '\\' => some '\\'
  | _ => none

def codePoint? (digits : List Char) (count : Nat) : Option Char :=
  if digits.length = count then do
    let values ← digits.mapM (Text.digitValue? 16)
    let code := values.foldl (fun code digit => 16 * code + digit) 0
    if h : code.isValidChar then some (Char.ofNatAux code h) else none
  else none

def escape : Reader Char
  | 'u' :: rest => (codePoint? (rest.take 4) 4).map (·, rest.drop 4)
  | 'U' :: rest => (codePoint? (rest.take 8) 8).map (·, rest.drop 8)
  | c :: rest => (simpleEscape? c).map (·, rest)
  | [] => none

/-- The rest of a string in double quotes on one line, behind what has been read, last first. -/
def basicFrom : Nat → List Char → Reader String
  | 0, _, _ => none
  | fuel + 1, read, text =>
    match text with
    | '"' :: rest => some (String.ofList read.reverse, rest)
    | '\\' :: rest => do
      let (c, rest) ← escape rest
      basicFrom fuel (c :: read) rest
    | c :: rest => if isPlain c then basicFrom fuel (c :: read) rest else none
    | [] => none

def basic (text : List Char) : Option (String × List Char) := basicFrom (text.length + 1) [] text

/-- The rest of a string in single quotes on one line: everything stands for itself. -/
def literal (text : List Char) : Option (String × List Char) :=
  match text.dropWhile fun c => isPlain c && c != '\'' with
  | '\'' :: rest => some (String.ofList (text.takeWhile fun c => isPlain c && c != '\''), rest)
  | _ => none

/-- A run of three or more quotes ends a string of several lines; up to two of them belong to it. -/
def closing? (quote : Char) (text : List Char) : Option (List Char × List Char) :=
  let run := min 5 (text.takeWhile (· == quote)).length
  if 3 ≤ run then some (List.replicate (run - 3) quote, text.drop run) else none

/-- A backslash at the end of a line takes away the line's end and all blanks behind it. -/
def lineJoin? (text : List Char) : Option (List Char) :=
  (newline? (skipBlanks text)).map fun rest => skipJoined (rest.length + 1) rest
where
  skipJoined : Nat → List Char → List Char
    | 0, text => text
    | fuel + 1, text =>
      match newline? (skipBlanks text) with
      | some rest => skipJoined fuel rest
      | none => skipBlanks text

/-- A string of several lines, in double quotes or, without escapes, in single ones. Every end of
line reads as a line feed. -/
def longFrom (quote : Char) : Nat → List Char → Reader String
  | 0, _, _ => none
  | fuel + 1, read, text =>
    match closing? quote text with
    | some (quotes, rest) => some (String.ofList (read.reverse ++ quotes), rest)
    | none =>
      match newline? text with
      | some rest => longFrom quote fuel ('\n' :: read) rest
      | none =>
        match text with
        | [] => none
        | c :: rest =>
          if c == '\\' && quote == '"' then
            match lineJoin? rest with
            | some rest => longFrom quote fuel read rest
            | none => do
              let (c, rest) ← escape rest
              longFrom quote fuel (c :: read) rest
          else if isPlain c then longFrom quote fuel (c :: read) rest
          else none

/-- A line's end right behind the opening quotes does not count. -/
def long (quote : Char) (text : List Char) : Option (String × List Char) :=
  longFrom quote (text.length + 1) [] ((newline? text).getD text)

def string? : Reader String
  | '"' :: '"' :: '"' :: rest => long '"' rest
  | '\'' :: '\'' :: '\'' :: rest => long '\'' rest
  | '"' :: rest => basic rest
  | '\'' :: rest => literal rest
  | _ => none

/-! ### Keys -/

def isBare (c : Char) : Bool := c.isAlphanum || c == '_' || c == '-'

def simpleKey? : Reader String
  | '"' :: rest => basic rest
  | '\'' :: rest => literal rest
  | text =>
    match text.takeWhile isBare with
    | [] => none
    | name => some (String.ofList name, text.dropWhile isBare)

/-- A key has fewer parts than this, and values nest less deep. -/
def depthLimit : Nat := 80

def keyFrom : Nat → Reader (List String)
  | 0, _ => none
  | fuel + 1, text => do
    let (name, rest) ← simpleKey? (skipBlanks text)
    match skipBlanks rest with
    | '.' :: rest =>
      let (names, rest) ← keyFrom fuel rest
      return (name :: names, rest)
    | rest => return ([name], rest)

def key? (text : List Char) : Option (List String × List Char) :=
  (keyFrom (text.length + 1) text).filter fun read => read.1.length < depthLimit

end PasteQueue.Toml
