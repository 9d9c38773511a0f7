import PasteQueue.Clipboard.Item
import PasteQueue.Log.Record

/-!
The part of the desktop that the program works on: a clipboard whose every change counts up a
sequence number, and a keyboard that can press paste and type texts. Calls fail as a script for
each kind of call says; a failed call changes nothing but its script.
-/

namespace PasteQueue

open Clipboard (Content Item)

namespace Desktop

inductive Call
  | read | write | paste | type
  deriving DecidableEq, Repr

structure Fault where
  call : Call
  reason : String
  deriving DecidableEq, Repr

def Fault.message (fault : Fault) : String :=
  (match fault.call with
    | .read => "clipboard read failed: "
    | .write => "clipboard write failed: "
    | .paste => "paste keystroke failed: "
    | .type => "typing text failed: ") ++ fault.reason

/-- What the coming calls of each kind meet with: a failure with its reason, or nothing. -/
structure Scripts where
  read : List (Option String) := []
  write : List (Option String) := []
  paste : List (Option String) := []
  type : List (Option String) := []
  deriving DecidableEq, Repr

namespace Scripts

def of (scripts : Scripts) : Call → List (Option String)
  | .read => scripts.read
  | .write => scripts.write
  | .paste => scripts.paste
  | .type => scripts.type

def set (scripts : Scripts) (call : Call) (entries : List (Option String)) : Scripts :=
  match call with
  | .read => { scripts with read := entries }
  | .write => { scripts with write := entries }
  | .paste => { scripts with paste := entries }
  | .type => { scripts with type := entries }

def append (scripts : Scripts) (call : Call) (entries : List (Option String)) : Scripts :=
  scripts.set call (scripts.of call ++ entries)

def next (scripts : Scripts) (call : Call) : Option Fault × Scripts :=
  match scripts.of call with
  | [] => (none, scripts)
  | entry :: rest => (entry.map (Fault.mk call), scripts.set call rest)

end Scripts

end Desktop

/-- Item identities are minted one after the other. The sequence number that callers see can be held
at a value. -/
structure Desktop where
  current : Item := ⟨.minted 0, .empty⟩
  sequence : UInt32 := 0
  writes : Nat := 0
  minted : Nat := 1
  heldSequence : Option UInt32 := none
  pastes : Nat := 0
  typed : Nat := 0
  lastTyped : Option String := none
  scripts : Desktop.Scripts := {}
  deriving Repr

namespace Desktop

def target : String := "clipqueue_host::infrastructure::clipboard::memory"

def mint (desktop : Desktop) (content : Content) : Item × Desktop :=
  (⟨.minted desktop.minted, content⟩, { desktop with minted := desktop.minted + 1 })

def seenSequence (desktop : Desktop) : UInt32 := desktop.heldSequence.getD desktop.sequence

def replace (desktop : Desktop) (item : Item) : Desktop :=
  { desktop with current := item, sequence := desktop.sequence + 1 }

/-- Somebody else copies something. -/
def copy (desktop : Desktop) (content : Content) : Desktop :=
  let (item, desktop) := desktop.mint content
  desktop.replace item

def copyRecord (after : Desktop) : Log.Record :=
  ⟨.debug, target, "external clipboard change", [("seq", .number after.sequence.toNat)]⟩

def read (desktop : Desktop) : Except Fault Item × Desktop :=
  match desktop.scripts.next .read with
  | (some fault, scripts) => (.error fault, { desktop with scripts })
  | (none, scripts) =>
    let (item, after) := mint { desktop with scripts } desktop.current.content
    (.ok item, after)

/-- The item keeps its identity on the clipboard. -/
def write (desktop : Desktop) (item : Item) : Option Fault × Desktop :=
  match desktop.scripts.next .write with
  | (some fault, scripts) => (some fault, { desktop with scripts })
  | (none, scripts) =>
    (none, { desktop.replace item with scripts, writes := desktop.writes + 1 })

def writeRecord (after : Desktop) (item : Item) : Log.Record :=
  ⟨.debug, target, "clipboard written",
    [("seq", .number after.sequence.toNat), ("content_type", .plain item.kind.label)]⟩

def pressPaste (desktop : Desktop) : Option Fault × Desktop :=
  match desktop.scripts.next .paste with
  | (some fault, scripts) => (some fault, { desktop with scripts })
  | (none, scripts) => (none, { desktop with scripts, pastes := desktop.pastes + 1 })

def pasteRecord (after : Desktop) : Log.Record :=
  ⟨.info, target, "paste keystroke (Ctrl+V)", [("count", .number after.pastes)]⟩

def typeText (desktop : Desktop) (text : String) : Option Fault × Desktop :=
  match desktop.scripts.next .type with
  | (some fault, scripts) => (some fault, { desktop with scripts })
  | (none, scripts) =>
    (none, { desktop with scripts, typed := desktop.typed + 1, lastTyped := some text })

def typeRecord (after : Desktop) (text : String) : Log.Record :=
  ⟨.info, target, "typing text",
    [("count", .number after.typed), ("chars", .number text.length)]⟩

end Desktop

end PasteQueue
