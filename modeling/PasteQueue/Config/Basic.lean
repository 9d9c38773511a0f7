import PasteQueue.Controller.Basic
import PasteQueue.Signature.Stored

/-!
The configuration: one section for each concern, and text macros. Everything has a default.
-/

namespace PasteQueue

namespace Config

structure AppSection where
  logLevel : String := "info"
  deriving DecidableEq, Repr

structure HotkeySection where
  toggleQueue : String := "sig:AQADCgBDAC4AAAAAAAAB"
  pasteNext : String := "sig:AQADCgBWAC8AAAAAAAAB"
  toggleQueueDisplay : String := "Ctrl+Alt+C"
  pasteNextDisplay : String := "Ctrl+Alt+V"
  deriving DecidableEq, Repr

/-- Times are milliseconds. -/
structure ClipboardSection where
  watchDebounce : Nat := 30
  pasteDelay : Nat := 100
  restoreDelay : Nat := 250
  dedupWindow : Nat := 1000
  echoCapacity : Nat := 8
  historyCapacity : Nat := 50
  deriving DecidableEq, Repr

structure QueueSection where
  defaultOrder : String := "LIFO"
  deriving DecidableEq, Repr

structure FeatureSection where
  queue : Bool := true
  clipboard : Bool := true
  macros : Bool := true
  deriving DecidableEq, Repr

/-- A text that a hotkey brings. A captured signature goes before the written hotkey. -/
structure TextMacro where
  name : String := ""
  hotkey : String := ""
  signature : String := ""
  text : String := ""
  delivery : Delivery := .typed
  deriving DecidableEq, Repr

def TextMacro.effectiveHotkey (entry : TextMacro) : String :=
  if entry.signature.isEmpty then entry.hotkey else entry.signature

end Config

structure Config where
  app : Config.AppSection := {}
  hotkeys : Config.HotkeySection := {}
  clipboard : Config.ClipboardSection := {}
  queue : Config.QueueSection := {}
  features : Config.FeatureSection := {}
  macros : List Config.TextMacro := []
  deriving DecidableEq, Repr

namespace Config

inductive MacroFault
  | emptyHotkey
  | unreadable (error : ReadError)
  deriving DecidableEq, Repr

def MacroFault.message : MacroFault → String
  | emptyHotkey => "empty hotkey"
  | unreadable error => error.message

inductive Error
  | noDirectory
  | io
  | malformed
  | unwritable
  | invalidHotkey (field : String) (source : ReadError)
  | invalidMacro (index : Nat) (reason : MacroFault)
  | unknownBinding (name : String)
  deriving DecidableEq, Repr

/-- What is said of an error; faults of files and of TOML texts come with words of their own. -/
def Error.message? : Error → Option String
  | noDirectory => some "could not determine platform config directory"
  | io | malformed | unwritable => none
  | invalidHotkey field source =>
    some ("invalid hotkey for " ++ field ++ ": " ++ source.message)
  | invalidMacro index reason =>
    some ("macro " ++ Text.decimal index ++ " is invalid: " ++ reason.message)
  | unknownBinding name =>
    some ("unknown binding " ++ Text.quoted name ++
      "; expected toggle_queue, paste_next or a macro name")

def Error.chain (error : Error) : List String :=
  error.message?.toList ++
    match error with
    | .invalidHotkey _ source => [source.message]
    | _ => []

end Config

end PasteQueue
