import PasteQueue.Config.Basic
import PasteQueue.Interchange
import PasteQueue.Toml.Document
import PasteQueue.Toml.Writer

/-!
Configurations as structured data and as TOML text. A section, or a macro, is read from a record of
its fields, where others may stand too, or from the list of its fields in order. What is missing
takes its default.
-/

namespace PasteQueue

structure Dialect where
  /-- Whether a list may have more values than there are fields. -/
  extraFields : Bool
  /-- What may stand beside a name for no contents. -/
  isNothing : Data → Bool

namespace Dialect

def json : Dialect where
  extraFields := false
  isNothing
    | .null => true
    | _ => false

def toml : Dialect where
  extraFields := true
  isNothing
    | .list [] | .record [] => true
    | _ => false

/-- The values of fields, by name. A moment in time is a record without any known field. -/
def fields? (dialect : Dialect) (names : List String) : Data → Option (String → Option Data)
  | .record fields => some fun name => fields.lookup name
  | .moment => some fun _ => none
  | .list values =>
    if dialect.extraFields || values.length ≤ names.length then
      some fun name => (names.zip values).lookup name
    else none
  | _ => none

end Dialect

def Delivery.dataName : Delivery → String
  | typed => "type"
  | pasted => "paste"

def Delivery.ofName? : String → Option Delivery
  | "type" => some .typed
  | "paste" => some .pasted
  | _ => none

def Delivery.toData (delivery : Delivery) : Data := .text delivery.dataName

def Delivery.ofData? (dialect : Dialect) : Data → Option Delivery
  | .text name => ofName? name
  | .record [(name, contents)] => if dialect.isNothing contents then ofName? name else none
  | _ => none

namespace Config

variable (dialect : Dialect)

def fieldOr {α : Type} (fields : String → Option Data) (name : String) (read : Data → Option α)
    (default : α) : Option α :=
  match fields name with
  | some data => read data
  | none => some default

def word? : Data → Option Nat := Data.nat? Data.wordBound

def AppSection.names : List String := ["log_level"]

def AppSection.ofData? (data : Data) : Option AppSection := do
  let fields ← dialect.fields? names data
  return ⟨← fieldOr fields "log_level" Data.text? { : AppSection }.logLevel⟩

def AppSection.toFields (part : AppSection) : List (String × Data) :=
  [("log_level", .text part.logLevel)]

def HotkeySection.names : List String :=
  ["toggle_queue", "paste_next", "toggle_queue_display", "paste_next_display"]

def HotkeySection.ofData? (data : Data) : Option HotkeySection := do
  let fields ← dialect.fields? names data
  let default : HotkeySection := {}
  return {
    toggleQueue := ← fieldOr fields "toggle_queue" Data.text? default.toggleQueue
    pasteNext := ← fieldOr fields "paste_next" Data.text? default.pasteNext
    toggleQueueDisplay :=
      ← fieldOr fields "toggle_queue_display" Data.text? default.toggleQueueDisplay
    pasteNextDisplay := ← fieldOr fields "paste_next_display" Data.text? default.pasteNextDisplay }

def HotkeySection.toFields (part : HotkeySection) : List (String × Data) :=
  [("toggle_queue", .text part.toggleQueue), ("paste_next", .text part.pasteNext),
    ("toggle_queue_display", .text part.toggleQueueDisplay),
    ("paste_next_display", .text part.pasteNextDisplay)]

def ClipboardSection.names : List String :=
  ["watch_debounce_ms", "paste_delay_ms", "restore_delay_ms", "dedup_window_ms",
    "self_event_capacity", "history_capacity"]

def ClipboardSection.ofData? (data : Data) : Option ClipboardSection := do
  let fields ← dialect.fields? names data
  let default : ClipboardSection := {}
  return {
    watchDebounce := ← fieldOr fields "watch_debounce_ms" word? default.watchDebounce
    pasteDelay := ← fieldOr fields "paste_delay_ms" word? default.pasteDelay
    restoreDelay := ← fieldOr fields "restore_delay_ms" word? default.restoreDelay
    dedupWindow := ← fieldOr fields "dedup_window_ms" word? default.dedupWindow
    echoCapacity := ← fieldOr fields "self_event_capacity" word? default.echoCapacity
    historyCapacity := ← fieldOr fields "history_capacity" word? default.historyCapacity }

def ClipboardSection.toFields (part : ClipboardSection) : List (String × Data) :=
  [("watch_debounce_ms", .integer part.watchDebounce),
    ("paste_delay_ms", .integer part.pasteDelay),
    ("restore_delay_ms", .integer part.restoreDelay),
    ("dedup_window_ms", .integer part.dedupWindow),
    ("self_event_capacity", .integer part.echoCapacity),
    ("history_capacity", .integer part.historyCapacity)]

def QueueSection.names : List String := ["default_order"]

def QueueSection.ofData? (data : Data) : Option QueueSection := do
  let fields ← dialect.fields? names data
  return ⟨← fieldOr fields "default_order" Data.text? { : QueueSection }.defaultOrder⟩

def QueueSection.toFields (part : QueueSection) : List (String × Data) :=
  [("default_order", .text part.defaultOrder)]

def FeatureSection.names : List String := ["enable_queue", "enable_clipboard", "enable_macros"]

def FeatureSection.ofData? (data : Data) : Option FeatureSection := do
  let fields ← dialect.fields? names data
  let default : FeatureSection := {}
  return {
    queue := ← fieldOr fields "enable_queue" Data.bool? default.queue
    clipboard := ← fieldOr fields "enable_clipboard" Data.bool? default.clipboard
    macros := ← fieldOr fields "enable_macros" Data.bool? default.macros }

def FeatureSection.toFields (part : FeatureSection) : List (String × Data) :=
  [("enable_queue", .bool part.queue), ("enable_clipboard", .bool part.clipboard),
    ("enable_macros", .bool part.macros)]

def TextMacro.names : List String := ["name", "hotkey", "signature", "text", "mode"]

def TextMacro.ofData? (data : Data) : Option TextMacro := do
  let fields ← dialect.fields? names data
  return {
    name := ← fieldOr fields "name" Data.text? ""
    hotkey := ← fieldOr fields "hotkey" Data.text? ""
    signature := ← fieldOr fields "signature" Data.text? ""
    text := ← fieldOr fields "text" Data.text? ""
    delivery := ← fieldOr fields "mode" (Delivery.ofData? dialect) .typed }

/-- A signature that is missing is not written. -/
def TextMacro.toFields (entry : TextMacro) : List (String × Data) :=
  [("name", .text entry.name), ("hotkey", .text entry.hotkey)] ++
    (if entry.signature.isEmpty then [] else [("signature", .text entry.signature)]) ++
    [("text", .text entry.text), ("mode", entry.delivery.toData)]

def macros? (data : Data) : Option (List TextMacro) :=
  data.list?.bind (·.mapM (TextMacro.ofData? dialect))

def names : List String := ["app", "hotkeys", "clipboard", "queue", "features", "macros"]

def ofData? (data : Data) : Option Config := do
  let fields ← dialect.fields? names data
  return {
    app := ← fieldOr fields "app" (AppSection.ofData? dialect) {}
    hotkeys := ← fieldOr fields "hotkeys" (HotkeySection.ofData? dialect) {}
    clipboard := ← fieldOr fields "clipboard" (ClipboardSection.ofData? dialect) {}
    queue := ← fieldOr fields "queue" (QueueSection.ofData? dialect) {}
    features := ← fieldOr fields "features" (FeatureSection.ofData? dialect) {}
    macros := ← fieldOr fields "macros" (macros? dialect) [] }

def sections (config : Config) : List (String × List (String × Data)) :=
  [("app", config.app.toFields), ("hotkeys", config.hotkeys.toFields),
    ("clipboard", config.clipboard.toFields), ("queue", config.queue.toFields),
    ("features", config.features.toFields)]

def toData (config : Config) : Data :=
  .record ((config.sections.map fun part => (part.1, Data.record part.2)) ++
    [("macros", .list (config.macros.map fun entry => .record entry.toFields))])

def ofToml? (text : String) : Option Config := (Toml.parse text).bind (ofData? .toml)

/-- Sections, and then macros, with an empty line between them. That there are no macros is said
first. -/
def toToml? (config : Config) : Option String := do
  let parts ← config.sections.mapM fun part => Toml.section? ("[" ++ part.1 ++ "]") part.2
  let macros ← config.macros.mapM fun entry => Toml.section? "[[macros]]" entry.toFields
  let none := if config.macros.isEmpty then ["macros = []\n"] else []
  return "\n".intercalate (none ++ parts ++ macros)

end Config

end PasteQueue
