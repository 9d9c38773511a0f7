import PasteQueue.Bindings
import PasteQueue.Config.Basic

/-!
What a configuration makes of its hotkeys and settings: missing signatures are derived from the
texts for people, macros are checked, captured hotkeys are assigned, and bindings and settings are
taken out.
-/

namespace PasteQueue.Config

open Log (Record)

def target : String := "clipqueue_host::infrastructure::storage::config"

def isBlankText (text : String) : Bool := (Text.trim text.toList).isEmpty

/-! ### Deriving signatures -/

/-- A hotkey that is missing is derived from its text for people, if there is one. -/
def needsDeriving (stored shown : String) : Bool := stored.isEmpty && !shown.isEmpty

def derive (field stored shown : String) : Except Error String :=
  if needsDeriving stored shown then
    match Hotkey.parse shown with
    | .ok signature => .ok (Hotkey.format signature)
    | .error source => .error (.invalidHotkey field source)
  else .ok stored

def macroField (index : Nat) : String := "macros[" ++ Text.decimal index ++ "]"

def deriveMacros : Nat → List TextMacro → Option Error × List TextMacro
  | _, [] => (none, [])
  | index, entry :: rest =>
    match derive (macroField index) entry.signature entry.hotkey with
    | .error error => (some error, entry :: rest)
    | .ok signature =>
      let (error, rest) := deriveMacros (index + 1) rest
      (error, { entry with signature } :: rest)

def toggleQueueField : String := "hotkeys.toggle_queue"

def pasteNextField : String := "hotkeys.paste_next"

def withToggleQueue (config : Config) (stored : String) : Config :=
  { config with hotkeys := { config.hotkeys with toggleQueue := stored } }

def withPasteNext (config : Config) (stored : String) : Config :=
  { config with hotkeys := { config.hotkeys with pasteNext := stored } }

/-- Fills missing signatures in order. At the first hotkey that cannot be read it stops; what was
filled before stays. -/
def ensureSignatures (config : Config) : Option Error × Config :=
  let hotkeys := config.hotkeys
  match derive toggleQueueField hotkeys.toggleQueue hotkeys.toggleQueueDisplay with
  | .error error => (some error, config)
  | .ok toggleQueue =>
    let config := config.withToggleQueue toggleQueue
    match derive pasteNextField hotkeys.pasteNext hotkeys.pasteNextDisplay with
    | .error error => (some error, config)
    | .ok pasteNext =>
      let config := config.withPasteNext pasteNext
      let (error, macros) := deriveMacros 0 config.macros
      (error, { config with macros })

def missing (config : Config) : List (String × String) :=
  let hotkeys := config.hotkeys
  let row (field stored shown : String) : List (String × String) :=
    if needsDeriving stored shown then [(field, shown)] else []
  row toggleQueueField hotkeys.toggleQueue hotkeys.toggleQueueDisplay ++
    row pasteNextField hotkeys.pasteNext hotkeys.pasteNextDisplay ++
    config.macros.zipIdx.flatMap fun entry =>
      row (macroField entry.2) entry.1.signature entry.1.hotkey

def ensureRecords (config : Config) : List Record :=
  (config.missing.takeWhile fun row => (Hotkey.parse row.2).isOk).map fun row =>
    ⟨.info, target, "derived signature from hotkey string",
      [("field", .quoted row.1), ("hotkey", .quoted row.2)]⟩

/-! ### Checking macros -/

def macroFault? (entry : TextMacro) : Option MacroFault :=
  if isBlankText entry.hotkey && isBlankText entry.signature then some .emptyHotkey
  else
    match Hotkey.parse entry.effectiveHotkey with
    | .ok _ => none
    | .error error => some (.unreadable error)

def firstFault? : Nat → List TextMacro → Option Error
  | _, [] => none
  | index, entry :: rest =>
    match macroFault? entry with
    | some reason => some (.invalidMacro index reason)
    | none => firstFault? (index + 1) rest

def validate (config : Config) : Option Error := firstFault? 0 config.macros

/-! ### Assigning hotkeys -/

def assignMacro (name stored : String) : List TextMacro → Option (List TextMacro)
  | [] => none
  | entry :: rest =>
    if entry.name = name then some ({ entry with signature := stored } :: rest)
    else (assignMacro name stored rest).map (entry :: ·)

/-- Stores a captured hotkey for the queue's own bindings or for the first macro of a name. -/
def assign (config : Config) (binding stored : String) : Except Error Config :=
  if binding = Bindings.toggleQueueId then .ok (config.withToggleQueue stored)
  else if binding = Bindings.pasteNextId then .ok (config.withPasteNext stored)
  else
    match assignMacro binding stored config.macros with
    | some macros => .ok { config with macros }
    | none => .error (.unknownBinding binding)

def assignRecord (binding : String) : Record :=
  ⟨.info, target, "hotkey assigned", [("binding", .quoted binding)]⟩

/-! ### Settings and bindings -/

/-- An order that is not known counts as LIFO. -/
def order (config : Config) : Queue.Order :=
  (Queue.Order.ofLabel? config.queue.defaultOrder).getD .lifo

def orderRecords (config : Config) : List Record :=
  if (Queue.Order.ofLabel? config.queue.defaultOrder).isSome then []
  else [⟨.warn, target, "unknown default_order, falling back to LIFO",
    [("value", .plain config.queue.defaultOrder)]⟩]

def controllerSettings (config : Config) : ControllerSettings :=
  let clipboard := config.clipboard
  { queue :=
      { historyCapacity := clipboard.historyCapacity
        dedupWindow := clipboard.dedupWindow
        echoCapacity := clipboard.echoCapacity }
    order := config.order
    pasteDelay := clipboard.pasteDelay
    restoreDelay := clipboard.restoreDelay }

def firstHotkey? (stored shown : String) : Option String :=
  [stored, shown].find? fun text => !isBlankText text

def TextMacro.binding (entry : TextMacro) : MacroBinding :=
  ⟨entry.name, entry.effectiveHotkey, entry.text, entry.delivery⟩

/-- The hotkeys to install; features that are off have none. -/
def bindings (config : Config) : Bindings :=
  let hotkeys := config.hotkeys
  let own (stored shown : String) : Option String :=
    if config.features.queue then firstHotkey? stored shown else none
  { toggleQueue := own hotkeys.toggleQueue hotkeys.toggleQueueDisplay
    pasteNext := own hotkeys.pasteNext hotkeys.pasteNextDisplay
    macros := if config.features.macros then config.macros.map TextMacro.binding else [] }

end PasteQueue.Config
