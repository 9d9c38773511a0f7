import PasteQueue.Controller.Operation
import PasteQueue.Hotkey
import PasteQueue.Registry

/-!
Hotkeys bound to actions. Installing bindings clears the registry and registers, in order, every
binding whose hotkey can be read; the others are skipped and reported.
-/

namespace PasteQueue

inductive Action
  | toggleQueue
  | pasteNext
  | textMacro (name text : String) (delivery : Delivery)
  deriving DecidableEq, Repr

structure MacroBinding where
  name : String
  hotkey : String
  text : String
  delivery : Delivery
  deriving DecidableEq, Repr

/-- A hotkey that is missing is switched off. -/
structure Bindings where
  toggleQueue : Option String := none
  pasteNext : Option String := none
  macros : List MacroBinding := []
  deriving DecidableEq, Repr

namespace Bindings

def target : String := "clipqueue_host::application::bindings"

end Bindings

namespace Action

def operation : Action → Controller.Operation
  | toggleQueue => .toggle
  | pasteNext => .pasteNext
  | textMacro _ text delivery => .textMacro text delivery

def failureRecord (action : Action) (error : Controller.Error) : Log.Record :=
  let error := ("error", Log.Value.plain error.message)
  match action with
  | toggleQueue => ⟨.error, Bindings.target, "toggle queue failed", [error]⟩
  | pasteNext => ⟨.error, Bindings.target, "paste next failed", [error]⟩
  | textMacro name _ _ => ⟨.error, Bindings.target, "macro failed", [("name", .plain name), error]⟩

end Action

structure Binding where
  id : String
  hotkey : String
  action : Action
  deriving DecidableEq, Repr

structure InstallReport where
  registered : List String := []
  skipped : List (String × ReadError) := []
  deriving DecidableEq, Repr

def InstallReport.add (report : InstallReport) (binding : Binding) : InstallReport :=
  match Hotkey.parse binding.hotkey with
  | .ok _ => { report with registered := report.registered ++ [binding.id] }
  | .error error => { report with skipped := report.skipped ++ [(binding.id, error)] }

namespace Bindings

def toggleQueueId : String := "toggle_queue"

def pasteNextId : String := "paste_next"

def macroId (index : Nat) (name : String) : String :=
  "macro:" ++ Text.decimal index ++ ":" ++ name

def macroBinding (bound : MacroBinding) (index : Nat) : Binding :=
  ⟨macroId index bound.name, bound.hotkey, .textMacro bound.name bound.text bound.delivery⟩

/-- All bindings in order: the queue's own, then the macros by index. -/
def all (bindings : Bindings) : List Binding :=
  (bindings.toggleQueue.toList.map fun hotkey => ⟨toggleQueueId, hotkey, .toggleQueue⟩) ++
  (bindings.pasteNext.toList.map fun hotkey => ⟨pasteNextId, hotkey, .pasteNext⟩) ++
  bindings.macros.zipIdx.map fun bound => macroBinding bound.1 bound.2

/-- A binding whose hotkey cannot be read changes nothing. -/
def register (registry : Registry Action) (binding : Binding) : Registry Action :=
  match Hotkey.parse binding.hotkey with
  | .ok signature => registry.insert ⟨signature, binding.id, binding.action⟩
  | .error _ => registry

def install (bindings : Bindings) (registry : Registry Action) : Registry Action :=
  bindings.all.foldl register registry.clear

def report (bindings : Bindings) : InstallReport := bindings.all.foldl .add {}

def bindingRecords (registry : Registry Action) (binding : Binding) : List Log.Record :=
  match Hotkey.parse binding.hotkey with
  | .ok signature =>
    [⟨.info, target, "registered hotkey",
        [("id", .quoted binding.id), ("hotkey", .plain signature.hint)]⟩,
      registry.insertRecord ⟨signature, binding.id, binding.action⟩]
  | .error error =>
    [⟨.warn, target, "skipping hotkey that failed to parse",
      [("id", .quoted binding.id), ("hotkey", .quoted binding.hotkey),
        ("error", .plain error.message)]⟩]

def installRecords (bindings : Bindings) (registry : Registry Action) : List Log.Record :=
  let report := bindings.report
  Registry.clearRecord :: bindings.all.flatMap (bindingRecords registry) ++
    [⟨.info, target, "hotkey bindings installed",
      [("registered", .number report.registered.length),
        ("skipped", .number report.skipped.length)]⟩]

end Bindings

end PasteQueue
