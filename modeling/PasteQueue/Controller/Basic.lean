import PasteQueue.Controller.Gate
import PasteQueue.Desktop
import PasteQueue.Queue.Report
import PasteQueue.Watcher

/-!
The controller ties history, queue and desktop together. Two gates keep its operations apart: the
write gate is held around a write and the recording of its sequence number, and around the check of
a change; the paste gate from saving the clipboard until it is put back. What an outsider can
observe is kept as notices, the latest first.
-/

namespace PasteQueue

open Clipboard (Content Item ItemId)

inductive Delivery
  | typed | pasted
  deriving DecidableEq, Repr

instance : Inhabited Delivery := ⟨.typed⟩

def Delivery.label : Delivery → String
  | typed => "Type"
  | pasted => "Paste"

structure ControllerSettings where
  queue : Queue.Settings := {}
  order : Queue.Order := .lifo
  pasteDelay : Nat := 100
  restoreDelay : Nat := 250
  deriving DecidableEq, Repr

namespace Controller

inductive Error
  | queue (error : Queue.Error)
  | desktop (fault : Desktop.Fault)
  deriving DecidableEq, Repr

def Error.message : Error → String
  | queue error => error.message
  | desktop fault => fault.message

/-- What can be observed from outside; calls of the desktop name the strand that makes them. -/
inductive Notice
  | logged (record : Log.Record)
  | announced (status : Queue.Status)
  | copied (item : Item)
  | read (caller : StrandId) (outcome : Except Desktop.Fault Item)
  | wrote (caller : StrandId) (item : Item) (failure : Option Desktop.Fault)
  | pressed (caller : StrandId) (shown : Item) (failure : Option Desktop.Fault)
  | typed (caller : StrandId) (text : String) (failure : Option Desktop.Fault)
  | notified
  | freed (strand : StrandId)

end Controller

structure Controller where
  settings : ControllerSettings
  state : Queue.State
  pasteGate : Gate := {}
  writeGate : Gate := {}
  desktop : Desktop := {}
  /-- The watcher, and whether clipboard changes notify it. -/
  watcher : Option Watcher := none
  hooked : Bool := false
  clock : Nat := 0
  notices : List Controller.Notice := []

namespace Controller

open Log (Record)

def target : String := "clipqueue_host::application::queue_controller"

def init (settings : ControllerSettings) : Controller :=
  { settings, state := .init settings.queue settings.order }

def initRecord (settings : ControllerSettings) : Record :=
  ⟨.info, target, "queue controller created",
    [("order", .plain settings.order.label),
      ("history_capacity", .number settings.queue.historyCapacity)]⟩

def note (controller : Controller) (notice : Notice) : Controller :=
  { controller with notices := notice :: controller.notices }

def log (controller : Controller) (record : Record) : Controller := controller.note (.logged record)

def logAll (controller : Controller) (records : List Record) : Controller :=
  records.foldl log controller

def logFault (controller : Controller) (message : String) (fault : Desktop.Fault) : Controller :=
  controller.log ⟨.error, target, message, [("error", .plain fault.message)]⟩

def status (controller : Controller) : Queue.Status := controller.state.status

def announce (controller : Controller) : Controller :=
  controller.note (.announced controller.status)

def notifyWatcher (controller : Controller) : Controller :=
  match controller.watcher with
  | none => controller
  | some watcher =>
    let record := watcher.notifyRecord
    ({ controller with watcher := some watcher.notify }.log record).note .notified

/-- The clipboard has changed: whoever is hooked to it is notified. -/
def fire (controller : Controller) : Controller :=
  if controller.hooked then controller.notifyWatcher else controller

/-- Somebody else copies something. -/
def copy (controller : Controller) (content : Content) : Controller :=
  let desktop := controller.desktop.copy content
  (({ controller with desktop }.note (.copied desktop.current)).log desktop.copyRecord).fire

def read (controller : Controller) (caller : StrandId) :
    Except Desktop.Fault Item × Controller :=
  let (outcome, desktop) := controller.desktop.read
  (outcome, { controller with desktop }.note (.read caller outcome))

def write (controller : Controller) (caller : StrandId) (item : Item) :
    Option Desktop.Fault × Controller :=
  let (failure, desktop) := controller.desktop.write item
  let after := { controller with desktop }.note (.wrote caller item failure)
  match failure with
  | some _ => (failure, after)
  | none => (none, (after.log (desktop.writeRecord item)).fire)

def writeRecorded (controller : Controller) (caller : StrandId) (item : Item) :
    Option Desktop.Fault × Controller :=
  match controller.write caller item with
  | (some fault, after) => (some fault, after)
  | (none, after) =>
    let sequence := after.desktop.seenSequence
    (none, { after with state := after.state.recordEcho sequence }.log (Queue.echoRecord sequence))

def pressPaste (controller : Controller) (caller : StrandId) : Option Desktop.Fault × Controller :=
  let (failure, desktop) := controller.desktop.pressPaste
  let after := { controller with desktop }.note (.pressed caller desktop.current failure)
  (failure, if failure.isNone then after.log desktop.pasteRecord else after)

def typeText (controller : Controller) (caller : StrandId) (text : String) :
    Option Desktop.Fault × Controller :=
  let (failure, desktop) := controller.desktop.typeText text
  let after := { controller with desktop }.note (.typed caller text failure)
  (failure, if failure.isNone then after.log (desktop.typeRecord text) else after)

def mint (controller : Controller) (content : Content) : Item × Controller :=
  let (item, desktop) := controller.desktop.mint content
  (item, { controller with desktop })

def noteFreed (controller : Controller) (strand : Option StrandId) : Controller :=
  match strand with
  | some strand => controller.note (.freed strand)
  | none => controller

def leaveWriteGate (controller : Controller) : Controller :=
  let gate := controller.writeGate.release
  { controller with writeGate := gate }.noteFreed gate.holder

def leavePasteGate (controller : Controller) : Controller :=
  let gate := controller.pasteGate.release
  { controller with pasteGate := gate }.noteFreed gate.holder

end Controller

end PasteQueue
