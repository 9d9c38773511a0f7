import PasteQueue.Controller.Basic

/-!
The operations of the controller. What an operation does is cut by stages: before each it has to
pass a gate or a time, and what is left of it then is the stage. Behind a barrier it comes to a call
of the desktop, and the call leads it on to the next stage; where it needs no call, it comes there by
itself. A run of an operation goes from stage to stage until it has to wait, or has passed as many
as it may; nothing else happens in between. Every stage leads to later ones only, so every operation
ends.
-/

namespace PasteQueue.Controller

open Clipboard (Content Item ItemId)
open Log (Record)

inductive Operation
  | toggle
  | update
  | pasteNext
  | copyItem (id : ItemId)
  | textMacro (text : String) (delivery : Delivery)
  | remove (index : Nat)
  | clear
  | toggleOrder
  | setOrder (text : String)
  deriving DecidableEq, Repr

inductive UpdateOutcome
  | suppressed
  | accepted (outcome : Queue.Outcome)
  deriving DecidableEq, Repr

def UpdateOutcome.label : UpdateOutcome → String
  | suppressed => "Suppressed"
  | accepted outcome => outcome.label

inductive Answer
  | done
  | nothing
  | item (item : Item)
  | status (status : Queue.Status)
  | update (outcome : UpdateOutcome)
  | order (order : Queue.Order)
  deriving DecidableEq, Repr

abbrev Result := Except Error Answer

/-- An item on its way through the clipboard, and the answer once it has been pasted. -/
structure Paste where
  item : Item
  answer : Answer
  deriving DecidableEq, Repr

/-- What is left of an operation behind something that it has to pass. -/
inductive Stage
  | toggling
  | checking
  | copying (item : Item)
  | saving (paste : Paste)
  | placing (paste : Paste) (saved : Item)
  | settling (paste : Paste) (saved : Item)
  | lingering (paste : Paste) (saved : Item)
  | returning (paste : Paste) (saved : Item) (failure : Option Desktop.Fault)
  deriving DecidableEq, Repr

inductive Barrier
  | writeGate
  | pasteGate
  | time (millis : Nat)
  deriving DecidableEq, Repr

def Stage.barrier (settings : ControllerSettings) : Stage → Barrier
  | .toggling | .checking | .copying _ | .placing .. | .returning .. => .writeGate
  | .saving _ => .pasteGate
  | .settling .. => .time settings.pasteDelay
  | .lingering .. => .time settings.restoreDelay

/-- A call of the desktop that an operation is about to make, and what is left of it behind that. -/
inductive Errand
  | keeping
  | bringingBack (snapshot : Item) (status : Queue.Status)
  | looking
  | copying (item : Item)
  | saving (paste : Paste)
  | placing (paste : Paste) (saved : Item)
  | pressing (paste : Paste) (saved : Item)
  | returning (paste : Paste) (saved : Item) (failure : Option Desktop.Fault)
  | typing (text : String)
  deriving DecidableEq, Repr

/-- How far a step of an operation leads: to its end, or to the next stage. -/
inductive Progress
  | finished (result : Result)
  | reached (stage : Stage)

abbrev Step := Progress × Controller

def reach (controller : Controller) (stage : Stage) : Step := (.reached stage, controller)

def finish (controller : Controller) (result : Result) : Step := (.finished result, controller)

def fail (controller : Controller) (fault : Desktop.Fault) : Step :=
  controller.finish (.error (.desktop fault))

/-- How far an operation comes by itself: to a call of the desktop, or on without one. -/
inductive Advance
  | made (progress : Progress)
  | calling (errand : Errand)

abbrev Approach := Advance × Controller

/-- No call is needed. -/
def Step.approach (step : Step) : Approach := (.made step.1, step.2)

def call (controller : Controller) (errand : Errand) : Approach := (.calling errand, controller)

/-! ### Pasting through the clipboard -/

/-- Puts the saved content back, behind both gates. A paste that has failed before keeps its own
failure. -/
def giveBack (strand : StrandId) (paste : Paste) (saved : Item) (failure : Option Desktop.Fault)
    (controller : Controller) : Step :=
  let (missed, controller) := controller.writeRecorded strand saved
  let controller := controller.leaveWriteGate
  match failure, missed with
  | none, none => controller.leavePasteGate.finish (.ok paste.answer)
  | none, some fault =>
    (controller.logFault "failed to restore clipboard after paste" fault).leavePasteGate.fail fault
  | some fault, none => controller.leavePasteGate.fail fault
  | some fault, some missed =>
    (controller.logFault "best-effort clipboard restore failed" missed).leavePasteGate.fail fault

/-- Presses paste, then leaves the item on the clipboard for a while. -/
def press (strand : StrandId) (paste : Paste) (saved : Item) (controller : Controller) : Step :=
  match controller.pressPaste strand with
  | (some fault, after) =>
    (after.logFault "paste keystroke failed" fault).reach (.returning paste saved (some fault))
  | (none, after) => after.reach (.lingering paste saved)

def place (strand : StrandId) (paste : Paste) (saved : Item) (controller : Controller) : Step :=
  let (failure, after) := controller.writeRecorded strand paste.item
  let after := after.leaveWriteGate
  match failure with
  | some fault =>
    (after.logFault "failed to write item to clipboard" fault).reach
      (.returning paste saved (some fault))
  | none => after.reach (.settling paste saved)

def save (strand : StrandId) (paste : Paste) (controller : Controller) : Step :=
  match controller.read strand with
  | (.error fault, after) =>
    (after.logFault "failed to save clipboard before paste" fault).leavePasteGate.fail fault
  | (.ok saved, after) => after.reach (.placing paste saved)

/-! ### The other operations behind a gate -/

/-- Turns queue mode on, keeping the clipboard for later; a clipboard that cannot be read is not
kept. -/
def turnOn (strand : StrandId) (controller : Controller) : Step :=
  let (outcome, controller) := controller.read strand
  let controller :=
    match outcome with
    | .ok _ => controller
    | .error fault => controller.logFault "failed to snapshot clipboard on enable" fault
  let controller :=
    { controller with state := controller.state.enable outcome.toOption }.log Queue.enabledRecord
  let controller := controller.announce
  controller.leaveWriteGate.finish (.ok (.status controller.status))

/-- Turns queue mode off, whatever becomes of the kept clipboard. -/
def turnOff (controller : Controller) : Approach :=
  let snapshot := controller.state.snapshot
  let controller :=
    { controller with state := controller.state.disable }.log Queue.disabledRecord
  let controller := controller.announce
  let status := controller.status
  match snapshot with
  | none => (controller.leaveWriteGate.finish (.ok (.status status))).approach
  | some item => controller.call (.bringingBack item status)

def bringBack (strand : StrandId) (item : Item) (status : Queue.Status) (controller : Controller) :
    Step :=
  match controller.writeRecorded strand item with
  | (some fault, after) =>
    (after.logFault "failed to restore clipboard snapshot on disable" fault).leaveWriteGate.fail
      fault
  | (none, after) =>
    (after.log ⟨.debug, target, "restored clipboard snapshot",
      [("preview", .plain item.preview)]⟩).leaveWriteGate.finish (.ok (.status status))

def switch (controller : Controller) : Approach :=
  if controller.state.enabled then turnOff controller else controller.call .keeping

def accept (controller : Controller) (item : Item) : Step :=
  let (outcome, state) := controller.state.accept item controller.clock
  let records := controller.state.acceptRecords item controller.clock
  let controller := { controller with state }.logAll records
  let controller := if outcome = .queued then controller.announce else controller
  controller.finish (.ok (.update (.accepted outcome)))

/-- The sequence number tells the program's own changes, which are not read. -/
def check (controller : Controller) : Approach :=
  let sequence := controller.desktop.seenSequence
  if controller.state.isEcho sequence then
    ((controller.log ⟨.debug, target, "suppressed self-generated clipboard change",
      [("seq", .number sequence.toNat)]⟩).leaveWriteGate.finish
        (.ok (.update .suppressed))).approach
  else controller.call .looking

def look (strand : StrandId) (controller : Controller) : Step :=
  match controller.read strand with
  | (.error fault, after) =>
    (after.logFault "failed to read clipboard after change" fault).leaveWriteGate.fail fault
  | (.ok item, after) => after.leaveWriteGate.accept item

def copyOut (strand : StrandId) (item : Item) (controller : Controller) : Step :=
  match controller.writeRecorded strand item with
  | (some fault, after) => after.leaveWriteGate.fail fault
  | (none, after) =>
    (after.leaveWriteGate.log ⟨.info, target, "copied history item to clipboard",
      [("preview", .plain item.preview)]⟩).finish (.ok (.item item))

/-! ### Beginning and resuming -/

/-- The item to paste leaves the queue at once and for good. -/
def pasteNext (controller : Controller) : Step :=
  match controller.state.dequeue with
  | .error reason =>
    (controller.log ⟨.warn, target, "paste next skipped",
      [("reason", .plain reason.message)]⟩).finish (.ok .nothing)
  | .ok (item, state) =>
    let controller :=
      { controller with state }.log (Queue.dequeueRecord item state.queue.length state.order)
    let controller := controller.announce.log ⟨.info, target, "pasting next queue item",
      [("content_type", .plain item.kind.label), ("preview", .plain item.preview),
        ("remaining", .number state.queue.length)]⟩
    controller.reach (.saving ⟨item, .item item⟩)

def runMacro (text : String) (delivery : Delivery) (controller : Controller) : Approach :=
  let controller := controller.log ⟨.info, target, "executing macro",
    [("mode", .plain delivery.label), ("chars", .number text.length)]⟩
  match delivery with
  | .typed => controller.call (.typing text)
  | .pasted =>
    let (item, controller) := controller.mint (.text text)
    (controller.reach (.saving ⟨item, .done⟩)).approach

def typeOut (strand : StrandId) (text : String) (controller : Controller) : Step :=
  match controller.typeText strand text with
  | (some fault, after) => (after.logFault "macro typing failed" fault).fail fault
  | (none, after) => after.finish (.ok .done)

def remove (controller : Controller) (index : Nat) : Step :=
  match controller.state.remove index with
  | .error error => controller.finish (.error (.queue error))
  | .ok (item, state) =>
    ({ controller with state }.log (Queue.removeRecord index state.queue.length)).announce.finish
      (.ok (.item item))

def clear (controller : Controller) : Step :=
  ({ controller with state := controller.state.clear }.log Queue.clearRecord).announce.finish
    (.ok .done)

def toggleOrder (controller : Controller) : Step :=
  let state := controller.state.toggleOrder
  ({ controller with state }.log (Queue.toggleRecord state.order)).announce.finish
    (.ok (.order state.order))

/-- Only a change is announced. -/
def setOrder (controller : Controller) (text : String) : Step :=
  match Queue.State.parseOrder text with
  | .error error => controller.finish (.error (.queue error))
  | .ok order =>
    let before := controller.state.order
    let controller :=
      { controller with state := controller.state.withOrder order }.log
        (Queue.orderRecord before order)
    (if before = order then controller else controller.announce).finish (.ok (.order order))

/-- What an operation does before its first stage, up to a call. -/
def launch (controller : Controller) : Operation → Approach
  | .toggle => (controller.reach .toggling).approach
  | .update => (controller.reach .checking).approach
  | .pasteNext => controller.pasteNext.approach
  | .copyItem id =>
    match controller.state.find id with
    | .error error => (controller.finish (.error (.queue error))).approach
    | .ok item => (controller.reach (.copying item)).approach
  | .textMacro text delivery => runMacro text delivery controller
  | .remove index => (controller.remove index).approach
  | .clear => controller.clear.approach
  | .toggleOrder => controller.toggleOrder.approach
  | .setOrder text => (controller.setOrder text).approach

/-- Goes on from a stage whose barrier has been passed, up to a call. -/
def approach (controller : Controller) : Stage → Approach
  | .toggling => switch controller
  | .checking => check controller
  | .copying item => controller.call (.copying item)
  | .saving paste => controller.call (.saving paste)
  | .placing paste saved => controller.call (.placing paste saved)
  | .settling paste saved => controller.call (.pressing paste saved)
  | .lingering paste saved => (controller.reach (.returning paste saved none)).approach
  | .returning paste saved failure => controller.call (.returning paste saved failure)

/-- Makes a call, and goes on behind it. -/
def complete (controller : Controller) (strand : StrandId) : Errand → Step
  | .keeping => turnOn strand controller
  | .bringingBack snapshot status => bringBack strand snapshot status controller
  | .looking => look strand controller
  | .copying item => copyOut strand item controller
  | .saving paste => save strand paste controller
  | .placing paste saved => place strand paste saved controller
  | .pressing paste saved => press strand paste saved controller
  | .returning paste saved failure => giveBack strand paste saved failure controller
  | .typing text => typeOut strand text controller

/-- Makes the call that an operation has come to: the desktop answers at once. -/
def Approach.through (strand : StrandId) : Approach → Step
  | (.made progress, controller) => (progress, controller)
  | (.calling errand, controller) => controller.complete strand errand

def begin (controller : Controller) (strand : StrandId) (operation : Operation) : Step :=
  (controller.launch operation).through strand

def resume (controller : Controller) (strand : StrandId) (stage : Stage) : Step :=
  (controller.approach stage).through strand

/-- Whether the barrier of a stage lets the strand pass at once; otherwise it stands in the line of
the gate, or has to rest. No time is no rest. -/
def enter (controller : Controller) (strand : StrandId) (stage : Stage) : Bool × Controller :=
  match stage.barrier controller.settings with
  | .writeGate =>
    let (passes, gate) := controller.writeGate.request strand
    (passes, { controller with writeGate := gate })
  | .pasteGate =>
    let (passes, gate) := controller.pasteGate.request strand
    (passes, { controller with pasteGate := gate })
  | .time millis => (millis = 0, controller)

/-- How a run of an operation comes to a halt. -/
inductive Halt
  | finished (result : Result)
  | waiting (stage : Stage)
  /-- Before a barrier that has not been tried. -/
  | paused (stage : Stage)

structure Run where
  halt : Halt
  left : Nat
  controller : Controller

/-- Goes on from a step, past no more barriers than allowed. -/
def proceed (strand : StrandId) : Nat → Step → Run
  | left, (.finished result, controller) => ⟨.finished result, left, controller⟩
  | 0, (.reached stage, controller) => ⟨.paused stage, 0, controller⟩
  | left + 1, (.reached stage, controller) =>
    match controller.enter strand stage with
    | (true, controller) => proceed strand left (controller.resume strand stage)
    | (false, controller) => ⟨.waiting stage, left + 1, controller⟩

def Stage.holdsPasteGate : Stage → Bool
  | .placing .. | .settling .. | .lingering .. | .returning .. => true
  | _ => false

end PasteQueue.Controller
