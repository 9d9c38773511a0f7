import PasteQueue.Proofs.Controller.Calls

/-!
What an operation asks of the desktop. Behind each errand it makes one call, whose outcome is noted;
nowhere else does it make any.
-/

namespace PasteQueue

open Clipboard (Content Item)
open Controller (Errand Notice)

def Controller.Notice.isCall : Notice → Bool
  | .read .. | .wrote .. | .pressed .. | .typed .. => true
  | .logged _ | .announced _ | .copied _ | .notified | .freed _ => false

/-- What a call comes back with, as it is noted for its caller. -/
def Desktop.answer (desktop : Desktop) (caller : StrandId) : Errand → Notice
  | .keeping | .looking | .saving _ => .read caller desktop.read.1
  | .bringingBack item _ | .copying item | .returning _ item _ =>
    .wrote caller item (desktop.write item).1
  | .placing paste _ => .wrote caller paste.item (desktop.write paste.item).1
  | .pressing .. => .pressed caller desktop.current desktop.pressPaste.1
  | .typing text => .typed caller text (desktop.typeText text).1

namespace Controller

/-- The calls that have been made of the desktop, the latest first. -/
def calls (controller : Controller) : List Notice := controller.notices.filter Notice.isCall

variable (controller : Controller) (strand : StrandId)

/-! ### What makes no call -/

theorem logAll_calls (records : List Log.Record) :
    (controller.logAll records).calls = controller.calls := by
  induction records generalizing controller with
  | nil => rfl
  | cons record records ih => exact ih (controller.log record)

theorem noteFreed_calls (freed : Option StrandId) :
    (controller.noteFreed freed).calls = controller.calls := by
  cases freed <;> rfl

@[simp] theorem leaveWriteGate_calls : controller.leaveWriteGate.calls = controller.calls :=
  noteFreed_calls _ _

@[simp] theorem leavePasteGate_calls : controller.leavePasteGate.calls = controller.calls :=
  noteFreed_calls _ _

theorem fire_calls : controller.fire.calls = controller.calls := by
  unfold fire notifyWatcher
  split
  · split <;> rfl
  · rfl

theorem copy_calls (content : Content) : (controller.copy content).calls = controller.calls :=
  fire_calls _

theorem enter_calls (stage : Stage) : (controller.enter strand stage).2.calls = controller.calls := by
  cases stage <;> rfl

theorem launch_calls (operation : Operation) :
    (controller.launch operation).2.calls = controller.calls := by
  cases operation with
  | toggle | update | clear | toggleOrder => rfl
  | pasteNext =>
    dsimp only [launch, pasteNext]
    split <;> rfl
  | copyItem id =>
    dsimp only [launch]
    split <;> rfl
  | textMacro text delivery => cases delivery <;> rfl
  | remove index =>
    dsimp only [launch, remove]
    split <;> rfl
  | setOrder text =>
    dsimp only [launch, setOrder]
    split
    · rfl
    · split <;> rfl

theorem approach_calls (stage : Stage) : (controller.approach stage).2.calls = controller.calls := by
  cases stage with
  | toggling =>
    dsimp only [approach, switch, turnOff]
    split
    · split
      · exact leaveWriteGate_calls _
      · rfl
    · rfl
  | checking =>
    dsimp only [approach, check]
    split
    · exact leaveWriteGate_calls _
    · rfl
  | copying | saving | placing | settling | lingering | returning => rfl

/-! ### The calls -/

theorem pressPaste_calls :
    (controller.pressPaste strand).2.calls =
      .pressed strand controller.desktop.current controller.desktop.pressPaste.1 ::
        controller.calls := by
  rw [← controller.desktop.pressPaste_unchanged.current]
  unfold pressPaste
  cases controller.desktop.pressPaste with
  | mk failure after => cases failure <;> rfl

theorem typeText_calls (text : String) :
    (controller.typeText strand text).2.calls =
      .typed strand text (controller.desktop.typeText text).1 :: controller.calls := by
  unfold typeText
  cases controller.desktop.typeText text with
  | mk failure after => cases failure <;> rfl

theorem writeRecorded_calls (item : Item) :
    (controller.writeRecorded strand item).2.calls =
      .wrote strand item (controller.desktop.write item).1 :: controller.calls := by
  unfold writeRecorded write
  cases controller.desktop.write item with
  | mk failure after =>
    cases failure with
    | some fault => rfl
    | none => exact fire_calls _

theorem turnOn_calls :
    (turnOn strand controller).2.calls =
      .read strand controller.desktop.read.1 :: controller.calls := by
  unfold turnOn
  cases reading : controller.read strand with
  | mk outcome after =>
    have read : after.calls = .read strand controller.desktop.read.1 :: controller.calls :=
      (congrArg (fun read => read.2.calls) reading).symm
    cases outcome <;> exact (leaveWriteGate_calls _).trans read

theorem bringBack_calls (item : Item) (status : Queue.Status) :
    (bringBack strand item status controller).2.calls =
      .wrote strand item (controller.desktop.write item).1 :: controller.calls := by
  have wrote := controller.writeRecorded_calls strand item
  unfold bringBack
  split <;> rename_i written <;> rw [written] at wrote <;> exact (leaveWriteGate_calls _).trans wrote

theorem look_calls :
    (look strand controller).2.calls =
      .read strand controller.desktop.read.1 :: controller.calls := by
  unfold look
  cases reading : controller.read strand with
  | mk outcome after =>
    have read : after.calls = .read strand controller.desktop.read.1 :: controller.calls :=
      (congrArg (fun read => read.2.calls) reading).symm
    cases outcome with
    | error fault => exact (leaveWriteGate_calls _).trans read
    | ok item =>
      have left := (leaveWriteGate_calls after).trans read
      dsimp only [accept]
      split <;> exact (logAll_calls _ _).trans left

theorem copyOut_calls (item : Item) :
    (copyOut strand item controller).2.calls =
      .wrote strand item (controller.desktop.write item).1 :: controller.calls := by
  have wrote := controller.writeRecorded_calls strand item
  unfold copyOut
  split <;> rename_i written <;> rw [written] at wrote <;> exact (leaveWriteGate_calls _).trans wrote

theorem save_calls (paste : Paste) :
    (save strand paste controller).2.calls =
      .read strand controller.desktop.read.1 :: controller.calls := by
  unfold save
  cases reading : controller.read strand with
  | mk outcome after =>
    have read : after.calls = .read strand controller.desktop.read.1 :: controller.calls :=
      (congrArg (fun read => read.2.calls) reading).symm
    cases outcome with
    | error fault => exact (leavePasteGate_calls _).trans read
    | ok saved => exact read

theorem place_calls (paste : Paste) (saved : Item) :
    (place strand paste saved controller).2.calls =
      .wrote strand paste.item (controller.desktop.write paste.item).1 :: controller.calls := by
  have wrote := controller.writeRecorded_calls strand paste.item
  unfold place
  cases written : controller.writeRecorded strand paste.item with
  | mk failure after =>
    rw [written] at wrote
    cases failure <;> exact (leaveWriteGate_calls _).trans wrote

theorem press_calls (paste : Paste) (saved : Item) :
    (press strand paste saved controller).2.calls =
      .pressed strand controller.desktop.current controller.desktop.pressPaste.1 ::
        controller.calls := by
  have pressed := controller.pressPaste_calls strand
  unfold press
  split <;> rename_i pressing <;> rw [pressing] at pressed <;> exact pressed

theorem giveBack_calls (paste : Paste) (saved : Item) (failure : Option Desktop.Fault) :
    (giveBack strand paste saved failure controller).2.calls =
      .wrote strand saved (controller.desktop.write saved).1 :: controller.calls := by
  have wrote := controller.writeRecorded_calls strand saved
  unfold giveBack
  cases written : controller.writeRecorded strand saved with
  | mk missed after =>
    rw [written] at wrote
    have left := (leaveWriteGate_calls after).trans wrote
    cases failure <;> cases missed <;> exact (leavePasteGate_calls _).trans left

theorem typeOut_calls (text : String) :
    (typeOut strand text controller).2.calls =
      .typed strand text (controller.desktop.typeText text).1 :: controller.calls := by
  have typed := controller.typeText_calls strand text
  unfold typeOut
  split <;> rename_i typing <;> rw [typing] at typed <;> exact typed

theorem complete_calls (errand : Errand) :
    (controller.complete strand errand).2.calls =
      controller.desktop.answer strand errand :: controller.calls := by
  cases errand with
  | keeping => exact turnOn_calls controller strand
  | bringingBack item status => exact bringBack_calls controller strand item status
  | looking => exact look_calls controller strand
  | copying item => exact copyOut_calls controller strand item
  | saving paste => exact save_calls controller strand paste
  | placing paste saved => exact place_calls controller strand paste saved
  | pressing paste saved => exact press_calls controller strand paste saved
  | returning paste saved failure => exact giveBack_calls controller strand paste saved failure
  | typing text => exact typeOut_calls controller strand text

end Controller

end PasteQueue
