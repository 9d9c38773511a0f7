import PasteQueue.Controller.Operation

/-!
What goes on aside. Most of what an operation does is to log, to pass gates and to call the desktop, and
there are views of the controller that none of this changes.
-/

namespace PasteQueue

open Clipboard (Content Item)

namespace Controller

def Notice.announced? : Notice → Option Queue.Status
  | .announced status => some status
  | .logged _ | .copied _ | .read .. | .wrote .. | .pressed .. | .typed .. | .notified | .freed _ => none

/-- Logging, the gates, the calls of the desktop and the watcher leave a view alone. -/
structure Aside {View : Type} (view : Controller → View) : Prop where
  note : ∀ controller notice, notice.announced? = none → view (controller.note notice) = view controller
  desktop : ∀ controller desktop, view { controller with desktop } = view controller
  watcher : ∀ controller watcher, view { controller with watcher } = view controller
  writeGate : ∀ controller writeGate, view { controller with writeGate } = view controller
  pasteGate : ∀ controller pasteGate, view { controller with pasteGate } = view controller
  recordEcho : ∀ controller sequence,
    view { controller with state := controller.state.recordEcho sequence } = view controller

namespace Aside

variable {View : Type} {view : Controller → View} (aside : Aside view) (controller : Controller)
  (strand : StrandId)
include aside

theorem log (record : Log.Record) : view (controller.log record) = view controller :=
  aside.note _ _ rfl

theorem logFault (message : String) (fault : Desktop.Fault) :
    view (controller.logFault message fault) = view controller := aside.note _ _ rfl

theorem logAll (records : List Log.Record) : view (controller.logAll records) = view controller := by
  induction records generalizing controller with
  | nil => rfl
  | cons record records ih =>
    calc view (controller.logAll (record :: records))
      _ = view (controller.log record) := ih _
      _ = view controller := aside.log _ _

theorem noteFreed (freed : Option StrandId) : view (controller.noteFreed freed) = view controller := by
  cases freed with
  | none => rfl
  | some strand => exact aside.note _ _ rfl

theorem leaveWriteGate : view controller.leaveWriteGate = view controller :=
  (aside.noteFreed _ _).trans (aside.writeGate _ _)

theorem leavePasteGate : view controller.leavePasteGate = view controller :=
  (aside.noteFreed _ _).trans (aside.pasteGate _ _)

theorem fire : view controller.fire = view controller := by
  unfold Controller.fire notifyWatcher
  split
  · split
    · rfl
    · calc view _
        _ = view _ := aside.note _ _ rfl
        _ = view _ := aside.log _ _
        _ = view controller := aside.watcher _ _
  · rfl

theorem copy (content : Content) : view (controller.copy content) = view controller := by
  calc view _
    _ = view _ := aside.fire _
    _ = view _ := aside.log _ _
    _ = view _ := aside.note _ _ rfl
    _ = view controller := aside.desktop _ _

theorem called (desktop : Desktop) {notice : Notice} (quiet : notice.announced? = none) :
    view ({ controller with desktop }.note notice) = view controller :=
  (aside.note _ _ quiet).trans (aside.desktop _ _)

theorem read : view (controller.read strand).2 = view controller := aside.called _ _ rfl

theorem mint (content : Content) : view (controller.mint content).2 = view controller :=
  aside.desktop _ _

theorem pressPaste : view (controller.pressPaste strand).2 = view controller := by
  unfold Controller.pressPaste
  dsimp only
  split
  · exact (aside.log _ _).trans (aside.called _ _ rfl)
  · exact aside.called _ _ rfl

theorem typeText (text : String) : view (controller.typeText strand text).2 = view controller := by
  unfold Controller.typeText
  dsimp only
  split
  · exact (aside.log _ _).trans (aside.called _ _ rfl)
  · exact aside.called _ _ rfl

theorem write (item : Item) : view (controller.write strand item).2 = view controller := by
  unfold Controller.write
  dsimp only
  split
  · exact aside.called _ _ rfl
  · exact ((aside.fire _).trans (aside.log _ _)).trans (aside.called _ _ rfl)

theorem writeRecorded (item : Item) :
    view (controller.writeRecorded strand item).2 = view controller := by
  have wrote := aside.write controller strand item
  unfold Controller.writeRecorded
  cases written : controller.write strand item with
  | mk failure after =>
    rw [written] at wrote
    cases failure with
    | some fault => exact wrote
    | none =>
      calc view _
        _ = view _ := aside.log _ _
        _ = view after := aside.recordEcho _ _
        _ = view controller := wrote

theorem enter (stage : Stage) : view (controller.enter strand stage).2 = view controller := by
  cases stage with
  | toggling | checking | copying | placing | returning => exact aside.writeGate _ _
  | saving => exact aside.pasteGate _ _
  | settling | lingering => rfl

theorem bringBack (item : Item) (status : Queue.Status) :
    view (bringBack strand item status controller).2 = view controller := by
  have wrote := aside.writeRecorded controller strand item
  unfold Controller.bringBack
  split <;> rename_i written <;> rw [written] at wrote
  · exact ((aside.leaveWriteGate _).trans (aside.logFault _ _ _)).trans wrote
  · exact ((aside.leaveWriteGate _).trans (aside.log _ _)).trans wrote

theorem copyOut (item : Item) : view (copyOut strand item controller).2 = view controller := by
  have wrote := aside.writeRecorded controller strand item
  unfold Controller.copyOut
  split <;> rename_i written <;> rw [written] at wrote
  · exact (aside.leaveWriteGate _).trans wrote
  · exact ((aside.log _ _).trans (aside.leaveWriteGate _)).trans wrote

theorem save (paste : Paste) : view (save strand paste controller).2 = view controller := by
  have read := aside.read controller strand
  unfold Controller.save
  split <;> rename_i reading <;> rw [reading] at read
  · exact ((aside.leavePasteGate _).trans (aside.logFault _ _ _)).trans read
  · exact read

theorem place (paste : Paste) (saved : Item) :
    view (place strand paste saved controller).2 = view controller := by
  have wrote := (aside.leaveWriteGate _).trans (aside.writeRecorded controller strand paste.item)
  unfold Controller.place
  cases written : controller.writeRecorded strand paste.item with
  | mk failure after =>
    rw [written] at wrote
    cases failure with
    | some fault => exact (aside.logFault _ _ _).trans wrote
    | none => exact wrote

theorem press (paste : Paste) (saved : Item) :
    view (press strand paste saved controller).2 = view controller := by
  have pressed := aside.pressPaste controller strand
  unfold Controller.press
  split <;> rename_i pressing <;> rw [pressing] at pressed
  · exact (aside.logFault _ _ _).trans pressed
  · exact pressed

theorem giveBack (paste : Paste) (saved : Item) (failure : Option Desktop.Fault) :
    view (giveBack strand paste saved failure controller).2 = view controller := by
  have wrote := (aside.leaveWriteGate _).trans (aside.writeRecorded controller strand saved)
  unfold Controller.giveBack
  cases written : controller.writeRecorded strand saved with
  | mk missed after =>
    rw [written] at wrote
    cases failure <;> cases missed
    · exact (aside.leavePasteGate _).trans wrote
    · exact ((aside.leavePasteGate _).trans (aside.logFault _ _ _)).trans wrote
    · exact (aside.leavePasteGate _).trans wrote
    · exact ((aside.leavePasteGate _).trans (aside.logFault _ _ _)).trans wrote

theorem typeOut (text : String) : view (typeOut strand text controller).2 = view controller := by
  have typed := aside.typeText controller strand text
  unfold Controller.typeOut
  split <;> rename_i typing <;> rw [typing] at typed
  · exact (aside.logFault _ _ _).trans typed
  · exact typed

/-- Behind the other barriers than that of a switch nothing goes on but aside. -/
theorem approach {stage : Stage} (other : stage ≠ .toggling) :
    view (controller.approach stage).2 = view controller := by
  cases stage with
  | toggling => exact absurd rfl other
  | checking =>
    dsimp only [Controller.approach, check]
    split
    · exact (aside.leaveWriteGate _).trans (aside.log _ _)
    · rfl
  | copying | saving | placing | settling | lingering | returning => rfl

/-- Neither does behind calls, but for those of a switch and of an update. -/
theorem complete {errand : Errand} (unkept : errand ≠ .keeping) (unseen : errand ≠ .looking) :
    view (controller.complete strand errand).2 = view controller := by
  cases errand with
  | keeping => exact absurd rfl unkept
  | looking => exact absurd rfl unseen
  | bringingBack item status => exact aside.bringBack _ _ _ _
  | copying item => exact aside.copyOut _ _ _
  | saving paste => exact aside.save _ _ _
  | placing paste saved => exact aside.place _ _ _ _
  | pressing paste saved => exact aside.press _ _ _ _
  | returning paste saved failure => exact aside.giveBack _ _ _ _ _
  | typing text => exact aside.typeOut _ _ _

end Aside

end Controller

end PasteQueue
