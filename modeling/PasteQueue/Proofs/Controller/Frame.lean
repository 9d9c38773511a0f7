import PasteQueue.Controller.Operation

/-!
What the small steps of a controller leave alone. Notices, notifications of the watcher and the gates
concern neither the clipboard nor the state of the queue; a call of the desktop concerns no gate.
-/

namespace PasteQueue.Controller

variable (controller : Controller)

/-! ### Notices and the watcher -/

section Note

variable (notice : Notice)

@[simp] theorem note_settings : (controller.note notice).settings = controller.settings := rfl
@[simp] theorem note_state : (controller.note notice).state = controller.state := rfl
@[simp] theorem note_desktop : (controller.note notice).desktop = controller.desktop := rfl
@[simp] theorem note_pasteGate : (controller.note notice).pasteGate = controller.pasteGate := rfl
@[simp] theorem note_writeGate : (controller.note notice).writeGate = controller.writeGate := rfl

end Note

theorem log_eq_note (record : Log.Record) : controller.log record = controller.note (.logged record) :=
  rfl

theorem announce_eq_note : controller.announce = controller.note (.announced controller.status) := rfl

theorem logFault_eq_note (message : String) (fault : Desktop.Fault) :
    controller.logFault message fault = controller.note
      (.logged ⟨.error, target, message, [("error", .plain fault.message)]⟩) := rfl

attribute [simp] log_eq_note announce_eq_note logFault_eq_note

section LogAll

variable (records : List Log.Record)

theorem logAll_frame :
    (controller.logAll records).settings = controller.settings ∧
    (controller.logAll records).state = controller.state ∧
    (controller.logAll records).desktop = controller.desktop ∧
    (controller.logAll records).pasteGate = controller.pasteGate ∧
    (controller.logAll records).writeGate = controller.writeGate := by
  induction records generalizing controller with
  | nil => exact ⟨rfl, rfl, rfl, rfl, rfl⟩
  | cons record records ih => exact ih (controller.log record)

@[simp] theorem logAll_settings : (controller.logAll records).settings = controller.settings :=
  (logAll_frame controller records).1
@[simp] theorem logAll_state : (controller.logAll records).state = controller.state :=
  (logAll_frame controller records).2.1
@[simp] theorem logAll_desktop : (controller.logAll records).desktop = controller.desktop :=
  (logAll_frame controller records).2.2.1
@[simp] theorem logAll_pasteGate : (controller.logAll records).pasteGate = controller.pasteGate :=
  (logAll_frame controller records).2.2.2.1
@[simp] theorem logAll_writeGate : (controller.logAll records).writeGate = controller.writeGate :=
  (logAll_frame controller records).2.2.2.2

end LogAll

/-- Whoever is notified of a change, nothing else comes of it. -/
theorem fire_frame :
    controller.fire.settings = controller.settings ∧ controller.fire.state = controller.state ∧
    controller.fire.desktop = controller.desktop ∧
    controller.fire.pasteGate = controller.pasteGate ∧
    controller.fire.writeGate = controller.writeGate := by
  unfold fire notifyWatcher
  split
  · cases controller.watcher <;> exact ⟨rfl, rfl, rfl, rfl, rfl⟩
  · exact ⟨rfl, rfl, rfl, rfl, rfl⟩

@[simp] theorem fire_settings : controller.fire.settings = controller.settings :=
  (fire_frame controller).1
@[simp] theorem fire_state : controller.fire.state = controller.state := (fire_frame controller).2.1
@[simp] theorem fire_desktop : controller.fire.desktop = controller.desktop :=
  (fire_frame controller).2.2.1
@[simp] theorem fire_pasteGate : controller.fire.pasteGate = controller.pasteGate :=
  (fire_frame controller).2.2.2.1
@[simp] theorem fire_writeGate : controller.fire.writeGate = controller.writeGate :=
  (fire_frame controller).2.2.2.2

theorem copy_frame (content : Clipboard.Content) :
    (controller.copy content).settings = controller.settings ∧
    (controller.copy content).state = controller.state ∧
    (controller.copy content).desktop = controller.desktop.copy content ∧
    (controller.copy content).pasteGate = controller.pasteGate ∧
    (controller.copy content).writeGate = controller.writeGate := by
  simp [copy]

/-! ### The gates -/

section NoteFreed

variable (strand : Option StrandId)

theorem noteFreed_frame :
    (controller.noteFreed strand).settings = controller.settings ∧
    (controller.noteFreed strand).state = controller.state ∧
    (controller.noteFreed strand).desktop = controller.desktop ∧
    (controller.noteFreed strand).pasteGate = controller.pasteGate ∧
    (controller.noteFreed strand).writeGate = controller.writeGate := by
  cases strand <;> exact ⟨rfl, rfl, rfl, rfl, rfl⟩

@[simp] theorem noteFreed_settings :
    (controller.noteFreed strand).settings = controller.settings :=
  (noteFreed_frame controller strand).1
@[simp] theorem noteFreed_state : (controller.noteFreed strand).state = controller.state :=
  (noteFreed_frame controller strand).2.1
@[simp] theorem noteFreed_desktop : (controller.noteFreed strand).desktop = controller.desktop :=
  (noteFreed_frame controller strand).2.2.1
@[simp] theorem noteFreed_pasteGate :
    (controller.noteFreed strand).pasteGate = controller.pasteGate :=
  (noteFreed_frame controller strand).2.2.2.1
@[simp] theorem noteFreed_writeGate :
    (controller.noteFreed strand).writeGate = controller.writeGate :=
  (noteFreed_frame controller strand).2.2.2.2

end NoteFreed

@[simp] theorem leaveWriteGate_settings : controller.leaveWriteGate.settings = controller.settings := by
  simp [leaveWriteGate]
@[simp] theorem leaveWriteGate_state : controller.leaveWriteGate.state = controller.state := by
  simp [leaveWriteGate]
@[simp] theorem leaveWriteGate_desktop : controller.leaveWriteGate.desktop = controller.desktop := by
  simp [leaveWriteGate]
@[simp] theorem leaveWriteGate_pasteGate :
    controller.leaveWriteGate.pasteGate = controller.pasteGate := by
  simp [leaveWriteGate]
@[simp] theorem leaveWriteGate_writeGate :
    controller.leaveWriteGate.writeGate = controller.writeGate.release := by
  simp [leaveWriteGate]

@[simp] theorem leavePasteGate_settings : controller.leavePasteGate.settings = controller.settings := by
  simp [leavePasteGate]
@[simp] theorem leavePasteGate_state : controller.leavePasteGate.state = controller.state := by
  simp [leavePasteGate]
@[simp] theorem leavePasteGate_desktop : controller.leavePasteGate.desktop = controller.desktop := by
  simp [leavePasteGate]
@[simp] theorem leavePasteGate_pasteGate :
    controller.leavePasteGate.pasteGate = controller.pasteGate.release := by
  simp [leavePasteGate]
@[simp] theorem leavePasteGate_writeGate :
    controller.leavePasteGate.writeGate = controller.writeGate := by
  simp [leavePasteGate]

end PasteQueue.Controller
