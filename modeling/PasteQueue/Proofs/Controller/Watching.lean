import PasteQueue.Proofs.Controller.Frame
import PasteQueue.Proofs.Desktop
import PasteQueue.Proofs.Queue.Frame

/-!
What the operations do to the watcher and to history. A change of the clipboard notifies the watcher,
and nothing else reaches it; only an update that reads the clipboard adds to history.
-/

namespace PasteQueue

open Clipboard (Content Item)

namespace Watcher

variable (watcher : Watcher)

@[simp] theorem notify_phase : watcher.notify.phase = watcher.phase := by
  unfold notify
  split <;> rfl

@[simp] theorem notify_notifiersGone : watcher.notify.notifiersGone = watcher.notifiersGone := by
  unfold notify
  split <;> rfl

theorem notify_pending {watcher : Watcher} (runs : watcher.phase ≠ .ended) :
    watcher.notify.pending = true := by
  unfold notify
  rw [if_neg runs]

theorem notify_of_pending (pending : watcher.pending = true) : watcher.notify.pending = true := by
  unfold notify
  split
  · exact pending
  · rfl

theorem notify_notify : watcher.notify.notify = watcher.notify := by
  unfold notify
  split <;> rfl

end Watcher

namespace Controller

/-- The watcher has been notified at most, and only if it is hooked. -/
structure Watching (before after : Controller) : Prop where
  hooked : after.hooked = before.hooked
  watcher : after.watcher = before.watcher ∨
    before.hooked = true ∧ after.watcher = before.watcher.map Watcher.notify

/-- History is as it was, too. -/
structure Steady (before after : Controller) : Prop extends Watching before after where
  history : after.state.history = before.state.history

variable {before after : Controller}

theorem Watching.trans {last : Controller} (first : before.Watching after)
    (second : after.Watching last) : before.Watching last where
  hooked := second.hooked.trans first.hooked
  watcher := by
    rcases second.watcher with same | ⟨hooked, notified⟩
    · rw [same]
      exact first.watcher
    · rw [first.hooked] at hooked
      rw [notified]
      rcases first.watcher with same | ⟨-, notified⟩
      · rw [same]
        exact .inr ⟨hooked, rfl⟩
      · refine .inr ⟨hooked, ?_⟩
        rw [notified, Option.map_map]
        congr 1
        funext watcher
        exact watcher.notify_notify

namespace Steady

theorem of_same (hooked : after.hooked = before.hooked) (watcher : after.watcher = before.watcher)
    (history : after.state.history = before.state.history) : before.Steady after :=
  ⟨⟨hooked, .inl watcher⟩, history⟩

theorem refl (controller : Controller) : controller.Steady controller := .of_same rfl rfl rfl

theorem trans {last : Controller} (first : before.Steady after) (second : after.Steady last) :
    before.Steady last :=
  ⟨first.toWatching.trans second.toWatching, second.history.trans first.history⟩

theorem note (steady : before.Steady after) (notice : Notice) : before.Steady (after.note notice) :=
  ⟨⟨steady.hooked, steady.watcher⟩, steady.history⟩

theorem withState (steady : before.Steady after) (state : Queue.State)
    (kept : state.history = after.state.history) : before.Steady { after with state } :=
  ⟨⟨steady.hooked, steady.watcher⟩, kept.trans steady.history⟩

theorem logAll (steady : before.Steady after) (records : List Log.Record) :
    before.Steady (after.logAll records) := by
  induction records generalizing after with
  | nil => exact steady
  | cons record records ih => exact ih (steady.note _)

theorem noteFreed (steady : before.Steady after) (strand : Option StrandId) :
    before.Steady (after.noteFreed strand) := by
  cases strand with
  | none => exact steady
  | some strand => exact steady.note _

theorem leaveWriteGate (steady : before.Steady after) : before.Steady after.leaveWriteGate := by
  have same : before.Steady { after with writeGate := after.writeGate.release } :=
    ⟨⟨steady.hooked, steady.watcher⟩, steady.history⟩
  exact same.noteFreed _

theorem leavePasteGate (steady : before.Steady after) : before.Steady after.leavePasteGate := by
  have same : before.Steady { after with pasteGate := after.pasteGate.release } :=
    ⟨⟨steady.hooked, steady.watcher⟩, steady.history⟩
  exact same.noteFreed _

theorem fire (steady : before.Steady after) : before.Steady after.fire := by
  refine steady.trans ?_
  unfold Controller.fire notifyWatcher
  split
  · next hooked =>
    split
    · exact .refl after
    · next watcher watched => exact ⟨⟨rfl, .inr ⟨hooked, by rw [watched]; rfl⟩⟩, rfl⟩
  · exact .refl after

end Steady

/-! ### Copies and calls -/

section Calls

variable (controller : Controller) (strand : StrandId)

theorem copy_steady (content : Content) : controller.Steady (controller.copy content) := by
  have changed : controller.Steady { controller with desktop := controller.desktop.copy content } :=
    .of_same rfl rfl rfl
  exact ((changed.note _).note _).fire

theorem copy_watcher {controller : Controller} (hooked : controller.hooked = true) (content : Content) :
    (controller.copy content).watcher = controller.watcher.map Watcher.notify := by
  simp only [copy, fire, log_eq_note, note, hooked, if_true, notifyWatcher]
  cases watched : controller.watcher <;> rfl

theorem read_steady : controller.Steady (controller.read strand).2 := .of_same rfl rfl rfl

theorem pressPaste_steady : controller.Steady (controller.pressPaste strand).2 := by
  unfold pressPaste
  cases controller.desktop.pressPaste with
  | mk failure desktop => cases failure <;> exact .of_same rfl rfl rfl

theorem typeText_steady (text : String) : controller.Steady (controller.typeText strand text).2 := by
  unfold typeText
  cases controller.desktop.typeText text with
  | mk failure desktop => cases failure <;> exact .of_same rfl rfl rfl

theorem write_steady (item : Item) : controller.Steady (controller.write strand item).2 := by
  unfold write
  cases controller.desktop.write item with
  | mk failure desktop =>
    have changed : controller.Steady { controller with desktop } := .of_same rfl rfl rfl
    cases failure with
    | some fault => exact changed.note _
    | none => exact ((changed.note _).note _).fire

theorem writeRecorded_steady (item : Item) :
    controller.Steady (controller.writeRecorded strand item).2 := by
  have steady := controller.write_steady strand item
  unfold writeRecorded
  cases written : controller.write strand item with
  | mk failure after =>
    rw [written] at steady
    cases failure with
    | some fault => exact steady
    | none =>
      have recorded := steady.withState (after.state.recordEcho after.desktop.seenSequence) rfl
      exact recorded.note _

end Calls

/-! ### Operations -/

variable {controller : Controller}

theorem launch_steady (controller : Controller) (operation : Operation) :
    controller.Steady (controller.launch operation).2 := by
  cases operation with
  | toggle | update => exact .refl controller
  | pasteNext =>
    dsimp only [launch, pasteNext]
    split
    · exact (Steady.refl controller).note _
    · rename_i item state taken
      obtain ⟨rest, rfl⟩ := controller.state.dequeue_ok taken
      have dequeued := (Steady.refl controller).withState _ (controller.state.withQueue_history rest)
      exact ((dequeued.note _).note _).note _
  | copyItem id =>
    dsimp only [launch]
    split <;> exact .refl controller
  | textMacro text delivery =>
    cases delivery with
    | typed => exact (Steady.refl controller).note _
    | pasted => exact .of_same rfl rfl rfl
  | remove index =>
    dsimp only [launch, remove]
    split
    · exact .refl controller
    · rename_i item state taken
      obtain ⟨rest, rfl⟩ := controller.state.remove_ok taken
      have removed := (Steady.refl controller).withState _ (controller.state.withQueue_history rest)
      exact (removed.note _).note _
  | clear =>
    have cleared := (Steady.refl controller).withState _ (controller.state.withQueue_history [])
    exact (cleared.note _).note _
  | toggleOrder =>
    have toggled := (Steady.refl controller).withState controller.state.toggleOrder rfl
    exact (toggled.note _).note _
  | setOrder text =>
    dsimp only [launch, setOrder]
    split
    · exact .refl controller
    · rename_i order parsed
      have ordered :=
        ((Steady.refl controller).withState (controller.state.withOrder order) rfl).note
          (.logged (Queue.orderRecord controller.state.order order))
      split
      · exact ordered
      · exact ordered.note _

theorem approach_steady (controller : Controller) (stage : Stage) :
    controller.Steady (controller.approach stage).2 := by
  cases stage with
  | toggling =>
    dsimp only [approach, switch]
    split
    · have off := (((Steady.refl controller).withState controller.state.disable rfl).note
        (.logged Queue.disabledRecord))
      dsimp only [turnOff]
      split
      · exact (off.note _).leaveWriteGate
      · exact off.note _
    · exact .refl controller
  | checking =>
    dsimp only [approach, check]
    split
    · exact ((Steady.refl controller).note _).leaveWriteGate
    · exact .refl controller
  | copying | saving | placing | settling | lingering | returning => exact .refl controller

theorem giveBack_steady (strand : StrandId) (paste : Paste) (saved : Item)
    (failure : Option Desktop.Fault) (controller : Controller) :
    controller.Steady (giveBack strand paste saved failure controller).2 := by
  have wrote := (controller.writeRecorded_steady strand saved).leaveWriteGate
  unfold giveBack
  cases written : controller.writeRecorded strand saved with
  | mk missed after =>
    rw [written] at wrote
    cases failure <;> cases missed
    · exact wrote.leavePasteGate
    · exact (wrote.note _).leavePasteGate
    · exact wrote.leavePasteGate
    · exact (wrote.note _).leavePasteGate

theorem press_steady (strand : StrandId) (paste : Paste) (saved : Item) (controller : Controller) :
    controller.Steady (press strand paste saved controller).2 := by
  have pressed := controller.pressPaste_steady strand
  unfold press
  cases pressing : controller.pressPaste strand with
  | mk failure after =>
    rw [pressing] at pressed
    cases failure with
    | some fault => exact pressed.note _
    | none => exact pressed

theorem place_steady (strand : StrandId) (paste : Paste) (saved : Item) (controller : Controller) :
    controller.Steady (place strand paste saved controller).2 := by
  have wrote := (controller.writeRecorded_steady strand paste.item).leaveWriteGate
  unfold place
  cases written : controller.writeRecorded strand paste.item with
  | mk failure after =>
    rw [written] at wrote
    cases failure with
    | some fault => exact wrote.note _
    | none => exact wrote

theorem save_steady (strand : StrandId) (paste : Paste) (controller : Controller) :
    controller.Steady (save strand paste controller).2 := by
  have read := controller.read_steady strand
  unfold save
  cases reading : controller.read strand with
  | mk outcome after =>
    rw [reading] at read
    cases outcome with
    | error fault => exact (read.note _).leavePasteGate
    | ok saved => exact read

theorem turnOn_steady (strand : StrandId) (controller : Controller) :
    controller.Steady (turnOn strand controller).2 := by
  have read := controller.read_steady strand
  unfold turnOn
  cases reading : controller.read strand with
  | mk outcome after =>
    rw [reading] at read
    cases outcome with
    | error fault =>
      refine Steady.leaveWriteGate (.note (.note (.withState (read.note _) _ ?_) _) _)
      exact after.state.enable_history none
    | ok item =>
      have enabled := read.withState _ (after.state.enable_history (some item))
      exact ((enabled.note _).note _).leaveWriteGate

theorem bringBack_steady (strand : StrandId) (item : Item) (status : Queue.Status)
    (controller : Controller) : controller.Steady (bringBack strand item status controller).2 := by
  have wrote := controller.writeRecorded_steady strand item
  unfold bringBack
  cases written : controller.writeRecorded strand item with
  | mk failure after =>
    rw [written] at wrote
    cases failure with
    | some fault => exact (wrote.note _).leaveWriteGate
    | none => exact (wrote.note _).leaveWriteGate

theorem copyOut_steady (strand : StrandId) (item : Item) (controller : Controller) :
    controller.Steady (copyOut strand item controller).2 := by
  have wrote := controller.writeRecorded_steady strand item
  unfold copyOut
  cases written : controller.writeRecorded strand item with
  | mk failure after =>
    rw [written] at wrote
    cases failure with
    | some fault => exact wrote.leaveWriteGate
    | none => exact wrote.leaveWriteGate.note _

theorem typeOut_steady (strand : StrandId) (text : String) (controller : Controller) :
    controller.Steady (typeOut strand text controller).2 := by
  have typed := controller.typeText_steady strand text
  unfold typeOut
  cases typing : controller.typeText strand text with
  | mk failure after =>
    rw [typing] at typed
    cases failure with
    | some fault => exact typed.note _
    | none => exact typed

theorem complete_steady (controller : Controller) (strand : StrandId) {errand : Errand}
    (blind : errand ≠ .looking) : controller.Steady (controller.complete strand errand).2 := by
  cases errand with
  | keeping => exact turnOn_steady strand controller
  | bringingBack item status => exact bringBack_steady strand item status controller
  | looking => exact absurd rfl blind
  | copying item => exact copyOut_steady strand item controller
  | saving paste => exact save_steady strand paste controller
  | placing paste saved => exact place_steady strand paste saved controller
  | pressing paste saved => exact press_steady strand paste saved controller
  | returning paste saved failure => exact giveBack_steady strand paste saved failure controller
  | typing text => exact typeOut_steady strand text controller

/-! ### Looking -/

theorem accept_state (item : Item) :
    (controller.accept item).2.state = (controller.state.accept item controller.clock).2 := by
  dsimp only [accept]
  split <;> simp [finish]

theorem accept_watching (item : Item) : controller.Watching (controller.accept item).2 := by
  have accepted : ({ controller with state := (controller.state.accept item controller.clock).2 } :
      Controller).Steady (controller.accept item).2 := by
    dsimp only [accept]
    split
    · exact ((Steady.refl _).logAll _).note _
    · exact (Steady.refl _).logAll _
  exact ⟨accepted.hooked, accepted.watcher⟩

theorem noteFreed_clock (strand : Option StrandId) :
    (controller.noteFreed strand).clock = controller.clock := by
  cases strand <;> rfl

theorem leaveWriteGate_clock (controller : Controller) :
    controller.leaveWriteGate.clock = controller.clock :=
  noteFreed_clock _

theorem look_state (strand : StrandId) {item : Item} (read : controller.desktop.read.1 = .ok item) :
    (look strand controller).2.state = (controller.state.accept item controller.clock).2 := by
  unfold look
  cases reading : controller.read strand with
  | mk outcome after =>
    have same : outcome = .ok item := (congrArg Prod.fst reading).symm.trans read
    have state : after.state = controller.state := (congrArg (·.2.state) reading).symm
    have clock : after.clock = controller.clock := (congrArg (·.2.clock) reading).symm
    rw [same]
    dsimp only
    rw [accept_state, leaveWriteGate_state, leaveWriteGate_clock, state, clock]

theorem look_watching (strand : StrandId) (controller : Controller) :
    controller.Watching (look strand controller).2 := by
  have read := controller.read_steady strand
  unfold look
  cases reading : controller.read strand with
  | mk outcome after =>
    rw [reading] at read
    cases outcome with
    | error fault => exact (read.note _).leaveWriteGate.toWatching
    | ok item => exact read.leaveWriteGate.toWatching.trans (accept_watching item)

theorem complete_watching (controller : Controller) (strand : StrandId) (errand : Errand) :
    controller.Watching (controller.complete strand errand).2 := by
  by_cases blind : errand = .looking
  · rw [blind]
    exact look_watching strand controller
  · exact (complete_steady controller strand blind).toWatching

end Controller

end PasteQueue
