import PasteQueue.Proofs.Controller.Aside
import PasteQueue.Proofs.Queue.Frame

/-!
What the operations announce. An operation announces the status that it leads to if it changes the
status, and otherwise only if it clears the queue.
-/

namespace PasteQueue

open Clipboard (Item)

/-! ### The status of the queue -/

namespace Queue.State

variable {state after : State}

theorem status_withQueue (on : state.enabled = true) (queue : List Item) :
    (state.withQueue queue).status = ⟨true, queue.length, state.order⟩ := by
  simp [status, withQueue_queue on, on]

theorem status_of_length (on : state.enabled = true) {queue : List Item}
    (other : queue.length ≠ state.queue.length) : (state.withQueue queue).status ≠ state.status := by
  rw [status_withQueue on]
  intro same
  exact other (congrArg Status.length same)

theorem next?_length {order : Order} {queue rest : List Item} {item : Item}
    (next : next? order queue = some (item, rest)) : rest.length + 1 = queue.length := by
  cases queue with
  | nil => cases order <;> cases next
  | cons first queue =>
    cases order with
    | fifo =>
      cases next
      rfl
    | lifo =>
      dsimp only [next?] at next
      obtain ⟨last, -, same⟩ := Option.map_eq_some_iff.mp next
      cases same
      simp

theorem dequeue_status {item : Item} (taken : state.dequeue = .ok (item, after)) :
    after.enabled = state.enabled ∧ after.status ≠ state.status := by
  unfold dequeue at taken
  split at taken
  · rename_i on
    split at taken
    · rename_i found rest next
      cases taken
      have shorter := next?_length next
      exact ⟨withQueue_enabled .., status_of_length on (by omega)⟩
    · cases taken
  · cases taken

theorem remove_status {index : Nat} {item : Item} (taken : state.remove index = .ok (item, after)) :
    after.enabled = state.enabled ∧ after.status ≠ state.status := by
  unfold remove at taken
  split at taken
  · rename_i found there
    cases taken
    obtain ⟨inside, -⟩ := List.getElem?_eq_some_iff.mp there
    have on : state.enabled = true := by
      cases mode : state.enabled with
      | true => rfl
      | false =>
        rw [queue_of_off mode] at inside
        exact absurd inside (Nat.not_lt_zero index)
    have shorter := List.length_eraseIdx_of_lt inside
    exact ⟨withQueue_enabled .., status_of_length on (by omega)⟩
  · cases taken

theorem toggled_ne (order : Order) : order.toggled ≠ order := by cases order <;> decide

theorem withOrder_status_iff (order : Order) :
    (state.withOrder order).status = state.status ↔ state.order = order := by
  constructor
  · intro same
    exact (congrArg Status.order same).symm
  · rintro rfl
    rfl

theorem enable_status (off : state.enabled = false) (kept : Option Item) :
    (state.enable kept).status ≠ state.status := by
  intro same
  have on : (state.enable kept).enabled = true := by
    rw [enable, if_neg (by simp [off])]
    rfl
  have still : (state.enable kept).enabled = state.enabled := congrArg Status.enabled same
  rw [on, off] at still
  cases still

theorem disable_status (on : state.enabled = true) : state.disable.status ≠ state.status := by
  intro same
  have still : state.disable.enabled = state.enabled := congrArg Status.enabled same
  rw [disable_enabled, on] at still
  cases still

/-- An item that is accepted changes the status if and only if it is queued. -/
theorem accept_status (state : State) (item : Item) (time : Nat) :
    (state.accept item time).2.enabled = state.enabled ∧
      ((state.accept item time).2.status = state.status ↔ (state.accept item time).1 ≠ .queued) := by
  rcases state.accept_cases item time with (given | given) | ⟨off, given⟩ | ⟨on, given⟩ <;> rw [given]
  · exact ⟨rfl, by simp⟩
  · exact ⟨rfl, by simp⟩
  · exact ⟨rfl, by simp only [ne_eq, reduceCtorEq, not_false_eq_true, iff_true]; rfl⟩
  · have still : (state.remember item time).enabled = true := on
    have longer : ((state.remember item time).enqueue item).status ≠ state.status :=
      status_of_length still (by simp)
    exact ⟨withQueue_enabled .., by simp [longer]⟩

end Queue.State

namespace Controller

/-! ### What is announced -/

/-- The latest first. -/
def announcements (controller : Controller) : List Queue.Status :=
  controller.notices.filterMap Notice.announced?

/-- What has been announced, and what would be announced now. -/
def report (controller : Controller) : List Queue.Status × Queue.Status :=
  (controller.announcements, controller.status)

theorem report_aside : Aside report where
  note controller notice quiet := by
    have same : (controller.note notice).announcements = controller.announcements :=
      List.filterMap_cons_none quiet
    rw [report, same]
    rfl
  desktop _ _ := rfl
  watcher _ _ := rfl
  writeGate _ _ := rfl
  pasteGate _ _ := rfl
  recordEcho _ _ := rfl

/-- The status has been announced if it has changed, or if it has to be in any case. -/
def Told (always : Bool) (before after : Controller) : Prop :=
  after.announcements =
    (if always = true ∨ after.status ≠ before.status then [after.status] else []) ++
      before.announcements

section Told

variable {always : Bool} {before after : Controller}

theorem Told.of_silent (same : after.report = before.report) : Told false before after := by
  obtain ⟨announcements, status⟩ := Prod.ext_iff.mp same
  have unchanged : after.status = before.status := status
  rw [Told, if_neg (by simp [unchanged])]
  exact announcements

theorem Told.after_silence {middle : Controller} (told : Told always middle after)
    (same : middle.report = before.report) : Told always before after := by
  obtain ⟨announcements, status⟩ := Prod.ext_iff.mp same
  have kept : middle.announcements = before.announcements := announcements
  have unchanged : middle.status = before.status := status
  rwa [Told, kept, unchanged] at told

/-- A new state is announced, with whatever goes on aside before and after that. -/
theorem Told.of_announced {middle announced : Controller} (same : middle.report = before.report)
    {state : Queue.State} (due : always = true ∨ state.status ≠ before.status)
    (changed : announced.report = report { middle with state })
    (made : after.report = announced.announce.report) : Told always before after := by
  obtain ⟨announcements, status⟩ := Prod.ext_iff.mp made
  obtain ⟨announcedBefore, current⟩ := Prod.ext_iff.mp changed
  have earlier : announced.announcements = before.announcements :=
    announcedBefore.trans (congrArg Prod.fst same)
  have now : announced.status = state.status := current
  have new : after.status = state.status := Eq.trans status now
  rw [Told, new, if_pos due, ← earlier, ← now]
  exact announcements

end Told

variable (controller : Controller) (strand : StrandId)

def Operation.clears : Operation → Bool
  | .clear => true
  | .toggle | .update | .pasteNext | .copyItem _ | .textMacro .. | .remove _ | .toggleOrder
  | .setOrder _ => false

theorem launch_told (operation : Operation) :
    Told operation.clears controller (controller.launch operation).2 := by
  cases operation with
  | toggle | update => exact .of_silent rfl
  | pasteNext =>
    dsimp only [launch, pasteNext]
    split
    · exact .of_silent (report_aside.log _ _)
    · rename_i item state taken
      have changed := (Queue.State.dequeue_status taken).2
      exact .of_announced rfl (.inr changed) (report_aside.log _ _) (report_aside.log _ _)
  | copyItem id =>
    dsimp only [launch]
    split <;> exact .of_silent rfl
  | textMacro text delivery =>
    cases delivery with
    | typed => exact .of_silent (report_aside.log _ _)
    | pasted => exact .of_silent ((report_aside.mint _ (.text text)).trans (report_aside.log _ _))
  | remove index =>
    dsimp only [launch, remove]
    split
    · exact .of_silent rfl
    · rename_i item state taken
      have changed := (Queue.State.remove_status taken).2
      exact .of_announced rfl (.inr changed) (report_aside.log _ _) rfl
  | clear => exact .of_announced rfl (.inl rfl) (report_aside.log _ _) rfl
  | toggleOrder =>
    have changed : controller.state.toggleOrder.status ≠ controller.state.status := by
      intro same
      exact Queue.State.toggled_ne _ ((Queue.State.withOrder_status_iff _).mp same).symm
    exact .of_announced rfl (.inr changed) (report_aside.log _ _) rfl
  | setOrder text =>
    dsimp only [launch, setOrder]
    split
    · exact .of_silent rfl
    · rename_i order parsed
      split
      · rename_i same
        have unchanged := (Queue.State.withOrder_status_iff order).mpr same
        refine .of_silent ?_
        calc report _
          _ = report { controller with state := controller.state.withOrder order } :=
            report_aside.log _ _
          _ = report controller := Prod.ext rfl unchanged
      · rename_i other
        have changed := mt (Queue.State.withOrder_status_iff order).mp other
        exact .of_announced rfl (.inr changed) (report_aside.log _ _) rfl

theorem approach_told (stage : Stage) : Told false controller (controller.approach stage).2 := by
  cases stage with
  | toggling =>
    dsimp only [approach, switch]
    split
    · rename_i on
      have changed := Queue.State.disable_status on
      dsimp only [turnOff]
      split
      · exact .of_announced rfl (.inr changed) (report_aside.log _ _) (report_aside.leaveWriteGate _)
      · exact .of_announced rfl (.inr changed) (report_aside.log _ _) rfl
    · exact .of_silent rfl
  | checking =>
    dsimp only [approach, check]
    split
    · exact .of_silent ((report_aside.leaveWriteGate _).trans (report_aside.log _ _))
    · exact .of_silent rfl
  | copying | saving | placing | settling | lingering | returning => exact .of_silent rfl

theorem turnOn_told {controller : Controller} (off : controller.state.enabled = false) :
    Told false controller (turnOn strand controller).2 := by
  have read := report_aside.read controller strand
  unfold turnOn
  cases reading : controller.read strand with
  | mk outcome after =>
    have same : after.state = controller.state := by
      have state := congrArg (fun read => read.2.state) reading
      exact state.symm
    rw [reading] at read
    have changed : (after.state.enable outcome.toOption).status ≠ controller.state.status := by
      rw [same]
      exact Queue.State.enable_status off outcome.toOption
    cases outcome with
    | ok item =>
      exact .of_announced read (.inr changed) (report_aside.log _ _) (report_aside.leaveWriteGate _)
    | error fault =>
      exact .of_announced ((report_aside.logFault _ _ _).trans read) (.inr changed)
        (report_aside.log _ _) (report_aside.leaveWriteGate _)

theorem accept_told (item : Item) : Told false controller (accept controller item).2 := by
  have judged := (controller.state.accept_status item controller.clock).2
  have logged := report_aside.logAll
    { controller with state := (controller.state.accept item controller.clock).2 }
    (controller.state.acceptRecords item controller.clock)
  unfold accept
  dsimp only
  split
  · rename_i queued
    have changed := fun same => judged.mp same queued
    exact .of_announced rfl (.inr changed) logged rfl
  · rename_i other
    exact .of_silent (logged.trans (Prod.ext rfl (judged.mpr other)))

theorem look_told : Told false controller (look strand controller).2 := by
  have read := report_aside.read controller strand
  unfold look
  split <;> rename_i reading <;> rw [reading] at read
  · exact .of_silent (((report_aside.leaveWriteGate _).trans (report_aside.logFault _ _ _)).trans read)
  · rename_i item after
    have left := (report_aside.leaveWriteGate after).trans read
    exact (accept_told after.leaveWriteGate item).after_silence left

/-- Queue mode has to be off where it is about to be turned on. -/
theorem complete_told {errand : Errand} (off : errand = .keeping → controller.state.enabled = false) :
    Told false controller (controller.complete strand errand).2 := by
  by_cases keeps : errand = .keeping
  · subst keeps
    exact turnOn_told strand (off rfl)
  · by_cases looks : errand = .looking
    · subst looks
      exact look_told controller strand
    · exact .of_silent (report_aside.complete _ _ keeps looks)

/-! ### Queue mode -/

theorem enabled_aside : Aside fun controller => controller.state.enabled :=
  ⟨fun _ _ _ => rfl, fun _ _ => rfl, fun _ _ => rfl, fun _ _ => rfl, fun _ _ => rfl, fun _ _ => rfl⟩

theorem launch_enabled (operation : Operation) :
    (controller.launch operation).2.state.enabled = controller.state.enabled := by
  cases operation with
  | toggle | update | toggleOrder => rfl
  | pasteNext =>
    dsimp only [launch, pasteNext]
    split
    · rfl
    · rename_i item state taken
      exact (Queue.State.dequeue_status taken).1
  | copyItem id =>
    dsimp only [launch]
    split <;> rfl
  | textMacro text delivery => cases delivery <;> rfl
  | remove index =>
    dsimp only [launch, remove]
    split
    · rfl
    · rename_i item state taken
      exact (Queue.State.remove_status taken).1
  | clear => exact Queue.State.withQueue_enabled ..
  | setOrder text =>
    dsimp only [launch, setOrder]
    split
    · rfl
    · split <;> rfl

/-- Only a switch turns queue mode on or off. -/
theorem approach_enabled {stage : Stage} (other : stage ≠ .toggling) :
    (controller.approach stage).2.state.enabled = controller.state.enabled :=
  enabled_aside.approach controller other

theorem look_enabled : (look strand controller).2.state.enabled = controller.state.enabled := by
  have read := enabled_aside.read controller strand
  unfold look
  split <;> rename_i reading <;> rw [reading] at read
  · exact (enabled_aside.leaveWriteGate _).trans read
  · rename_i item after
    have left := (enabled_aside.leaveWriteGate after).trans read
    have accepted := (after.leaveWriteGate.state.accept_status item after.leaveWriteGate.clock).1
    have logged := enabled_aside.logAll
      { after.leaveWriteGate with
        state := (after.leaveWriteGate.state.accept item after.leaveWriteGate.clock).2 }
      (after.leaveWriteGate.state.acceptRecords item after.leaveWriteGate.clock)
    dsimp only [accept]
    split <;> exact (logged.trans accepted).trans left

theorem complete_enabled {errand : Errand} (other : errand ≠ .keeping) :
    (controller.complete strand errand).2.state.enabled = controller.state.enabled := by
  by_cases looks : errand = .looking
  · subst looks
    exact look_enabled controller strand
  · exact enabled_aside.complete controller strand other looks

end Controller

end PasteQueue
