import PasteQueue.Proofs.Interleaving.Points

/-!
How an operation advances by itself, from its start or from a barrier that it has passed, and behind
its calls. Each of the three ways has one summary, from which the steps of a world are read off.
-/

namespace PasteQueue

open Clipboard (Content Item)
open Gate (Role)

namespace Controller

/-- What a paste is going to paste, as its start finds it: the next item of the queue, or the text
of a macro. -/
def chosen? (controller : Controller) : Operation → Option Content
  | .pasteNext =>
    match controller.state.dequeue with
    | .ok (item, _) => some item.content
    | .error _ => none
  | .textMacro text .pasted => some (.text text)
  | _ => none

def Paste.content (paste : Paste) : Content := paste.item.content

/-! ### From the start -/

structure Launched (operation : Operation) (before : Controller) (approach : Approach) : Prop where
  settings : approach.2.settings = before.settings
  desktop : before.desktop.Unchanged approach.2.desktop
  scripts : approach.2.desktop.scripts = before.desktop.scripts
  writeGate : approach.2.writeGate = before.writeGate
  pasteGate : approach.2.pasteGate = before.pasteGate
  echoes : approach.2.state.echoes = before.state.echoes
  snapshot : approach.2.state.snapshot = before.state.snapshot
  family : ∀ point, approach.1.point? = some point → point.family = operation.family
  outside : ∀ point, approach.1.point? = some point →
    point.writeRole = .outside ∧ point.pasteRole = .outside
  paste : (approach.1.point?.bind Point.paste?).map Paste.content = before.chosen? operation

variable {controller : Controller}

theorem Launched.of_finished {operation : Operation} {after : Controller} {result : Result}
    (settings : after.settings = controller.settings) (desktop : after.desktop = controller.desktop)
    (writeGate : after.writeGate = controller.writeGate)
    (pasteGate : after.pasteGate = controller.pasteGate)
    (echoes : after.state.echoes = controller.state.echoes)
    (snapshot : after.state.snapshot = controller.state.snapshot)
    (nothing : controller.chosen? operation = none) :
    Launched operation controller (after.finish result).approach where
  settings := settings
  desktop := desktop ▸ Desktop.Unchanged.refl _
  scripts := congrArg Desktop.scripts desktop
  writeGate := writeGate
  pasteGate := pasteGate
  echoes := echoes
  snapshot := snapshot
  family _ came := by cases came
  outside _ came := by cases came
  paste := nothing.symm

theorem Launched.of_reached {operation : Operation} {after : Controller} {stage : Stage}
    (settings : after.settings = controller.settings)
    (desktop : controller.desktop.Unchanged after.desktop)
    (scripts : after.desktop.scripts = controller.desktop.scripts)
    (writeGate : after.writeGate = controller.writeGate)
    (pasteGate : after.pasteGate = controller.pasteGate)
    (echoes : after.state.echoes = controller.state.echoes)
    (snapshot : after.state.snapshot = controller.state.snapshot)
    (family : stage.family = operation.family) (ahead : stage.holdsPasteGate = false)
    (chosen : stage.paste?.map Paste.content = controller.chosen? operation) :
    Launched operation controller (after.reach stage).approach where
  settings := settings
  desktop := desktop
  scripts := scripts
  writeGate := writeGate
  pasteGate := pasteGate
  echoes := echoes
  snapshot := snapshot
  family _ came := by
    cases came
    exact family
  outside _ came := by
    cases came
    exact ⟨rfl, by simp [Point.pasteRole, ahead]⟩
  paste := chosen

theorem pasteNext_launched : Launched .pasteNext controller controller.pasteNext.approach := by
  unfold pasteNext
  cases taken : controller.state.dequeue with
  | error reason => exact .of_finished rfl rfl rfl rfl rfl rfl (by simp [chosen?, taken])
  | ok pair =>
    have frame := Queue.State.dequeue_frame _ taken
    exact .of_reached rfl (.refl _) rfl rfl rfl frame.1 frame.2 rfl rfl
      (by simp [chosen?, taken, Stage.paste?, Paste.content])

theorem runMacro_launched (text : String) (delivery : Delivery) :
    Launched (.textMacro text delivery) controller (runMacro text delivery controller) := by
  cases delivery with
  | typed =>
    refine ⟨rfl, .refl _, rfl, rfl, rfl, rfl, rfl, ?_, ?_, rfl⟩ <;> intro point came <;> cases came
    · rfl
    · exact ⟨rfl, rfl⟩
  | pasted =>
    exact .of_reached rfl (Desktop.mint_unchanged _ (.text text)) rfl rfl rfl rfl rfl rfl rfl rfl

theorem launch_launched (controller : Controller) (operation : Operation) :
    Launched operation controller (controller.launch operation) := by
  cases operation with
  | toggle => exact .of_reached rfl (.refl _) rfl rfl rfl rfl rfl rfl rfl rfl
  | update => exact .of_reached rfl (.refl _) rfl rfl rfl rfl rfl rfl rfl rfl
  | pasteNext => exact pasteNext_launched
  | copyItem id =>
    dsimp only [launch]
    split
    · exact .of_finished rfl rfl rfl rfl rfl rfl rfl
    · exact .of_reached rfl (.refl _) rfl rfl rfl rfl rfl rfl rfl rfl
  | textMacro text delivery => exact runMacro_launched text delivery
  | remove index =>
    dsimp only [launch, remove]
    split
    · exact .of_finished rfl rfl rfl rfl rfl rfl rfl
    · rename_i item state taken
      have frame := Queue.State.remove_frame _ taken
      exact .of_finished rfl rfl rfl rfl frame.1 frame.2 rfl
  | clear =>
    exact .of_finished rfl rfl rfl rfl (by simp) (by simp) rfl
  | toggleOrder => exact .of_finished rfl rfl rfl rfl rfl rfl rfl
  | setOrder text =>
    dsimp only [launch, setOrder]
    split
    · exact .of_finished rfl rfl rfl rfl rfl rfl rfl
    · split <;> exact .of_finished rfl rfl rfl rfl rfl rfl rfl

/-! ### From a barrier -/

structure Approached (stage : Stage) (before : Controller) (approach : Approach) : Prop where
  settings : approach.2.settings = before.settings
  desktop : approach.2.desktop = before.desktop
  writeGate : approach.2.writeGate =
    if approach.1.point? = none then before.writeGate.release else before.writeGate
  pasteGate : approach.2.pasteGate = before.pasteGate
  echoes : approach.2.state.echoes = before.state.echoes
  gone : approach.1.point? = none → stage.asksWriteGate = true ∧ stage.paste? = none
  family : ∀ point, approach.1.point? = some point → point.family = stage.family
  writeRole : ∀ point, approach.1.point? = some point →
    point.writeRole = if stage.asksWriteGate then .inside else .outside
  pasteRole : ∀ point, approach.1.point? = some point →
    point.pasteRole = if stage.paste?.isSome then .inside else .outside
  paste : approach.1.point?.bind Point.paste? = stage.paste?
  saved : approach.1.point?.bind Point.saved? = stage.saved?
  snapshot : ∀ item, approach.2.state.snapshot = some item → before.state.snapshot = some item
  restored : ∀ item status, approach.1 = .calling (.bringingBack item status) →
    before.state.snapshot = some item

theorem Approached.of_call {stage : Stage} {after : Controller} {errand : Errand}
    (settings : after.settings = controller.settings) (desktop : after.desktop = controller.desktop)
    (writeGate : after.writeGate = controller.writeGate)
    (pasteGate : after.pasteGate = controller.pasteGate)
    (echoes : after.state.echoes = controller.state.echoes)
    (family : errand.family = stage.family)
    (writeRole : errand.inWriteGate = stage.asksWriteGate)
    (pasteRole : errand.inPasteGate = stage.paste?.isSome) (paste : errand.paste? = stage.paste?)
    (saved : errand.saved? = stage.saved?)
    (snapshot : ∀ item, after.state.snapshot = some item → controller.state.snapshot = some item)
    (restored : ∀ item status, errand = .bringingBack item status →
      controller.state.snapshot = some item) :
    Approached stage controller (after.call errand) where
  settings := settings
  desktop := desktop
  writeGate := writeGate
  pasteGate := pasteGate
  echoes := echoes
  gone came := by cases came
  family _ came := by
    cases came
    exact family
  writeRole _ came := by
    cases came
    rw [← writeRole]
    rfl
  pasteRole _ came := by
    cases came
    rw [← pasteRole]
    rfl
  paste := paste
  saved := saved
  snapshot := snapshot
  restored item status came := restored item status (Advance.calling.inj came)

theorem Approached.of_finished {stage : Stage} {after : Controller} {result : Result}
    (settings : after.settings = controller.settings) (desktop : after.desktop = controller.desktop)
    (writeGate : after.writeGate = controller.writeGate.release)
    (pasteGate : after.pasteGate = controller.pasteGate)
    (echoes : after.state.echoes = controller.state.echoes)
    (gone : stage.asksWriteGate = true ∧ stage.paste? = none) (saved : stage.saved? = none)
    (snapshot : ∀ item, after.state.snapshot = some item → controller.state.snapshot = some item) :
    Approached stage controller (after.finish result).approach where
  settings := settings
  desktop := desktop
  writeGate := writeGate
  pasteGate := pasteGate
  echoes := echoes
  gone _ := gone
  family _ came := by cases came
  writeRole _ came := by cases came
  pasteRole _ came := by cases came
  paste := gone.2.symm
  saved := saved.symm
  snapshot := snapshot
  restored _ _ came := by cases came

theorem switch_approached : Approached .toggling controller (switch controller) := by
  unfold switch
  split
  · dsimp only [turnOff]
    split
    · exact .of_finished (by simp) (by simp) (by simp) (by simp) (by simp) ⟨rfl, rfl⟩ rfl (by simp)
    · rename_i kept snapshot
      exact .of_call rfl rfl rfl rfl rfl rfl rfl
        rfl rfl rfl (by simp) (by intro item status same; cases same; exact snapshot)
  · exact .of_call rfl rfl rfl rfl rfl rfl rfl
      rfl rfl rfl (fun _ keeps => keeps) (by intro item status same; cases same)

theorem check_approached : Approached .checking controller (check controller) := by
  dsimp only [check]
  split
  · exact .of_finished (by simp) (by simp) (by simp) (by simp) (by simp) ⟨rfl, rfl⟩ rfl
      (fun _ keeps => by simpa using keeps)
  · exact .of_call rfl rfl rfl rfl rfl rfl rfl
      rfl rfl rfl (fun _ keeps => keeps) (by intro item status same; cases same)

theorem approach_approached (controller : Controller) (stage : Stage) :
    Approached stage controller (controller.approach stage) := by
  cases stage with
  | toggling => exact switch_approached
  | checking => exact check_approached
  | lingering paste saved =>
    refine ⟨rfl, rfl, rfl, rfl, rfl, ?_, ?_, ?_, ?_, rfl, rfl, fun _ keeps => keeps, ?_⟩
    · intro came
      cases came
    · intro point came
      cases came
      rfl
    · intro point came
      cases came
      rfl
    · intro point came
      cases came
      rfl
    · intro item status came
      cases came
  | copying | saving | placing | settling | returning =>
    refine .of_call rfl rfl rfl rfl rfl rfl rfl rfl rfl rfl (fun _ keeps => keeps) ?_
    intro item status same
    cases same

/-- What is seen of pastes only is not seen behind the barriers of the other operations. -/
theorem switch_check_view {View : Type} (view : Point → View) (rest : View)
    (plain : ∀ errand : Errand, errand.paste? = none → view (.calling errand) = rest)
    (controller : Controller) :
    (switch controller).1.point?.elim rest view = rest ∧
    (check controller).1.point?.elim rest view = rest := by
  constructor
  · dsimp only [switch, turnOff]
    split
    · split
      · rfl
      · exact plain _ rfl
    · exact plain _ rfl
  · dsimp only [check]
    split
    · rfl
    · exact plain _ rfl

/-! ### Behind a call -/

theorem approach_point? (step : Step) :
    step.approach.1.point? = step.1.stage?.map Point.arriving := by
  obtain ⟨progress, after⟩ := step
  cases progress <;> rfl

section Next

variable {desktop : Desktop} {errand : Errand} {stage : Stage}

/-- Only a paste goes on behind a call; it goes on with the same item, behind the paste gate. -/
theorem Errand.next?_frame (next : errand.next? desktop = some stage) :
    stage.family = errand.family ∧ stage.paste? = errand.paste? ∧ errand.inPasteGate = true ∧
      stage.holdsPasteGate = true := by
  cases errand with
  | saving paste =>
    dsimp only [Errand.next?] at next
    split at next <;> cases next
    exact ⟨rfl, rfl, rfl, rfl⟩
  | placing paste saved =>
    dsimp only [Errand.next?] at next
    split at next <;> cases next <;> exact ⟨rfl, rfl, rfl, rfl⟩
  | pressing paste saved =>
    dsimp only [Errand.next?] at next
    split at next <;> cases next <;> exact ⟨rfl, rfl, rfl, rfl⟩
  | keeping | bringingBack | looking | copying | returning | typing => cases next

/-- What has been saved stays saved, and a paste saves what the clipboard shows. -/
theorem Errand.next?_saved (next : errand.next? desktop = some stage) :
    stage.saved? = errand.saved? ∨
      ∃ paste saved, errand = .saving paste ∧ stage.saved? = some saved ∧
        saved.content = desktop.current.content := by
  cases errand with
  | saving paste =>
    dsimp only [Errand.next?] at next
    split at next
    · rename_i saved outcome
      cases next
      exact .inr ⟨paste, saved, rfl, rfl, Desktop.read_content desktop outcome⟩
    · cases next
  | placing paste saved =>
    dsimp only [Errand.next?] at next
    split at next <;> cases next <;> exact .inl rfl
  | pressing paste saved =>
    dsimp only [Errand.next?] at next
    split at next <;> cases next <;> exact .inl rfl
  | keeping | bringingBack | looking | copying | returning | typing => cases next

end Next

end Controller

end PasteQueue
