import PasteQueue.Proofs.Interleaving.Advance

/-!
Both gates guard what they are for, at every moment of every run: no two strands are between saving
and giving back, and no two are behind the write gate.
-/

namespace PasteQueue

open Clipboard (Content Item)
open Controller (Approach Errand Operation Stage)
open Gate (Role)

namespace Controller

variable (controller : Controller) (strand : StrandId) (stage : Stage)

theorem enter_frame :
    (controller.enter strand stage).2.settings = controller.settings ∧
    (controller.enter strand stage).2.state = controller.state ∧
    (controller.enter strand stage).2.desktop = controller.desktop ∧
    (controller.enter strand stage).2.writeGate =
      (if stage.asksWriteGate then (controller.writeGate.request strand).2 else controller.writeGate) ∧
    (controller.enter strand stage).2.pasteGate =
      (if stage.asksPasteGate then (controller.pasteGate.request strand).2
        else controller.pasteGate) := by
  cases stage <;> exact ⟨rfl, rfl, rfl, rfl, rfl⟩

theorem opens_write (asks : stage.asksWriteGate = true)
    (opened : controller.opens strand stage = true) : controller.writeGate.holder = some strand := by
  cases stage <;> first | exact Gate.isHeldBy_iff.mp opened | cases asks

theorem opens_paste (asks : stage.asksPasteGate = true)
    (opened : controller.opens strand stage = true) : controller.pasteGate.holder = some strand := by
  cases stage <;> first | exact Gate.isHeldBy_iff.mp opened | cases asks

end Controller

namespace World

structure Gated (world : World) : Prop where
  write : world.controller.writeGate.Guards (world.role Point.writeRole)
  paste : world.controller.pasteGate.Guards (world.role Point.pasteRole)
  family : ∀ strand task, world.tasks strand = some task → task.point.family = task.operation.family

theorem Rested.gated {world : World} (rested : world.Rested) : world.Gated where
  write := by
    rw [rested.writeGate]
    exact .free_outside _ fun strand => role_of_free (rested.idle strand)
  paste := by
    rw [rested.pasteGate]
    exact .free_outside _ fun strand => role_of_free (rested.idle strand)
  family strand task held := by
    rw [rested.idle strand] at held
    cases held

theorem Gated.family_move {world : World} (gated : world.Gated) (controller : Controller)
    {strand : StrandId} {task : Option Task}
    (family : ∀ moved, task = some moved → moved.point.family = moved.operation.family)
    (other : StrandId) (held : Task)
    (holds : (world.move controller strand task).tasks other = some held) :
    held.point.family = held.operation.family := by
  unfold move at holds
  by_cases same : other = strand
  · simp only [same, Function.update_self] at holds
    exact family held holds
  · simp only [Function.update_of_ne same] at holds
    exact gated.family other held holds

theorem Gated.family_put {world : World} (gated : world.Gated) {strand : StrandId}
    {operation : Operation} {approach : Approach}
    (family : ∀ point, approach.1.point? = some point → point.family = operation.family)
    (other : StrandId) (held : Task)
    (holds : (world.put strand operation approach).tasks other = some held) :
    held.point.family = held.operation.family := by
  refine gated.family_move _ ?_ other held holds
  intro moved came
  obtain ⟨point, reached, rfl⟩ := Option.map_eq_some_iff.mp came
  exact family point reached

variable {world after : World} {strand : StrandId} {operation : Operation}

theorem Gated.start (gated : world.Gated) (free : world.tasks strand = none) :
    (world.put strand operation (world.controller.launch operation)).Gated := by
  have launched := Controller.launch_launched world.controller operation
  constructor
  · rw [role_put]
    refine launched.writeGate.symm ▸ gated.write.stay ?_
    rw [role_of_free free]
    cases came : (world.controller.launch operation).1.point? with
    | none => rfl
    | some point => exact (launched.outside point came).1.symm
  · rw [role_put]
    refine launched.pasteGate.symm ▸ gated.paste.stay ?_
    rw [role_of_free free]
    cases came : (world.controller.launch operation).1.point? with
    | none => rfl
    | some point => exact (launched.outside point came).2.symm
  · exact gated.family_put launched.family

theorem Gated.request {stage : Stage} (gated : world.Gated)
    (task : world.tasks strand = some ⟨operation, .arriving stage⟩) :
    (world.move (world.controller.enter strand stage).2 strand
      (some ⟨operation, .waiting stage⟩)).Gated := by
  obtain ⟨-, -, -, writeGate, pasteGate⟩ := Controller.enter_frame world.controller strand stage
  constructor
  · rw [role_move]
    change (world.controller.enter strand stage).2.writeGate.Guards _
    rw [writeGate]
    have old : world.role Point.writeRole strand = .outside := role_of_task _ task
    by_cases asks : stage.asksWriteGate = true
    · simpa [asks, Point.writeRole] using gated.write.request old
    · simpa [asks, Point.writeRole] using gated.write.stay old
  · rw [role_move]
    change (world.controller.enter strand stage).2.pasteGate.Guards _
    rw [pasteGate]
    have old := role_of_task Point.pasteRole task
    cases stage with
    | saving paste => exact gated.paste.request old
    | toggling | checking | copying | placing | settling | lingering | returning =>
      exact gated.paste.stay old
  · refine gated.family_move _ ?_
    intro moved came
    cases came
    have family := gated.family strand _ task
    exact family

theorem Gated.resume {stage : Stage} (gated : world.Gated)
    (task : world.tasks strand = some ⟨operation, .waiting stage⟩)
    (opened : world.controller.opens strand stage = true) :
    (world.put strand operation (world.controller.approach stage)).Gated := by
  have approached := Controller.approach_approached world.controller stage
  constructor
  · rw [role_put]
    change (world.controller.approach stage).2.writeGate.Guards _
    rw [approached.writeGate]
    cases came : (world.controller.approach stage).1.point? with
    | none =>
      have asks := (approached.gone came).1
      simpa using gated.write.leave (Controller.opens_write _ _ _ asks opened)
    | some point =>
      have role := approached.writeRole point came
      by_cases asks : stage.asksWriteGate = true
      · simpa [asks, role] using gated.write.enter (Controller.opens_write _ _ _ asks opened)
      · have old : world.role Point.writeRole strand = .outside := by
          rw [role_of_task _ task]
          simp [Point.writeRole, asks]
        simpa [asks, role] using gated.write.stay old
  · rw [role_put]
    change (world.controller.approach stage).2.pasteGate.Guards _
    rw [approached.pasteGate]
    have old := role_of_task Point.pasteRole task
    cases came : (world.controller.approach stage).1.point? with
    | none =>
      have nothing := (approached.gone came).2
      refine gated.paste.stay ?_
      cases stage <;> first | exact old | cases nothing
    | some point =>
      have role := approached.pasteRole point came
      cases stage with
      | saving paste =>
        simpa [role, Stage.paste?] using gated.paste.enter (Controller.opens_paste _ _ _ rfl opened)
      | toggling | checking | copying | placing | settling | lingering | returning =>
        exact gated.paste.stay (old.trans role.symm)
  · refine gated.family_put ?_
    intro point came
    exact (approached.family point came).trans (gated.family strand _ task)

/-- The point behind a call holds no write gate, and the paste gate as long as anything is left. -/
theorem Gated.call {errand : Errand} (gated : world.Gated)
    (task : world.tasks strand = some ⟨operation, .calling errand⟩) :
    (world.put strand operation (world.controller.complete strand errand).approach).Gated := by
  have completed := Controller.complete_completed world.controller strand errand
  constructor
  · rw [role_put, Controller.approach_point?, completed.stage]
    change (world.controller.complete strand errand).2.writeGate.Guards _
    rw [completed.writeGate]
    -- Whatever stage comes next, its barrier has not been tried.
    have outside : ((errand.next? world.controller.desktop).map Point.arriving).elim
        Role.outside Point.writeRole = .outside := by
      cases errand.next? world.controller.desktop <;> rfl
    rw [outside]
    have old := role_of_task Point.writeRole task
    by_cases inside : errand.inWriteGate = true
    · rw [if_pos inside]
      exact gated.write.leave (gated.write.inside (by simpa [Point.writeRole, inside] using old))
    · rw [if_neg inside]
      exact gated.write.stay (by simpa [Point.writeRole, inside] using old)
  · rw [role_put, Controller.approach_point?, completed.stage]
    change (world.controller.complete strand errand).2.pasteGate.Guards _
    rw [completed.pasteGate]
    have old := role_of_task Point.pasteRole task
    cases next : errand.next? world.controller.desktop with
    | none =>
      by_cases inside : errand.inPasteGate = true
      · rw [if_pos ⟨inside, rfl⟩]
        exact gated.paste.leave (gated.paste.inside (by simpa [Point.pasteRole, inside] using old))
      · rw [if_neg (by simp [inside])]
        exact gated.paste.stay (by simpa [Point.pasteRole, inside] using old)
    | some stage =>
      obtain ⟨-, -, inside, holds⟩ := Controller.Errand.next?_frame next
      rw [if_neg (by simp)]
      exact gated.paste.stay (by simpa [Point.pasteRole, inside, holds] using old)
  · refine gated.family_put ?_
    intro point came
    rw [Controller.approach_point?, completed.stage] at came
    obtain ⟨stage, next, rfl⟩ := Option.map_eq_some_iff.mp came
    exact (Controller.Errand.next?_frame next).1.trans (gated.family strand _ task)

theorem Gated.step (gated : world.Gated) {choice : Choice} (taken : world.Step choice after) :
    after.Gated := by
  cases taken with
  | start free => exact gated.start free
  | request task => exact gated.request task
  | resume task opened => exact gated.resume task opened
  | call task => exact gated.call task
  | external content =>
    obtain ⟨-, -, -, pasteGate, writeGate⟩ := Controller.copy_frame world.controller content
    exact ⟨writeGate.symm ▸ gated.write, pasteGate.symm ▸ gated.paste, gated.family⟩
  | fail | pass => exact ⟨gated.write, gated.paste, gated.family⟩

end World

theorem Run.gated {start world : World} {past : List Moment} (run : Run start past world)
    (gated : start.Gated) : world.Gated := by
  induction run with
  | rest => exact gated
  | step run taken before => exact before.step taken

end PasteQueue
