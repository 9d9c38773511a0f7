import PasteQueue.Proofs.Interleaving.Clipboard

/-!
What the past of a run tells of the operations in hand: each has been started by its strand, and what
a paste under way is to paste is what its start has chosen.
-/

namespace PasteQueue

open Clipboard (Content Item)
open Controller (Approach Errand Operation Paste Stage)

def Choice.strand? : Choice → Option StrandId
  | .start strand _ | .request strand | .resume strand | .call strand => some strand
  | .external _ | .fail .. | .pass _ => none

/-- The moments of a strand since its latest start. -/
def latest (strand : StrandId) : List Moment → List Moment
  | [] => []
  | moment :: past =>
    if moment.choice.strand? = some strand then
      match moment.choice with
      | .start _ _ => [moment]
      | _ => moment :: latest strand past
    else latest strand past

/-- What the latest start of a strand has chosen to paste. -/
def chosen? (strand : StrandId) : List Moment → Option Content
  | [] => none
  | ⟨world, .start starter operation⟩ :: past =>
    if starter = strand then world.controller.chosen? operation else chosen? strand past
  | _ :: past => chosen? strand past

namespace World

variable {world after : World} {choice : Choice}

theorem Step.others (taken : world.Step choice after) {strand : StrandId}
    (other : choice.strand? ≠ some strand) : after.tasks strand = world.tasks strand := by
  have apart : ∀ {mover : StrandId}, some mover ≠ some strand → strand ≠ mover := by
    intro mover different same
    exact different (congrArg some same.symm)
  cases taken with
  | start | request | resume | call => exact Function.update_of_ne (apart other) _ _
  | external | fail | pass => rfl

theorem put_tasks (strand : StrandId) (operation : Operation) (approach : Approach) :
    (world.put strand operation approach).tasks strand =
      approach.1.point?.map (Task.mk operation) := Function.update_self ..

theorem move_tasks (controller : Controller) (strand : StrandId) (task : Option Task) :
    (world.move controller strand task).tasks strand = task := Function.update_self ..

theorem Step.operation (taken : world.Step choice after) {strand : StrandId} {task : Task}
    (own : choice.strand? = some strand) (held : after.tasks strand = some task)
    (goesOn : ∀ operation, choice ≠ .start strand operation) :
    ∃ point, world.tasks strand = some ⟨task.operation, point⟩ := by
  cases taken with
  | start free =>
    cases own
    exact absurd rfl (goesOn _)
  | request before =>
    cases own
    rw [move_tasks] at held
    cases held
    exact ⟨_, before⟩
  | resume before opened =>
    cases own
    rw [put_tasks] at held
    obtain ⟨point, -, rfl⟩ := Option.map_eq_some_iff.mp held
    exact ⟨_, before⟩
  | call before =>
    cases own
    rw [put_tasks] at held
    obtain ⟨point, -, rfl⟩ := Option.map_eq_some_iff.mp held
    exact ⟨_, before⟩
  | external | fail | pass => cases own

theorem Step.paste (taken : world.Step choice after) {strand : StrandId} {task : Task} {paste : Paste}
    (own : choice.strand? = some strand) (held : after.tasks strand = some task)
    (goesOn : ∀ operation, choice ≠ .start strand operation)
    (pastes : task.point.paste? = some paste) :
    ∃ before, world.tasks strand = some before ∧ before.point.paste? = some paste := by
  cases taken with
  | start free =>
    cases own
    exact absurd rfl (goesOn _)
  | request before =>
    cases own
    rw [move_tasks] at held
    cases held
    exact ⟨_, before, pastes⟩
  | resume before opened =>
    cases own
    rename_i stage
    have approached := Controller.approach_approached world.controller stage
    rw [put_tasks] at held
    obtain ⟨point, came, rfl⟩ := Option.map_eq_some_iff.mp held
    refine ⟨_, before, ?_⟩
    have same := approached.paste
    rw [came] at same
    exact same.symm.trans pastes
  | call before =>
    cases own
    rename_i operation errand
    have completed := Controller.complete_completed world.controller strand errand
    rw [put_tasks, Controller.approach_point?, completed.stage] at held
    obtain ⟨point, came, rfl⟩ := Option.map_eq_some_iff.mp held
    obtain ⟨stage, next, rfl⟩ := Option.map_eq_some_iff.mp came
    refine ⟨_, before, ?_⟩
    exact (Controller.Errand.next?_frame next).2.1.symm.trans pastes
  | external | fail | pass => cases own

end World

variable {start world : World} {past : List Moment}

theorem Run.started (run : Run start past world) (idle : start.Idle) {strand : StrandId} {task : Task}
    (held : world.tasks strand = some task) :
    ∃ moment ∈ past, moment.choice = .start strand task.operation := by
  induction run generalizing task with
  | rest =>
    rw [idle strand] at held
    cases held
  | step run taken ih =>
    rename_i past world after choice
    by_cases own : choice.strand? = some strand
    · by_cases begins : ∃ operation, choice = .start strand operation
      · obtain ⟨operation, rfl⟩ := begins
        refine ⟨_, List.mem_cons_self, ?_⟩
        cases taken with
        | start free =>
          rw [World.put_tasks] at held
          obtain ⟨point, -, rfl⟩ := Option.map_eq_some_iff.mp held
          rfl
      · obtain ⟨point, before⟩ := taken.operation own held fun operation same =>
          begins ⟨operation, same⟩
        obtain ⟨moment, member, same⟩ := ih before
        exact ⟨moment, List.mem_cons_of_mem _ member, same⟩
    · rw [taken.others own] at held
      obtain ⟨moment, member, same⟩ := ih held
      exact ⟨moment, List.mem_cons_of_mem _ member, same⟩

theorem chosen?_of_start (starter : StrandId) (operation : Operation) (strand : StrandId) :
    chosen? strand (⟨world, .start starter operation⟩ :: past) =
      if starter = strand then world.controller.chosen? operation else chosen? strand past := rfl

theorem chosen?_of_other {choice : Choice} {strand : StrandId}
    (goesOn : ∀ operation, choice ≠ .start strand operation) :
    chosen? strand (⟨world, choice⟩ :: past) = chosen? strand past := by
  cases choice with
  | start starter operation =>
    rw [chosen?_of_start, if_neg]
    intro same
    exact goesOn operation (by rw [same])
  | request | resume | call | external | fail | pass => rfl

/-- A paste under way is to paste what its start has chosen. -/
theorem Run.chosen (run : Run start past world) (idle : start.Idle) {strand : StrandId} {task : Task}
    {paste : Paste} (held : world.tasks strand = some task) (pastes : task.point.paste? = some paste) :
    chosen? strand past = some paste.content := by
  induction run generalizing task with
  | rest =>
    rw [idle strand] at held
    cases held
  | step run taken ih =>
    rename_i past world after choice
    by_cases begins : ∃ operation, choice = .start strand operation
    · obtain ⟨operation, rfl⟩ := begins
      rw [chosen?_of_start, if_pos rfl]
      cases taken with
      | start free =>
        have launched := Controller.launch_launched world.controller operation
        rw [World.put_tasks] at held
        obtain ⟨point, came, rfl⟩ := Option.map_eq_some_iff.mp held
        have chosen := launched.paste
        rw [came, Option.bind_some, pastes] at chosen
        exact chosen.symm
    · have goesOn : ∀ operation, choice ≠ .start strand operation := fun operation same =>
        begins ⟨operation, same⟩
      rw [chosen?_of_other goesOn]
      by_cases own : choice.strand? = some strand
      · obtain ⟨before, was, pasted⟩ := taken.paste own held goesOn pastes
        exact ih was pasted
      · rw [taken.others own] at held
        exact ih held pastes

end PasteQueue
