import PasteQueue.Proofs.Interleaving.Past

/-!
What a strand does at a stretch, from the start of an operation or from a barrier that has let it
through, is a run of the world in which no other strand takes a step. So whatever holds after every
run of a world holds whenever a strand of a session comes to a halt.
-/

namespace PasteQueue

open Controller (Approach Errand Halt Operation Progress Stage proceed)

/-! ### Worlds -/

namespace World

variable {world : World} {strand : StrandId}

theorem move_move (world : World) (before after : Controller) (strand : StrandId)
    (first second : Option Task) :
    (world.move before strand first).move after strand second = world.move after strand second := by
  simp [move]

theorem move_same {task : Option Task} (stands : world.tasks strand = task) :
    world.move world.controller strand task = world := by
  unfold move
  rw [← stands, Function.update_eq_self]

/-- Only the strand takes steps on the way from one world to another. -/
def Alone (strand : StrandId) (start after : World) : Prop :=
  ∃ past, Run start past after ∧ ∀ moment ∈ past, moment.choice.strand? = some strand

theorem Alone.refl (world : World) : Alone strand world world :=
  ⟨[], .rest, fun _ member => by cases member⟩

theorem Alone.step {start after : World} {choice : Choice} (alone : Alone strand start world)
    (taken : world.Step choice after) (own : choice.strand? = some strand) :
    Alone strand start after := by
  obtain ⟨past, run, all⟩ := alone
  refine ⟨_, run.step taken, ?_⟩
  intro moment member
  rcases List.mem_cons.mp member with rfl | member
  · exact own
  · exact all moment member

end World

theorem Run.append {start world after : World} {past later : List Moment}
    (first : Run start past world) (second : Run world later after) :
    Run start (later ++ past) after := by
  induction second with
  | rest => exact first
  | step _ taken ih => exact ih.step taken

theorem World.Alone.trans {strand : StrandId} {start world after : World}
    (first : Alone strand start world) (second : Alone strand world after) :
    Alone strand start after := by
  obtain ⟨past, run, all⟩ := first
  obtain ⟨later, next, own⟩ := second
  refine ⟨later ++ past, run.append next, ?_⟩
  intro moment member
  rcases List.mem_append.mp member with member | member
  · exact own moment member
  · exact all moment member

/-! ### What a strand does -/

namespace Controller

/-- The task of a strand that has come to a stage, and has not tried its barrier. -/
def Progress.task? (operation : Operation) (progress : Progress) : Option Task :=
  progress.stage?.map fun stage => ⟨operation, .arriving stage⟩

def Halt.task? (operation : Operation) : Halt → Option Task
  | .finished _ => none
  | .waiting stage => some ⟨operation, .waiting stage⟩
  | .paused stage => some ⟨operation, .arriving stage⟩

theorem enter_opens {controller after : Controller} {strand : StrandId} {stage : Stage}
    (entered : controller.enter strand stage = (true, after)) :
    after.opens strand stage = true := by
  have passes : ∀ {gate next : Gate}, gate.request strand = (true, next) →
      next.isHeldBy strand = true := by
    intro gate next asked
    cases held : gate.holder with
    | none =>
      rw [Gate.request_of_free held] at asked
      cases asked
      exact Gate.isHeldBy_iff.mpr rfl
    | some holder =>
      rw [Gate.request_of_held held] at asked
      cases asked
  cases stage with
  | saving =>
    cases asked : controller.pasteGate.request strand with
    | mk through gate =>
      simp only [enter, Stage.barrier, asked] at entered
      cases entered
      exact passes asked
  | toggling | checking | copying | placing | returning =>
    cases asked : controller.writeGate.request strand with
    | mk through gate =>
      simp only [enter, Stage.barrier, asked] at entered
      cases entered
      exact passes asked
  | settling | lingering => rfl

end Controller

namespace World

variable {world : World} {strand : StrandId} {operation : Operation}

theorem put_step (world : World) (strand : StrandId) (operation : Operation)
    (step : Controller.Step) :
    world.put strand operation step.approach = world.move step.2 strand (step.1.task? operation) := by
  obtain ⟨progress, controller⟩ := step
  cases progress <;> rfl

theorem through_alone (world : World) (strand : StrandId) (operation : Operation)
    (approach : Approach) :
    Alone strand (world.put strand operation approach)
      (world.move (approach.through strand).2 strand
        ((approach.through strand).1.task? operation)) := by
  obtain ⟨advance, controller⟩ := approach
  cases advance with
  | made progress => cases progress <;> exact .refl _
  | calling errand =>
    have task : (world.put strand operation (.calling errand, controller)).tasks strand =
        some ⟨operation, .calling errand⟩ := put_tasks ..
    have called : Alone strand _ _ := (Alone.refl _).step (.call task) rfl
    rw [put_step] at called
    exact move_move world controller _ strand _ _ ▸ called

theorem begin_alone (free : world.tasks strand = none) :
    Alone strand world (world.move (world.controller.begin strand operation).2 strand
      ((world.controller.begin strand operation).1.task? operation)) :=
  ((Alone.refl world).step (.start free) rfl).trans (through_alone world strand operation _)

theorem resume_alone {stage : Stage} (task : world.tasks strand = some ⟨operation, .waiting stage⟩)
    (opened : world.controller.opens strand stage = true) :
    Alone strand world (world.move (world.controller.resume strand stage).2 strand
      ((world.controller.resume strand stage).1.task? operation)) :=
  ((Alone.refl world).step (.resume task opened) rfl).trans (through_alone world strand operation _)

/-- A strand that goes on from a step, past no more barriers than allowed. -/
theorem proceed_alone (left : Nat) {progress : Progress}
    (stands : world.tasks strand = progress.task? operation) :
    Alone strand world (world.move (proceed strand left (progress, world.controller)).controller
      strand ((proceed strand left (progress, world.controller)).halt.task? operation)) := by
  induction left generalizing world progress with
  | zero =>
    cases progress with
    | finished result =>
      rw [proceed]
      exact (move_same stands).symm ▸ .refl world
    | reached stage =>
      rw [proceed]
      exact (move_same stands).symm ▸ .refl world
  | succ left ih =>
    cases progress with
    | finished result =>
      rw [proceed]
      exact (move_same stands).symm ▸ .refl world
    | reached stage =>
      have asked : Alone strand world _ := (Alone.refl world).step (.request stands) rfl
      rw [proceed]
      cases entered : world.controller.enter strand stage with
      | mk through after =>
        rw [entered] at asked
        cases through with
        | false => exact asked
        | true =>
          have task : (world.move after strand (some ⟨operation, .waiting stage⟩)).tasks strand =
              some ⟨operation, .waiting stage⟩ := move_tasks ..
          have resumed := resume_alone task (Controller.enter_opens entered)
          rw [move_move] at resumed
          have reached : (world.move (after.resume strand stage).2 strand
              ((after.resume strand stage).1.task? operation)).tasks strand =
                (after.resume strand stage).1.task? operation := move_tasks ..
          have next := ih reached
          rw [move_move] at next
          exact (asked.trans resumed).trans next

theorem Alone.proceed {step : Controller.Step} (left : Nat)
    (alone : Alone strand world (world.move step.2 strand (step.1.task? operation))) :
    Alone strand world (world.move (Controller.proceed strand left step).controller strand
      ((Controller.proceed strand left step).halt.task? operation)) := by
  have stands : (world.move step.2 strand (step.1.task? operation)).tasks strand =
      step.1.task? operation := move_tasks ..
  have next := proceed_alone left stands
  rw [move_move] at next
  exact alone.trans next

/-- An operation that is begun, as far as it comes at a stretch. -/
theorem begin_proceed_alone (free : world.tasks strand = none) (left : Nat) :
    Alone strand world (world.move
      (proceed strand left (world.controller.begin strand operation)).controller strand
      ((proceed strand left (world.controller.begin strand operation)).halt.task? operation)) :=
  (begin_alone free).proceed left

/-- An operation that goes on behind a barrier, as far as it comes at a stretch. -/
theorem resume_proceed_alone {stage : Stage}
    (task : world.tasks strand = some ⟨operation, .waiting stage⟩)
    (opened : world.controller.opens strand stage = true) (left : Nat) :
    Alone strand world (world.move
      (proceed strand left (world.controller.resume strand stage)).controller strand
      ((proceed strand left (world.controller.resume strand stage)).halt.task? operation)) :=
  (resume_alone task opened).proceed left

end World

end PasteQueue
