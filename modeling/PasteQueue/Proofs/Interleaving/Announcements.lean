import PasteQueue.Proofs.Controller.Announcing
import PasteQueue.Proofs.Interleaving.Custody

/-!
Whoever listens to the announcements knows the status, at every moment of every run: a step that changes
it announces it, and the only other announcements are those of cleared queues.
-/

namespace PasteQueue

open Controller (Operation Stage)

def Choice.clears : Choice → Bool
  | .start _ operation => operation.clears
  | .request _ | .resume _ | .call _ | .external _ | .fail .. | .pass _ => false

namespace World

variable {world after : World} {choice : Choice}

/-- Whoever is about to turn queue mode on finds it off. -/
def Poised (world : World) : Prop :=
  ∀ strand, world.point? strand = some (.calling .keeping) → world.controller.state.enabled = false

theorem Fresh.poised (fresh : world.Fresh) : world.Poised := by
  intro strand stands
  rw [point?, fresh.idle strand] at stands
  cases stands

theorem Gated.within (gated : world.Gated) {strand : StrandId}
    (stands : world.point? strand = some (.calling .keeping)) :
    world.controller.writeGate.holder = some strand :=
  gated.write.inside (seen_of_point Gate.Role.outside Point.writeRole stands)

theorem Poised.of_others (poised : world.Poised) (mover : StrandId)
    (same : ∀ strand, strand ≠ mover → after.point? strand = world.point? strand)
    (own : after.point? mover = some (.calling .keeping) → after.controller.state.enabled = false)
    (kept : after.controller.state.enabled = world.controller.state.enabled ∨
      ∀ strand, strand ≠ mover → world.point? strand ≠ some (.calling .keeping)) :
    after.Poised := by
  intro strand stands
  by_cases moves : strand = mover
  · subst moves
    exact own stands
  · rw [same strand moves] at stands
    rcases kept with kept | nobody
    · exact kept.trans (poised strand stands)
    · exact absurd stands (nobody strand moves)

theorem put_point?_of_ne {strand mover : StrandId} (other : strand ≠ mover) (operation : Operation)
    (approach : Controller.Approach) :
    (world.put mover operation approach).point? strand = world.point? strand :=
  congrArg (Option.map Task.point) (Function.update_of_ne other _ _)

theorem Poised.start {strand : StrandId} (poised : world.Poised) (operation : Operation) :
    (world.put strand operation (world.controller.launch operation)).Poised := by
  refine poised.of_others strand (fun other apart => put_point?_of_ne apart ..) ?_
    (.inl (world.controller.launch_enabled operation))
  intro stands
  rw [put_point?] at stands
  have outside := ((Controller.launch_launched world.controller operation).outside _ stands).1
  cases outside

theorem Poised.request {strand : StrandId} {operation : Operation} {stage : Stage}
    (poised : world.Poised) :
    (world.move (world.controller.enter strand stage).2 strand
      (some ⟨operation, .waiting stage⟩)).Poised := by
  refine poised.of_others strand (fun other apart => ?_) ?_
    (.inl (Controller.enabled_aside.enter world.controller strand stage))
  · exact congrArg (Option.map Task.point) (Function.update_of_ne apart _ _)
  · intro stands
    rw [point?, move_tasks] at stands
    cases stands

theorem Poised.resume {strand : StrandId} {operation : Operation} {stage : Stage}
    (poised : world.Poised) (gated : world.Gated)
    (opened : world.controller.opens strand stage = true) :
    (world.put strand operation (world.controller.approach stage)).Poised := by
  refine poised.of_others strand (fun other apart => put_point?_of_ne apart ..) ?_ ?_
  · intro stands
    rw [put_point?] at stands
    cases stage with
    | toggling =>
      change (world.controller.approach .toggling).2.state.enabled = false
      dsimp only [Controller.approach, Controller.switch] at stands ⊢
      split at stands
      · dsimp only [Controller.turnOff] at stands
        split at stands <;> cases stands
      · rename_i off
        rw [if_neg off]
        exact Bool.eq_false_iff.mpr off
    | checking =>
      dsimp only [Controller.approach, Controller.check] at stands
      split at stands <;> cases stands
    | copying | saving | placing | settling | lingering | returning => cases stands
  · by_cases switches : stage = .toggling
    · right
      intro other apart stands
      have asks : stage.asksWriteGate = true := by rw [switches]; rfl
      have holds := Controller.opens_write _ _ _ asks opened
      exact apart (Option.some.inj ((gated.within stands).symm.trans holds))
    · exact .inl (world.controller.approach_enabled switches)

theorem Poised.call {strand : StrandId} {operation : Operation} {errand : Controller.Errand}
    (poised : world.Poised) (gated : world.Gated)
    (task : world.tasks strand = some ⟨operation, .calling errand⟩) :
    (world.put strand operation (world.controller.complete strand errand).approach).Poised := by
  refine poised.of_others strand (fun other apart => put_point?_of_ne apart ..) ?_ ?_
  · intro stands
    rw [put_point?, Controller.approach_point?] at stands
    obtain ⟨stage, -, same⟩ := Option.map_eq_some_iff.mp stands
    cases same
  · by_cases turnsOn : errand = .keeping
    · right
      intro other apart stands
      subst turnsOn
      have holds := gated.within (point?_of_task task)
      exact apart (Option.some.inj ((gated.within stands).symm.trans holds))
    · exact .inl (world.controller.complete_enabled strand turnsOn)

theorem Poised.step (poised : world.Poised) (gated : world.Gated) (taken : world.Step choice after) :
    after.Poised := by
  cases taken with
  | start free => exact poised.start _
  | request task => exact poised.request
  | resume task opened => exact poised.resume gated opened
  | call task => exact poised.call gated task
  | external content =>
    intro strand stands
    exact (Controller.enabled_aside.copy world.controller content).trans (poised strand stands)
  | fail | pass => exact poised

/-- A step announces the status that it leads to if it changes the status, or clears the queue. -/
theorem Poised.told (poised : world.Poised) (taken : world.Step choice after) :
    Controller.Told choice.clears world.controller after.controller := by
  cases taken with
  | start free => exact world.controller.launch_told _
  | request task => exact .of_silent (Controller.report_aside.enter ..)
  | resume task opened => exact world.controller.approach_told _
  | @call strand operation errand task =>
    refine world.controller.complete_told strand fun turnsOn => ?_
    subst turnsOn
    exact poised strand (point?_of_task task)
  | external content => exact .of_silent (Controller.report_aside.copy ..)
  | fail | pass => exact .of_silent rfl

end World

/-! ### Along a run -/

section Run

variable {start world : World} {past : List Moment}

theorem Run.poised (run : Run start past world) (fresh : start.Fresh) : world.Poised := by
  induction run with
  | rest => exact fresh.poised
  | step run taken ih => exact ih.step (run.gated fresh.gated) taken

theorem Run.current (run : Run start past world) (fresh : start.Fresh)
    (unheard : start.controller.announcements = []) :
    world.controller.announcements.head? = some world.controller.status ∨
      world.controller.announcements = [] ∧ world.controller.status = start.controller.status := by
  induction run with
  | rest => exact .inr ⟨unheard, rfl⟩
  | @step past world after choice run taken ih =>
    have told := (run.poised fresh).told taken
    by_cases due : choice.clears = true ∨ after.controller.status ≠ world.controller.status
    · rw [Controller.Told, if_pos due] at told
      exact .inl (congrArg List.head? told)
    · have same : after.controller.status = world.controller.status := by
        by_contra changed
        exact due (.inr changed)
      rw [Controller.Told, if_neg due] at told
      rw [told, same]
      exact ih

/-- As long as the status stays as it is, only cleared queues are announced besides the change. -/
theorem Run.announced_since {newer older : List Moment} {before : World} {choice : Choice}
    (run : Run start past world) (fresh : start.Fresh)
    (split : past = newer ++ ⟨before, choice⟩ :: older)
    (changed : world.controller.status ≠ before.controller.status)
    (since : ∀ moment ∈ newer, moment.world.controller.status = world.controller.status) :
    world.controller.announcements =
      List.replicate ((newer.countP fun moment => moment.choice.clears) + 1) world.controller.status ++
        before.controller.announcements := by
  induction newer generalizing past world with
  | nil =>
    subst split
    cases run with
    | step earlier taken =>
      have told := (earlier.poised fresh).told taken
      rwa [Controller.Told, if_pos (.inr changed)] at told
  | cons moment newer ih =>
    subst split
    cases run with
    | @step _ between _ choice earlier taken =>
      have told := (earlier.poised fresh).told taken
      have same : between.controller.status = world.controller.status := since _ (.head _)
      have before := ih earlier rfl (same ▸ changed)
        fun other member => (since other (.tail _ member)).trans same.symm
      rw [Controller.Told, before, same] at told
      rw [told]
      cases clears : choice.clears with
      | true => simp [clears, List.replicate_succ]
      | false => simp [clears]

end Run

/-- Whoever has listened from the start knows the status. -/
structure Announced (start : World) (past : List Moment) (world : World) : Prop where
  current : world.controller.announcements.head? = some world.controller.status ∨
    world.controller.announcements = [] ∧ world.controller.status = start.controller.status
  each : ∀ choice after, world.Step choice after →
    after.controller.announcements =
      (if choice.clears = true ∨ after.controller.status ≠ world.controller.status
        then [after.controller.status] else []) ++ world.controller.announcements
  since : ∀ newer before choice older, past = newer ++ ⟨before, choice⟩ :: older →
    world.controller.status ≠ before.controller.status →
    (∀ moment ∈ newer, moment.world.controller.status = world.controller.status) →
      world.controller.announcements =
        List.replicate ((newer.countP fun moment => moment.choice.clears) + 1)
          world.controller.status ++ before.controller.announcements

theorem status_announced {start world : World} {past : List Moment} (fresh : start.Fresh)
    (unheard : start.controller.announcements = []) (run : Run start past world) :
    Announced start past world where
  current := run.current fresh unheard
  each _ _ taken := (run.poised fresh).told taken
  since _ _ _ _ := run.announced_since fresh

/-- Queue mode is turned on, and the empty queue is cleared. -/
def clearing : List Choice := switching ++ [.start 1 .clear]

theorem clearing_announced :
    let cleared := (World.fresh {} (.text "U")).played clearing rfl
    cleared.2.controller.announcements = [⟨true, 0, .lifo⟩, ⟨true, 0, .lifo⟩] ∧
      Announced (World.fresh {} (.text "U")) cleared.1 cleared.2 :=
  ⟨rfl, status_announced (World.fresh_fresh {} _) rfl (World.played_run _ clearing rfl)⟩

/-- A queue that is cleared is announced once more, though nothing has changed. -/
theorem announced_twice :
    ¬ ∀ (start world before : World) (past newer older : List Moment) (choice : Choice),
      start.Fresh → start.controller.announcements = [] → Run start past world →
      past = newer ++ ⟨before, choice⟩ :: older →
      world.controller.status ≠ before.controller.status →
      (∀ moment ∈ newer, moment.world.controller.status = world.controller.status) →
        world.controller.announcements =
          world.controller.status :: before.controller.announcements := by
  intro once
  let start := World.fresh {} (.text "U")
  have run := World.played_run start clearing rfl
  have told := once start _ _ _ (_ :: []) _ _ (World.fresh_fresh {} _) rfl run rfl (by decide)
    (by
      intro moment member
      cases List.mem_singleton.mp member
      rfl)
  cases told

end PasteQueue
