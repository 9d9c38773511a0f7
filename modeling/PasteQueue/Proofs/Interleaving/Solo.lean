import PasteQueue.Proofs.Controller.Books
import PasteQueue.Proofs.Interleaving.Calling
import PasteQueue.Proofs.Interleaving.Progress

/-!
An operation with no other beside it. It goes on to its end by itself, and returns once; meanwhile
somebody else may copy something, calls may be made to fail, and time passes.
-/

namespace PasteQueue

open Controller (Advance Approach Errand Notice Operation Result Stage)

/-- What a strand returns with an operation that has come so far. -/
def Controller.Advance.returned (strand : StrandId) (operation : Operation) (advance : Advance) :
    List (StrandId × Operation × Result) :=
  (advance.result?.map fun result => (strand, operation, result)).toList

/-- What operations have returned, the latest first. -/
def returns (past : List Moment) : List (StrandId × Operation × Result) :=
  past.filterMap fun moment => moment.world.returned? moment.choice

/-- An operation from its start on, as far as it has come, with no other in between. -/
inductive Solo (strand : StrandId) (operation : Operation) (before : World) : List Moment → World → Prop
  | start (free : before.tasks strand = none) :
      Solo strand operation before [⟨before, .start strand operation⟩]
        (before.put strand operation (before.controller.launch operation))
  | step {past : List Moment} {world after : World} {choice : Choice}
      (solo : Solo strand operation before past world) (taken : world.Step choice after)
      (alone : choice.onward? = some strand ∨ choice.strand? = none) :
      Solo strand operation before (⟨world, choice⟩ :: past) after

namespace World

variable {world after : World} {choice : Choice} {strand : StrandId} {operation : Operation}
  {point : Point}

theorem put_returns (world : World) (strand : StrandId) (operation : Operation) (approach : Approach) :
    (approach.1.result? = none ∧
        ∃ point, (world.put strand operation approach).tasks strand = some ⟨operation, point⟩) ∨
      ∃ result, approach.1.result? = some result ∧
        (world.put strand operation approach).tasks strand = none := by
  rw [put_tasks]
  obtain ⟨advance, controller⟩ := approach
  cases advance with
  | calling errand => exact .inl ⟨rfl, _, rfl⟩
  | made progress =>
    cases progress with
    | finished result => exact .inr ⟨result, rfl, rfl⟩
    | reached stage => exact .inl ⟨rfl, _, rfl⟩

theorem returned?_aside (aside : choice.strand? = none) : world.returned? choice = none := by
  cases choice with
  | start | request | resume | call => cases aside
  | external | fail | pass => rfl

theorem returned?_start (world : World) (strand : StrandId) (operation : Operation) :
    world.returned? (.start strand operation) =
      (world.controller.launch operation).1.result?.map fun result => (strand, operation, result) := rfl

theorem returned?_resume {stage : Stage} (task : world.tasks strand = some ⟨operation, .waiting stage⟩) :
    world.returned? (.resume strand) =
      (world.controller.approach stage).1.result?.map fun result => (strand, operation, result) := by
  simp [returned?, task]

theorem returned?_call {errand : Errand}
    (task : world.tasks strand = some ⟨operation, .calling errand⟩) :
    world.returned? (.call strand) =
      (world.controller.complete strand errand).approach.1.result?.map
        fun result => (strand, operation, result) := by
  simp [returned?, task]

theorem Step.returned?_onward (taken : world.Step choice after)
    (onward : choice.onward? = some strand)
    (task : world.tasks strand = some ⟨operation, point⟩) :
    (world.returned? choice = none ∧ ∃ point, after.tasks strand = some ⟨operation, point⟩) ∨
      ∃ result, world.returned? choice = some (strand, operation, result) ∧
        after.tasks strand = none := by
  cases taken with
  | request same =>
    cases onward
    cases task.symm.trans same
    exact .inl ⟨rfl, _, move_tasks ..⟩
  | @resume _ _ stage same opened =>
    cases onward
    cases task.symm.trans same
    rw [returned?_resume task]
    rcases world.put_returns strand operation (world.controller.approach stage) with
      ⟨silent, goesOn⟩ | ⟨result, returned, ended⟩
    · exact .inl ⟨by rw [silent]; rfl, goesOn⟩
    · exact .inr ⟨result, by rw [returned]; rfl, ended⟩
  | @call _ _ errand same =>
    cases onward
    cases task.symm.trans same
    rw [returned?_call task]
    rcases world.put_returns strand operation (world.controller.complete strand errand).approach with
      ⟨silent, goesOn⟩ | ⟨result, returned, ended⟩
    · exact .inl ⟨by rw [silent]; rfl, goesOn⟩
    · exact .inr ⟨result, by rw [returned]; rfl, ended⟩
  | start | external | fail | pass => cases onward

theorem Step.account_aside (taken : world.Step choice after) (aside : choice.strand? = none) :
    after.controller.account = world.controller.account :=
  taken.view_aside Controller.account_aside (fun _ _ => rfl) aside

end World

theorem returns_cons (moment : Moment) (past : List Moment) :
    returns (moment :: past) = (moment.world.returned? moment.choice).toList ++ returns past :=
  filterMap_cons_toList _ _ _

namespace Solo

variable {strand : StrandId} {operation : Operation} {before world after : World}
  {past later : List Moment}

theorem run (solo : Solo strand operation before past world) : Run before past world := by
  induction solo with
  | start free => exact Run.rest.step (.start free)
  | step solo taken alone ih => exact ih.step taken

theorem append (solo : Solo strand operation before past world) (run : Run world later after)
    (alone : ∀ moment ∈ later, moment.choice.onward? = some strand ∨ moment.choice.strand? = none) :
    Solo strand operation before (later ++ past) after := by
  induction run with
  | rest => exact solo
  | step run taken ih =>
    exact (ih fun moment member => alone moment (.tail _ member)).step taken (alone _ (.head _))

theorem others (solo : Solo strand operation before past world) {other : StrandId}
    (apart : other ≠ strand) : world.tasks other = before.tasks other := by
  induction solo with
  | start free => exact Function.update_of_ne apart _ _
  | step solo taken alone ih =>
    refine (taken.others ?_).trans ih
    rcases alone with onward | aside
    · rw [Choice.strand?_of_onward onward]
      exact fun same => apart (Option.some.inj same).symm
    · exact Choice.strand?_ne aside other

theorem returned (solo : Solo strand operation before past world) :
    ((∃ point, world.tasks strand = some ⟨operation, point⟩) ∧ returns past = []) ∨
      world.tasks strand = none ∧ ∃ result, returns past = [(strand, operation, result)] := by
  induction solo with
  | start free =>
    rw [returns_cons, World.returned?_start]
    rcases before.put_returns strand operation (before.controller.launch operation) with
      ⟨silent, goesOn⟩ | ⟨result, returned, ended⟩
    · exact .inl ⟨goesOn, by rw [silent]; rfl⟩
    · exact .inr ⟨ended, result, by rw [returned]; rfl⟩
  | step solo taken alone ih =>
    rw [returns_cons]
    rcases alone with onward | aside
    · rcases ih with ⟨⟨point, task⟩, nothing⟩ | ⟨free, -⟩
      · rw [nothing]
        rcases taken.returned?_onward onward task with ⟨silent, goesOn⟩ | ⟨result, returned, ended⟩
        · exact .inl ⟨goesOn, by rw [silent]; rfl⟩
        · exact .inr ⟨ended, result, by rw [returned]; rfl⟩
      · exact absurd free (taken.task_onward onward)
    · rw [World.returned?_aside aside, taken.others (Choice.strand?_ne aside strand)]
      exact ih

/-- Of an operation alone it is enough to know its own steps: what goes on aside of them changes
neither where it stands, nor its calls, nor what it has returned, nor the account. -/
theorem invariant {motive : Option Point → List Notice → List (StrandId × Operation × Result) →
      Queue.State × List Queue.Status → Prop}
    (start : motive (before.controller.launch operation).1.point? []
      ((before.controller.launch operation).1.returned strand operation)
      (before.controller.launch operation).2.account)
    (request : ∀ stage calls account, motive (some (.arriving stage)) calls [] account →
      motive (some (.waiting stage)) calls [] account)
    (resume : ∀ (controller : Controller) stage calls,
      motive (some (.waiting stage)) calls [] controller.account →
        motive (controller.approach stage).1.point? calls
          ((controller.approach stage).1.returned strand operation)
          (controller.approach stage).2.account)
    (call : ∀ (controller : Controller) errand calls,
      motive (some (.calling errand)) calls [] controller.account →
        motive ((errand.next? controller.desktop).map .arriving)
          (controller.desktop.answer strand errand :: calls)
          ((controller.complete strand errand).approach.1.returned strand operation)
          (controller.complete strand errand).2.account)
    (solo : Solo strand operation before past world) :
    motive (world.point? strand) (calls past) (returns past) world.controller.account := by
  induction solo with
  | start free =>
    rw [World.put_point?, returns_cons, World.returned?_start]
    exact (List.append_nil _).symm ▸ start
  | @step past world after choice solo taken alone ih =>
    rw [calls_cons, returns_cons]
    rcases alone with onward | aside
    · rcases solo.returned with ⟨⟨point, task⟩, nothing⟩ | ⟨ended, -⟩
      · -- As long as it goes on it has returned nothing.
        rw [nothing] at ih ⊢
        rw [List.append_nil]
        rw [World.point?_of_task task] at ih
        cases taken with
        | request same =>
          cases onward
          cases task.symm.trans same
          rw [World.point?_of_task (World.move_tasks ..)]
          exact (Controller.account_aside.enter ..).symm ▸ request _ _ _ ih
        | resume same opened =>
          cases onward
          cases task.symm.trans same
          rw [World.returned?_resume task, World.put_point?]
          exact resume _ _ _ ih
        | call same =>
          cases onward
          cases task.symm.trans same
          rw [World.returned?_call task, World.called?_call task,
            World.Step.point?_call task (.call task)]
          exact call _ _ _ ih
        | start | external | fail | pass => cases onward
      · exact absurd ended (taken.task_onward onward)
    · rw [World.called?_aside aside, World.returned?_aside aside, taken.account_aside aside,
        World.point?, taken.others (Choice.strand?_ne aside strand)]
      exact ih

/-- Whatever is neither a switch nor an update leaves the account as its start has left it. -/
theorem account (solo : Solo strand operation before past world)
    (unswitching : operation.family ≠ .switching) (unupdating : operation.family ≠ .updating) :
    world.controller.account = (before.controller.launch operation).2.account := by
  refine (solo.invariant (motive := fun point? _ _ account =>
    (∀ point, point? = some point → point.family = operation.family) ∧
      account = (before.controller.launch operation).2.account) ?_ ?_ ?_ ?_).2
  · exact ⟨(Controller.launch_launched _ _).family, rfl⟩
  · rintro stage calls account ⟨family, same⟩
    refine ⟨fun point stands => ?_, same⟩
    cases stands
    exact family (.arriving stage) rfl
  · rintro controller stage calls ⟨family, same⟩
    have own : stage.family = operation.family := family _ rfl
    refine ⟨fun point stands => ((Controller.approach_approached _ _).family _ stands).trans own, ?_⟩
    refine (Controller.account_aside.approach _ ?_).trans same
    rintro rfl
    exact unswitching own.symm
  · rintro controller errand calls ⟨family, same⟩
    have own : errand.family = operation.family := family _ rfl
    refine ⟨?_, (Controller.account_aside.complete _ _ ?_ ?_).trans same⟩
    · intro point stands
      obtain ⟨stage, next, rfl⟩ := Option.map_eq_some_iff.mp stands
      exact (Controller.Errand.next?_frame next).1.trans own
    · rintro rfl
      exact unswitching own.symm
    · rintro rfl
      exact unupdating own.symm

theorem of_finished (solo : Solo strand operation before past world) {result : Result}
    (finished : (before.controller.launch operation).1 = .made (.finished result)) :
    world.point? strand = none ∧ calls past = [] ∧ returns past = [(strand, operation, result)] := by
  refine solo.invariant (motive := fun point? calls returned _ =>
    point? = none ∧ calls = [] ∧ returned = [(strand, operation, result)]) ?_ ?_ ?_ ?_
  · rw [finished]
    exact ⟨rfl, rfl, rfl⟩
  · rintro stage calls account ⟨stands, -⟩
    cases stands
  · rintro controller stage calls ⟨stands, -⟩
    cases stands
  · rintro controller errand calls ⟨stands, -⟩
    cases stands

end Solo

namespace World

variable {world after : World} {strand : StrandId} {past : List Moment}

theorem InHands.alone (inHands : world.InHands {strand}) (run : Run world past after)
    (onward : ∀ moment ∈ past, moment.onward = true) :
    after.InHands {strand} ∧ ∀ moment ∈ past, moment.choice.onward? = some strand := by
  induction run with
  | rest => exact ⟨inHands, fun _ member => (List.not_mem_nil member).elim⟩
  | @step past between after choice run taken ih =>
    obtain ⟨held, own⟩ := ih fun moment member => onward moment (.tail _ member)
    obtain ⟨mover, moves⟩ := Option.isSome_iff_exists.mp (onward _ (.head _))
    have same : mover = strand := Finset.mem_singleton.mp (held _ (taken.task_onward moves))
    subst same
    refine ⟨held.onward taken moves, fun moment member => ?_⟩
    rcases List.mem_cons.mp member with rfl | member
    · exact moves
    · exact own moment member

/-- Where nothing else is in hand, an operation that is started comes to its end by itself. -/
theorem Gated.returns (gated : world.Gated) (idle : world.Idle) (strand : StrandId)
    (operation : Operation) :
    ∃ later after, Solo strand operation world later after ∧
      (∀ moment ∈ later, moment.choice.strand? = some strand) ∧ after.tasks strand = none := by
  have begun : Solo strand operation world _ _ := .start (idle strand)
  have inHands : (world.put strand operation (world.controller.launch operation)).InHands {strand} := by
    intro other something
    by_contra apart
    rw [begun.others fun same => apart (Finset.mem_singleton.mpr same), idle other] at something
    exact something rfl
  obtain ⟨later, after, run, onward, rests⟩ := (gated.start (idle strand)).finishes inHands
  have own := (inHands.alone run onward).2
  refine ⟨later ++ _, after, begun.append run fun moment member => .inl (own moment member), ?_,
    rests strand⟩
  intro moment member
  rcases List.mem_append.mp member with member | member
  · exact Choice.strand?_of_onward (own moment member)
  · rw [List.mem_singleton.mp member]
    rfl

end World

theorem Solo.play {strand : StrandId} {operation : Operation} {before world after : World}
    {past now : List Moment} {choices : List Choice} (solo : Solo strand operation before past world)
    (alone : ∀ choice ∈ choices, choice.onward? = some strand ∨ choice.strand? = none)
    (played : world.play past choices = some (now, after)) :
    Solo strand operation before now after := by
  induction choices generalizing world past with
  | nil =>
    cases played
    exact solo
  | cons choice rest ih =>
    dsimp only [World.play] at played
    split at played
    · rename_i next
      exact ih (solo.step (World.step_iff.mpr next) (alone _ (.head _)))
        (fun choice member => alone choice (.tail _ member)) played
    · cases played

theorem Solo.played {strand : StrandId} {operation : Operation} {before : World} {choices : List Choice}
    (free : before.tasks strand = none)
    (alone : ∀ choice ∈ choices, choice.onward? = some strand ∨ choice.strand? = none)
    (playable : (before.play [] (.start strand operation :: choices)).isSome = true) :
    Solo strand operation before (before.played _ playable).1 (before.played _ playable).2 := by
  have begun : before.play [] (.start strand operation :: choices) =
      (before.put strand operation (before.controller.launch operation)).play
        [⟨before, .start strand operation⟩] choices := by
    rw [World.play, World.step_iff.mp (.start free)]
  exact (Solo.start free).play alone (begun.symm.trans (Option.some_get playable).symm)

end PasteQueue
