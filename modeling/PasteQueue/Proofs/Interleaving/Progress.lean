import Mathlib.Algebra.Order.BigOperators.Group.Finset
import PasteQueue.Proofs.Interleaving.Custody
import PasteQueue.Proofs.Interleaving.Proceeding

/-!
Operations get done. Whoever holds the write gate can go on, and whoever holds the paste gate can go on
or waits for the write gate alone; so somebody can go on as long as anything is in hand. Each step that
an operation takes leaves fewer ahead of it, and with the last one it has given back its gates.
-/

namespace PasteQueue

open Controller (Errand Operation Stage)
open Gate (Role)

/-- The strand that goes on with what it has in hand. -/
def Choice.onward? : Choice → Option StrandId
  | .request strand | .resume strand | .call strand => some strand
  | .start .. | .external _ | .fail .. | .pass _ => none

namespace Choice

variable {choice : Choice} {strand : StrandId}

theorem strand?_of_onward (onward : choice.onward? = some strand) : choice.strand? = some strand := by
  cases choice with
  | request | resume | call => exact onward
  | start | external | fail | pass => cases onward

theorem strand?_ne (aside : choice.strand? = none) (strand : StrandId) :
    choice.strand? ≠ some strand := by
  rw [aside]
  exact (Option.some_ne_none strand).symm

theorem starts_or_onward (own : choice.strand? = some strand) :
    (∃ operation, choice = .start strand operation) ∨ choice.onward? = some strand := by
  cases choice with
  | start =>
    cases own
    exact .inl ⟨_, rfl⟩
  | request | resume | call => exact .inr own
  | external | fail | pass => cases own

end Choice

theorem latest_of_onward {world : World} {choice : Choice} {past : List Moment} {strand : StrandId}
    (onward : choice.onward? = some strand) :
    latest strand (⟨world, choice⟩ :: past) = ⟨world, choice⟩ :: latest strand past := by
  cases choice with
  | request | resume | call => exact if_pos onward
  | start | external | fail | pass => cases onward

/-- A run over a desktop of which nothing is known. Between two steps it may have become any other, so
that calls may meet with anything, and changes may have any number. -/
inductive OpenRun (start : World) : List Moment → World → Prop
  | rest : OpenRun start [] start
  | step {past : List Moment} {world after : World} {choice : Choice}
      (run : OpenRun start past world) (taken : world.Step choice after) :
      OpenRun start (⟨world, choice⟩ :: past) after
  | turn {past : List Moment} {world : World} (run : OpenRun start past world) (desktop : Desktop) :
      OpenRun start past (world.withController { world.controller with desktop })

theorem Run.opened {start world : World} {past : List Moment} (run : Run start past world) :
    OpenRun start past world := by
  induction run with
  | rest => exact .rest
  | step _ taken ih => exact ih.step taken

/-! ### How much is ahead -/

namespace Controller

/-- How many steps are left from a stage at most: to ask, to pass, and to call where a call is due. -/
def Stage.ahead : Stage → Nat
  | .toggling | .checking | .copying _ | .returning .. => 3
  | .lingering .. => 5
  | .settling .. => 8
  | .placing .. => 11
  | .saving _ => 14

def Errand.ahead : Errand → Nat
  | .keeping | .bringingBack .. | .looking | .copying _ | .returning .. | .typing _ => 1
  | .pressing .. => 6
  | .placing .. => 9
  | .saving _ => 12

theorem Stage.ahead_bounds (stage : Stage) : 3 ≤ stage.ahead ∧ stage.ahead ≤ 14 := by
  cases stage <;> simp [Stage.ahead]

theorem Errand.ahead_bounds (errand : Errand) : 1 ≤ errand.ahead ∧ errand.ahead ≤ 14 := by
  cases errand <;> simp [Errand.ahead]

end Controller

def Point.ahead : Point → Nat
  | .arriving stage => stage.ahead
  | .waiting stage => stage.ahead - 1
  | .calling errand => errand.ahead

theorem Point.ahead_le (point : Point) : point.ahead ≤ 14 := by
  cases point with
  | arriving stage => exact stage.ahead_bounds.2
  | waiting stage => exact (Nat.sub_le ..).trans stage.ahead_bounds.2
  | calling errand => exact errand.ahead_bounds.2

namespace Controller

theorem approach_ahead (controller : Controller) (stage : Stage) :
    (controller.approach stage).1.point?.elim 0 Point.ahead < stage.ahead - 1 := by
  cases stage with
  | toggling =>
    dsimp only [approach, switch, turnOff]
    split
    · split
      · exact Nat.two_pos
      · exact Nat.one_lt_two
    · exact Nat.one_lt_two
  | checking =>
    dsimp only [approach, check]
    split
    · exact Nat.two_pos
    · exact Nat.one_lt_two
  | copying | saving | placing | settling | lingering | returning =>
    simp [approach, call, reach, Step.approach, Advance.point?, Point.ahead, Stage.ahead, Errand.ahead]

theorem Errand.next?_ahead {desktop : Desktop} {errand : Errand} {stage : Stage}
    (next : errand.next? desktop = some stage) : stage.ahead < errand.ahead := by
  cases errand with
  | saving | placing | pressing =>
    dsimp only [Errand.next?] at next
    split at next <;> cases next <;> simp [Stage.ahead, Errand.ahead]
  | keeping | bringingBack | looking | copying | returning | typing => cases next

end Controller

namespace World

variable {world after : World} {choice : Choice} {strand : StrandId}

def ahead (world : World) : StrandId → Nat := world.seen 0 Point.ahead

theorem ahead_le (world : World) (strand : StrandId) : world.ahead strand ≤ 14 := by
  unfold ahead seen
  cases world.point? strand with
  | none => exact Nat.zero_le 14
  | some point => exact point.ahead_le

theorem Step.ahead_onward (taken : world.Step choice after) (onward : choice.onward? = some strand) :
    after.ahead strand < world.ahead strand := by
  cases taken with
  | request task =>
    cases onward
    rename_i operation stage
    have before : world.ahead strand = stage.ahead := seen_of_task 0 Point.ahead task
    have now : (world.move (world.controller.enter strand stage).2 strand
        (some ⟨operation, .waiting stage⟩)).ahead strand = stage.ahead - 1 :=
      seen_of_task 0 Point.ahead (move_tasks ..)
    have bounds := stage.ahead_bounds
    omega
  | resume task opened =>
    cases onward
    rename_i operation stage
    have before : world.ahead strand = stage.ahead - 1 := seen_of_task 0 Point.ahead task
    rw [before, ahead, seen, put_point?]
    exact world.controller.approach_ahead stage
  | call task =>
    cases onward
    rename_i operation errand
    have before : world.ahead strand = errand.ahead := seen_of_task 0 Point.ahead task
    rw [before, ahead, Step.seen_call 0 Point.ahead task (.call task)]
    cases next : errand.next? world.controller.desktop with
    | none => exact errand.ahead_bounds.1
    | some stage => exact Controller.Errand.next?_ahead next
  | start | external | fail | pass => cases onward

/-! ### Who can go on -/

/-- A step is open to what the strand has in hand. -/
def GoesOn (world : World) (strand : StrandId) : Prop :=
  ∃ choice after, choice.onward? = some strand ∧ world.Step choice after

theorem goesOn_of_arriving {operation : Operation} {stage : Stage}
    (task : world.tasks strand = some ⟨operation, .arriving stage⟩) : world.GoesOn strand :=
  ⟨.request strand, _, rfl, .request task⟩

theorem goesOn_of_calling {operation : Operation} {errand : Errand}
    (task : world.tasks strand = some ⟨operation, .calling errand⟩) : world.GoesOn strand :=
  ⟨.call strand, _, rfl, .call task⟩

theorem goesOn_of_opened {operation : Operation} {stage : Stage}
    (task : world.tasks strand = some ⟨operation, .waiting stage⟩)
    (opened : world.controller.opens strand stage = true) : world.GoesOn strand :=
  ⟨.resume strand, _, rfl, .resume task opened⟩

theorem task_of_role {view : Point → Role} (wants : world.role view strand ≠ .outside) :
    ∃ operation point, world.tasks strand = some ⟨operation, point⟩ ∧ view point ≠ .outside := by
  cases task : world.tasks strand with
  | none => exact absurd (role_of_free task) wants
  | some held => exact ⟨held.operation, held.point, rfl, role_of_task view task ▸ wants⟩

theorem Gated.writer_goesOn (gated : world.Gated)
    (holds : world.controller.writeGate.holder = some strand) : world.GoesOn strand := by
  obtain ⟨operation, point, task, wants⟩ := task_of_role (gated.write.holder holds).1
  cases point with
  | arriving stage => exact goesOn_of_arriving task
  | calling errand => exact goesOn_of_calling task
  | waiting stage =>
    -- Whoever waits for the gate and has it by now has been let in.
    have opened := Gate.isHeldBy_iff.mpr holds
    cases stage with
    | toggling | checking | copying | placing | returning => exact goesOn_of_opened task opened
    | saving | settling | lingering => exact absurd rfl wants

theorem Gated.write_goesOn (gated : world.Gated) {operation : Operation} {stage : Stage}
    (task : world.tasks strand = some ⟨operation, .waiting stage⟩) (asks : stage.asksWriteGate = true) :
    ∃ mover, world.GoesOn mover := by
  have role : world.role Point.writeRole strand = .asking := by
    rw [role_of_task _ task]
    simp [Point.writeRole, asks]
  obtain ⟨holder, holds⟩ := gated.write.held role
  exact ⟨holder, gated.writer_goesOn holds⟩

theorem Gated.paster_goesOn (gated : world.Gated)
    (holds : world.controller.pasteGate.holder = some strand) : ∃ mover, world.GoesOn mover := by
  obtain ⟨operation, point, task, wants⟩ := task_of_role (gated.paste.holder holds).1
  cases point with
  | arriving stage => exact ⟨strand, goesOn_of_arriving task⟩
  | calling errand => exact ⟨strand, goesOn_of_calling task⟩
  | waiting stage =>
    -- The write gate is all that a paste waits for with the paste gate in hand, and nobody behind the
    -- write gate waits for anything: so the two gates are never waited for crosswise.
    cases stage with
    | saving => exact ⟨strand, goesOn_of_opened task (Gate.isHeldBy_iff.mpr holds)⟩
    | settling | lingering => exact ⟨strand, goesOn_of_opened task rfl⟩
    | placing | returning => exact gated.write_goesOn task rfl
    | toggling | checking | copying => exact absurd rfl wants

/-- Whatever is in hand, somebody can go on. -/
theorem Gated.goesOn (gated : world.Gated) {task : Task} (held : world.tasks strand = some task) :
    ∃ mover, world.GoesOn mover := by
  obtain ⟨operation, point⟩ := task
  cases point with
  | arriving stage => exact ⟨strand, goesOn_of_arriving held⟩
  | calling errand => exact ⟨strand, goesOn_of_calling held⟩
  | waiting stage =>
    cases stage with
    | toggling | checking | copying | placing | returning => exact gated.write_goesOn held rfl
    | settling | lingering => exact ⟨strand, goesOn_of_opened held rfl⟩
    | saving paste =>
      have role : world.role Point.pasteRole strand = .asking := role_of_task _ held
      obtain ⟨holder, holds⟩ := gated.paste.held role
      exact gated.paster_goesOn holds

theorem Gated.gates_free (gated : world.Gated) (idle : world.Idle) :
    world.controller.writeGate = {} ∧ world.controller.pasteGate = {} := by
  have free : ∀ {gate : Gate} {view : Point → Role}, gate.Guards (world.role view) → gate = {} := by
    intro gate view guards
    have nobody : gate.holder = none := by
      cases holds : gate.holder with
      | none => rfl
      | some holder => exact absurd (role_of_free (idle holder)) (guards.holder holds).1
    obtain ⟨holder, line⟩ := gate
    cases nobody
    cases guards.free rfl
    rfl
  exact ⟨free gated.write, free gated.paste⟩

end World

/-! ### Along a run -/

namespace OpenRun

variable {start world : World} {past : List Moment}

theorem gated (run : OpenRun start past world) (gated : start.Gated) : world.Gated := by
  induction run with
  | rest => exact gated
  | step run taken before => exact before.step taken
  | turn run desktop before => exact ⟨before.write, before.paste, before.family⟩

theorem steps_le (run : OpenRun start past world) (idle : start.Idle) (strand : StrandId) :
    (latest strand past).length + world.ahead strand ≤ 15 := by
  induction run with
  | rest =>
    have nothing : start.ahead strand = 0 := World.seen_of_free 0 Point.ahead (idle strand)
    rw [nothing]
    exact Nat.zero_le 15
  | turn run desktop ih => exact ih
  | @step past world after choice run taken ih =>
    by_cases own : choice.strand? = some strand
    · rcases Choice.starts_or_onward own with ⟨operation, rfl⟩ | onward
      · have since : (latest strand (⟨world, .start strand operation⟩ :: past)).length = 1 := by
          simp [latest, own]
        have few := after.ahead_le strand
        omega
      · have less := taken.ahead_onward onward
        rw [latest_of_onward onward, List.length_cons]
        omega
    · have same : after.ahead strand = world.ahead strand := taken.seen_others 0 Point.ahead own
      rw [latest, if_neg own, same]
      exact ih

end OpenRun

/-- Whatever is in hand, these strands have it. -/
def World.InHands (world : World) (hands : Finset StrandId) : Prop :=
  ∀ strand, world.tasks strand ≠ none → strand ∈ hands

def Moment.onward (moment : Moment) : Bool := moment.choice.onward?.isSome

def Moment.starts (moment : Moment) : Prop := ∃ strand operation, moment.choice = .start strand operation

namespace World

variable {world after : World} {choice : Choice} {hands : Finset StrandId}

theorem Step.task_onward (taken : world.Step choice after) {strand : StrandId}
    (onward : choice.onward? = some strand) : world.tasks strand ≠ none := by
  cases taken with
  | request task | resume task opened | call task =>
    cases onward
    rw [task]
    nofun
  | start | external | fail | pass => cases onward

theorem InHands.onward (inHands : world.InHands hands) (taken : world.Step choice after)
    {strand : StrandId} (onward : choice.onward? = some strand) : after.InHands hands := by
  intro other something
  by_cases own : choice.strand? = some other
  · rw [Choice.strand?_of_onward onward] at own
    cases own
    exact inHands _ (taken.task_onward onward)
  · rw [taken.others own] at something
    exact inHands other something

def aheadOf (world : World) (hands : Finset StrandId) : Nat := ∑ strand ∈ hands, world.ahead strand

theorem InHands.ahead_onward (inHands : world.InHands hands) (taken : world.Step choice after)
    {strand : StrandId} (onward : choice.onward? = some strand) :
    after.aheadOf hands < world.aheadOf hands := by
  have less := taken.ahead_onward onward
  refine Finset.sum_lt_sum ?_ ⟨strand, inHands strand (taken.task_onward onward), less⟩
  intro other member
  by_cases same : other = strand
  · rw [same]
    exact less.le
  · refine (taken.seen_others 0 Point.ahead ?_).le
    rw [Choice.strand?_of_onward onward]
    exact fun own => same (Option.some.inj own).symm

/-- Whoever goes on as long as anybody can brings everything in hand to its end. -/
theorem Gated.finishes (gated : world.Gated) (inHands : world.InHands hands) :
    ∃ later after, Run world later after ∧ (∀ moment ∈ later, moment.onward = true) ∧ after.Idle := by
  induction total : world.aheadOf hands using Nat.strong_induction_on generalizing world with
  | _ total ih =>
    by_cases idle : world.Idle
    · exact ⟨[], world, .rest, fun _ member => (List.not_mem_nil member).elim, idle⟩
    · obtain ⟨strand, something⟩ := not_forall.mp idle
      obtain ⟨task, held⟩ := Option.ne_none_iff_exists'.mp something
      obtain ⟨mover, choice, next, onward, taken⟩ := gated.goesOn held
      have less := inHands.ahead_onward taken onward
      obtain ⟨later, after, run, all, rests⟩ :=
        ih _ (total ▸ less) (gated.step taken) (inHands.onward taken onward) rfl
      refine ⟨later ++ [⟨world, choice⟩], after, (Run.rest.step taken).append run, ?_, rests⟩
      intro moment member
      rcases List.mem_append.mp member with member | member
      · exact all moment member
      · rw [List.mem_singleton.mp member, Moment.onward, onward]
        rfl

end World

namespace OpenRun

variable {start world : World} {past : List Moment} {hands : Finset StrandId}

theorem inHands (run : OpenRun start past world) (idle : start.Idle) :
    ∃ hands, world.InHands hands := by
  induction run with
  | rest => exact ⟨∅, fun strand something => absurd (idle strand) something⟩
  | turn run desktop ih => exact ih
  | @step past world after choice run taken ih =>
    obtain ⟨hands, all⟩ := ih
    refine ⟨hands ∪ choice.strand?.toFinset, ?_⟩
    intro strand something
    by_cases own : choice.strand? = some strand
    · simp [own]
    · rw [taken.others own] at something
      exact Finset.mem_union_left _ (all strand something)

theorem onward_le (run : OpenRun start past world) (inHands : start.InHands hands)
    (unstarted : ∀ moment ∈ past, ¬ moment.starts) :
    world.InHands hands ∧
      past.countP Moment.onward + world.aheadOf hands ≤ start.aheadOf hands := by
  induction run with
  | rest => exact ⟨inHands, (Nat.zero_add _).le⟩
  | turn run desktop ih => exact ih unstarted
  | @step past world after choice run taken ih =>
    obtain ⟨held, few⟩ := ih fun moment member => unstarted moment (List.mem_cons_of_mem _ member)
    cases onward : choice.onward? with
    | some strand =>
      have less := held.ahead_onward taken onward
      have counted : Moment.onward ⟨world, choice⟩ = true := by rw [Moment.onward, onward]; rfl
      rw [List.countP_cons_of_pos counted]
      exact ⟨held.onward taken onward, by omega⟩
    | none =>
      have nobody : choice.strand? = none := by
        cases own : choice.strand? with
        | none => rfl
        | some strand =>
          rcases Choice.starts_or_onward own with ⟨operation, rfl⟩ | goes
          · exact absurd ⟨strand, operation, rfl⟩ (unstarted _ List.mem_cons_self)
          · rw [onward] at goes
            cases goes
      have other := Choice.strand?_ne nobody
      have uncounted : ¬ Moment.onward ⟨world, choice⟩ = true := by rw [Moment.onward, onward]; nofun
      have same : after.aheadOf hands = world.aheadOf hands :=
        Finset.sum_congr rfl fun strand _ => taken.seen_others 0 Point.ahead (other strand)
      rw [List.countP_cons_of_neg uncounted, same]
      exact ⟨fun strand something => held strand (taken.others (other strand) ▸ something), few⟩

end OpenRun

/-- Nothing in hand can be stuck: somebody can go on, nobody asks for a gate that is his already, no
operation takes more than fifteen steps, and nothing but new operations can put off the end of all, at
which both gates are free. -/
structure Unblocked (past : List Moment) (world : World) : Prop where
  goesOn : ¬ world.Idle → ∃ strand, world.GoesOn strand
  asks : ∀ strand operation stage, world.tasks strand = some ⟨operation, .arriving stage⟩ →
    (stage.barrier world.controller.settings = .writeGate →
      world.controller.writeGate.holder ≠ some strand) ∧
    (stage.barrier world.controller.settings = .pasteGate →
      world.controller.pasteGate.holder ≠ some strand)
  steps : ∀ strand, (latest strand past).length ≤ 15
  ends : ∃ most, ∀ later after, OpenRun world later after → (∀ moment ∈ later, ¬ moment.starts) →
    later.countP Moment.onward ≤ most
  finishes : ∃ later after, Run world later after ∧ (∀ moment ∈ later, moment.onward = true) ∧ after.Idle
  freed : world.Idle → world.controller.writeGate = {} ∧ world.controller.pasteGate = {}

theorem never_blocked {start world : World} {past : List Moment} (rested : start.Rested)
    (run : OpenRun start past world) : Unblocked past world := by
  have gated := run.gated rested.gated
  obtain ⟨hands, inHands⟩ := run.inHands rested.idle
  constructor
  · intro busy
    obtain ⟨strand, something⟩ := not_forall.mp busy
    obtain ⟨task, held⟩ := Option.ne_none_iff_exists'.mp something
    exact gated.goesOn held
  · intro strand operation stage task
    have clear : ∀ view : Point → Role, world.role view strand = view (.arriving stage) :=
      fun view => World.role_of_task view task
    constructor
    · intro asks holds
      exact (gated.write.holder holds).1 (clear Point.writeRole)
    · intro asks holds
      have outside := clear Point.pasteRole
      cases stage with
      | saving => exact (gated.paste.holder holds).1 outside
      | toggling | checking | copying | placing | settling | lingering | returning => cases asks
  · intro strand
    have few := run.steps_le rested.idle strand
    omega
  · refine ⟨world.aheadOf hands, ?_⟩
    intro later after further unstarted
    have few := (further.onward_le inHands unstarted).2
    omega
  · exact gated.finishes inHands
  · exact gated.gates_free

/-- A paste rests before its keystroke, queue mode brings back what it has kept, and behind both wait
another paste, another switch and an update. -/
def crowd : List Choice :=
  switching ++ pasteHalfway ++ [.request 0, .start 1 .toggle, .request 1, .resume 1,
    .start 2 (.textMacro "S" .pasted), .request 2, .start 3 .toggle, .request 3,
    .start 4 .update, .request 4]

theorem crowd_unblocked :
    let played := (World.fresh {} (.text "U")).played crowd rfl
    (∃ strand, played.2.GoesOn strand) ∧ Unblocked played.1 played.2 := by
  have unblocked := never_blocked (World.fresh_fresh {} (.text "U")).toRested
    (World.played_run (World.fresh {} (.text "U")) crowd rfl).opened
  refine ⟨unblocked.goesOn ?_, unblocked⟩
  intro idle
  cases idle 2

end PasteQueue
