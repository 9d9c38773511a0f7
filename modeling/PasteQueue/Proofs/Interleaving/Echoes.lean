import Mathlib.Algebra.Group.Nat.Defs
import PasteQueue.Proofs.Interleaving.Past
import PasteQueue.Proofs.Queue.EchoRing

/-!
An update is suppressed exactly when the latest change of the clipboard is the program's own. The ring
holds numbers of own changes only, and the latest of them is always among these; as long as the
numbers do not come round, no change of somebody else has one of them.
-/

namespace PasteQueue

open Clipboard (Content Item)
open Controller (Answer Errand Notice Operation Result Stage UpdateOutcome)

namespace World

/-! ### The numbers in the ring -/

/-- The sequence number counts the changes, and the ring tells the own ones among them. -/
structure Counted (start : World) (changes : List Author) (world : World) : Prop where
  held : world.controller.desktop.heldSequence = none
  sequence : world.controller.desktop.sequence =
    start.controller.desktop.sequence + UInt32.ofNat changes.length
  pointed : world.controller.state.echoes.Pointed
  own : ∀ number, some number ∈ world.controller.state.echoes.slots → ∃ newer older,
    changes = newer ++ .program :: older ∧
      number = start.controller.desktop.sequence + UInt32.ofNat (older.length + 1)
  latest : changes.head? = some .program →
    some world.controller.desktop.sequence ∈ world.controller.state.echoes.slots

theorem Fresh.counted {start : World} (fresh : start.Fresh) : Counted start [] start where
  held := fresh.held
  sequence := (UInt32.add_zero _).symm
  pointed := by
    rw [fresh.state]
    exact Queue.EchoRing.ofCapacity_pointed _
  own number member := by
    rw [fresh.state] at member
    exact absurd member (Queue.EchoRing.not_mem_ofCapacity _ number)
  latest none := by cases none

theorem sequence_succ (number : UInt32) (count : Nat) :
    number + UInt32.ofNat count + 1 = number + UInt32.ofNat (count + 1) := by
  rw [UInt32.add_assoc, UInt32.ofNat_add]
  rfl

variable {start world after : World} {choice : Choice}

theorem Counted.step {past : List Moment} (counted : Counted start (changes past) world)
    (taken : world.Step choice after) :
    Counted start (changes (⟨world, choice⟩ :: past)) after := by
  have traced := taken.traced
  have held := traced.held.trans counted.held
  rcases Moment.change_cases ⟨world, choice⟩ with
    ⟨content, copied, author⟩ | ⟨strand, operation, item, written, author⟩ | ⟨kept, own, author⟩
  · obtain ⟨-, sequence, echoes⟩ := traced.copied content copied
    have longer : changes (⟨world, choice⟩ :: past) = .other :: changes past :=
      List.filterMap_cons_some author
    rw [longer]
    refine ⟨held, ?_, echoes.symm ▸ counted.pointed, ?_, ?_⟩
    · rw [sequence, counted.sequence]
      exact sequence_succ _ _
    · intro number member
      rw [echoes] at member
      obtain ⟨newer, older, before, same⟩ := counted.own number member
      exact ⟨.other :: newer, older, by rw [before]; rfl, same⟩
    · intro none
      cases none
  · obtain ⟨-, sequence, echoes⟩ := traced.written strand operation item written
    have longer : changes (⟨world, choice⟩ :: past) = .program :: changes past :=
      List.filterMap_cons_some author
    have seen : after.controller.desktop.seenSequence = after.controller.desktop.sequence := by
      simp [Desktop.seenSequence, held]
    have now : after.controller.desktop.sequence =
        start.controller.desktop.sequence + UInt32.ofNat ((changes past).length + 1) := by
      rw [sequence, counted.sequence]
      exact sequence_succ _ _
    rw [seen] at echoes
    rw [longer]
    refine ⟨held, now, echoes.symm ▸ counted.pointed.record _, ?_, ?_⟩
    · -- A record may push older numbers out, but brings in none but its own.
      intro number member
      rw [echoes] at member
      rcases Queue.EchoRing.mem_of_mem_record _ member with new | old
      · exact ⟨[], changes past, rfl, new.trans now⟩
      · obtain ⟨newer, older, before, same⟩ := counted.own number old
        exact ⟨.program :: newer, older, by rw [before]; rfl, same⟩
    · intro _
      rw [echoes]
      exact counted.pointed.mem_record _
  · obtain ⟨-, sequence, echoes⟩ := traced.kept kept own
    have same : changes (⟨world, choice⟩ :: past) = changes past := List.filterMap_cons_none author
    rw [same]
    exact ⟨held, sequence.trans counted.sequence, echoes.symm ▸ counted.pointed,
      fun number member => counted.own number (echoes ▸ member),
      fun head => echoes.symm ▸ sequence.symm ▸ counted.latest head⟩

theorem Counted.isEcho_iff {changes : List Author} (counted : Counted start changes world)
    (few : changes.length < 2 ^ 32) :
    world.controller.state.isEcho world.controller.desktop.seenSequence = true ↔
      changes.head? = some .program := by
  have seen : world.controller.desktop.seenSequence = world.controller.desktop.sequence := by
    simp [Desktop.seenSequence, counted.held]
  rw [seen, Queue.State.isEcho, Queue.EchoRing.contains_iff]
  constructor
  · intro member
    obtain ⟨newer, older, split, same⟩ := counted.own _ member
    -- Equal numbers of fewer than 2^32 changes are numbers of the same change.
    have equal : changes.length = older.length + 1 := by
      rw [counted.sequence, UInt32.add_right_inj, UInt32.ofNat_eq_iff_mod_eq_toNat,
        UInt32.toNat_ofNat'] at same
      have longer : older.length + 1 ≤ changes.length := by
        rw [split]
        simp
      omega
    have nothing : newer = [] := by
      rw [split, List.length_append, List.length_cons] at equal
      exact List.eq_nil_of_length_eq_zero (by omega)
    rw [split, nothing]
    rfl
  · exact counted.latest

end World

theorem Run.counted {start world : World} {past : List Moment} (run : Run start past world)
    (fresh : start.Fresh) : World.Counted start (changes past) world := by
  induction run with
  | rest => exact fresh.counted
  | step run taken counted => exact counted.step taken

/-! ### Where an update ends as suppressed -/

namespace Controller

variable {controller : Controller} {strand : StrandId}

theorem check_result :
    (check controller).1.result? =
      if controller.state.isEcho controller.desktop.seenSequence then
        some (.ok (.update .suppressed))
      else none := by
  dsimp only [check]
  split <;> rfl

theorem look_not_suppressed :
    (look strand controller).approach.1.result? ≠ some (.ok (.update .suppressed)) := by
  intro came
  dsimp only [look] at came
  split at came <;> cases came

end Controller

namespace World

variable {world after : World} {strand : StrandId}

/-- An update ends as suppressed at its check, and only there. -/
theorem Gated.suppressed_iff (gated : world.Gated) (strand : StrandId) (choice : Choice) :
    world.returned? choice = some (strand, .update, .ok (.update .suppressed)) ↔
      choice = .resume strand ∧ world.tasks strand = some ⟨.update, .waiting .checking⟩ ∧
      world.controller.state.isEcho world.controller.desktop.seenSequence = true := by
  constructor
  · intro returned
    cases choice with
    | start starter operation =>
      obtain ⟨result, ended, same⟩ := Option.map_eq_some_iff.mp returned
      cases same
      cases ended
    | resume resumer =>
      dsimp only [returned?] at returned
      split at returned
      · rename_i operation stage task
        obtain ⟨result, ended, same⟩ := Option.map_eq_some_iff.mp returned
        cases same
        -- An update is never at a stage of another operation.
        have family := gated.family strand _ task
        cases stage with
        | checking =>
          refine ⟨rfl, task, ?_⟩
          change (Controller.check world.controller).1.result? = _ at ended
          rw [Controller.check_result] at ended
          split at ended
          · assumption
          · cases ended
        | toggling | copying | saving | placing | settling | lingering | returning => cases family
      · cases returned
    | call caller =>
      dsimp only [returned?] at returned
      split at returned
      · rename_i operation errand task
        obtain ⟨result, ended, same⟩ := Option.map_eq_some_iff.mp returned
        cases same
        have family := gated.family strand _ task
        cases errand with
        | looking => exact absurd ended Controller.look_not_suppressed
        | keeping | bringingBack | copying | saving | placing | pressing | returning | typing =>
          cases family
      · cases returned
    | request | external | fail | pass => cases returned
  · rintro ⟨rfl, task, echo⟩
    simp only [returned?, task]
    change Option.map _ (Controller.check world.controller).1.result? = _
    rw [Controller.check_result, if_pos echo]
    rfl

end World

/-! ### What an update does up to its check -/

namespace Controller

/-- Only the log and a strand that waits can tell. -/
def Notice.quiet : Notice → Bool
  | .logged _ | .freed _ => true
  | _ => false

/-- Nothing has been read, the listener has been told nothing, and state and desktop are as before. -/
structure Quiet (before after : Controller) : Prop where
  state : after.state = before.state
  desktop : after.desktop = before.desktop
  notices : ∃ added, after.notices = added ++ before.notices ∧
    ∀ notice ∈ added, notice.quiet = true

namespace Quiet

variable {before after : Controller}

theorem of_same (state : after.state = before.state) (desktop : after.desktop = before.desktop)
    (notices : after.notices = before.notices) : before.Quiet after :=
  ⟨state, desktop, [], notices, fun _ member => by cases member⟩

theorem note (quiet : before.Quiet after) {notice : Notice} (small : notice.quiet = true) :
    before.Quiet (after.note notice) := by
  obtain ⟨state, desktop, added, notices, all⟩ := quiet
  refine ⟨state, desktop, notice :: added, congrArg (notice :: ·) notices, ?_⟩
  intro other member
  rcases List.mem_cons.mp member with same | member
  · rw [same]
    exact small
  · exact all other member

theorem leaveWriteGate (quiet : before.Quiet after) : before.Quiet after.leaveWriteGate := by
  have same : before.Quiet { after with writeGate := after.writeGate.release } :=
    ⟨quiet.state, quiet.desktop, quiet.notices⟩
  dsimp only [Controller.leaveWriteGate]
  cases after.writeGate.release.holder with
  | none => exact same
  | some freed => exact same.note rfl

end Quiet

end Controller

namespace World

/-- A step that an update may take without being noticed. -/
def Quiet (before after : World) : Prop := before.controller.Quiet after.controller

variable {world after : World} {strand : StrandId} {operation : Operation} {stage : Stage}

theorem start_update_quiet (taken : world.Step (.start strand .update) after) :
    world.Quiet after := by
  cases taken with
  | start free => exact .of_same rfl rfl rfl

theorem request_quiet (taken : world.Step (.request strand) after) : world.Quiet after := by
  cases taken with
  | request task =>
    rename_i operation stage
    obtain ⟨-, state, desktop, -, -⟩ := Controller.enter_frame world.controller strand stage
    exact .of_same state desktop (by cases stage <;> rfl)

theorem check_quiet (task : world.tasks strand = some ⟨operation, .waiting .checking⟩)
    (echo : world.controller.state.isEcho world.controller.desktop.seenSequence = true)
    (taken : world.Step (.resume strand) after) : world.Quiet after := by
  cases taken with
  | resume before opened =>
    rw [task] at before
    cases before
    change world.controller.Quiet (Controller.check world.controller).2
    dsimp only [Controller.check]
    rw [if_pos echo]
    exact ((Controller.Quiet.of_same rfl rfl rfl).note rfl).leaveWriteGate

end World

theorem latest_of_other {strand : StrandId} {moment : Moment} {past : List Moment}
    (other : moment.choice.strand? ≠ some strand) :
    latest strand (moment :: past) = latest strand past := if_neg other

/-- Ahead of the check that an update makes. -/
def Point.AheadOfCheck (point : Point) : Prop :=
  point = .arriving .checking ∨ point = .waiting .checking

theorem Controller.approach_past_check {controller : Controller} {stage : Stage} {point : Point}
    (came : (controller.approach stage).1.point? = some point) : ¬ point.AheadOfCheck := by
  intro ahead
  have family := (approach_approached controller stage).family point came
  have updating : point.family = .updating := by rcases ahead with rfl | rfl <;> rfl
  cases stage with
  | checking =>
    dsimp only [approach, check] at came
    split at came
    · cases came
    · cases came
      rcases ahead with same | same <;> cases same
  | toggling | copying | saving | placing | settling | lingering | returning =>
    rw [updating] at family
    cases family

/-- Up to its check, an update has only come and asked for the write gate. -/
theorem Run.quiet {start world : World} {past : List Moment} (run : Run start past world)
    (idle : start.Idle) {strand : StrandId} {point : Point} (ahead : point.AheadOfCheck)
    (held : world.tasks strand = some ⟨.update, point⟩) :
    ∀ moment ∈ latest strand past, ∀ next, moment.world.Step moment.choice next →
      moment.world.Quiet next := by
  induction run generalizing point with
  | rest =>
    rw [idle strand] at held
    cases held
  | step run taken ih =>
    rename_i past world after choice
    by_cases own : choice.strand? = some strand
    · cases taken with
      | start free =>
        cases own
        rw [World.put_tasks] at held
        obtain ⟨_, -, same⟩ := Option.map_eq_some_iff.mp held
        cases same
        intro moment member next taken
        have only : moment = ⟨world, .start strand .update⟩ := by simpa [latest, Choice.strand?] using member
        rw [only] at taken ⊢
        exact World.start_update_quiet taken
      | request task =>
        cases own
        rw [World.move_tasks] at held
        cases held
        rename_i stage
        have checking : stage = .checking := by rcases ahead with same | same <;> cases same; rfl
        rw [checking] at task
        intro moment member next taken
        have either : moment = ⟨world, .request strand⟩ ∨ moment ∈ latest strand past := by
          simpa [latest, Choice.strand?] using member
        rcases either with only | member
        · rw [only] at taken ⊢
          exact World.request_quiet taken
        · exact ih (.inl rfl) task moment member next taken
      | resume task opened =>
        cases own
        rw [World.put_tasks] at held
        obtain ⟨_, came, same⟩ := Option.map_eq_some_iff.mp held
        cases same
        exact absurd ahead (Controller.approach_past_check came)
      | call task =>
        cases own
        rename_i operation errand
        have completed := Controller.complete_completed world.controller strand errand
        rw [World.put_tasks, Controller.approach_point?, completed.stage] at held
        obtain ⟨_, came, same⟩ := Option.map_eq_some_iff.mp held
        cases same
        obtain ⟨stage, next, same⟩ := Option.map_eq_some_iff.mp came
        have holds := (Controller.Errand.next?_frame next).2.2.2
        rcases ahead with checks | checks <;> rw [← same] at checks <;> cases checks
        cases holds
      | external | fail | pass => cases own
    · rw [latest_of_other own]
      rw [taken.others own] at held
      exact ih ahead held

/-- An update is suppressed exactly if the latest change before its check is one of the program's own
writes; a suppressed update has read nothing, told the listener nothing and changed nothing. -/
theorem suppressed_iff_latest_change_own {start world : World} {past : List Moment}
    (fresh : start.Fresh) (run : Run start past world) (few : (changes past).length < 2 ^ 32)
    (strand : StrandId) (choice : Choice) :
    (world.returned? choice = some (strand, .update, .ok (.update .suppressed)) ↔
      choice = .resume strand ∧ world.tasks strand = some ⟨.update, .waiting .checking⟩ ∧
      (changes past).head? = some .program) ∧
    (world.returned? choice = some (strand, .update, .ok (.update .suppressed)) →
      ∀ moment ∈ latest strand (⟨world, choice⟩ :: past), ∀ next,
        moment.world.Step moment.choice next → moment.world.Quiet next) := by
  have gated := run.gated fresh.gated
  have echo := (run.counted fresh).isEcho_iff few
  have suppressed := gated.suppressed_iff strand choice
  refine ⟨by rw [suppressed, echo], ?_⟩
  intro returned
  obtain ⟨rfl, task, echo⟩ := suppressed.mp returned
  intro moment member next taken
  have either : moment = ⟨world, .resume strand⟩ ∨ moment ∈ latest strand past := by
    simpa [latest, Choice.strand?] using member
  rcases either with only | member
  · rw [only] at taken ⊢
    exact World.check_quiet task echo taken
  · exact run.quiet fresh.idle (.inr rfl) task moment member next taken

theorem pasted_text_suppressed :
    let played := (World.fresh {} (.text "U")).played (pasteHalfway ++ [.start 1 .update, .request 1]) rfl
    played.2.returned? (.resume 1) = some (1, .update, .ok (.update .suppressed)) ∧
    ∀ moment ∈ latest 1 (⟨played.2, .resume 1⟩ :: played.1), ∀ next,
      moment.world.Step moment.choice next → moment.world.Quiet next := by
  have claim := suppressed_iff_latest_change_own
    (World.fresh_fresh {} (.text "U"))
    (World.played_run _ (pasteHalfway ++ [.start 1 .update, .request 1]) rfl) (by decide) 1 (.resume 1)
  have suppressed := claim.1.mpr ⟨rfl, rfl, rfl⟩
  exact ⟨suppressed, claim.2 suppressed⟩

end PasteQueue
