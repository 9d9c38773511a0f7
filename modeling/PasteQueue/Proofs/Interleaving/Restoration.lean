import PasteQueue.Proofs.Interleaving.Custody

/-!
What is on the clipboard when nothing is in hand. A paste gives back what it has saved, whatever else
happens meanwhile. Queue mode keeps what it finds, though, also if that is the item of a paste under
way; and what it has kept it brings back for good unless a paste is under way then, too.
-/

namespace PasteQueue

open Clipboard (Content Item)
open Controller (Approach Errand Operation Stage)
open Gate (Role)

/-- Nobody else copies anything, nothing is copied from the history, and no call of the clipboard is
made to fail. -/
def Choice.Sheltered : Choice → Prop
  | .start _ (.copyItem _) | .external _ => False
  | .fail kind script => kind = .read ∨ kind = .write → ∀ entry ∈ script, entry = none
  | .start .. | .request _ | .resume _ | .call _ | .pass _ => True

/-- What is brought back while no paste has anything saved. -/
def Moment.restored? (moment : Moment) : Option Item :=
  match moment.world.errand? moment.choice with
  | some (_, _, .bringingBack item _) => if moment.world.inHand?.isNone then some item else none
  | _ => none

/-- What has been brought back outside of pastes, the latest first. -/
def restorations (past : List Moment) : List Item := past.filterMap Moment.restored?

/-- What the clipboard shows or some paste is to give back. -/
def owed (content : Content) (past : List Moment) : Content :=
  ((restorations past).head?.map Item.content).getD content

theorem owed_of_kept {content : Content} {moment : Moment} {past : List Moment}
    (kept : moment.restored? = none) : owed content (moment :: past) = owed content past := by
  rw [owed, restorations, List.filterMap_cons_none kept]
  rfl

theorem owed_of_restored {content : Content} {moment : Moment} {past : List Moment} {item : Item}
    (restored : moment.restored? = some item) : owed content (moment :: past) = item.content := by
  rw [owed, restorations, List.filterMap_cons_some restored]
  rfl

namespace World

/-- No call of the clipboard is going to fail. -/
structure Clear (world : World) : Prop where
  read : world.controller.desktop.scripts.Sound .read
  write : world.controller.desktop.scripts.Sound .write

theorem fresh_clear (settings : ControllerSettings) (content : Content) :
    (fresh settings content).Clear := by
  constructor <;> intro entry member <;> cases member

/-- No copy from the history is about to be written. -/
def Uncopied (world : World) : Prop :=
  ∀ strand operation item, world.tasks strand ≠ some ⟨operation, .calling (.copying item)⟩

variable {world after : World} {choice : Choice} {past : List Moment} {content : Content}

theorem Clear.step (clear : world.Clear) (taken : world.Step choice after)
    (sheltered : choice.Sheltered) : after.Clear where
  read := taken.sound clear.read fun script same => by
    rw [same] at sheltered
    exact sheltered (.inl rfl)
  write := taken.sound clear.write fun script same => by
    rw [same] at sheltered
    exact sheltered (.inr rfl)

theorem Step.current_still (taken : world.Step choice after) (sheltered : choice.Sheltered)
    (still : world.errand? choice = none) :
    after.controller.desktop.current = world.controller.desktop.current := by
  refine (taken.traced.kept (by rw [written?, still]; rfl) ?_).1
  intro content copied
  rw [copied] at sheltered
  exact sheltered

/-- What has been saved is owed, and so is what the clipboard shows while nothing is saved. -/
structure Owing (content : Content) (past : List Moment) (world : World) : Prop where
  saved : ∀ strand item, world.saved? strand = some item → item.content = owed content past
  free : (∀ strand, world.saved? strand = none) →
    world.controller.desktop.current.content = owed content past

theorem Owing.of_same (owing : Owing content past world)
    (kept : Moment.restored? ⟨world, choice⟩ = none)
    (saved : ∀ strand, after.saved? strand = world.saved? strand)
    (current : after.controller.desktop.current = world.controller.desktop.current) :
    Owing content (⟨world, choice⟩ :: past) after where
  saved strand item holds := by
    rw [owed_of_kept kept]
    exact owing.saved strand item (saved strand ▸ holds)
  free nothing := by
    rw [owed_of_kept kept, current]
    exact owing.free fun strand => saved strand ▸ nothing strand

section Call

variable {strand : StrandId} {operation : Operation} {errand : Errand}

theorem Step.saved?_call (task : world.tasks strand = some ⟨operation, .calling errand⟩)
    (taken : world.Step (.call strand) after) :
    after.saved? strand = (errand.next? world.controller.desktop).bind Stage.saved? := by
  rw [saved?, Step.seen_call none Point.saved? task taken]
  cases errand.next? world.controller.desktop <;> rfl

theorem Step.saved?_same (taken : world.Step (.call strand) after)
    (task : world.tasks strand = some ⟨operation, .calling errand⟩)
    (same : (errand.next? world.controller.desktop).bind Stage.saved? = errand.saved?)
    (other : StrandId) : after.saved? other = world.saved? other := by
  by_cases own : other = strand
  · rw [own, Step.saved?_call task taken, same]
    exact (seen_of_task none Point.saved? task).symm
  · exact taken.seen_others none Point.saved? (call_others own)

theorem Owing.of_holder {item : Item} (kept : Moment.restored? ⟨world, choice⟩ = none)
    (holds : after.saved? strand = some item) (same : item.content = owed content past)
    (alone : ∀ other, other ≠ strand → after.saved? other = none) :
    Owing content (⟨world, choice⟩ :: past) after where
  saved other found holding := by
    rw [owed_of_kept kept]
    by_cases own : other = strand
    · rw [own, holds] at holding
      cases holding
      exact same
    · rw [alone other own] at holding
      cases holding
  free nothing := by
    rw [nothing strand] at holds
    cases holds

theorem restored?_call (task : world.tasks strand = some ⟨operation, .calling errand⟩)
    (plain : ∀ item status, errand ≠ .bringingBack item status) :
    Moment.restored? ⟨world, .call strand⟩ = none := by
  simp only [Moment.restored?, errand?_call task]
  split
  · rename_i same
    cases same
    exact absurd rfl (plain _ _)
  · rfl

theorem restored?_bringingBack {item : Item} {status : Queue.Status}
    (task : world.tasks strand = some ⟨operation, .calling (.bringingBack item status)⟩) :
    Moment.restored? ⟨world, .call strand⟩ = if world.inHand?.isNone then some item else none := by
  simp only [Moment.restored?, errand?_call task]

theorem Owing.call (owing : Owing content past world) (gated : world.Gated) (clear : world.Clear)
    (uncopied : world.Uncopied) (task : world.tasks strand = some ⟨operation, .calling errand⟩)
    (taken : world.Step (.call strand) after) :
    Owing content (⟨world, .call strand⟩ :: past) after := by
  have current := Step.current_call task taken clear.write
  have stands := point?_of_task task
  have alone : errand.inPasteGate = true → ∀ other, other ≠ strand → after.saved? other = none := by
    intro inside other different
    refine (taken.seen_others none Point.saved? (call_others different)).trans ?_
    exact gated.seen_alone Point.saved?_guarded stands (by simp [Point.pasteRole, inside]) different
  cases errand with
  | keeping | looking | typing =>
    exact owing.of_same (restored?_call task (by intro _ _ same; cases same))
      (taken.saved?_same task rfl) current
  | bringingBack item status =>
    have saved := taken.saved?_same task rfl
    have restored := restored?_bringingBack task
    -- Under a paste that has saved something, what is brought back lasts until that is given back.
    cases inHand : world.inHand? with
    | none =>
      rw [inHand] at restored
      have nothing := gated.inHand?_eq_none.mp inHand
      constructor
      · intro other found holds
        rw [saved, nothing other] at holds
        cases holds
      · intro _
        rw [owed_of_restored restored, current]
        rfl
    | some held =>
      rw [inHand] at restored
      constructor
      · intro other found holds
        rw [owed_of_kept restored]
        exact owing.saved other found (saved other ▸ holds)
      · intro none
        have nothing := gated.inHand?_eq_none.mpr fun other => saved other ▸ none other
        rw [inHand] at nothing
        cases nothing
  | copying item => exact absurd task (uncopied strand operation item)
  | saving paste =>
    -- Whoever saves is alone behind the paste gate, so what it reads is owed.
    obtain ⟨item, read⟩ := Desktop.read_of_sound _ clear.read
    have holds : after.saved? strand = some item := by
      rw [Step.saved?_call task taken]
      simp [Errand.next?, read, Stage.saved?]
    have free : ∀ other, world.saved? other = none := by
      intro other
      by_cases own : other = strand
      · rw [own]
        exact seen_of_point none Point.saved? stands
      · exact gated.seen_alone Point.saved?_guarded stands rfl own
    have content := Desktop.read_content _ read
    exact .of_holder (restored?_call task (by intro _ _ same; cases same)) holds
      (content.trans (owing.free free)) (alone rfl)
  | placing paste saved =>
    have before : world.saved? strand = some saved := seen_of_point none Point.saved? stands
    have holds : after.saved? strand = some saved := by
      rw [Step.saved?_call task taken]
      simp only [Errand.next?, Desktop.write_of_sound _ clear.write]
      rfl
    exact .of_holder (restored?_call task (by intro _ _ same; cases same)) holds
      (owing.saved strand saved before) (alone rfl)
  | pressing paste saved =>
    refine owing.of_same (restored?_call task (by intro _ _ same; cases same))
      (taken.saved?_same task ?_) current
    dsimp only [Errand.next?]
    cases world.controller.desktop.pressPaste.1 <;> rfl
  | returning paste saved failure =>
    have before : world.saved? strand = some saved := seen_of_point none Point.saved? stands
    have kept : Moment.restored? ⟨world, .call strand⟩ = none :=
      restored?_call task (by intro _ _ same; cases same)
    constructor
    · intro other found holds
      by_cases own : other = strand
      · rw [own, Step.saved?_call task taken] at holds
        cases holds
      · rw [alone rfl other own] at holds
        cases holds
    · intro _
      rw [owed_of_kept kept, current]
      exact owing.saved strand saved before

end Call

theorem Owing.step (owing : Owing content past world) (gated : world.Gated) (clear : world.Clear)
    (uncopied : world.Uncopied) (taken : world.Step choice after) (sheltered : choice.Sheltered) :
    Owing content (⟨world, choice⟩ :: past) after := by
  cases calls : world.errand? choice with
  | none =>
    have kept : Moment.restored? ⟨world, choice⟩ = none := by simp only [Moment.restored?, calls]
    exact owing.of_same kept (taken.saved?_still calls) (taken.current_still sheltered calls)
  | some caller =>
    obtain ⟨strand, operation, errand⟩ := caller
    obtain ⟨rfl, task⟩ := errand?_eq_some calls
    exact owing.call gated clear uncopied task taken

theorem Gated.copies {strand : StrandId} {operation : Operation} {item : Item} (gated : world.Gated)
    (task : world.tasks strand = some ⟨operation, .calling (.copying item)⟩) :
    ∃ id, operation = .copyItem id := by
  have family := gated.family strand _ task
  cases operation with
  | copyItem id => exact ⟨id, rfl⟩
  | textMacro text delivery => cases delivery <;> cases family
  | toggle | update | pasteNext | remove | clear | toggleOrder | setOrder => cases family

end World

section Sheltered

variable {start world : World} {past : List Moment} (run : Run start past world)
  (rested : start.Rested) (sheltered : ∀ moment ∈ past, moment.choice.Sheltered)

include run rested sheltered

theorem Run.uncopied : world.Uncopied := by
  intro strand operation item task
  obtain ⟨id, copies⟩ := (run.gated rested.gated).copies task
  obtain ⟨moment, member, started⟩ := run.started rested.idle task
  have allowed := sheltered moment member
  rw [started, copies] at allowed
  exact allowed

omit rested in
theorem Run.clear (clear : start.Clear) : world.Clear := by
  induction run with
  | rest => exact clear
  | step run taken ih =>
    have now := ih fun moment member => sheltered moment (List.mem_cons_of_mem _ member)
    exact now.step taken (sheltered _ List.mem_cons_self)

theorem Run.owing (clear : start.Clear) :
    world.Owing start.controller.desktop.current.content past := by
  induction run with
  | rest =>
    constructor
    · intro strand item holds
      cases holds.symm.trans (World.seen_of_free none Point.saved? (rested.idle strand))
    · intro _
      rfl
  | step run taken ih =>
    have earlier := fun moment member => sheltered moment (List.mem_cons_of_mem _ member)
    exact (ih earlier).step (run.gated rested.gated) (run.clear earlier clear)
      (run.uncopied rested earlier) taken (sheltered _ List.mem_cons_self)

end Sheltered

/-! ### Queue mode -/

/-- Queue mode is switched on while a paste has its item on the clipboard. -/
def Moment.untimely (moment : Moment) : Bool :=
  match moment.world.errand? moment.choice with
  | some (_, _, .keeping) => moment.world.displaying
  | _ => false

namespace World

variable {world after : World} {choice : Choice} {content : Content}

/-- Whatever is kept, on its way back, saved or shown behind no paste has the content. -/
structure Timely (content : Content) (world : World) : Prop where
  kept : ∀ item, world.controller.state.snapshot = some item → item.content = content
  returning : ∀ strand operation item status,
    world.tasks strand = some ⟨operation, .calling (.bringingBack item status)⟩ →
      item.content = content
  saved : ∀ strand item, world.saved? strand = some item → item.content = content
  plain : (∀ strand, world.shown? strand = none) →
    world.controller.desktop.current.content = content

theorem Fresh.timely (fresh : world.Fresh) :
    world.Timely world.controller.desktop.current.content where
  kept item keeps := by
    rw [fresh.state] at keeps
    cases keeps
  returning strand _ _ _ task := by
    rw [fresh.idle strand] at task
    cases task
  saved strand item holds := by
    cases holds.symm.trans (seen_of_free none Point.saved? (fresh.idle strand))
  plain _ := rfl

theorem Step.kept_still (taken : world.Step choice after) (still : world.errand? choice = none)
    {item : Item} (keeps : after.controller.state.snapshot = some item) :
    world.controller.state.snapshot = some item := by
  cases taken with
  | start free =>
    rename_i strand operation
    have launched := Controller.launch_launched world.controller operation
    exact launched.snapshot.symm.trans keeps
  | request task =>
    rename_i strand operation stage
    obtain ⟨-, state, -, -, -⟩ := Controller.enter_frame world.controller strand stage
    exact (congrArg Queue.State.snapshot state).symm.trans keeps
  | resume task opened =>
    rename_i strand operation stage
    have approached := Controller.approach_approached world.controller stage
    exact approached.snapshot item keeps
  | call task =>
    rw [errand?_call task] at still
    cases still
  | external content =>
    obtain ⟨-, state, -, -, -⟩ := Controller.copy_frame world.controller content
    exact (congrArg Queue.State.snapshot state).symm.trans keeps
  | fail | pass => exact keeps

theorem Step.returning (taken : world.Step choice after) {strand : StrandId}
    {operation : Operation} {item : Item} {status : Queue.Status}
    (task : after.tasks strand = some ⟨operation, .calling (.bringingBack item status)⟩) :
    world.tasks strand = some ⟨operation, .calling (.bringingBack item status)⟩ ∨
      world.controller.state.snapshot = some item := by
  by_cases own : choice.strand? = some strand
  · cases taken with
    | start free =>
      cases own
      rename_i started
      have launched := Controller.launch_launched world.controller started
      rw [put_tasks] at task
      obtain ⟨point, came, same⟩ := Option.map_eq_some_iff.mp task
      cases same
      have outside := (launched.outside _ came).1
      cases outside
    | request before =>
      cases own
      rw [move_tasks] at task
      cases task
    | resume before opened =>
      cases own
      rename_i stage
      have approached := Controller.approach_approached world.controller stage
      rw [put_tasks] at task
      obtain ⟨point, came, same⟩ := Option.map_eq_some_iff.mp task
      cases same
      refine .inr (approached.restored item status ?_)
      cases advance : (world.controller.approach stage).1 with
      | made progress =>
        rw [advance] at came
        cases progress <;> cases came
      | calling errand =>
        rw [advance] at came
        cases came
        rfl
    | call before =>
      -- Behind a call comes a barrier, never another call.
      cases own
      rename_i started errand
      have completed := Controller.complete_completed world.controller strand errand
      rw [put_tasks, Controller.approach_point?] at task
      obtain ⟨point, came, same⟩ := Option.map_eq_some_iff.mp task
      cases same
      obtain ⟨stage, -, same⟩ := Option.map_eq_some_iff.mp came
      cases same
    | external | fail | pass => cases own
  · rw [taken.others own] at task
    exact .inl task

section Call

variable {strand : StrandId} {operation : Operation} {errand : Errand}

theorem Step.kept_call (taken : world.Step (.call strand) after)
    (task : world.tasks strand = some ⟨operation, .calling errand⟩) {item : Item}
    (keeps : after.controller.state.snapshot = some item) :
    world.controller.state.snapshot = some item ∨
      errand = .keeping ∧ item.content = world.controller.desktop.current.content := by
  cases taken with
  | call same =>
    rw [task] at same
    cases same
    have completed := Controller.complete_completed world.controller strand errand
    exact completed.snapshot item keeps

theorem untimely_call (task : world.tasks strand = some ⟨operation, .calling .keeping⟩) :
    Moment.untimely ⟨world, .call strand⟩ = world.displaying := by
  simp only [Moment.untimely, errand?_call task]

theorem Timely.kept_call (timely : world.Timely content) (gated : world.Gated)
    (task : world.tasks strand = some ⟨operation, .calling errand⟩)
    (taken : world.Step (.call strand) after)
    (timed : Moment.untimely ⟨world, .call strand⟩ = false) (item : Item)
    (keeps : after.controller.state.snapshot = some item) : item.content = content := by
  rcases taken.kept_call task keeps with before | ⟨rfl, now⟩
  · exact timely.kept item before
  · rw [untimely_call task] at timed
    exact now.trans (timely.plain (gated.displaying_eq_false.mp timed))

theorem Timely.saved_call (timely : world.Timely content) (gated : world.Gated)
    (task : world.tasks strand = some ⟨operation, .calling errand⟩)
    (taken : world.Step (.call strand) after) (other : StrandId) (item : Item)
    (holds : after.saved? other = some item) : item.content = content := by
  have stands := point?_of_task task
  by_cases own : other = strand
  · rw [own, Step.saved?_call task taken] at holds
    obtain ⟨stage, next, saved⟩ := Option.bind_eq_some_iff.mp holds
    rcases Errand.next?_saved next with same | ⟨paste, found, rfl, new, read⟩
    · refine timely.saved strand item ?_
      exact (seen_of_point none Point.saved? stands).trans (same.symm.trans saved)
    · rw [new] at saved
      cases saved
      refine read.trans (timely.plain ?_)
      intro other
      by_cases own : other = strand
      · rw [own]
        exact seen_of_point none Point.shown? stands
      · exact gated.seen_alone Point.shown?_guarded stands rfl own
  · exact timely.saved other item
      ((taken.seen_others none Point.saved? (call_others own)).symm.trans holds)

theorem Timely.plain_call (timely : world.Timely content) (clear : world.Clear)
    (uncopied : world.Uncopied) (task : world.tasks strand = some ⟨operation, .calling errand⟩)
    (taken : world.Step (.call strand) after) (nothing : ∀ other, after.shown? other = none) :
    after.controller.desktop.current.content = content := by
  have current := Step.current_call task taken clear.write
  have stands := point?_of_task task
  have own := (Step.seen_call none Point.shown? task taken).symm.trans (nothing strand)
  have before : (Point.calling errand).shown? = none → ∀ other, world.shown? other = none := by
    intro hidden other
    by_cases same : other = strand
    · rw [same]
      exact (seen_of_point none Point.shown? stands).trans hidden
    · exact (taken.seen_others none Point.shown? (call_others same)).symm.trans (nothing other)
  cases errand with
  | keeping | looking | typing | saving =>
    rw [current]
    exact timely.plain (before rfl)
  | bringingBack item status =>
    rw [current]
    exact timely.returning strand operation item status task
  | copying item => exact absurd task (uncopied strand operation item)
  | placing paste saved =>
    simp only [Errand.next?, Desktop.write_of_sound _ clear.write] at own
    cases own
  | pressing paste saved =>
    dsimp only [Errand.next?] at own
    split at own <;> cases own
  | returning paste saved failure =>
    rw [current]
    exact timely.saved strand saved (seen_of_point none Point.saved? stands)

end Call

theorem Timely.step (timely : world.Timely content) (gated : world.Gated) (clear : world.Clear)
    (uncopied : world.Uncopied) (taken : world.Step choice after) (sheltered : choice.Sheltered)
    (timed : Moment.untimely ⟨world, choice⟩ = false) : after.Timely content := by
  have returning : ∀ strand operation item status,
      after.tasks strand = some ⟨operation, .calling (.bringingBack item status)⟩ →
        item.content = content := by
    intro strand operation item status task
    rcases taken.returning task with before | kept
    · exact timely.returning strand operation item status before
    · exact timely.kept item kept
  cases calls : world.errand? choice with
  | none =>
    have current := taken.current_still sheltered calls
    refine ⟨fun item keeps => timely.kept item (taken.kept_still calls keeps), returning, ?_, ?_⟩
    · intro strand item holds
      exact timely.saved strand item (taken.saved?_still calls strand ▸ holds)
    · intro nothing
      rw [current]
      exact timely.plain fun strand => taken.shown?_still calls strand ▸ nothing strand
  | some caller =>
    obtain ⟨strand, operation, errand⟩ := caller
    obtain ⟨rfl, task⟩ := errand?_eq_some calls
    exact ⟨timely.kept_call gated task taken timed, returning, timely.saved_call gated task taken,
      timely.plain_call clear uncopied task taken⟩

end World

theorem Run.timely {start world : World} {past : List Moment} (run : Run start past world)
    (fresh : start.Fresh) (clear : start.Clear)
    (sheltered : ∀ moment ∈ past, moment.choice.Sheltered)
    (timed : ∀ moment ∈ past, moment.untimely = false) :
    world.Timely start.controller.desktop.current.content := by
  induction run with
  | rest => exact fresh.timely
  | step run taken ih =>
    have earlier := fun moment member => sheltered moment (List.mem_cons_of_mem _ member)
    have before := fun moment member => timed moment (List.mem_cons_of_mem _ member)
    exact (ih earlier before).step (run.gated fresh.gated) (run.clear earlier clear)
      (run.uncopied fresh.toRested earlier) taken (sheltered _ List.mem_cons_self)
      (timed _ List.mem_cons_self)

/-- With nothing in hand, the clipboard shows what it showed first exactly if the latest item that
queue mode has brought back outside of pastes has that content, and always if queue mode has never
been switched on while the item of a paste was on the clipboard. -/
theorem idle_content_iff {start world : World} {past : List Moment} {content : Content}
    (fresh : start.Fresh) (shown : start.controller.desktop.current.content = content)
    (clear : start.Clear) (run : Run start past world)
    (sheltered : ∀ moment ∈ past, moment.choice.Sheltered) (idle : world.Idle) :
    (world.controller.desktop.current.content = content ↔
      ∀ item, (restorations past).head? = some item → item.content = content) ∧
    ((∀ moment ∈ past, moment.untimely = false) →
      world.controller.desktop.current.content = content) := by
  have unsaved : ∀ strand, world.saved? strand = none := fun strand =>
    World.seen_of_free none Point.saved? (idle strand)
  have hidden : ∀ strand, world.shown? strand = none := fun strand =>
    World.seen_of_free none Point.shown? (idle strand)
  have owing := (run.owing fresh.toRested sheltered clear).free unsaved
  rw [shown] at owing
  refine ⟨?_, fun timed => ((run.timely fresh clear sheltered timed).plain hidden).trans shown⟩
  rw [owing, owed]
  cases (restorations past).head? with
  | none => simp
  | some item => simp

theorem idle_content_after_late_restore :
    ((World.fresh {} (.text "U")).played (switching ++ pasteHalfway ++ switching ++ pasteToEnd)
      rfl).2.controller.desktop.current.content = .text "U" := by
  refine (idle_content_iff (World.fresh_fresh {} (.text "U")) rfl (World.fresh_clear {} _)
    (World.played_run _ _ rfl) (World.forall_played Choice.Sheltered ?_) ?_).2 ?_
  · simp [switching, pasteHalfway, pasteToEnd, Choice.Sheltered]
  · intro strand
    match strand with
    | 0 => rfl
    | 1 => rfl
    | _ + 2 => rfl
  · decide

/-- Queue mode keeps the text of the macro, and brings it back once the paste has long been over. -/
theorem idle_content_lost :
    ¬ ∀ (start world : World) (past : List Moment), start.Fresh → start.Clear →
      Run start past world → (∀ moment ∈ past, moment.choice.Sheltered) → world.Idle →
      world.controller.desktop.current.content = start.controller.desktop.current.content := by
  intro claim
  have same := claim _ _ _ (World.fresh_fresh {} (.text "U")) (World.fresh_clear {} _)
    (World.played_run _ (pasteHalfway ++ switching ++ pasteToEnd ++ switching) rfl)
    (World.forall_played Choice.Sheltered
      (by simp [switching, pasteHalfway, pasteToEnd, Choice.Sheltered]))
    (fun strand => match strand with
      | 0 => rfl
      | 1 => rfl
      | _ + 2 => rfl)
  have lost : ((World.fresh {} (.text "U")).played
      (pasteHalfway ++ switching ++ pasteToEnd ++ switching) rfl).2.controller.desktop.current.content =
        .text "T" := rfl
  rw [lost] at same
  exact absurd same (by decide)

end PasteQueue
