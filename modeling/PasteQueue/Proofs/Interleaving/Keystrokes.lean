import PasteQueue.Proofs.Interleaving.Custody

/-!
What is on the clipboard when paste is pressed. No other paste can have written since, but the paste
gate does not keep away who brings back what queue mode has kept, nor who copies from the history.
-/

namespace PasteQueue

open Clipboard (Content Item)
open Controller (Approach Errand Operation Paste Stage)

/-- The paste whose item has been written and that has still to be pressed. -/
def Point.unpressed? : Point → Option Paste
  | .arriving stage | .waiting stage =>
    match stage with
    | .settling paste _ => some paste
    | .toggling | .checking | .copying _ | .saving _ | .placing .. | .lingering .. | .returning .. =>
      none
  | .calling errand =>
    match errand with
    | .pressing paste _ => some paste
    | .keeping | .bringingBack .. | .looking | .copying _ | .saving _ | .placing .. | .returning ..
    | .typing _ => none

theorem Point.unpressed?_guarded : Guarded unpressed? := by
  intro point paste unpressed
  cases point with
  | arriving stage => cases stage <;> first | rfl | cases unpressed
  | waiting stage => cases stage <;> first | rfl | cases unpressed
  | calling errand => cases errand <;> first | rfl | cases unpressed

namespace World

def unpressed? (world : World) : StrandId → Option Paste := world.seen none Point.unpressed?

variable {world after : World} {choice : Choice} {strand : StrandId}

theorem Step.unpressed?_still (taken : world.Step choice after)
    (still : world.errand? choice = none) (strand : StrandId) :
    after.unpressed? strand = world.unpressed? strand := by
  have plain : ∀ errand : Errand, errand.paste? = none →
      Point.unpressed? (.calling errand) = none := by
    intro errand none
    cases errand <;> first | rfl | cases none
  refine taken.seen_still Point.unpressed?_guarded (fun _ => rfl) ?_ still strand
  intro controller stage
  have away := Controller.switch_check_view Point.unpressed? none plain controller
  cases stage with
  | toggling => exact away.1
  | checking => exact away.2
  | copying | saving | placing | settling | lingering | returning => rfl

/-- The clipboard shows the latest write; behind the write of a paste that has still to be pressed
come only writes of operations that stay clear of the paste gate. -/
structure Displayed (past : List Moment) (world : World) : Prop where
  latest : ∀ writer writing item, (writes past).head? = some (writer, writing, item) →
    world.controller.desktop.current = item
  unpressed : ∀ strand paste, world.unpressed? strand = some paste →
    ∃ writer writing item, (writes past).head? = some (writer, writing, item) ∧
      (writer = strand → item = paste.item) ∧
      (writer ≠ strand → writing = .toggle ∨ ∃ id, writing = .copyItem id)

variable {past : List Moment}

theorem Displayed.of_kept (displayed : Displayed past world)
    (written : Moment.written? ⟨world, choice⟩ = none)
    (current : after.controller.desktop.current = world.controller.desktop.current)
    (unpressed : ∀ strand paste, after.unpressed? strand = some paste →
      world.unpressed? strand = some paste) :
    Displayed (⟨world, choice⟩ :: past) after := by
  have same : writes (⟨world, choice⟩ :: past) = writes past := List.filterMap_cons_none written
  constructor
  · intro writer writing item head
    rw [current]
    exact displayed.latest writer writing item (same ▸ head)
  · intro strand paste awaits
    rw [same]
    exact displayed.unpressed strand paste (unpressed strand paste awaits)

theorem Gated.writing_outside (gated : world.Gated) {operation : Operation} {errand : Errand}
    {item : Item} (task : world.tasks strand = some ⟨operation, .calling errand⟩)
    (writes : errand.item? = some item) (outside : errand.inPasteGate = false) :
    operation = .toggle ∨ ∃ id, operation = .copyItem id := by
  have family := gated.family strand _ task
  cases errand with
  | bringingBack | copying =>
    cases operation with
    | toggle => exact .inl rfl
    | copyItem id => exact .inr ⟨id, rfl⟩
    | textMacro text delivery => cases delivery <;> cases family
    | update | pasteNext | remove | clear | toggleOrder | setOrder => cases family
  | placing | returning => cases outside
  | keeping | looking | saving | pressing | typing => cases writes

/-- Only behind the write of its item has a paste to be pressed. -/
theorem Step.placed {operation : Operation} {errand : Errand} {paste : Paste}
    (task : world.tasks strand = some ⟨operation, .calling errand⟩)
    (taken : world.Step (.call strand) after) (awaits : after.unpressed? strand = some paste) :
    world.controller.desktop.written? errand = some paste.item := by
  have own := (Step.seen_call none Point.unpressed? task taken).symm.trans awaits
  cases errand with
  | saving =>
    dsimp only [Errand.next?] at own
    split at own <;> cases own
  | placing placed saved =>
    dsimp only [Errand.next?] at own
    split at own
    · rename_i written
      cases own
      exact Desktop.written?_eq_some.mpr ⟨rfl, written⟩
    · cases own
  | pressing =>
    dsimp only [Errand.next?] at own
    split at own <;> cases own
  | keeping | bringingBack | looking | copying | returning | typing => cases own

theorem Displayed.call (displayed : Displayed past world) (gated : world.Gated)
    {operation : Operation} {errand : Errand}
    (task : world.tasks strand = some ⟨operation, .calling errand⟩)
    (taken : world.Step (.call strand) after) :
    Displayed (⟨world, .call strand⟩ :: past) after := by
  have traced := taken.traced
  have others : ∀ other, other ≠ strand → after.unpressed? other = world.unpressed? other :=
    fun other different => taken.seen_others none Point.unpressed? (call_others different)
  cases written : world.controller.desktop.written? errand with
  | none =>
    have nothing : Moment.written? ⟨world, .call strand⟩ = none := by
      rw [Moment.written?, written?_call task, written]
      rfl
    refine displayed.of_kept nothing
      (traced.kept nothing (by intro content same; cases same)).1 ?_
    intro other paste awaits
    by_cases own : other = strand
    · rw [own] at awaits
      rw [Step.placed task taken awaits] at written
      cases written
    · exact (others other own).symm.trans awaits
  | some item =>
    have something : Moment.written? ⟨world, .call strand⟩ = some (strand, operation, item) := by
      rw [Moment.written?, written?_call task, written]
      rfl
    have head : (writes (⟨world, .call strand⟩ :: past)).head? = some (strand, operation, item) := by
      rw [writes, List.filterMap_cons_some something]
      rfl
    constructor
    · intro writer writing other same
      rw [head] at same
      cases same
      exact (traced.written _ _ _ something).1
    · intro other paste awaits
      refine ⟨strand, operation, item, head, ?_, ?_⟩
      · intro own
        rw [← own] at awaits
        have placed := Step.placed task taken awaits
        rw [written] at placed
        exact Option.some.inj placed
      · intro different
        have writes := (Desktop.written?_eq_some.mp written).1
        refine gated.writing_outside task writes ?_
        -- The paste that waits to be pressed holds the paste gate, so the writer does not.
        cases inside : errand.inPasteGate with
        | false => rfl
        | true =>
          rw [others other fun same => different same.symm] at awaits
          have role : (Point.calling errand).pasteRole = .inside := by
            simp [Point.pasteRole, inside]
          have nothing := gated.seen_alone Point.unpressed?_guarded (point?_of_task task) role
            fun same => different same.symm
          cases awaits.symm.trans nothing

theorem Displayed.step (displayed : Displayed past world) (gated : world.Gated)
    (taken : world.Step choice after) (alone : ∀ content, choice ≠ .external content) :
    Displayed (⟨world, choice⟩ :: past) after := by
  cases calls : world.errand? choice with
  | none =>
    have nothing : Moment.written? ⟨world, choice⟩ = none := by
      rw [Moment.written?, written?, calls]
      rfl
    refine displayed.of_kept nothing (taken.traced.kept nothing alone).1 ?_
    intro strand paste awaits
    exact (taken.unpressed?_still calls strand).symm.trans awaits
  | some caller =>
    obtain ⟨strand, operation, errand⟩ := caller
    obtain ⟨rfl, task⟩ := errand?_eq_some calls
    exact displayed.call gated task taken

end World

theorem Run.displayed {start world : World} {past : List Moment} (run : Run start past world)
    (rested : start.Rested)
    (alone : ∀ moment ∈ past, ∀ content, moment.choice ≠ .external content) :
    world.Displayed past := by
  induction run with
  | rest =>
    constructor
    · intro writer writing item none
      cases none
    · intro strand paste awaits
      cases awaits.symm.trans (World.seen_of_free none Point.unpressed? (rested.idle strand))
  | step run taken ih =>
    have earlier := ih fun moment member => alone moment (List.mem_cons_of_mem _ member)
    exact earlier.step (run.gated rested.gated) taken (alone _ List.mem_cons_self)

/-- When paste is pressed, the clipboard shows what the paste has been started for exactly if nobody
else has written something with another content behind its write. Only queue mode that is switched
off and a copy from the history can have done so. -/
theorem pressed_content_iff {start world : World} {past : List Moment} (run : Run start past world)
    (rested : start.Rested)
    (alone : ∀ moment ∈ past, ∀ content, moment.choice ≠ .external content) (strand : StrandId)
    {operation : Operation} {paste : Paste} {saved : Item}
    (task : world.tasks strand = some ⟨operation, .calling (.pressing paste saved)⟩) :
    chosen? strand past = some paste.content ∧
    (world.controller.desktop.current.content = paste.content ↔
      ∀ writer writing item, (writes past).head? = some (writer, writing, item) →
        writer ≠ strand → item.content = paste.content) ∧
    (∀ writer writing item, (writes past).head? = some (writer, writing, item) →
      writer ≠ strand → writing = .toggle ∨ ∃ id, writing = .copyItem id) := by
  have displayed := run.displayed rested alone
  have awaits : world.unpressed? strand = some paste :=
    World.seen_of_task none Point.unpressed? task
  obtain ⟨writer, writing, item, head, own, intrudes⟩ := displayed.unpressed strand paste awaits
  have current := displayed.latest writer writing item head
  refine ⟨run.chosen rested.idle task rfl, ⟨?_, ?_⟩, ?_⟩
  · intro shown other wrote found same different
    rw [head] at same
    cases same
    rw [← current]
    exact shown
  · intro harmless
    rw [current]
    by_cases same : writer = strand
    · rw [own same]
      rfl
    · exact harmless writer writing item head same
  · intro other wrote found same different
    rw [head] at same
    cases same
    exact intrudes different

theorem pressed_undisturbed :
    let played := (World.fresh {} (.text "U")).played (pasteHalfway ++ [.request 0, .resume 0]) rfl
    chosen? 0 played.1 = some (.text "T") ∧
      played.2.controller.desktop.current.content = .text "T" := by
  have claim := pressed_content_iff
    (World.played_run (World.fresh {} (.text "U")) (pasteHalfway ++ [.request 0, .resume 0]) rfl)
    (World.fresh_fresh {} _).toRested
    (World.forall_played (fun choice => ∀ content, choice ≠ .external content)
      (by simp [pasteHalfway])) 0 rfl
  refine ⟨claim.1, claim.2.1.mpr ?_⟩
  intro writer writing item latest different
  cases latest
  exact absurd rfl different

/-- Queue mode that is switched off in time has the former clipboard pasted. -/
theorem pressed_content_replaced :
    ¬ ∀ (start world : World) (past : List Moment) (strand : StrandId) (operation : Operation)
      (paste : Paste) (saved : Item), Run start past world → start.Rested →
      (∀ moment ∈ past, ∀ content, moment.choice ≠ .external content) →
      world.tasks strand = some ⟨operation, .calling (.pressing paste saved)⟩ →
      world.controller.desktop.current.content = paste.content := by
  intro claim
  have same := claim _ _ _ 0 _ _ _
    (World.played_run (World.fresh {} (.text "U"))
      (switching ++ pasteHalfway ++ switching ++ [.request 0, .resume 0]) rfl)
    (World.fresh_fresh {} _).toRested
    (World.forall_played (fun choice => ∀ content, choice ≠ .external content)
      (by simp [switching, pasteHalfway])) rfl
  exact absurd same (by decide)

end PasteQueue
