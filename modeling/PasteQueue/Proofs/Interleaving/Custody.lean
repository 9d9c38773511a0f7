import PasteQueue.Proofs.Interleaving.Past

/-!
What a paste under way has in its custody: the content that it has saved and not yet given back, and
the clipboard while its own item is on it. At most one strand has anything, the holder of the paste
gate.
-/

namespace PasteQueue

open Clipboard (Content Item)
open Controller (Approach Errand Operation Paste Stage)
open Gate (Role)

/-- The paste whose item has been written and not yet been replaced by what was saved. -/
def Point.shown? : Point → Option Paste
  | .arriving stage | .waiting stage =>
    match stage with
    | .settling paste _ | .lingering paste _ | .returning paste _ _ => some paste
    | .toggling | .checking | .copying _ | .saving _ | .placing .. => none
  | .calling errand =>
    match errand with
    | .pressing paste _ | .returning paste _ _ => some paste
    | .keeping | .bringingBack .. | .looking | .copying _ | .saving _ | .placing .. | .typing _ => none

/-- Only strands inside the paste gate are seen. -/
def Point.Guarded {View : Type} (view : Point → Option View) : Prop :=
  ∀ point shown, view point = some shown → point.pasteRole = .inside

theorem Point.saved?_guarded : Guarded saved? := fun _ _ => pasteRole_of_saved

theorem Point.shown?_guarded : Guarded shown? := by
  intro point paste shown
  cases point with
  | arriving stage => cases stage <;> first | rfl | cases shown
  | waiting stage => cases stage <;> first | rfl | cases shown
  | calling errand => cases errand <;> first | rfl | cases shown

namespace World

/-- What a strand has saved and not yet given back. -/
def saved? (world : World) : StrandId → Option Item := world.seen none Point.saved?

def shown? (world : World) : StrandId → Option Paste := world.seen none Point.shown?

/-- What has been saved by the paste under way. -/
def inHand? (world : World) : Option Item := world.controller.pasteGate.holder.bind world.saved?

/-- Whether the paste under way has its item on the clipboard. -/
def displaying (world : World) : Bool :=
  (world.controller.pasteGate.holder.bind world.shown?).isSome

variable {world after : World} {choice : Choice} {strand : StrandId}

/-! ### One paste at a time -/

theorem Gated.holds (gated : world.Gated) {point : Point} (stands : world.point? strand = some point)
    (inside : point.pasteRole = .inside) : world.controller.pasteGate.holder = some strand :=
  gated.paste.inside ((seen_of_point Role.outside Point.pasteRole stands).trans inside)

theorem Gated.alone (gated : world.Gated) {other : StrandId} {first second : Point}
    (stands : world.point? strand = some first) (inside : first.pasteRole = .inside)
    (follows : world.point? other = some second) (within : second.pasteRole = .inside) :
    strand = other :=
  gated.paste.unique ((seen_of_point Role.outside Point.pasteRole stands).trans inside)
    ((seen_of_point Role.outside Point.pasteRole follows).trans within)

section Guarded

variable {View : Type} {view : Point → Option View} (guarded : Point.Guarded view)
  (gated : world.Gated)

include guarded gated

theorem Gated.seen_alone {point : Point} (stands : world.point? strand = some point)
    (inside : point.pasteRole = .inside) {other : StrandId} (different : other ≠ strand) :
    world.seen none view other = none := by
  cases sees : world.seen none view other with
  | none => rfl
  | some shown =>
    obtain ⟨second, follows, shows⟩ := point_of_seen sees
    exact absurd (gated.alone stands inside follows (guarded second shown shows)).symm different

theorem Gated.holder_eq_none :
    world.controller.pasteGate.holder.bind (world.seen none view) = none ↔
      ∀ strand, world.seen none view strand = none := by
  constructor
  · intro nothing strand
    cases sees : world.seen none view strand with
    | none => rfl
    | some shown =>
      obtain ⟨point, stands, shows⟩ := point_of_seen sees
      rw [gated.holds stands (guarded point shown shows), Option.bind_some, sees] at nothing
      cases nothing
  · intro nothing
    cases world.controller.pasteGate.holder with
    | none => rfl
    | some holder => exact nothing holder

end Guarded

theorem Gated.inHand?_eq_none (gated : world.Gated) :
    world.inHand? = none ↔ ∀ strand, world.saved? strand = none :=
  gated.holder_eq_none Point.saved?_guarded

theorem Gated.displaying_eq_false (gated : world.Gated) :
    world.displaying = false ↔ ∀ strand, world.shown? strand = none := by
  rw [displaying, Option.isSome_eq_false_iff, Option.isNone_iff_eq_none]
  exact gated.holder_eq_none Point.shown?_guarded

/-! ### Steps -/

section Seen

variable {View : Type} (rest : View) (view : Point → View)

theorem Step.seen_others (taken : world.Step choice after) (other : choice.strand? ≠ some strand) :
    after.seen rest view strand = world.seen rest view strand := by
  rw [seen, seen, point?, point?, taken.others other]

theorem put_point? (operation : Operation) (approach : Approach) :
    (world.put strand operation approach).point? strand = approach.1.point? := by
  rw [point?, put_tasks]
  cases approach.1.point? <;> rfl

/-- A view that no barrier changes stays as it is but for starts and calls. -/
theorem Step.seen_onward (tried : ∀ stage, view (.waiting stage) = view (.arriving stage))
    (passed : ∀ (controller : Controller) stage,
      (controller.approach stage).1.point?.elim rest view = view (.waiting stage))
    (taken : world.Step choice after) (still : world.errand? choice = none)
    (goesOn : ∀ operation, choice ≠ .start strand operation) :
    after.seen rest view strand = world.seen rest view strand := by
  by_cases own : choice.strand? = some strand
  · cases taken with
    | start free =>
      cases own
      exact absurd rfl (goesOn _)
    | request task =>
      cases own
      rw [seen_of_task rest view task, seen_of_task rest view (move_tasks ..)]
      exact tried _
    | resume task opened =>
      cases own
      rw [seen_of_task rest view task, seen, put_point?]
      exact passed _ _
    | call task =>
      rw [errand?_call task] at still
      cases still
    | external | fail | pass => cases own
  · exact taken.seen_others rest view own

theorem Step.point?_call {operation : Operation} {errand : Errand}
    (task : world.tasks strand = some ⟨operation, .calling errand⟩)
    (taken : world.Step (.call strand) after) :
    after.point? strand = (errand.next? world.controller.desktop).map Point.arriving := by
  cases taken with
  | call same =>
    rw [task] at same
    cases same
    have completed := Controller.complete_completed world.controller strand errand
    rw [put_point?, Controller.approach_point?, completed.stage]

theorem Step.seen_call {operation : Operation} {errand : Errand}
    (task : world.tasks strand = some ⟨operation, .calling errand⟩)
    (taken : world.Step (.call strand) after) :
    after.seen rest view strand =
      (errand.next? world.controller.desktop).elim rest fun stage => view (.arriving stage) := by
  rw [seen, Step.point?_call task taken]
  cases errand.next? world.controller.desktop <;> rfl

end Seen

/-- A view of what lies behind the paste gate stays as it is but for calls. -/
theorem Step.seen_still {View : Type} {view : Point → Option View} (guarded : Point.Guarded view)
    (tried : ∀ stage, view (.waiting stage) = view (.arriving stage))
    (passed : ∀ (controller : Controller) stage,
      (controller.approach stage).1.point?.elim none view = view (.waiting stage))
    (taken : world.Step choice after) (still : world.errand? choice = none) (strand : StrandId) :
    after.seen none view strand = world.seen none view strand := by
  by_cases begins : ∃ operation, choice = .start strand operation
  · obtain ⟨operation, rfl⟩ := begins
    cases taken with
    | start free =>
      have launched := Controller.launch_launched world.controller operation
      rw [seen_of_free none view free, seen, put_point?]
      cases came : (world.controller.launch operation).1.point? with
      | none => rfl
      | some point =>
        cases shown : view point with
        | none => exact shown
        | some paste =>
          have outside := (launched.outside point came).2
          rw [guarded point paste shown] at outside
          cases outside
  · exact taken.seen_onward none view tried passed still fun operation same =>
      begins ⟨operation, same⟩

theorem Step.saved?_still (taken : world.Step choice after) (still : world.errand? choice = none)
    (strand : StrandId) : after.saved? strand = world.saved? strand := by
  refine taken.seen_still Point.saved?_guarded (fun _ => rfl) ?_ still strand
  intro controller stage
  have saved := (Controller.approach_approached controller stage).saved
  cases came : (controller.approach stage).1.point? <;> rw [came] at saved <;> exact saved

theorem Step.shown?_still (taken : world.Step choice after) (still : world.errand? choice = none)
    (strand : StrandId) : after.shown? strand = world.shown? strand := by
  have plain : ∀ errand : Errand, errand.paste? = none → Point.shown? (.calling errand) = none := by
    intro errand none
    cases errand <;> first | rfl | cases none
  refine taken.seen_still Point.shown?_guarded (fun _ => rfl) ?_ still strand
  intro controller stage
  have away := Controller.switch_check_view Point.shown? none plain controller
  cases stage with
  | toggling => exact away.1
  | checking => exact away.2
  | copying | saving | placing | settling | lingering | returning => rfl

theorem errand?_eq_some {operation : Operation} {errand : Errand}
    (calls : world.errand? choice = some (strand, operation, errand)) :
    choice = .call strand ∧ world.tasks strand = some ⟨operation, .calling errand⟩ := by
  cases choice with
  | call caller =>
    dsimp only [errand?] at calls
    split at calls
    · rename_i task
      cases calls
      exact ⟨rfl, task⟩
    · cases calls
  | start | request | resume | external | fail | pass => cases calls

theorem call_others {strand other : StrandId} (different : other ≠ strand) :
    Choice.strand? (.call strand) ≠ some other :=
  fun same => different (Option.some.inj same).symm

/-- With writes that do not fail, the clipboard shows what the call was to write. -/
theorem Step.current_call {operation : Operation} {errand : Errand}
    (task : world.tasks strand = some ⟨operation, .calling errand⟩)
    (taken : world.Step (.call strand) after)
    (sound : world.controller.desktop.scripts.Sound .write) :
    after.controller.desktop.current =
      errand.item?.getD world.controller.desktop.current := by
  have traced := taken.traced
  have written := written?_call task
  rw [Desktop.written?_of_sound sound] at written
  cases writes : errand.item? with
  | none =>
    rw [writes] at written
    exact (traced.kept written (by intro content same; cases same)).1
  | some item =>
    rw [writes] at written
    exact (traced.written _ _ _ written).1

end World

end PasteQueue
