import PasteQueue.Proofs.Interleaving.Gates

/-!
What the steps of a world do to the clipboard and to the ring. A step changes the clipboard by a
write that succeeds, whose number is recorded with it, or by somebody else's copy, which is not
recorded; no other step changes either.
-/

namespace PasteQueue

open Clipboard (Content Item)
open Controller (Errand Operation)

namespace World

/-- What is written with a choice, with the strand and the operation that write it. -/
def written? (world : World) (choice : Choice) : Option (StrandId × Operation × Item) :=
  (world.errand? choice).bind fun (strand, operation, errand) =>
    (world.controller.desktop.written? errand).map fun item => (strand, operation, item)

/-- The trace that a choice leaves on the desktop. -/
structure Traced (world : World) (choice : Choice) (after : World) : Prop where
  settings : after.controller.settings = world.controller.settings
  held : after.controller.desktop.heldSequence = world.controller.desktop.heldSequence
  written : ∀ strand operation item, world.written? choice = some (strand, operation, item) →
    after.controller.desktop.current = item ∧
    after.controller.desktop.sequence = world.controller.desktop.sequence + 1 ∧
    after.controller.state.echoes =
      world.controller.state.echoes.record after.controller.desktop.seenSequence
  copied : ∀ content, choice = .external content →
    after.controller.desktop.current.content = content ∧
    after.controller.desktop.sequence = world.controller.desktop.sequence + 1 ∧
    after.controller.state.echoes = world.controller.state.echoes
  kept : world.written? choice = none → (∀ content, choice ≠ .external content) →
    after.controller.desktop.current = world.controller.desktop.current ∧
    after.controller.desktop.sequence = world.controller.desktop.sequence ∧
    after.controller.state.echoes = world.controller.state.echoes

variable {world after : World} {choice : Choice} {strand : StrandId} {operation : Operation}

theorem errand?_call {errand : Errand} (task : world.tasks strand = some ⟨operation, .calling errand⟩) :
    world.errand? (.call strand) = some (strand, operation, errand) := by
  simp [errand?, task]

theorem written?_call {errand : Errand}
    (task : world.tasks strand = some ⟨operation, .calling errand⟩) :
    world.written? (.call strand) =
      (world.controller.desktop.written? errand).map fun item => (strand, operation, item) := by
  simp [written?, errand?_call task]

theorem Traced.of_still (nothing : world.errand? choice = none)
    (alone : ∀ content, choice ≠ .external content)
    (settings : after.controller.settings = world.controller.settings)
    (desktop : world.controller.desktop.Unchanged after.controller.desktop)
    (echoes : after.controller.state.echoes = world.controller.state.echoes) :
    Traced world choice after where
  settings := settings
  held := desktop.heldSequence
  written _ _ _ came := by simp [written?, nothing] at came
  copied content same := absurd same (alone content)
  kept _ _ := ⟨desktop.current, desktop.sequence, echoes⟩

theorem Step.traced (taken : world.Step choice after) : Traced world choice after := by
  cases taken with
  | start free =>
    rename_i strand operation
    have launched := Controller.launch_launched world.controller operation
    exact .of_still rfl (by intro content same; cases same) launched.settings launched.desktop
      launched.echoes
  | request task =>
    rename_i strand operation stage
    obtain ⟨settings, state, desktop, -, -⟩ := Controller.enter_frame world.controller strand stage
    exact .of_still rfl (by intro content same; cases same) settings
      (desktop.symm ▸ Desktop.Unchanged.refl _) (congrArg Queue.State.echoes state)
  | resume task opened =>
    rename_i strand operation stage
    have approached := Controller.approach_approached world.controller stage
    exact .of_still rfl (by intro content same; cases same) approached.settings
      (approached.desktop.symm ▸ Desktop.Unchanged.refl _) approached.echoes
  | call task =>
    rename_i strand operation errand
    have completed := Controller.complete_completed world.controller strand errand
    have desktop : (world.put strand operation
        (world.controller.complete strand errand).approach).controller.desktop =
          world.controller.desktop.after errand := completed.desktop
    have echoes := completed.echoes
    refine ⟨completed.settings, ?_, ?_, ?_, ?_⟩
    · rw [desktop]
      exact Desktop.after_heldSequence
    · intro writer writing item came
      rw [written?_call task] at came
      obtain ⟨_, written, same⟩ := Option.map_eq_some_iff.mp came
      cases same
      obtain ⟨current, sequence, -⟩ := Desktop.after_changed written
      rw [desktop]
      refine ⟨current, sequence, ?_⟩
      rw [written] at echoes
      exact echoes
    · intro content same
      cases same
    · intro kept _
      rw [written?_call task, Option.map_eq_none_iff] at kept
      have unchanged := Desktop.after_unchanged kept
      rw [desktop]
      refine ⟨unchanged.current, unchanged.sequence, ?_⟩
      rw [kept] at echoes
      exact echoes
  | external content =>
    obtain ⟨settings, state, desktop, -, -⟩ := Controller.copy_frame world.controller content
    refine ⟨settings, (congrArg Desktop.heldSequence desktop).trans rfl, ?_, ?_, ?_⟩
    · intro writer writing item came
      cases came
    · intro other same
      cases same
      exact ⟨congrArg (fun desktop => desktop.current.content) desktop,
        congrArg Desktop.sequence desktop, congrArg Queue.State.echoes state⟩
    · intro _ alone
      exact absurd rfl (alone content)
  | fail call script =>
    exact .of_still rfl (by intro content same; cases same) rfl ⟨rfl, rfl, rfl⟩ rfl
  | pass millis =>
    exact .of_still rfl (by intro content same; cases same) rfl ⟨rfl, rfl, rfl⟩ rfl

/-- Scripts without failures stay so, unless a choice brings one. -/
theorem Step.sound (taken : world.Step choice after) {call : Desktop.Call}
    (sound : world.controller.desktop.scripts.Sound call)
    (clear : ∀ script, choice = .fail call script → ∀ entry ∈ script, entry = none) :
    after.controller.desktop.scripts.Sound call := by
  cases taken with
  | start free =>
    rename_i strand operation
    have launched := Controller.launch_launched world.controller operation
    exact launched.scripts.symm ▸ sound
  | request task =>
    rename_i strand operation stage
    obtain ⟨-, -, desktop, -, -⟩ := Controller.enter_frame world.controller strand stage
    exact (congrArg Desktop.scripts desktop).symm ▸ sound
  | resume task opened =>
    rename_i strand operation stage
    have approached := Controller.approach_approached world.controller stage
    exact (congrArg Desktop.scripts approached.desktop).symm ▸ sound
  | call task =>
    rename_i strand operation errand
    have completed := Controller.complete_completed world.controller strand errand
    have same : (world.controller.complete strand errand).2.desktop.scripts =
        (world.controller.desktop.after errand).scripts := congrArg Desktop.scripts completed.desktop
    exact same.symm ▸ Desktop.after_sound sound
  | external content =>
    obtain ⟨-, -, desktop, -, -⟩ := Controller.copy_frame world.controller content
    exact (congrArg Desktop.scripts desktop).symm ▸ sound
  | fail other script =>
    exact sound.append fun same => clear script (by rw [same])
  | pass millis => exact sound

end World

/-! ### The changes of a run -/

/-- Who changes the clipboard. -/
inductive Author
  | program | other
  deriving DecidableEq, Repr

namespace Moment

def written? (moment : Moment) : Option (StrandId × Operation × Item) :=
  moment.world.written? moment.choice

def author? (moment : Moment) : Option Author :=
  match moment.choice with
  | .external _ => some .other
  | _ => moment.written?.map fun _ => .program

theorem change_cases (moment : Moment) :
    (∃ content, moment.choice = .external content ∧ moment.author? = some .other) ∨
    (∃ strand operation item, moment.written? = some (strand, operation, item) ∧
      moment.author? = some .program) ∨
    (moment.written? = none ∧ (∀ content, moment.choice ≠ .external content) ∧
      moment.author? = none) := by
  by_cases outside : ∃ content, moment.choice = .external content
  · obtain ⟨content, copied⟩ := outside
    exact .inl ⟨content, copied, by simp [author?, copied]⟩
  · have own : ∀ content, moment.choice ≠ .external content := fun content copied =>
      outside ⟨content, copied⟩
    have author : moment.author? = moment.written?.map fun _ => .program := by
      unfold author?
      split
      · rename_i content copied
        exact absurd copied (own content)
      · rfl
    cases written : moment.written? with
    | none => exact .inr (.inr ⟨rfl, own, by rw [author, written]; rfl⟩)
    | some writing =>
      obtain ⟨strand, operation, item⟩ := writing
      exact .inr (.inl ⟨strand, operation, item, rfl, by rw [author, written]; rfl⟩)

end Moment

/-- Who has changed the clipboard, the latest change first. -/
def changes (past : List Moment) : List Author := past.filterMap Moment.author?

/-- What has been written, the latest write first. -/
def writes (past : List Moment) : List (StrandId × Operation × Item) :=
  past.filterMap Moment.written?

end PasteQueue
