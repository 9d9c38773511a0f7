import PasteQueue.Proofs.Controller.Announcing
import PasteQueue.Proofs.Interleaving.Points

/-!
The books of the controller: the state of the queue, but for its ring, which tells of writes alone. What
an operation does to them, and to what has been announced, it does at its start, with a switch, or with
an update that has been read; a failure at its start, or of that reading, leaves both alone.
-/

namespace PasteQueue

open Clipboard (Item)

namespace Controller

def books (controller : Controller) : Queue.State :=
  { controller.state with echoes := .ofCapacity 0 }

/-- The books, and what has been announced. -/
def account (controller : Controller) : Queue.State × List Queue.Status :=
  (controller.books, controller.announcements)

theorem account_aside : Aside account where
  note controller notice quiet :=
    congrArg (Prod.mk controller.books) (congrArg Prod.fst (report_aside.note controller notice quiet))
  desktop _ _ := rfl
  watcher _ _ := rfl
  writeGate _ _ := rfl
  pasteGate _ _ := rfl
  recordEcho _ _ := rfl

theorem state_of_books {controller : Controller} {state : Queue.State}
    (same : controller.books = { state with echoes := .ofCapacity 0 }) :
    controller.state = { state with echoes := controller.state.echoes } := by
  obtain ⟨settings, order, mode, history, echoes⟩ := state
  cases kept : controller.state with
  | mk settings order mode history echoes =>
    rw [books, kept] at same
    cases same
    rfl

variable (controller : Controller) (strand : StrandId)

/-! ### At the start -/

theorem launch_account {operation : Operation} (kept : operation ≠ .pasteNext)
    (plain : operation.family ≠ .editing) :
    (controller.launch operation).2.account = controller.account := by
  cases operation with
  | toggle | update => rfl
  | pasteNext => exact absurd rfl kept
  | copyItem id =>
    dsimp only [launch]
    split <;> rfl
  | textMacro text delivery => cases delivery <;> rfl
  | remove | clear | toggleOrder | setOrder => exact absurd rfl plain

theorem launch_failed {operation : Operation} {error : Error}
    (failed : (controller.launch operation).1 = .made (.finished (.error error))) :
    (controller.launch operation).2.account = controller.account := by
  cases operation with
  | toggle | update | clear | toggleOrder => cases failed
  | pasteNext =>
    dsimp only [launch, pasteNext] at failed
    split at failed <;> cases failed
  | copyItem id => exact controller.launch_account nofun nofun
  | textMacro text delivery => exact controller.launch_account nofun (by cases delivery <;> nofun)
  | remove index =>
    dsimp only [launch, remove] at failed ⊢
    split at failed
    · rfl
    · cases failed
  | setOrder text =>
    dsimp only [launch, setOrder] at failed ⊢
    split at failed
    · rfl
    · cases failed

theorem launch_edits {operation : Operation} (edits : operation.family = .editing) :
    ∃ result, (controller.launch operation).1 = .made (.finished result) := by
  cases operation with
  | remove index =>
    dsimp only [launch, remove]
    split <;> exact ⟨_, rfl⟩
  | setOrder text =>
    dsimp only [launch, setOrder]
    split
    · exact ⟨_, rfl⟩
    · split <;> exact ⟨_, rfl⟩
  | clear | toggleOrder => exact ⟨_, rfl⟩
  | toggle | update | pasteNext | copyItem => cases edits
  | textMacro text delivery => cases delivery <;> cases edits

/-! ### Behind a barrier and a call -/

theorem switch_books {controller : Controller} (on : controller.state.enabled = true) :
    (switch controller).2.books = controller.books.disable ∧
      ((∃ answer, (switch controller).1 = .made (.finished (.ok answer))) ∨
        ∃ item status, (switch controller).1 = .calling (.bringingBack item status)) := by
  rw [switch, if_pos on]
  dsimp only [turnOff]
  cases controller.state.snapshot with
  | none => exact ⟨congrArg Prod.fst (account_aside.leaveWriteGate _), .inl ⟨_, rfl⟩⟩
  | some item => exact ⟨rfl, .inr ⟨_, _, rfl⟩⟩

theorem bringBack_ends (item : Item) (status : Queue.Status) :
    ∃ result, (bringBack strand item status controller).1 = .finished result := by
  unfold bringBack
  split <;> exact ⟨_, rfl⟩

theorem look_ends :
    ((look strand controller).2.account = controller.account ∧
        ∃ error, (look strand controller).1 = .finished (.error error)) ∨
      ∃ answer, (look strand controller).1 = .finished (.ok answer) := by
  have read := account_aside.read controller strand
  unfold look
  split <;> rename_i reading <;> rw [reading] at read
  · exact .inl ⟨((account_aside.leaveWriteGate _).trans (account_aside.logFault _ _ _)).trans read,
      _, rfl⟩
  · exact .inr ⟨_, rfl⟩

end Controller

end PasteQueue
