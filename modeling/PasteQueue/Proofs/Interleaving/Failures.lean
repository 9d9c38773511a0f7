import PasteQueue.Proofs.Interleaving.Pasting
import PasteQueue.Proofs.Interleaving.Switching

/-!
What failures leave alone. Whatever calls meet with, an operation that has failed with no other beside it
has changed nothing, but for the item that a paste has taken and the queue mode that a switch has turned
off.
-/

namespace PasteQueue

open Controller (Answer Error Operation Result Stage)

/-! ### Updates -/

/-- How far an update has come: it changes nothing until it answers. -/
inductive UpdateCourse (strand : StrandId) (before : Queue.State × List Queue.Status) :
    Option Point → List (StrandId × Operation × Result) → Queue.State × List Queue.Status → Prop
  | ahead {point : Point} (updates : point.family = .updating) :
      UpdateCourse strand before (some point) [] before
  | failed (error : Error) : UpdateCourse strand before none [(strand, .update, .error error)] before
  | answered (answer : Answer) (account : Queue.State × List Queue.Status) :
      UpdateCourse strand before none [(strand, .update, .ok answer)] account

section Update

variable {strand : StrandId} {before : Queue.State × List Queue.Status}

theorem UpdateCourse.resume (controller : Controller) (same : controller.account = before) :
    UpdateCourse strand before (controller.approach .checking).1.point?
      ((controller.approach .checking).1.returned strand .update)
      (controller.approach .checking).2.account := by
  dsimp only [Controller.approach, Controller.check]
  split
  · exact .answered _ _
  · subst same
    exact .ahead rfl

theorem UpdateCourse.call (controller : Controller) (same : controller.account = before) :
    UpdateCourse strand before none
      ((controller.complete strand .looking).approach.1.returned strand .update)
      (controller.complete strand .looking).2.account := by
  dsimp only [Controller.complete, Controller.Step.approach]
  rcases controller.look_ends strand with ⟨unchanged, error, failed⟩ | ⟨answer, answered⟩
  · rw [failed, unchanged, same]
    exact .failed error
  · rw [answered]
    exact .answered answer _

theorem Solo.updateCourse {strand : StrandId} {before world : World} {past : List Moment}
    (solo : Solo strand .update before past world) :
    UpdateCourse strand before.controller.account (world.point? strand) (returns past)
      world.controller.account := by
  refine solo.invariant (motive := fun point? _ returned account =>
    UpdateCourse strand before.controller.account point? returned account) ?_ ?_ ?_ ?_
  · exact .ahead rfl
  · intro stage calls account course
    cases course with
    | ahead updates => exact .ahead updates
  · intro controller stage calls course
    generalize same : controller.account = account at course
    cases course with
    | ahead updates =>
      cases stage with
      | checking => exact .resume controller same
      | toggling | copying | saving | placing | settling | lingering | returning => cases updates
  · intro controller errand calls course
    generalize same : controller.account = account at course
    cases course with
    | ahead updates =>
      cases errand with
      | looking => exact .call controller same
      | keeping | bringingBack | copying | saving | placing | pressing | returning | typing =>
        cases updates

end Update

/-! ### Switches -/

/-- How far a switch has come, with the books: it fails only where it has turned queue mode off. -/
inductive ToggleCourse (strand : StrandId) (before : Queue.State) :
    Option Point → List (StrandId × Operation × Result) → Queue.State → Prop
  | ahead {point : Point} (waits : point.unswitched = true) :
      ToggleCourse strand before (some point) [] before
  | off (on : before.enabled = true) (item : Clipboard.Item) (status : Queue.Status) :
      ToggleCourse strand before (some (.calling (.bringingBack item status))) [] before.disable
  | failed (on : before.enabled = true) (error : Error) :
      ToggleCourse strand before none [(strand, .toggle, .error error)] before.disable
  | answered (answer : Answer) (books : Queue.State) :
      ToggleCourse strand before none [(strand, .toggle, .ok answer)] books

section Toggle

variable {strand : StrandId} {before : Queue.State}

theorem ToggleCourse.resume (controller : Controller) (same : controller.books = before) :
    ToggleCourse strand before (controller.approach .toggling).1.point?
      ((controller.approach .toggling).1.returned strand .toggle)
      (controller.approach .toggling).2.books := by
  subst same
  dsimp only [Controller.approach]
  cases mode : controller.state.enabled with
  | false =>
    rw [Controller.switch_of_off mode]
    exact .ahead rfl
  | true =>
    have on : controller.books.enabled = true := mode
    obtain ⟨books, ⟨answer, answered⟩ | ⟨item, status, calls⟩⟩ := Controller.switch_books mode
    · rw [answered]
      exact .answered answer _
    · rw [calls, books]
      exact .off on item status

theorem Solo.toggleCourse {strand : StrandId} {before world : World} {past : List Moment}
    (solo : Solo strand .toggle before past world) :
    ToggleCourse strand before.controller.books (world.point? strand) (returns past)
      world.controller.books := by
  refine solo.invariant (motive := fun point? _ returned account =>
    ToggleCourse strand before.controller.books point? returned account.1) ?_ ?_ ?_ ?_
  · exact .ahead rfl
  · intro stage calls account course
    generalize account.1 = books at course ⊢
    cases course with
    | ahead waits =>
      cases stage with
      | toggling => exact .ahead rfl
      | checking | copying | saving | placing | settling | lingering | returning => cases waits
  · intro controller stage calls course
    change ToggleCourse strand before.controller.books _ _ controller.books at course
    generalize same : controller.books = books at course
    cases course with
    | ahead waits =>
      cases stage with
      | toggling => exact .resume controller same
      | checking | copying | saving | placing | settling | lingering | returning => cases waits
  · intro controller errand calls course
    change ToggleCourse strand before.controller.books _ _ controller.books at course
    generalize same : controller.books = books at course
    cases course with
    | ahead waits =>
      cases errand with
      | keeping => exact .answered _ _
      | bringingBack | looking | copying | saving | placing | pressing | returning | typing =>
        cases waits
    | off on item status =>
      have unchanged := congrArg Prod.fst (Controller.account_aside.bringBack controller strand item status)
      obtain ⟨result, ended⟩ := controller.bringBack_ends strand item status
      dsimp only [Controller.complete, Controller.Step.approach]
      rw [ended, unchanged]
      change ToggleCourse strand before.controller.books _ _ controller.books
      rw [same]
      cases result with
      | ok answer => exact .answered answer _
      | error error => exact .failed on error

end Toggle

/-! ### All operations -/

/-- What an operation that has failed, or has found nothing to paste, leaves as it was. -/
structure Spared (operation : Operation) (result : Result) (before after : Controller) : Prop where
  account : ∀ error, result = .error error → operation ≠ .pasteNext → operation ≠ .toggle →
    after.account = before.account
  nothing : operation = .pasteNext → result = .ok .nothing →
    after.account = before.account ∧ after.calls = before.calls
  paste : ∀ error, operation = .pasteNext → result = .error error →
    ∃ paste state, before.Pastes .pasteNext paste state ∧
      after.books = { state with echoes := .ofCapacity 0 }
  toggle : ∀ error, operation = .toggle → result = .error error →
    before.state.enabled = true ∧ after.books = before.books.disable

section Spared

variable {strand : StrandId} {operation : Operation} {before world : World} {past : List Moment}
  {result : Result}

theorem Solo.failed_account (solo : Solo strand operation before past world) {error : Error}
    (returned : returns past = [(strand, operation, .error error)])
    (unpasting : operation ≠ .pasteNext) (untoggling : operation ≠ .toggle) :
    world.controller.account = before.controller.account := by
  by_cases edits : operation.family = .editing
  · obtain ⟨result, finished⟩ := before.controller.launch_edits edits
    obtain ⟨-, -, same⟩ := solo.of_finished finished
    rw [returned] at same
    cases same
    rw [solo.account (by rw [edits]; nofun) (by rw [edits]; nofun)]
    exact before.controller.launch_failed finished
  · by_cases updates : operation = .update
    · subst updates
      have course := solo.updateCourse
      rw [returned] at course
      generalize world.controller.account = account at course ⊢
      generalize world.point? strand = point? at course
      cases course with
      | failed => rfl
    · have other : operation.family ≠ .switching ∧ operation.family ≠ .updating := by
        cases operation with
        | toggle => exact absurd rfl untoggling
        | update => exact absurd rfl updates
        | textMacro text delivery => cases delivery <;> exact ⟨nofun, nofun⟩
        | pasteNext | copyItem | remove | clear | toggleOrder | setOrder => exact ⟨nofun, nofun⟩
      rw [solo.account other.1 other.2]
      exact before.controller.launch_account unpasting edits

theorem launch_unready {controller : Controller} (unready : ¬ controller.Ready .pasteNext) :
    (controller.launch .pasteNext).1 = .made (.finished (.ok .nothing)) ∧
      (controller.launch .pasteNext).2.account = controller.account := by
  have refused : ∃ reason, controller.state.dequeue = .error reason := by
    unfold Queue.State.dequeue
    split
    · rename_i on
      have empty : controller.state.queue = [] := by_contra fun some => unready ⟨on, some⟩
      rw [empty]
      cases controller.state.order <;> exact ⟨_, rfl⟩
    · exact ⟨_, rfl⟩
  obtain ⟨reason, refused⟩ := refused
  dsimp only [Controller.launch, Controller.pasteNext]
  rw [refused]
  exact ⟨rfl, rfl⟩

theorem Solo.nothing_spares (solo : Solo strand .pasteNext before past world)
    (returned : returns past = [(strand, .pasteNext, .ok .nothing)]) :
    world.controller.account = before.controller.account ∧
      world.controller.calls = before.controller.calls := by
  by_cases ready : before.controller.Ready .pasteNext
  · obtain ⟨paste, state, pastes⟩ := ready.pastes
    have course := solo.pasteCourse pastes
    have answer := pastes.dequeue.2
    rw [returned] at course
    generalize (world.point? strand).map Point.due? = due? at course
    generalize calls past = made at course
    generalize ended : Except.ok Answer.nothing = result at course
    cases course with
    | unsaved fault => cases ended
    | returned saved shown place press restore =>
      cases failed : place.or (press.or restore) with
      | none =>
        rw [failed, Controller.Paste.result, answer] at ended
        cases ended
      | some fault =>
        rw [failed] at ended
        cases ended
  · obtain ⟨finished, kept⟩ := launch_unready ready
    obtain ⟨-, silent, -⟩ := solo.of_finished finished
    refine ⟨(solo.account nofun nofun).trans kept, ?_⟩
    rw [solo.run.calls, silent]
    rfl

theorem Solo.spared (solo : Solo strand operation before past world)
    (returned : returns past = [(strand, operation, result)]) :
    Spared operation result before.controller world.controller where
  account error failed unpasting untoggling := by
    subst failed
    exact solo.failed_account returned unpasting untoggling
  nothing pastes answered := by
    subst pastes answered
    exact solo.nothing_spares returned
  paste error pastes failed := by
    subst pastes failed
    by_cases ready : before.controller.Ready .pasteNext
    · obtain ⟨paste, state, pastes⟩ := ready.pastes
      exact ⟨paste, state, pastes, solo.pasteBooks pastes⟩
    · obtain ⟨-, -, same⟩ := solo.of_finished (launch_unready ready).1
      rw [returned] at same
      cases same
  toggle error toggles failed := by
    subst toggles failed
    have course := solo.toggleCourse
    rw [returned] at course
    generalize world.controller.books = books at course ⊢
    generalize world.point? strand = point? at course
    cases course with
    | failed on => exact ⟨on, rfl⟩

end Spared

/-- An operation with no other beside it returns, and spares what a failure has to spare. -/
theorem failures_spare {start world : World} {past : List Moment} (fresh : start.Fresh)
    (run : Run start past world) (idle : world.Idle) (strand : StrandId) (operation : Operation) :
    (∃ later after result, Solo strand operation world later after ∧
      returns later = [(strand, operation, result)]) ∧
    ∀ later after result, Solo strand operation world later after →
      returns later = [(strand, operation, result)] →
        Spared operation result world.controller after.controller := by
  constructor
  · obtain ⟨later, after, solo, -, ended⟩ := (run.gated fresh.gated).returns idle strand operation
    rcases solo.returned with ⟨⟨point, task⟩, -⟩ | ⟨-, result, returned⟩
    · rw [ended] at task
      cases task
    · exact ⟨later, after, result, solo, returned⟩
  · intro later after result solo returned
    exact solo.spared returned

/-- Queue mode is turned off, and what it has kept cannot be brought back. -/
def switchingInVain : List Choice :=
  [.request 0, .fail .write [some "busy"], .resume 0, .call 0]

theorem switching_in_vain_spares :
    let switched := filled.played (.start 0 .toggle :: switchingInVain) rfl
    returns switched.1 = [(0, .toggle, .error (.desktop ⟨.write, "busy"⟩))] ∧
      Spared .toggle (.error (.desktop ⟨.write, "busy"⟩)) filled.controller switched.2.controller := by
  have solo := Solo.played (filled_idle 0)
    (by simp [switchingInVain, Choice.onward?, Choice.strand?])
    (rfl : (filled.play [] (.start 0 .toggle :: switchingInVain)).isSome = true)
  exact ⟨rfl, (failures_spare (World.fresh_fresh {} _) filled_run filled_idle 0 .toggle).2 _ _ _ solo rfl⟩

end PasteQueue
