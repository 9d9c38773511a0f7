import PasteQueue.Proofs.Interleaving.Echoes
import PasteQueue.Proofs.Interleaving.Solo

/-!
A paste with no other operation beside it, whatever its calls meet with. It saves the clipboard, writes
its item, presses paste if it could, and writes back what it has saved; it returns the first failure
among these.
-/

namespace PasteQueue

open Clipboard (Content Item)
open Controller (Answer Approach Errand Notice Operation Paste Result Stage)

namespace Controller

/-! ### What is pasted -/

/-- What an operation pastes, and the state that it leaves for that. -/
inductive Pastes (controller : Controller) : Operation → Paste → Queue.State → Prop
  | next {item : Item} {front back : List Item} (on : controller.state.enabled = true)
      (queue : controller.state.queue = front ++ item :: back)
      (first : match controller.state.order with
        | .fifo => front = []
        | .lifo => back = []) :
      Pastes controller .pasteNext ⟨item, .item item⟩ (controller.state.withQueue (front ++ back))
  | text (text : String) :
      Pastes controller (.textMacro text .pasted) ⟨(controller.mint (.text text)).1, .done⟩
        controller.state

def Ready (controller : Controller) : Operation → Prop
  | .pasteNext => controller.state.enabled = true ∧ controller.state.queue ≠ []
  | .textMacro _ .pasted => True
  | _ => False

variable {controller : Controller} {operation : Operation} {paste : Paste} {state : Queue.State}

theorem Ready.pastes (ready : controller.Ready operation) :
    ∃ paste state, controller.Pastes operation paste state := by
  cases operation with
  | pasteNext =>
    obtain ⟨on, some⟩ := ready
    cases order : controller.state.order with
    | fifo =>
      obtain ⟨item, rest, queue⟩ := List.exists_cons_of_ne_nil some
      have split : controller.state.queue = [] ++ item :: rest := queue
      exact ⟨_, _, .next on split (by rw [order])⟩
    | lifo =>
      have split := (List.dropLast_append_getLast some).symm
      exact ⟨_, _, .next on split (by rw [order])⟩
  | textMacro text delivery =>
    cases delivery with
    | typed => cases ready
    | pasted => exact ⟨_, _, .text text⟩
  | toggle | update | copyItem | remove | clear | toggleOrder | setOrder => cases ready

theorem Pastes.dequeue (pastes : controller.Pastes .pasteNext paste state) :
    controller.state.dequeue = .ok (paste.item, state) ∧ paste.answer = .item paste.item := by
  cases pastes with
  | next on queue first =>
    rw [Queue.State.dequeue, if_pos on, queue]
    cases order : controller.state.order with
    | fifo =>
      rw [order] at first
      subst first
      exact ⟨rfl, rfl⟩
    | lifo =>
      rw [order] at first
      subst first
      simp [Queue.State.next?]

theorem Pastes.launch (pastes : controller.Pastes operation paste state) :
    (controller.launch operation).1 = .made (.reached (.saving paste)) ∧
      (controller.launch operation).2.books = { state with echoes := .ofCapacity 0 } := by
  cases pastes with
  | text text => exact ⟨rfl, rfl⟩
  | next on queue first =>
    obtain ⟨taken, -⟩ := (Pastes.next on queue first).dequeue
    dsimp only [Controller.launch, pasteNext]
    rw [taken]
    exact ⟨rfl, rfl⟩

/-! ### What a call of a paste leads to -/

variable (controller) (strand : StrandId)

theorem save_result (paste : Paste) :
    (save strand paste controller).approach.1.result? =
      match controller.desktop.read.1 with
      | .ok _ => none
      | .error fault => some (.error (.desktop fault)) := by
  unfold save
  cases reading : controller.read strand with
  | mk outcome after =>
    have read : controller.desktop.read.1 = outcome := congrArg Prod.fst reading
    rw [read]
    cases outcome <;> rfl

theorem place_result (paste : Paste) (saved : Item) :
    (place strand paste saved controller).approach.1.result? = none := by
  unfold place
  cases controller.writeRecorded strand paste.item with
  | mk failure after => cases failure <;> rfl

theorem press_result (paste : Paste) (saved : Item) :
    (press strand paste saved controller).approach.1.result? = none := by
  unfold press
  split <;> rfl

/-- The failure that a paste ends with, or what it answers without one. -/
def Paste.result (paste : Paste) : Option Desktop.Fault → Result
  | none => .ok paste.answer
  | some fault => .error (.desktop fault)

/-- A failure to give back counts where nothing has failed before. -/
theorem giveBack_result (paste : Paste) (saved : Item) (failure : Option Desktop.Fault) :
    (giveBack strand paste saved failure controller).approach.1.result? =
      some (paste.result (failure.or (controller.desktop.write saved).1)) := by
  have failed := (writeRecorded_frame controller strand saved).1
  unfold giveBack
  cases written : controller.writeRecorded strand saved with
  | mk missed after =>
    rw [written] at failed
    rw [← failed]
    cases failure <;> cases missed <;> rfl

/-! ### The call that is due -/

/-- The call that comes next behind a stage, where that is settled. -/
def Stage.due? : Stage → Option Errand
  | .toggling | .checking => none
  | .copying item => some (.copying item)
  | .saving paste => some (.saving paste)
  | .placing paste saved => some (.placing paste saved)
  | .settling paste saved => some (.pressing paste saved)
  | .lingering paste saved => some (.returning paste saved none)
  | .returning paste saved failure => some (.returning paste saved failure)

end Controller

def Point.due? : Point → Option Errand
  | .arriving stage | .waiting stage => stage.due?
  | .calling errand => some errand

theorem Controller.approach_due (controller : Controller) {stage : Stage} {errand : Errand}
    (due : stage.due? = some errand) :
    (controller.approach stage).1.point?.map Point.due? = some (some errand) ∧
      (controller.approach stage).1.result? = none := by
  cases stage with
  | toggling | checking => cases due
  | copying | saving | placing | settling | lingering | returning =>
    cases due
    exact ⟨rfl, rfl⟩

/-! ### The course of a paste -/

/-- What a paste has tried behind saving, the latest first. The keystroke meets with what the clipboard
shows then, and comes only after a write that has succeeded. -/
def tried (strand : StrandId) (item shown : Item) (place press : Option Desktop.Fault) : List Notice :=
  (if place.isNone then [.pressed strand shown press] else []) ++ [.wrote strand item place]

/-- How far a paste has come: the call that is due, the calls that it has made, and what it has
returned. -/
inductive PasteCourse (strand : StrandId) (operation : Operation) (paste : Paste) :
    Option (Option Errand) → List Notice → List (StrandId × Operation × Result) → Prop
  | saving : PasteCourse strand operation paste (some (some (.saving paste))) [] []
  | unsaved (fault : Desktop.Fault) :
      PasteCourse strand operation paste none [.read strand (.error fault)]
        [(strand, operation, .error (.desktop fault))]
  | placing (saved : Item) :
      PasteCourse strand operation paste (some (some (.placing paste saved)))
        [.read strand (.ok saved)] []
  | pressing (saved : Item) :
      PasteCourse strand operation paste (some (some (.pressing paste saved)))
        [.wrote strand paste.item none, .read strand (.ok saved)] []
  | returning (saved shown : Item) (place press : Option Desktop.Fault) :
      PasteCourse strand operation paste (some (some (.returning paste saved (place.or press))))
        (tried strand paste.item shown place press ++ [.read strand (.ok saved)]) []
  | returned (saved shown : Item) (place press restore : Option Desktop.Fault) :
      PasteCourse strand operation paste none
        (.wrote strand saved restore ::
          (tried strand paste.item shown place press ++ [.read strand (.ok saved)]))
        [(strand, operation, paste.result (place.or (press.or restore)))]

namespace PasteCourse

variable {strand : StrandId} {operation : Operation} {paste : Paste} {calls : List Notice}
  {returned : List (StrandId × Operation × Result)} {errand : Errand} {due : Option Errand}

theorem due_isSome (course : PasteCourse strand operation paste (some due) calls returned) :
    ∃ errand, due = some errand := by
  cases course <;> exact ⟨_, rfl⟩

theorem call (course : PasteCourse strand operation paste (some (some errand)) calls returned)
    (controller : Controller) :
    PasteCourse strand operation paste ((errand.next? controller.desktop).map Stage.due?)
      (controller.desktop.answer strand errand :: calls)
      ((controller.complete strand errand).approach.1.returned strand operation) := by
  cases course with
  | saving =>
    dsimp only [Controller.complete, Errand.next?, Desktop.answer, Controller.Advance.returned]
    rw [Controller.save_result]
    cases controller.desktop.read.1 with
    | ok saved => exact .placing saved
    | error fault => exact .unsaved fault
  | placing saved =>
    dsimp only [Controller.complete, Errand.next?, Desktop.answer, Controller.Advance.returned]
    rw [Controller.place_result]
    cases (controller.desktop.write paste.item).1 with
    | none => exact .pressing saved
    -- No keystroke follows, so that any item may stand for what it would have met with.
    | some fault => exact .returning saved saved (some fault) none
  | pressing saved =>
    dsimp only [Controller.complete, Errand.next?, Desktop.answer, Controller.Advance.returned]
    rw [Controller.press_result]
    cases controller.desktop.pressPaste.1 with
    | none => exact .returning saved _ none none
    | some fault => exact .returning saved _ none (some fault)
  | returning saved shown place press =>
    dsimp only [Controller.complete, Errand.next?, Desktop.answer, Controller.Advance.returned]
    rw [Controller.giveBack_result, Option.or_assoc]
    exact .returned saved shown place press _

end PasteCourse

/-! ### Along a paste -/

section Solo

variable {strand : StrandId} {operation : Operation} {before world : World} {past : List Moment}
  {paste : Paste} {state : Queue.State}

theorem Solo.pasteCourse (solo : Solo strand operation before past world)
    (pastes : before.controller.Pastes operation paste state) :
    PasteCourse strand operation paste ((world.point? strand).map Point.due?) (calls past)
      (returns past) := by
  refine solo.invariant (motive := fun point? calls returned _ =>
    PasteCourse strand operation paste (point?.map Point.due?) calls returned) ?_ ?_ ?_ ?_
  · rw [pastes.launch.1]
    exact .saving
  · intro stage calls account course
    exact course
  · intro controller stage calls course
    obtain ⟨errand, due⟩ := course.due_isSome
    have settled : stage.due? = some errand := due
    obtain ⟨reached, silent⟩ := controller.approach_due settled
    rw [Controller.Advance.returned, silent, reached, ← due]
    exact course
  · intro controller errand calls course
    rw [Option.map_map]
    exact course.call controller

theorem Solo.pasteBooks (solo : Solo strand operation before past world)
    (pastes : before.controller.Pastes operation paste state) :
    world.controller.books = { state with echoes := .ofCapacity 0 } := by
  have pasting : operation.family = .pasting := by cases pastes <;> rfl
  have same := solo.account (by rw [pasting]; nofun) (by rw [pasting]; nofun)
  exact (congrArg Prod.fst same).trans pastes.launch.2

end Solo

/-- How the calls of a paste come out, as far as it makes them. -/
structure PasteOutcomes where
  save : Except Desktop.Fault Item
  place : Option Desktop.Fault
  press : Option Desktop.Fault
  restore : Option Desktop.Fault

namespace PasteOutcomes

/-- The latest call first: what has been saved is written back, whatever has been tried with it. -/
def calls (outcomes : PasteOutcomes) (strand : StrandId) (item : Item) : List Notice :=
  match outcomes.save with
  | .error fault => [.read strand (.error fault)]
  | .ok saved =>
    .wrote strand saved outcomes.restore ::
      (tried strand item item outcomes.place outcomes.press ++ [.read strand (.ok saved)])

def failure? (outcomes : PasteOutcomes) : Option Desktop.Fault :=
  match outcomes.save with
  | .error fault => some fault
  | .ok _ => outcomes.place.or (outcomes.press.or outcomes.restore)

/-- The item stays on the clipboard: it has been written, and could not be replaced. -/
def stays (outcomes : PasteOutcomes) : Bool :=
  outcomes.save.isOk && outcomes.place.isNone && outcomes.restore.isSome

end PasteOutcomes

/-- What a paste has done to the world, by the outcomes of its calls. -/
structure Pasted (strand : StrandId) (operation : Operation) (paste : Paste) (state : Queue.State)
    (before : World) (past : List Moment) (after : World) (outcomes : PasteOutcomes) : Prop where
  calls : after.controller.calls = outcomes.calls strand paste.item ++ before.controller.calls
  returns : returns past = [(strand, operation, paste.result outcomes.failure?)]
  saved : ∀ saved, outcomes.save = .ok saved →
    saved.content = before.controller.desktop.current.content
  clipboard : after.controller.desktop.current.content =
    if outcomes.stays then paste.item.content else before.controller.desktop.current.content
  sequence : after.controller.desktop.sequence = before.controller.desktop.sequence +
    UInt32.ofNat (stored (outcomes.calls strand paste.item)).length
  state : after.controller.state = { state with
    echoes := before.controller.state.echoes.recordFrom before.controller.desktop.sequence
      (stored (outcomes.calls strand paste.item)).length }

section Pasted

variable {strand : StrandId} {operation : Operation} {before after : World} {past : List Moment}
  {paste : Paste} {state : Queue.State}

theorem tried_of_shown {item shown : Item} {place : Option Desktop.Fault}
    (shows : place = none → shown = item) (press : Option Desktop.Fault) :
    tried strand item shown place press = tried strand item item place press := by
  cases place with
  | some fault => rfl
  | none => rw [shows rfl]

theorem PasteCourse.outcomes {calls : List Notice} {returned : List (StrandId × Operation × Result)}
    (course : PasteCourse strand operation paste none calls returned) {controller : Controller}
    (left : Stored before.controller calls controller) :
    ∃ outcomes : PasteOutcomes, calls = outcomes.calls strand paste.item ∧
      returned = [(strand, operation, paste.result outcomes.failure?)] := by
  cases course with
  | unsaved fault => exact ⟨⟨.error fault, none, none, none⟩, rfl, rfl⟩
  | returned saved shown place press restore =>
    have shows : place = none → shown = paste.item := by
      rintro rfl
      exact left.shows [.wrote strand saved restore] _ [.wrote strand paste.item none, _] rfl
    rw [tried_of_shown shows]
    exact ⟨⟨.ok saved, place, press, restore⟩, rfl, rfl⟩

theorem PasteOutcomes.saved_content {outcomes : PasteOutcomes} {controller : Controller}
    (left : Stored before.controller (outcomes.calls strand paste.item) controller) {saved : Item}
    (saves : outcomes.save = .ok saved) :
    saved.content = before.controller.desktop.current.content := by
  have split : outcomes.calls strand paste.item =
      (.wrote strand saved outcomes.restore ::
        tried strand paste.item paste.item outcomes.place outcomes.press) ++
          .read strand (.ok saved) :: [] := by
    rw [calls, saves]
    rfl
  exact left.shows _ _ _ split

theorem PasteOutcomes.clipboard {outcomes : PasteOutcomes} {controller : Controller}
    (left : Stored before.controller (outcomes.calls strand paste.item) controller) :
    controller.desktop.current.content =
      if outcomes.stays then paste.item.content else before.controller.desktop.current.content := by
  have content : ∀ saved, outcomes.save = .ok saved →
      saved.content = before.controller.desktop.current.content := fun _ => saved_content left
  rw [left.current]
  obtain ⟨save, place, press, restore⟩ := outcomes
  cases save with
  | error fault => rfl
  | ok saved =>
    cases restore with
    | none =>
      have given : stays ⟨.ok saved, place, press, none⟩ = false := by simp [stays]
      rw [given]
      exact content saved rfl
    | some fault => cases place <;> cases press <;> rfl

theorem Solo.pasted (solo : Solo strand operation before past after)
    (held : before.controller.desktop.heldSequence = none)
    (pastes : before.controller.Pastes operation paste state)
    (alone : ∀ moment ∈ past, ∀ content, moment.choice ≠ .external content)
    (ended : after.tasks strand = none) :
    ∃ outcomes, Pasted strand operation paste state before past after outcomes := by
  have left := solo.run.stored held alone
  have course := solo.pasteCourse pastes
  rw [World.point?, ended] at course
  obtain ⟨outcomes, made, returned⟩ := course.outcomes left
  have called := solo.run.calls
  rw [made] at left called
  refine ⟨outcomes, called, returned, fun saved => PasteOutcomes.saved_content left,
    PasteOutcomes.clipboard left, left.sequence, ?_⟩
  rw [Controller.state_of_books (solo.pasteBooks pastes), left.echoes]

end Pasted

/-- A paste with no other operation beside it comes to its end by itself, and whatever its calls have
met with, it has taken its item out of the queue for good, and has done the rest by their outcomes. -/
structure PasteEnds (strand : StrandId) (operation : Operation) (paste : Paste) (state : Queue.State)
    (before : World) : Prop where
  ends : ∃ past after, Solo strand operation before past after ∧
    (∀ moment ∈ past, moment.choice.strand? = some strand) ∧ after.tasks strand = none
  taken : ∀ past after, Solo strand operation before past after →
    after.controller.books = { state with echoes := .ofCapacity 0 }
  pasted : ∀ past after, Solo strand operation before past after →
    (∀ moment ∈ past, ∀ content, moment.choice ≠ .external content) → after.tasks strand = none →
      ∃ outcomes, Pasted strand operation paste state before past after outcomes

theorem paste_ends {start world : World} {past : List Moment} (fresh : start.Fresh)
    (run : Run start past world) (idle : world.Idle) (strand : StrandId) {operation : Operation}
    (ready : world.controller.Ready operation) :
    ∃ paste state, world.controller.Pastes operation paste state ∧
      PasteEnds strand operation paste state world := by
  have gated := run.gated fresh.gated
  obtain ⟨paste, state, pastes⟩ := ready.pastes
  refine ⟨paste, state, pastes, gated.returns idle strand operation, ?_, ?_⟩
  · intro later after solo
    exact solo.pasteBooks pastes
  · intro later after solo alone ended
    exact solo.pasted (run.counted fresh).held pastes alone ended

/-- Queue mode is on, and something has been copied since. -/
def filling : List Choice :=
  switching ++ [.external (.text "A"), .start 1 .update, .request 1, .resume 1, .call 1]

def filled : World := ((World.fresh {} (.text "U")).played filling rfl).2

theorem filled_run :
    Run (World.fresh {} (.text "U")) ((World.fresh {} (.text "U")).played filling rfl).1 filled :=
  World.played_run _ filling rfl

theorem filled_idle : filled.Idle := by
  intro strand
  match strand with
  | 0 => rfl
  | 1 => rfl
  | _ + 2 => rfl

/-- A paste whose keystroke fails, and whose restore fails after that. -/
def pasteInVain : List Choice :=
  [.start 0 .pasteNext, .request 0, .resume 0, .call 0, .request 0, .resume 0, .call 0,
    .fail .paste [some "locked"], .fail .write [some "busy"], .request 0, .resume 0, .call 0,
    .request 0, .resume 0, .call 0]

theorem filled_paste_ends :
    let pasted := filled.played pasteInVain rfl
    filled.controller.state.queue = [⟨.minted 3, .text "A"⟩] ∧
      pasted.2.controller.desktop.current = ⟨.minted 3, .text "A"⟩ ∧
      returns pasted.1 = [(0, .pasteNext, .error (.desktop ⟨.paste, "locked"⟩))] ∧
      ∃ paste state, filled.controller.Pastes .pasteNext paste state ∧
        PasteEnds 0 .pasteNext paste state filled :=
  ⟨rfl, rfl, rfl, paste_ends (World.fresh_fresh {} _) filled_run filled_idle 0 ⟨rfl, by decide⟩⟩

end PasteQueue
