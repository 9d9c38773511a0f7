import PasteQueue.Proofs.Controller.Books
import PasteQueue.Proofs.Controller.Calls
import PasteQueue.Proofs.Controller.Watching
import PasteQueue.Proofs.Queue.Requests

/-!
What the operations ask of history and queue. Each makes its requests at its launch, behind a barrier
or with a call of the desktop; nothing else changes the state, and what comes of the operation there
follows from the reply. So whatever every run of requests keeps, every operation keeps.
-/

namespace PasteQueue

open Clipboard (Item)

namespace Queue.State

theorem after_append (state : State) (first second : List Request) :
    state.after (first ++ second) = (state.after first).after second :=
  List.foldl_append

def Reaches (before after : State) : Prop := ∃ requests, after = before.after requests

theorem Reaches.refl (state : State) : state.Reaches state := ⟨[], rfl⟩

theorem Reaches.trans {before middle after : State} (first : before.Reaches middle)
    (second : middle.Reaches after) : before.Reaches after := by
  obtain ⟨earlier, rfl⟩ := first
  obtain ⟨later, rfl⟩ := second
  exact ⟨earlier ++ later, (before.after_append earlier later).symm⟩

end Queue.State

namespace Controller

open Queue (Reply Request)

variable (controller : Controller) (strand : StrandId)

/-! ### Which requests -/

def Operation.requests : Operation → List Request
  | .pasteNext => [.dequeue]
  | .remove index => [.remove index]
  | .clear => [.clear]
  | .toggleOrder => [.toggleOrder]
  | .setOrder text => (Queue.State.parseOrder text).toOption.toList.map .setOrder
  | .toggle | .update | .copyItem _ | .textMacro .. => []

def requestsAt (controller : Controller) : Stage → List Request
  | .toggling => if controller.state.enabled then [.disable] else []
  | .checking | .copying _ | .saving _ | .placing .. | .settling .. | .lingering .. | .returning .. =>
    []

/-- A clipboard that cannot be read is not kept, and leads to no update. -/
def requestsWith (controller : Controller) (errand : Errand) : List Request :=
  match errand with
  | .keeping => [.enable controller.desktop.read.1.toOption]
  | .looking => controller.desktop.read.1.toOption.toList.map (.accept · controller.clock)
  | .bringingBack .. | .copying _ | .saving _ | .placing .. | .pressing .. | .returning ..
  | .typing _ =>
    (controller.desktop.written? errand).toList.map fun _ =>
      .recordEcho (controller.desktop.after errand).seenSequence

theorem launch_requests (operation : Operation) :
    (controller.launch operation).2.state = controller.state.after operation.requests := by
  cases operation with
  | toggle | update => rfl
  | copyItem id =>
    dsimp only [launch]
    split <;> rfl
  | textMacro text delivery => cases delivery <;> rfl
  | pasteNext =>
    show controller.pasteNext.2.state = (controller.state.take controller.state.dequeue).2
    unfold pasteNext
    cases controller.state.dequeue <;> rfl
  | remove index =>
    show (controller.remove index).2.state =
      (controller.state.take (controller.state.remove index)).2
    unfold remove
    cases controller.state.remove index <;> rfl
  | clear | toggleOrder => rfl
  | setOrder text =>
    dsimp only [launch, setOrder, Operation.requests]
    cases Queue.State.parseOrder text with
    | error error => rfl
    | ok order =>
      dsimp only
      split <;> rfl

theorem approach_requests (stage : Stage) :
    (controller.approach stage).2.state = controller.state.after (controller.requestsAt stage) := by
  cases stage with
  | toggling =>
    dsimp only [approach, switch, requestsAt]
    split
    · unfold turnOff
      dsimp only
      split
      · exact leaveWriteGate_state _
      · rfl
    · rfl
  | checking =>
    dsimp only [approach, check]
    split
    · exact leaveWriteGate_state _
    · rfl
  | copying | saving | placing | settling | lingering | returning => rfl

/-- Of a call that keeps nothing and looks at nothing, the state learns no more than a number. -/
theorem complete_recorded {errand : Errand} (unkept : errand ≠ .keeping) (unseen : errand ≠ .looking) :
    (controller.complete strand errand).2.state =
      controller.state.after ((controller.desktop.written? errand).toList.map fun _ =>
        .recordEcho (controller.desktop.after errand).seenSequence) := by
  have books : (controller.complete strand errand).2.books = controller.books :=
    congrArg Prod.fst (account_aside.complete controller strand unkept unseen)
  have echoes := (complete_completed controller strand errand).echoes
  rw [state_of_books books, echoes]
  cases controller.desktop.written? errand <;> rfl

theorem complete_requests (errand : Errand) :
    (controller.complete strand errand).2.state =
      controller.state.after (controller.requestsWith errand) := by
  cases errand with
  | keeping =>
    show (turnOn strand controller).2.state = controller.state.enable controller.desktop.read.1.toOption
    unfold turnOn
    dsimp only [read]
    cases controller.desktop.read.1 <;> exact leaveWriteGate_state _
  | looking =>
    show (look strand controller).2.state = _
    cases outcome : controller.desktop.read.1 with
    | error fault =>
      rw [requestsWith, outcome, look, read]
      dsimp only
      rw [outcome]
      exact leaveWriteGate_state _
    | ok item =>
      rw [look_state strand outcome, requestsWith, outcome]
      rfl
  | bringingBack | copying | saving | placing | pressing | returning | typing =>
    exact complete_recorded controller strand nofun nofun

/-! ### What comes of a reply -/

/-- How an operation goes on with the reply to a request. -/
def sequel : Request → Reply → Progress
  | .dequeue, .taken item => .reached (.saving ⟨item, .item item⟩)
  | .dequeue, _ => .finished (.ok .nothing)
  | .setOrder order, _ => .finished (.ok (.order order))
  | _, .taken item => .finished (.ok (.item item))
  | _, .refused fault => .finished (.error (.queue fault))
  | _, .ordered order => .finished (.ok (.order order))
  | _, .judged outcome => .finished (.ok (.update (.accepted outcome)))
  | _, .done | _, .changed _ | _, .restored _ => .finished (.ok .done)

theorem launch_sequel {operation : Operation} {request : Request}
    (asks : request ∈ operation.requests) :
    (controller.launch operation).1 = .made (sequel request (controller.state.reply request)) := by
  cases operation with
  | toggle | update | copyItem | textMacro => cases asks
  | pasteNext =>
    cases List.mem_singleton.mp asks
    show Advance.made controller.pasteNext.1 =
      .made (sequel .dequeue (controller.state.take controller.state.dequeue).1)
    unfold pasteNext
    cases controller.state.dequeue <;> rfl
  | remove index =>
    cases List.mem_singleton.mp asks
    show Advance.made (controller.remove index).1 =
      .made (sequel (.remove index) (controller.state.take (controller.state.remove index)).1)
    unfold remove
    cases controller.state.remove index <;> rfl
  | clear | toggleOrder =>
    cases List.mem_singleton.mp asks
    rfl
  | setOrder text =>
    dsimp only [Operation.requests] at asks
    dsimp only [launch, setOrder]
    cases parsed : Queue.State.parseOrder text with
    | error error =>
      rw [parsed] at asks
      cases asks
    | ok order =>
      rw [parsed] at asks
      cases List.mem_singleton.mp asks
      rfl

/-- A clipboard that the state gives back is brought back. -/
theorem switch_sequel (on : controller.state.enabled = true) :
    ∃ snapshot, controller.state.reply .disable = .restored snapshot ∧
      (controller.approach .toggling).1 =
        match snapshot with
        | none => .made (.finished (.ok (.status controller.state.disable.status)))
        | some item => .calling (.bringingBack item controller.state.disable.status) := by
  refine ⟨controller.state.snapshot, rfl, ?_⟩
  dsimp only [approach, switch]
  rw [if_pos on]
  unfold turnOff
  dsimp only
  cases controller.state.snapshot <;> rfl

theorem accept_sequel (item : Item) :
    (controller.accept item).1 = sequel (.accept item controller.clock)
      (controller.state.reply (.accept item controller.clock)) := by
  dsimp only [accept]
  split <;> rfl

theorem look_sequel {item : Item} (seen : controller.desktop.read.1 = .ok item) :
    (controller.complete strand .looking).1 = sequel (.accept item controller.clock)
      (controller.state.reply (.accept item controller.clock)) := by
  show (look strand controller).1 = _
  rw [look, read]
  dsimp only
  rw [seen]
  dsimp only
  rw [accept_sequel, leaveWriteGate_state, leaveWriteGate_clock]
  rfl

/-! ### Operations as far as they come -/

/-- The state has gone on by requests, and the watcher has been notified at most. -/
structure Served (before after : Controller) : Prop extends Watching before after where
  state : before.state.Reaches after.state

theorem Served.refl (controller : Controller) : controller.Served controller :=
  ⟨(Steady.refl controller).toWatching, .refl _⟩

theorem Served.trans {before after last : Controller} (first : before.Served after)
    (second : after.Served last) : before.Served last :=
  ⟨first.toWatching.trans second.toWatching, first.state.trans second.state⟩

theorem launch_served (operation : Operation) :
    controller.Served (controller.launch operation).2 :=
  ⟨(launch_steady controller operation).toWatching, _, controller.launch_requests operation⟩

theorem approach_served (stage : Stage) : controller.Served (controller.approach stage).2 :=
  ⟨(approach_steady controller stage).toWatching, _, controller.approach_requests stage⟩

theorem complete_served (errand : Errand) :
    controller.Served (controller.complete strand errand).2 :=
  ⟨complete_watching controller strand errand, _, controller.complete_requests strand errand⟩

variable {controller}

theorem Served.through {approach : Approach} (served : controller.Served approach.2) :
    controller.Served (approach.through strand).2 := by
  obtain ⟨advance, after⟩ := approach
  cases advance with
  | made progress => exact served
  | calling errand => exact served.trans (after.complete_served strand errand)

variable (controller)

theorem begin_served (operation : Operation) :
    controller.Served (controller.begin strand operation).2 :=
  (controller.launch_served operation).through strand

theorem resume_served (stage : Stage) : controller.Served (controller.resume strand stage).2 :=
  (controller.approach_served stage).through strand

theorem enter_served (stage : Stage) : controller.Served (controller.enter strand stage).2 := by
  unfold enter
  cases stage.barrier controller.settings <;> exact ⟨⟨rfl, .inl rfl⟩, .refl _⟩

variable {controller}

/-- However many barriers are passed on the way. -/
theorem Served.proceed (left : Nat) {step : Step} (served : controller.Served step.2) :
    controller.Served (proceed strand left step).controller := by
  induction left generalizing step with
  | zero =>
    obtain ⟨progress, after⟩ := step
    cases progress <;> exact served
  | succ left further =>
    obtain ⟨progress, after⟩ := step
    cases progress with
    | finished result => exact served
    | reached stage =>
      have entered := served.trans (after.enter_served strand stage)
      rw [Controller.proceed]
      cases asked : after.enter strand stage with
      | mk passes inside =>
        rw [asked] at entered
        cases passes with
        | true => exact further (entered.trans (inside.resume_served strand stage))
        | false => exact entered

theorem copy_served (controller : Controller) (content : Clipboard.Content) :
    controller.Served (controller.copy content) :=
  ⟨(copy_steady controller content).toWatching, [], (copy_frame controller content).2.1⟩

end Controller

end PasteQueue
