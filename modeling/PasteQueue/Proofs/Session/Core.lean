import PasteQueue.Proofs.Controller.Requests
import PasteQueue.Proofs.Session.Rounds
import PasteQueue.Session.Schedule

/-!
The part of a session that requests and the watcher depend on, and how it may go on: the state of the
queue by requests only, the watcher as in a watch unless the worker has been aborted, and the worker's
strand where the watcher says.
-/

namespace PasteQueue.Session

/-! ### The core of a session -/

/-- As much of a session as requests and the watcher depend on. -/
structure Core where
  state : Queue.State
  watcher : Option Watcher
  hooked : Bool
  strands : List (StrandId × Strand)
  nextStrand : StrandId

def core (session : Session) : Core :=
  ⟨session.controller.state, session.controller.watcher, session.controller.hooked, session.strands,
    session.nextStrand⟩

theorem script_other : scriptStrand ≠ workerStrand := by decide

def Strand.isWorkers : Strand → Bool
  | .operation _ purpose | .paused _ purpose => purpose = .worker
  | .worker | .cancelled _ => true
  | .action _ | .task .. | .asleep | .joining _ | .yielding _ | .capture _ | .waiting _ => false

/-- The worker has an update in hand, or is to turn to its channel or to an update. One that has been
aborted stands anywhere. -/
def Strand.Attends (phase : Option Watcher.Phase) : Strand → Prop
  | .operation _ purpose | .paused _ purpose =>
    purpose = .worker ∧ ∀ stands ∈ phase, stands = .updating
  | .worker => ∀ stands ∈ phase, stands = .idle ∨ stands = .debouncing
  | .cancelled _ => True
  | .action _ | .task .. | .asleep | .joining _ | .yielding _ | .capture _ | .waiting _ => False

theorem Strand.Attends.isWorkers {phase : Option Watcher.Phase} {strand : Strand}
    (attends : strand.Attends phase) : strand.isWorkers = true := by
  cases strand with
  | operation | paused => exact decide_eq_true attends.1
  | worker | cancelled => rfl
  | action | task | asleep | joining | yielding | capture | waiting => cases attends

/-- It is a strand of the worker, whatever the watcher says. -/
theorem Strand.Attends.whatever {phase : Option Watcher.Phase} {strand : Strand}
    (attends : strand.Attends phase) : strand.Attends none := by
  cases strand with
  | operation | paused => exact ⟨attends.1, nofun⟩
  | worker => exact nofun
  | cancelled => trivial
  | action | task | asleep | joining | yielding | capture | waiting => cases attends

/-- A worker that was idle may stay so, or take a notification. -/
theorem Strand.Attends.turns {phase : Watcher.Phase} {strand : Strand}
    (attends : strand.Attends (some .idle)) (turns : phase = .idle ∨ phase = .debouncing) :
    strand.Attends (some phase) := by
  cases strand with
  | operation | paused => exact nomatch attends.2 _ rfl
  | worker =>
    intro stands there
    cases there
    exact turns
  | cancelled => trivial
  | action | task | asleep | joining | yielding | capture | waiting => cases attends

namespace Core

variable {before middle after last core : Core}

def phase (core : Core) : Option Watcher.Phase := core.watcher.map (·.phase)

def Aborting (core : Core) : Prop := ∃ stage, (workerStrand, Strand.cancelled stage) ∈ core.strands

/-- No other strand does the work of the worker, and no change notifies a watcher whose notifiers have
gone. -/
structure Apart (core : Core) : Prop where
  next : workerStrand < core.nextStrand
  others : ∀ entry ∈ core.strands, entry.1 ≠ workerStrand → entry.2.isWorkers = false
  unhooked : ∀ watcher ∈ core.watcher, watcher.notifiersGone = true → core.hooked = false

/-- The worker's strand, if it has one, stands where the watcher says. -/
structure Placed (core : Core) : Prop extends core.Apart where
  worker : ∀ entry ∈ core.strands, entry.1 = workerStrand → entry.2.Attends core.phase

/-- The worker is at its update; its strand may tell where it was before. -/
structure Updating (core : Core) : Prop extends core.Apart where
  worker : ∀ entry ∈ core.strands, entry.1 = workerStrand → entry.2.Attends none
  updates : ∀ stands ∈ core.phase, stands = .updating

/-- The queue has been asked at most, and the watcher has gone on as in a watch, unless its worker is
being aborted. -/
structure Moves (before after : Core) : Prop where
  state : before.state.Reaches after.state
  aborting : after.Aborting → before.Aborting
  watcher : before.Aborting ∨ Option.Rel Watcher.Follows before.watcher after.watcher

structure GoesOn (before after : Core) : Prop extends before.Moves after where
  placed : after.Placed

/-- The worker may have been aborted meanwhile. -/
structure Serves (before after : Core) : Prop where
  placed : after.Placed
  state : before.state.Reaches after.state

theorem rel_refl (watcher : Option Watcher) : Option.Rel Watcher.Follows watcher watcher := by
  cases watcher with
  | none => exact .none
  | some watcher => exact .some (.refl watcher)

theorem rel_trans {first second third : Option Watcher}
    (earlier : Option.Rel Watcher.Follows first second)
    (later : Option.Rel Watcher.Follows second third) : Option.Rel Watcher.Follows first third := by
  cases earlier with
  | none => exact later
  | some follows =>
    cases later with
    | some further => exact .some (follows.trans further)

theorem Moves.refl (core : Core) : core.Moves core := ⟨.refl _, id, .inr (rel_refl _)⟩

theorem Moves.trans (first : before.Moves after) (second : after.Moves last) :
    before.Moves last where
  state := first.state.trans second.state
  aborting aborting := first.aborting (second.aborting aborting)
  watcher := by
    rcases first.watcher with aborting | follows
    · exact .inl aborting
    · rcases second.watcher with aborting | further
      · exact .inl (first.aborting aborting)
      · exact .inr (rel_trans follows further)

theorem GoesOn.serves (goes : before.GoesOn after) : before.Serves after :=
  ⟨goes.placed, goes.state⟩

theorem Serves.trans (first : before.Serves after) (second : after.Serves last) :
    before.Serves last :=
  ⟨second.placed, first.state.trans second.state⟩

theorem Moves.then (first : before.Moves middle) (second : middle.GoesOn after) :
    before.GoesOn after :=
  ⟨first.trans second.toMoves, second.placed⟩

theorem Placed.goesOn (placed : core.Placed) : core.GoesOn core := ⟨.refl core, placed⟩

theorem GoesOn.trans (first : before.GoesOn middle) (second : middle.GoesOn after) :
    before.GoesOn after :=
  first.toMoves.then second

/-! ### Requests and notifications -/

def asked (core : Core) (requests : List Queue.Request) : Core :=
  { core with state := core.state.after requests }

def notified (core : Core) : Core := { core with watcher := core.watcher.map Watcher.notify }

theorem asked_moves (core : Core) (requests : List Queue.Request) : core.Moves (core.asked requests) :=
  ⟨⟨requests, rfl⟩, id, .inr (rel_refl _)⟩

theorem Apart.asked (apart : core.Apart) (requests : List Queue.Request) :
    (core.asked requests).Apart :=
  ⟨apart.next, apart.others, apart.unhooked⟩

theorem notified_moves (held : ∀ watcher ∈ core.watcher, watcher.notifiersGone = false) :
    core.Moves core.notified := by
  refine ⟨.refl _, id, .inr ?_⟩
  unfold notified
  dsimp only
  cases watched : core.watcher with
  | none => exact .none
  | some watcher => exact .some (.notify (held watcher watched))

theorem Apart.notified (apart : core.Apart) : core.notified.Apart := by
  refine ⟨apart.next, apart.others, ?_⟩
  intro watcher watched gone
  obtain ⟨earlier, there, rfl⟩ := Option.map_eq_some_iff.mp watched
  exact apart.unhooked earlier there (earlier.notify_notifiersGone ▸ gone)

theorem notified_phase (core : Core) : core.notified.phase = core.phase := by
  unfold phase notified
  rw [Option.map_map]
  congr 1
  funext watcher
  exact watcher.notify_phase

theorem Placed.notified (placed : core.Placed) : core.notified.Placed := by
  refine ⟨placed.toApart.notified, ?_⟩
  rw [notified_phase]
  exact placed.worker

/-! ### Strands that come and go -/

section Strands

variable {strands : List (StrandId × Strand)} {nextStrand : StrandId}

theorem Moves.of_strands
    (come : ∀ entry ∈ strands, entry ∈ core.strands ∨ ∀ stage, entry.2 ≠ .cancelled stage) :
    core.Moves { core with strands, nextStrand } where
  state := .refl _
  aborting aborting := by
    obtain ⟨stage, member⟩ := aborting
    rcases come _ member with old | new
    · exact ⟨stage, old⟩
    · exact absurd rfl (new stage)
  watcher := .inr (rel_refl _)

/-- None of those that come does the work of the worker. -/
theorem Placed.of_strands (placed : core.Placed) (next : core.nextStrand ≤ nextStrand)
    (come : ∀ entry ∈ strands,
      entry ∈ core.strands ∨ entry.1 ≠ workerStrand ∧ entry.2.isWorkers = false) :
    core.GoesOn { core with strands, nextStrand } where
  toMoves := by
    refine .of_strands fun entry member => ?_
    rcases come entry member with old | ⟨-, others⟩
    · exact .inl old
    · refine .inr fun stage cancelled => ?_
      rw [cancelled] at others
      cases others
  placed := by
    refine ⟨⟨Nat.lt_of_lt_of_le placed.next next, ?_, placed.unhooked⟩, ?_⟩
    · intro entry member other
      rcases come entry member with old | ⟨-, others⟩
      · exact placed.others entry old other
      · exact others
    · intro entry member own
      rcases come entry member with old | ⟨other, -⟩
      · exact placed.worker entry old own
      · exact absurd own other

theorem Placed.other (placed : core.Placed) {id : StrandId} {strand : Strand}
    (there : (id, strand) ∈ core.strands) (others : strand.isWorkers = false) : id ≠ workerStrand := by
  intro own
  have workers := (placed.worker _ there own).isWorkers
  rw [others] at workers
  cases workers

theorem Placed.own (placed : core.Placed) {id : StrandId} {strand : Strand}
    (there : (id, strand) ∈ core.strands) (workers : strand.isWorkers = true) : id = workerStrand := by
  by_contra other
  have others := placed.others _ there other
  rw [workers] at others
  cases others

theorem Placed.whatever (placed : core.Placed) :
    ∀ entry ∈ core.strands, entry.1 = workerStrand → entry.2.Attends none :=
  fun entry member own => (placed.worker entry member own).whatever

end Strands

end Core

/-! ### What leaves the core alone -/

section Frame

variable (session : Session) (id : StrandId)

@[simp] theorem wake_core : (session.wake id).core = session.core := by
  unfold wake
  split
  · rfl
  · split <;> rfl

@[simp] theorem foldl_wake_core {entry : Type} (entries : List entry) (strand : entry → StrandId) :
    (entries.foldl (fun session entry => session.wake (strand entry)) session).core =
      session.core := by
  induction entries generalizing session with
  | nil => rfl
  | cons entry rest follows => exact (follows _).trans (session.wake_core _)

@[simp] theorem wakeWorker_core : session.wakeWorker.core = session.core := by
  unfold wakeWorker
  split
  · split
    · exact session.wake_core _
    · rfl
  · rfl

theorem absorbNotice_core (notice : Controller.Notice) :
    (session.absorbNotice notice).core = session.core := by
  unfold absorbNotice
  split
  · rfl
  · rfl
  · rfl
  · exact session.wake_core _
  · exact session.wakeWorker_core
  · rfl

@[simp] theorem absorb_core (controller : Controller) :
    (session.absorb controller).core = { session.core with
      state := controller.state, watcher := controller.watcher, hooked := controller.hooked } := by
  have kept : ∀ (notices : List Controller.Notice) (session : Session),
      (notices.foldl absorbNotice session).core = session.core := by
    intro notices
    induction notices with
    | nil => exact fun _ => rfl
    | cons notice rest follows =>
      exact fun session => (follows _).trans (session.absorbNotice_core notice)
  exact kept _ _

@[simp] theorem park_core (stage : Controller.Stage) (purpose : Purpose) :
    (session.park id stage purpose).core = (session.setStrand id (.operation stage purpose)).core := by
  unfold park
  dsimp only
  split <;> rfl

@[simp] theorem finish_core (outcome : Outcome) :
    (session.finish id outcome).core =
      { session.core with strands := session.core.strands.filter (·.1 != id) } := by
  unfold finish
  dsimp only
  split
  · exact wake_core ..
  · rfl

@[simp] theorem tick_core : session.tick.core = session.core := by
  unfold tick
  split
  · rfl
  · exact foldl_wake_core ..

theorem mem_of_strand? {session : Session} {id : StrandId} {strand : Strand}
    (there : session.strand? id = some strand) : (id, strand) ∈ session.core.strands := by
  obtain ⟨earlier, later, split, -⟩ := List.lookup_eq_some_iff.mp there
  show (id, strand) ∈ session.strands
  rw [split]
  exact List.mem_append_right _ (.head _)

theorem mem_setStrand {session : Session} {id : StrandId} {strand : Strand}
    {entry : StrandId × Strand} (member : entry ∈ (session.setStrand id strand).core.strands) :
    entry = (id, strand) ∨ entry ∈ session.core.strands ∧ entry.1 ≠ id := by
  rcases List.mem_cons.mp member with new | old
  · exact .inl new
  · obtain ⟨old, other⟩ := List.mem_filter.mp old
    exact .inr ⟨old, by simpa using other⟩

end Frame

/-! ### Setting strands -/

section Strands

variable (session : Session) {id : StrandId} {strand : Strand}

theorem setStrand_goesOn (placed : session.core.Placed) (other : id ≠ workerStrand)
    (others : strand.isWorkers = false) : session.core.GoesOn (session.setStrand id strand).core := by
  refine placed.of_strands (Nat.le_refl _) fun entry member => ?_
  rcases mem_setStrand member with rfl | ⟨old, -⟩
  · exact .inr ⟨other, others⟩
  · exact .inl old

theorem finish_goesOn (placed : session.core.Placed) (id : StrandId) (outcome : Outcome) :
    session.core.GoesOn (session.finish id outcome).core := by
  rw [finish_core]
  exact placed.of_strands (Nat.le_refl _) fun entry member => .inl (List.mem_of_mem_filter member)

theorem spawn_goesOn (placed : session.core.Placed) (others : strand.isWorkers = false) :
    session.core.GoesOn (session.spawn strand).2.core := by
  dsimp only [spawn]
  rw [wake_core]
  refine placed.of_strands (Nat.le_succ _) fun entry member => ?_
  rcases mem_setStrand member with rfl | ⟨old, -⟩
  · exact .inr ⟨Nat.ne_of_gt placed.next, others⟩
  · exact .inl old

/-- The worker's own strand. -/
theorem attend_placed (apart : session.core.Apart) (attends : strand.Attends session.core.phase) :
    (session.setStrand workerStrand strand).core.Placed := by
  refine ⟨⟨apart.next, ?_, apart.unhooked⟩, ?_⟩
  · intro entry member other
    rcases mem_setStrand member with rfl | ⟨old, -⟩
    · exact absurd rfl other
    · exact apart.others entry old other
  · intro entry member own
    rcases mem_setStrand member with rfl | ⟨-, other⟩
    · exact attends
    · exact absurd own other

theorem attend_goesOn (apart : session.core.Apart) (attends : strand.Attends session.core.phase)
    (steady : ∀ stage, strand ≠ .cancelled stage) :
    session.core.GoesOn (session.setStrand workerStrand strand).core where
  toMoves := by
    refine .of_strands fun entry member => ?_
    rcases mem_setStrand member with rfl | ⟨old, -⟩
    · exact .inr steady
    · exact .inl old
  placed := session.attend_placed apart attends

/-- The worker's strand has ended, wherever it stood. -/
theorem retire_goesOn (apart : session.core.Apart) (outcome : Outcome) :
    session.core.GoesOn (session.finish workerStrand outcome).core := by
  rw [finish_core]
  refine ⟨.of_strands fun entry member => .inl (List.mem_of_mem_filter member),
    ⟨apart.next, ?_, apart.unhooked⟩, ?_⟩
  · exact fun entry member => apart.others entry (List.mem_of_mem_filter member)
  · intro entry member own
    have other := (List.mem_filter.mp member).2
    rw [own] at other
    cases other

end Strands

/-! ### Changing the watcher -/

section Watchers

variable {session : Session} {watcher next : Watcher}
  (watched : session.controller.watcher = some watcher) (follows : watcher.Follows next)
include watched

theorem core_phase : session.core.phase = some watcher.phase := congrArg (Option.map _) watched

include follows

theorem withWatcher_moves : session.core.Moves (session.withWatcher next).core := by
  refine ⟨.refl _, id, .inr ?_⟩
  show Option.Rel Watcher.Follows session.controller.watcher _
  rw [watched]
  exact .some follows

theorem withWatcher_apart (apart : session.core.Apart) : (session.withWatcher next).core.Apart := by
  refine ⟨apart.next, apart.others, ?_⟩
  intro seen there gone
  cases there
  exact apart.unhooked watcher watched (follows.gone ▸ gone)

end Watchers

end PasteQueue.Session
