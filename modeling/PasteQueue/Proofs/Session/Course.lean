import PasteQueue.Proofs.Session.Core

/-!
How a session goes on while its strands run. Whatever runs keeps the worker's strand in its place, asks
the queue for what it does to it, and takes the watcher on as a watch goes; and so does the session until
its script is ready.
-/

namespace PasteQueue.Session

open Controller (Served)

/-! ### Operations -/

section Absorb

variable (session : Session) {controller : Controller}
  (served : session.controller.Served controller)
include served

theorem absorb_cases : ∃ requests,
    (session.absorb controller).core = session.core.asked requests ∨
      session.core.hooked = true ∧
        (session.absorb controller).core = (session.core.asked requests).notified := by
  obtain ⟨requests, asks⟩ := served.state
  refine ⟨requests, ?_⟩
  rw [absorb_core, asks, served.hooked]
  rcases served.watcher with same | ⟨hooked, notified⟩
  · rw [same]
    exact .inl rfl
  · rw [notified]
    exact .inr ⟨hooked, rfl⟩

theorem absorb_moves (apart : session.core.Apart) :
    session.core.Moves (session.absorb controller).core := by
  obtain ⟨requests, same | ⟨hooked, notified⟩⟩ := session.absorb_cases served
  · rw [same]
    exact session.core.asked_moves requests
  · rw [notified]
    refine (session.core.asked_moves requests).trans (Core.notified_moves ?_)
    intro watcher watched
    refine Bool.eq_false_iff.mpr fun gone => ?_
    have unhooked := apart.unhooked watcher watched gone
    rw [hooked] at unhooked
    cases unhooked

theorem absorb_apart (apart : session.core.Apart) : (session.absorb controller).core.Apart := by
  obtain ⟨requests, same | ⟨-, notified⟩⟩ := session.absorb_cases served
  · rw [same]
    exact apart.asked requests
  · rw [notified]
    exact (apart.asked requests).notified

theorem absorb_phase : (session.absorb controller).core.phase = session.core.phase := by
  obtain ⟨requests, same | ⟨-, notified⟩⟩ := session.absorb_cases served
  · rw [same]
    rfl
  · rw [notified]
    exact Core.notified_phase _

theorem absorb_goesOn (placed : session.core.Placed) :
    session.core.GoesOn (session.absorb controller).core where
  toMoves := session.absorb_moves served placed.toApart
  placed := by
    refine ⟨session.absorb_apart served placed.toApart, ?_⟩
    rw [session.absorb_phase served, absorb_core]
    exact placed.worker

theorem absorb_updating (updating : session.core.Updating) :
    (session.absorb controller).core.Updating := by
  refine ⟨session.absorb_apart served updating.toApart, ?_, ?_⟩
  · rw [absorb_core]
    exact updating.worker
  · rw [session.absorb_phase served]
    exact updating.updates

end Absorb

variable (session : Session)

/-- The worker has updated and turns to its channel. -/
theorem workerAgain_goesOn (updating : session.core.Updating) (result : Controller.Result) :
    session.core.GoesOn session.workerAgain.core := by
  unfold workerAgain
  cases watched : session.controller.watcher with
  | none =>
    -- The watcher has been taken away meanwhile, and with it whatever its strand was to do.
    refine ⟨.refl _, updating.toApart, fun entry member own => ?_⟩
    have phase : session.core.phase = none := congrArg (Option.map _) watched
    rw [phase]
    exact updating.worker entry member own
  | some watcher =>
    have updates : watcher.phase = .updating := updating.updates _ (core_phase watched)
    have idle := Watcher.Follows.idle updates result
    have attends : Strand.worker.Attends
        (session.withWatcher { watcher with phase := .idle }).core.phase := by
      intro stands there
      cases there
      exact .inl rfl
    have apart := withWatcher_apart watched idle updating.toApart
    have again := (withWatcher_moves watched idle).then
      (attend_goesOn _ apart attends fun stage => nofun)
    dsimp only
    split <;> exact again

section CarryOut

variable {step : Controller.Step} (served : session.controller.Served step.2)
include served

theorem carryOut_goesOn {id : StrandId} {purpose : Purpose} (placed : session.core.Placed)
    (other : id ≠ workerStrand) (others : purpose ≠ .worker) :
    session.core.GoesOn (session.carryOut id purpose step).core := by
  unfold carryOut
  dsimp only
  have served := served.proceed id session.stride
  generalize Controller.proceed id session.stride step = run at served ⊢
  let passed : Session := { session with stride := run.left }
  have absorbed : session.core.GoesOn (passed.absorb run.controller).core :=
    passed.absorb_goesOn served placed
  generalize passed.absorb run.controller = after at absorbed ⊢
  refine absorbed.trans ?_
  have placed := absorbed.placed
  have others : decide (purpose = .worker) = false := decide_eq_false others
  cases run.halt with
  | waiting stage =>
    dsimp only
    rw [park_core]
    exact after.setStrand_goesOn placed other others
  | paused stage =>
    dsimp only
    rw [wake_core]
    exact after.setStrand_goesOn placed other others
  | finished result =>
    cases purpose with
    | script | task => exact after.finish_goesOn placed id _
    | action action => exact (after.log _).finish_goesOn placed id _
    | worker => cases others

theorem carryOut_updating (updating : session.core.Updating) :
    session.core.GoesOn (session.carryOut workerStrand .worker step).core := by
  unfold carryOut
  dsimp only
  have served := served.proceed workerStrand session.stride
  generalize Controller.proceed workerStrand session.stride step = run at served ⊢
  let passed : Session := { session with stride := run.left }
  have absorbed : session.core.Moves (passed.absorb run.controller).core :=
    passed.absorb_moves served updating.toApart
  have updating : (passed.absorb run.controller).core.Updating :=
    passed.absorb_updating served updating
  generalize passed.absorb run.controller = after at absorbed updating ⊢
  refine absorbed.then ?_
  cases run.halt with
  | waiting stage =>
    dsimp only
    rw [park_core]
    exact after.attend_goesOn updating.toApart ⟨rfl, updating.updates⟩ fun stage => nofun
  | paused stage =>
    dsimp only
    rw [wake_core]
    exact after.attend_goesOn updating.toApart ⟨rfl, updating.updates⟩ fun stage => nofun
  | finished result => exact (after.log _).workerAgain_goesOn updating result

end CarryOut

/-! ### Steps of a strand -/

section Steps

variable {id : StrandId} {purpose : Purpose} (placed : session.core.Placed)
include placed

theorem operate_goesOn (other : id ≠ workerStrand) (others : purpose ≠ .worker)
    (operation : Controller.Operation) :
    session.core.GoesOn (session.operate id purpose operation).core :=
  session.carryOut_goesOn (session.controller.begin_served id operation) placed other others

theorem external_goesOn (content : Clipboard.Content) :
    session.core.GoesOn (session.external content).core :=
  session.absorb_goesOn (session.controller.copy_served content) placed

theorem sleep_goesOn (other : id ≠ workerStrand) (millis : Nat) :
    session.core.GoesOn (session.sleep id millis).core := by
  have asleep : session.core.GoesOn (session.setStrand id .asleep).core :=
    session.setStrand_goesOn placed other rfl
  unfold sleep
  split
  · exact asleep
  · split
    · exact (session.pass 1).finish_goesOn placed id .silent
    · rw [wake_core]
      exact asleep

theorem takeMove_goesOn (other : id ≠ workerStrand) (others : purpose ≠ .worker) (move : Move) :
    session.core.GoesOn (session.takeMove id purpose move).core := by
  cases move with
  | external content =>
    have changed := session.external_goesOn placed content
    exact changed.trans (finish_goesOn _ changed.placed id .silent)
  | copy content =>
    have changed := session.external_goesOn placed content
    exact changed.trans (operate_goesOn _ changed.placed other others .update)
  | operate operation => exact session.operate_goesOn placed other others operation
  | copyItem label => exact session.operate_goesOn placed other others _
  | sleep millis => exact session.sleep_goesOn placed other millis
  | fail | holdSequence => exact (session.withDesktop _).finish_goesOn placed id .silent

theorem pollCapture_goesOn (other : id ≠ workerStrand) (waiter : Capture.Waiter) :
    session.core.GoesOn (session.pollCapture id waiter).core := by
  unfold pollCapture
  dsimp only
  generalize session.capture.poll id waiter session.clock = polled
  obtain ⟨progress, capture⟩ := polled
  let told := { session with capture }.log (session.capture.pollRecords id waiter session.clock)
  cases progress with
  | captured | timedOut => exact told.finish_goesOn placed id _
  | pending waiter =>
    have waiting : told.core.GoesOn (told.setStrand id (.waiting waiter)).core :=
      told.setStrand_goesOn placed other rfl
    dsimp only
    split <;> exact waiting

theorem startCapture_goesOn (other : id ≠ workerStrand) (timeout : Nat) :
    session.core.GoesOn (session.startCapture id timeout).core := by
  let told := { session with capture := session.capture.start }.log session.capture.startRecords
  exact told.pollCapture_goesOn placed other { timeout }

theorem joinFrom_goesOn (other : id ≠ workerStrand) (strands : List StrandId) :
    session.core.GoesOn (session.joinFrom id strands).core := by
  unfold joinFrom
  dsimp only
  split
  · exact (session.pass _).finish_goesOn placed id .silent
  · rename_i first rest _
    have joining : session.core.GoesOn (session.setStrand id (.joining (first :: rest))).core :=
      session.setStrand_goesOn placed other rfl
    split
    · rw [wake_core]
      exact joining
    · exact joining

end Steps

/-! ### The worker -/

section Worker

variable {session : Session}

/-- The debounce time is over. -/
theorem workerUpdate_goesOn {watcher : Watcher} (apart : session.core.Apart)
    (worker : ∀ entry ∈ session.core.strands, entry.1 = workerStrand → entry.2.Attends none)
    (watched : session.controller.watcher = some watcher) (debounced : watcher.phase = .debouncing) :
    session.core.GoesOn (session.workerUpdate watcher).core := by
  have drained := Watcher.Follows.drain debounced
  have updating : (session.withWatcher watcher.drain).core.Updating := by
    refine ⟨withWatcher_apart watched drained apart, worker, ?_⟩
    intro stands there
    cases there
    rfl
  exact (withWatcher_moves watched drained).then
    (carryOut_updating _ (Controller.begin_served _ _ _) updating)

theorem runWorker_goesOn (placed : session.core.Placed)
    (there : (workerStrand, .worker) ∈ session.core.strands) :
    session.core.GoesOn session.runWorker.core := by
  unfold runWorker
  cases watched : session.controller.watcher with
  | none => exact placed.goesOn
  | some watcher =>
    have phase := core_phase watched
    dsimp only
    rcases placed.worker _ there rfl _ phase with idle | debounced
    · -- What it receives may be the end, so its place is argued only where its strand stays.
      have received := Watcher.Follows.receive idle
      have moves := withWatcher_moves watched received
      have apart := withWatcher_apart watched received placed.toApart
      have waits : watcher.receive.phase = .idle ∨ watcher.receive.phase = .debouncing →
          (session.withWatcher watcher.receive).core.Placed := by
        refine fun turns => ⟨apart, fun entry member own => ?_⟩
        have attends := placed.worker entry member own
        rw [phase, idle] at attends
        exact attends.turns turns
      rw [idle]
      dsimp only
      cases turned : watcher.receive.phase with
      | idle => exact ⟨moves, waits (.inl turned)⟩
      | debouncing =>
        dsimp only
        split
        · exact moves.then (workerUpdate_goesOn apart placed.whatever rfl turned)
        · exact ⟨moves, waits (.inr turned)⟩
      | updating => exact absurd turned watcher.receive_not_updating
      | ended =>
        let told := (session.withWatcher watcher.receive).log [Watcher.exitRecord]
        exact moves.then (told.retire_goesOn apart .silent)
    · rw [debounced]
      exact workerUpdate_goesOn placed.toApart placed.whatever watched debounced

theorem absorb_noteFreed_core (controller : Controller) (freed : Option StrandId) :
    (session.absorb (controller.noteFreed freed)).core = (session.absorb controller).core := by
  rw [absorb_core, absorb_core]
  cases freed <;> rfl

theorem cancelWorker_eq (session : Session) (stage : Option Controller.Stage) :
    ∃ stopped : Session, session.cancelWorker stage = stopped.finish workerStrand .aborted ∧
      stopped.core = { session.core with watcher := session.core.watcher.map Watcher.stop } := by
  refine ⟨_, rfl, ?_⟩
  rw [absorb_noteFreed_core, absorb_core]
  rfl

theorem cancelWorker_goesOn (placed : session.core.Placed) {stage : Option Controller.Stage}
    (there : (workerStrand, .cancelled stage) ∈ session.core.strands) :
    session.core.GoesOn (session.cancelWorker stage).core := by
  obtain ⟨stopped, same, core⟩ := session.cancelWorker_eq stage
  have moves : session.core.Moves stopped.core := by
    rw [core]
    exact ⟨.refl _, id, .inl ⟨stage, there⟩⟩
  have apart : stopped.core.Apart := by
    rw [core]
    refine ⟨placed.next, placed.others, ?_⟩
    intro watcher watched gone
    obtain ⟨earlier, there, rfl⟩ := Option.map_eq_some_iff.mp watched
    exact placed.unhooked earlier there gone
  rw [same]
  exact moves.then (stopped.retire_goesOn apart .aborted)

end Worker

/-! ### The session -/

/-- A strand that has stopped within an operation goes on with it. -/
theorem carryOn_goesOn {id : StrandId} {purpose : Purpose} {step : Controller.Step}
    (served : session.controller.Served step.2) (placed : session.core.Placed) {strand : Strand}
    {stage : Controller.Stage} (there : (id, strand) ∈ session.core.strands)
    (within : strand = .operation stage purpose ∨ strand = .paused stage purpose) :
    session.core.GoesOn (session.carryOut id purpose step).core := by
  by_cases workers : purpose = .worker
  · have own : id = workerStrand := by
      refine placed.own there ?_
      rcases within with rfl | rfl <;> exact decide_eq_true workers
    have updates : ∀ stands ∈ session.core.phase, stands = .updating := by
      have attends := placed.worker _ there own
      rcases within with rfl | rfl <;> exact attends.2
    rw [own, workers]
    exact session.carryOut_updating served ⟨placed.toApart, placed.whatever, updates⟩
  · have other : id ≠ workerStrand := by
      refine placed.other there ?_
      rcases within with rfl | rfl <;> exact decide_eq_false workers
    exact session.carryOut_goesOn served placed other workers

theorem runStrand_goesOn (placed : session.core.Placed) (id : StrandId) :
    session.core.GoesOn (session.runStrand id).core := by
  unfold runStrand
  extract_lets fresh
  have placed : fresh.core.Placed := placed
  show fresh.core.GoesOn _
  clear_value fresh
  cases found : fresh.strand? id with
  | none => exact placed.goesOn
  | some strand =>
    have there := mem_of_strand? found
    cases strand with
    | operation stage purpose =>
      exact (fresh.pass 1).carryOn_goesOn (fresh.controller.resume_served id stage) placed there
        (.inl rfl)
    | paused stage purpose => exact fresh.carryOn_goesOn (.refl _) placed there (.inr rfl)
    | action action => exact fresh.operate_goesOn placed (placed.other there rfl) (by nofun) _
    | task delay move =>
      have other := placed.other there rfl
      cases delay with
      | zero => exact fresh.takeMove_goesOn placed other (by nofun) move
      | succ delay => exact fresh.setStrand_goesOn placed other rfl
    | asleep => exact (fresh.pass 1).finish_goesOn placed id .silent
    | joining strands => exact fresh.joinFrom_goesOn placed (placed.other there rfl) strands
    | yielding capture =>
      dsimp only
      split
      · exact fresh.finish_goesOn placed id .silent
      · rw [wake_core]
        exact placed.goesOn
    | worker =>
      cases placed.own there rfl
      exact runWorker_goesOn placed there
    | cancelled stage =>
      cases placed.own there rfl
      exact cancelWorker_goesOn placed there
    | capture timeout => exact fresh.startCapture_goesOn placed (placed.other there rfl) timeout
    | waiting waiter => exact fresh.pollCapture_goesOn placed (placed.other there rfl) waiter

theorem ask_goesOn (placed : session.core.Placed) : session.core.GoesOn session.ask.core := by
  unfold ask
  dsimp only
  split
  · exact runStrand_goesOn { session with round := longestRound, scriptReady := false } placed _
  · split
    · rw [tick_core]
      exact placed.goesOn
    · exact placed.goesOn

theorem turn_goesOn (placed : session.core.Placed) : session.core.GoesOn session.turn.core := by
  unfold turn
  split
  · rename_i id ready round _ _
    exact runStrand_goesOn { session with ready, round } placed id
  · exact session.ask_goesOn placed

theorem settleWith_goesOn (placed : session.core.Placed) (fuel : Nat) :
    session.core.GoesOn (settleWith fuel session).core := by
  induction fuel generalizing session with
  | zero => exact placed.goesOn
  | succ fuel ih =>
    unfold settleWith
    split
    · have turned := session.turn_goesOn placed
      exact turned.trans (ih _ turned.placed)
    · exact placed.goesOn

theorem settle_goesOn (placed : session.core.Placed) : session.core.GoesOn session.settle.core :=
  session.settleWith_goesOn placed _

end PasteQueue.Session
