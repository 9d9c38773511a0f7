import PasteQueue.Proofs.Queue.Fields
import PasteQueue.Proofs.Session.Course
import PasteQueue.Session.Script

/-!
How a session goes on with the commands of its script. Whatever the script, the state of the queue has
come about by requests; and unless the script aborts the worker, its watcher stands where a watch that
has gone on from the start stands.
-/

namespace PasteQueue.Session

/-- Commands that reach for the watcher themselves. -/
def Command.isWatchers : Command → Bool
  | .notify | .abortWatcher | .finishWatcher => true
  | .move _ | .parallel _ | .install _ | .reload _ | .registrations | .start | .stop | .event _
  | .capture .. => false

variable (session : Session)

/-! ### Commands that let the session go on -/

section GoesOn

variable (placed : session.core.Placed)
include placed

theorem join_goesOn (strands : List StrandId) :
    session.core.GoesOn (session.join strands).core := by
  have joining := session.joinFrom_goesOn placed script_other strands
  exact joining.trans (settle_goesOn _ joining.placed)

theorem move_goesOn (move : Move) : session.core.GoesOn (session.move move).2.core := by
  have taken : session.core.GoesOn (session.takeMove scriptStrand .script move).core :=
    session.takeMove_goesOn placed script_other (by nofun) move
  unfold Session.move
  dsimp only
  split <;> exact taken.trans (settle_goesOn _ taken.placed)

theorem spawnTasks_goesOn (tasks : List (Nat × Move)) :
    session.core.GoesOn (session.spawnTasks tasks).2.core := by
  induction tasks generalizing session with
  | nil => exact placed.goesOn
  | cons task rest ih =>
    have spawned : session.core.GoesOn (session.spawn (.task task.1 task.2)).2.core :=
      session.spawn_goesOn placed rfl
    exact spawned.trans (ih _ spawned.placed)

theorem inject_goesOn (event : Input.Event) : session.core.GoesOn (session.inject event).2.core := by
  unfold inject
  split
  · dsimp only
    generalize Dispatch.handle session.registry session.capture event.signature = handled
    obtain ⟨verdict, capture⟩ := handled
    let told := { session with capture }.log
      (Dispatch.records session.registry session.capture event.signature)
    let woken := (capture.signal.released.filter fun party =>
      !session.capture.signal.released.contains party).foldl wake told
    have same : woken.core = session.core := told.foldl_wake_core _ id
    have placed : woken.core.Placed := same ▸ placed
    rw [← same]
    cases verdict with
    | matched action =>
      have spawned : woken.core.GoesOn (woken.spawn (.action action)).2.core :=
        woken.spawn_goesOn placed rfl
      exact spawned
    | passed | captured => exact placed.goesOn
  · exact placed.goesOn

theorem injectAll_goesOn (events : List (Nat × Input.Event)) :
    session.core.GoesOn (session.injectAll events).2.core := by
  induction events generalizing session with
  | nil => exact placed.goesOn
  | cons event rest ih =>
    obtain ⟨delay, event⟩ := event
    have slept := session.sleep_goesOn placed script_other delay
    have settled := slept.trans (settle_goesOn _ slept.placed)
    have injected := settled.trans (inject_goesOn _ settled.placed event)
    exact injected.trans (ih _ injected.placed)

theorem captureNext_goesOn (timeout : Nat) (events : List (Nat × Input.Event)) :
    session.core.GoesOn (session.captureNext timeout events).2.core := by
  have spawned : session.core.GoesOn (session.spawn (.capture timeout)).2.core :=
    session.spawn_goesOn placed rfl
  unfold captureNext
  dsimp only
  generalize session.spawn (.capture timeout) = spawns at spawned ⊢
  obtain ⟨waits, inside⟩ := spawns
  let begun :=
    if inside.capture.capturing then inside
    else ((inside.setStrand scriptStrand (.yielding waits)).wake scriptStrand).settle
  have begins : session.core.GoesOn begun.core := by
    dsimp only [begun]
    split
    · exact spawned
    · have yielding : inside.core.GoesOn
          ((inside.setStrand scriptStrand (.yielding waits)).wake scriptStrand).core := by
        rw [wake_core]
        exact inside.setStrand_goesOn spawned.placed script_other rfl
      exact spawned.trans (yielding.trans (settle_goesOn _ yielding.placed))
  have injected := begins.trans (begun.injectAll_goesOn begins.placed events)
  have joined := injected.trans (join_goesOn _ injected.placed [waits])
  split <;> exact joined

theorem run_goesOn {command : Command} (others : command.isWatchers = false) :
    session.core.GoesOn (session.run command).2.core := by
  cases command with
  | move move => exact session.move_goesOn placed move
  | parallel tasks =>
    have spawned := session.spawnTasks_goesOn placed tasks
    exact spawned.trans (join_goesOn _ spawned.placed _)
  | reload toml =>
    have same : (session.reload toml).2.core = session.core := by
      unfold reload
      dsimp only
      split <;> rfl
    exact same ▸ placed.goesOn
  | start =>
    have same : (session.run .start).2.core = session.core := by
      unfold run
      dsimp only
      split <;> rfl
    exact same ▸ placed.goesOn
  | install | registrations | stop => exact placed.goesOn
  | event event => exact session.inject_goesOn placed event
  | capture timeout events => exact session.captureNext_goesOn placed timeout events
  | notify | abortWatcher | finishWatcher => cases others

end GoesOn

/-! ### Commands about the watcher -/

theorem notifyWatcher_told (controller : Controller) :
    controller.notifyWatcher.state = controller.state ∧
      controller.notifyWatcher.hooked = controller.hooked ∧
      controller.notifyWatcher.watcher = controller.watcher.map Watcher.notify := by
  unfold Controller.notifyWatcher
  cases watched : controller.watcher with
  | none => exact ⟨rfl, rfl, watched⟩
  | some watcher => exact ⟨rfl, rfl, rfl⟩

theorem notify_core : (session.run .notify).2.core = session.core.notified := by
  obtain ⟨state, hooked, watcher⟩ := notifyWatcher_told session.controller
  show (session.absorb session.controller.notifyWatcher).core = _
  rw [absorb_core, state, hooked, watcher]
  rfl

/-- Nobody is left who could notify the watcher. -/
def withoutNotifiers (session : Session) : Session :=
  { session with controller := { session.controller with
    hooked := false, watcher := session.controller.watcher.map Watcher.dropNotifiers } }

def withoutWatcher (session : Session) : Session :=
  { session with controller := { session.controller with watcher := none } }

/-- A worker that is still there is joined when nobody can notify it any more. -/
theorem finishWatcher_cases :
    session.finishWatcher.2 = session.withoutNotifiers.withoutWatcher ∨
      session.finishWatcher.2 =
        (session.withoutNotifiers.wakeWorker.join [workerStrand]).withoutWatcher := by
  unfold finishWatcher
  dsimp only
  split
  · exact .inl rfl
  · exact .inr rfl

theorem abortWatcher_cases :
    session.abortWatcher.2 = session ∨ ∃ stage, session.abortWatcher.2 =
      ((session.setStrand workerStrand (.cancelled stage)).wake workerStrand).join
        [workerStrand] := by
  unfold abortWatcher
  split
  · exact .inl rfl
  · exact .inl rfl
  · exact .inr ⟨_, rfl⟩

section Watchers

variable {session : Session} (placed : session.core.Placed)
include placed

theorem withoutNotifiers_placed : session.withoutNotifiers.core.Placed := by
  have phase : session.withoutNotifiers.core.phase = session.core.phase := by
    show (session.controller.watcher.map Watcher.dropNotifiers).map (·.phase) = _
    rw [Option.map_map]
    rfl
  refine ⟨⟨placed.next, placed.others, fun _ _ _ => rfl⟩, ?_⟩
  rw [phase]
  exact placed.worker

theorem withoutWatcher_placed : session.withoutWatcher.core.Placed :=
  ⟨⟨placed.next, placed.others, nofun⟩, placed.whatever⟩

theorem finished_goesOn : session.withoutNotifiers.core.GoesOn
    (session.withoutNotifiers.wakeWorker.join [workerStrand]).core := by
  have placed := withoutNotifiers_placed placed
  rw [← wakeWorker_core] at placed ⊢
  exact join_goesOn _ placed [workerStrand]

theorem abortWatcher_serves : session.core.Serves session.abortWatcher.2.core := by
  rcases session.abortWatcher_cases with same | ⟨stage, same⟩ <;> rw [same]
  · exact placed.goesOn.serves
  · have cancelled : session.core.Serves
        ((session.setStrand workerStrand (.cancelled stage)).wake workerStrand).core := by
      rw [wake_core]
      exact ⟨session.attend_placed placed.toApart trivial, .refl _⟩
    exact cancelled.trans (join_goesOn _ cancelled.placed [workerStrand]).serves

theorem finishWatcher_serves : session.core.Serves session.finishWatcher.2.core := by
  rcases session.finishWatcher_cases with same | same <;> rw [same]
  · exact ⟨withoutWatcher_placed (withoutNotifiers_placed placed), .refl _⟩
  · have finished := finished_goesOn placed
    exact ⟨withoutWatcher_placed finished.placed, finished.state⟩

theorem run_serves (command : Command) : session.core.Serves (session.run command).2.core := by
  cases watchers : command.isWatchers with
  | false => exact (session.run_goesOn placed watchers).serves
  | true =>
    cases command with
    | notify =>
      rw [notify_core]
      exact ⟨placed.notified, .refl _⟩
    | abortWatcher => exact abortWatcher_serves placed
    | finishWatcher => exact finishWatcher_serves placed
    | move | parallel | install | reload | registrations | start | stop | event | capture =>
      cases watchers

end Watchers

/-! ### The watcher along the commands -/

/-- Nobody has aborted the worker, and whoever could notify the watcher still can. -/
structure Core.Watched (core : Core) : Prop extends core.Placed where
  held : ∀ watcher ∈ core.watcher, watcher.notifiersGone = false
  steady : ¬ core.Aborting

theorem Core.GoesOn.follows {before after : Core} (goes : before.GoesOn after)
    (steady : ¬ before.Aborting) {later : Watcher} (there : after.watcher = some later) :
    ∃ earlier, before.watcher = some earlier ∧ earlier.Follows later := by
  have follows := goes.watcher.resolve_left steady
  rw [there] at follows
  cases watched : before.watcher with
  | none =>
    rw [watched] at follows
    cases follows
  | some earlier =>
    rw [watched] at follows
    cases follows with
    | some follows => exact ⟨earlier, rfl, follows⟩

theorem Core.GoesOn.watched {before after : Core} (goes : before.GoesOn after)
    (watched : before.Watched) : after.Watched where
  toPlaced := goes.placed
  held later there := by
    obtain ⟨earlier, before, follows⟩ := goes.follows watched.steady there
    rw [follows.gone]
    exact watched.held earlier before
  steady aborting := watched.steady (goes.aborting aborting)

theorem Core.GoesOn.leads {before after : Core} (goes : before.GoesOn after)
    (watched : before.Watched) :
    after.Watched ∧ ∀ later ∈ after.watcher, ∃ earlier ∈ before.watcher, earlier.Follows later :=
  ⟨goes.watched watched, fun _ there => goes.follows watched.steady there⟩

section Watched

variable {session : Session} (watched : session.core.Watched)
include watched

theorem finishWatcher_watched :
    session.finishWatcher.2.core.Watched ∧ session.finishWatcher.2.core.watcher = none := by
  have gone : session.finishWatcher.2.core.watcher = none := by
    rcases session.finishWatcher_cases with same | same <;> rw [same] <;> rfl
  refine ⟨⟨(finishWatcher_serves watched.toPlaced).placed, ?_, ?_⟩, gone⟩
  · rw [gone]
    exact nofun
  · rcases session.finishWatcher_cases with same | same <;> rw [same]
    · exact watched.steady
    · exact fun aborting => watched.steady ((finished_goesOn watched.toPlaced).aborting aborting)

/-- The worker that is joined has gone on from where the last notifier went. -/
theorem finished_tracks {watcher last : Watcher} {watch : Watcher.Watch}
    (there : session.controller.watcher = some watcher) (tracks : watch.Tracks watcher)
    (left : (session.withoutNotifiers.wakeWorker.join [workerStrand]).controller.watcher = some last) :
    ∃ events later, Watcher.Run watch (events ++ [.drop]) later ∧ later.Tracks last := by
  obtain ⟨middle, dropped, tracks⟩ := tracks.dropNotifiers (watched.held watcher there)
  obtain ⟨earlier, found, follows⟩ := (finished_goesOn watched.toPlaced).follows watched.steady left
  have same : earlier = watcher.dropNotifiers := by
    have found : session.controller.watcher.map Watcher.dropNotifiers = some earlier := found
    rw [there] at found
    exact (Option.some.inj found).symm
  rw [← same] at tracks
  obtain ⟨events, later, run, tracks⟩ := follows.runs middle tracks
  exact ⟨events, later, (Watcher.Run.rest.step dropped).append run, tracks⟩

theorem run_watched {command : Command} (steady : command ≠ .abortWatcher) :
    (session.run command).2.core.Watched ∧
      ∀ later ∈ (session.run command).2.core.watcher,
        ∃ earlier ∈ session.core.watcher, earlier.Follows later := by
  cases watchers : command.isWatchers with
  | false => exact (session.run_goesOn watched.toPlaced watchers).leads watched
  | true =>
    cases command with
    | notify =>
      rw [notify_core]
      have goes : session.core.GoesOn session.core.notified :=
        ⟨Core.notified_moves watched.held, watched.notified⟩
      exact goes.leads watched
    | abortWatcher => exact absurd rfl steady
    | finishWatcher =>
      obtain ⟨finished, gone⟩ := finishWatcher_watched watched
      refine ⟨finished, fun later there => ?_⟩
      rw [show (session.run .finishWatcher).2.core.watcher = none from gone] at there
      cases there
    | move | parallel | install | reload | registrations | start | stop | event | capture =>
      cases watchers

end Watched

/-! ### Scripts -/

/-- The session once it has run the commands of a script. -/
def through (session : Session) (commands : List Command) : Session :=
  commands.foldl (fun session command => (session.step command).2) session

theorem through_serves {session : Session} (placed : session.core.Placed) (commands : List Command) :
    session.core.Serves (session.through commands).core := by
  induction commands generalizing session with
  | nil => exact placed.goesOn.serves
  | cons command rest ih =>
    have first : session.core.Serves (session.step command).2.core := run_serves placed command
    exact first.trans (ih first.placed)

theorem through_follows {session : Session} (watched : session.core.Watched)
    {commands : List Command} (steady : .abortWatcher ∉ commands) {last : Watcher}
    (there : (session.through commands).controller.watcher = some last) :
    ∃ watcher, session.controller.watcher = some watcher ∧ watcher.Follows last := by
  induction commands generalizing session with
  | nil => exact ⟨last, there, .refl last⟩
  | cons command rest ih =>
    obtain ⟨other, steady⟩ := List.ne_and_not_mem_of_not_mem_cons steady
    obtain ⟨ran, leads⟩ := run_watched watched (Ne.symm other)
    have ran : (session.step command).2.core.Watched := ran
    obtain ⟨between, found, further⟩ := ih ran steady there
    obtain ⟨watcher, before, follows⟩ := leads between found
    exact ⟨watcher, before, follows.trans further⟩

/-! ### From the start -/

section Start

variable {settings : ControllerSettings} {watcher : Option (Nat × Bool)}

theorem ofSettings_core (settings : ControllerSettings) (watcher : Option (Nat × Bool)) :
    (ofSettings settings watcher).core =
      { state := .init settings.queue settings.order
        watcher := watcher.map fun watch => { debounce := watch.1 }
        hooked := watcher.any (·.2)
        strands := watcher.toList.map fun _ => (workerStrand, .worker)
        nextStrand := 2 } := by
  cases watcher with
  | none => rfl
  | some watch => exact wake_core ..

/-- The application begins as a script does that has its settings. -/
theorem ofConfig_core (config : Config) :
    (ofConfig config).2.core = (ofSettings config.controllerSettings
      (if config.features.clipboard then some (config.clipboard.watchDebounce, true)
        else none)).core :=
  rfl

theorem ofSettings_watched (settings : ControllerSettings) (watcher : Option (Nat × Bool)) :
    (ofSettings settings watcher).core.Watched := by
  rw [ofSettings_core]
  have begun : ∀ entry ∈ watcher.toList.map fun _ => (workerStrand, Strand.worker),
      entry = (workerStrand, .worker) := by
    intro entry member
    obtain ⟨_, -, rfl⟩ := List.mem_map.mp member
    rfl
  have fresh : ∀ seen ∈ watcher.map fun watch => ({ debounce := watch.1 } : Watcher),
      seen.notifiersGone = false ∧ seen.phase = .idle := by
    intro seen there
    obtain ⟨watch, -, rfl⟩ := Option.map_eq_some_iff.mp there
    exact ⟨rfl, rfl⟩
  refine ⟨⟨⟨Nat.one_lt_two, ?_, ?_⟩, ?_⟩, fun seen there => (fresh seen there).1, ?_⟩
  · intro entry member other
    exact absurd (congrArg Prod.fst (begun entry member)) other
  · intro seen there gone
    rw [(fresh seen there).1] at gone
    cases gone
  · intro entry member own
    rw [begun entry member]
    intro stands there
    obtain ⟨seen, found, rfl⟩ := Option.map_eq_some_iff.mp there
    exact .inl (fresh seen found).2
  · intro aborting
    obtain ⟨stage, member⟩ := aborting
    cases congrArg Prod.snd (begun _ member)

variable {start : Session} (begins : start.core = (ofSettings settings watcher).core)
  (commands : List Command)
include begins

/-- Whatever the script, the state of the queue has come about by requests. -/
theorem script_requests :
    ∃ requests, (start.through commands).controller.state =
      (Queue.State.init settings.queue settings.order).after requests := by
  have placed := (ofSettings_watched settings watcher).toPlaced
  rw [← begins] at placed
  have serves := (through_serves placed commands).state
  rw [begins, ofSettings_core] at serves
  exact serves

/-- So the three fields of queue mode are what the requests make of them one by one. -/
theorem script_fields :
    ∃ requests, (start.through commands).controller.state.fields =
      (Queue.Fields.init settings.queue settings.order).after requests := by
  obtain ⟨requests, asked⟩ := script_requests begins commands
  refine ⟨requests, ?_⟩
  rw [asked]
  exact (Queue.Fields.run_agrees settings.queue settings.order requests).2.1.symm

variable {commands}

/-- A script that does not abort the worker goes through a watch of its own. -/
theorem script_watch (steady : .abortWatcher ∉ commands) {last : Watcher}
    (there : (start.through commands).controller.watcher = some last) :
    ∃ debounce events watch, watcher.map (·.1) = some debounce ∧
      Watcher.Run (.spawned debounce) events watch ∧ watch.Tracks last := by
  have watched := ofSettings_watched settings watcher
  rw [← begins] at watched
  obtain ⟨earlier, found, follows⟩ := through_follows watched steady there
  have found : start.core.watcher = some earlier := found
  rw [begins, ofSettings_core] at found
  obtain ⟨watch, rfl, rfl⟩ := Option.map_eq_some_iff.mp found
  obtain ⟨events, later, run, tracks⟩ := follows.runs _ (Watcher.spawned_tracks watch.1)
  exact ⟨watch.1, events, later, rfl, run, tracks⟩

/-- A copy that has been noticed and waits for the debounce time. -/
example : ((ofSettings {} (some (30, true))).through
    [.move (.external (.text "a")), .move (.sleep 10)]).controller.watcher =
      some { debounce := 30, phase := .debouncing } := by
  decide +kernel

end Start

end PasteQueue.Session
