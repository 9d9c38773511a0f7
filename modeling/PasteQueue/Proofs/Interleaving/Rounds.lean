import PasteQueue.Proofs.Interleaving.Watched
import PasteQueue.Proofs.Watcher

/-!
The worker beside the application keeps to the rounds of the watcher, so that what holds of these holds
of it: an update lasts as long as the worker has it in hand.
-/

namespace PasteQueue

variable {worker : StrandId} {start world after : World} {past : List Moment} {choice : Choice}
variable {watch : Watcher.Watch}

namespace World

def round (world : World) (worker : StrandId) (watcher : Watcher) : Watcher.Round :=
  if (world.tasks worker).isSome then .updating
  else if watcher.phase = .debouncing then .resting
  else .waiting

structure Follows (world : World) (worker : StrandId) (watch : Watcher.Watch) : Prop where
  watched : world.controller.watcher = some watch.watcher
  held : watch.handles = 1
  round : watch.round = world.round worker watch.watcher
  busy : (world.tasks worker).isSome = true → watch.watcher.phase = .updating

theorem Step.tasks_none (taken : world.Step choice after)
    (apart : ∀ operation, choice ≠ .start worker operation) (free : world.tasks worker = none) :
    after.tasks worker = none := by
  have aside : ∀ strand controller task, strand ≠ worker →
      (world.move controller strand task).tasks worker = none := by
    intro strand controller task other
    rw [← free]
    exact Function.update_of_ne (Ne.symm other) task world.tasks
  have busy : ∀ strand task, world.tasks strand = some task → strand ≠ worker := by
    rintro strand task there rfl
    rw [free] at there
    cases there
  cases taken with
  | @start strand operation unused =>
    have other : strand ≠ worker := by
      rintro rfl
      exact apart operation rfl
    exact aside strand _ _ other
  | request task => exact aside _ _ _ (busy _ _ task)
  | resume task opened => exact aside _ _ _ (busy _ _ task)
  | call task => exact aside _ _ _ (busy _ _ task)
  | external | fail | pass => exact free

/-- A step that is not the worker's turn notifies it at most, and may end its update. -/
theorem Follows.step {first : Watcher.Watch} {events : List Watcher.Event}
    (follows : world.Follows worker watch) (run : Watcher.Run first events watch)
    (taken : world.Step choice after) (apart : ∀ operation, choice ≠ .start worker operation) :
    ∃ newer later, Watcher.Run first (newer ++ events) later ∧ after.Follows worker later ∧
      newer.countP Watcher.Event.isUpdate = 0 := by
  have held : watch.handles ≠ 0 := by simp [follows.held]
  have notified : ∃ newer watcher, after.controller.watcher = some watcher ∧
      watcher.phase = watch.watcher.phase ∧
      Watcher.Run first (newer ++ events) { watch with watcher } ∧
      newer.countP Watcher.Event.isUpdate = 0 := by
    rcases taken.watching.watcher with same | ⟨-, told⟩
    · exact ⟨[], watch.watcher, same.trans follows.watched, rfl, run, rfl⟩
    · rw [follows.watched] at told
      exact ⟨[_], watch.watcher.notify, told, by simp, run.step (.notify held), rfl⟩
  obtain ⟨newer, watcher, watched, phase, run, none⟩ := notified
  have same : world.round worker watcher = watch.round := by
    rw [follows.round, World.round, World.round, phase]
  by_cases free : after.tasks worker = .none
  · cases before : world.tasks worker with
    | none =>
      refine ⟨newer, _, run, ⟨watched, follows.held, ?_, ?_⟩, none⟩
      · rw [← same, World.round, World.round, before, free]
      · simp [free]
    | some task =>
      have updates : Watcher.Watch.round { watch with watcher } = .updating := by
        simp [follows.round, World.round, before]
      have updating := follows.busy (by simp [before])
      have finished := run.step (.finish updates (.ok .nothing))
      refine ⟨_ :: newer, _, finished, ⟨watched, follows.held, ?_, ?_⟩, none⟩
      · simp [World.round, free, phase, updating]
      · simp [free]
  · have before : (world.tasks worker).isSome = true := by
      rw [Option.isSome_iff_ne_none]
      exact fun none => free (taken.tasks_none apart none)
    have still : (after.tasks worker).isSome = true := Option.isSome_iff_ne_none.mpr free
    refine ⟨newer, _, run, ⟨watched, follows.held, ?_, ?_⟩, none⟩
    · change watch.round = _
      rw [← same, World.round, World.round, if_pos before, if_pos still]
    · exact fun _ => phase.trans (follows.busy before)

theorem Follows.receive {debounce : Nat} {events : List Watcher.Event}
    (follows : world.Follows worker watch) (run : Watcher.Run (.spawned debounce) events watch)
    (free : watch.watcher.phase = .idle ∨
      watch.watcher.phase = .updating ∧ world.tasks worker = none) :
    ∃ later, Watcher.Run (.spawned debounce) (.receive :: events) later ∧
      (world.withWatcher watch.watcher.receive).Follows worker later := by
  have unused : world.tasks worker = none := by
    rcases free with idle | updated
    · by_contra busy
      have updating := follows.busy (Option.isSome_iff_ne_none.mpr busy)
      rw [idle] at updating
      cases updating
    · exact updated.2
  have phase : watch.watcher.phase = .idle ∨ watch.watcher.phase = .updating :=
    free.imp_right And.left
  have waits : watch.round = .waiting := by
    rw [follows.round, World.round, unused]
    rcases phase with idle | updating <;> simp [*]
  have runs : watch.watcher.phase ≠ .ended := by
    rcases phase with idle | updating <;> simp [*]
  have attended : watch.watcher.notifiersGone = false := by
    rw [Bool.eq_false_iff]
    intro gone
    simp [run.sound.gone, follows.held] at gone
  have still : (world.withWatcher watch.watcher.receive).tasks worker = none := unused
  refine ⟨_, run.step (.receive waits runs), rfl, follows.held, ?_, ?_⟩
  · rw [World.round, still]
    cases pending : watch.watcher.pending <;> simp [Watcher.receive, pending, attended]
  · simp [still]

theorem Follows.drain {first : Watcher.Watch} {events : List Watcher.Event}
    (follows : world.Follows worker watch) (run : Watcher.Run first events watch)
    (rested : watch.watcher.phase = .debouncing)
    (taken : (world.withWatcher watch.watcher.drain).Step (.start worker .update) after) :
    ∃ later, Watcher.Run first (.update :: .drain :: .rest :: events) later ∧
      after.Follows worker later := by
  cases taken with
  | start free =>
    have unused : world.tasks worker = none := free
    have rests : watch.round = .resting := by
      rw [follows.round, World.round, unused]
      simp [rested]
    have busy : ((world.withWatcher watch.watcher.drain).put worker .update
        ((world.withWatcher watch.watcher.drain).controller.launch .update)).tasks worker =
          some ⟨.update, .arriving .checking⟩ := Function.update_self ..
    refine ⟨_, ((run.step (.rest rests)).step (.drain rfl)).step (.update rfl), rfl, follows.held,
      ?_, fun _ => rfl⟩
    rw [World.round, busy]
    rfl

end World

theorem Choice.starts_eq_false (apart : ∀ operation, choice ≠ .start worker operation) :
    choice.starts worker = false := by
  cases choice with
  | start strand operation =>
    rw [Choice.starts, beq_eq_false_iff_ne]
    rintro rfl
    exact apart operation rfl
  | request | resume | call | external | fail | pass => rfl

/-- The worker's turns are the rounds of a watcher with one handle, with as many updates. -/
theorem WatchedRun.rounds (run : WatchedRun worker start past world) (wired : start.Wired) :
    ∃ debounce events watch, Watcher.Run (.spawned debounce) events watch ∧
      world.Follows worker watch ∧
      events.countP Watcher.Event.isUpdate =
        past.countP fun moment => moment.choice.starts worker := by
  induction run with
  | rest =>
    obtain ⟨debounce, watched⟩ := wired.watcher
    have free := wired.idle worker
    refine ⟨debounce, [], _, .rest, ⟨watched, rfl, ?_, ?_⟩, rfl⟩
    · simp [World.round, free, Watcher.Watch.spawned]
    · simp [free]
  | step earlier taken apart ih =>
    obtain ⟨debounce, events, watch, run, follows, same⟩ := ih
    obtain ⟨newer, later, run, follows, none⟩ := follows.step run taken apart
    refine ⟨debounce, _, later, run, follows, ?_⟩
    rw [List.countP_append, none, same, List.countP_cons_of_neg (by simp [Choice.starts_eq_false apart])]
    omega
  | receive earlier watched free ih =>
    obtain ⟨debounce, events, watch, run, follows, same⟩ := ih
    cases follows.watched.symm.trans watched
    obtain ⟨later, run, follows⟩ := follows.receive run free
    exact ⟨debounce, _, later, run, follows, same⟩
  | drain earlier watched rested taken ih =>
    obtain ⟨debounce, events, watch, run, follows, same⟩ := ih
    cases follows.watched.symm.trans watched
    obtain ⟨later, run, follows⟩ := follows.drain run rested taken
    refine ⟨debounce, _, later, run, follows, ?_⟩
    simpa [Choice.starts, Watcher.Event.isUpdate, List.countP_cons] using same

end PasteQueue
