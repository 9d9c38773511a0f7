import PasteQueue.Proofs.Controller.Watching
import PasteQueue.Proofs.Interleaving.Echoes

/-!
The application beside its watcher. A worker waits for notifications, lets the debounce time pass and
then updates, on a strand of its own; everybody else goes on as ever. What does not ask for the watcher
holds beside it as it does without one.
-/

namespace PasteQueue

open Clipboard (Content)

namespace World

def withWatcher (world : World) (watcher : Watcher) : World :=
  world.withController { world.controller with watcher := some watcher }

/-- Changes of the clipboard notify a worker that has nothing to do yet. -/
structure Wired (world : World) : Prop extends world.Fresh where
  watcher : ∃ debounce, world.controller.watcher = some { debounce }
  hooked : world.controller.hooked = true

def wired (settings : ControllerSettings) (content : Content) (debounce : Nat) : World :=
  (fresh settings content).withController
    { (fresh settings content).controller with watcher := some { debounce }, hooked := true }

theorem wired_wired (settings : ControllerSettings) (content : Content) (debounce : Nat) :
    (wired settings content debounce).Wired where
  toFresh := { fresh_fresh settings content with }
  watcher := ⟨debounce, rfl⟩
  hooked := rfl

end World

/-- A run beside the worker, who takes a notification when it has nothing else to do, and may take any
time before it updates. Nobody else starts anything on its strand. -/
inductive WatchedRun (worker : StrandId) (start : World) : List Moment → World → Prop
  | rest : WatchedRun worker start [] start
  | step {past : List Moment} {world after : World} {choice : Choice}
      (run : WatchedRun worker start past world) (taken : world.Step choice after)
      (apart : ∀ operation, choice ≠ .start worker operation) :
      WatchedRun worker start (⟨world, choice⟩ :: past) after
  | receive {past : List Moment} {world : World} {watcher : Watcher}
      (run : WatchedRun worker start past world) (watched : world.controller.watcher = some watcher)
      (free : watcher.phase = .idle ∨ watcher.phase = .updating ∧ world.tasks worker = none) :
      WatchedRun worker start past (world.withWatcher watcher.receive)
  | drain {past : List Moment} {world after : World} {watcher : Watcher}
      (run : WatchedRun worker start past world) (watched : world.controller.watcher = some watcher)
      (rested : watcher.phase = .debouncing)
      (taken : (world.withWatcher watcher.drain).Step (.start worker .update) after) :
      WatchedRun worker start (⟨world.withWatcher watcher.drain, .start worker .update⟩ :: past) after

/-- No coming read is made to fail. -/
def Choice.LetsRead (choice : Choice) : Prop :=
  ∀ script, choice = .fail .read script → ∀ entry ∈ script, entry = none

/-! ### What the steps leave to the watcher -/

namespace World

variable {world after : World} {choice : Choice}

theorem Step.watching (taken : world.Step choice after) :
    world.controller.Watching after.controller := by
  cases taken with
  | start free => exact (Controller.launch_steady world.controller _).toWatching
  | request task =>
    rename_i strand operation stage
    cases stage <;> exact ⟨rfl, .inl rfl⟩
  | resume task opened => exact (Controller.approach_steady world.controller _).toWatching
  | call task => exact Controller.complete_watching world.controller _ _
  | external content => exact (Controller.copy_steady world.controller content).toWatching
  | fail | pass => exact ⟨rfl, .inl rfl⟩

theorem Gated.turn (gated : world.Gated) (watcher : Watcher) : (world.withWatcher watcher).Gated :=
  ⟨gated.write, gated.paste, gated.family⟩

/-- Somebody is there to be notified. -/
structure Attended (world : World) : Prop where
  hooked : world.controller.hooked = true
  watcher : ∃ watcher, world.controller.watcher = some watcher ∧
    watcher.notifiersGone = false ∧ watcher.phase ≠ .ended

theorem Attended.step (attended : world.Attended) (taken : world.Step choice after) :
    after.Attended where
  hooked := taken.watching.hooked.trans attended.hooked
  watcher := by
    obtain ⟨watcher, watched, notified, runs⟩ := attended.watcher
    rcases taken.watching.watcher with same | ⟨-, told⟩
    · exact ⟨watcher, same.trans watched, notified, runs⟩
    · refine ⟨watcher.notify, by rw [told, watched]; rfl, ?_, ?_⟩
      · rw [Watcher.notify_notifiersGone, notified]
      · rw [Watcher.notify_phase]
        exact runs

end World

/-! ### Along a run beside the worker -/

namespace WatchedRun

variable {worker : StrandId} {start world : World} {past : List Moment}

/-- Whatever does not ask for the watcher holds beside the worker as it does without one. -/
theorem keeps {motive : List Moment → World → Prop} (run : WatchedRun worker start past world)
    (rest : motive [] start)
    (turn : ∀ {past world} (watcher : Watcher), motive past world →
      motive past (world.withWatcher watcher))
    (step : ∀ {past world after choice}, motive past world → world.Step choice after →
      motive (⟨world, choice⟩ :: past) after) :
    motive past world := by
  induction run with
  | rest => exact rest
  | step run taken apart ih => exact step ih taken
  | receive run watched free ih => exact turn _ ih
  | drain run watched rested taken ih => exact step (turn _ ih) taken

theorem counted (run : WatchedRun worker start past world) (fresh : start.Fresh) :
    World.Counted start (changes past) world :=
  run.keeps (motive := fun past world => World.Counted start (changes past) world) fresh.counted
    (fun _ counted => ⟨counted.held, counted.sequence, counted.pointed, counted.own, counted.latest⟩)
    fun counted taken => counted.step taken

theorem gated (run : WatchedRun worker start past world) (fresh : start.Fresh) : world.Gated :=
  run.keeps (motive := fun _ world => world.Gated) fresh.gated
    (fun watcher gated => gated.turn watcher) fun gated taken => gated.step taken

theorem attended (run : WatchedRun worker start past world) (wired : start.Wired) :
    world.Attended := by
  induction run with
  | rest =>
    obtain ⟨debounce, watched⟩ := wired.watcher
    exact ⟨wired.hooked, _, watched, rfl, nofun⟩
  | step run taken apart ih => exact ih.step taken
  | receive run watched free ih =>
    obtain ⟨watcher, same, notified, runs⟩ := ih.watcher
    cases same.symm.trans watched
    refine ⟨ih.hooked, _, rfl, ?_⟩
    unfold Watcher.receive
    split <;> simp [notified]
  | @drain past world after watcher run watched rested taken ih =>
    obtain ⟨_, same, notified, runs⟩ := ih.watcher
    cases same.symm.trans watched
    have drained : (world.withWatcher watcher.drain).Attended :=
      ⟨ih.hooked, _, rfl, notified, nofun⟩
    exact drained.step taken

theorem readable (run : WatchedRun worker start past world)
    (readable : start.controller.desktop.scripts.Sound .read)
    (clear : ∀ moment ∈ past, moment.choice.LetsRead) :
    world.controller.desktop.scripts.Sound .read := by
  refine run.keeps (motive := fun past world => (∀ moment ∈ past, moment.choice.LetsRead) →
    world.controller.desktop.scripts.Sound .read) (fun _ => readable) (fun _ sound => sound) ?_ clear
  intro past world after choice sound taken clear
  exact taken.sound (sound fun moment member => clear moment (.tail _ member)) (clear _ (.head _))

end WatchedRun

/-! ### Playing a run beside the worker -/

/-- Somebody takes a step, or the worker takes a turn. -/
inductive Doing
  | take (choice : Choice)
  | receive
  | drain

/-- The step that is taken; the worker starts an update as it drains. -/
def Doing.choice? (worker : StrandId) : Doing → Option Choice
  | .take choice => some choice
  | .receive => none
  | .drain => some (.start worker .update)

def Choice.starts (worker : StrandId) : Choice → Bool
  | .start strand _ => strand == worker
  | _ => false

namespace World

def does? (worker : StrandId) (world : World) (past : List Moment) : Doing → Option (List Moment × World)
  | .take choice =>
    if choice.starts worker then none
    else (world.next? choice).map fun after => (⟨world, choice⟩ :: past, after)
  | .receive =>
    match world.controller.watcher with
    | some watcher =>
      if watcher.phase = .idle ∨ watcher.phase = .updating ∧ (world.tasks worker).isNone then
        some (past, world.withWatcher watcher.receive)
      else none
    | none => none
  | .drain =>
    match world.controller.watcher with
    | some watcher =>
      if watcher.phase = .debouncing then
        ((world.withWatcher watcher.drain).next? (.start worker .update)).map fun after =>
          (⟨world.withWatcher watcher.drain, .start worker .update⟩ :: past, after)
      else none
    | none => none

def beside (worker : StrandId) (world : World) (past : List Moment) :
    List Doing → Option (List Moment × World)
  | [] => some (past, world)
  | doing :: rest =>
    match world.does? worker past doing with
    | some (past, after) => after.beside worker past rest
    | none => none

end World

namespace WatchedRun

variable {worker : StrandId} {start world after : World} {past now : List Moment}

theorem does {doing : Doing} (run : WatchedRun worker start past world)
    (done : world.does? worker past doing = some (now, after)) :
    WatchedRun worker start now after ∧ ∃ newer, now = newer ++ past ∧
      newer.map Moment.choice = (doing.choice? worker).toList := by
  cases doing with
  | take choice =>
    dsimp only [World.does?] at done
    split at done
    · cases done
    · rename_i apart
      obtain ⟨next, taken, same⟩ := Option.map_eq_some_iff.mp done
      cases same
      refine ⟨run.step (World.step_iff.mpr taken) ?_, [Moment.mk world choice], rfl, rfl⟩
      intro operation starts
      rw [starts] at apart
      simp [Choice.starts] at apart
  | receive =>
    dsimp only [World.does?] at done
    split at done
    · rename_i watcher watched
      split at done
      · rename_i free
        cases done
        rw [Option.isNone_iff_eq_none] at free
        exact ⟨run.receive watched free, [], rfl, rfl⟩
      · cases done
    · cases done
  | drain =>
    dsimp only [World.does?] at done
    split at done
    · rename_i watcher watched
      split at done
      · rename_i rested
        obtain ⟨next, taken, same⟩ := Option.map_eq_some_iff.mp done
        cases same
        exact ⟨run.drain watched rested (World.step_iff.mpr taken), [_], rfl, rfl⟩
      · cases done
    · cases done

theorem beside {doings : List Doing} (run : WatchedRun worker start past world)
    (played : world.beside worker past doings = some (now, after)) :
    WatchedRun worker start now after ∧ ∃ newer, now = newer ++ past ∧
      newer.map Moment.choice = (doings.filterMap (Doing.choice? worker)).reverse := by
  induction doings generalizing past world with
  | nil =>
    cases played
    exact ⟨run, [], rfl, rfl⟩
  | cons doing rest ih =>
    dsimp only [World.beside] at played
    split at played
    · rename_i done
      obtain ⟨run, first, rfl, choice⟩ := run.does done
      obtain ⟨run, newer, rfl, choices⟩ := ih run played
      refine ⟨run, newer ++ first, (List.append_assoc ..).symm, ?_⟩
      rw [List.map_append, choices, choice]
      cases taken : doing.choice? worker with
      | none => simp [List.filterMap_cons_none taken]
      | some choice => simp [List.filterMap_cons_some taken]
    · cases played

end WatchedRun

section Played

variable {worker : StrandId} {start world : World} {past : List Moment}

def World.playedBeside (worker : StrandId) (world : World) (past : List Moment) (doings : List Doing)
    (playable : (world.beside worker past doings).isSome = true) : List Moment × World :=
  (world.beside worker past doings).get playable

theorem WatchedRun.played (run : WatchedRun worker start past world) (doings : List Doing)
    (playable : (world.beside worker past doings).isSome = true) :
    let played := world.playedBeside worker past doings playable
    WatchedRun worker start played.1 played.2 ∧ ∃ newer, played.1 = newer ++ past ∧
      newer.map Moment.choice = (doings.filterMap (Doing.choice? worker)).reverse :=
  run.beside (Option.some_get playable).symm

end Played

end PasteQueue
