import PasteQueue.Proofs.Watcher

/-!
The watcher of a session and the watch that it is part of. A session tells where the worker stands by
the watcher's phase alone: at rest with a notification, with an update in hand, or waiting. What the
session does to the watcher are steps of the watch.
-/

namespace PasteQueue.Watcher

theorem Run.append {start middle watch : Watch} {past later : List Event} (run : Run start past middle)
    (next : Run middle later watch) : Run start (later ++ past) watch := by
  induction next with
  | rest => exact run
  | step _ taken further => exact further.step taken

@[simp] theorem receive_notifiersGone (watcher : Watcher) :
    watcher.receive.notifiersGone = watcher.notifiersGone := by
  unfold receive
  split
  · rfl
  · split <;> rfl

theorem receive_not_updating (watcher : Watcher) : watcher.receive.phase ≠ .updating := by
  unfold receive
  split
  · nofun
  · split <;> nofun

/-! ### A watch and its watcher -/

def Phase.round : Phase → Round
  | .idle | .ended => .waiting
  | .debouncing => .resting
  | .updating => .updating

/-- The handles of a session are dropped all at once. An update that is over leaves the phase of the
watch as it was until the worker receives again; in a session the worker is idle at once. -/
structure Watch.Tracks (watch : Watch) (watcher : Watcher) : Prop where
  round : watch.round = watcher.phase.round
  handles : watch.handles = if watcher.notifiersGone then 0 else 1
  watcher : watch.watcher = watcher ∨
    watcher.phase = .idle ∧ watch.watcher = { watcher with phase := .updating }

theorem spawned_tracks (debounce : Nat) : (Watch.spawned debounce).Tracks { debounce } :=
  ⟨rfl, rfl, .inl rfl⟩

section Tracks

variable {watch : Watch} {watcher : Watcher} (tracks : watch.Tracks watcher)
include tracks

theorem Watch.Tracks.ended_iff : watch.watcher.phase = .ended ↔ watcher.phase = .ended := by
  rcases tracks.watcher with same | ⟨idle, same⟩
  · rw [same]
  · simp [same, idle]

theorem Watch.Tracks.pending : watch.watcher.pending = watcher.pending := by
  rcases tracks.watcher with same | ⟨idle, same⟩ <;> rw [same]

theorem Watch.Tracks.reception : watch.watcher.reception = watcher.reception := by
  simp only [Watcher.reception, tracks.ended_iff, tracks.pending]

theorem Watch.Tracks.notify (held : watcher.notifiersGone = false) :
    ∃ later, watch.Step (.notify watcher.reception) later ∧ later.Tracks watcher.notify := by
  have one : watch.handles = 1 := by rw [tracks.handles, held]; rfl
  have taken : watch.Step (.notify watch.watcher.reception) _ := .notify (by simp [one])
  rw [tracks.reception] at taken
  refine ⟨_, taken, ?_, ?_, ?_⟩
  · rw [notify_phase]
    exact tracks.round
  · rw [notify_notifiersGone]
    exact tracks.handles
  · rcases tracks.watcher with same | ⟨idle, same⟩
    · exact .inl (congrArg Watcher.notify same)
    · refine .inr ⟨by rw [notify_phase, idle], ?_⟩
      simp [same, Watcher.notify, idle]

/-- The idle worker turns to its channel. -/
theorem Watch.Tracks.receive (idle : watcher.phase = .idle) :
    ∃ later, watch.Step .receive later ∧ later.Tracks watcher.receive := by
  have waits : watch.round = .waiting := by rw [tracks.round, idle]; rfl
  have runs : watch.watcher.phase ≠ .ended := by
    rw [Ne, tracks.ended_iff, idle]
    nofun
  have same : watch.watcher.receive = watcher.receive := by
    rcases tracks.watcher with same | ⟨-, same⟩
    · rw [same]
    · rw [same]
      rfl
  refine ⟨_, .receive waits runs, ?_, ?_, .inl same⟩
  · show (if watch.watcher.pending then Round.resting else .waiting) = watcher.receive.phase.round
    rw [tracks.pending]
    unfold Watcher.receive
    cases watcher.pending <;> cases watcher.notifiersGone <;> rfl
  · rw [receive_notifiersGone]
    exact tracks.handles

/-- The debounce time is over, and the worker goes on to its update. -/
theorem Watch.Tracks.update (debounced : watcher.phase = .debouncing) :
    ∃ later, Run watch [.update, .drain, .rest] later ∧ later.Tracks watcher.drain := by
  have rests : watch.round = .resting := by rw [tracks.round, debounced]; rfl
  have same : watch.watcher = watcher := by
    rcases tracks.watcher with same | ⟨idle, -⟩
    · exact same
    · exact nomatch debounced.symm.trans idle
  exact ⟨_, ((Run.rest.step (.rest rests)).step (.drain rfl)).step (.update rfl), rfl, tracks.handles,
    .inl (congrArg Watcher.drain same)⟩

theorem Watch.Tracks.finish (updates : watcher.phase = .updating) (result : Controller.Result) :
    ∃ later, watch.Step (.finish result) later ∧ later.Tracks { watcher with phase := .idle } := by
  have round : watch.round = .updating := by rw [tracks.round, updates]; rfl
  have same : watch.watcher = watcher := by
    rcases tracks.watcher with same | ⟨idle, -⟩
    · exact same
    · exact nomatch updates.symm.trans idle
  refine ⟨_, .finish round result, rfl, tracks.handles, .inr ⟨rfl, ?_⟩⟩
  rw [← updates]
  exact same

theorem Watch.Tracks.dropNotifiers (held : watcher.notifiersGone = false) :
    ∃ later, watch.Step .drop later ∧ later.Tracks watcher.dropNotifiers := by
  have one : watch.handles = 1 := by rw [tracks.handles, held]; rfl
  refine ⟨_, .drop (by simp [one]), tracks.round, ?_, ?_⟩
  · show watch.handles - 1 = 0
    rw [one]
  · rw [if_pos one]
    rcases tracks.watcher with same | ⟨idle, same⟩
    · exact .inl (congrArg Watcher.dropNotifiers same)
    · exact .inr ⟨idle, congrArg Watcher.dropNotifiers same⟩

end Tracks

/-! ### From one watcher to another -/

/-- Whatever watch the one is part of goes on, with no handle dropped, to a watch of the other. -/
structure Follows (before after : Watcher) : Prop where
  gone : after.notifiersGone = before.notifiersGone
  runs : ∀ watch : Watch, watch.Tracks before → ∃ events later, Run watch events later ∧ later.Tracks after

theorem Follows.refl (watcher : Watcher) : watcher.Follows watcher :=
  ⟨rfl, fun _ tracks => ⟨[], _, .rest, tracks⟩⟩

theorem Follows.trans {before after last : Watcher} (first : before.Follows after)
    (second : after.Follows last) : before.Follows last where
  gone := second.gone.trans first.gone
  runs watch tracks := by
    obtain ⟨events, middle, run, tracks⟩ := first.runs watch tracks
    obtain ⟨more, later, next, tracks⟩ := second.runs middle tracks
    exact ⟨_, later, run.append next, tracks⟩

variable {watcher : Watcher}

theorem Follows.notify (held : watcher.notifiersGone = false) : watcher.Follows watcher.notify where
  gone := watcher.notify_notifiersGone
  runs watch tracks := by
    obtain ⟨later, taken, tracks⟩ := tracks.notify held
    exact ⟨_, later, Run.rest.step taken, tracks⟩

theorem Follows.receive (idle : watcher.phase = .idle) : watcher.Follows watcher.receive where
  gone := watcher.receive_notifiersGone
  runs watch tracks := by
    obtain ⟨later, taken, tracks⟩ := tracks.receive idle
    exact ⟨_, later, Run.rest.step taken, tracks⟩

theorem Follows.drain (debounced : watcher.phase = .debouncing) : watcher.Follows watcher.drain where
  gone := rfl
  runs watch tracks := by
    obtain ⟨later, run, tracks⟩ := tracks.update debounced
    exact ⟨_, later, run, tracks⟩

theorem Follows.idle (updates : watcher.phase = .updating) (result : Controller.Result) :
    watcher.Follows { watcher with phase := .idle } where
  gone := rfl
  runs watch tracks := by
    obtain ⟨later, taken, tracks⟩ := tracks.finish updates result
    exact ⟨_, later, Run.rest.step taken, tracks⟩

end PasteQueue.Watcher
