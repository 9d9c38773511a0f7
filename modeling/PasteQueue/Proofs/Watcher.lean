import PasteQueue.Controller.Operation
import PasteQueue.Proofs.Controller.Watching

/-!
The rounds of the watcher's worker: it takes a notification, lets the debounce time pass, discards what
has come meanwhile, and updates. Notifications come through handles, at any moment of a round, from any
number of them and until the last is dropped.
-/

namespace PasteQueue.Watcher

/-- What becomes of a notification. -/
inductive Reception
  | queued | coalesced | dropped
  deriving DecidableEq, Repr

def reception (watcher : Watcher) : Reception :=
  if watcher.phase = .ended then .dropped
  else if watcher.pending then .coalesced
  else .queued

def Reception.record : Reception → Log.Record
  | .queued => ⟨.trace, target, "clipboard change queued", []⟩
  | .coalesced => ⟨.trace, target, "clipboard change coalesced", []⟩
  | .dropped => ⟨.warn, target, "clipboard watcher stopped; change dropped", []⟩

theorem reception_record (watcher : Watcher) :
    watcher.reception.record = watcher.notifyRecord := by
  unfold reception notifyRecord
  split
  · rfl
  · split <;> rfl

/-- One of what has piled up is discarded. -/
def discard (watcher : Watcher) : Watcher := { watcher with pending := false }

inductive Event
  | notify (reception : Reception)
  | clone
  | drop
  | receive
  | rest
  | discard
  | drain
  | update
  | finish (result : Controller.Result)

def Event.isQueued : Event → Bool
  | .notify .queued => true
  | _ => false

def Event.isUpdate : Event → Bool
  | .update => true
  | _ => false

def Event.isWorkers : Event → Bool
  | .notify _ | .clone | .drop => false
  | .receive | .rest | .discard | .drain | .update | .finish _ => true

/-- Neither a notification nor its end in the channel. -/
def Event.isSilent : Event → Bool
  | .notify _ | .discard => false
  | .clone | .drop | .receive | .rest | .drain | .update | .finish _ => true

/-- Where the worker stands. -/
inductive Round
  | waiting | resting | draining | drained | updating
  deriving DecidableEq, Repr

/-- The worker has taken a notification and not yet updated. -/
def Round.leads : Round → Bool
  | .resting | .draining | .drained => true
  | .waiting | .updating => false

/-- How many steps of the worker lie before its next update at least. -/
def Round.ahead : Round → Nat
  | .drained => 0
  | .draining => 1
  | .resting => 2
  | .waiting => 3
  | .updating => 4

structure Watch where
  watcher : Watcher
  round : Round := .waiting
  handles : Nat := 1

namespace Watch

def spawned (debounce : Nat) : Watch := { watcher := { debounce } }

/-- The worker waits for a notification and there is none, or it has ended. -/
def AtRest (watch : Watch) : Prop :=
  watch.watcher.phase = .ended ∨ watch.round = .waiting ∧ watch.watcher.pending = false

/-- Any step of the worker may be long in coming, and an update may end with any result. -/
inductive Step (watch : Watch) : Event → Watch → Prop
  | notify (held : watch.handles ≠ 0) :
      Step watch (.notify watch.watcher.reception) { watch with watcher := watch.watcher.notify }
  | clone (held : watch.handles ≠ 0) :
      Step watch .clone { watch with handles := watch.handles + 1 }
  | drop (held : watch.handles ≠ 0) :
      Step watch .drop { watch with
        handles := watch.handles - 1
        watcher := if watch.handles = 1 then watch.watcher.dropNotifiers else watch.watcher }
  | receive (waits : watch.round = .waiting) (runs : watch.watcher.phase ≠ .ended) :
      Step watch .receive { watch with
        watcher := watch.watcher.receive
        round := if watch.watcher.pending then .resting else .waiting }
  | rest (rests : watch.round = .resting) : Step watch .rest { watch with round := .draining }
  | discard (drains : watch.round = .draining) (pending : watch.watcher.pending = true) :
      Step watch .discard { watch with watcher := watch.watcher.discard }
  | drain (drains : watch.round = .draining) :
      Step watch .drain { watch with watcher := watch.watcher.drain, round := .drained }
  | update (drained : watch.round = .drained) :
      Step watch .update { watch with round := .updating }
  | finish (updates : watch.round = .updating) (result : Controller.Result) :
      Step watch (.finish result) { watch with round := .waiting }

end Watch

/-- The events of a run, the latest first. -/
inductive Run (start : Watch) : List Event → Watch → Prop
  | rest : Run start [] start
  | step {past : List Event} {watch after : Watch} {event : Event} (run : Run start past watch)
      (taken : watch.Step event after) : Run start (event :: past) after

theorem Run.replace {start watch : Watch} {newer older other : List Event}
    (same : ∀ between, Run start older between → Run start other between)
    (run : Run start (newer ++ older) watch) : Run start (newer ++ other) watch := by
  induction newer generalizing watch with
  | nil => exact same watch run
  | cons event newer ih =>
    cases run with
    | step earlier taken => exact (ih earlier).step taken

/-! ### What every run keeps -/

namespace Watch

variable {watch after : Watch} {event : Event}

/-- The worker ends only when nobody can notify it any more. -/
structure Sound (watch : Watch) : Prop where
  gone : watch.watcher.notifiersGone = true ↔ watch.handles = 0
  ended : watch.watcher.phase = .ended →
    watch.handles = 0 ∧ watch.watcher.pending = false ∧ watch.round = .waiting

theorem spawned_sound (debounce : Nat) : (spawned debounce).Sound := ⟨by simp [spawned], nofun⟩

theorem Sound.running (sound : watch.Sound) (held : watch.handles ≠ 0) :
    watch.watcher.phase ≠ .ended := fun ended => held (sound.ended ended).1

theorem Sound.engaged {round : Round} (sound : watch.Sound) (stands : watch.round = round)
    (busy : round ≠ .waiting) : watch.watcher.phase ≠ .ended :=
  fun ended => busy (stands.symm.trans (sound.ended ended).2.2)

theorem Sound.step (sound : watch.Sound) (taken : watch.Step event after) : after.Sound := by
  cases taken with
  | notify held =>
    refine ⟨?_, ?_⟩
    · rw [notify_notifiersGone]
      exact sound.gone
    · intro ended
      rw [notify_phase] at ended
      exact absurd ended (sound.running held)
  | clone held =>
    have there : watch.watcher.notifiersGone = true ↔ watch.handles + 1 = 0 := by
      simp [sound.gone, held]
    exact ⟨there, fun ended => absurd ended (sound.running held)⟩
  | drop held =>
    have runs := sound.running held
    by_cases last : watch.handles = 1
    · refine ⟨?_, ?_⟩
      · simp [last, dropNotifiers]
      · intro ended
        simp only [last, if_true, dropNotifiers] at ended
        exact absurd ended runs
    · have more : watch.handles - 1 ≠ 0 := by omega
      refine ⟨?_, ?_⟩
      · simp [last, sound.gone, held, more]
      · intro ended
        simp only [last, if_false] at ended
        exact absurd ended runs
  | receive waits runs =>
    unfold Watcher.receive
    split
    · exact ⟨sound.gone, nofun⟩
    · rename_i nothing
      have nothing := Bool.eq_false_iff.mpr nothing
      split
      · rename_i gone
        exact ⟨sound.gone, fun _ => ⟨sound.gone.mp gone, nothing, by simp⟩⟩
      · exact ⟨sound.gone, nofun⟩
  | rest rests => exact ⟨sound.gone, fun ended => absurd ended (sound.engaged rests nofun)⟩
  | discard drains pending => exact ⟨sound.gone, fun ended => absurd ended (sound.engaged drains nofun)⟩
  | drain drains => exact ⟨sound.gone, nofun⟩
  | update drained => exact ⟨sound.gone, fun ended => absurd ended (sound.engaged drained nofun)⟩
  | finish updates result => exact ⟨sound.gone, fun ended => absurd ended (sound.engaged updates nofun)⟩

/-! ### A notification that no update has followed -/

/-- An update is still to come. -/
def Due (watch : Watch) : Prop := watch.watcher.pending = true ∨ watch.round.leads = true

theorem Due.not_atRest (due : watch.Due) (sound : watch.Sound) : ¬ watch.AtRest := by
  intro rests
  have still : watch.round = .waiting ∧ watch.watcher.pending = false := by
    rcases rests with ended | still
    · have rest := (sound.ended ended).2
      exact ⟨rest.2, rest.1⟩
    · exact still
  rcases due with pending | leads
  · simp [pending] at still
  · simp [still.1, Round.leads] at leads

/-- The worker is never stuck ahead of an update. -/
theorem Due.progress (due : watch.Due) (sound : watch.Sound) :
    ∃ event after, event.isWorkers = true ∧ watch.Step event after := by
  cases stands : watch.round with
  | waiting =>
    have runs : watch.watcher.phase ≠ .ended := fun ended => due.not_atRest sound (.inl ended)
    exact ⟨_, _, rfl, .receive stands runs⟩
  | resting => exact ⟨_, _, rfl, .rest stands⟩
  | draining => exact ⟨_, _, rfl, .drain stands⟩
  | drained => exact ⟨_, _, rfl, .update stands⟩
  | updating => exact ⟨_, _, rfl, .finish stands (.ok .nothing)⟩

/-- The steps of the worker before its next update, if nobody notifies it meanwhile. -/
def ahead (watch : Watch) : Nat := watch.round.ahead + watch.watcher.pending.toNat

theorem ahead_le (watch : Watch) : watch.ahead ≤ 5 := by
  have round : watch.round.ahead ≤ 4 := by cases watch.round <;> decide
  have pending := Bool.toNat_le watch.watcher.pending
  unfold ahead
  omega

theorem due_of_notified (runs : watch.watcher.phase ≠ .ended) :
    Due { watch with watcher := watch.watcher.notify } := .inl (notify_pending runs)

/-- A step other than an update leaves the update due, and brings it nearer if it is the worker's. -/
theorem Due.step (due : watch.Due) (sound : watch.Sound) (taken : watch.Step event after)
    (other : event ≠ .update) :
    after.Due ∧ event.isWorkers.toNat + after.ahead ≤
      watch.ahead + event.isQueued.toNat := by
  cases taken with
  | notify held =>
    have runs := sound.running held
    have pending := notify_pending runs
    refine ⟨due_of_notified runs, ?_⟩
    cases was : watch.watcher.pending <;>
      simp [ahead, Event.isWorkers, Event.isQueued, reception, runs, was, pending]
  | clone held => exact ⟨due, by simp [ahead, Event.isWorkers]⟩
  | drop held =>
    have same : ∀ watcher : Watcher, watcher.pending = watch.watcher.pending →
        Due { watch with watcher, handles := watch.handles - 1 } ∧
          ahead { watch with watcher, handles := watch.handles - 1 } = watch.ahead := by
      intro watcher kept
      exact ⟨by rw [Due, kept]; exact due, by rw [ahead, kept]; rfl⟩
    split
    · have kept := same watch.watcher.dropNotifiers rfl
      exact ⟨kept.1, by rw [kept.2]; simp [Event.isWorkers]⟩
    · have kept := same watch.watcher rfl
      exact ⟨kept.1, by rw [kept.2]; simp [Event.isWorkers]⟩
  | receive waits runs =>
    have pending : watch.watcher.pending = true := by
      rcases due with pending | leads
      · exact pending
      · simp [waits, Round.leads] at leads
    refine ⟨.inr (by simp [pending, Round.leads]), ?_⟩
    simp [ahead, Event.isWorkers, Event.isQueued, Watcher.receive, pending, waits, Round.ahead]
  | rest rests =>
    refine ⟨.inr rfl, ?_⟩
    simp only [ahead, rests, Round.ahead, Event.isWorkers, Bool.toNat_true]
    omega
  | discard drains pending =>
    refine ⟨.inr (by rw [drains]; rfl), ?_⟩
    simp only [ahead, pending, Watcher.discard, Event.isWorkers, Bool.toNat_true, Bool.toNat_false]
    omega
  | drain drains =>
    refine ⟨.inr rfl, ?_⟩
    simp only [ahead, drains, Round.ahead, Watcher.drain, Event.isWorkers, Bool.toNat_true,
      Bool.toNat_false]
    omega
  | update drained => exact absurd rfl other
  | finish updates result =>
    have pending : watch.watcher.pending = true := by
      rcases due with pending | leads
      · exact pending
      · simp [updates, Round.leads] at leads
    refine ⟨.inl pending, ?_⟩
    simp only [ahead, updates, Round.ahead, Event.isWorkers, Bool.toNat_true]
    omega

/-! ### Updates and what has been accepted -/

/-- What has been accepted and has not led to an update, nor been discarded. -/
def owed (watch : Watch) : Nat := watch.watcher.pending.toNat + watch.round.leads.toNat

theorem Step.owed (taken : watch.Step event after) :
    event.isUpdate.toNat + after.owed ≤ watch.owed + event.isQueued.toNat := by
  cases taken with
  | notify held =>
    simp only [Watch.owed, Event.isUpdate, Bool.toNat_false]
    by_cases ended : watch.watcher.phase = .ended
    · have same : watch.watcher.notify = watch.watcher := by rw [Watcher.notify, if_pos ended]
      rw [same]
      omega
    · rw [notify_pending ended]
      cases was : watch.watcher.pending with
      | true => simp
      | false =>
        simp only [reception, ended, was, Event.isQueued, if_false, Bool.false_eq_true,
          Bool.toNat_true, Bool.toNat_false]
        omega
  | clone held => simp [Watch.owed, Event.isUpdate]
  | drop held => split <;> simp [Watch.owed, dropNotifiers, Event.isUpdate]
  | receive waits runs =>
    simp only [Watch.owed, Watcher.receive, waits, Event.isUpdate, Bool.toNat_false]
    split
    · rename_i pending
      simp [pending, Round.leads]
    · split <;> simp [*, Round.leads]
  | rest rests => simp [Watch.owed, rests, Round.leads, Event.isUpdate]
  | discard drains pending =>
    simp only [Watch.owed, Watcher.discard, Event.isUpdate, Bool.toNat_false]
    omega
  | drain drains =>
    simp only [Watch.owed, Watcher.drain, drains, Round.leads, Event.isUpdate, Bool.toNat_true,
      Bool.toNat_false]
    omega
  | update drained =>
    simp only [Watch.owed, drained, Round.leads, Event.isUpdate, Bool.toNat_true, Bool.toNat_false]
    omega
  | finish updates result => simp [Watch.owed, updates, Round.leads, Event.isUpdate]

/-! ### Notifications that are discarded -/

/-- The same moment with nothing in the channel. -/
def calm (watch : Watch) : Watch := { watch with watcher := watch.watcher.discard }

/-- Whatever does not concern the channel goes on with nothing in it as well. -/
theorem Step.calm (taken : watch.Step event after) (silent : event.isSilent = true)
    (kept : after.round.leads = true) (other : event ≠ .receive) :
    watch.calm.Step event after.calm := by
  cases taken with
  | notify held => cases silent
  | clone held => exact .clone held
  | drop held =>
    have dropped : Step watch.calm .drop _ := .drop held
    by_cases last : watch.handles = 1
    · simpa [Watch.calm, last, Watcher.discard, dropNotifiers] using dropped
    · simpa [Watch.calm, last, Watcher.discard] using dropped
  | receive waits runs => exact absurd rfl other
  | rest rests => exact .rest rests
  | discard drains pending => cases silent
  | drain drains => exact .drain drains
  | update drained => cases kept
  | finish updates result => cases kept

theorem Step.calm_of_loud (taken : watch.Step event after) (loud : event.isSilent = false) :
    after.calm = watch.calm ∧ after.round = watch.round := by
  cases taken with
  | notify held =>
    refine ⟨?_, rfl⟩
    unfold Watch.calm Watcher.discard Watcher.notify
    split <;> rfl
  | discard drains pending => exact ⟨rfl, rfl⟩
  | clone | drop | receive | rest | drain | update | finish => cases loud

/-- On the way from a notification that is taken to what it leads to. -/
theorem Step.leads_back (taken : watch.Step event after) (kept : after.round.leads = true)
    (other : event ≠ .receive) : watch.round.leads = true := by
  cases taken with
  | notify | clone | drop => exact kept
  | receive => exact absurd rfl other
  | rest rests => rw [rests]; rfl
  | discard drains pending => exact kept
  | drain drains => rw [drains]; rfl
  | update drained => rw [drained]; rfl
  | finish updates result => cases kept

end Watch

namespace Run

variable {debounce : Nat} {start watch : Watch} {past newer window older : List Event}

theorem sound (run : Run (.spawned debounce) past watch) : watch.Sound := by
  induction run with
  | rest => exact Watch.spawned_sound debounce
  | step run taken ih => exact ih.step taken

theorem countP_event (p : Event → Bool) (event : Event) (past : List Event) :
    (event :: past).countP p = (p event).toNat + past.countP p := by
  rw [List.countP_cons, Nat.add_comm]
  cases p event <;> rfl

/-- A notification keeps an update due until one starts. -/
theorem due {reception : Reception} (run : Run (.spawned debounce) past watch)
    (split : past = newer ++ .notify reception :: older) (none : .update ∉ newer) :
    watch.Due ∧ newer.countP Event.isWorkers + watch.ahead ≤ 5 + newer.countP Event.isQueued := by
  induction newer generalizing past watch with
  | nil =>
    subst split
    cases run with
    | step earlier taken =>
      have most := watch.ahead_le
      cases taken with
      | notify held =>
        have due := Watch.due_of_notified (earlier.sound.running held)
        exact ⟨due, by simpa using most⟩
  | cons event newer ih =>
    subst split
    obtain ⟨other, none⟩ := List.ne_and_not_mem_of_not_mem_cons none
    cases run with
    | step earlier taken =>
      obtain ⟨due, bound⟩ := ih earlier rfl none
      obtain ⟨still, nearer⟩ := due.step earlier.sound taken (Ne.symm other)
      refine ⟨still, ?_⟩
      rw [countP_event, countP_event]
      omega

/-- No update without a notification that has been accepted for it, but those already owed. -/
theorem updates (run : Run start (newer ++ older) watch) :
    ∃ between, Run start older between ∧
      newer.countP Event.isUpdate + watch.owed ≤ between.owed + newer.countP Event.isQueued := by
  induction newer generalizing watch with
  | nil => exact ⟨watch, run, by simp⟩
  | cons event newer ih =>
    cases run with
    | step earlier taken =>
      obtain ⟨between, run, bound⟩ := ih earlier
      have owed := taken.owed
      refine ⟨between, run, ?_⟩
      rw [countP_event, countP_event]
      omega

/-- The same run without the notifications since one has been taken, and what was discarded of them. -/
theorem calm (run : Run start (window ++ .receive :: older) watch) (apart : .receive ∉ window)
    (leads : watch.round.leads = true) :
    Run start (window.filter Event.isSilent ++ .receive :: older) watch.calm := by
  induction window generalizing watch with
  | nil =>
    cases run with
    | @step _ between _ _ earlier taken =>
      have received := earlier.step taken
      cases taken with
      | receive waits runs =>
        cases pending : between.watcher.pending with
        | true => simpa [Watch.calm, discard, receive, pending] using received
        | false => simp [pending, Round.leads] at leads
  | cons event window ih =>
    obtain ⟨other, apart⟩ := List.ne_and_not_mem_of_not_mem_cons apart
    cases run with
    | step earlier taken =>
      have back := taken.leads_back leads (Ne.symm other)
      have before := ih earlier apart back
      cases silent : event.isSilent with
      | true =>
        rw [List.filter_cons_of_pos silent]
        exact before.step (taken.calm silent leads (Ne.symm other))
      | false =>
        rw [List.filter_cons_of_neg (by simp [silent]), (taken.calm_of_loud silent).1]
        exact before

/-- What is drained may as well never have come. -/
theorem drained (run : Run start (.drain :: (window ++ .receive :: older)) watch)
    (apart : .receive ∉ window) :
    watch.owed = 1 ∧
      Run start (.drain :: (window.filter Event.isSilent ++ .receive :: older)) watch := by
  cases run with
  | step earlier taken =>
    cases taken with
    | drain drains =>
      have leads : Round.leads .draining = true := rfl
      have calmed := earlier.calm apart (drains ▸ leads)
      exact ⟨rfl, calmed.step (.drain drains)⟩

end Run

/-- No notification is forgotten, and none leads to more than one update. -/
structure Covered (debounce : Nat) (past : List Event) (watch : Watch) : Prop where
  /-- After a notification the worker does not come to rest before it has updated. It can always go on,
  and only what is accepted meanwhile adds to its steps. -/
  followed : ∀ newer reception older, past = newer ++ .notify reception :: older →
    .update ∉ newer → ¬ watch.AtRest ∧
      (∃ event after, event.isWorkers = true ∧ watch.Step event after) ∧
      newer.countP Event.isWorkers ≤ 5 + newer.countP Event.isQueued
  counted : past.countP Event.isUpdate ≤ past.countP Event.isQueued
  /-- What comes between a notification that is taken and the drain adds no update, and everything else
  goes as it does without it. -/
  drained : ∀ newer window older, past = newer ++ .drain :: (window ++ .receive :: older) →
    .receive ∉ window →
      newer.countP Event.isUpdate ≤ 1 + newer.countP Event.isQueued ∧
      Run (.spawned debounce)
        (newer ++ .drain :: (window.filter Event.isSilent ++ .receive :: older)) watch

theorem notifications_covered {debounce : Nat} {past : List Event} {watch : Watch}
    (run : Run (.spawned debounce) past watch) : Covered debounce past watch where
  followed := by
    intro newer reception older split none
    obtain ⟨due, bound⟩ := run.due split none
    exact ⟨due.not_atRest run.sound, due.progress run.sound, by omega⟩
  counted := by
    rw [← List.append_nil past] at run
    obtain ⟨between, first, bound⟩ := run.updates
    cases first
    have nothing : (Watch.spawned debounce).owed = 0 := rfl
    omega
  drained := by
    intro newer window older split apart
    subst split
    obtain ⟨between, earlier, bound⟩ := run.updates
    have owed := (earlier.drained apart).1
    exact ⟨by omega, run.replace fun _ earlier => (earlier.drained apart).2⟩

/-- There is a notification at every point of a round; the last handle goes while an update fails. -/
def shutdown : List Event :=
  [.receive, .finish (.ok .nothing), .update, .drain, .rest, .receive,
    .finish (.error (.desktop ⟨.read, "busy"⟩)), .drop, .notify .coalesced, .update,
    .notify .queued, .drain, .discard, .notify .queued, .discard, .rest,
    .notify .coalesced, .notify .queued, .receive, .notify .queued]

theorem shutdown_run :
    Run (.spawned 30) shutdown ⟨⟨30, false, true, .ended⟩, .waiting, 0⟩ := by
  have taken : Run (.spawned 30) _ ⟨⟨30, false, false, .debouncing⟩, .resting, 1⟩ :=
    (Run.rest.step (.notify (by decide))).step (.receive rfl (by decide))
  have burst : Run (.spawned 30) _ ⟨⟨30, true, false, .debouncing⟩, .draining, 1⟩ :=
    ((taken.step (.notify nofun)).step (.notify nofun)).step (.rest rfl)
  have drained : Run (.spawned 30) _ ⟨⟨30, false, false, .updating⟩, .drained, 1⟩ :=
    (((burst.step (.discard rfl rfl)).step (.notify nofun)).step (.discard rfl rfl)).step (.drain rfl)
  have updating : Run (.spawned 30) _ ⟨⟨30, true, true, .updating⟩, .updating, 0⟩ :=
    (((drained.step (.notify nofun)).step (.update rfl)).step (.notify nofun)).step (.drop nofun)
  have again : Run (.spawned 30) _ ⟨⟨30, false, true, .updating⟩, .drained, 0⟩ :=
    (((updating.step (.finish rfl (.error (.desktop ⟨.read, "busy"⟩)))).step
      (.receive rfl (by decide))).step (.rest rfl)).step (.drain rfl)
  exact ((again.step (.update rfl)).step (.finish rfl (.ok .nothing))).step
    (.receive rfl (by decide))

theorem shutdown_covered :
    Run (.spawned 30) shutdown ⟨⟨30, false, true, .ended⟩, .waiting, 0⟩ ∧
      shutdown.countP Event.isUpdate = 2 ∧ shutdown.countP Event.isQueued = 4 ∧
      Covered 30 shutdown ⟨⟨30, false, true, .ended⟩, .waiting, 0⟩ :=
  ⟨shutdown_run, rfl, rfl, notifications_covered shutdown_run⟩

end PasteQueue.Watcher
