import Mathlib.Data.List.DropRight
import PasteQueue.Proofs.Queue.Requests

/-!
History is the recent past: the latest of the items that were accepted, as many as there is room
for. It depends on the items that were offered, and on nothing else that was requested.
-/

namespace PasteQueue.Queue

open Clipboard (Item)

/-- What an event has added to the past. -/
def Event.entry? (event : Event) : Option Entry :=
  match event.request, event.reply with
  | .accept item time, .judged .remembered => some ⟨item, time⟩
  | .accept item time, .judged .queued => some ⟨item, time⟩
  | _, _ => none

def Request.offer? : Request → Option (Item × Nat)
  | .accept item time => some (item, time)
  | _ => none

/-- The past as far as there is room for it, and one entry more. -/
theorem rtake_concat {α : Type} {past : List α} {room : Nat} (positive : 0 < room) (entry : α) :
    (past.rtake room).drop ((past.rtake room).length + 1 - room) ++ [entry] =
      (past ++ [entry]).rtake room := by
  obtain ⟨less, rfl⟩ := Nat.exists_eq_add_of_lt positive
  rw [Nat.zero_add, List.rtake_concat_succ, List.rtake, List.rtake, List.drop_drop, List.length_drop]
  congr 2
  omega

namespace State

/-- Two states with the same history and the same rules for what enters it. -/
structure SameMemory (first second : State) : Prop where
  settings : first.settings = second.settings
  history : first.history = second.history

variable {state other : State}

theorem SameMemory.refl (state : State) : SameMemory state state := ⟨rfl, rfl⟩

theorem SameMemory.symm (same : SameMemory state other) : SameMemory other state :=
  ⟨same.settings.symm, same.history.symm⟩

theorem SameMemory.trans {third : State} (same : SameMemory state other)
    (follows : SameMemory other third) : SameMemory state third :=
  ⟨same.settings.trans follows.settings, same.history.trans follows.history⟩

theorem withQueue_sameMemory (state : State) (queue : List Item) :
    SameMemory (state.withQueue queue) state :=
  ⟨withQueue_settings state queue, withQueue_history state queue⟩

theorem take_sameMemory {outcome : Except Error (Item × State)}
    (frame : ∀ item after, outcome = .ok (item, after) → ∃ rest, after = state.withQueue rest) :
    SameMemory (state.take outcome).2 state := by
  cases outcome with
  | ok taken =>
    obtain ⟨rest, after⟩ := frame taken.1 taken.2 rfl
    rw [take, after]
    exact state.withQueue_sameMemory rest
  | error => exact .refl state

/-- Only an item that is offered concerns history. -/
theorem next_sameMemory {request : Request} (silent : request.offer? = none) :
    SameMemory (state.next request) state := by
  cases request with
  | enable kept => exact ⟨state.enable_settings kept, state.enable_history kept⟩
  | accept => cases silent
  | dequeue => exact take_sameMemory fun _ _ => state.dequeue_ok
  | remove => exact take_sameMemory fun _ _ => state.remove_ok
  | clear => exact state.withQueue_sameMemory []
  | disable | recordEcho | toggleOrder | setOrder => exact ⟨rfl, rfl⟩

theorem enqueue_sameMemory (state : State) (item : Item) : SameMemory (state.enqueue item) state :=
  state.withQueue_sameMemory _

/-- Queue mode has no say in what enters history. -/
theorem accept_sameMemory (state : State) (item : Item) (time : Nat) :
    SameMemory (state.accept item time).2
      (if item.isEmpty ∨ (state.echoed? item time).isSome then state
        else state.remember item time) := by
  unfold accept
  split
  · rename_i empty
    rw [if_pos (.inl empty)]
    exact .refl state
  · rename_i full
    split
    · rename_i echoed
      rw [if_pos (.inr echoed)]
      exact .refl state
    · rename_i fresh
      rw [if_neg (not_or.mpr ⟨full, fresh⟩)]
      dsimp only
      split
      · exact enqueue_sameMemory _ item
      · exact .refl _

theorem SameMemory.echoed? (same : SameMemory state other) (item : Item) (time : Nat) :
    state.echoed? item time = other.echoed? item time := by
  rw [State.echoed?, State.echoed?, same.settings, same.history]

theorem SameMemory.remember (same : SameMemory state other) (item : Item) (time : Nat) :
    SameMemory (state.remember item time) (other.remember item time) where
  settings := same.settings
  history := by
    rw [State.remember, State.remember, room, room, same.settings, same.history]

theorem SameMemory.accept (same : SameMemory state other) (item : Item) (time : Nat) :
    SameMemory (state.accept item time).2 (other.accept item time).2 := by
  refine (state.accept_sameMemory item time).trans
    (.trans ?_ (other.accept_sameMemory item time).symm)
  rw [same.echoed?]
  split
  · exact same
  · exact same.remember item time

/-- The states that come of a series of offers alone. -/
def absorb (state : State) (offers : List (Item × Nat)) : State :=
  offers.foldl (fun before offer => (before.accept offer.1 offer.2).2) state

theorem SameMemory.absorb (same : SameMemory state other) (offers : List (Item × Nat)) :
    SameMemory (state.absorb offers) (other.absorb offers) := by
  induction offers generalizing state other with
  | nil => exact same
  | cons offer rest follows => exact follows (same.accept offer.1 offer.2)

/-- All requests but the offers may be left out. -/
theorem after_sameMemory (state : State) (requests : List Request) :
    SameMemory (state.after requests) (state.absorb (requests.filterMap Request.offer?)) := by
  induction requests generalizing state with
  | nil => exact .refl state
  | cons request rest follows =>
    refine (follows (state.next request)).trans ?_
    cases offers : request.offer? with
    | none =>
      rw [List.filterMap_cons_none offers]
      exact (next_sameMemory offers).absorb _
    | some offer =>
      rw [List.filterMap_cons_some offers]
      cases request with
      | accept item time =>
        cases offers
        exact .refl _
      | enable | disable | recordEcho | dequeue | remove | clear | toggleOrder | setOrder =>
        cases offers

/-! ### The recent past -/

/-- What the past is before and after a request. -/
theorem next_history (state : State) (request : Request) :
    (state.next request).history =
      match Event.entry? ⟨request, state.reply request⟩ with
      | none => state.history
      | some entry => state.history.drop (state.history.length + 1 - state.room) ++ [entry] := by
  cases request with
  | accept item time =>
    simp only [next, reply, perform]
    rcases state.accept_cases item time with (same | same) | ⟨_, same⟩ | ⟨_, same⟩ <;> rw [same]
    · rfl
    · rfl
    · rfl
    · exact enqueue_history _ item
  | enable | disable | recordEcho | dequeue | remove | clear | toggleOrder | setOrder =>
    exact (next_sameMemory rfl).history

theorem next_settings (state : State) (request : Request) :
    (state.next request).settings = state.settings := by
  cases request with
  | accept item time =>
    rw [next, perform, (state.accept_sameMemory item time).settings]
    split <;> rfl
  | enable | disable | recordEcho | dequeue | remove | clear | toggleOrder | setOrder =>
    exact (next_sameMemory rfl).settings

theorem after_history (settings : Settings) (order : Order) (requests : List Request) :
    ((init settings order).after requests).history =
      (((init settings order).events requests).filterMap Event.entry?).rtake
        (max 1 settings.historyCapacity) := by
  have kept := (init settings order).run_induction
    (fun events state => state.settings = settings ∧
      state.history = (events.filterMap Event.entry?).rtake (max 1 settings.historyCapacity))
    ⟨rfl, (List.rtake_nil _).symm⟩ ?_ requests
  · exact kept.2
  · rintro events before request ⟨same, history⟩
    refine ⟨(before.next_settings request).trans same, ?_⟩
    have room : before.room = max 1 settings.historyCapacity := by rw [State.room, same]
    rw [next_history, List.filterMap_append, room, history]
    cases added : Event.entry? ⟨request, before.reply request⟩ with
    | none => simp [added]
    | some entry =>
      rw [List.filterMap_cons_some added, List.filterMap_nil]
      exact rtake_concat (Nat.lt_of_lt_of_le Nat.one_pos (Nat.le_max_left ..)) entry

end State

/-- In every run history is the latest of what was accepted, as much as there is room for; nothing
but an accepted item changes it; and a run with the same offers ends with the same history. -/
theorem history_recent (settings : Settings) (order : Order) (requests : List Request) :
    let start := State.init settings order
    let state := start.after requests
    state.items = (((start.events requests).filterMap Event.entry?).rtake
      (max 1 settings.historyCapacity)).map Entry.item ∧
    (∀ request, Event.entry? ⟨request, state.reply request⟩ = none →
      (state.next request).history = state.history) ∧
    (∀ other others, others.filterMap Request.offer? = requests.filterMap Request.offer? →
      ((State.init settings other).after others).history = state.history) := by
  intro start state
  refine ⟨congrArg _ (State.after_history settings order requests), fun request silent => ?_,
    fun other others same => ?_⟩
  · rw [state.next_history, silent]
  · have first := (State.init settings other).after_sameMemory others
    have second := start.after_sameMemory requests
    have starts : State.SameMemory (State.init settings other) start := ⟨rfl, rfl⟩
    rw [same] at first
    exact ((first.trans (starts.absorb _)).trans second.symm).history

/-- Room for two items; a third one comes, and in the one run queue mode is on. -/
theorem history_recent_beside_queue :
    let start := State.init { historyCapacity := 2 } .lifo
    let state := start.after (.enable none :: offers 3)
    state.items = [sample 1, sample 2] ∧ (state.next .dequeue).history = state.history ∧
    (start.after (offers 3)).history = state.history := by
  obtain ⟨items, kept, same⟩ :=
    history_recent { historyCapacity := 2 } .lifo (.enable none :: offers 3)
  exact ⟨items.trans rfl, kept .dequeue rfl, same .lifo (offers 3) rfl⟩

end PasteQueue.Queue
