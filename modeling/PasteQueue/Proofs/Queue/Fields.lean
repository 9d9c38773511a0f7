import PasteQueue.Proofs.Queue.Requests

/-!
Queue mode as three fields: whether it is on, the queue, and the clipboard from before. Each is set on
its own, so nothing but the operations themselves sees to it that the queue is empty and nothing is
kept while queue mode is off. They do, and in every run the fields are those of a state.
-/

namespace PasteQueue.Queue

open Clipboard (Item)

structure Fields where
  settings : Settings
  order : Order
  enabled : Bool
  queue : List Item
  snapshot : Option Item
  history : List Entry
  echoes : EchoRing
  deriving DecidableEq, Repr

namespace Fields

def init (settings : Settings) (order : Order) : Fields :=
  ⟨settings, order, false, [], none, [], .ofCapacity settings.echoCapacity⟩

def enable (fields : Fields) (snapshot : Option Item) : Bool × Fields :=
  if fields.enabled then (false, fields)
  else (true, { fields with snapshot, queue := [], enabled := true })

def disable (fields : Fields) : Option Item × Fields :=
  if fields.enabled then
    (fields.snapshot, { fields with enabled := false, queue := [], snapshot := none })
  else (none, fields)

def recordEcho (fields : Fields) (sequence : UInt32) : Fields :=
  { fields with echoes := fields.echoes.record sequence }

def repeats (fields : Fields) (item : Item) (time : Nat) : Bool :=
  match fields.history.getLast? with
  | some newest => time - newest.time < fields.settings.dedupWindow && item.same newest.item
  | none => false

/-- Entries go from the front, one by one, until there is room for one more. -/
def evict (room : Nat) : List Entry → List Entry
  | [] => []
  | oldest :: rest => if room ≤ rest.length + 1 then evict room rest else oldest :: rest

def remember (fields : Fields) (item : Item) (time : Nat) : Fields :=
  let room := max 1 fields.settings.historyCapacity
  { fields with history := evict room fields.history ++ [⟨item, time⟩] }

def accept (fields : Fields) (item : Item) (time : Nat) : Outcome × Fields :=
  if item.isEmpty then (.ignoredEmpty, fields)
  else if fields.repeats item time then (.duplicate, fields)
  else
    let remembered := fields.remember item time
    if fields.enabled then (.queued, { remembered with queue := remembered.queue ++ [item] })
    else (.remembered, remembered)

/-- An item that is taken out, or nothing to take. -/
def give (fields : Fields) (fault : Error) : Option (Item × List Item) → Except Error Item × Fields
  | some (item, queue) => (.ok item, { fields with queue })
  | none => (.error fault, fields)

def dequeue (fields : Fields) : Except Error Item × Fields :=
  if fields.enabled then fields.give .empty (State.next? fields.order fields.queue)
  else (.error .disabled, fields)

/-- Does not ask whether queue mode is on. -/
def remove (fields : Fields) (index : Nat) : Except Error Item × Fields :=
  fields.give (.indexOutOfRange index fields.queue.length)
    (fields.queue[index]?.map fun item => (item, fields.queue.eraseIdx index))

def clear (fields : Fields) : Fields := { fields with queue := [] }

def toggleOrder (fields : Fields) : Fields := { fields with order := fields.order.toggled }

def setOrder (fields : Fields) (order : Order) : Bool × Fields :=
  if fields.order = order then (false, fields) else (true, { fields with order })

def given : Except Error Item → Reply
  | .ok item => .taken item
  | .error fault => .refused fault

def perform (fields : Fields) : Request → Reply × Fields
  | .enable snapshot => (fields.enable snapshot).map .changed id
  | .disable => fields.disable.map .restored id
  | .recordEcho sequence => (.done, fields.recordEcho sequence)
  | .accept item time => (fields.accept item time).map .judged id
  | .dequeue => fields.dequeue.map given id
  | .remove index => (fields.remove index).map given id
  | .clear => (.done, fields.clear)
  | .toggleOrder => (.ordered fields.toggleOrder.order, fields.toggleOrder)
  | .setOrder order => (fields.setOrder order).map .changed id

def next (fields : Fields) (request : Request) : Fields := (fields.perform request).2

def after (fields : Fields) (requests : List Request) : Fields := requests.foldl next fields

def events (fields : Fields) : List Request → List Event
  | [] => []
  | request :: rest => ⟨request, (fields.perform request).1⟩ :: (fields.next request).events rest

/-! ### While queue mode is off -/

/-- While queue mode is off, nothing waits to be pasted and no clipboard is kept. -/
def Quiet (fields : Fields) : Prop :=
  fields.enabled = false → fields.queue = [] ∧ fields.snapshot = none

variable {fields : Fields}

theorem Quiet.of_on (on : fields.enabled = true) : fields.Quiet :=
  fun off => nomatch off.symm.trans on

theorem Quiet.of_same (quiet : fields.Quiet) {after : Fields}
    (enabled : after.enabled = fields.enabled) (queue : after.queue = fields.queue)
    (snapshot : after.snapshot = fields.snapshot) : after.Quiet := by
  intro off
  rw [queue, snapshot]
  exact quiet (enabled.symm.trans off)

theorem init_quiet (settings : Settings) (order : Order) : (init settings order).Quiet :=
  fun _ => ⟨rfl, rfl⟩

theorem Quiet.enable (quiet : fields.Quiet) (snapshot : Option Item) :
    (fields.enable snapshot).2.Quiet := by
  unfold Fields.enable
  split
  · exact quiet
  · exact .of_on rfl

theorem Quiet.disable (quiet : fields.Quiet) : fields.disable.2.Quiet := by
  unfold Fields.disable
  split
  · exact fun _ => ⟨rfl, rfl⟩
  · exact quiet

theorem Quiet.accept (quiet : fields.Quiet) (item : Item) (time : Nat) :
    (fields.accept item time).2.Quiet := by
  unfold Fields.accept
  split
  · exact quiet
  · split
    · exact quiet
    · dsimp only
      split
      · next on => exact .of_on on
      · exact quiet.of_same rfl rfl rfl

theorem Quiet.give (quiet : fields.Quiet) (fault : Error) {taken : Option (Item × List Item)}
    (on : taken.isSome = true → fields.enabled = true) : (fields.give fault taken).2.Quiet := by
  cases taken with
  | none => exact quiet
  | some taken => exact .of_on (on rfl)

theorem Quiet.dequeue (quiet : fields.Quiet) : fields.dequeue.2.Quiet := by
  unfold Fields.dequeue
  split
  · next on => exact quiet.give _ fun _ => on
  · exact quiet

/-- An item that can be removed has been in the queue, so queue mode is on. -/
theorem Quiet.remove (quiet : fields.Quiet) (index : Nat) : (fields.remove index).2.Quiet := by
  refine quiet.give _ fun found => ?_
  by_contra off
  rw [(quiet (Bool.eq_false_iff.mpr off)).1] at found
  cases found

theorem Quiet.clear (quiet : fields.Quiet) : fields.clear.Quiet :=
  fun off => ⟨rfl, (quiet off).2⟩

theorem Quiet.setOrder (quiet : fields.Quiet) (order : Order) : (fields.setOrder order).2.Quiet := by
  unfold Fields.setOrder
  split
  · exact quiet
  · exact quiet.of_same rfl rfl rfl

theorem Quiet.next (quiet : fields.Quiet) (request : Request) : (fields.next request).Quiet := by
  cases request with
  | enable snapshot => exact quiet.enable snapshot
  | disable => exact quiet.disable
  | recordEcho sequence => exact quiet.of_same rfl rfl rfl
  | accept item time => exact quiet.accept item time
  | dequeue => exact quiet.dequeue
  | remove index => exact quiet.remove index
  | clear => exact quiet.clear
  | toggleOrder => exact quiet.of_same rfl rfl rfl
  | setOrder order => exact quiet.setOrder order

theorem Quiet.after (quiet : fields.Quiet) (requests : List Request) :
    (fields.after requests).Quiet := by
  induction requests generalizing fields with
  | nil => exact quiet
  | cons request rest follows => exact follows (quiet.next request)

/-! ### States and their fields -/

theorem evict_eq_drop (room : Nat) (history : List Entry) :
    evict room history = history.drop (history.length + 1 - room) := by
  induction history with
  | nil => rw [evict, List.drop_nil]
  | cons oldest rest follows =>
    rw [evict, List.length_cons]
    split
    · next full =>
      have one : rest.length + 1 + 1 - room = (rest.length + 1 - room) + 1 := by omega
      rw [follows, one, List.drop_succ_cons]
    · next space =>
      have none : rest.length + 1 + 1 - room = 0 := by omega
      rw [none, List.drop_zero]

end Fields

namespace State

@[simps]
def fields (state : State) : Fields :=
  ⟨state.settings, state.order, state.enabled, state.queue, state.snapshot, state.history,
    state.echoes⟩

theorem fields_injective : Function.Injective fields := by
  rintro ⟨settings, order, mode, history, echoes⟩ ⟨settings', order', mode', history', echoes'⟩ same
  cases mode <;> cases mode' <;> cases same <;> rfl

theorem fields_quiet (state : State) : state.fields.Quiet := by
  obtain ⟨settings, order, mode, history, echoes⟩ := state
  cases mode with
  | off => exact fun _ => ⟨rfl, rfl⟩
  | on snapshot queue => exact .of_on rfl

/-- Fields that are quiet are the fields of a state. -/
theorem quiet_iff (given : Fields) : given.Quiet ↔ ∃ state : State, state.fields = given := by
  constructor
  · intro quiet
    obtain ⟨settings, order, enabled, queue, snapshot, history, echoes⟩ := given
    cases enabled with
    | true => exact ⟨⟨settings, order, .on snapshot queue, history, echoes⟩, rfl⟩
    | false =>
      obtain ⟨rfl, rfl⟩ := quiet rfl
      exact ⟨⟨settings, order, .off, history, echoes⟩, rfl⟩
  · rintro ⟨state, rfl⟩
    exact state.fields_quiet

variable (state : State)

/-- The queue of a state can be set so long as that leaves it empty while queue mode is off. -/
theorem withQueue_fields {queue : List Item} (empty : state.enabled = false → queue = []) :
    (state.withQueue queue).fields = { state.fields with queue } := by
  obtain ⟨settings, order, mode, history, echoes⟩ := state
  cases mode with
  | off =>
    cases empty rfl
    rfl
  | on snapshot old => rfl

theorem fields_enable (snapshot : Option Item) :
    state.fields.enable snapshot = (!state.enabled, (state.enable snapshot).fields) := by
  obtain ⟨settings, order, mode, history, echoes⟩ := state
  cases mode <;> rfl

theorem fields_disable : state.fields.disable = (state.snapshot, state.disable.fields) := by
  obtain ⟨settings, order, mode, history, echoes⟩ := state
  cases mode <;> rfl

theorem fields_repeats (item : Item) (time : Nat) :
    state.fields.repeats item time = (state.echoed? item time).isSome := by
  rw [Fields.repeats, echoed?, fields_history, fields_settings]
  cases state.history.getLast? with
  | none => rfl
  | some newest =>
    dsimp only
    rw [Option.filter_some, apply_ite Option.isSome]
    simp

theorem fields_remember (item : Item) (time : Nat) :
    state.fields.remember item time = (state.remember item time).fields := by
  simp only [Fields.remember, Fields.evict_eq_drop, fields_history, fields_settings]
  rfl

theorem fields_accept (item : Item) (time : Nat) :
    state.fields.accept item time =
      ((state.accept item time).1, (state.accept item time).2.fields) := by
  unfold Fields.accept accept
  rw [fields_repeats, fields_remember, fields_enabled]
  split
  · rfl
  · split
    · rfl
    · dsimp only
      split
      · next on =>
        have queued : ((state.remember item time).withQueue (state.queue ++ [item])).fields = _ :=
          (state.remember item time).withQueue_fields fun off => absurd on (Bool.eq_false_iff.mp off)
        exact Prod.ext rfl queued.symm
      · rfl

theorem fields_give_some (on : state.enabled = true) (fault : Error) (item : Item)
    (queue : List Item) :
    state.fields.give fault (some (item, queue)) = (.ok item, (state.withQueue queue).fields) := by
  rw [withQueue_fields state fun off => absurd on (Bool.eq_false_iff.mp off)]
  rfl

theorem fields_dequeue :
    state.fields.dequeue.map Fields.given id =
      ((state.perform .dequeue).1, (state.perform .dequeue).2.fields) := by
  rw [Fields.dequeue, perform, dequeue, fields_enabled, fields_order, fields_queue]
  split
  · next on =>
    cases next? state.order state.queue with
    | none => rfl
    | some taken =>
      rw [fields_give_some state on]
      rfl
  · rfl

theorem fields_remove (index : Nat) :
    (state.fields.remove index).map Fields.given id =
      ((state.perform (.remove index)).1, (state.perform (.remove index)).2.fields) := by
  rw [Fields.remove, perform, remove, fields_queue]
  cases found : state.queue[index]? with
  | none => rfl
  | some item =>
    have on : state.enabled = true := by
      by_contra off
      have empty : state.queue = [] := (state.fields_quiet (Bool.eq_false_iff.mpr off)).1
      rw [empty] at found
      cases found
    rw [Option.map_some, fields_give_some state on]
    rfl

theorem fields_clear : state.fields.clear = state.clear.fields :=
  (state.withQueue_fields fun _ => rfl).symm

theorem fields_setOrder (order : Order) :
    state.fields.setOrder order = (state.order != order, (state.withOrder order).fields) := by
  rw [Fields.setOrder, fields_order]
  split
  · next same =>
    subst same
    rw [bne_self_eq_false]
    rfl
  · next other =>
    rw [bne_iff_ne.mpr other]
    rfl

theorem fields_perform (request : Request) :
    state.fields.perform request = ((state.perform request).1, (state.perform request).2.fields) := by
  cases request with
  | enable snapshot => exact congrArg (Prod.map _ _) (state.fields_enable snapshot)
  | disable => exact congrArg (Prod.map _ _) state.fields_disable
  | recordEcho sequence => rfl
  | accept item time => exact congrArg (Prod.map _ _) (state.fields_accept item time)
  | dequeue => exact state.fields_dequeue
  | remove index => exact state.fields_remove index
  | clear => exact congrArg (Prod.mk _) state.fields_clear
  | toggleOrder => rfl
  | setOrder order => exact congrArg (Prod.map _ _) (state.fields_setOrder order)

theorem fields_after (requests : List Request) :
    state.fields.after requests = (state.after requests).fields := by
  induction requests generalizing state with
  | nil => rfl
  | cons request rest follows =>
    have first : state.fields.next request = (state.next request).fields :=
      congrArg Prod.snd (state.fields_perform request)
    show (state.fields.next request).after rest = _
    rw [first]
    exact follows (state.next request)

theorem fields_events (requests : List Request) :
    state.fields.events requests = state.events requests := by
  induction requests generalizing state with
  | nil => rfl
  | cons request rest follows =>
    have first := state.fields_perform request
    rw [Fields.events, events, Fields.next, first, follows]
    rfl

end State

/-- Every run is the same for the fields as for a state: the replies, what the fields are at its end,
and that they are quiet there. -/
theorem Fields.run_agrees (settings : Settings) (order : Order) (requests : List Request) :
    let start := State.init settings order
    let fields := (Fields.init settings order).after requests
    (Fields.init settings order).events requests = start.events requests ∧
    fields = (start.after requests).fields ∧ fields.Quiet := by
  intro start fields
  exact ⟨start.fields_events requests, start.fields_after requests,
    (Fields.init_quiet settings order).after requests⟩

end PasteQueue.Queue
