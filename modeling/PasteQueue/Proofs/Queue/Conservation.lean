import Mathlib.Data.List.InsertIdx
import PasteQueue.Proofs.Queue.Ledger

/-!
The queue and its ledger agree along every run: an entry that has been queued stays, in its place,
until it is taken out or cleared away, and what is taken out is the entry that was due.
-/

namespace PasteQueue.Queue

open Clipboard (Item)

namespace Ledger

/-- The ledger has the order in which items are taken out and, while queue mode is on, the queue. -/
structure Covers (ledger : Ledger) (state : State) : Prop extends ledger.Sound where
  order : state.order = ledger.order
  queue : state.enabled = true → state.queue = ledger.items

/-- Either nothing is left, or an entry is due, and the queue gives out its item and keeps the
others in their order. -/
theorem next?_cases (ledger : Ledger) :
    (ledger.next? = none ∧ State.next? ledger.order ledger.items = none) ∨
    ∃ front entry back, ledger.remaining = front ++ entry :: back ∧ ledger.next? = some entry ∧
      State.next? ledger.order ledger.items = some (entry.1, (front ++ back).map Prod.fst) := by
  unfold next? items State.next?
  cases ledger.order with
  | fifo =>
    cases ledger.remaining with
    | nil => exact .inl ⟨rfl, rfl⟩
    | cons entry back => exact .inr ⟨[], entry, back, rfl, rfl, rfl⟩
  | lifo =>
    rcases ledger.remaining.eq_nil_or_concat with none | ⟨front, entry, split⟩
    · rw [none]
      exact .inl ⟨rfl, rfl⟩
    · rw [split]
      exact .inr ⟨front, entry, [], by simp⟩

variable {ledger : Ledger} {state : State}

theorem Covers.of_same (covers : ledger.Covers state) {after : State}
    (order : after.order = state.order) (enabled : after.enabled = state.enabled)
    (queue : after.queue = state.queue) : ledger.Covers after where
  toSound := covers.toSound
  order := order.trans covers.order
  queue on := queue.trans (covers.queue (enabled ▸ on))

theorem Covers.of_off (sound : ledger.Sound) (order : state.order = ledger.order)
    (off : state.enabled = false) : ledger.Covers state where
  toSound := sound
  order := order
  queue on := nomatch off.symm.trans on

theorem Covers.withdraw (covers : ledger.Covers state) (on : state.enabled = true)
    {front back : List (Item × Nat)} {entry : Item × Nat}
    (split : ledger.remaining = front ++ entry :: back) :
    (ledger.withdraw entry.1 (some entry)).Covers
      (state.withQueue ((front ++ back).map Prod.fst)) where
  toSound := by
    refine covers.toSound.cross (List.nodup_singleton _) fun other member => ?_
    rw [List.mem_singleton.mp member, split]
    exact List.mem_append_right _ List.mem_cons_self
  order := (state.withQueue_order _).trans covers.order
  queue _ := by
    rw [State.withQueue_queue on, items, remaining_withdraw split]

theorem Covers.enable (covers : ledger.Covers state) (kept : Option Item) :
    (ledger.note ⟨.enable kept, state.reply (.enable kept)⟩).Covers (state.enable kept) := by
  cases mode : state.enabled with
  | true =>
    simp only [note, State.reply, State.perform, mode, Bool.not_true]
    rw [State.enable_of_on mode]
    exact covers
  | false =>
    simp only [note, State.reply, State.perform, mode, Bool.not_false]
    exact ⟨.of_nil, (state.enable_order kept).trans covers.order,
      fun _ => State.enable_queue_of_off mode kept⟩

theorem Covers.accept (covers : ledger.Covers state) (item : Item) (time : Nat) :
    (ledger.note ⟨.accept item time, .judged (state.accept item time).1⟩).Covers
      (state.accept item time).2 := by
  rcases state.accept_cases item time with (same | same) | ⟨_, same⟩ | ⟨on, same⟩ <;> rw [same]
  · exact covers
  · exact covers
  · exact covers.of_same rfl rfl rfl
  · refine ⟨covers.toSound.add item, (State.enqueue_order _ item).trans covers.order, fun _ => ?_⟩
    have on : (state.remember item time).enabled = true := on
    have queue : (state.remember item time).queue = ledger.items := covers.queue on
    show ((state.remember item time).enqueue item).queue = (ledger.add item).items
    rw [State.enqueue, State.withQueue_queue on, queue, items, items, covers.toSound.remaining_add,
      List.map_append]
    rfl

/-- What a request for the next item leads to. -/
theorem Covers.dequeue_cases (covers : ledger.Covers state) :
    (state.enabled = false ∧ state.dequeue = .error .disabled) ∨
    (state.enabled = true ∧ ledger.next? = none ∧ state.dequeue = .error .empty) ∨
    ∃ front entry back, state.enabled = true ∧ ledger.remaining = front ++ entry :: back ∧
      ledger.next? = some entry ∧
      state.dequeue = .ok (entry.1, state.withQueue ((front ++ back).map Prod.fst)) := by
  unfold State.dequeue
  cases mode : state.enabled with
  | false => exact .inl ⟨rfl, rfl⟩
  | true =>
    rw [covers.order, covers.queue mode]
    rcases ledger.next?_cases with ⟨due, given⟩ | ⟨front, entry, back, split, due, given⟩ <;>
      rw [given]
    · exact .inr (.inl ⟨rfl, due, rfl⟩)
    · exact .inr (.inr ⟨front, entry, back, rfl, split, due, rfl⟩)

/-- What a request to remove an item leads to. -/
theorem Covers.remove_cases (covers : ledger.Covers state) (index : Nat) :
    (state.remove index = .error (.indexOutOfRange index state.queue.length) ∧
      (state.enabled = true → ledger.remaining[index]? = none)) ∨
    ∃ front entry back, state.enabled = true ∧ ledger.remaining = front ++ entry :: back ∧
      ledger.remaining[index]? = some entry ∧
      state.remove index = .ok (entry.1, state.withQueue ((front ++ back).map Prod.fst)) := by
  unfold State.remove
  cases mode : state.enabled with
  | false =>
    rw [State.queue_of_off mode]
    exact .inl ⟨rfl, nofun⟩
  | true =>
    rw [covers.queue mode, items, List.getElem?_map]
    cases found : ledger.remaining[index]? with
    | none => exact .inl ⟨rfl, fun _ => rfl⟩
    | some entry =>
      obtain ⟨inside, here⟩ := List.getElem?_eq_some_iff.mp found
      refine .inr ⟨ledger.remaining.take index, entry, ledger.remaining.drop (index + 1), rfl, ?_,
        rfl, ?_⟩
      · rw [← here, ← List.drop_eq_getElem_cons, List.take_append_drop]
      · rw [← List.eraseIdx_eq_take_drop_succ, List.eraseIdx_map]
        rfl

theorem Covers.dequeue (covers : ledger.Covers state) :
    (ledger.note ⟨.dequeue, state.reply .dequeue⟩).Covers (state.next .dequeue) := by
  rcases covers.dequeue_cases with
    ⟨_, given⟩ | ⟨_, _, given⟩ | ⟨front, entry, back, on, split, due, given⟩ <;>
    simp only [State.reply, State.next, State.perform, given, State.take, note]
  · exact covers
  · exact covers
  · rw [due]
    exact covers.withdraw on split

theorem Covers.remove (covers : ledger.Covers state) (index : Nat) :
    (ledger.note ⟨.remove index, state.reply (.remove index)⟩).Covers
      (state.next (.remove index)) := by
  rcases covers.remove_cases index with ⟨given, _⟩ | ⟨front, entry, back, on, split, due, given⟩ <;>
    simp only [State.reply, State.next, State.perform, given, State.take, note]
  · exact covers
  · rw [due]
    exact covers.withdraw on split

theorem Covers.clear (covers : ledger.Covers state) :
    (ledger.cross ledger.remaining).Covers state.clear where
  toSound := covers.toSound.cross ledger.remaining_nodup fun _ => id
  order := (state.withQueue_order []).trans covers.order
  queue on := by
    rw [State.clear, State.withQueue_queue (state.withQueue_enabled [] ▸ on), items, remaining_clear,
      List.map_nil]

theorem Covers.note (covers : ledger.Covers state) (request : Request) :
    (ledger.note ⟨request, state.reply request⟩).Covers (state.next request) := by
  cases request with
  | enable kept => exact covers.enable kept
  | disable => exact .of_off covers.toSound covers.order state.disable_enabled
  | recordEcho => exact covers.of_same rfl rfl rfl
  | accept item time => exact covers.accept item time
  | dequeue => exact covers.dequeue
  | remove index => exact covers.remove index
  | clear => exact covers.clear
  | toggleOrder =>
    exact ⟨covers.toSound.withOrder _, congrArg Order.toggled covers.order, covers.queue⟩
  | setOrder order => exact ⟨covers.toSound.withOrder order, rfl, covers.queue⟩

theorem covers_after (settings : Settings) (order : Order) (requests : List Request) :
    (ofEvents order ((State.init settings order).events requests)).Covers
      ((State.init settings order).after requests) := by
  refine (State.init settings order).run_induction
    (fun events state => (ofEvents order events).Covers state)
    (.of_off .of_nil rfl rfl) (fun events before request covers => ?_) requests
  rw [ofEvents_concat]
  exact covers.note request

theorem Covers.reply_dequeue (covers : ledger.Covers state) (item : Item) :
    state.reply .dequeue = .taken item ↔
      state.enabled = true ∧ ledger.next?.map Prod.fst = some item := by
  rcases covers.dequeue_cases with
    ⟨off, given⟩ | ⟨_, due, given⟩ | ⟨_, entry, _, on, _, due, given⟩ <;>
    simp only [State.reply, State.perform, given, State.take]
  · simp [off]
  · simp [due]
  · simp [on, due]

theorem Covers.reply_remove (covers : ledger.Covers state) (index : Nat) (item : Item) :
    state.reply (.remove index) = .taken item ↔
      state.enabled = true ∧ ledger.remaining[index]?.map Prod.fst = some item := by
  rcases covers.remove_cases index with ⟨given, none⟩ | ⟨_, entry, _, on, _, due, given⟩ <;>
    simp only [State.reply, State.perform, given, State.take]
  · constructor
    · nofun
    · rintro ⟨on, due⟩
      rw [none on] at due
      cases due
  · simp [on, due]

end Ledger

/-- In every run the queue is what has been queued since queue mode was last turned on, in that
order, less the entries that were taken out or cleared away since, each of them once. The entry that
comes next is the latest one left or the earliest, by the order of the moment. -/
theorem queue_accounted (settings : Settings) (order : Order) (requests : List Request) :
    let start := State.init settings order
    let state := start.after requests
    let ledger := Ledger.ofEvents order (start.events requests)
    state.queue = (if state.enabled then ledger.items else []) ∧
    ledger.remaining.Sublist ledger.queued.zipIdx ∧
    (ledger.remaining ++ ledger.gone).Perm ledger.queued.zipIdx ∧
    state.order = ledger.order ∧
    (∀ item, state.reply .dequeue = .taken item ↔
      state.enabled = true ∧ ledger.next?.map Prod.fst = some item) ∧
    (∀ index item, state.reply (.remove index) = .taken item ↔
      state.enabled = true ∧ ledger.remaining[index]?.map Prod.fst = some item) ∧
    (state.enabled = false → state.queue = [] ∧ state.snapshot = none) := by
  intro start state ledger
  have covers : ledger.Covers state := Ledger.covers_after settings order requests
  refine ⟨?_, List.filter_sublist, covers.toSound.remaining_append_gone, covers.order,
    covers.reply_dequeue, covers.reply_remove, fun off =>
      ⟨State.queue_of_off off, State.snapshot_of_off off⟩⟩
  split
  · rename_i on
    exact covers.queue on
  · rename_i off
    exact State.queue_of_off (Bool.not_eq_true _ ▸ off)

/-- Three items are queued, the order is switched, and the first and the last are taken out. -/
def thinning : List Request := .enable none :: offers 3 ++ [.toggleOrder, .dequeue, .remove 1]

theorem thinned_queue :
    let start := State.init {} .lifo
    let state := start.after thinning
    (Ledger.ofEvents .lifo (start.events thinning)).gone = [(sample 0, 0), (sample 2, 2)] ∧
    state.queue = [sample 1] ∧ state.reply .dequeue = .taken (sample 1) ∧
    state.reply (.remove 0) = .taken (sample 1) := by
  obtain ⟨queue, _, _, _, dequeue, remove, _⟩ := queue_accounted {} .lifo thinning
  exact ⟨rfl, queue.trans rfl, (dequeue (sample 1)).mpr ⟨rfl, rfl⟩,
    (remove 0 (sample 1)).mpr ⟨rfl, rfl⟩⟩

end PasteQueue.Queue
