import PasteQueue.Queue.State

/-!
What the operations on history and queue leave alone: only recording an own change touches the ring,
only switching queue mode touches the kept clipboard, and only accepting an item touches history.
-/

namespace PasteQueue.Queue.State

open Clipboard (Content Item)

variable (state : State)

@[simp] theorem withQueue_echoes (queue : List Item) : (state.withQueue queue).echoes = state.echoes := by
  unfold withQueue
  split <;> rfl

@[simp] theorem withQueue_snapshot (queue : List Item) :
    (state.withQueue queue).snapshot = state.snapshot := by
  unfold withQueue
  split <;> rename_i mode <;> simp only [snapshot, mode]

@[simp] theorem enable_echoes (kept : Option Item) : (state.enable kept).echoes = state.echoes := by
  unfold enable
  split <;> rfl

@[simp] theorem disable_echoes : state.disable.echoes = state.echoes := rfl

@[simp] theorem disable_snapshot : state.disable.snapshot = none := rfl

@[simp] theorem recordEcho_snapshot (sequence : UInt32) :
    (state.recordEcho sequence).snapshot = state.snapshot := rfl

@[simp] theorem recordEcho_echoes (sequence : UInt32) :
    (state.recordEcho sequence).echoes = state.echoes.record sequence := rfl

@[simp] theorem remember_echoes (item : Item) (time : Nat) :
    (state.remember item time).echoes = state.echoes := rfl

@[simp] theorem remember_snapshot (item : Item) (time : Nat) :
    (state.remember item time).snapshot = state.snapshot := rfl

@[simp] theorem enqueue_echoes (item : Item) : (state.enqueue item).echoes = state.echoes :=
  withQueue_echoes state _

@[simp] theorem enqueue_snapshot (item : Item) : (state.enqueue item).snapshot = state.snapshot :=
  withQueue_snapshot state _

@[simp] theorem accept_echoes (item : Item) (time : Nat) :
    (state.accept item time).2.echoes = state.echoes := by
  unfold accept
  split
  · rfl
  · split
    · rfl
    · dsimp only
      split <;> simp

@[simp] theorem accept_snapshot (item : Item) (time : Nat) :
    (state.accept item time).2.snapshot = state.snapshot := by
  unfold accept
  split
  · rfl
  · split
    · rfl
    · dsimp only
      split <;> simp

/-- Taking an item out changes the queue alone. -/
theorem dequeue_ok {item : Item} {after : State} (taken : state.dequeue = .ok (item, after)) :
    ∃ rest, after = state.withQueue rest := by
  unfold dequeue at taken
  split at taken
  · split at taken
    · cases taken
      exact ⟨_, rfl⟩
    · cases taken
  · cases taken

theorem remove_ok {index : Nat} {item : Item} {after : State}
    (taken : state.remove index = .ok (item, after)) : ∃ rest, after = state.withQueue rest := by
  unfold remove at taken
  split at taken
  · cases taken
    exact ⟨_, rfl⟩
  · cases taken

theorem dequeue_frame {item : Item} {after : State} (taken : state.dequeue = .ok (item, after)) :
    after.echoes = state.echoes ∧ after.snapshot = state.snapshot := by
  obtain ⟨rest, rfl⟩ := state.dequeue_ok taken
  exact ⟨withQueue_echoes state rest, withQueue_snapshot state rest⟩

theorem remove_frame {index : Nat} {item : Item} {after : State}
    (taken : state.remove index = .ok (item, after)) :
    after.echoes = state.echoes ∧ after.snapshot = state.snapshot := by
  obtain ⟨rest, rfl⟩ := state.remove_ok taken
  exact ⟨withQueue_echoes state rest, withQueue_snapshot state rest⟩

@[simp] theorem clear_echoes : state.clear.echoes = state.echoes := withQueue_echoes state []

@[simp] theorem clear_snapshot : state.clear.snapshot = state.snapshot := withQueue_snapshot state []

@[simp] theorem withOrder_echoes (order : Order) : (state.withOrder order).echoes = state.echoes := rfl

@[simp] theorem withOrder_snapshot (order : Order) :
    (state.withOrder order).snapshot = state.snapshot := rfl

@[simp] theorem toggleOrder_echoes : state.toggleOrder.echoes = state.echoes := rfl

@[simp] theorem toggleOrder_snapshot : state.toggleOrder.snapshot = state.snapshot := rfl

/-! ### Queue, order and history -/

@[simp] theorem withQueue_enabled (queue : List Item) :
    (state.withQueue queue).enabled = state.enabled := by
  unfold withQueue
  split <;> rename_i mode <;> simp only [enabled, mode]

@[simp] theorem withQueue_order (queue : List Item) : (state.withQueue queue).order = state.order := by
  unfold withQueue
  split <;> rfl

@[simp] theorem withQueue_settings (queue : List Item) :
    (state.withQueue queue).settings = state.settings := by
  unfold withQueue
  split <;> rfl

@[simp] theorem withQueue_history (queue : List Item) :
    (state.withQueue queue).history = state.history := by
  unfold withQueue
  split <;> rfl

theorem withQueue_queue {state : State} (on : state.enabled = true) (queue : List Item) :
    (state.withQueue queue).queue = queue := by
  unfold withQueue
  split
  · rename_i mode
    simp [enabled, mode] at on
  · rfl

theorem queue_of_off {state : State} (off : state.enabled = false) : state.queue = [] := by
  unfold enabled at off
  unfold queue
  split <;> simp_all

theorem snapshot_of_off {state : State} (off : state.enabled = false) : state.snapshot = none := by
  unfold enabled at off
  unfold snapshot
  split <;> simp_all

@[simp] theorem disable_enabled : state.disable.enabled = false := rfl

@[simp] theorem enable_order (kept : Option Item) : (state.enable kept).order = state.order := by
  unfold enable
  split <;> rfl

@[simp] theorem enable_settings (kept : Option Item) :
    (state.enable kept).settings = state.settings := by
  unfold enable
  split <;> rfl

@[simp] theorem enable_history (kept : Option Item) : (state.enable kept).history = state.history := by
  unfold enable
  split <;> rfl

theorem enable_of_on {state : State} (on : state.enabled = true) (kept : Option Item) :
    state.enable kept = state := if_pos on

theorem enable_queue_of_off {state : State} (off : state.enabled = false) (kept : Option Item) :
    (state.enable kept).queue = [] := by
  simp [enable, off, queue]

/-- The judgement on an item, and the state that it leads to. -/
theorem accept_cases (item : Item) (time : Nat) :
    (state.accept item time = (.ignoredEmpty, state) ∨ state.accept item time = (.duplicate, state)) ∨
    (state.enabled = false ∧ state.accept item time = (.remembered, state.remember item time)) ∨
    (state.enabled = true ∧
      state.accept item time = (.queued, (state.remember item time).enqueue item)) := by
  unfold accept
  split
  · exact .inl (.inl rfl)
  · split
    · exact .inl (.inr rfl)
    · cases mode : state.enabled with
      | false => exact .inr (.inl ⟨rfl, rfl⟩)
      | true => exact .inr (.inr ⟨rfl, rfl⟩)

@[simp] theorem enqueue_order (item : Item) : (state.enqueue item).order = state.order :=
  withQueue_order state _

@[simp] theorem enqueue_history (item : Item) : (state.enqueue item).history = state.history :=
  withQueue_history state _

theorem enable_snapshot {kept : Option Item} {item : Item}
    (keeps : (state.enable kept).snapshot = some item) :
    kept = some item ∨ state.snapshot = some item := by
  unfold enable at keeps
  split at keeps
  · exact .inr keeps
  · exact .inl keeps

/-! ### What is remembered -/

/-- The newest entry of history counts as the same copy. -/
def Remembers (content : Content) : Prop :=
  ∃ newest, state.history.getLast? = some newest ∧ content.same newest.item.content = true

theorem Remembers.of_history {state after : State} {content : Content}
    (same : after.history = state.history) :
    after.Remembers content ↔ state.Remembers content := by
  unfold Remembers
  rw [same]

/-- An item that is not empty is remembered, or the newest entry counts as the same copy already. -/
theorem accept_remembers {item : Item} (something : item.isEmpty = false) (time : Nat) :
    (state.accept item time).2.Remembers item.content := by
  have reflexive : item.content.same item.content = true := by
    cases content : item.content <;> simp [Content.same]
  have remembered : (state.remember item time).Remembers item.content :=
    ⟨⟨item, time⟩, List.getLast?_concat, reflexive⟩
  unfold accept
  rw [if_neg (by simp [something])]
  split
  · rename_i echoed
    obtain ⟨newest, found⟩ := Option.isSome_iff_exists.mp echoed
    obtain ⟨last, judged⟩ := Option.filter_eq_some_iff.mp found
    exact ⟨newest, last, (Bool.and_eq_true_iff.mp judged).2⟩
  · dsimp only
    split
    · exact (Remembers.of_history (enqueue_history _ item)).mpr remembered
    · exact remembered

end PasteQueue.Queue.State
