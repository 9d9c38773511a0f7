import Mathlib.Data.List.Chain
import Mathlib.Data.List.TakeWhile
import PasteQueue.Proofs.Queue.History

/-!
Copies in quick succession. An item is dropped if it has the content of the newest entry and comes less
than the window after it. What is dropped leaves no trace, so the window counts from what was recorded:
of copies of one content history takes the first, and then each time the earliest that is at least the
window later.
-/

namespace PasteQueue.Queue

open Clipboard (Item)

/-- An offer as the entry that may come of it. -/
def Request.candidate? : Request → Option Entry
  | .accept item time => if item.isEmpty then none else some ⟨item, time⟩
  | _ => none

/-- If the newer entry has the content of the older one, it came at least the window later. -/
def Entry.Apart (window : Nat) (older newer : Entry) : Prop :=
  newer.item.same older.item = true → window ≤ newer.time - older.time

/-- What comes after the window of the newest entry. -/
def beyond (window : Nat) (newest : Option Entry) (entries : List Entry) : List Entry :=
  match newest with
  | none => entries
  | some newest => entries.dropWhile fun entry => entry.time < newest.time + window

theorem length_beyond_le (window : Nat) (newest : Option Entry) (entries : List Entry) :
    (beyond window newest entries).length ≤ entries.length := by
  unfold beyond
  split
  · exact Nat.le_refl _
  · exact List.length_dropWhile_le ..

/-- The first entry, and then each time the earliest that is at least the window later. -/
def spaced (window : Nat) : List Entry → List Entry
  | [] => []
  | first :: rest => first :: spaced window (beyond window (some first) rest)
termination_by entries => entries.length
decreasing_by exact Nat.lt_succ_of_le (length_beyond_le ..)

/-- Copies of one content, none of them earlier than the one before it. -/
structure Copies (entries : List Entry) : Prop where
  alike : ∀ newer ∈ entries, ∀ older ∈ entries, newer.item.same older.item = true
  ordered : entries.Pairwise fun older newer => older.time ≤ newer.time

theorem Copies.sublist {entries fewer : List Entry} (copies : Copies entries)
    (part : fewer.Sublist entries) : Copies fewer where
  alike newer member older other := copies.alike newer (part.subset member) older (part.subset other)
  ordered := copies.ordered.sublist part

namespace State

variable {state : State} {item : Item} {time : Nat}

theorem echoed?_isSome_iff :
    (state.echoed? item time).isSome = true ↔ ∃ newest, state.history.getLast? = some newest ∧
      item.same newest.item = true ∧ time - newest.time < state.settings.dedupWindow := by
  unfold echoed?
  cases state.history.getLast? <;> simp [and_comm]

theorem accept_outcome (state : State) (item : Item) (time : Nat) :
    (state.accept item time).1 =
      if item.isEmpty then .ignoredEmpty
      else if (state.echoed? item time).isSome then .duplicate
      else if state.enabled then .queued
      else .remembered := by
  unfold accept
  dsimp only
  split_ifs <;> rfl

theorem reply_accept (state : State) (item : Item) (time : Nat) :
    state.reply (.accept item time) = .judged (state.accept item time).1 := rfl

theorem reply_duplicate_iff (something : item.isEmpty = false) :
    state.reply (.accept item time) = .judged .duplicate ↔
      (state.echoed? item time).isSome = true := by
  rw [reply_accept, accept_outcome, if_neg (by simp [something])]
  split
  · rename_i echoed
    exact iff_of_true rfl echoed
  · rename_i fresh
    split <;> exact iff_of_false nofun fresh

theorem next_of_duplicate (dropped : state.reply (.accept item time) = .judged .duplicate) :
    state.next (.accept item time) = state := by
  simp only [reply, next, perform] at dropped ⊢
  rcases state.accept_cases item time with (same | same) | ⟨_, same⟩ | ⟨_, same⟩
  · rw [same]
  · rw [same]
  · rw [same] at dropped
    cases dropped
  · rw [same] at dropped
    cases dropped

/-- A candidate is recorded unless it is an echo. -/
theorem entry?_reply (state : State) (request : Request) :
    Event.entry? ⟨request, state.reply request⟩ =
      request.candidate?.filter fun entry => (state.echoed? entry.item entry.time).isNone := by
  cases request with
  | accept item time =>
    rw [reply_accept, accept_outcome, Request.candidate?]
    cases item.isEmpty with
    | true => rfl
    | false =>
      rw [if_neg Bool.false_ne_true, if_neg Bool.false_ne_true, Option.filter_some]
      dsimp only
      cases state.echoed? item time with
      | none => cases state.enabled <;> rfl
      | some => rfl
  | enable | disable | recordEcho | dequeue | remove | clear | toggleOrder | setOrder => rfl

theorem after_settings (state : State) (requests : List Request) :
    (state.after requests).settings = state.settings :=
  state.run_induction (fun _ after => after.settings = state.settings) rfl
    (fun _ before request same => (before.next_settings request).trans same) requests

/-- The newest entry of history is the latest that was recorded. -/
theorem after_newest (settings : Settings) (order : Order) (requests : List Request) :
    ((init settings order).after requests).history.getLast? =
      (((init settings order).events requests).filterMap Event.entry?).getLast? := by
  have room : 0 < max 1 settings.historyCapacity := Nat.lt_of_lt_of_le Nat.one_pos (Nat.le_max_left ..)
  rw [after_history, List.rtake, List.getLast?_drop]
  split
  · rename_i none
    have nothing := List.length_eq_zero_iff.mp (by omega :
      (((init settings order).events requests).filterMap Event.entry?).length = 0)
    rw [nothing]
    rfl
  · rfl

theorem after_isChain (settings : Settings) (order : Order) (requests : List Request) :
    ((init settings order).after requests).history.IsChain (Entry.Apart settings.dedupWindow) := by
  have kept := (init settings order).run_induction (fun _ state =>
    state.settings = settings ∧ state.history.IsChain (Entry.Apart settings.dedupWindow))
    ⟨rfl, .nil⟩ ?_ requests
  · exact kept.2
  · rintro events before request ⟨same, apart⟩
    refine ⟨(before.next_settings request).trans same, ?_⟩
    rw [next_history]
    cases added : Event.entry? ⟨request, before.reply request⟩ with
    | none => exact apart
    | some entry =>
      rw [entry?_reply] at added
      have fresh := (Option.filter_eq_some_iff.mp added).2
      refine List.isChain_append.mpr ⟨apart.drop _, .singleton _, ?_⟩
      rintro newest last _ ⟨⟩ alike
      rw [List.getLast?_drop, Option.mem_def] at last
      have last := (Option.ite_none_left_eq_some.mp last).2
      -- closer than the window it would be an echo, and not recorded
      by_contra close
      have echoed : (before.echoed? entry.item entry.time).isSome = true :=
        echoed?_isSome_iff.mpr ⟨newest, last, alike, same ▸ Nat.lt_of_not_le close⟩
      simp [Option.isNone_iff_eq_none.mp fresh] at echoed

theorem next_history_of_silent {request : Request}
    (silent : Event.entry? ⟨request, state.reply request⟩ = none) :
    (state.next request).history = state.history := by
  rw [next_history, silent]

theorem next_newest {request : Request} {entry : Entry}
    (recorded : Event.entry? ⟨request, state.reply request⟩ = some entry) :
    (state.next request).history.getLast? = some entry := by
  rw [next_history, recorded]
  exact List.getLast?_concat

/-- Among copies an echo is what comes before the end of the window. -/
theorem beyond_candidate {entry : Entry} {rest : List Entry}
    (copies : Copies (state.history.getLast?.toList ++ entry :: rest)) :
    beyond state.settings.dedupWindow state.history.getLast? (entry :: rest) =
      if (state.echoed? entry.item entry.time).isSome then
        beyond state.settings.dedupWindow state.history.getLast? rest
      else entry :: rest := by
  cases last : state.history.getLast? with
  | none =>
    have fresh : state.echoed? entry.item entry.time = none := by
      rw [echoed?, last]
      rfl
    rw [fresh]
    rfl
  | some newest =>
    rw [last] at copies
    have alike : entry.item.same newest.item = true := copies.alike entry (by simp) newest (by simp)
    have later : newest.time ≤ entry.time := List.rel_of_pairwise_cons copies.ordered (by simp)
    have echoed : (state.echoed? entry.item entry.time).isSome = true ↔
        entry.time < newest.time + state.settings.dedupWindow := by
      rw [echoed?_isSome_iff, last]
      simp only [Option.some.injEq, exists_eq_left', alike, true_and]
      omega
    rw [beyond, beyond, List.dropWhile_cons]
    simp only [echoed, decide_eq_true_eq]

/-- Of copies of the newest entry those before the end of its window are dropped, the next one is
recorded, and its own window begins. -/
theorem recorded_spaced (state : State) (requests : List Request)
    (copies : Copies (state.history.getLast?.toList ++ requests.filterMap Request.candidate?)) :
    (state.events requests).filterMap Event.entry? =
      spaced state.settings.dedupWindow (beyond state.settings.dedupWindow state.history.getLast?
        (requests.filterMap Request.candidate?)) := by
  induction requests generalizing state with
  | nil => cases state.history.getLast? <;> simp [events, beyond, spaced]
  | cons request rest follows =>
    have judged := state.entry?_reply request
    have settings := state.next_settings request
    rw [events]
    cases offered : request.candidate? with
    | none =>
      rw [offered, Option.filter_none] at judged
      have same := next_history_of_silent judged
      rw [List.filterMap_cons_none offered] at copies ⊢
      rw [List.filterMap_cons_none judged, follows _ (same ▸ copies), same, settings]
    | some entry =>
      rw [offered, Option.filter_some] at judged
      rw [List.filterMap_cons_some offered] at copies ⊢
      rw [beyond_candidate copies]
      cases echoed : state.echoed? entry.item entry.time with
      | some newest =>
        rw [echoed] at judged
        have same := next_history_of_silent judged
        rw [List.filterMap_cons_none judged, follows _ (same ▸ copies.sublist (by simp)), same,
          settings]
        rfl
      | none =>
        rw [echoed] at judged
        -- the window now counts from this entry
        have last := next_newest judged
        rw [List.filterMap_cons_some judged, follows _ (last ▸ copies.sublist (by simp)), last,
          settings]
        exact (spaced.eq_2 ..).symm

end State

/-- In every run an item is dropped if and only if the newest entry, the latest that was recorded, has
its content and came less than the window before it; dropping it changes nothing. Neighbours in history
with one content are at least the window apart. Of copies of one content, offered in the order of time
among any other requests, exactly those are recorded that `spaced` picks. -/
theorem copies_debounced (settings : Settings) (order : Order) (requests : List Request) :
    let start := State.init settings order
    let state := start.after requests
    let recorded := (start.events requests).filterMap Event.entry?
    let candidates := requests.filterMap Request.candidate?
    state.history.getLast? = recorded.getLast? ∧
    (∀ item time, item.isEmpty = false →
      (state.reply (.accept item time) = .judged .duplicate ↔
        ∃ newest, state.history.getLast? = some newest ∧ item.same newest.item = true ∧
          time - newest.time < settings.dedupWindow)) ∧
    (∀ item time, state.reply (.accept item time) = .judged .duplicate →
      state.next (.accept item time) = state) ∧
    state.history.IsChain (Entry.Apart settings.dedupWindow) ∧
    (Copies candidates → recorded = spaced settings.dedupWindow candidates) := by
  intro start state recorded candidates
  refine ⟨State.after_newest settings order requests, fun item time something => ?_,
    fun item time => State.next_of_duplicate, State.after_isChain settings order requests,
    start.recorded_spaced requests⟩
  rw [State.reply_duplicate_iff something, State.echoed?_isSome_iff, start.after_settings requests]
  rfl

/-- Copies at the edges of two windows of a second, among other requests. -/
def burst : List Request :=
  [.accept (sample 0) 500, .enable none, .accept (sample 1) 1499, .recordEcho 7, .clear,
    .accept (sample 2) 1500, .dequeue, .accept (sample 3) 1900, .accept (sample 4) 2499,
    .accept (sample 5) 2600]

theorem burst_debounced :
    let start := State.init { historyCapacity := 2 } .fifo
    let state := start.after burst
    spaced 1000 (burst.filterMap Request.candidate?) =
      [⟨sample 0, 500⟩, ⟨sample 2, 1500⟩, ⟨sample 5, 2600⟩] ∧
    state.reply (.accept (sample 6) 3599) = .judged .duplicate ∧
    state.next (.accept (sample 6) 3599) = state := by
  obtain ⟨-, dropped, unchanged, -, picked⟩ := copies_debounced { historyCapacity := 2 } .fifo burst
  have copies : Copies (burst.filterMap Request.candidate?) := ⟨by decide, by decide⟩
  have late := (dropped (sample 6) 3599 rfl).mpr ⟨⟨sample 5, 2600⟩, rfl, rfl, by decide⟩
  exact ⟨(picked copies).symm, late, unchanged _ _ late⟩

end PasteQueue.Queue
