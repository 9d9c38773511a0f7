import Mathlib.Data.List.Nodup
import Mathlib.Data.List.Sigma
import Mathlib.Data.List.Perm.Lattice
import PasteQueue.Proofs.Queue.Requests

/-!
The ledger of a run: what has been queued since queue mode was last turned on, and which of these
entries have gone since, taken out or cleared away. It is kept from requests and replies alone. The
queue is at all times what the ledger says is left, in the order in which it was queued.
-/

namespace PasteQueue.Queue

open Clipboard (Item)

/-- An entry is an item and its place among all that were queued. -/
structure Ledger where
  order : Order
  queued : List Item := []
  gone : List (Item × Nat) := []

namespace Ledger

def remaining (ledger : Ledger) : List (Item × Nat) :=
  ledger.queued.zipIdx.filter (· ∉ ledger.gone)

def items (ledger : Ledger) : List Item := ledger.remaining.map Prod.fst

/-- The latest of the entries that are left, or the earliest. -/
def next? (ledger : Ledger) : Option (Item × Nat) :=
  match ledger.order with
  | .lifo => ledger.remaining.getLast?
  | .fifo => ledger.remaining.head?

def cross (ledger : Ledger) (entries : List (Item × Nat)) : Ledger :=
  { ledger with gone := ledger.gone ++ entries }

/-- The item is the one that was returned, the place that of the entry which was due. -/
def withdraw (ledger : Ledger) (item : Item) (due : Option (Item × Nat)) : Ledger :=
  ledger.cross (due.toList.map fun entry => (item, entry.2))

def add (ledger : Ledger) (item : Item) : Ledger :=
  { ledger with queued := ledger.queued ++ [item] }

def note (ledger : Ledger) (event : Event) : Ledger :=
  match event.request, event.reply with
  | .enable _, .changed true => { ledger with queued := [], gone := [] }
  | .accept item _, .judged .queued => ledger.add item
  | .dequeue, .taken item => ledger.withdraw item ledger.next?
  | .remove index, .taken item => ledger.withdraw item ledger.remaining[index]?
  | .clear, _ => ledger.cross ledger.remaining
  | .toggleOrder, _ => { ledger with order := ledger.order.toggled }
  | .setOrder order, _ => { ledger with order }
  | _, _ => ledger

def ofEvents (order : Order) (events : List Event) : Ledger := events.foldl note { order }

theorem ofEvents_concat (order : Order) (events : List Event) (event : Event) :
    ofEvents order (events ++ [event]) = (ofEvents order events).note event :=
  List.foldl_append

/-- Every entry that has gone was queued, and none has gone twice. -/
structure Sound (ledger : Ledger) : Prop where
  queued : ∀ entry ∈ ledger.gone, entry ∈ ledger.queued.zipIdx
  once : ledger.gone.Nodup

variable {ledger : Ledger}

theorem Sound.of_nil {order : Order} {queued : List Item} : Sound ⟨order, queued, []⟩ where
  queued _ member := nomatch member
  once := List.nodup_nil

theorem Sound.withOrder (sound : ledger.Sound) (order : Order) : Sound { ledger with order } :=
  ⟨sound.queued, sound.once⟩

theorem zipIdx_nodup (items : List Item) : items.zipIdx.Nodup :=
  .of_map Prod.snd (List.nodup_zipIdx_map_snd items)

theorem remaining_nodup (ledger : Ledger) : ledger.remaining.Nodup := (zipIdx_nodup _).filter _

theorem mem_remaining {entry : Item × Nat} :
    entry ∈ ledger.remaining ↔ entry ∈ ledger.queued.zipIdx ∧ entry ∉ ledger.gone := by
  simp [remaining]

theorem Sound.cross (sound : ledger.Sound) {entries : List (Item × Nat)} (distinct : entries.Nodup)
    (left : ∀ entry ∈ entries, entry ∈ ledger.remaining) : (ledger.cross entries).Sound where
  queued entry member := by
    rcases List.mem_append.mp member with member | member
    · exact sound.queued entry member
    · exact (mem_remaining.mp (left entry member)).1
  once := List.nodup_append.mpr ⟨sound.once, distinct, fun entry before other member same =>
    (mem_remaining.mp (left other member)).2 (same ▸ before)⟩

theorem remaining_cross (ledger : Ledger) (entries : List (Item × Nat)) :
    (ledger.cross entries).remaining = ledger.remaining.filter (· ∉ entries) := by
  rw [remaining, remaining, List.filter_filter]
  refine List.filter_congr fun entry _ => ?_
  simp [cross, not_or, and_comm]

theorem remaining_clear (ledger : Ledger) : (ledger.cross ledger.remaining).remaining = [] := by
  rw [remaining_cross, List.filter_eq_nil_iff]
  simp

/-- Entries are told apart by their places, so only the one that is crossed out goes. -/
theorem remaining_withdraw {front back : List (Item × Nat)} {entry : Item × Nat}
    (split : ledger.remaining = front ++ entry :: back) :
    (ledger.withdraw entry.1 (some entry)).remaining = front ++ back := by
  have distinct := split ▸ ledger.remaining_nodup
  have others : entry ∉ front ++ back := (List.nodup_middle.mp distinct).notMem
  rw [withdraw, remaining_cross, split, List.filter_append, List.filter_cons_of_neg (by simp),
    ← List.filter_append, List.filter_eq_self]
  intro other member
  have different : other ≠ entry := fun same => others (same ▸ member)
  simpa using different

theorem Sound.add (sound : ledger.Sound) (item : Item) : (ledger.add item).Sound where
  queued entry member := by
    rw [Ledger.add, List.zipIdx_append]
    exact List.mem_append_left _ (sound.queued entry member)
  once := sound.once

theorem Sound.remaining_add (sound : ledger.Sound) (item : Item) :
    (ledger.add item).remaining = ledger.remaining ++ [(item, ledger.queued.length)] := by
  have fresh : (item, ledger.queued.length) ∉ ledger.gone := fun member => by
    have place := (List.mem_zipIdx (sound.queued _ member)).2.1
    omega
  rw [remaining, remaining, Ledger.add, List.zipIdx_append, List.filter_append]
  simpa using fresh

/-- What is left and what has gone is what was queued. -/
theorem Sound.remaining_append_gone (sound : ledger.Sound) :
    (ledger.remaining ++ ledger.gone).Perm ledger.queued.zipIdx := by
  have gone : (ledger.queued.zipIdx.filter (· ∈ ledger.gone)).Perm ledger.gone := by
    -- nothing comes twice on either side, so it is enough that they have the same entries
    rw [List.perm_ext_iff_of_nodup ((zipIdx_nodup _).filter _) sound.once]
    intro entry
    have queued := sound.queued entry
    simp only [List.mem_filter, decide_eq_true_eq]
    exact ⟨And.right, fun member => ⟨queued member, member⟩⟩
  have parts := List.filter_append_perm (· ∉ ledger.gone) ledger.queued.zipIdx
  simp only [decide_not, Bool.not_not] at parts
  refine .trans (.append_left _ gone.symm) (.trans ?_ parts)
  rw [remaining]
  simp

end Ledger

end PasteQueue.Queue
