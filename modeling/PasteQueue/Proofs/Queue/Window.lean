import Mathlib.Data.List.Rotate
import PasteQueue.Proofs.Queue.EchoRing
import PasteQueue.Proofs.Queue.History

/-!
A ring is a window on the numbers that have been recorded: read from the cursor on, its slots are
the latest of them, as many as it has room for, behind those that have not been written yet.
-/

namespace PasteQueue.Queue.EchoRing

/-- What has not been pushed out of the slots is the latest of the records. -/
theorem rtake_replicate_append {α : Type} (room : Nat) (blank : α) (written : List α) :
    (List.replicate room blank ++ written).rtake room =
      List.replicate (room - written.length) blank ++ written.rtake room := by
  rw [List.rtake, List.length_append, List.length_replicate, Nat.add_sub_cancel_left,
    List.drop_append, List.drop_replicate, List.length_replicate, List.rtake]

/-- The slots as they will be written next: from the cursor to the end, and then from the start. -/
def turned (ring : EchoRing) : List (Option UInt32) := ring.slots.rotate ring.cursor

theorem ofCapacity_turned (requested : Nat) :
    (ofCapacity requested).turned = List.replicate (max 1 requested) none :=
  List.rotate_zero _

theorem length_turned (ring : EchoRing) : ring.turned.length = ring.capacity :=
  List.length_rotate ..

theorem mem_turned (ring : EchoRing) (slot : Option UInt32) :
    slot ∈ ring.turned ↔ slot ∈ ring.slots :=
  List.mem_rotate

theorem countP_turned (ring : EchoRing) : ring.turned.countP Option.isSome = ring.size :=
  (List.rotate_perm ring.slots ring.cursor).countP_eq _

variable {ring : EchoRing} (sequence : UInt32)

/-- The slot at the cursor is given up for the new number, and is the last to be written again. -/
theorem Pointed.turned_record (pointed : ring.Pointed) :
    (ring.record sequence).turned = ring.turned.tail ++ [some sequence] := by
  have inside : ring.cursor < ring.slots.length := pointed
  let behind := ring.slots.drop (ring.cursor + 1)
  let before := ring.slots.take ring.cursor
  have written : ring.slots.set ring.cursor (some sequence) =
      (before ++ [some sequence]) ++ behind := by
    rw [List.set_eq_take_append_cons_drop, if_pos inside, List.append_assoc, List.singleton_append]
  have next : ring.cursor + 1 = (before ++ [some sequence]).length := by
    rw [List.length_append, List.length_take_of_le inside.le, List.length_singleton]
  calc (ring.record sequence).turned
    _ = ((before ++ [some sequence]) ++ behind).rotate (ring.cursor + 1) := by
      rw [turned, EchoRing.record, capacity, ← List.length_set (a := some sequence) (i := ring.cursor),
        List.rotate_mod, written]
    _ = behind ++ (before ++ [some sequence]) := by
      rw [next, List.rotate_append_length_eq]
    _ = ring.turned.tail ++ [some sequence] := by
      rw [turned, List.rotate_eq_drop_append_take inside.le, List.drop_eq_getElem_cons inside,
        List.cons_append, List.tail_cons, List.append_assoc]

/-- The ring that comes of a series of records. -/
def after (ring : EchoRing) (records : List UInt32) : EchoRing := records.foldl record ring

theorem after_concat (ring : EchoRing) (records : List UInt32) :
    ring.after (records ++ [sequence]) = (ring.after records).record sequence :=
  List.foldl_append

theorem after_capacity (ring : EchoRing) (records : List UInt32) :
    (ring.after records).capacity = ring.capacity := by
  induction records generalizing ring with
  | nil => rfl
  | cons sequence rest follows => exact (follows _).trans (record_capacity sequence)

theorem Pointed.after (pointed : ring.Pointed) (records : List UInt32) :
    (ring.after records).Pointed := by
  induction records generalizing ring with
  | nil => exact pointed
  | cons sequence rest follows => exact follows (pointed.record sequence)

theorem ofCapacity_capacity (requested : Nat) :
    (ofCapacity requested).capacity = max 1 requested :=
  List.length_replicate

theorem after_cursor (requested : Nat) (records : List UInt32) :
    ((ofCapacity requested).after records).cursor = records.length % max 1 requested := by
  induction records using List.reverseRecOn with
  | nil => exact (Nat.zero_mod _).symm
  | append_singleton records sequence before =>
    rw [after_concat, record, after_capacity, ofCapacity_capacity, before, Nat.mod_add_mod,
      List.length_append, List.length_singleton]

/-- The slots are a window on what was in them at first and what has been recorded since. -/
theorem after_turned (requested : Nat) (records : List UInt32) :
    ((ofCapacity requested).after records).turned =
      (List.replicate (max 1 requested) none ++ records.map some).rtake (max 1 requested) := by
  let room := max 1 requested
  have positive : 0 < room := Nat.lt_of_lt_of_le Nat.one_pos (Nat.le_max_left 1 requested)
  induction records using List.reverseRecOn with
  | nil =>
    rw [List.map_nil, List.append_nil, List.rtake, List.length_replicate, Nat.sub_self]
    exact ofCapacity_turned requested
  | append_singleton records sequence before =>
    have pointed := (ofCapacity_pointed requested).after records
    -- There are never fewer slots, so one makes way for each number, whether it is written or not.
    have full : ((ofCapacity requested).after records).turned.length = room := by
      rw [length_turned, after_capacity, ofCapacity_capacity]
    rw [after_concat, pointed.turned_record, List.map_append, List.map_singleton,
      ← List.append_assoc, ← rtake_concat positive, ← before, full, Nat.add_sub_cancel_left,
      List.drop_one]

/-- After any records the slots, read from the cursor on, are those that have not been written and
then the latest of the records, repeated ones included, as many as there is room for. Just these
numbers are contained, and the cursor has gone round the slots with the records. -/
theorem ring_slides (requested : Nat) (records : List UInt32) :
    let room := max 1 requested
    let ring := (ofCapacity requested).after records
    ring.turned = List.replicate (room - records.length) none ++ (records.rtake room).map some ∧
    (∀ sequence, ring.contains sequence = true ↔ sequence ∈ records.rtake room) ∧
    ring.size = min room records.length ∧ ring.capacity = room ∧
    ring.cursor = records.length % room ∧ ring.cursor < ring.slots.length := by
  intro room ring
  have turned : ring.turned =
      List.replicate (room - records.length) none ++ (records.rtake room).map some := by
    rw [after_turned, rtake_replicate_append, List.length_map, List.rtake, List.length_map,
      ← List.map_drop, ← List.rtake]
  refine ⟨turned, fun sequence => ?_, ?_, ?_, after_cursor requested records,
    (ofCapacity_pointed requested).after records⟩
  · rw [contains_iff, ← mem_turned, turned]
    simp
  · have blank : (List.replicate (room - records.length) none).countP
        (Option.isSome : Option UInt32 → Bool) = 0 := by
      simp [List.countP_replicate]
    have written : ((records.rtake room).map some).countP Option.isSome =
        (records.rtake room).length := by
      rw [List.countP_map]
      exact List.countP_eq_length.mpr fun _ _ => rfl
    rw [← countP_turned, turned, List.countP_append, blank, written, List.rtake, List.length_drop]
    omega
  · rw [after_capacity, ofCapacity_capacity]

/-- A slot that has not been written is not taken for the number 0. -/
example : ((ofCapacity 3).after [7]).contains 0 = false := rfl

end PasteQueue.Queue.EchoRing
