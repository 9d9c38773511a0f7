import PasteQueue.Queue.EchoRing

/-!
What a ring contains after a record: the number that has been recorded last, and else only numbers
that it contained before.
-/

namespace PasteQueue.Queue.EchoRing

/-- The cursor points to one of the slots. -/
def Pointed (ring : EchoRing) : Prop := ring.cursor < ring.slots.length

theorem ofCapacity_pointed (requested : Nat) : (ofCapacity requested).Pointed := by
  rw [Pointed, ofCapacity, List.length_replicate]
  exact Nat.lt_of_lt_of_le Nat.one_pos (Nat.le_max_left 1 requested)

theorem contains_iff (ring : EchoRing) (sequence : UInt32) :
    ring.contains sequence = true ↔ some sequence ∈ ring.slots := by
  simp [contains]

theorem not_mem_ofCapacity (requested : Nat) (sequence : UInt32) :
    some sequence ∉ (ofCapacity requested).slots := by
  intro member
  cases List.eq_of_mem_replicate member

variable {ring : EchoRing} (sequence : UInt32)

theorem record_capacity : (ring.record sequence).capacity = ring.capacity :=
  List.length_set

theorem Pointed.record (pointed : ring.Pointed) : (ring.record sequence).Pointed := by
  have room : 0 < ring.slots.length := Nat.zero_lt_of_lt pointed
  rw [Pointed, EchoRing.record, List.length_set]
  exact Nat.mod_lt _ room

theorem Pointed.mem_record (pointed : ring.Pointed) :
    some sequence ∈ (ring.record sequence).slots :=
  List.mem_set pointed (some sequence)

theorem mem_of_mem_record {number : UInt32}
    (member : some number ∈ (ring.record sequence).slots) :
    number = sequence ∨ some number ∈ ring.slots := by
  rcases List.mem_or_eq_of_mem_set member with old | new
  · exact .inr old
  · exact .inl (Option.some.inj new)

end PasteQueue.Queue.EchoRing
