import PasteQueue.Proofs.Registry

/-!
What the hash tells apart. A byte is mixed in by operations that can be undone, so neither the bytes
before nor the bytes after can make up for one byte that is different: signatures that differ in one
byte have different hashes, and are never in one bucket of a registry.
-/

namespace PasteQueue.Signature

/-! ### Mixing -/

/-- The factor is odd, so it can be undone. -/
theorem mul_factor_injective : Function.Injective fun word : UInt64 => word * 0x100000001b3 := by
  intro first second same
  have unit : (0x100000001b3 : UInt64) * 0xce965057aff6957b = 1 := by decide
  have undone := congrArg (· * (0xce965057aff6957b : UInt64)) same
  simpa only [UInt64.mul_assoc, unit, UInt64.mul_one] using undone

theorem mix_left_injective (byte : UInt8) : Function.Injective (mix · byte) :=
  fun _ _ same => (UInt64.xor_left_inj byte.toUInt64).mp (mul_factor_injective same)

theorem mix_right_injective (state : UInt64) : Function.Injective (mix state) :=
  fun _ _ same => UInt8.toUInt64_inj.mp ((UInt64.xor_right_inj state).mp (mul_factor_injective same))

/-- A difference is never lost in the bytes that follow. -/
theorem foldl_mix_injective (bytes : List UInt8) :
    Function.Injective fun state => bytes.foldl mix state := by
  induction bytes with
  | nil => exact Function.injective_id
  | cons byte rest follows => exact follows.comp (mix_left_injective byte)

theorem foldl_mix_ne {first second : UInt8} (different : first ≠ second) (state : UInt64)
    (before after : List UInt8) :
    (before ++ first :: after).foldl mix state ≠ (before ++ second :: after).foldl mix state := by
  rw [List.foldl_append, List.foldl_append, List.foldl_cons, List.foldl_cons]
  exact fun same => different (mix_right_injective _ (foldl_mix_injective after same))

/-! ### One different byte -/

/-- Strings of the same length, with different bytes in exactly one place. -/
structure DifferOnce (first second : List UInt8) : Prop where
  length : first.length = second.length
  once : ∃! position : Nat, first[position]? ≠ second[position]?

theorem DifferOnce.split {first second : List UInt8} (once : DifferOnce first second) :
    ∃ before one other after, one ≠ other ∧
      first = before ++ one :: after ∧ second = before ++ other :: after := by
  obtain ⟨length, position, different, only⟩ := once
  have inside : position < first.length := by
    by_contra outside
    refine different ?_
    rw [List.getElem?_eq_none (by omega), List.getElem?_eq_none (by omega)]
  have present : position < second.length := length ▸ inside
  -- the second string is the first with another byte in the one place
  have replaced : second = first.set position second[position] := by
    refine List.ext_getElem? fun other => ?_
    by_cases same : position = other
    · subst same
      rw [List.getElem?_set_self inside, List.getElem?_eq_getElem present]
    · rw [List.getElem?_set_ne same]
      by_contra differs
      exact same (only other (Ne.symm differs)).symm
  refine ⟨first.take position, first[position], second[position], first.drop (position + 1),
    fun same => different ?_, ?_, ?_⟩
  · rw [List.getElem?_eq_getElem inside, List.getElem?_eq_getElem present, same]
  · rw [← List.drop_eq_getElem_cons inside, List.take_append_drop]
  · rw [List.set_eq_take_append_cons_drop, if_pos inside] at replaced
    exact replaced

theorem differOnce_append {one other : UInt8} (different : one ≠ other)
    (before after : List UInt8) : DifferOnce (before ++ one :: after) (before ++ other :: after) where
  length := by simp
  once := by
    refine ⟨before.length, by simpa using different, fun position differs => ?_⟩
    by_contra apart
    refine differs ?_
    rcases Nat.lt_or_gt_of_ne apart with earlier | later
    · rw [List.getElem?_append_left earlier, List.getElem?_append_left earlier]
    · obtain ⟨further, rfl⟩ := Nat.exists_eq_add_of_lt later
      rw [List.getElem?_append_right (by omega), List.getElem?_append_right (by omega),
        Nat.add_assoc, Nat.add_sub_cancel_left, List.getElem?_cons_succ, List.getElem?_cons_succ]

theorem DifferOnce.hash_ne {first second : Signature}
    (once : DifferOnce first.hashed second.hashed) : first.hash ≠ second.hash := by
  obtain ⟨before, one, other, after, different, head, tail⟩ := once.split
  rw [hash, hash, head, tail]
  exact foldl_mix_ne different _ before after

/-- One raw event with different modifiers. -/
theorem differOnce_modifiers {held other : Key.Modifiers} (different : held ≠ other)
    (source : Source) (raw : List UInt8) :
    DifferOnce (ofRaw source raw held).hashed (ofRaw source raw other).hashed := by
  have bits : held.bits ≠ other.bits := fun same => different (congrArg Key.Modifiers.mk same)
  exact differOnce_append bits [source.toByte] _

/-- Signatures whose bytes differ in exactly one place have different hashes, and so has one raw
event with different modifiers; and no bucket of a registry ever has two such signatures. -/
theorem hash_tells_apart :
    (∀ {first second : Signature}, DifferOnce first.hashed second.hashed →
      first.hash ≠ second.hash) ∧
    (∀ {held other : Key.Modifiers}, held ≠ other → ∀ source raw,
      (ofRaw source raw held).hash ≠ (ofRaw source raw other).hash) ∧
    ∀ {α : Type} {edits : List (Registry.Edit α)} {registry : Registry α},
      Registry.Reached hash edits registry → ∀ bucket ∈ registry.buckets,
        ∀ first ∈ bucket.2, ∀ second ∈ bucket.2,
          ¬ DifferOnce first.signature.hashed second.signature.hashed := by
  refine ⟨DifferOnce.hash_ne, fun different source raw =>
    (differOnce_modifiers different source raw).hash_ne, ?_⟩
  intro α edits registry reached bucket member first inside second beside once
  have one := reached.keyed bucket member first inside
  have other := reached.keyed bucket member second beside
  exact once.hash_ne (one.trans other.symm)

/-- Ctrl+C and Ctrl+D, one registered after the other. -/
def neighbours : List (Registry.Edit Nat) :=
  [.insert ⟨keyOnly 0x43 .ctrl, "copy", 1⟩, .insert ⟨keyOnly 0x44 .ctrl, "duplicate", 2⟩]

theorem hash_tells_apart_neighbours :
    let registry := neighbours.foldl Registry.edit { hash := hash }
    DifferOnce (keyOnly 0x43 .ctrl).hashed (keyOnly 0x44 .ctrl).hashed ∧
    (keyOnly 0x43 .ctrl).hash ≠ (keyOnly 0x44 .ctrl).hash ∧
    (keyOnly 0x43 .ctrl).hash ≠ (keyOnly 0x43 .alt).hash ∧
    ∀ bucket ∈ registry.buckets, ∀ first ∈ bucket.2, ∀ second ∈ bucket.2,
      ¬ DifferOnce first.signature.hashed second.signature.hashed := by
  intro registry
  have once : DifferOnce (keyOnly 0x43 .ctrl).hashed (keyOnly 0x44 .ctrl).hashed :=
    differOnce_append (by decide) [Source.keyboard.toByte, Key.Modifiers.ctrl.bits] [0]
  obtain ⟨apart, modified, placed⟩ := hash_tells_apart
  exact ⟨once, apart once, modified (by decide) .keyboard (Layout.keyOnly 0x43),
    placed (Registry.reached_run hash neighbours)⟩

end PasteQueue.Signature
