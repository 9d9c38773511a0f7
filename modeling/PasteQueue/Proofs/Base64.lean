import Mathlib.Algebra.Group.Nat.Defs
import Mathlib.Data.Fin.Basic
import PasteQueue.Base64

/-!
Base64 as RFC 4648 has it: the bits of the bytes, filled up with zeros, are the bits of the digits;
a digit is a character of the alphabet, and pads fill the last group of four. What `encode` writes is
of this form, and `decode` reads it back.
-/

namespace PasteQueue.Base64

/-! ### The form of a text -/

def alphabet : List Char :=
  "ABCDEFGHIJKLMNOPQRSTUVWXYZabcdefghijklmnopqrstuvwxyz0123456789+/".toList

def character (digit : Fin 64) : Char := alphabet.getD digit.val '='

/-- The lowest bits of a number, the highest of them first. -/
def bits : Nat → Nat → List Bool
  | 0, _ => []
  | width + 1, n => bits width (n / 2) ++ [n % 2 == 1]

/-- No more zeros are filled in than the last digit needs, and no more pads than the last group. -/
structure Spelling (bytes : List UInt8) (text : List Char) where
  digits : List (Fin 64)
  zeros : Nat
  pads : Nat
  bits_eq : bytes.flatMap (fun byte => bits 8 byte.toNat) ++ List.replicate zeros false =
    digits.flatMap fun digit => bits 6 digit.val
  zeros_lt : zeros < 6
  text_eq : text = digits.map character ++ List.replicate pads '='
  pads_lt : pads < 4
  groups : 4 ∣ text.length

def Written (bytes : List UInt8) (text : List Char) : Prop := Nonempty (Spelling bytes text)

theorem bits_append (width more high low : Nat) (small : low < 2 ^ more) :
    bits (width + more) (high * 2 ^ more + low) = bits width high ++ bits more low := by
  induction more generalizing low with
  | zero =>
    obtain rfl : low = 0 := by omega
    simp [bits]
  | succ more follows =>
    have half : (high * 2 ^ (more + 1) + low) / 2 = high * 2 ^ more + low / 2 := by
      rw [Nat.pow_succ, ← Nat.mul_assoc]
      omega
    have last : (high * 2 ^ (more + 1) + low) % 2 = low % 2 := by
      rw [Nat.pow_succ, ← Nat.mul_assoc]
      omega
    rw [← Nat.add_assoc, bits, bits, half, last, follows (low / 2) (by omega), List.append_assoc]

/-- Three bytes and four digits are two readings of the same bits. -/
theorem bits_group (a b c : UInt8) :
    bits 8 a.toNat ++ bits 8 b.toNat ++ bits 8 c.toNat =
      bits 6 (a.toNat / 4) ++ bits 6 (a.toNat % 4 * 16 + b.toNat / 16) ++
        bits 6 (b.toNat % 16 * 4 + c.toNat / 64) ++ bits 6 (c.toNat % 64) := by
  have a := a.toNat_lt
  have b := b.toNat_lt
  have c := c.toNat_lt
  rw [← bits_append 8 8 _ _ b, ← bits_append 16 8 _ _ c, ← bits_append 6 6 _ _ (by omega),
    ← bits_append 12 6 _ _ (by omega), ← bits_append 18 6 _ _ (by omega)]
  congr 1
  omega

/-- Where bytes are missing from a group, zeros stand for their bits. -/
theorem bits_one (a : UInt8) :
    bits 8 a.toNat ++ List.replicate 4 false =
      bits 6 (a.toNat / 4) ++ bits 6 (a.toNat % 4 * 16) := by
  have group := bits_group a 0 0
  simp only [UInt8.toNat_zero, Nat.zero_div, Nat.zero_mod, Nat.zero_mul, Nat.add_zero] at group
  have filled : bits 8 a.toNat ++ List.replicate 4 false ++ (bits 6 0 ++ bits 6 0) =
      bits 8 a.toNat ++ bits 8 0 ++ bits 8 0 := by
    simp [bits]
  exact List.append_cancel_right (filled.trans (group.trans (List.append_assoc ..)))

theorem bits_two (a b : UInt8) :
    bits 8 a.toNat ++ bits 8 b.toNat ++ List.replicate 2 false =
      bits 6 (a.toNat / 4) ++ bits 6 (a.toNat % 4 * 16 + b.toNat / 16) ++
        bits 6 (b.toNat % 16 * 4) := by
  have group := bits_group a b 0
  simp only [UInt8.toNat_zero, Nat.zero_div, Nat.zero_mod, Nat.add_zero] at group
  have filled : bits 8 a.toNat ++ bits 8 b.toNat ++ List.replicate 2 false ++ bits 6 0 =
      bits 8 a.toNat ++ bits 8 b.toNat ++ bits 8 0 := by
    simp [bits]
  exact List.append_cancel_right (filled.trans group)

/-! ### One form for each -/

theorem length_bits (width n : Nat) : (bits width n).length = width := by
  induction width generalizing n with
  | zero => rfl
  | succ width follows => rw [bits, List.length_append, follows, List.length_singleton]

theorem length_flatMap_bits {Digit : Type} (width : Nat) (value : Digit → Nat)
    (digits : List Digit) :
    (digits.flatMap fun digit => bits width (value digit)).length = width * digits.length := by
  induction digits with
  | nil => rfl
  | cons digit rest follows =>
    rw [List.flatMap_cons, List.length_append, length_bits, follows, List.length_cons, Nat.mul_succ,
      Nat.add_comm]

theorem bits_digit_injective :
    ∀ first second : Fin 64, bits 6 first.val = bits 6 second.val → first = second := by
  decide +kernel

theorem digits_eq {first second : List (Fin 64)} (sameLength : first.length = second.length)
    (same : (first.flatMap fun digit => bits 6 digit.val) =
      second.flatMap fun digit => bits 6 digit.val) :
    first = second := by
  induction first generalizing second with
  | nil => exact (List.length_eq_zero_iff.mp sameLength.symm).symm
  | cons digit rest follows =>
    obtain ⟨other, others, rfl⟩ := List.exists_cons_of_length_eq_add_one sameLength.symm
    rw [List.flatMap_cons, List.flatMap_cons] at same
    obtain ⟨here, there⟩ := List.append_inj same (by rw [length_bits, length_bits])
    rw [bits_digit_injective _ _ here, follows (Nat.succ.inj sameLength) there]

/-- The numbers of digits, zeros and pads follow from the number of bytes. -/
theorem Written.unique {bytes : List UInt8} {text other : List Char} (written : Written bytes text)
    (again : Written bytes other) : text = other := by
  obtain ⟨digits, zeros, pads, bits_eq, zeros_lt, rfl, pads_lt, groups⟩ := written
  obtain ⟨digits', zeros', pads', bits_eq', zeros_lt', rfl, pads_lt', groups'⟩ := again
  have length := congrArg List.length bits_eq
  have length' := congrArg List.length bits_eq'
  simp only [List.length_append, length_flatMap_bits, List.length_replicate] at length length'
  have sameLength : digits.length = digits'.length := by omega
  have sameZeros : zeros = zeros' := by omega
  have sameDigits : digits = digits' :=
    digits_eq sameLength (by rw [← bits_eq, ← bits_eq', sameZeros])
  simp only [List.length_append, List.length_map, List.length_replicate] at groups groups'
  have samePads : pads = pads' := by omega
  rw [sameDigits, samePads]

/-! ### Symbols -/

theorem symbol_eq_character : ∀ digit : Fin 64, Char.ofUInt8 (symbol digit) = character digit := by
  decide +kernel

theorem ofUInt8_symbol {digit : Nat} (small : digit < 64) :
    Char.ofUInt8 (symbol digit) = character ⟨digit, small⟩ := symbol_eq_character ⟨digit, small⟩

theorem ofUInt8_pad : Char.ofUInt8 pad = '=' := by decide +kernel

theorem bits?_symbol_fin : ∀ digit : Fin 64, bits? (symbol digit) = some digit.val := by
  decide +kernel

theorem symbol_ne_pad_fin : ∀ digit : Fin 64, symbol digit ≠ pad := by
  decide +kernel

theorem bits?_symbol {digit : Nat} (small : digit < 64) : bits? (symbol digit) = some digit :=
  bits?_symbol_fin ⟨digit, small⟩

theorem symbol_ne_pad {digit : Nat} (small : digit < 64) : symbol digit ≠ pad :=
  symbol_ne_pad_fin ⟨digit, small⟩

/-! ### Writing -/

theorem first_small (a : UInt8) : a.toNat / 4 < 64 := by
  have a := a.toNat_lt
  omega

theorem second_small (a b : UInt8) : a.toNat % 4 * 16 + b.toNat / 16 < 64 := by
  have b := b.toNat_lt
  omega

theorem third_small (b c : UInt8) : b.toNat % 16 * 4 + c.toNat / 64 < 64 := by
  have c := c.toNat_lt
  omega

theorem fourth_small (c : UInt8) : c.toNat % 64 < 64 := Nat.mod_lt _ (by decide)

theorem written_encode (bytes : List UInt8) : Written bytes ((encode bytes).map Char.ofUInt8) := by
  fun_induction encode bytes with
  | case1 => exact ⟨⟨[], 0, 0, rfl, by decide, rfl, by decide, by decide⟩⟩
  | case2 a =>
    have last : a.toNat % 4 * 16 < 64 := by omega
    refine ⟨⟨[⟨_, first_small a⟩, ⟨_, last⟩], 4, 2, ?_, by decide, ?_, by decide, ?_⟩⟩
    · simpa using bits_one a
    · simp [ofUInt8_symbol (first_small a), ofUInt8_symbol last, ofUInt8_pad]
    · exact ⟨1, rfl⟩
  | case3 a b =>
    have last : b.toNat % 16 * 4 < 64 := by omega
    refine ⟨⟨[⟨_, first_small a⟩, ⟨_, second_small a b⟩, ⟨_, last⟩], 2, 1, ?_, by decide, ?_,
      by decide, ?_⟩⟩
    · simpa using bits_two a b
    · simp [ofUInt8_symbol (first_small a), ofUInt8_symbol (second_small a b), ofUInt8_symbol last,
        ofUInt8_pad]
    · exact ⟨1, rfl⟩
  | case4 a b c rest written =>
    obtain ⟨digits, zeros, pads, bits_eq, zeros_lt, text_eq, pads_lt, groups⟩ := written
    refine ⟨⟨⟨_, first_small a⟩ :: ⟨_, second_small a b⟩ :: ⟨_, third_small b c⟩ ::
      ⟨_, fourth_small c⟩ :: digits, zeros, pads, ?_, zeros_lt, ?_, pads_lt, ?_⟩⟩
    · simp only [List.flatMap_cons, List.append_assoc]
      rw [bits_eq]
      simp only [← List.append_assoc, bits_group]
    · simp only [List.map_cons, ofUInt8_symbol (first_small a), ofUInt8_symbol (second_small a b),
        ofUInt8_symbol (third_small b c), ofUInt8_symbol (fourth_small c), text_eq]
      rfl
    · simp only [List.length_map, List.map_cons, List.length_cons] at groups ⊢
      omega

/-- What `encode` writes is the one text that the bytes have. -/
theorem written_iff (bytes : List UInt8) (text : List Char) :
    Written bytes text ↔ text = (encode bytes).map Char.ofUInt8 := by
  constructor
  · exact fun written => written.unique (written_encode bytes)
  · rintro rfl
    exact written_encode bytes

theorem mem_encode {bytes : List UInt8} {byte : UInt8} (member : byte ∈ encode bytes) :
    byte = pad ∨ ∃ digit : Fin 64, byte = symbol digit := by
  have fits {digit : Nat} (small : digit < 64) :
      symbol digit = pad ∨ ∃ other : Fin 64, symbol digit = symbol other := .inr ⟨⟨digit, small⟩, rfl⟩
  fun_induction encode bytes with
  | case1 => cases member
  | case2 a =>
    simp only [List.mem_cons, List.not_mem_nil, or_false, or_self] at member
    rcases member with rfl | rfl | rfl
    · exact fits (first_small a)
    · exact fits (by omega)
    · exact .inl rfl
  | case3 a b =>
    simp only [List.mem_cons, List.not_mem_nil, or_false] at member
    rcases member with rfl | rfl | rfl | rfl
    · exact fits (first_small a)
    · exact fits (second_small a b)
    · exact fits (by omega)
    · exact .inl rfl
  | case4 a b c rest follows =>
    simp only [List.mem_cons] at member
    rcases member with rfl | rfl | rfl | rfl | member
    · exact fits (first_small a)
    · exact fits (second_small a b)
    · exact fits (third_small b c)
    · exact fits (fourth_small c)
    · exact follows member

/-! ### Reading -/

theorem length_encode (bytes : List UInt8) : 4 ∣ (encode bytes).length := by
  obtain ⟨spelling⟩ := written_encode bytes
  simpa using spelling.groups

theorem readSymbol_symbol {digit : Nat} (small : digit < 64) (offset : Nat) :
    readSymbol offset (symbol digit) = .ok digit := by
  rw [readSymbol, bits?_symbol small]

theorem byteOf_first (a b : UInt8) :
    byteOf (a.toNat / 4 * 4) ((a.toNat % 4 * 16 + b.toNat / 16) / 16) = a := by
  have small := b.toNat_lt
  have whole : a.toNat / 4 * 4 + (a.toNat % 4 * 16 + b.toNat / 16) / 16 = a.toNat := by omega
  rw [byteOf, whole, UInt8.ofNat_toNat]

theorem byteOf_second (a b c : UInt8) :
    byteOf ((a.toNat % 4 * 16 + b.toNat / 16) % 16 * 16) ((b.toNat % 16 * 4 + c.toNat / 64) / 4) =
      b := by
  have small := b.toNat_lt
  have next := c.toNat_lt
  have whole : (a.toNat % 4 * 16 + b.toNat / 16) % 16 * 16 +
      (b.toNat % 16 * 4 + c.toNat / 64) / 4 = b.toNat := by omega
  rw [byteOf, whole, UInt8.ofNat_toNat]

theorem byteOf_third (b c : UInt8) :
    byteOf ((b.toNat % 16 * 4 + c.toNat / 64) % 4 * 64) (c.toNat % 64) = c := by
  have small := c.toNat_lt
  have whole : (b.toNat % 16 * 4 + c.toNat / 64) % 4 * 64 + c.toNat % 64 = c.toNat := by omega
  rw [byteOf, whole, UInt8.ofNat_toNat]

theorem Group.read_symbol {group : Group} (unpadded : group.firstPad = none) (start position : Nat)
    {digit : Nat} (small : digit < 64) (rest : List UInt8) :
    group.read start position (symbol digit :: rest) =
      Group.read { group with symbols := group.symbols ++ [(symbol digit, digit)] } start
        (position + 1) rest := by
  rw [Group.read, if_neg (symbol_ne_pad small), unpadded, bits?_symbol small]

theorem Group.read_pad (group : Group) (start : Nat) {position : Nat} (late : ¬ position < 2)
    (rest : List UInt8) :
    group.read start position (pad :: rest) =
      Group.read { group with
        firstPad := group.firstPad.or (some position), pads := group.pads + 1 } start
        (position + 1) rest := by
  rw [Group.read, if_pos rfl, if_neg late]

theorem decodeLast_of_group {start : Nat} {text : List UInt8} {group : Group} (full : text ≠ [])
    (read : Group.read {} start 0 text = .ok group) (enough : ¬ group.symbols.length < 2)
    (whole : (group.symbols.length + group.pads) % 4 = 0) :
    decodeLast start text = group.bytes start := by
  rw [decodeLast, if_neg (by simpa using full), read]
  exact (if_neg enough).trans (if_neg (not_not.mpr whole))

section Groups

variable (start : Nat) {w x y z : Nat} (first : w < 64) (second : x < 64)

include first second

theorem decodeLast_two (fits : x % 16 = 0) :
    decodeLast start [symbol w, symbol x, pad, pad] = .ok [byteOf (w * 4) (x / 16)] := by
  have group : Group.read {} start 0 [symbol w, symbol x, pad, pad] =
      .ok ⟨[(symbol w, w), (symbol x, x)], some 2, 2⟩ := by
    rw [Group.read_symbol rfl _ _ first, Group.read_symbol rfl _ _ second,
      Group.read_pad _ _ (by decide), Group.read_pad _ _ (by decide)]
    rfl
  exact (decodeLast_of_group (List.cons_ne_nil _ _) group (by simp) (by simp)).trans (if_pos fits)

theorem decodeLast_three (third : y < 64) (fits : y % 4 = 0) :
    decodeLast start [symbol w, symbol x, symbol y, pad] =
      .ok [byteOf (w * 4) (x / 16), byteOf (x % 16 * 16) (y / 4)] := by
  have group : Group.read {} start 0 [symbol w, symbol x, symbol y, pad] =
      .ok ⟨[(symbol w, w), (symbol x, x), (symbol y, y)], some 3, 1⟩ := by
    rw [Group.read_symbol rfl _ _ first, Group.read_symbol rfl _ _ second,
      Group.read_symbol rfl _ _ third, Group.read_pad _ _ (by decide)]
    rfl
  exact (decodeLast_of_group (List.cons_ne_nil _ _) group (by simp) (by simp)).trans (if_pos fits)

theorem decodeLast_four (third : y < 64) (fourth : z < 64) :
    decodeLast start [symbol w, symbol x, symbol y, symbol z] =
      .ok [byteOf (w * 4) (x / 16), byteOf (x % 16 * 16) (y / 4), byteOf (y % 4 * 64) z] := by
  have group : Group.read {} start 0 [symbol w, symbol x, symbol y, symbol z] =
      .ok ⟨[(symbol w, w), (symbol x, x), (symbol y, y), (symbol z, z)], none, 0⟩ := by
    rw [Group.read_symbol rfl _ _ first, Group.read_symbol rfl _ _ second,
      Group.read_symbol rfl _ _ third, Group.read_symbol rfl _ _ fourth]
    rfl
  exact decodeLast_of_group (List.cons_ne_nil _ _) group (by simp) (by simp)

theorem decodeFrom_four (third : y < 64) (fourth : z < 64) {rest : List UInt8}
    (more : rest ≠ []) {bytes : List UInt8} (follows : decodeFrom (start + 4) rest = .ok bytes) :
    decodeFrom start (symbol w :: symbol x :: symbol y :: symbol z :: rest) =
      .ok (byteOf (w * 4) (x / 16) :: byteOf (x % 16 * 16) (y / 4) :: byteOf (y % 4 * 64) z ::
        bytes) := by
  obtain ⟨next, rest, rfl⟩ := List.exists_cons_of_ne_nil more
  rw [decodeFrom, readSymbol_symbol first, readSymbol_symbol second, readSymbol_symbol third,
    readSymbol_symbol fourth, follows]
  rfl

end Groups

theorem encode_ne_nil {bytes : List UInt8} (some : bytes ≠ []) : encode bytes ≠ [] := by
  fun_cases encode bytes <;> simp_all

theorem decodeFrom_encode (bytes : List UInt8) (start : Nat) :
    decodeFrom start (encode bytes) = .ok bytes := by
  fun_induction encode bytes generalizing start with
  | case1 => rfl
  | case2 a =>
    have last : a.toNat % 4 * 16 < 64 := by omega
    have whole : byteOf (a.toNat / 4 * 4) (a.toNat % 4 * 16 / 16) = a := byteOf_first a 0
    refine (decodeLast_two start (first_small a) last (by omega)).trans ?_
    rw [whole]
  | case3 a b =>
    have last : b.toNat % 16 * 4 < 64 := by omega
    have whole : byteOf ((a.toNat % 4 * 16 + b.toNat / 16) % 16 * 16) (b.toNat % 16 * 4 / 4) = b :=
      byteOf_second a b 0
    refine (decodeLast_three start (first_small a) (second_small a b) last (by omega)).trans ?_
    rw [byteOf_first, whole]
  | case4 a b c rest follows =>
    by_cases none : rest = []
    · subst none
      refine (decodeLast_four start (first_small a) (second_small a b) (third_small b c)
        (fourth_small c)).trans ?_
      rw [byteOf_first, byteOf_second, byteOf_third]
    · rw [decodeFrom_four start (first_small a) (second_small a b) (third_small b c) (fourth_small c)
        (encode_ne_nil none) (follows _), byteOf_first, byteOf_second, byteOf_third]

theorem decode_encode (bytes : List UInt8) : decode (encode bytes) = .ok bytes := by
  have whole : (encode bytes).length % 4 ≠ 1 := by
    have groups := length_encode bytes
    omega
  unfold decode
  split
  · rw [if_neg fun odd => whole odd.1]
    exact decodeFrom_encode bytes 0
  · rename_i empty
    exact (congrArg (decodeFrom 0) (List.getLast?_eq_none_iff.mp empty)).symm.trans
      (decodeFrom_encode bytes 0)

end PasteQueue.Base64
