import Mathlib.Data.List.TakeWhile
import PasteQueue.Text.Blank
import PasteQueue.Text.Digits
import PasteQueue.Text.Utf

/-!
Texts with blanks around them, texts whose characters are single bytes, and numbers in front of a text.
-/

namespace PasteQueue.Text

def Blank (text : List Char) : Prop := ∀ c ∈ text, isBlank c = true

def Solid (text : List Char) : Prop := ∀ c ∈ text, isBlank c = false

instance (text : List Char) : Decidable (Blank text) := List.decidableBAll _ text

instance (text : List Char) : Decidable (Solid text) := List.decidableBAll _ text

/-- There may be blanks inside, but none at an end. -/
structure Trimmed (text : List Char) : Prop where
  first : ∀ c ∈ text.head?, isBlank c = false
  last : ∀ c ∈ text.getLast?, isBlank c = false

theorem Solid.trimmed {text : List Char} (solid : Solid text) : Trimmed text where
  first c member := solid c (List.mem_of_mem_head? member)
  last c member := solid c (List.mem_of_mem_getLast? member)

theorem Trimmed.reverse {text : List Char} (trimmed : Trimmed text) : Trimmed text.reverse where
  first c member := trimmed.last c (by simpa using member)
  last c member := trimmed.first c (by simpa using member)

theorem dropWhile_blank {before core : List Char} (blank : Blank before) (trimmed : Trimmed core)
    (full : core ≠ []) (rest : List Char) :
    (before ++ (core ++ rest)).dropWhile isBlank = core ++ rest := by
  obtain ⟨first, others, rfl⟩ := List.exists_cons_of_ne_nil full
  have solid : isBlank first = false := trimmed.first first rfl
  rw [List.dropWhile_append_of_pos blank, List.cons_append,
    List.dropWhile_cons_of_neg (by simp [solid])]

theorem Blank.reverse {text : List Char} (blank : Blank text) : Blank text.reverse :=
  fun c member => blank c (List.mem_reverse.mp member)

theorem trim_blank {text : List Char} (blank : Blank text) : trim text = [] := by
  rw [trim, trimStart, List.dropWhile_eq_nil_iff.mpr blank]
  rfl

theorem trim_padded {before core after : List Char} (leading : Blank before) (trimmed : Trimmed core)
    (trailing : Blank after) : trim (before ++ core ++ after) = core := by
  by_cases empty : core = []
  · subst empty
    refine trim_blank fun c member => ?_
    rw [List.append_nil, List.mem_append] at member
    exact member.elim (leading c) (trailing c)
  · have reversed : (core ++ after).reverse = after.reverse ++ (core.reverse ++ []) := by simp
    rw [trim, trimStart, trimEnd, List.append_assoc, dropWhile_blank leading trimmed empty, reversed,
      dropWhile_blank trailing.reverse trimmed.reverse (by simpa using empty)]
    simp

theorem Trimmed.trim {text : List Char} (trimmed : Trimmed text) : Text.trim text = text := by
  have none : Blank [] := nofun
  simpa using trim_padded none trimmed none

theorem dropWhile_split (text : List Char) :
    ∃ before, Blank before ∧ text = before ++ text.dropWhile isBlank ∧
      ∀ c ∈ (text.dropWhile isBlank).head?, isBlank c = false := by
  refine ⟨text.takeWhile isBlank, fun c member => List.mem_takeWhile_imp member,
    List.takeWhile_append_dropWhile.symm, fun c member => ?_⟩
  have first := List.head?_dropWhile_not isBlank text
  rwa [Option.mem_def.mp member] at first

/-- Every text is its trimmed form with blanks around it. -/
theorem trim_split (text : List Char) :
    ∃ before after, Blank before ∧ Trimmed (trim text) ∧ Blank after ∧
      text = before ++ trim text ++ after := by
  obtain ⟨before, leading, split, first⟩ := dropWhile_split text
  obtain ⟨after, trailing, parted, last⟩ := dropWhile_split (text.dropWhile isBlank).reverse
  have whole : text.dropWhile isBlank = trim text ++ after.reverse := by
    rw [← List.reverse_inj, parted]
    simp [trim, trimEnd, trimStart]
  refine ⟨before, after.reverse, leading, ⟨fun c member => first c ?_, fun c member => last c ?_⟩,
    trailing.reverse, ?_⟩
  · rw [whole, List.head?_append, Option.mem_def.mp member]
    rfl
  · simpa [trim, trimEnd, trimStart] using member
  · rw [List.append_assoc, ← whole]
    exact split

theorem utf8EncodeChar_ofUInt8 {byte : UInt8} (plain : byte < 128) :
    String.utf8EncodeChar (Char.ofUInt8 byte) = [byte] := by
  have small : byte.toNat ≤ 127 := Nat.le_of_lt_succ (UInt8.lt_iff_toNat_lt.mp plain)
  have code : (Char.ofUInt8 byte).val.toNat = byte.toNat := rfl
  rw [String.utf8EncodeChar, code, if_pos small, UInt8.ofNat_toNat]

theorem utf8_ofUInt8 {bytes : List UInt8} (plain : ∀ byte ∈ bytes, byte < 128) :
    utf8 (bytes.map Char.ofUInt8) = bytes := by
  induction bytes with
  | nil => rfl
  | cons byte rest follows =>
    rw [List.map_cons, utf8, List.flatMap_cons,
      utf8EncodeChar_ofUInt8 (plain byte List.mem_cons_self)]
    exact congrArg (byte :: ·)
      (follows fun other member => plain other (List.mem_cons_of_mem _ member))

/-- The number that a text begins with. -/
def leadingNumber (text : List Char) : Nat := Nat.ofDigitChars 10 (text.takeWhile Char.isDigit) 0

/-- A number ends where a character follows that is no digit. -/
theorem leadingNumber_decimal (n : Nat) {c : Char} (apart : c.isDigit = false) (rest : List Char) :
    leadingNumber ((decimal n).toList ++ c :: rest) = n := by
  have digits : ∀ digit ∈ (decimal n).toList, digit.isDigit = true := by
    intro digit member
    rw [decimal, String.toList_ofList] at member
    exact Nat.isDigit_of_mem_toDigits (by decide) (by decide) member
  rw [leadingNumber, List.takeWhile_append_of_pos digits,
    List.takeWhile_cons_of_neg (by simp [apart]), List.append_nil, decimal, String.toList_ofList]
  exact Nat.ofDigitChars_ten_toDigits

end PasteQueue.Text
