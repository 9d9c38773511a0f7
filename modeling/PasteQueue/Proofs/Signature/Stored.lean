import PasteQueue.Hotkey
import PasteQueue.Proofs.Base64
import PasteQueue.Proofs.Text

/-!
A signature is read back from each of its stored forms: from bytes, from base64, and from a hotkey.
-/

namespace PasteQueue

namespace Layout

theorem toNat_ofBytes (low high : UInt8) :
    (ofBytes low high).toNat = high.toNat * 256 + low.toNat := by
  have shifted : (high.toUInt16 <<< 8).toNat = high.toNat <<< 8 := by
    have small := high.toNat_lt
    simp only [UInt16.toNat_shiftLeft, UInt8.toNat_toUInt16, UInt16.toNat_ofNat, Nat.reduceMod,
      Nat.reducePow, Nat.shiftLeft_eq]
    omega
  rw [ofBytes, UInt16.toNat_or, shifted, UInt8.toNat_toUInt16, Nat.or_comm,
    ← Nat.shiftLeft_add_eq_or_of_lt low.toNat_lt, Nat.shiftLeft_eq]

/-- A word is read back from its two bytes. -/
theorem ofBytes_word (n : UInt16) : ofBytes n.toUInt8 (n >>> 8).toUInt8 = n := by
  have small := n.toNat_lt
  rw [← UInt16.toNat_inj, toNat_ofBytes]
  simp only [UInt16.toNat_toUInt8, UInt16.toNat_shiftRight, UInt16.toNat_ofNat, Nat.reduceMod,
    Nat.reducePow, Nat.shiftRight_eq_div_pow]
  omega

end Layout

namespace Signature

theorem ofRaw_raw (signature : Signature) :
    ofRaw signature.source signature.raw signature.modifiers = signature := by
  obtain ⟨source, modifiers, raw, bounded⟩ := signature
  rw [ofRaw]
  congr 1
  exact List.take_of_length_le bounded

/-- A word has room for the number of raw bytes. -/
theorem toNat_rawLength (signature : Signature) :
    (UInt16.ofNat signature.raw.length).toNat = signature.raw.length :=
  Nat.mod_eq_of_lt (Nat.lt_succ_of_le signature.raw_length_le)

theorem decode_encode (signature : Signature) : decode signature.encode = .ok signature := by
  rw [encode, Layout.word, List.cons_append, List.cons_append, List.nil_append, decode, if_pos rfl,
    decodePayload, Layout.ofBytes_word, signature.toNat_rawLength]
  simp only [Nat.le_refl, if_true, List.take_length, Source.ofByte_toByte]
  exact congrArg _ signature.ofRaw_raw

theorem symbol_solid :
    ∀ digit : Fin 64, Text.isBlank (Char.ofUInt8 (Base64.symbol digit)) = false := by
  decide +kernel

theorem symbol_plain : ∀ digit : Fin 64, Base64.symbol digit < 128 := by
  decide +kernel

theorem toBase64_solid (signature : Signature) : Text.Solid signature.toBase64 := by
  intro c member
  obtain ⟨byte, written, rfl⟩ := List.mem_map.mp member
  rcases Base64.mem_encode written with rfl | ⟨digit, rfl⟩
  · rfl
  · exact symbol_solid digit

theorem utf8_toBase64 (signature : Signature) :
    Text.utf8 signature.toBase64 = Base64.encode signature.encode := by
  refine Text.utf8_ofUInt8 fun byte member => ?_
  rcases Base64.mem_encode member with rfl | ⟨digit, rfl⟩
  · decide
  · exact symbol_plain digit

/-- Blanks around the text do no harm, and there may be none. -/
theorem ofBase64_surrounded (signature : Signature) (before after : List Char)
    (leading : Text.Blank before) (trailing : Text.Blank after) :
    ofBase64 (before ++ signature.toBase64 ++ after) = .ok signature := by
  rw [ofBase64, Text.trim_padded leading signature.toBase64_solid.trimmed trailing, utf8_toBase64,
    Base64.decode_encode]
  exact signature.decode_encode

theorem ofBase64_toBase64 (signature : Signature) : ofBase64 signature.toBase64 = .ok signature := by
  simpa using signature.ofBase64_surrounded [] [] nofun nofun

end Signature

namespace Hotkey

theorem marker_solid : Text.Solid marker := by decide

theorem format_toList (signature : Signature) :
    (format signature).toList = marker ++ signature.toBase64 := String.toList_ofList

theorem parse_surrounded (signature : Signature) (before after : String)
    (leading : Text.Blank before.toList) (trailing : Text.Blank after.toList) :
    parse (before ++ format signature ++ after) = .ok signature := by
  have solid : Text.Solid (marker ++ signature.toBase64) := fun c member =>
    (List.mem_append.mp member).elim (marker_solid c) (signature.toBase64_solid c)
  have marked : marker.isPrefixOf (marker ++ signature.toBase64) = true :=
    List.isPrefixOf_iff_prefix.mpr (List.prefix_append ..)
  rw [parse, String.toList_append, String.toList_append, format_toList, parseChars,
    Text.trim_padded leading solid.trimmed trailing]
  simp only [marked, List.drop_left, signature.ofBase64_toBase64]
  rfl

theorem parse_format (signature : Signature) : parse (format signature) = .ok signature := by
  simpa using parse_surrounded signature "" "" nofun nofun

theorem format_injective : Function.Injective format := by
  intro first second same
  have read := parse_format first
  rw [same, parse_format second] at read
  exact (Except.ok.inj read).symm

end Hotkey

/-- A signature of any source, modifiers and raw bytes, of which it keeps as many as there is room
for, is read back from its bytes, from its text in base64 and from its hotkey, blanks around the
text or none. With it come its hash and its hint, which are computed from source, modifiers and raw
bytes. No two signatures have the same hotkey. -/
theorem stored_reads_back (source : Source) (raw : List UInt8) (modifiers : Key.Modifiers) :
    let signature := Signature.ofRaw source raw modifiers
    Signature.decode signature.encode = .ok signature ∧
    (∀ text, Base64.Written signature.encode text ↔ text = signature.toBase64) ∧
    Signature.ofBase64 signature.toBase64 = .ok signature ∧
    Hotkey.parse (Hotkey.format signature) = .ok signature ∧
    (∀ before after : String, Text.Blank before.toList → Text.Blank after.toList →
      Signature.ofBase64 (before.toList ++ signature.toBase64 ++ after.toList) = .ok signature ∧
      Hotkey.parse (before ++ Hotkey.format signature ++ after) = .ok signature) ∧
    Function.Injective Hotkey.format := by
  intro signature
  refine ⟨signature.decode_encode, Base64.written_iff _, signature.ofBase64_toBase64,
    Hotkey.parse_format signature, fun before after leading trailing => ?_, Hotkey.format_injective⟩
  exact ⟨signature.ofBase64_surrounded _ _ leading trailing,
    Hotkey.parse_surrounded signature before after leading trailing⟩

/-- A wheel turned to the left, among tabs, line feeds and wide blanks. -/
theorem stored_reads_back_surrounded :
    let signature := Signature.ofRaw .mouseWheel [0x88, 0xFF, 1] .shift
    Hotkey.parse ("\t " ++ Hotkey.format signature ++ "\n\u3000") = .ok signature :=
  ((stored_reads_back .mouseWheel [0x88, 0xFF, 1] .shift).2.2.2.2.1 "\t " "\n\u3000" (by decide)
    (by decide)).2

end PasteQueue
