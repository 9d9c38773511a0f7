import PasteQueue.Proofs.Signature.Stored

/-!
Stored signatures that have been cut off. Wherever the cut is, it is noticed, with one exception: four
bytes, which end inside the length of the payload, count as a signature without a payload.
-/

namespace PasteQueue.Signature

theorem decode_short {bytes : List UInt8} (short : bytes.length < headerLength) :
    decode bytes = .error (.insufficient headerLength bytes.length) := by
  match bytes with
  | [] | [_] | [_, _] | [_, _, _] => rfl
  | _ :: _ :: _ :: _ :: _ =>
    simp only [headerLength, List.length_cons] at short
    omega

theorem decode_header (signature : Signature) :
    decode (signature.encode.take headerLength) =
      .ok (ofRaw signature.source [] signature.modifiers) := by
  have header : signature.encode.take headerLength =
      [version, signature.source.toByte, signature.modifiers.bits,
        (UInt16.ofNat signature.raw.length).toUInt8] := rfl
  rw [header, decode, if_pos rfl, decodePayload, Source.ofByte_toByte]
  intro low high raw whole
  cases whole

/-- The length is there, but not all of the payload. -/
theorem decode_cut_payload {signature : Signature} {kept : Nat} (less : kept < signature.raw.length) :
    decode (signature.encode.take (headerLength + 1 + kept)) =
      .error (.lengthMismatch signature.raw.length kept) := by
  let length := UInt16.ofNat signature.raw.length
  have left : signature.encode.take (headerLength + 1 + kept) =
      version :: signature.source.toByte :: signature.modifiers.bits ::
        length.toUInt8 :: (length >>> 8).toUInt8 :: signature.raw.take kept := by
    rw [Nat.add_comm]
    rfl
  have available : (signature.raw.take kept).length = kept := List.length_take_of_le less.le
  rw [left, decode, if_pos rfl, decodePayload, Layout.ofBytes_word, signature.toNat_rawLength]
  simp only [available, if_neg (Nat.not_le_of_gt less)]

theorem length_encode (signature : Signature) :
    signature.encode.length = headerLength + 1 + signature.raw.length := by
  simp only [encode, Layout.word, headerLength, List.length_cons, List.length_append,
    List.length_nil]
  omega

theorem ofRaw_nil_eq_iff (signature : Signature) :
    ofRaw signature.source [] signature.modifiers = signature ↔ signature.raw = [] := by
  constructor
  · intro same
    rw [← same]
    rfl
  · intro none
    have whole := signature.ofRaw_raw
    rwa [none] at whole

/-- Whatever is left of a stored signature that has been cut off is refused, unless it is four bytes.
These count as a signature with the source and the modifiers, and without a payload. -/
theorem truncated_refused (signature : Signature) {bytes : List UInt8}
    (cut : bytes <+: signature.encode) (short : bytes ≠ signature.encode) :
    (bytes.length < headerLength →
      decode bytes = .error (.insufficient headerLength bytes.length)) ∧
    (bytes.length = headerLength →
      decode bytes = .ok (ofRaw signature.source [] signature.modifiers) ∧
      (decode bytes = .ok signature ↔ signature.raw = [])) ∧
    (headerLength < bytes.length →
      decode bytes = .error
        (.lengthMismatch signature.raw.length (bytes.length - (headerLength + 1)))) := by
  have taken : bytes = signature.encode.take bytes.length := List.prefix_iff_eq_take.mp cut
  have less : bytes.length < signature.encode.length :=
    Nat.lt_of_le_of_ne cut.length_le fun whole => short (cut.eq_of_length whole)
  refine ⟨decode_short, fun four => ?_, fun more => ?_⟩
  · have read : decode bytes = .ok (ofRaw signature.source [] signature.modifiers) := by
      rw [taken, four]
      exact signature.decode_header
    refine ⟨read, ?_⟩
    rw [read, Except.ok.injEq]
    exact signature.ofRaw_nil_eq_iff
  · obtain ⟨kept, length⟩ := Nat.exists_eq_add_of_le (Nat.succ_le_of_lt more)
    rw [signature.length_encode, length] at less
    rw [length, Nat.add_sub_cancel_left, taken, length]
    exact decode_cut_payload (Nat.lt_of_add_lt_add_left less)

/-- A wheel turned to the left, of whose three bytes the last is missing. -/
theorem truncated_wheel_refused :
    let signature := Signature.mouseWheel (-120) true .shift
    [1, 2, 4, 3, 0, 0x88, 0xFF] <+: signature.encode ∧
    [1, 2, 4, 3, 0, 0x88, 0xFF] ≠ signature.encode ∧
    decode [1, 2, 4, 3, 0, 0x88, 0xFF] = .error (.lengthMismatch 3 2) := by
  have cut : [1, 2, 4, 3, 0, 0x88, 0xFF] <+: (Signature.mouseWheel (-120) true .shift).encode := by
    decide +kernel
  have short : [1, 2, 4, 3, 0, 0x88, 0xFF] ≠ (Signature.mouseWheel (-120) true .shift).encode := by
    decide +kernel
  exact ⟨cut, short, (truncated_refused _ cut short).2.2 (by decide)⟩

/-- Ctrl+Alt+C, cut off behind the first byte of the length of its two bytes. -/
theorem truncated_taken_for_another :
    ¬ ∀ (signature : Signature) (bytes : List UInt8), bytes <+: signature.encode →
      bytes ≠ signature.encode →
      (∃ fault, decode bytes = .error fault) ∨ decode bytes = .ok signature := by
  intro noticed
  have read : decode [1, 0, 3, 2] = .ok (ofRaw .keyboard [] ⟨3⟩) := by decide +kernel
  rcases noticed (.keyOnly 0x43 ⟨3⟩) [1, 0, 3, 2] (by decide +kernel) (by decide +kernel) with
    ⟨fault, refused⟩ | same
  · cases read.symm.trans refused
  · have other : ofRaw .keyboard [] ⟨3⟩ = keyOnly 0x43 ⟨3⟩ := Except.ok.inj (read.symm.trans same)
    revert other
    decide +kernel

end PasteQueue.Signature
