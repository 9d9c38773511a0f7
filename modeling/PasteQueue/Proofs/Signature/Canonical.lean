import PasteQueue.Proofs.Signature.Truncation

/-!
Which byte strings are stored signatures, and the one way in which each of them is written. A source
that nobody knows, a length that is missing and bytes behind the payload are read, but never written.
-/

namespace PasteQueue

namespace Source

/-- The number of a source as it is written: no source has one above that of the unknown. -/
def known (byte : UInt8) : UInt8 := if byte ≤ 4 then byte else 4

theorem toByte_ofByte_fin :
    ∀ byte : Fin 256, (ofByte (.ofNat byte)).toByte = known (.ofNat byte) := by
  decide +kernel

theorem toByte_ofByte (byte : UInt8) : (ofByte byte).toByte = known byte := by
  simpa using toByte_ofByte_fin ⟨byte.toNat, byte.toNat_lt⟩

end Source

namespace Signature

/-- The number of raw bytes that stand behind the header, as bytes tell it. Four bytes tell none. -/
def declared : List UInt8 → Nat
  | _ :: _ :: _ :: low :: high :: _ => low.toNat + 256 * high.toNat
  | _ => 0

structure Framed (bytes : List UInt8) : Prop where
  headed : 4 ≤ bytes.length
  versioned : bytes.head? = some 1
  whole : bytes.length = 4 ∨ 5 + declared bytes ≤ bytes.length

/-- What stands for the same signature as the bytes, with nothing left out and nothing behind it. -/
def canonical (bytes : List UInt8) : List UInt8 :=
  [1, Source.known (bytes.getD 1 0), bytes.getD 2 0,
    .ofNat (declared bytes), .ofNat (declared bytes / 256)] ++
    (bytes.drop 5).take (declared bytes)

/-- How bytes are read: without a length, or with as many raw bytes as the length tells. -/
inductive Reading : List UInt8 → Signature → Prop
  | bare (source modifiers last : UInt8) :
      Reading [version, source, modifiers, last] (ofRaw (.ofByte source) [] ⟨modifiers⟩)
  | full (source modifiers low high : UInt8) (raw rest : List UInt8)
      (length : raw.length = low.toNat + 256 * high.toNat) :
      Reading (version :: source :: modifiers :: low :: high :: (raw ++ rest))
        (ofRaw (.ofByte source) raw ⟨modifiers⟩)

theorem decodePayload_cons (source modifiers low high : UInt8) (raw : List UInt8) :
    decodePayload source modifiers (low :: high :: raw) =
      if low.toNat + 256 * high.toNat ≤ raw.length then
        .ok (ofRaw (.ofByte source) (raw.take (low.toNat + 256 * high.toNat)) ⟨modifiers⟩)
      else .error (.lengthMismatch (low.toNat + 256 * high.toNat) raw.length) := by
  have length : (Layout.ofBytes low high).toNat = low.toNat + 256 * high.toNat := by
    rw [Layout.toNat_ofBytes]
    omega
  rw [decodePayload, length]

theorem decode_eq_ok_iff {bytes : List UInt8} {signature : Signature} :
    decode bytes = .ok signature ↔ Reading bytes signature := by
  constructor
  · intro read
    unfold decode at read
    split at read
    · rename_i first source modifiers last rest
      split at read
      · rename_i current
        subst current
        cases rest with
        | nil =>
          cases read
          exact .bare ..
        | cons high raw =>
          rw [decodePayload_cons] at read
          split at read
          · rename_i enough
            cases read
            have length := List.length_take_of_le enough
            have reading := Reading.full source modifiers last high _
              (raw.drop (last.toNat + 256 * high.toNat)) length
            rwa [List.take_append_drop] at reading
          · cases read
      · cases read
    · cases read
  · intro reading
    cases reading with
    | bare source modifiers last => rfl
    | full source modifiers low high raw rest length =>
      rw [decode, if_pos rfl, decodePayload_cons, if_pos (by simp [length]), ← length,
        List.take_left]

/-! ### Writing again -/

theorem word_ofNat (n : Nat) : Layout.word (UInt16.ofNat n) = [.ofNat n, .ofNat (n / 256)] := by
  have lower : (UInt16.ofNat n).toUInt8 = .ofNat n := by
    rw [← UInt8.toNat_inj]
    simp only [UInt16.toNat_toUInt8, UInt16.toNat_ofNat', UInt8.toNat_ofNat']
    omega
  have upper : (UInt16.ofNat n >>> 8).toUInt8 = .ofNat (n / 256) := by
    rw [← UInt8.toNat_inj]
    simp only [UInt16.toNat_toUInt8, UInt16.toNat_shiftRight, UInt16.toNat_ofNat',
      UInt8.toNat_ofNat', UInt16.toNat_ofNat, Nat.reduceMod, Nat.reducePow,
      Nat.shiftRight_eq_div_pow]
    omega
  rw [Layout.word, lower, upper]

theorem encode_ofRaw (source modifiers : UInt8) {raw : List UInt8} (fits : raw.length ≤ rawLimit) :
    (ofRaw (.ofByte source) raw ⟨modifiers⟩).encode =
      [1, Source.known source, modifiers, .ofNat raw.length, .ofNat (raw.length / 256)] ++ raw := by
  have fields : (ofRaw (.ofByte source) raw ⟨modifiers⟩).encode =
      version :: (Source.ofByte source).toByte :: modifiers ::
        (Layout.word (UInt16.ofNat (raw.take rawLimit).length) ++ raw.take rawLimit) := rfl
  rw [fields, List.take_of_length_le fits, word_ofNat, Source.toByte_ofByte]
  rfl

theorem Reading.encode {bytes : List UInt8} {signature : Signature}
    (reading : Reading bytes signature) : signature.encode = canonical bytes := by
  cases reading with
  | bare source modifiers last => exact encode_ofRaw source modifiers (Nat.zero_le _)
  | full source modifiers low high raw rest length =>
    have fits : raw.length ≤ rawLimit := by
      have low_small := low.toNat_lt
      have high_small := high.toNat_lt
      rw [rawLimit]
      omega
    rw [encode_ofRaw source modifiers fits]
    simp [canonical, declared, ← length]

theorem Reading.framed {bytes : List UInt8} {signature : Signature}
    (reading : Reading bytes signature) : Framed bytes := by
  cases reading with
  | bare source modifiers last => exact ⟨by simp, rfl, .inl rfl⟩
  | full source modifiers low high raw rest length =>
    refine ⟨by simp, rfl, .inr ?_⟩
    simp only [declared, List.length_cons, List.length_append]
    omega

theorem Framed.reading {bytes : List UInt8} (framed : Framed bytes) :
    ∃ signature, Reading bytes signature := by
  obtain ⟨headed, versioned, whole⟩ := framed
  match bytes with
  | [first, source, modifiers, last] =>
    cases Option.some.inj versioned
    exact ⟨_, .bare source modifiers last⟩
  | first :: source :: modifiers :: low :: high :: raw =>
    cases Option.some.inj versioned
    have enough : low.toNat + 256 * high.toNat ≤ raw.length := by
      simp only [declared, List.length_cons] at whole
      omega
    have length := List.length_take_of_le enough
    have reading := Reading.full source modifiers low high _
      (raw.drop (low.toNat + 256 * high.toNat)) length
    rw [List.take_append_drop] at reading
    exact ⟨_, reading⟩

theorem canonical_eq_take {bytes : List UInt8} (headed : 5 ≤ bytes.length)
    (versioned : bytes.head? = some 1) (known : bytes.getD 1 0 ≤ 4) :
    canonical bytes = bytes.take (5 + declared bytes) := by
  match bytes with
  | first :: source :: modifiers :: low :: high :: raw =>
    cases Option.some.inj versioned
    have lower : UInt8.ofNat (low.toNat + 256 * high.toNat) = low := by simp
    have upper : (low.toNat + 256 * high.toNat) / 256 = high.toNat := by
      have small := low.toNat_lt
      omega
    have same : Source.known source = source := if_pos known
    rw [Nat.add_comm]
    simp [canonical, declared, lower, upper, same]

/-! ### Refusing -/

theorem decode_version {bytes : List UInt8} {first : UInt8} (headed : 4 ≤ bytes.length)
    (versioned : bytes.head? = some first) (other : first ≠ 1) :
    decode bytes = .error (.version first) := by
  match bytes with
  | _ :: _ :: _ :: _ :: _ =>
    cases Option.some.inj versioned
    exact if_neg other

theorem decode_overlong {bytes : List UInt8} (headed : 5 ≤ bytes.length)
    (versioned : bytes.head? = some 1) (overlong : bytes.length < 5 + declared bytes) :
    decode bytes = .error (.lengthMismatch (declared bytes) (bytes.length - 5)) := by
  match bytes with
  | first :: source :: modifiers :: low :: high :: raw =>
    cases Option.some.inj versioned
    have less : ¬ low.toNat + 256 * high.toNat ≤ raw.length := by
      simp only [declared, List.length_cons] at overlong
      omega
    rw [decode, if_pos (show 1 = version from rfl), decodePayload_cons, if_neg less]
    rfl

/-- Bytes are read exactly if there are four of them or more, the first is the version, and either
there are no more or all raw bytes are there that the length tells; otherwise the first of these
conditions that fails is the error. What has been read is written in its canonical form, from which
the same is read. The canonical form is the front part of the bytes themselves, wherever a length is
there and the source is known. -/
theorem decode_canonical (bytes : List UInt8) :
    ((∃ signature, decode bytes = .ok signature) ↔ Framed bytes) ∧
    (bytes.length < 4 → decode bytes = .error (.insufficient 4 bytes.length)) ∧
    (∀ first, 4 ≤ bytes.length → bytes.head? = some first → first ≠ 1 →
      decode bytes = .error (.version first)) ∧
    (5 ≤ bytes.length → bytes.head? = some 1 → bytes.length < 5 + declared bytes →
      decode bytes = .error (.lengthMismatch (declared bytes) (bytes.length - 5))) ∧
    (∀ signature, decode bytes = .ok signature →
      signature.encode = canonical bytes ∧ decode (canonical bytes) = .ok signature ∧
      (5 ≤ bytes.length → bytes.getD 1 0 ≤ 4 →
        canonical bytes = bytes.take (5 + declared bytes))) := by
  refine ⟨⟨?_, ?_⟩, decode_short, fun first => decode_version, decode_overlong,
    fun signature read => ?_⟩
  · rintro ⟨signature, read⟩
    exact (decode_eq_ok_iff.mp read).framed
  · intro framed
    obtain ⟨signature, reading⟩ := framed.reading
    exact ⟨signature, decode_eq_ok_iff.mpr reading⟩
  · have reading := decode_eq_ok_iff.mp read
    have written := reading.encode
    refine ⟨written, ?_, fun headed => canonical_eq_take headed reading.framed.versioned⟩
    rw [← written]
    exact signature.decode_encode

/-- A source that nobody knows, two raw bytes, and one more behind them. -/
theorem decode_canonical_beyond :
    let bytes : List UInt8 := [1, 9, 4, 2, 0, 0x43, 0x00, 0xFF]
    Framed bytes ∧ canonical bytes = [1, 4, 4, 2, 0, 0x43, 0x00] ∧
    ∃ signature, decode bytes = .ok signature ∧ signature.encode = canonical bytes ∧
      decode [1, 4, 4, 2, 0, 0x43, 0x00] = .ok signature := by
  intro bytes
  have framed : Framed bytes := ⟨by decide, rfl, .inr (by decide)⟩
  have form : canonical bytes = [1, 4, 4, 2, 0, 0x43, 0x00] := by decide +kernel
  obtain ⟨accepted, -, -, -, rewritten⟩ := decode_canonical bytes
  obtain ⟨signature, read⟩ := accepted.mpr framed
  obtain ⟨written, again, -⟩ := rewritten signature read
  rw [form] at again
  exact ⟨framed, form, signature, read, written, again⟩

end Signature

end PasteQueue
