import PasteQueue.Proofs.Config.Migration
import PasteQueue.Proofs.Config.Validation

/-!
Blank hotkeys beside missing ones. Where a hotkey is looked for, a blank text counts as none; but only an
empty one is derived from the text for people, and only an empty signature makes way for a macro's hotkey.
So what an accepted configuration binds is the same when its blank texts are emptied, but whether it is
accepted may change. The theorem says exactly when.
-/

namespace PasteQueue

def Hotkey.Readable (text : String) : Prop := ∃ signature, parse text = .ok signature

instance : DecidablePred Hotkey.Readable := fun text =>
  match read : Hotkey.parse text with
  | .ok signature => .isTrue ⟨signature, read⟩
  | .error _ => .isFalse fun ⟨_, other⟩ => nomatch read.symm.trans other

theorem Hotkey.not_readable_of_blank {text : String} (blank : Config.isBlankText text = true) :
    ¬ Readable text := by
  rintro ⟨signature, read⟩
  rw [parse_blank blank] at read
  cases read

namespace Config

open Hotkey (Readable)

variable {config before after : Config}

/-! ### Accepted configurations -/

/-- All missing signatures are derived, and then the macros pass the check. -/
def Accepted (config : Config) : Prop :=
  config.ensureSignatures.1 = none ∧ config.ensureSignatures.2.validate = none

/-- A missing hotkey has no text for people, or one that can be read. -/
def Derivable (stored shown : String) : Prop := stored = "" → shown ≠ "" → Readable shown

theorem derivable_iff {stored shown : String} :
    Derivable stored shown ↔ ∃ filled, Filled stored shown filled := by
  constructor
  · intro derivable
    by_cases needed : stored = "" ∧ shown ≠ ""
    · obtain ⟨signature, source⟩ := derivable needed.1 needed.2
      exact ⟨_, .derived needed.1 source (Hotkey.parse_format signature)⟩
    · exact ⟨stored, .kept (by tauto)⟩
  · rintro ⟨_, ⟨settled⟩ | ⟨-, source, -⟩⟩ missing full
    · exact absurd settled (by tauto)
    · exact ⟨_, source⟩

section Effective

variable {entry : TextMacro}

theorem effectiveHotkey_of_missing (missing : entry.signature = "") :
    entry.effectiveHotkey = entry.hotkey := if_pos (String.isEmpty_iff.mpr missing)

theorem effectiveHotkey_of_present (present : entry.signature ≠ "") :
    entry.effectiveHotkey = entry.signature := if_neg (mt String.isEmpty_iff.mp present)

end Effective

theorem derivable_of_readable {entry : TextMacro} (readable : Readable entry.effectiveHotkey) :
    Derivable entry.signature entry.hotkey := by
  intro missing _
  rwa [effectiveHotkey_of_missing missing] at readable

theorem exists_migrated {macros : List TextMacro}
    (derivable : ∀ entry ∈ macros, Derivable entry.signature entry.hotkey) :
    ∃ filled, List.Forall₂ TextMacro.Migrated macros filled := by
  induction macros with
  | nil => exact ⟨[], .nil⟩
  | cons entry rest follows =>
    obtain ⟨first, others⟩ := List.forall_mem_cons.mp derivable
    obtain ⟨signature, filled⟩ := derivable_iff.mp first
    obtain ⟨later, migrated⟩ := follows others
    exact ⟨_, .cons (.intro filled) migrated⟩

theorem ReadAlike.readable_iff (alike : ReadAlike config after) :
    (∀ entry ∈ after.macros, Readable entry.effectiveHotkey) ↔
      ∀ entry ∈ config.macros, Readable entry.effectiveHotkey := by
  have faces (macros : List TextMacro) : (∀ entry ∈ macros, Readable entry.effectiveHotkey) ↔
      ∀ face ∈ macros.map TextMacro.face, ∃ signature, face.2.2.2 = .ok signature := by
    rw [List.forall_mem_map]
    rfl
  rw [faces, faces, alike.macros]

/-- Acceptance, place by place. -/
theorem accepted_iff :
    config.Accepted ↔
      Derivable config.hotkeys.toggleQueue config.hotkeys.toggleQueueDisplay ∧
      Derivable config.hotkeys.pasteNext config.hotkeys.pasteNextDisplay ∧
      ∀ entry ∈ config.macros, Readable entry.effectiveHotkey := by
  rw [Accepted, validate_eq_none_iff]
  change _ ∧ (∀ entry ∈ config.ensureSignatures.2.macros, Readable entry.effectiveHotkey) ↔ _
  rw [config.ensureSignatures_alike.readable_iff]
  constructor
  · rintro ⟨complete, readable⟩
    have migrated : Migrated config config.ensureSignatures.2 :=
      ensureSignatures_eq_iff.mp (Prod.ext complete rfl)
    exact ⟨derivable_iff.mpr ⟨_, migrated.toggleQueue⟩, derivable_iff.mpr ⟨_, migrated.pasteNext⟩,
      readable⟩
  · rintro ⟨toggleQueue, pasteNext, readable⟩
    obtain ⟨toggleQueue, first⟩ := derivable_iff.mp toggleQueue
    obtain ⟨pasteNext, second⟩ := derivable_iff.mp pasteNext
    obtain ⟨macros, third⟩ :=
      exists_migrated fun entry member => derivable_of_readable (readable entry member)
    have migrated : Migrated config
        { (config.withToggleQueue toggleQueue).withPasteNext pasteNext with macros } :=
      ⟨first, second, third, rfl⟩
    exact ⟨congrArg Prod.fst (ensureSignatures_eq_iff.mpr migrated), readable⟩

/-! ### Emptying blank texts -/

/-- The text is as it was or, if it was blank, empty. -/
inductive Cleared (text : String) : String → Prop
  | kept : Cleared text text
  | emptied (blank : isBlankText text = true) : Cleared text ""

structure TextMacro.Cleared (entry other : TextMacro) : Prop where
  hotkey : Config.Cleared entry.hotkey other.hotkey
  signature : Config.Cleared entry.signature other.signature
  others : other = { entry with hotkey := other.hotkey, signature := other.signature }

/-- Any number of the blank hotkeys is emptied, and nothing else is done. -/
structure BlanksCleared (before after : Config) : Prop where
  toggleQueue : Cleared before.hotkeys.toggleQueue after.hotkeys.toggleQueue
  toggleQueueDisplay : Cleared before.hotkeys.toggleQueueDisplay after.hotkeys.toggleQueueDisplay
  pasteNext : Cleared before.hotkeys.pasteNext after.hotkeys.pasteNext
  pasteNextDisplay : Cleared before.hotkeys.pasteNextDisplay after.hotkeys.pasteNextDisplay
  macros : List.Forall₂ TextMacro.Cleared before.macros after.macros
  others : after = { before with hotkeys := after.hotkeys, macros := after.macros }

section Texts

variable {text other stored storedAfter shown shownAfter : String}

theorem Cleared.isBlankText (cleared : Cleared text other) :
    Config.isBlankText other = Config.isBlankText text := by
  cases cleared with
  | kept => rfl
  | emptied blank => exact blank.symm

theorem Cleared.readable_iff (cleared : Cleared text other) : Readable other ↔ Readable text := by
  cases cleared with
  | kept => rfl
  | emptied blank =>
    exact iff_of_false (Hotkey.not_readable_of_blank rfl) (Hotkey.not_readable_of_blank blank)

theorem Cleared.eq_or (cleared : Cleared text other) :
    other = text ∨ Config.isBlankText text = true ∧ other = "" := by
  cases cleared with
  | kept => exact .inl rfl
  | emptied blank => exact .inr ⟨blank, rfl⟩

theorem Cleared.eq_of_full (cleared : Cleared text other) (full : Config.isBlankText text = false) :
    other = text := by
  cases cleared with
  | kept => rfl
  | emptied blank =>
    rw [full] at blank
    cases blank

theorem Cleared.firstHotkey? (first : Cleared stored storedAfter) (second : Cleared shown shownAfter) :
    firstHotkey? storedAfter shownAfter = firstHotkey? stored shown := by
  simp only [Config.firstHotkey?, List.find?_cons, first.isBlankText, second.isBlankText]
  cases own : Config.isBlankText stored with
  | false => simp [first.eq_of_full own]
  | true =>
    cases people : Config.isBlankText shown with
    | false => simp [second.eq_of_full people]
    | true => rfl

/-- A blank hotkey that stood before its text for people is emptied, and this text cannot be read. -/
structure Exposes (stored storedAfter shownAfter : String) : Prop where
  emptied : stored ≠ storedAfter
  full : shownAfter ≠ ""
  unreadable : ¬ Readable shownAfter

/-- A missing hotkey was to be derived from a blank text, and this is emptied. -/
structure Relieves (stored shown shownAfter : String) : Prop where
  missing : stored = ""
  emptied : shown ≠ shownAfter

theorem derivable_after_iff (first : Cleared stored storedAfter) (second : Cleared shown shownAfter)
    (derivable : Derivable stored shown) :
    Derivable storedAfter shownAfter ↔ ¬ Exposes stored storedAfter shownAfter := by
  constructor
  · rintro again ⟨emptied, full, unreadable⟩
    cases first with
    | kept => exact emptied rfl
    | emptied blank => exact unreadable (again rfl full)
  · intro sound missing full
    by_contra unreadable
    have same : stored = storedAfter := by_contra fun emptied => sound ⟨emptied, full, unreadable⟩
    cases second with
    | kept => exact unreadable (derivable (same.trans missing) full)
    | emptied blank => exact full rfl

theorem derivable_before_iff (first : Cleared stored storedAfter) (second : Cleared shown shownAfter)
    (derivable : Derivable storedAfter shownAfter) :
    Derivable stored shown ↔ ¬ Relieves stored shown shownAfter := by
  constructor
  · rintro earlier ⟨missing, emptied⟩
    cases second with
    | kept => exact emptied rfl
    | emptied blank => exact Hotkey.not_readable_of_blank blank (earlier missing emptied)
  · intro sound missing full
    have same : shown = shownAfter := by_contra fun emptied => sound ⟨missing, emptied⟩
    have missingAfter : storedAfter = "" := by
      cases first with
      | kept => exact missing
      | emptied blank => rfl
    exact same ▸ derivable missingAfter (same ▸ full)

end Texts

section Macros

variable {entry other : TextMacro} {macros others : List TextMacro}

/-- A blank signature stood before a hotkey that can be read. -/
structure TextMacro.Relieves (entry other : TextMacro) : Prop where
  emptied : entry.signature ≠ other.signature
  readable : Readable entry.hotkey

/-- A hotkey that can be read is not blank, and is left alone. -/
theorem TextMacro.Cleared.face (cleared : entry.Cleared other)
    (readable : Readable entry.effectiveHotkey) : other.face = entry.face := by
  obtain ⟨signature, read⟩ := readable
  have full := Hotkey.not_blank_of_parse read
  have effective : other.effectiveHotkey = entry.effectiveHotkey := by
    by_cases missing : entry.signature = ""
    · have stillMissing : other.signature = "" :=
        cleared.signature.eq_or.elim (·.trans missing) And.right
      rw [effectiveHotkey_of_missing missing] at full ⊢
      rw [effectiveHotkey_of_missing stillMissing, cleared.hotkey.eq_of_full full]
    · rw [effectiveHotkey_of_present missing] at full ⊢
      have same := cleared.signature.eq_of_full full
      rw [effectiveHotkey_of_present (same ▸ missing), same]
  rw [TextMacro.face, TextMacro.face, effective, cleared.others]

theorem TextMacro.Cleared.readable_iff (cleared : entry.Cleared other)
    (readable : Readable other.effectiveHotkey) :
    Readable entry.effectiveHotkey ↔ ¬ entry.Relieves other := by
  rcases cleared.signature.eq_or with same | ⟨blank, empty⟩
  · refine iff_of_true ?_ fun relieves => relieves.emptied same.symm
    by_cases missing : entry.signature = ""
    · rw [effectiveHotkey_of_missing (same.trans missing)] at readable
      rw [effectiveHotkey_of_missing missing]
      exact cleared.hotkey.readable_iff.mp readable
    · rw [effectiveHotkey_of_present (same ▸ missing), same] at readable
      rwa [effectiveHotkey_of_present missing]
  · rw [effectiveHotkey_of_missing empty, cleared.hotkey.readable_iff] at readable
    by_cases missing : entry.signature = ""
    · rw [effectiveHotkey_of_missing missing]
      exact iff_of_true readable fun relieves => relieves.emptied (missing.trans empty.symm)
    · rw [effectiveHotkey_of_present missing]
      exact iff_of_false (Hotkey.not_readable_of_blank blank) fun sound =>
        sound ⟨empty ▸ missing, readable⟩

theorem readable_before_iff (cleared : List.Forall₂ TextMacro.Cleared macros others)
    (readable : ∀ other ∈ others, Readable other.effectiveHotkey) :
    (∀ entry ∈ macros, Readable entry.effectiveHotkey) ↔
      ∀ pair ∈ macros.zip others, ¬ pair.1.Relieves pair.2 := by
  induction cleared with
  | nil => simp
  | cons first _ follows =>
    obtain ⟨now, later⟩ := List.forall_mem_cons.mp readable
    rw [List.forall_mem_cons, List.zip_cons_cons, List.forall_mem_cons, follows later,
      first.readable_iff now]

end Macros

/-! ### Acceptance before and after -/

/-- A text that cannot be read comes to light behind one of the queue's own hotkeys. -/
def Exposed (before after : Config) : Prop :=
  Exposes before.hotkeys.toggleQueue after.hotkeys.toggleQueue after.hotkeys.toggleQueueDisplay ∨
    Exposes before.hotkeys.pasteNext after.hotkeys.pasteNext after.hotkeys.pasteNextDisplay

/-- A blank text has gone that was in the way of a configuration's acceptance. -/
def Relieved (before after : Config) : Prop :=
  Relieves before.hotkeys.toggleQueue before.hotkeys.toggleQueueDisplay
      after.hotkeys.toggleQueueDisplay ∨
    Relieves before.hotkeys.pasteNext before.hotkeys.pasteNextDisplay
      after.hotkeys.pasteNextDisplay ∨
    ∃ pair ∈ before.macros.zip after.macros, pair.1.Relieves pair.2

theorem BlanksCleared.faces (cleared : BlanksCleared before after) (accepted : before.Accepted) :
    after.macros.map TextMacro.face = before.macros.map TextMacro.face := by
  obtain ⟨-, -, readable⟩ := accepted_iff.mp accepted
  have each := cleared.macros
  generalize before.macros = macros, after.macros = others at each readable
  induction each with
  | nil => rfl
  | cons first _ follows =>
    obtain ⟨now, later⟩ := List.forall_mem_cons.mp readable
    rw [List.map_cons, List.map_cons, first.face now, follows later]

theorem BlanksCleared.readAlike (cleared : BlanksCleared before after) (accepted : before.Accepted) :
    ReadAlike before after where
  features := congrArg (·.features) cleared.others
  toggleQueue := congrArg _ (cleared.toggleQueue.firstHotkey? cleared.toggleQueueDisplay)
  pasteNext := congrArg _ (cleared.pasteNext.firstHotkey? cleared.pasteNextDisplay)
  macros := cleared.faces accepted

theorem BlanksCleared.accepted_after_iff (cleared : BlanksCleared before after)
    (accepted : before.Accepted) : after.Accepted ↔ ¬ Exposed before after := by
  have alike := cleared.readAlike accepted
  obtain ⟨toggleQueue, pasteNext, readable⟩ := accepted_iff.mp accepted
  rw [accepted_iff, alike.readable_iff, Exposed, not_or,
    derivable_after_iff cleared.toggleQueue cleared.toggleQueueDisplay toggleQueue,
    derivable_after_iff cleared.pasteNext cleared.pasteNextDisplay pasteNext, and_iff_left readable]

theorem BlanksCleared.accepted_before_iff (cleared : BlanksCleared before after)
    (accepted : after.Accepted) : before.Accepted ↔ ¬ Relieved before after := by
  obtain ⟨toggleQueue, pasteNext, readable⟩ := accepted_iff.mp accepted
  rw [accepted_iff, Relieved, not_or, not_or, not_exists,
    derivable_before_iff cleared.toggleQueue cleared.toggleQueueDisplay toggleQueue,
    derivable_before_iff cleared.pasteNext cleared.pasteNextDisplay pasteNext,
    readable_before_iff cleared.macros readable]
  simp only [not_and]

/-- Emptying blank hotkeys leaves it as it is whether a configuration is accepted, except in two cases:
it was accepted, and a text that cannot be read comes to light behind one of the queue's own hotkeys; or it
is accepted only now that a blank text has gone, from which a missing hotkey was to be derived, or which
stood as a signature before a macro's hotkey. What an accepted configuration binds always reads the same. -/
theorem blanks_absent_iff (cleared : BlanksCleared before after) :
    ((before.Accepted ↔ after.Accepted) ↔
      (before.Accepted → ¬ Exposed before after) ∧ (after.Accepted → ¬ Relieved before after)) ∧
    (before.Accepted → ∀ slot,
      (after.ensureSignatures.2.bindings.at? slot).map Binding.face =
        (before.ensureSignatures.2.bindings.at? slot).map Binding.face) := by
  refine ⟨⟨fun same => ⟨fun accepted => ?_, fun accepted => ?_⟩, ?_⟩, fun accepted slot => ?_⟩
  · exact (cleared.accepted_after_iff accepted).mp (same.mp accepted)
  · exact (cleared.accepted_before_iff accepted).mp (same.mpr accepted)
  · rintro ⟨unexposed, unrelieved⟩
    exact ⟨fun accepted => (cleared.accepted_after_iff accepted).mpr (unexposed accepted),
      fun accepted => (cleared.accepted_before_iff accepted).mpr (unrelieved accepted)⟩
  · rw [after.ensureSignatures_alike.face, before.ensureSignatures_alike.face,
      (cleared.readAlike accepted).face]

/-- Toggling the queue has a blank hotkey before its text for people, and the macro a blank one behind its
stored hotkey. -/
def smudged : Config :=
  { hotkeys := { toggleQueue := "\t", toggleQueueDisplay := "Ctrl+F1" }
    macros := [⟨"greet", "  ", "sig:AQABAgBHAA==", "Hello", .typed⟩] }

def smudged.cleared : Config :=
  { smudged.withToggleQueue "" with
    macros := [⟨"greet", "", "sig:AQABAgBHAA==", "Hello", .typed⟩] }

theorem blanks_absent_iff_smudged :
    BlanksCleared smudged smudged.cleared ∧ smudged.Accepted ∧ smudged.cleared.Accepted ∧
      (smudged.cleared.ensureSignatures.2.bindings.at? .toggleQueue).map Binding.face =
        (smudged.ensureSignatures.2.bindings.at? .toggleQueue).map Binding.face := by
  have cleared : BlanksCleared smudged smudged.cleared :=
    { toggleQueue := .emptied (by decide), toggleQueueDisplay := .kept
      pasteNext := .kept, pasteNextDisplay := .kept
      macros := .cons ⟨.emptied (by decide), .kept, rfl⟩ .nil
      others := rfl }
  have accepted : smudged.Accepted := ⟨by decide +kernel, by decide +kernel⟩
  have unexposed : ¬ Exposed smudged smudged.cleared := by
    rintro (⟨-, -, unreadable⟩ | ⟨emptied, -, -⟩)
    · exact unreadable (by decide +kernel)
    · exact emptied rfl
  have unrelieved : ¬ Relieved smudged smudged.cleared := by
    rintro (⟨-, emptied⟩ | ⟨-, emptied⟩ | ⟨pair, member, emptied, -⟩)
    · exact emptied rfl
    · exact emptied rfl
    · obtain rfl := List.mem_singleton.mp member
      exact emptied rfl
  obtain ⟨same, faces⟩ := blanks_absent_iff cleared
  exact ⟨cleared, accepted, (same.mpr ⟨fun _ => unexposed, fun _ => unrelieved⟩).mp accepted,
    faces accepted .toggleQueue⟩

/-- The usual configuration with one macro, whose hotkey can be read. -/
def greeting (signature : String) : Config :=
  { macros := [⟨"greet", "Ctrl+G", signature, "Hello", .typed⟩] }

/-- A blank signature goes before the hotkey, and is refused. -/
theorem blank_signature_refused :
    ¬ ∀ before after : Config, BlanksCleared before after → (before.Accepted ↔ after.Accepted) := by
  intro absent
  have cleared : BlanksCleared (greeting "  ") (greeting "") :=
    { toggleQueue := .kept, toggleQueueDisplay := .kept, pasteNext := .kept, pasteNextDisplay := .kept
      macros := .cons ⟨.kept, .emptied (by decide), rfl⟩ .nil
      others := rfl }
  have accepted : (greeting "").Accepted := ⟨by decide +kernel, by decide +kernel⟩
  have refused : (greeting "  ").ensureSignatures.2.validate =
      some (.invalidMacro 0 (.unreadable .emptyHotkey)) := by decide +kernel
  have passed := ((absent _ _ cleared).mpr accepted).2
  rw [refused] at passed
  cases passed

end Config

end PasteQueue
