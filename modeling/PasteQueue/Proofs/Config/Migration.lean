import PasteQueue.Proofs.Config.Hotkeys

/-!
Missing signatures that are all derived. Whatever a hotkey read as before, it reads as afterwards, so that
the same bindings are installed; nothing changes but what was empty; and there is nothing left to derive.
-/

namespace PasteQueue

/-- A macro's binding, with what its hotkey reads as. -/
def MacroBinding.face (bound : MacroBinding) : String × String × Delivery × Except ReadError Signature :=
  (bound.name, bound.text, bound.delivery, Hotkey.parse bound.hotkey)

namespace Config

variable {config after : Config} {index : Nat} {macros : List TextMacro}

/-! ### What derivation makes of a configuration -/

inductive TextMacro.Migrated (entry : TextMacro) : TextMacro → Prop
  | intro {signature : String} (filled : Filled entry.signature entry.hotkey signature) :
      Migrated entry { entry with signature }

/-- The stored hotkeys are filled in, and all else is as it was. -/
structure Migrated (before after : Config) : Prop where
  toggleQueue : Filled before.hotkeys.toggleQueue before.hotkeys.toggleQueueDisplay
    after.hotkeys.toggleQueue
  pasteNext : Filled before.hotkeys.pasteNext before.hotkeys.pasteNextDisplay after.hotkeys.pasteNext
  macros : List.Forall₂ TextMacro.Migrated before.macros after.macros
  others : after =
    { (before.withToggleQueue after.hotkeys.toggleQueue).withPasteNext after.hotkeys.pasteNext with
      macros := after.macros }

theorem deriveMacros_eq_iff {derived : List TextMacro} :
    deriveMacros index macros = (none, derived) ↔ List.Forall₂ TextMacro.Migrated macros derived := by
  induction macros generalizing index derived with
  | nil => simp [deriveMacros, eq_comm]
  | cons entry rest follows =>
    rw [deriveMacros, List.forall₂_cons_left_iff]
    constructor
    · intro same
      split at same
      · cases same
      · rename_i signature given
        obtain ⟨none, rfl⟩ := Prod.mk.inj same
        exact ⟨_, _, .intro ((derive_eq_ok_iff _).mp given), follows.mp (Prod.ext none rfl), rfl⟩
    · rintro ⟨_, others, ⟨filled⟩, later, rfl⟩
      rw [(derive_eq_ok_iff _).mpr filled]
      simp only [follows.mpr later]

/-- Deriving succeeds where every missing hotkey can be filled in, and makes nothing else of a
configuration. -/
theorem ensureSignatures_eq_iff :
    config.ensureSignatures = (none, after) ↔ Migrated config after := by
  unfold ensureSignatures
  dsimp only
  constructor
  · intro same
    split at same
    · cases same
    · rename_i toggleQueue given
      split at same
      · cases same
      · rename_i pasteNext next
        obtain ⟨none, rfl⟩ := Prod.mk.inj same
        exact ⟨(derive_eq_ok_iff _).mp given, (derive_eq_ok_iff _).mp next,
          deriveMacros_eq_iff.mp (Prod.ext none rfl), rfl⟩
  · rintro ⟨toggleQueue, pasteNext, macros, others⟩
    rw [(derive_eq_ok_iff _).mpr toggleQueue]
    dsimp only
    rw [(derive_eq_ok_iff _).mpr pasteNext]
    have each : deriveMacros 0 config.macros = (none, after.macros) := deriveMacros_eq_iff.mpr macros
    change ((deriveMacros 0 config.macros).1, _) = _
    rw [others]
    simp only [withToggleQueue, withPasteNext, each]

/-! ### Once and for all -/

theorem Filled.again {stored shown filled : String} (once : Filled stored shown filled) :
    Filled filled shown filled := by
  cases once with
  | kept settled => exact .kept settled
  | @derived missing signature source reads =>
    exact .kept (.inl fun empty => by simpa [empty] using Hotkey.format_not_empty signature)

theorem TextMacro.Migrated.again {entry filled : TextMacro} (once : entry.Migrated filled) :
    filled.Migrated filled := by
  obtain ⟨filled⟩ := once
  exact .intro filled.again

theorem migrated_again {filled : List TextMacro}
    (once : List.Forall₂ TextMacro.Migrated macros filled) :
    List.Forall₂ TextMacro.Migrated filled filled := by
  induction once with
  | nil => exact .nil
  | cons first _ later => exact .cons first.again later

theorem Migrated.again (once : Migrated config after) : Migrated after after where
  toggleQueue := by
    have shown : after.hotkeys.toggleQueueDisplay = config.hotkeys.toggleQueueDisplay :=
      congrArg (·.hotkeys.toggleQueueDisplay) once.others
    exact shown ▸ once.toggleQueue.again
  pasteNext := by
    have shown : after.hotkeys.pasteNextDisplay = config.hotkeys.pasteNextDisplay :=
      congrArg (·.hotkeys.pasteNextDisplay) once.others
    exact shown ▸ once.pasteNext.again
  macros := migrated_again once.macros
  others := rfl

/-! ### The same bindings -/

theorem ReadAlike.toggleQueue_parse (alike : ReadAlike config after) :
    after.bindings.toggleQueue.map Hotkey.parse = config.bindings.toggleQueue.map Hotkey.parse := by
  simp only [bindings, alike.features]
  split
  · exact alike.toggleQueue
  · rfl

theorem ReadAlike.pasteNext_parse (alike : ReadAlike config after) :
    after.bindings.pasteNext.map Hotkey.parse = config.bindings.pasteNext.map Hotkey.parse := by
  simp only [bindings, alike.features]
  split
  · exact alike.pasteNext
  · rfl

theorem ReadAlike.macros_parse (alike : ReadAlike config after) :
    after.bindings.macros.map MacroBinding.face = config.bindings.macros.map MacroBinding.face := by
  simp only [bindings, alike.features]
  split
  · rw [List.map_map, List.map_map]
    exact alike.macros
  · rfl

theorem ReadAlike.all_face (alike : ReadAlike config after) :
    after.bindings.all.map Binding.face = config.bindings.all.map Binding.face := by
  have length : after.bindings.macros.length = config.bindings.macros.length := by
    simpa using congrArg List.length alike.macros_parse
  rw [Bindings.all_eq_filterMap, Bindings.all_eq_filterMap, List.map_filterMap, List.map_filterMap,
    Bindings.slots, Bindings.slots, length]
  simp only [alike.face]

/-- Deriving all missing signatures keeps every hotkey: each binding is there or not as it was, and its
hotkey reads as the same signature or fails alike, so that what is installed answers alike and reports the
same. Only stored hotkeys that were empty have changed, and those that were filled in can be read. Done
again, it succeeds and changes nothing. -/
theorem migration_keeps_hotkeys (derived : config.ensureSignatures = (none, after)) :
    after.bindings.toggleQueue.map Hotkey.parse = config.bindings.toggleQueue.map Hotkey.parse ∧
    after.bindings.pasteNext.map Hotkey.parse = config.bindings.pasteNext.map Hotkey.parse ∧
    after.bindings.macros.map MacroBinding.face = config.bindings.macros.map MacroBinding.face ∧
    (∀ registry signature, (after.bindings.install registry).action? signature =
      (config.bindings.install registry).action? signature) ∧
    after.bindings.report = config.bindings.report ∧
    Migrated config after ∧
    after.ensureSignatures = (none, after) := by
  have alike : ReadAlike config after := by
    have given := config.ensureSignatures_alike
    rwa [derived] at given
  have migrated : Migrated config after := ensureSignatures_eq_iff.mp derived
  exact ⟨alike.toggleQueue_parse, alike.pasteNext_parse, alike.macros_parse,
    Bindings.install_action?_congr alike.all_face, Bindings.report_congr alike.all_face, migrated,
    ensureSignatures_eq_iff.mpr migrated.again⟩

/-- A blank hotkey gives way to its text, which cannot be read, and stays; a missing one and that of the
first macro are filled in; a macro without any stays so. -/
def aging : Config :=
  { hotkeys :=
      { toggleQueue := "", toggleQueueDisplay := "ctrl + Menu", pasteNext := " ",
        pasteNextDisplay := "Ctrl+Nope" }
    macros := [⟨"greet", "Alt+F5", "", "Hello", .typed⟩, ⟨"none", "", "", "", .pasted⟩,
      ⟨"sign", "Ctrl+S", "sig:AQAD", "Regards", .typed⟩] }

theorem migration_keeps_hotkeys_aging :
    aging.ensureSignatures = (none, aging.ensureSignatures.2) ∧
      aging.ensureSignatures.2.hotkeys.toggleQueue = "sig:AQABAgASAA==" ∧
      aging.ensureSignatures.2.bindings.pasteNext.map Hotkey.parse =
        some (.error (.unknownKey "Nope")) ∧
      aging.ensureSignatures.2.bindings.report = aging.bindings.report ∧
      aging.ensureSignatures.2.ensureSignatures = (none, aging.ensureSignatures.2) := by
  have complete : aging.ensureSignatures.1 = none := by decide +kernel
  have derived : aging.ensureSignatures = (none, aging.ensureSignatures.2) := Prod.ext complete rfl
  obtain ⟨-, pasteNext, -, -, report, -, again⟩ := migration_keeps_hotkeys derived
  have unread : aging.bindings.pasteNext.map Hotkey.parse = some (.error (.unknownKey "Nope")) := by
    decide +kernel
  exact ⟨derived, by decide +kernel, pasteNext.trans unread, report, again⟩

end Config

end PasteQueue
