import PasteQueue.Config.Hotkeys
import PasteQueue.Proofs.Bindings
import PasteQueue.Proofs.Signature.Stored

/-!
What the hotkeys of a configuration read as. Deriving missing signatures, as far as it comes, changes
nothing about that, and a hotkey that is assigned changes it for one binding alone.
-/

namespace PasteQueue

open Bindings (Slot)

/-! ### Blank texts -/

namespace Hotkey

theorem parse_blank {text : String} (blank : Config.isBlankText text = true) :
    parse text = .error .emptyHotkey := by
  rw [parse, parseChars]
  exact if_pos blank

theorem not_blank_of_parse {text : String} {signature : Signature}
    (read : parse text = .ok signature) : Config.isBlankText text = false := by
  cases blank : Config.isBlankText text with
  | false => rfl
  | true =>
    rw [parse_blank blank] at read
    cases read

theorem format_not_blank (signature : Signature) :
    Config.isBlankText (format signature) = false :=
  not_blank_of_parse (parse_format signature)

theorem format_not_empty (signature : Signature) : (format signature).isEmpty = false := by
  cases empty : (format signature).isEmpty with
  | false => rfl
  | true =>
    have nothing := format_not_blank signature
    rw [String.isEmpty_iff.mp empty] at nothing
    cases nothing

end Hotkey

namespace Config

variable {config after : Config} {stored shown derived : String}

/-! ### Deriving signatures -/

/-- What becomes of a stored hotkey beside its text for people. It stays, unless it is missing and that text
is there. -/
inductive Filled (stored shown : String) : String → Prop
  | kept (settled : stored ≠ "" ∨ shown = "") : Filled stored shown stored
  | derived (missing : stored = "") {signature : Signature}
      (source : Hotkey.parse shown = .ok signature)
      (reads : Hotkey.parse (Hotkey.format signature) = .ok signature) :
      Filled stored shown (Hotkey.format signature)

theorem needsDeriving_iff : needsDeriving stored shown = true ↔ stored = "" ∧ shown ≠ "" := by
  rw [needsDeriving, Bool.and_eq_true_iff, String.isEmpty_iff, Bool.not_eq_true', ← Bool.not_eq_true,
    String.isEmpty_iff]

theorem derive_of_settled (field : String) (settled : stored ≠ "" ∨ shown = "") :
    derive field stored shown = .ok stored := by
  have unneeded : ¬ needsDeriving stored shown = true := by
    rw [needsDeriving_iff]
    tauto
  exact if_neg unneeded

theorem derive_eq_ok_iff (field : String) :
    derive field stored shown = .ok derived ↔ Filled stored shown derived := by
  by_cases needed : stored = "" ∧ shown ≠ ""
  · rw [derive, if_pos (needsDeriving_iff.mpr needed)]
    obtain ⟨missing, full⟩ := needed
    constructor
    · intro given
      split at given
      · rename_i signature source
        cases given
        exact .derived missing source (Hotkey.parse_format signature)
      · cases given
    · rintro (⟨present | absent⟩ | ⟨-, source, -⟩)
      · exact absurd missing present
      · exact absurd absent full
      · rw [source]
  · have settled : stored ≠ "" ∨ shown = "" := by tauto
    rw [derive_of_settled field settled, Except.ok.injEq]
    constructor
    · rintro rfl
      exact .kept settled
    · rintro (- | ⟨missing, source, -⟩)
      · rfl
      · rw [settled.resolve_left (not_not.mpr missing)] at source
        cases source

theorem firstHotkey?_format (signature : Signature) (shown : String) :
    firstHotkey? (Hotkey.format signature) shown = some (Hotkey.format signature) := by
  simp [firstHotkey?, Hotkey.format_not_blank]

theorem Filled.firstHotkey? (filled : Filled stored shown derived) :
    (firstHotkey? derived shown).map Hotkey.parse =
      (firstHotkey? stored shown).map Hotkey.parse := by
  cases filled with
  | kept settled => rfl
  | @derived missing signature source reads =>
    subst missing
    have first : Config.firstHotkey? "" shown = some shown := by
      have empty : isBlankText "" = true := rfl
      simp [Config.firstHotkey?, empty, Hotkey.not_blank_of_parse source]
    rw [firstHotkey?_format, first, Option.map_some, Option.map_some, reads, source]

/-- A macro with what its hotkey reads as. -/
def TextMacro.face (entry : TextMacro) : String × String × Delivery × Except ReadError Signature :=
  (entry.name, entry.text, entry.delivery, Hotkey.parse entry.effectiveHotkey)

theorem TextMacro.face_format (entry : TextMacro) (signature : Signature) :
    face { entry with signature := Hotkey.format signature } =
      (entry.name, entry.text, entry.delivery, .ok signature) := by
  simp [face, effectiveHotkey, Hotkey.format_not_empty, Hotkey.parse_format]

theorem TextMacro.face_filled {entry : TextMacro}
    (filled : Filled entry.signature entry.hotkey derived) :
    face { entry with signature := derived } = entry.face := by
  cases filled with
  | kept settled => rfl
  | derived missing source reads =>
    rw [face_format]
    simp [face, effectiveHotkey, missing, source]

theorem deriveMacros_face (index : Nat) (macros : List TextMacro) :
    (deriveMacros index macros).2.map TextMacro.face = macros.map TextMacro.face := by
  induction macros generalizing index with
  | nil => rfl
  | cons entry rest ih =>
    unfold deriveMacros
    split
    · rfl
    · rename_i derived given
      rw [List.map_cons, List.map_cons, ih, TextMacro.face_filled ((derive_eq_ok_iff _).mp given)]

/-- What one of the queue's own hotkeys reads as. -/
def ownReading? (config : Config) (stored shown : String) : Option (Except ReadError Signature) :=
  if config.features.queue then (firstHotkey? stored shown).map Hotkey.parse else none

theorem toggleQueue_face (config : Config) :
    (config.bindings.at? .toggleQueue).map Binding.face =
      (config.ownReading? config.hotkeys.toggleQueue config.hotkeys.toggleQueueDisplay).map
        fun reading => (Bindings.toggleQueueId, .toggleQueue, reading) := by
  cases queue : config.features.queue <;>
    simp [bindings, queue, Bindings.at?, ownReading?, Binding.face, Function.comp_def]

theorem pasteNext_face (config : Config) :
    (config.bindings.at? .pasteNext).map Binding.face =
      (config.ownReading? config.hotkeys.pasteNext config.hotkeys.pasteNextDisplay).map
        fun reading => (Bindings.pasteNextId, .pasteNext, reading) := by
  cases queue : config.features.queue <;>
    simp [bindings, queue, Bindings.at?, ownReading?, Binding.face, Function.comp_def]

theorem macro_face (config : Config) (index : Nat) :
    (config.bindings.at? (.textMacro index)).map Binding.face =
      (if config.features.macros then (config.macros.map TextMacro.face)[index]? else none).map
        fun face =>
          (Bindings.macroId index face.1, .textMacro face.1 face.2.1 face.2.2.1, face.2.2.2) := by
  cases macros : config.features.macros <;>
    simp [bindings, macros, Bindings.at?, Bindings.macroBinding, Binding.face, TextMacro.face,
      TextMacro.binding, Function.comp_def]

/-- The hotkeys read the same. -/
structure ReadAlike (first second : Config) : Prop where
  features : second.features = first.features
  toggleQueue :
    (firstHotkey? second.hotkeys.toggleQueue second.hotkeys.toggleQueueDisplay).map Hotkey.parse =
      (firstHotkey? first.hotkeys.toggleQueue first.hotkeys.toggleQueueDisplay).map Hotkey.parse
  pasteNext :
    (firstHotkey? second.hotkeys.pasteNext second.hotkeys.pasteNextDisplay).map Hotkey.parse =
      (firstHotkey? first.hotkeys.pasteNext first.hotkeys.pasteNextDisplay).map Hotkey.parse
  macros : second.macros.map TextMacro.face = first.macros.map TextMacro.face

theorem ReadAlike.face (alike : ReadAlike config after) (slot : Slot) :
    (after.bindings.at? slot).map Binding.face = (config.bindings.at? slot).map Binding.face := by
  cases slot with
  | toggleQueue =>
    rw [toggleQueue_face, toggleQueue_face, ownReading?, ownReading?, alike.features,
      alike.toggleQueue]
  | pasteNext =>
    rw [pasteNext_face, pasteNext_face, ownReading?, ownReading?, alike.features, alike.pasteNext]
  | textMacro index => rw [macro_face, macro_face, alike.features, alike.macros]

/-- Also where it stops at a hotkey that cannot be read. -/
theorem ensureSignatures_alike (config : Config) : ReadAlike config config.ensureSignatures.2 := by
  unfold ensureSignatures
  dsimp only
  split
  · exact ⟨rfl, rfl, rfl, rfl⟩
  · rename_i toggleQueue given
    split
    · exact ⟨rfl, ((derive_eq_ok_iff _).mp given).firstHotkey?, rfl, rfl⟩
    · rename_i pasteNext next
      exact ⟨rfl, ((derive_eq_ok_iff _).mp given).firstHotkey?, ((derive_eq_ok_iff _).mp next).firstHotkey?,
        deriveMacros_face 0 _⟩

/-! ### Assigning hotkeys -/

/-- The place that a name stands for. -/
def slot? (config : Config) (name : String) : Option Slot :=
  if name = Bindings.toggleQueueId then some .toggleQueue
  else if name = Bindings.pasteNextId then some .pasteNext
  else (config.macros.findIdx? fun entry => entry.name = name).map .textMacro

def offers (config : Config) : Slot → Bool
  | .toggleQueue | .pasteNext => config.features.queue
  | .textMacro _ => config.features.macros

theorem assignMacro_eq {name stored : String} {macros after : List TextMacro}
    (given : assignMacro name stored macros = some after) :
    ∃ index, (macros.findIdx? fun entry => entry.name = name) = some index ∧
      after = macros.modify index fun entry => { entry with signature := stored } := by
  induction macros generalizing after with
  | nil => cases given
  | cons entry rest ih =>
    unfold assignMacro at given
    split at given
    · rename_i named
      cases given
      exact ⟨0, by simp [List.findIdx?_cons, named], rfl⟩
    · rename_i other
      obtain ⟨later, found, rfl⟩ := Option.map_eq_some_iff.mp given
      obtain ⟨index, first, rfl⟩ := ih found
      exact ⟨index + 1, by simp [List.findIdx?_cons, other, first], rfl⟩

/-- One binding reads as the signature, if its feature is on, and all others read as before. -/
structure Assigned (before after : Config) (slot : Slot) (signature : Signature) : Prop where
  own : before.offers slot = true → ∃ id action,
    (after.bindings.at? slot).map Binding.face = some (id, action, .ok signature)
  others : ∀ other, other ≠ slot →
    (after.bindings.at? other).map Binding.face = (before.bindings.at? other).map Binding.face

theorem withToggleQueue_assigned (config : Config) (signature : Signature) :
    Assigned config (config.withToggleQueue (Hotkey.format signature)) .toggleQueue signature where
  own offered := by
    have on : (config.withToggleQueue (Hotkey.format signature)).features.queue = true := offered
    refine ⟨Bindings.toggleQueueId, .toggleQueue, ?_⟩
    rw [toggleQueue_face, ownReading?, if_pos on]
    simp [withToggleQueue, firstHotkey?_format, Hotkey.parse_format]
  others other apart := by
    cases other with
    | toggleQueue => exact absurd rfl apart
    | pasteNext =>
      rw [pasteNext_face, pasteNext_face]
      rfl
    | textMacro index =>
      rw [macro_face, macro_face]
      rfl

theorem withPasteNext_assigned (config : Config) (signature : Signature) :
    Assigned config (config.withPasteNext (Hotkey.format signature)) .pasteNext signature where
  own offered := by
    have on : (config.withPasteNext (Hotkey.format signature)).features.queue = true := offered
    refine ⟨Bindings.pasteNextId, .pasteNext, ?_⟩
    rw [pasteNext_face, ownReading?, if_pos on]
    simp [withPasteNext, firstHotkey?_format, Hotkey.parse_format]
  others other apart := by
    cases other with
    | pasteNext => exact absurd rfl apart
    | toggleQueue =>
      rw [toggleQueue_face, toggleQueue_face]
      rfl
    | textMacro index =>
      rw [macro_face, macro_face]
      rfl

theorem modify_assigned {config : Config} {index : Nat} (inside : index < config.macros.length)
    (signature : Signature) :
    let macros := config.macros.modify index fun entry =>
      { entry with signature := Hotkey.format signature }
    Assigned config { config with macros } (.textMacro index) signature := by
  intro macros
  refine ⟨fun offered => ?_, fun other apart => ?_⟩
  · have on : config.features.macros = true := offered
    have modified : macros[index]? =
        some { config.macros[index] with signature := Hotkey.format signature } := by
      simp [macros, inside]
    let entry := config.macros[index]
    refine ⟨Bindings.macroId index entry.name, .textMacro entry.name entry.text entry.delivery, ?_⟩
    rw [macro_face, if_pos on, List.getElem?_map, modified, Option.map_some,
      TextMacro.face_format, Option.map_some]
  · cases other with
    | toggleQueue =>
      rw [toggleQueue_face, toggleQueue_face]
      rfl
    | pasteNext =>
      rw [pasteNext_face, pasteNext_face]
      rfl
    | textMacro place =>
      have elsewhere : index ≠ place := by
        rintro rfl
        exact apart rfl
      have kept : macros[place]? = config.macros[place]? := by
        simp [macros, elsewhere]
      rw [macro_face, macro_face, List.getElem?_map, List.getElem?_map, kept]

theorem assign_assigned {name : String} {signature : Signature}
    (given : config.assign name (Hotkey.format signature) = .ok after) :
    ∃ slot, config.slot? name = some slot ∧ Assigned config after slot signature := by
  unfold assign at given
  unfold slot?
  split at given
  · rename_i named
    cases given
    exact ⟨.toggleQueue, if_pos named, config.withToggleQueue_assigned signature⟩
  · rename_i unnamed
    rw [if_neg unnamed]
    split at given
    · rename_i named
      cases given
      exact ⟨.pasteNext, if_pos named, config.withPasteNext_assigned signature⟩
    · rename_i unnamed
      rw [if_neg unnamed]
      split at given
      · rename_i macros assigned
        cases given
        obtain ⟨index, found, rfl⟩ := assignMacro_eq assigned
        obtain ⟨inside, -⟩ := List.findIdx?_eq_some_iff_getElem.mp found
        exact ⟨.textMacro index, by rw [found]; rfl, modify_assigned inside signature⟩
      · cases given

end Config

end PasteQueue
