import PasteQueue.Proofs.Config.Hotkeys

/-!
Macros that are checked and macros that are installed. Both stop at the same hotkeys, those that cannot be
read: the check of a configuration names the first macro that installing its bindings would skip.
-/

namespace PasteQueue

namespace Config

variable {entry : TextMacro} {macros : List TextMacro} {index : Nat}

/-! ### Checking one macro -/

/-- What is said of a macro, beside why its hotkey cannot be read. A macro that has none is said so. -/
inductive MacroFault.Tells : MacroFault → ReadError → Prop
  | empty : Tells .emptyHotkey .emptyHotkey
  | unreadable (fault : ReadError) : Tells (.unreadable fault) fault

theorem effectiveHotkey_blank (hotkey : isBlankText entry.hotkey = true)
    (signature : isBlankText entry.signature = true) : isBlankText entry.effectiveHotkey = true := by
  unfold TextMacro.effectiveHotkey
  split
  · exact hotkey
  · exact signature

/-- A macro is at fault for a hotkey that cannot be read, and for nothing else. -/
theorem macroFault?_cases (entry : TextMacro) :
    (macroFault? entry = none ∧ ∃ signature, Hotkey.parse entry.effectiveHotkey = .ok signature) ∨
      ∃ reason fault, macroFault? entry = some reason ∧
        Hotkey.parse entry.effectiveHotkey = .error fault ∧ reason.Tells fault := by
  unfold macroFault?
  split
  · rename_i blank
    obtain ⟨hotkey, signature⟩ := Bool.and_eq_true_iff.mp blank
    exact .inr ⟨_, _, rfl, Hotkey.parse_blank (effectiveHotkey_blank hotkey signature), .empty⟩
  · cases read : Hotkey.parse entry.effectiveHotkey with
    | ok signature => exact .inl ⟨rfl, signature, rfl⟩
    | error fault => exact .inr ⟨_, fault, rfl, rfl, .unreadable fault⟩

theorem macroFault?_eq_none_iff :
    macroFault? entry = none ↔ ∃ signature, Hotkey.parse entry.effectiveHotkey = .ok signature := by
  rcases macroFault?_cases entry with ⟨none, read⟩ | ⟨reason, fault, some, unread, -⟩
  · exact ⟨fun _ => read, fun _ => none⟩
  · simp [some, unread]

/-! ### Checking all macros -/

theorem firstFault?_eq_none_iff :
    firstFault? index macros = none ↔ ∀ entry ∈ macros, macroFault? entry = none := by
  induction macros generalizing index with
  | nil => simp [firstFault?]
  | cons entry rest follows =>
    rw [firstFault?, List.forall_mem_cons]
    cases macroFault? entry with
    | some reason => simp
    | none => simpa using follows

/-- The macro that is named is the first one at fault. -/
theorem firstFault?_eq_some {error : Error} (given : firstFault? index macros = some error) :
    ∃ place entry reason, macros[place]? = some entry ∧ macroFault? entry = some reason ∧
      error = .invalidMacro (index + place) reason ∧
      ∀ earlier < place, ∀ other ∈ macros[earlier]?, macroFault? other = none := by
  induction macros generalizing index with
  | nil => cases given
  | cons entry rest follows =>
    rw [firstFault?] at given
    cases fault : macroFault? entry with
    | some reason =>
      rw [fault] at given
      exact ⟨0, entry, reason, rfl, fault, (Option.some.inj given).symm, nofun⟩
    | none =>
      rw [fault] at given
      obtain ⟨place, found, reason, there, wrong, rfl, sound⟩ := follows given
      refine ⟨place + 1, found, reason, there, wrong, by rw [Nat.add_right_comm, Nat.add_assoc], ?_⟩
      intro earlier before other present
      cases earlier with
      | zero => exact Option.some.inj present ▸ fault
      | succ earlier => exact sound earlier (Nat.lt_of_succ_lt_succ before) other present

theorem validate_eq_none_iff {config : Config} :
    config.validate = none ↔
      ∀ entry ∈ config.macros, ∃ signature, Hotkey.parse entry.effectiveHotkey = .ok signature := by
  rw [validate, firstFault?_eq_none_iff]
  simp only [macroFault?_eq_none_iff]

end Config

/-! ### Installing macros -/

/-- The report has the macro with this index among what was skipped. -/
def InstallReport.SkipsMacro (report : InstallReport) (index : Nat) (fault : ReadError) : Prop :=
  ∃ name, (Bindings.macroId index name, fault) ∈ report.skipped

theorem Bindings.skipsMacro_iff {bindings : Bindings} {index : Nat} {fault : ReadError} :
    bindings.report.SkipsMacro index fault ↔
      ∃ bound, bindings.macros[index]? = some bound ∧ Hotkey.parse bound.hotkey = .error fault := by
  simp only [InstallReport.SkipsMacro, report_eq, List.mem_filterMap, Binding.fault?_eq_some_iff,
    mem_all_iff]
  constructor
  · rintro ⟨name, binding, ⟨slot, stands⟩, named, unread⟩
    have place : slot = .textMacro index := by
      rw [← Slot.ofId_id stands, named, Slot.ofId_macroId]
    subst place
    obtain ⟨bound, there, rfl⟩ := Option.map_eq_some_iff.mp stands
    exact ⟨bound, there, unread⟩
  · rintro ⟨bound, there, unread⟩
    have stands : bindings.at? (.textMacro index) = some (macroBinding bound index) := by
      rw [at?, there, Option.map_some]
    exact ⟨bound.name, _, ⟨_, stands⟩, rfl, unread⟩

namespace Config

theorem skipsMacro_iff {config : Config} (on : config.features.macros = true) {index : Nat}
    {fault : ReadError} :
    config.bindings.report.SkipsMacro index fault ↔
      ∃ entry, config.macros[index]? = some entry ∧
        Hotkey.parse entry.effectiveHotkey = .error fault := by
  have macros : config.bindings.macros = config.macros.map TextMacro.binding := if_pos on
  simp [Bindings.skipsMacro_iff, macros, TextMacro.binding]

/-- Where macros are switched on, a configuration passes the check exactly if installing its bindings skips
none of them. Otherwise the check names the first macro that is skipped, and tells why. -/
theorem validate_agrees_with_install {config : Config} (on : config.features.macros = true) :
    let report := config.bindings.report
    (config.validate = none ↔ ∀ index fault, ¬ report.SkipsMacro index fault) ∧
    ∀ error, config.validate = some error →
      ∃ index reason fault, error = .invalidMacro index reason ∧ report.SkipsMacro index fault ∧
        reason.Tells fault ∧ ∀ earlier < index, ∀ other, ¬ report.SkipsMacro earlier other := by
  simp only [skipsMacro_iff on]
  constructor
  · rw [validate_eq_none_iff]
    constructor
    · rintro reads index fault ⟨entry, there, unread⟩
      obtain ⟨signature, read⟩ := reads entry (List.mem_of_getElem? there)
      rw [unread] at read
      cases read
    · intro installed entry member
      obtain ⟨index, there⟩ := List.mem_iff_getElem?.mp member
      cases read : Hotkey.parse entry.effectiveHotkey with
      | ok signature => exact ⟨signature, rfl⟩
      | error fault => exact absurd ⟨entry, there, read⟩ (installed index fault)
  · intro error given
    obtain ⟨index, entry, reason, there, wrong, rfl, sound⟩ := firstFault?_eq_some given
    rw [Nat.zero_add]
    rcases macroFault?_cases entry with ⟨none, -⟩ | ⟨told, fault, some, unread, tells⟩
    · rw [none] at wrong
      cases wrong
    · obtain rfl := Option.some.inj (some.symm.trans wrong)
      refine ⟨index, told, fault, rfl, ⟨entry, there, unread⟩, tells, ?_⟩
      rintro earlier before other ⟨first, present, unreadFirst⟩
      obtain ⟨signature, read⟩ := macroFault?_eq_none_iff.mp (sound earlier before first present)
      rw [unreadFirst] at read
      cases read

/-- A hotkey of the queue that cannot be read, and three macros: the second has a stored signature that is
cut off, which goes before its hotkey, and the third has blanks only. -/
def flawed : Config :=
  { hotkeys := { toggleQueue := "Ctrl+Nope" }
    macros := [⟨"greet", "Ctrl+G", "", "Hello", .typed⟩, ⟨"sign", "Ctrl+S", "sig:AQAD", "Regards", .pasted⟩,
      ⟨"none", " ", "\t", "", .typed⟩] }

theorem validate_agrees_with_install_flawed :
    flawed.validate = some (.invalidMacro 1 (.unreadable (.insufficient 4 3))) ∧
      (∃ fault, flawed.bindings.report.SkipsMacro 1 fault) ∧
      ∀ fault, ¬ flawed.bindings.report.SkipsMacro 0 fault := by
  have given : flawed.validate = some (.invalidMacro 1 (.unreadable (.insufficient 4 3))) := by
    decide +kernel
  have on : flawed.features.macros = true := rfl
  obtain ⟨-, named⟩ := validate_agrees_with_install on
  obtain ⟨index, reason, fault, same, skips, -, first⟩ := named _ given
  cases same
  exact ⟨given, ⟨fault, skips⟩, first 0 (by decide)⟩

end Config

end PasteQueue
