import PasteQueue.Proofs.Hotkey.Grammar
import PasteQueue.Proofs.Signature.Layout
import PasteQueue.Signature.Hint

/-!
Hints read as hotkeys. The hint of a key with modifiers names them as the grammar wants it, except
where the name of the key is a word for a modifier.
-/

namespace PasteQueue

namespace Key

/-- A name that stands by itself between plus signs, and with which no stored signature begins. -/
structure Bare (name : List Char) : Prop where
  solid : Text.Solid name
  unsplit : '+' ∉ name
  unmarked : ':' ∉ name
  full : name ≠ []

theorem bare_names {entry : Code × String} (member : entry ∈ names) : Bare entry.2.toList := by
  have each : ∀ entry ∈ names, Text.Solid entry.2.toList ∧ '+' ∉ entry.2.toList ∧
      ':' ∉ entry.2.toList ∧ entry.2.toList ≠ [] := by
    decide +kernel
  obtain ⟨solid, unsplit, unmarked, full⟩ := each entry member
  exact ⟨solid, unsplit, unmarked, full⟩

theorem bare_named {entry : Modifiers × String} (member : entry ∈ Modifiers.named) :
    Bare entry.2.toList := by
  have each : ∀ entry ∈ Modifiers.named, Text.Solid entry.2.toList ∧ '+' ∉ entry.2.toList ∧
      ':' ∉ entry.2.toList ∧ entry.2.toList ≠ [] := by
    decide +kernel
  obtain ⟨solid, unsplit, unmarked, full⟩ := each entry member
  exact ⟨solid, unsplit, unmarked, full⟩

theorem mem_of_name? {code : Code} {name : String} (named : name? code = some name) :
    (code, name) ∈ names := by
  obtain ⟨before, after, split, -⟩ := List.lookup_eq_some_iff.mp named
  rw [split]
  exact List.mem_append_right _ List.mem_cons_self

theorem mem_modifiers_names {held : Modifiers} {name : String} :
    name ∈ held.names ↔ ∃ entry ∈ Modifiers.named, held.contains entry.1 = true ∧ entry.2 = name := by
  simp only [Modifiers.names, List.mem_map, List.mem_filter, and_assoc]

end Key

namespace Hotkey

open Key

/-! ### Names joined by plus signs -/

theorem mem_intercalate {c : Char} {tokens : List (List Char)}
    (member : c ∈ ['+'].intercalate tokens) : c = '+' ∨ ∃ token ∈ tokens, c ∈ token := by
  induction tokens with
  | nil => cases member
  | cons token rest follows =>
    cases rest with
    | nil =>
      rw [List.intercalate_singleton] at member
      exact .inr ⟨token, List.mem_cons_self, member⟩
    | cons next rest =>
      rw [List.intercalate_cons_cons] at member
      simp only [List.mem_append, List.mem_singleton] at member
      rcases member with (here | plus) | there
      · exact .inr ⟨token, List.mem_cons_self, here⟩
      · exact .inl plus
      · obtain plus | ⟨other, inside, found⟩ := follows there
        · exact .inl plus
        · exact .inr ⟨other, List.mem_cons_of_mem _ inside, found⟩

variable {tokens : List (List Char)}

theorem pieces_intercalate (bare : ∀ token ∈ tokens, Bare token) :
    pieces (['+'].intercalate tokens) = tokens := by
  by_cases empty : tokens = []
  · subst empty
    rfl
  · have unsplit : ∀ token ∈ tokens, '+' ∉ token := fun token member => (bare token member).unsplit
    have trimmed : tokens.map Text.trim = tokens := by
      refine (List.map_congr_left fun token member => ?_).trans (List.map_id tokens)
      exact (bare token member).solid.trimmed.trim
    rw [pieces, List.splitOn_intercalate '+' unsplit empty, trimmed, List.filter_eq_self]
    exact fun token member => by simpa using (bare token member).full

theorem trim_intercalate (bare : ∀ token ∈ tokens, Bare token) :
    Text.trim (['+'].intercalate tokens) = ['+'].intercalate tokens := by
  have solid : Text.Solid (['+'].intercalate tokens) := by
    intro c member
    rcases mem_intercalate member with rfl | ⟨token, inside, found⟩
    · rfl
    · exact (bare token inside).solid c found
  exact solid.trimmed.trim

theorem intercalate_unmarked (bare : ∀ token ∈ tokens, Bare token) :
    ¬ marker <+: ['+'].intercalate tokens := by
  intro marked
  have colon : ':' ∈ ['+'].intercalate tokens := marked.subset (by decide)
  rcases mem_intercalate colon with plus | ⟨token, inside, found⟩
  · exact absurd plus (by decide)
  · exact (bare token inside).unmarked found

/-! ### The hint of a key -/

section Hint

variable {code : Code} {held : Modifiers} {name : String}

def hintTokens (held : Modifiers) (name : String) : List (List Char) :=
  held.names.map String.toList ++ [name.toList]

theorem hint_keyOnly (named : name? code = some name) :
    (Signature.keyOnly code held).hint.toList = ['+'].intercalate (hintTokens held name) := by
  have label : (Signature.keyOnly code held).inputLabel = name := by
    have word : Layout.wordAt? (Signature.keyOnly code held).raw 0 = some code :=
      Layout.wordAt?_word code []
    have reading : (Signature.keyOnly code held).inputLabel =
        Signature.keyLabel (Layout.wordAt? (Signature.keyOnly code held).raw 0) := rfl
    rw [reading, word, Signature.keyLabel, named, Option.getD_some]
  rw [Signature.hint, label, String.toList_intercalate, List.map_append]
  rfl

theorem bare_hintTokens (named : name? code = some name) :
    ∀ token ∈ hintTokens held name, Bare token := by
  intro token member
  rcases List.mem_append.mp member with member | member
  · obtain ⟨text, inside, rfl⟩ := List.mem_map.mp member
    obtain ⟨entry, known, -, rfl⟩ := mem_modifiers_names.mp inside
    exact bare_named known
  · rw [List.mem_singleton.mp member]
    exact bare_names (mem_of_name? named)

theorem parse_hint (named : name? code = some name) :
    let hint := (Signature.keyOnly code held).hint
    parse hint = parseChord hint.toList ∧ pieces hint.toList = hintTokens held name := by
  have bare : ∀ token ∈ hintTokens held name, Bare token := bare_hintTokens named
  have text : (Signature.keyOnly code held).hint.toList = ['+'].intercalate (hintTokens held name) :=
    hint_keyOnly named
  have trimmed : Text.trim (Signature.keyOnly code held).hint.toList =
      (Signature.keyOnly code held).hint.toList := by rw [text, trim_intercalate bare]
  have split : pieces (Signature.keyOnly code held).hint.toList = hintTokens held name := by
    rw [text, pieces_intercalate bare]
  refine ⟨?_, split⟩
  rw [parse_eq_parseChord, trimmed]
  · rw [trimmed]
    intro empty
    have nothing : pieces [] = [] := rfl
    rw [empty, nothing] at split
    exact List.append_ne_nil_of_right_ne_nil _ (List.cons_ne_nil _ _) split.symm
  · rw [trimmed, text]
    exact intercalate_unmarked bare

/-- The modifiers of a hint are those of the key, for a word names one modifier only. -/
theorem holds_hintTokens (small : held.bits < 16) (solid : ¬ IsWord name.toList) :
    Holds (hintTokens held name) held := by
  refine ⟨fun entry member => ⟨fun contained => ?_, ?_⟩, small⟩
  · have inside : entry.2 ∈ held.names := mem_modifiers_names.mpr ⟨entry, member, contained, rfl⟩
    exact ⟨entry.2.toList, List.mem_append_left _ (List.mem_map_of_mem inside),
      ofWord?_eq_some_iff.mp (Modifiers.ofWord?_named entry member)⟩
  · rintro ⟨token, inside, names⟩
    rcases List.mem_append.mp inside with inside | inside
    · obtain ⟨text, listed, rfl⟩ := List.mem_map.mp inside
      obtain ⟨other, known, contained, rfl⟩ := mem_modifiers_names.mp listed
      have same := (Modifiers.ofWord?_named other known).symm.trans (ofWord?_eq_some_iff.mpr names)
      rwa [← Option.some.inj same]
    · rw [List.mem_singleton.mp inside] at names
      exact absurd (isWord_iff.mpr ⟨_, names⟩) solid

theorem words_of_mem_names {text : String} (listed : text ∈ held.names) : IsWord text.toList := by
  obtain ⟨entry, known, -, rfl⟩ := mem_modifiers_names.mp listed
  exact isWord_iff.mpr ⟨entry.1, ofWord?_eq_some_iff.mp (Modifiers.ofWord?_named entry known)⟩

theorem parse_hint_of_not_isWord (named : name? code = some name) (small : held.bits < 16)
    (solid : ¬ IsWord name.toList) :
    parse (Signature.keyOnly code held).hint = .ok (.keyOnly code held) := by
  obtain ⟨read, split⟩ := @parse_hint code held name named
  have names : NamesKey name.toList code :=
    ⟨(code, name), List.mem_append_left _ (mem_of_name? named), rfl, rfl⟩
  have keys : keyTokens (hintTokens held name) = [name.toList] := by
    have words : keyTokens (held.names.map String.toList) = [] := by
      rw [keyTokens_eq_nil_iff]
      intro token member
      obtain ⟨text, listed, rfl⟩ := List.mem_map.mp member
      exact words_of_mem_names listed
    rw [hintTokens, keyTokens, List.filter_append, ← keyTokens, words]
    simp [solid]
  rw [read, parseChord_ok_iff, split]
  refine .intro ?_ (by rw [keys]; rfl) names (holds_hintTokens small solid)
  rw [known_iff_keyTokens, keys]
  intro token member
  rw [List.mem_singleton.mp member]
  exact .inr (isName_iff.mpr ⟨code, names⟩)

theorem parse_hint_of_isWord (named : name? code = some name) (word : IsWord name.toList) :
    parse (Signature.keyOnly code held).hint =
      .error (.missingKey (Signature.keyOnly code held).hint) := by
  obtain ⟨read, split⟩ := @parse_hint code held name named
  have words : ∀ token ∈ hintTokens held name, IsWord token := by
    intro token member
    rcases List.mem_append.mp member with member | member
    · obtain ⟨text, listed, rfl⟩ := List.mem_map.mp member
      exact words_of_mem_names listed
    · rw [List.mem_singleton.mp member]
      exact word
  have refused : Refused (Signature.keyOnly code held).hint.toList (hintTokens held name) _ :=
    .missing words
  rw [← split, String.ofList_toList] at refused
  rw [read, parseChord_error_iff.mpr refused]

end Hint

/-! ### Hints of hotkeys -/

/-- Shift, control and alt are shown by words for modifiers, and no other key is. -/
theorem shown_by_word : ∀ entry ∈ names,
    (IsWord entry.2.toList ↔ entry.1 = 0x10 ∨ entry.1 = 0x11 ∨ entry.1 = 0x12) := by
  decide +kernel

/-- Of these three, alt alone has another name that is no such word. -/
theorem read_by_name : ∀ entry ∈ names ++ aliases, ¬ IsWord entry.2.toList →
    entry.1 ≠ 0x10 ∧ entry.1 ≠ 0x11 ∧ (entry.1 = 0x12 ↔ Spells "Menu" entry.2.toList) := by
  decide +kernel

theorem name?_isSome {entry : Code × String} (member : entry ∈ names ++ aliases) :
    (name? entry.1).isSome = true := by
  rcases List.mem_append.mp member with canonical | other
  · rw [Option.isSome_iff_ne_none, name?, ne_eq, List.lookup_eq_none_iff]
    intro absent
    simpa using absent entry canonical
  · exact (ofName?_aliases entry other).2

/-- A key that some token names has a name to be shown, which is a word for a modifier only for the key
that is called `Menu`. -/
theorem shown_name {token : List Char} {code : Code} (names : NamesKey token code)
    (solid : ¬ IsWord token) :
    ∃ name, name? code = some name ∧ (IsWord name.toList ↔ code = 0x12) ∧
      (code = 0x12 ↔ Spells "Menu" token) := by
  obtain ⟨entry, member, rfl, spelled⟩ := names
  obtain ⟨shift, control, menu⟩ := read_by_name entry member (mt (isWord_congr spelled).mp solid)
  obtain ⟨name, named⟩ := Option.isSome_iff_exists.mp (name?_isSome member)
  have word := shown_by_word (entry.1, name) (mem_of_name? named)
  refine ⟨name, named, by simpa [shift, control] using word, menu.trans ?_⟩
  rw [Spells, Spells, spelled]

theorem full_of_parse {text : String} {signature : Signature} (read : parse text = .ok signature) :
    Text.trim text.toList ≠ [] := by
  intro empty
  rw [parse, parseChars, if_pos (by simpa using empty)] at read
  cases read

theorem chorded_of_parse {text : String} {signature : Signature}
    (unmarked : ¬ marker <+: Text.trim text.toList) (read : parse text = .ok signature) :
    Chorded (pieces (Text.trim text.toList)) signature := by
  rwa [parse_eq_parseChord (full_of_parse read) unmarked, parseChord_ok_iff] at read

/-- The hint of a hotkey that names a key is read as that hotkey again, unless the key is `Menu`, which is
shown as `Alt`: its hint names modifiers only. -/
theorem hint_reads_back_iff {text : String} {signature : Signature}
    (unmarked : ¬ marker <+: Text.trim text.toList) (read : parse text = .ok signature) :
    (parse signature.hint = .ok signature ↔ signature.key? ≠ some 0x12) ∧
    (signature.key? = some 0x12 → parse signature.hint = .error (.missingKey signature.hint)) ∧
    ∀ tokens, Spelled (Text.trim text.toList) tokens →
      (signature.key? = some 0x12 ↔
        ∃ last, (keyTokens tokens).getLast? = some last ∧ Spells "Menu" last) := by
  cases chorded_of_parse unmarked read with
  | @intro last code held known key names holds =>
    have solid : ¬ IsWord last := (mem_keyTokens.mp (List.mem_of_getLast? key)).2
    obtain ⟨name, named, word, menu⟩ := shown_name names solid
    simp only [Signature.key?_keyOnly, ne_eq, Option.some.injEq]
    refine ⟨⟨fun again alt => ?_, fun other => ?_⟩, fun alt => ?_, fun tokens spelled => ?_⟩
    · rw [parse_hint_of_isWord named (word.mpr alt)] at again
      cases again
    · exact parse_hint_of_not_isWord named holds.unnamed (mt word.mp other)
    · exact parse_hint_of_isWord named (word.mpr alt)
    · obtain rfl := spelled_iff.mp spelled
      simp [key, menu]

theorem hint_reads_back_of_alias :
    parse "win + AudioVolumeUp" = .ok (.keyOnly 0xAF .win) ∧
      (Signature.keyOnly 0xAF .win).hint = "Win+VolumeUp" ∧
      parse (Signature.keyOnly 0xAF .win).hint = .ok (.keyOnly 0xAF .win) := by
  have read : parse "win + AudioVolumeUp" = .ok (.keyOnly 0xAF .win) := by decide +kernel
  exact ⟨read, by decide +kernel,
    (hint_reads_back_iff (by decide +kernel) read).1.mpr (by decide +kernel)⟩

/-- The hint of `Ctrl+Menu` is `Ctrl+Alt`. -/
theorem hint_names_no_key :
    ¬ ∀ (text : String) (signature : Signature), ¬ marker <+: Text.trim text.toList →
      parse text = .ok signature → parse signature.hint = .ok signature := by
  intro reads
  have read : parse "Ctrl+Menu" = .ok (.keyOnly 0x12 .ctrl) := by decide +kernel
  have refused : parse (Signature.keyOnly 0x12 .ctrl).hint = .error (.missingKey "Ctrl+Alt") := by
    decide +kernel
  have again := reads "Ctrl+Menu" _ (by decide +kernel) read
  rw [refused] at again
  cases again

end Hotkey

end PasteQueue
