import Mathlib.Data.List.Induction
import PasteQueue.Hotkey
import PasteQueue.Proofs.Text

/-!
The grammar of the hotkeys that people write: tokens between plus signs, each of them a word for a
modifier or the name of a key. Blanks around tokens and empty tokens are no part of it.
-/

namespace PasteQueue

/-! ### Words and names -/

namespace Key

/-- A token is the name but for ASCII case. -/
def Spells (name : String) (token : List Char) : Prop := fold name.toList = fold token

instance (name : String) (token : List Char) : Decidable (Spells name token) :=
  inferInstanceAs (Decidable (_ = _))

def NamesFlag (token : List Char) (flag : Modifiers) : Prop :=
  ∃ entry ∈ Modifiers.words, entry.1 = flag ∧ Spells entry.2 token

def NamesKey (token : List Char) (code : Code) : Prop :=
  ∃ entry ∈ names ++ aliases, entry.1 = code ∧ Spells entry.2 token

def IsWord (token : List Char) : Prop := ∃ entry ∈ Modifiers.words, Spells entry.2 token

def IsName (token : List Char) : Prop := ∃ entry ∈ names ++ aliases, Spells entry.2 token

def IsKnown (token : List Char) : Prop := IsWord token ∨ IsName token

instance (token : List Char) (flag : Modifiers) : Decidable (NamesFlag token flag) :=
  List.decidableBEx ..

instance (token : List Char) (code : Code) : Decidable (NamesKey token code) :=
  List.decidableBEx ..

instance : DecidablePred IsWord := fun _ => List.decidableBEx ..

instance : DecidablePred IsName := fun _ => List.decidableBEx ..

instance : DecidablePred IsKnown := fun _ => instDecidableOr

variable {token : List Char}

theorem isWord_iff : IsWord token ↔ ∃ flag, NamesFlag token flag := by
  constructor
  · rintro ⟨entry, member, spelled⟩
    exact ⟨entry.1, entry, member, rfl, spelled⟩
  · rintro ⟨flag, entry, member, -, spelled⟩
    exact ⟨entry, member, spelled⟩

theorem isName_iff : IsName token ↔ ∃ code, NamesKey token code := by
  constructor
  · rintro ⟨entry, member, spelled⟩
    exact ⟨entry.1, entry, member, rfl, spelled⟩
  · rintro ⟨code, entry, member, -, spelled⟩
    exact ⟨entry, member, spelled⟩

theorem isWord_congr {other : List Char} (same : fold token = fold other) :
    IsWord token ↔ IsWord other := by
  simp only [IsWord, Spells, same]

theorem isKnown_congr {other : List Char} (same : fold token = fold other) :
    IsKnown token ↔ IsKnown other := by
  simp only [IsKnown, IsWord, IsName, Spells, same]

theorem namesKey_congr {other : List Char} {code : Code} (same : fold token = fold other) :
    NamesKey token code ↔ NamesKey other code := by
  simp only [NamesKey, Spells, same]

theorem ofWord?_words : ∀ entry ∈ Modifiers.words, Modifiers.ofWord? entry.2.toList = some entry.1 := by
  decide +kernel

theorem ofName?_entry {entry : Code × String} (member : entry ∈ names ++ aliases) :
    ofName? entry.2.toList = some entry.1 :=
  (List.mem_append.mp member).elim (ofName?_names entry) fun other => (ofName?_aliases entry other).1

theorem find?_spells {Value : Type} {table : List (Value × String)} {value : Value}
    (found : (table.find? fun entry => fold entry.2.toList == fold token).map Prod.fst = some value) :
    ∃ entry ∈ table, entry.1 = value ∧ Spells entry.2 token := by
  obtain ⟨entry, first, rfl⟩ := Option.map_eq_some_iff.mp found
  have spelled := List.find?_some first
  exact ⟨entry, List.mem_of_find?_eq_some first, rfl, eq_of_beq spelled⟩

/-- No word stands for two modifiers. -/
theorem ofWord?_eq_some_iff {flag : Modifiers} :
    Modifiers.ofWord? token = some flag ↔ NamesFlag token flag := by
  constructor
  · exact find?_spells
  · rintro ⟨entry, member, rfl, spelled⟩
    have read := ofWord?_words entry member
    rwa [Modifiers.ofWord?, spelled] at read

/-- No name stands for two keys. -/
theorem ofName?_eq_some_iff {code : Code} : ofName? token = some code ↔ NamesKey token code := by
  constructor
  · intro read
    refine find?_spells ?_
    rwa [List.find?_append, Option.map_or]
  · rintro ⟨entry, member, rfl, spelled⟩
    have read := ofName?_entry member
    rwa [ofName?, findName?, findName?, spelled] at read

end Key

namespace Hotkey

open Key

/-! ### Tokens -/

/-- A token with the blanks around it. -/
structure Part where
  before : List Char
  token : List Char
  after : List Char
  leading : Text.Blank before
  trailing : Text.Blank after
  trimmed : Text.Trimmed token
  plain : '+' ∉ token

def Part.text (part : Part) : List Char := part.before ++ part.token ++ part.after

/-- The text is made of parts with plus signs between them, and these are the tokens that are there. -/
def Spelled (text : List Char) (tokens : List (List Char)) : Prop :=
  ∃ parts : List Part, text = ['+'].intercalate (parts.map Part.text) ∧
    tokens = (parts.map Part.token).filter (!·.isEmpty)

theorem Part.trim_text (part : Part) : Text.trim part.text = part.token :=
  Text.trim_padded part.leading part.trimmed part.trailing

theorem Part.plain_text (part : Part) : '+' ∉ part.text := by
  have solid : Text.isBlank '+' = false := rfl
  intro member
  rcases List.mem_append.mp member with member | member
  · rcases List.mem_append.mp member with member | member
    · exact absurd (part.leading _ member) (by simp [solid])
    · exact part.plain member
  · exact absurd (part.trailing _ member) (by simp [solid])

theorem plain_of_mem_splitOn {text part : List Char} (member : part ∈ text.splitOn '+') :
    '+' ∉ part := by
  induction text generalizing part with
  | nil =>
    rw [List.splitOn_nil, List.mem_singleton] at member
    simp [member]
  | cons c rest follows =>
    rw [List.splitOn_cons_eq_if_modifyHead] at member
    split at member
    · rcases List.mem_cons.mp member with rfl | member
      · exact List.not_mem_nil
      · exact follows member
    · rename_i other
      obtain ⟨first, others, split⟩ := List.exists_cons_of_ne_nil (List.splitOn_ne_nil '+' rest)
      rw [split] at member follows
      rcases List.mem_cons.mp member with rfl | member
      · have plain := follows List.mem_cons_self
        simp only [beq_iff_eq] at other
        simp [plain, Ne.symm other]
      · exact follows (List.mem_cons_of_mem _ member)

theorem exists_parts (texts : List (List Char)) (plain : ∀ text ∈ texts, '+' ∉ text) :
    ∃ parts : List Part, parts.map Part.text = texts ∧
      parts.map Part.token = texts.map Text.trim := by
  induction texts with
  | nil => exact ⟨[], rfl, rfl⟩
  | cons text texts follows =>
    obtain ⟨parts, same, tokens⟩ := follows fun other member => plain other (.tail _ member)
    obtain ⟨before, after, leading, trimmed, trailing, whole⟩ := Text.trim_split text
    have inside : '+' ∉ Text.trim text := fun member =>
      plain text (.head _) (whole ▸ List.mem_append_left _ (List.mem_append_right _ member))
    let part : Part := ⟨before, Text.trim text, after, leading, trailing, trimmed, inside⟩
    have first : part.text = text := whole.symm
    exact ⟨part :: parts, by rw [List.map_cons, first, same], by rw [List.map_cons, tokens]; rfl⟩

/-- Every text has its tokens, and no others. -/
theorem spelled_iff {text : List Char} {tokens : List (List Char)} :
    Spelled text tokens ↔ tokens = pieces text := by
  constructor
  · rintro ⟨parts, rfl, rfl⟩
    by_cases empty : parts = []
    · subst empty
      rfl
    · have plain : ∀ text ∈ parts.map Part.text, '+' ∉ text := by
        intro text member
        obtain ⟨part, -, rfl⟩ := List.mem_map.mp member
        exact part.plain_text
      rw [pieces, List.splitOn_intercalate '+' plain (by simpa using empty), List.map_map]
      congr 1
      exact List.map_congr_left fun part _ => part.trim_text.symm
  · rintro rfl
    obtain ⟨parts, same, tokens⟩ := exists_parts (text.splitOn '+') fun _ => plain_of_mem_splitOn
    exact ⟨parts, by rw [same, List.intercalate_splitOn], by rw [tokens, pieces]⟩

/-! ### From tokens to a chord -/

/-- The tokens that are no words for modifiers. -/
def keyTokens (tokens : List (List Char)) : List (List Char) :=
  tokens.filter fun token => ¬ IsWord token

def Chord.ofTokens (tokens : List (List Char)) : Chord :=
  (tokens.filterMap Piece.ofText?).foldl .add {}

section Pieces

variable {token : List Char}

theorem Piece.ofText?_word {flag : Modifiers} (named : NamesFlag token flag) :
    ofText? token = some (.modifier flag) := by
  rw [ofText?, ofWord?_eq_some_iff.mpr named]

theorem ofWord?_of_not_isWord (other : ¬ IsWord token) : Modifiers.ofWord? token = none := by
  rw [Option.eq_none_iff_forall_ne_some]
  intro flag read
  exact other (isWord_iff.mpr ⟨flag, ofWord?_eq_some_iff.mp read⟩)

theorem Piece.ofText?_key (other : ¬ IsWord token) :
    ofText? token = (ofName? token).map .key := by
  rw [ofText?, ofWord?_of_not_isWord other]

theorem Piece.ofText?_eq_none_iff : ofText? token = none ↔ ¬ IsKnown token := by
  by_cases word : IsWord token
  · obtain ⟨flag, named⟩ := isWord_iff.mp word
    simp [ofText?_word named, IsKnown, word]
  · rw [ofText?_key word, Option.map_eq_none_iff, Option.eq_none_iff_forall_ne_some]
    simp only [ne_eq, ofName?_eq_some_iff, IsKnown, word, false_or, isName_iff, not_exists]

end Pieces

theorem readPieces_eq (chord : Chord) (tokens : List (List Char)) :
    readPieces chord tokens =
      match tokens.find? fun token => ¬ IsKnown token with
      | some bad => .error (.unknownKey (String.ofList bad))
      | none => .ok ((tokens.filterMap Piece.ofText?).foldl .add chord) := by
  induction tokens generalizing chord with
  | nil => rfl
  | cons token rest follows =>
    rw [readPieces]
    cases read : Piece.ofText? token with
    | none =>
      have unknown := Piece.ofText?_eq_none_iff.mp read
      rw [List.find?_cons_of_pos (by simpa using unknown)]
    | some piece =>
      have known : IsKnown token := by
        by_contra unknown
        rw [Piece.ofText?_eq_none_iff.mpr unknown] at read
        cases read
      rw [List.find?_cons_of_neg (by simpa using known), List.filterMap_cons_some read,
        List.foldl_cons]
      exact follows (chord.add piece)

theorem Chord.ofTokens_concat (tokens : List (List Char)) (token : List Char) :
    ofTokens (tokens ++ [token]) =
      (Piece.ofText? token).elim (ofTokens tokens) (ofTokens tokens).add := by
  rw [ofTokens, List.filterMap_append, List.foldl_append]
  cases read : Piece.ofText? token with
  | none => rw [List.filterMap_cons_none read]; rfl
  | some piece => rw [List.filterMap_cons_some read]; rfl

/-- The last key counts. -/
theorem Chord.key_ofTokens {tokens : List (List Char)} (known : ∀ token ∈ tokens, IsKnown token) :
    (ofTokens tokens).key = (keyTokens tokens).getLast?.bind ofName? := by
  induction tokens using List.reverseRecOn with
  | nil => rfl
  | append_singleton tokens token follows =>
    have earlier := follows fun other member => known other (List.mem_append_left _ member)
    rw [ofTokens_concat]
    by_cases word : IsWord token
    · obtain ⟨flag, named⟩ := isWord_iff.mp word
      have kept : keyTokens (tokens ++ [token]) = keyTokens tokens := by simp [keyTokens, word]
      rw [Piece.ofText?_word named, kept]
      exact earlier
    · obtain ⟨code, named⟩ := isName_iff.mp ((known token (by simp)).resolve_left word)
      have read := ofName?_eq_some_iff.mpr named
      have last : keyTokens (tokens ++ [token]) = keyTokens tokens ++ [token] := by
        simp [keyTokens, word]
      rw [Piece.ofText?_key word, last, List.getLast?_concat, Option.bind_some, read]
      rfl

/-! ### Modifiers -/

/-- The flags of the set are those that some token names. -/
structure Holds (tokens : List (List Char)) (held : Modifiers) : Prop where
  named : ∀ entry ∈ Modifiers.named,
    held.contains entry.1 = true ↔ ∃ token ∈ tokens, NamesFlag token entry.1
  unnamed : held.bits < 16

theorem contains_union_fin : ∀ bits : Fin 256, ∀ word ∈ Modifiers.words,
    ∀ entry ∈ Modifiers.named,
      (Modifiers.mk (.ofNat bits) ∪ word.1).contains entry.1 =
        ((Modifiers.mk (.ofNat bits)).contains entry.1 || decide (word.1 = entry.1)) := by
  decide +kernel

theorem contains_union (held : Modifiers) {word entry : Modifiers × String}
    (known : word ∈ Modifiers.words) (member : entry ∈ Modifiers.named) :
    (held ∪ word.1).contains entry.1 = true ↔
      held.contains entry.1 = true ∨ word.1 = entry.1 := by
  have same := contains_union_fin ⟨held.bits.toNat, held.bits.toNat_lt⟩ word known entry member
  simp only [UInt8.ofNat_toNat] at same
  rw [same, Bool.or_eq_true, decide_eq_true_eq]

theorem union_bits_lt_fin : ∀ bits : Fin 16, ∀ word ∈ Modifiers.words,
    (Modifiers.mk (.ofNat bits) ∪ word.1).bits < 16 := by
  decide +kernel

theorem union_bits_lt {held : Modifiers} (small : held.bits < 16) {word : Modifiers × String}
    (known : word ∈ Modifiers.words) : (held ∪ word.1).bits < 16 := by
  have fits : held.bits.toNat < 16 := UInt8.lt_iff_toNat_lt.mp small
  simpa using union_bits_lt_fin ⟨held.bits.toNat, fits⟩ word known

theorem modifiers_eq_fin : ∀ first second : Fin 16,
    (∀ entry ∈ Modifiers.named, (Modifiers.mk (.ofNat first)).contains entry.1 =
      (Modifiers.mk (.ofNat second)).contains entry.1) → first = second := by
  decide +kernel

theorem Holds.unique {tokens : List (List Char)} {first second : Modifiers}
    (here : Holds tokens first) (there : Holds tokens second) : first = second := by
  have same := modifiers_eq_fin ⟨first.bits.toNat, UInt8.lt_iff_toNat_lt.mp here.unnamed⟩
    ⟨second.bits.toNat, UInt8.lt_iff_toNat_lt.mp there.unnamed⟩ fun entry member => by
      simp only [UInt8.ofNat_toNat]
      exact Bool.eq_iff_iff.mpr ((here.named entry member).trans (there.named entry member).symm)
  have bits := UInt8.toNat_inj.mp (Fin.mk.inj same)
  cases first
  cases second
  exact congrArg Modifiers.mk bits

theorem Chord.holds_ofTokens (tokens : List (List Char)) :
    Holds tokens (ofTokens tokens).modifiers := by
  induction tokens using List.reverseRecOn with
  | nil =>
    refine ⟨fun entry member => ?_, by decide⟩
    have nothing : ∀ entry ∈ Modifiers.named, Modifiers.none.contains entry.1 = false := by decide
    simp only [List.not_mem_nil, false_and, exists_false, iff_false, Bool.not_eq_true]
    exact nothing entry member
  | append_singleton tokens token follows =>
    rw [ofTokens_concat]
    by_cases word : IsWord token
    · obtain ⟨entry, known, spelled⟩ := word
      have names : NamesFlag token entry.1 := ⟨entry, known, rfl, spelled⟩
      rw [Piece.ofText?_word names]
      refine ⟨fun flag member => ?_, union_bits_lt follows.unnamed known⟩
      have alone : entry.1 = flag.1 ↔ NamesFlag token flag.1 := by
        rw [← ofWord?_eq_some_iff, ofWord?_eq_some_iff.mpr names, Option.some.injEq]
      have earlier := follows.named flag member
      rw [Option.elim_some, add, contains_union _ known member, earlier, alone]
      simp [or_and_right, exists_or]
    · have same : ((Piece.ofText? token).elim (ofTokens tokens) (ofTokens tokens).add).modifiers =
          (ofTokens tokens).modifiers := by
        rw [Piece.ofText?_key word]
        cases ofName? token <;> rfl
      rw [same]
      refine ⟨fun flag member => ?_, follows.unnamed⟩
      have none : ¬ NamesFlag token flag.1 := fun names => word (isWord_iff.mpr ⟨_, names⟩)
      rw [follows.named flag member]
      simp [or_and_right, exists_or, none]

/-! ### The grammar -/

/-- What the tokens name together. -/
inductive Chorded (tokens : List (List Char)) : Signature → Prop
  | intro {last : List Char} {code : Code} {held : Modifiers}
      (known : ∀ token ∈ tokens, IsKnown token)
      (key : (keyTokens tokens).getLast? = some last) (names : NamesKey last code)
      (holds : Holds tokens held) : Chorded tokens (.keyOnly code held)

/-- Why the tokens of the text name nothing. -/
inductive Refused (text : List Char) (tokens : List (List Char)) : ReadError → Prop
  | unknown {before after : List (List Char)} {bad : List Char}
      (split : tokens = before ++ bad :: after) (earlier : ∀ token ∈ before, IsKnown token)
      (unknown : ¬ IsKnown bad) : Refused text tokens (.unknownKey (String.ofList bad))
  | missing (words : ∀ token ∈ tokens, IsWord token) :
      Refused text tokens (.missingKey (String.ofList text))

variable {text : List Char} {tokens : List (List Char)}

theorem keyTokens_eq_nil_iff : keyTokens tokens = [] ↔ ∀ token ∈ tokens, IsWord token := by
  simp [keyTokens]

theorem first_unknown_iff {bad : List Char} :
    (tokens.find? fun token => ¬ IsKnown token) = some bad ↔
      ¬ IsKnown bad ∧ ∃ before after, tokens = before ++ bad :: after ∧
        ∀ token ∈ before, IsKnown token := by
  rw [List.find?_eq_some_iff_append]
  simp

theorem Chorded.unique {first second : Signature} (here : Chorded tokens first)
    (there : Chorded tokens second) : first = second := by
  obtain ⟨-, key, names, holds⟩ := here
  obtain ⟨-, again, namesAgain, holdsAgain⟩ := there
  obtain rfl := Option.some.inj (key.symm.trans again)
  obtain rfl := Option.some.inj
    ((ofName?_eq_some_iff.mpr names).symm.trans (ofName?_eq_some_iff.mpr namesAgain))
  rw [holds.unique holdsAgain]

theorem Refused.unique {first second : ReadError} (here : Refused text tokens first)
    (there : Refused text tokens second) : first = second := by
  cases here with
  | unknown split earlier unknown =>
    have found := first_unknown_iff.mpr ⟨unknown, _, _, split, earlier⟩
    cases there with
    | unknown split earlier unknown =>
      have again := first_unknown_iff.mpr ⟨unknown, _, _, split, earlier⟩
      rw [Option.some.inj (found.symm.trans again)]
    | missing words => exact absurd (.inl (words _ (by simp [split]))) unknown
  | missing words =>
    cases there with
    | unknown split earlier unknown => exact absurd (.inl (words _ (by simp [split]))) unknown
    | missing => rfl

theorem Chorded.not_refused {signature : Signature} {fault : ReadError}
    (chorded : Chorded tokens signature) : ¬ Refused text tokens fault := by
  obtain ⟨known, key, -, -⟩ := chorded
  intro refused
  cases refused with
  | unknown split earlier unknown => exact unknown (known _ (by simp [split]))
  | missing words =>
    rw [keyTokens_eq_nil_iff.mpr words] at key
    cases key

theorem parseChord_of_unknown {bad : List Char}
    (found : ((pieces text).find? fun token => ¬ IsKnown token) = some bad) :
    parseChord text = .error (.unknownKey (String.ofList bad)) := by
  rw [parseChord, readPieces_eq, found]

theorem parseChord_of_known (known : ∀ token ∈ pieces text, IsKnown token) :
    parseChord text =
      match (keyTokens (pieces text)).getLast?.bind ofName? with
      | some code => .ok (.keyOnly code (Chord.ofTokens (pieces text)).modifiers)
      | none => .error (.missingKey (String.ofList text)) := by
  have none : ((pieces text).find? fun token => ¬ IsKnown token) = none := by simpa using known
  rw [parseChord, readPieces_eq, none, ← Chord.key_ofTokens known]
  rfl

/-- What becomes of a text is told by its tokens. -/
theorem parseChord_outcome (text : List Char) :
    (∃ signature, parseChord text = .ok signature ∧ Chorded (pieces text) signature) ∨
      ∃ fault, parseChord text = .error fault ∧ Refused text (pieces text) fault := by
  cases found : (pieces text).find? fun token => ¬ IsKnown token with
  | some bad =>
    obtain ⟨unknown, before, after, split, earlier⟩ := first_unknown_iff.mp found
    exact .inr ⟨_, parseChord_of_unknown found, .unknown split earlier unknown⟩
  | none =>
    have known : ∀ token ∈ pieces text, IsKnown token := by simpa using found
    have read := parseChord_of_known known
    cases key : (keyTokens (pieces text)).getLast? with
    | none =>
      rw [key] at read
      exact .inr ⟨_, read, .missing (keyTokens_eq_nil_iff.mp (List.getLast?_eq_none_iff.mp key))⟩
    | some last =>
      obtain ⟨inside, other⟩ := List.mem_filter.mp (List.mem_of_getLast? key)
      obtain ⟨code, names⟩ := isName_iff.mp ((known last inside).resolve_left (by simpa using other))
      rw [key, Option.bind_some, ofName?_eq_some_iff.mpr names] at read
      exact .inl ⟨_, read, .intro known key names (Chord.holds_ofTokens _)⟩

theorem parseChord_ok_iff {signature : Signature} :
    parseChord text = .ok signature ↔ Chorded (pieces text) signature := by
  rcases parseChord_outcome text with ⟨found, read, chorded⟩ | ⟨fault, read, refused⟩
  · rw [read, Except.ok.injEq]
    constructor
    · rintro rfl
      exact chorded
    · exact chorded.unique
  · simp only [read, reduceCtorEq, false_iff]
    exact fun chorded => chorded.not_refused refused

theorem parseChord_error_iff {fault : ReadError} :
    parseChord text = .error fault ↔ Refused text (pieces text) fault := by
  rcases parseChord_outcome text with ⟨signature, read, chorded⟩ | ⟨found, read, refused⟩
  · simp only [read, reduceCtorEq, false_iff]
    exact chorded.not_refused
  · rw [read, Except.error.injEq]
    constructor
    · rintro rfl
      exact refused
    · exact refused.unique

/-! ### Texts that say the same -/

/-- Case aside, the same keys in the same order, and words for the same modifiers. -/
structure Alike (first second : List (List Char)) : Prop where
  keys : (keyTokens first).map fold = (keyTokens second).map fold
  flags : ∀ entry ∈ Modifiers.named,
    (∃ token ∈ first, NamesFlag token entry.1) ↔ ∃ token ∈ second, NamesFlag token entry.1

/-- The same outcome, but for the text that an error quotes. -/
inductive Corresponds : Except ReadError Signature → Except ReadError Signature → Prop
  | ok (signature : Signature) : Corresponds (.ok signature) (.ok signature)
  | unknown {bad other : List Char} (same : fold bad = fold other) :
      Corresponds (.error (.unknownKey (String.ofList bad)))
        (.error (.unknownKey (String.ofList other)))
  | missing (text other : String) :
      Corresponds (.error (.missingKey text)) (.error (.missingKey other))

variable {others : List (List Char)}

theorem mem_keyTokens {token : List Char} :
    token ∈ keyTokens tokens ↔ token ∈ tokens ∧ ¬ IsWord token := by
  simp [keyTokens]

theorem known_iff_keyTokens :
    (∀ token ∈ tokens, IsKnown token) ↔ ∀ token ∈ keyTokens tokens, IsKnown token := by
  constructor
  · exact fun known token member => known token (mem_keyTokens.mp member).1
  · intro known token member
    by_cases word : IsWord token
    · exact .inl word
    · exact known token (mem_keyTokens.mpr ⟨member, word⟩)

theorem find?_congr_fold {keys again : List (List Char)} (same : keys.map fold = again.map fold) :
    (keys.find? fun token => ¬ IsKnown token).map fold =
      (again.find? fun token => ¬ IsKnown token).map fold := by
  induction keys generalizing again with
  | nil =>
    rw [List.map_eq_nil_iff.mp same.symm]
  | cons key keys follows =>
    obtain ⟨other, again, rfl⟩ := List.exists_cons_of_ne_nil (l := again) (by rintro rfl; cases same)
    obtain ⟨first, rest⟩ := List.cons.inj same
    by_cases known : IsKnown key
    · have knownAgain := (isKnown_congr first).mp known
      simpa [known, knownAgain] using follows rest
    · have unknownAgain := mt (isKnown_congr first).mpr known
      simp [known, unknownAgain, first]

theorem Alike.chorded (alike : Alike tokens others) {signature : Signature}
    (chorded : Chorded tokens signature) : Chorded others signature := by
  obtain ⟨known, key, names, holds⟩ := chorded
  have last := congrArg List.getLast? alike.keys
  rw [List.getLast?_map, List.getLast?_map, key] at last
  obtain ⟨other, keyAgain, same⟩ := Option.map_eq_some_iff.mp last.symm
  refine .intro ?_ keyAgain ((namesKey_congr same).mpr names) ⟨fun entry member => ?_, holds.unnamed⟩
  · rw [known_iff_keyTokens] at known ⊢
    intro token member
    have inside := List.mem_map_of_mem (f := fold) member
    rw [← alike.keys] at inside
    obtain ⟨twin, there, spelled⟩ := List.mem_map.mp inside
    exact (isKnown_congr spelled).mp (known twin there)
  · exact (holds.named entry member).trans (alike.flags entry member)

theorem find?_keyTokens (tokens : List (List Char)) :
    (keyTokens tokens).find? (fun token => ¬ IsKnown token) =
      tokens.find? fun token => ¬ IsKnown token := by
  rw [keyTokens, List.find?_filter]
  congr 1
  funext token
  by_cases word : IsWord token <;> simp [word, IsKnown]

theorem Alike.refused (alike : Alike tokens others) {fault : ReadError}
    (refused : Refused text tokens fault) (otherText : List Char) :
    ∃ other, Refused otherText others other ∧ Corresponds (.error fault) (.error other) := by
  cases refused with
  | unknown split earlier unknown =>
    have found := first_unknown_iff.mpr ⟨unknown, _, _, split, earlier⟩
    have same := find?_congr_fold alike.keys
    rw [find?_keyTokens, find?_keyTokens, found] at same
    obtain ⟨other, again, spelled⟩ := Option.map_eq_some_iff.mp same.symm
    obtain ⟨unknown, before, after, split, earlier⟩ := first_unknown_iff.mp again
    exact ⟨_, .unknown split earlier unknown, .unknown spelled.symm⟩
  | missing words =>
    have keys := alike.keys
    rw [keyTokens_eq_nil_iff.mpr words] at keys
    have none : keyTokens others = [] := List.map_eq_nil_iff.mp keys.symm
    exact ⟨_, .missing (keyTokens_eq_nil_iff.mp none), .missing ..⟩

theorem parse_eq_parseChord {text : String} (full : Text.trim text.toList ≠ [])
    (unmarked : ¬ marker <+: Text.trim text.toList) :
    parse text = parseChord (Text.trim text.toList) := by
  rw [parse, parseChars, if_neg (by simpa using full),
    if_neg (by simpa [List.isPrefixOf_iff_prefix] using unmarked)]

theorem Chorded.exists_iff :
    (∃ signature, Chorded tokens signature) ↔
      (∀ token ∈ tokens, IsKnown token) ∧ ∃ token ∈ tokens, IsName token ∧ ¬ IsWord token := by
  constructor
  · rintro ⟨signature, known, key, -, -⟩
    obtain ⟨member, other⟩ := mem_keyTokens.mp (List.mem_of_getLast? key)
    exact ⟨known, _, member, (known _ member).resolve_left other, other⟩
  · rintro ⟨known, token, member, -, other⟩
    have some : keyTokens tokens ≠ [] := List.ne_nil_of_mem (mem_keyTokens.mpr ⟨member, other⟩)
    have key := List.getLast?_eq_some_getLast some
    obtain ⟨inside, solid⟩ := mem_keyTokens.mp (List.getLast_mem some)
    obtain ⟨code, names⟩ := isName_iff.mp ((known _ inside).resolve_left solid)
    exact ⟨_, known, key, names, Chord.holds_ofTokens tokens⟩

/-- A text that is not empty and no stored signature has its tokens: what is left, without blanks, of
its parts between plus signs. It is read if each of them is a word for a modifier or the name of a
key, and one of them no word for a modifier; it then stands for the last such key with all modifiers
that are named. Otherwise the first token that is neither is the error, and where there is none, that
no key is named. So another text with the same keys and the same modifiers is read alike, whatever the
case, the blanks, the empty parts, and the places and the number of the words for modifiers. -/
theorem chord_grammar (text : String) (full : Text.trim text.toList ≠ [])
    (unmarked : ¬ marker <+: Text.trim text.toList) :
    ∃ tokens, (∀ others, Spelled (Text.trim text.toList) others ↔ others = tokens) ∧
      ((∃ signature, parse text = .ok signature) ↔
        (∀ token ∈ tokens, IsKnown token) ∧ ∃ token ∈ tokens, IsName token ∧ ¬ IsWord token) ∧
      (∀ signature, parse text = .ok signature ↔ Chorded tokens signature) ∧
      (∀ fault, parse text = .error fault ↔ Refused (Text.trim text.toList) tokens fault) ∧
      ∀ other : String, Text.trim other.toList ≠ [] → ¬ marker <+: Text.trim other.toList →
        ∀ others, Spelled (Text.trim other.toList) others → Alike tokens others →
          Corresponds (parse text) (parse other) := by
  rw [parse_eq_parseChord full unmarked]
  refine ⟨pieces (Text.trim text.toList), fun others => spelled_iff, ?_,
    fun signature => parseChord_ok_iff, fun fault => parseChord_error_iff, ?_⟩
  · simp only [parseChord_ok_iff, Chorded.exists_iff]
  · intro other fullOther unmarkedOther others spelled alike
    obtain rfl := spelled_iff.mp spelled
    rw [parse_eq_parseChord fullOther unmarkedOther]
    rcases parseChord_outcome (Text.trim text.toList) with
      ⟨signature, read, chorded⟩ | ⟨fault, read, refused⟩
    · rw [read, parseChord_ok_iff.mpr (alike.chorded chorded)]
      exact .ok signature
    · obtain ⟨again, refusedAgain, same⟩ := alike.refused refused (Text.trim other.toList)
      rw [read, parseChord_error_iff.mpr refusedAgain]
      exact same

/-- Two keys, of which the second counts, among blanks, an empty part and modifiers in disorder. -/
theorem chord_grammar_disordered :
    parse "\tshift + +MENU+ f5+Control" = .ok (.keyOnly 0x74 ⟨5⟩) ∧
      parse "Ctrl+Shift+Shift+Menu+F5" = .ok (.keyOnly 0x74 ⟨5⟩) := by
  have spelled : Spelled (Text.trim "\tshift + +MENU+ f5+Control".toList)
      ["shift".toList, "MENU".toList, "f5".toList, "Control".toList] :=
    spelled_iff.mpr (by decide +kernel)
  have spelledAgain : Spelled (Text.trim "Ctrl+Shift+Shift+Menu+F5".toList)
      ["Ctrl".toList, "Shift".toList, "Shift".toList, "Menu".toList, "F5".toList] :=
    spelled_iff.mpr (by decide +kernel)
  have names : NamesKey "f5".toList 0x74 := by decide +kernel
  have holds : Holds ["shift".toList, "MENU".toList, "f5".toList, "Control".toList] ⟨5⟩ :=
    ⟨by decide +kernel, by decide⟩
  obtain ⟨tokens, only, -, ok, -, same⟩ :=
    chord_grammar "\tshift + +MENU+ f5+Control" (by decide +kernel) (by decide +kernel)
  obtain rfl := (only _).mp spelled
  have read := (ok _).mpr (.intro (by decide +kernel) (by decide +kernel) names holds)
  have again := same _ (by decide +kernel) (by decide +kernel) _ spelledAgain
    ⟨by decide +kernel, by decide +kernel⟩
  rw [read] at again
  generalize parse "Ctrl+Shift+Shift+Menu+F5" = outcome at again
  cases again
  exact ⟨read, rfl⟩

end Hotkey

end PasteQueue
