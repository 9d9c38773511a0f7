import PasteQueue.Proofs.Config.Validation
import PasteQueue.Proofs.Hotkey.Hints
import PasteQueue.Proofs.Hotkey.Presses
import PasteQueue.Proofs.Session.Assignment

/-!
Which events start the action of a hotkey that people write. A press is reduced to its key, and a hotkey
that names a key names nothing more; so the presses of that key with its modifiers find the action. A
modifier key passes before anything is looked up.
-/

namespace PasteQueue

theorem Bindings.install_knowsOnly {bindings : Bindings} {binding : Binding} {signature : Signature}
    (only : bindings.all = [binding]) (read : Hotkey.parse binding.hotkey = .ok signature)
    (registry : Registry Action) :
    (bindings.install registry).KnowsOnly signature binding.action := by
  intro asked
  have reads : binding.reads asked = true ↔ asked = signature := by
    rw [Binding.reads_iff, read, Except.ok.injEq, eq_comm]
  rw [install_action?, only, List.find?_singleton]
  by_cases same : asked = signature
  · rw [if_pos (reads.mpr same), if_pos same, Option.map_some]
  · rw [if_neg (mt reads.mp same), if_neg same, Option.map_none]

namespace Session

/-- The event is swallowed, and a strand for the action begins. -/
structure Fires (session : Session) (event : Input.Event) (action : Action) : Prop where
  matched : Dispatch.handle session.registry session.capture event.signature =
    (.matched action, session.capture)
  consumed : (session.inject event).1 = true
  started : (session.inject event).2.strands = (session.nextStrand, .action action) ::
    session.strands.filter fun strand => strand.1 != session.nextStrand

/-- The event goes on to the rest of the system, and no strand begins. -/
structure Ignores (session : Session) (event : Input.Event) : Prop where
  passed : Dispatch.handle session.registry session.capture event.signature =
    (.passed, session.capture)
  unconsumed : (session.inject event).1 = false
  unstarted : (session.inject event).2.strands = session.strands

variable {session : Session} {event : Input.Event} {action : Action}

theorem fires_of_matched (running : session.running = true)
    (matched : Dispatch.handle session.registry session.capture event.signature =
      (.matched action, session.capture)) : session.Fires event action := by
  obtain ⟨consumed, strands⟩ := session.inject_strands running event
  rw [matched] at consumed strands
  exact ⟨matched, consumed, strands⟩

theorem ignores_of_passed (running : session.running = true)
    (passed : Dispatch.handle session.registry session.capture event.signature =
      (.passed, session.capture)) : session.Ignores event := by
  obtain ⟨consumed, strands⟩ := session.inject_strands running event
  rw [passed] at consumed strands
  exact ⟨passed, consumed, strands⟩

theorem Ignores.not_fires (ignores : session.Ignores event) : ¬ session.Fires event action := by
  intro fires
  have verdict := congrArg Prod.fst (ignores.passed.symm.trans fires.matched)
  cases verdict

section Only

variable {code : Key.Code} {held : Key.Modifiers}

theorem ignores_unpressed (running : session.running = true)
    (idle : session.capture.capturing = false)
    (knows : session.registry.KnowsOnly (.keyOnly code held) action)
    (other : Key.isModifier code = true ∨ ¬ event.Presses code held) : session.Ignores event :=
  ignores_of_passed running
    (Dispatch.handle_miss knows idle (other.imp_right (mt Input.Event.hits_iff.mp)))

theorem fires_iff (running : session.running = true) (idle : session.capture.capturing = false)
    (knows : session.registry.KnowsOnly (.keyOnly code held) action)
    (solid : Key.isModifier code = false) :
    session.Fires event action ↔ event.Presses code held := by
  constructor
  · intro fires
    by_contra unpressed
    exact (ignores_unpressed running idle knows (.inr unpressed)).not_fires fires
  · intro pressed
    exact fires_of_matched running
      (Dispatch.handle_hit knows idle solid (Input.Event.hits_iff.mpr pressed))

end Only

end Session

namespace Hotkey

variable {text : String} {signature : Signature}

/-- The modifier keys of one side, for which there are no words. -/
def sidedNames : List String :=
  ["LWin", "RWin", "LShift", "RShift", "LCtrl", "RCtrl", "LAlt", "RAlt"]

theorem named_modifier : ∀ entry ∈ Key.names ++ Key.aliases, ¬ Key.IsWord entry.2.toList →
    (Key.isModifier entry.1 = true ↔
      ∃ name ∈ "Menu" :: sidedNames, Key.Spells name entry.2.toList) := by
  decide +kernel

theorem isModifier_iff {token : List Char} {code : Key.Code} (names : Key.NamesKey token code)
    (solid : ¬ Key.IsWord token) :
    Key.isModifier code = true ↔ ∃ name ∈ "Menu" :: sidedNames, Key.Spells name token := by
  obtain ⟨entry, member, rfl, spelled⟩ := names
  have known := named_modifier entry member (mt (Key.isWord_congr spelled).mp solid)
  rw [Key.Spells] at spelled
  simpa only [Key.Spells, ← spelled] using known

/-- The last key among the tokens has one of these names. -/
def LastKeyIn (names : List String) (tokens : List (List Char)) : Prop :=
  ∃ last ∈ (keyTokens tokens).getLast?, ∃ name ∈ names, Key.Spells name last

instance (names : List String) (tokens : List (List Char)) : Decidable (LastKeyIn names tokens) :=
  inferInstanceAs (Decidable (∃ last ∈ (keyTokens tokens).getLast?, ∃ name ∈ names, _))

/-- A hotkey that people write is accepted as a macro's, and as a binding. Where it is the only one and
nothing is captured, and its key is no modifier key, its action starts with the presses of that key, while
its modifiers are held, and with no other event. With a modifier key of one side it starts with no event,
since a modifier key by itself passes. -/
theorem hotkey_fires (unmarked : ¬ marker <+: Text.trim text.toList)
    (read : parse text = .ok signature) :
    (∀ config : Config, (∀ entry ∈ config.macros, entry.effectiveHotkey = text) →
      config.validate = none) ∧
    ∀ (bindings : Bindings) (binding : Binding), bindings.all = [binding] → binding.hotkey = text →
      bindings.report = ⟨[binding.id], []⟩ ∧
      ∀ (registry : Registry Action) (session : Session), session.running = true →
        session.capture.capturing = false → session.registry = bindings.install registry →
        ∀ tokens, Spelled (Text.trim text.toList) tokens →
          (¬ LastKeyIn ("Menu" :: sidedNames) tokens →
            (∃ event, session.Fires event binding.action) ∧
            (∀ event, session.Fires event binding.action ↔
              ∃ code held, signature = .keyOnly code held ∧ event.Presses code held) ∧
            ∀ event, ¬ session.Fires event binding.action → session.Ignores event) ∧
          (LastKeyIn sidedNames tokens → ∀ event, session.Ignores event) := by
  refine ⟨fun config named => Config.validate_eq_none_iff.mpr fun entry member => ?_,
    fun bindings binding only own => ⟨?_, fun registry session running idle installed => ?_⟩⟩
  · exact ⟨signature, (named entry member).symm ▸ read⟩
  · subst own
    rw [Bindings.report_eq, only]
    simp [Binding.registration?, Binding.fault?, read]
  rintro tokens spelled
  obtain rfl := spelled_iff.mp spelled
  cases chorded_of_parse unmarked read with
  | @intro last code held known key names holds =>
    have solid : ¬ Key.IsWord last := (mem_keyTokens.mp (List.mem_of_getLast? key)).2
    have modifier := isModifier_iff names solid
    have knows : session.registry.KnowsOnly (.keyOnly code held) binding.action :=
      installed ▸ Bindings.install_knowsOnly only (own ▸ read) registry
    constructor
    · intro plain
      have free : Key.isModifier code = false :=
        Bool.eq_false_iff.mpr fun bare => plain ⟨last, key, modifier.mp bare⟩
      have fires {event : Input.Event} :
          session.Fires event binding.action ↔ event.Presses code held :=
        Session.fires_iff running idle knows free
      refine ⟨⟨.keyDown code 0 held, fires.mpr (Input.Event.presses_keyDown ..)⟩,
        fun event => fires.trans ⟨fun pressed => ⟨code, held, rfl, pressed⟩, ?_⟩,
        fun event silent => Session.ignores_unpressed running idle knows (.inr (mt fires.mpr silent))⟩
      rintro ⟨same, again, equal, pressed⟩
      obtain ⟨rfl, rfl⟩ := Signature.keyOnly_inj.mp equal
      exact pressed
    · rintro ⟨token, there, name, member, spells⟩ event
      obtain rfl := Option.some.inj (key.symm.trans there)
      have bare := modifier.mpr ⟨name, List.mem_cons_of_mem _ member, spells⟩
      exact Session.ignores_unpressed running idle knows (.inl bare)

def pasting (hotkey : String) : Bindings := { pasteNext := some hotkey }

theorem all_pasting (hotkey : String) :
    (pasting hotkey).all = [⟨Bindings.pasteNextId, hotkey, .pasteNext⟩] := rfl

/-- A session in which a source runs and one hotkey pastes. -/
def ready (hotkey : String) : Session :=
  { controller := .init {}
    registry := (pasting hotkey).install {}
    running := true }

theorem hotkey_fires_unless_sided :
    (ready "\tctrl + AudioVolumeUp ").Fires (.key 0xAF 0x30 1 0x104 .ctrl) .pasteNext ∧
      (ready "Ctrl+LShift").Ignores (.keyDown 0xA0 0x2A .ctrl) := by
  have read : parse "\tctrl + AudioVolumeUp " = .ok (.keyOnly 0xAF .ctrl) := by decide +kernel
  have spelled : Spelled (Text.trim "\tctrl + AudioVolumeUp ".toList)
      ["ctrl".toList, "AudioVolumeUp".toList] := spelled_iff.mpr (by decide +kernel)
  have sided : parse "Ctrl+LShift" = .ok (.keyOnly 0xA0 .ctrl) := by decide +kernel
  have spelledSided : Spelled (Text.trim "Ctrl+LShift".toList) ["Ctrl".toList, "LShift".toList] :=
    spelled_iff.mpr (by decide +kernel)
  constructor
  · obtain ⟨-, alone⟩ := hotkey_fires (by decide +kernel) read
    obtain ⟨-, given⟩ := alone (pasting "\tctrl + AudioVolumeUp ") _ (all_pasting _) rfl
    have free : ¬ LastKeyIn ("Menu" :: sidedNames) ["ctrl".toList, "AudioVolumeUp".toList] := by
      decide +kernel
    obtain ⟨-, fires, -⟩ :=
      (given {} (ready "\tctrl + AudioVolumeUp ") rfl rfl rfl _ spelled).1 free
    exact (fires _).mpr ⟨0xAF, .ctrl, rfl, .intro rfl⟩
  · obtain ⟨-, alone⟩ := hotkey_fires (by decide +kernel) sided
    obtain ⟨-, given⟩ := alone (pasting "Ctrl+LShift") _ (all_pasting _) rfl
    have last : LastKeyIn sidedNames ["Ctrl".toList, "LShift".toList] := by decide +kernel
    exact (given {} (ready "Ctrl+LShift") rfl rfl rfl _ spelledSided).2 last _

/-- The left control key can be named, and passes. -/
theorem sided_hotkey_never_fires :
    ¬ ∀ (text : String) (signature : Signature), ¬ marker <+: Text.trim text.toList →
      parse text = .ok signature →
      ∀ (bindings : Bindings) (binding : Binding), bindings.all = [binding] → binding.hotkey = text →
        ∀ (registry : Registry Action) (session : Session), session.running = true →
          session.capture.capturing = false → session.registry = bindings.install registry →
            ∃ event, session.Fires event binding.action := by
  intro alive
  have read : parse "LCtrl" = .ok (.keyOnly 0xA2 .none) := by decide +kernel
  have knows : ((pasting "LCtrl").install {}).KnowsOnly (.keyOnly 0xA2 .none) .pasteNext :=
    Bindings.install_knowsOnly (all_pasting "LCtrl") read {}
  obtain ⟨event, fires⟩ := alive "LCtrl" _ (by decide +kernel) read (pasting "LCtrl") _
    (all_pasting "LCtrl") rfl {} (ready "LCtrl") rfl rfl rfl
  have ignores : (ready "LCtrl").Ignores event :=
    Session.ignores_unpressed rfl rfl knows (.inl (by decide))
  exact ignores.not_fires fires

/-- Where a hotkey that people write is the only one, its key is no modifier key and nothing is captured,
the event of a key is consumed and starts the action if it is a press of this key with these modifiers,
whatever its scan code and its flags. All other events go on and start nothing. The same holds for raw
bytes that no event has: of a keyboard, only the hotkey itself and presses are consumed, and nothing of
another device. The registry may have any hash. -/
theorem presses_alone_fire
    (unmarked : ¬ marker <+: Text.trim text.toList) (read : parse text = .ok signature)
    (solid : signature.isBareModifier = false) {bindings : Bindings} {binding : Binding}
    (only : bindings.all = [binding]) (own : binding.hotkey = text) (registry : Registry Action)
    {session : Session} (running : session.running = true)
    (idle : session.capture.capturing = false)
    (installed : session.registry = bindings.install registry) :
    (∀ pressed scan flags message modifiers,
      let event := Input.Event.key pressed scan flags message modifiers
      (session.Fires event binding.action ↔
        (message = 0x100 ∨ message = 0x104) ∧ signature.key? = some pressed ∧
          modifiers = signature.modifiers) ∧
      (session.Fires event binding.action ∨ session.Ignores event)) ∧
    (∀ button modifiers, session.Ignores (.button button modifiers)) ∧
    (∀ turn horizontal modifiers, session.Ignores (.wheel turn horizontal modifiers)) ∧
    ∀ asked : Signature,
      let verdict := (Dispatch.handle session.registry session.capture asked).1
      (verdict.consumed = true ↔ asked = signature ∨
        ∃ code ∈ signature.key?, asked.ReportsPress code signature.modifiers) ∧
      (asked.source ≠ .keyboard → verdict = .passed) := by
  cases chorded_of_parse unmarked read with
  | @intro last code held known key names holds =>
    have plain : Key.isModifier code = false := by
      rwa [Signature.isBareModifier, Signature.key?_keyOnly, Option.any_some] at solid
    have knows : session.registry.KnowsOnly (.keyOnly code held) binding.action :=
      installed ▸ Bindings.install_knowsOnly only (own ▸ read) registry
    have fires {event : Input.Event} :
        session.Fires event binding.action ↔ event.Presses code held :=
      Session.fires_iff running idle knows plain
    have ignores {event : Input.Event} (other : ¬ event.Presses code held) : session.Ignores event :=
      Session.ignores_unpressed running idle knows (.inr other)
    have misses {asked : Signature} (other : ¬ asked.Hits code held) :
        Dispatch.handle session.registry session.capture asked = (.passed, session.capture) :=
      Dispatch.handle_miss knows idle (.inr other)
    simp only [Signature.key?_keyOnly, Option.some.injEq, Option.mem_def, exists_eq_left']
    refine ⟨fun pressed scan flags message modifiers =>
        ⟨fires.trans Input.Event.presses_key_iff, (em _).imp fires.mpr ignores⟩,
      fun _ _ => ignores Input.Event.not_presses_button,
      fun _ _ _ => ignores Input.Event.not_presses_wheel,
      fun asked => ⟨⟨fun consumed => ?_, fun hits => ?_⟩, fun other => ?_⟩⟩
    · by_contra other
      rw [misses other] at consumed
      cases consumed
    · rw [Dispatch.handle_hit knows idle plain hits]
      rfl
    · rw [misses fun hits => other hits.source]

/-- All signatures share a bucket. With alt held, the key goes down as a system key; its release, and a
wheel that is turned by the number of the key, go on. -/
theorem presses_alone_fire_colliding :
    let session : Session :=
      { controller := .init {}
        registry := (pasting " menu+alt + F5").install { hash := fun _ => 0 }
        running := true }
    session.Fires (.key 0x74 0x3F 0x20 0x104 .alt) .pasteNext ∧
      session.Ignores (.key 0x74 0x3F 0x80 0x105 .alt) ∧
      session.Ignores (.wheel 0x74 false .alt) := by
  intro session
  have read : parse " menu+alt + F5" = .ok (.keyOnly 0x74 .alt) := by decide +kernel
  have running : session.running = true := rfl
  obtain ⟨keys, -, wheels, -⟩ := presses_alone_fire (by decide +kernel) read (by decide +kernel)
    (all_pasting " menu+alt + F5") rfl { hash := fun _ => 0 } running rfl rfl
  have release := keys 0x74 0x3F 0x80 0x105 .alt
  refine ⟨(keys ..).1.mpr (by decide +kernel), ?_, wheels ..⟩
  exact release.2.resolve_left (mt release.1.mp (by decide +kernel))

end Hotkey

end PasteQueue
