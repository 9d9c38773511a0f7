import PasteQueue.Input.Event
import PasteQueue.Proofs.Dispatch
import PasteQueue.Proofs.Signature.Layout

/-!
The presses of a key among all that devices report. A key by itself is two raw bytes of a keyboard. No
event has this form; only the press of a key is reduced to it, and its key and its modifiers are read back
as they were laid out. So a registry that knows such a key alone, by whatever hash, finds it for these
presses and for nothing else.
-/

namespace PasteQueue

/-! ### Signatures -/

namespace Signature

variable {signature : Signature} {code : Key.Code} {held : Key.Modifiers}

theorem keyOnly_inj {other : UInt16} {others : Key.Modifiers} :
    keyOnly code held = keyOnly other others ↔ code = other ∧ held = others := by
  constructor
  · intro same
    have keys : some code = some other := by
      rw [← key?_keyOnly code held, same, key?_keyOnly]
    exact ⟨Option.some.inj keys, congrArg Signature.modifiers same⟩
  · rintro ⟨rfl, rfl⟩
    rfl

/-- The full layout of a keyboard, in which this key goes down while these modifiers are held. -/
structure ReportsPress (code : Key.Code) (held : Key.Modifiers) (signature : Signature) : Prop where
  key : signature.key? = some code
  modifiers : signature.modifiers = held
  down : ∃ message ∈ signature.message?, Layout.isKeyDown message = true

theorem reduced?_eq_keyOnly_iff :
    signature.reduced? = some (.keyOnly code held) ↔ signature.ReportsPress code held := by
  rw [reduced?]
  constructor
  · intro reduced
    split at reduced
    · rename_i down
      obtain ⟨key, known, same⟩ := Option.map_eq_some_iff.mp reduced
      obtain ⟨rfl, rfl⟩ := keyOnly_inj.mp same
      exact ⟨known, rfl, (Option.any_eq_true ..).mp down⟩
    · cases reduced
  · rintro ⟨key, rfl, down⟩
    rw [if_pos ((Option.any_eq_true ..).mpr down), key]
    rfl

/-- The key by itself, or a press of it. -/
def Hits (code : Key.Code) (held : Key.Modifiers) (signature : Signature) : Prop :=
  signature = .keyOnly code held ∨ signature.ReportsPress code held

theorem Hits.key? (hits : signature.Hits code held) : signature.key? = some code := by
  rcases hits with rfl | press
  · exact key?_keyOnly code held
  · exact press.key

theorem Hits.isBareModifier (hits : signature.Hits code held) :
    signature.isBareModifier = Key.isModifier code := by
  rw [Signature.isBareModifier, hits.key?, Option.any_some]

/-- The bytes of another device are never taken for those of a keyboard. -/
theorem Hits.source (hits : signature.Hits code held) : signature.source = .keyboard := by
  by_contra other
  have none : signature.key? = none := if_neg other
  rw [hits.key?] at none
  cases none

end Signature

/-! ### Events -/

namespace Input.Event

/-- The key goes down while these modifiers are held, whatever else the device reports. -/
inductive Presses (code : Key.Code) (held : Key.Modifiers) : Event → Prop
  | intro {scan : UInt16} {flags : UInt32} {message : UInt16}
      (down : Layout.isKeyDown message = true) :
      Presses code held (.key code scan flags message held)

variable {event : Event} {code : Key.Code} {held : Key.Modifiers}

theorem presses_keyDown (code scan : UInt16) (held : Key.Modifiers) :
    (keyDown code scan held).Presses code held := .intro rfl

theorem signature_ne_keyOnly : event.signature ≠ .keyOnly code held := by
  cases event with
  | key pressed scan flags message modifiers =>
    exact Signature.keyboard_ne_keyOnly pressed scan flags message modifiers code held
  | button pressed modifiers | wheel turn horizontal modifiers =>
    intro same
    cases congrArg Signature.source same

theorem hits_iff : event.signature.Hits code held ↔ event.Presses code held := by
  constructor
  · rintro (full | press)
    · exact absurd full signature_ne_keyOnly
    · cases event with
      | key pressed scan flags message modifiers =>
        obtain ⟨key, rfl, reported, sent, down⟩ := press
        rw [signature, Signature.key?_keyboard, Option.some.injEq] at key
        rw [signature, Signature.message?_keyboard] at sent
        obtain rfl := Option.some.inj sent
        exact key ▸ .intro down
      | button pressed modifiers | wheel turn horizontal modifiers => cases press.key
  · rintro ⟨down⟩
    exact .inr ⟨Signature.key?_keyboard .., rfl, _, Signature.message?_keyboard .., down⟩

theorem presses_key_iff {pressed scan : UInt16} {flags : UInt32} {message : UInt16}
    {modifiers : Key.Modifiers} :
    (key pressed scan flags message modifiers).Presses code held ↔
      (message = 0x100 ∨ message = 0x104) ∧ code = pressed ∧ modifiers = held := by
  have down : Layout.isKeyDown message = true ↔ message = 0x100 ∨ message = 0x104 := by
    rw [Layout.isKeyDown, Bool.or_eq_true, beq_iff_eq, beq_iff_eq]
  constructor
  · rintro ⟨pressed⟩
    exact ⟨down.mp pressed, rfl, rfl⟩
  · rintro ⟨pressed, rfl, rfl⟩
    exact .intro (down.mpr pressed)

theorem not_presses_button {pressed : Button} {modifiers : Key.Modifiers} :
    ¬ (button pressed modifiers).Presses code held := nofun

theorem not_presses_wheel {turn : Int16} {horizontal : Bool} {modifiers : Key.Modifiers} :
    ¬ (wheel turn horizontal modifiers).Presses code held := nofun

end Input.Event

/-! ### One hotkey alone -/

/-- The registry finds this action for this signature, and nothing for any other. -/
def Registry.KnowsOnly {α : Type} (registry : Registry α) (signature : Signature) (action : α) : Prop :=
  ∀ asked, registry.action? asked = if asked = signature then some action else none

namespace Dispatch

variable {α : Type} {registry : Registry α} {action : α} {code : Key.Code} {held : Key.Modifiers}
  {session : Capture.Session} {asked : Signature}

theorem action?_hit (knows : registry.KnowsOnly (.keyOnly code held) action)
    (hits : asked.Hits code held) : action? registry asked = some action := by
  rw [action?, knows]
  by_cases full : asked = .keyOnly code held
  · rw [if_pos full, Option.some_or]
  · rw [if_neg full, Option.none_or,
      Signature.reduced?_eq_keyOnly_iff.mpr (hits.resolve_left full), Option.bind_some, knows,
      if_pos rfl]

theorem action?_miss (knows : registry.KnowsOnly (.keyOnly code held) action)
    (misses : ¬ asked.Hits code held) : action? registry asked = none := by
  obtain ⟨apart, unpressed⟩ := not_or.mp misses
  rw [action?, knows, if_neg apart, Option.none_or]
  cases reduced : asked.reduced? with
  | none => rfl
  | some form =>
    have other : form ≠ .keyOnly code held := by
      rintro rfl
      exact unpressed (Signature.reduced?_eq_keyOnly_iff.mp reduced)
    rw [Option.bind_some, knows, if_neg other]

theorem handle_hit (knows : registry.KnowsOnly (.keyOnly code held) action)
    (idle : session.capturing = false) (solid : Key.isModifier code = false)
    (hits : asked.Hits code held) : handle registry session asked = (.matched action, session) := by
  rw [handle_idle registry (hits.isBareModifier.trans solid) idle, action?_hit knows hits]
  rfl

/-- A modifier key is bound in vain. -/
theorem handle_miss (knows : registry.KnowsOnly (.keyOnly code held) action)
    (idle : session.capturing = false)
    (misses : Key.isModifier code = true ∨ ¬ asked.Hits code held) :
    handle registry session asked = (.passed, session) := by
  cases bare : asked.isBareModifier with
  | true => exact handle_bare registry bare
  | false =>
    have apart : ¬ asked.Hits code held := by
      rcases misses with modifier | apart
      · intro hits
        rw [hits.isBareModifier, modifier] at bare
        cases bare
      · exact apart
    rw [handle_idle registry bare idle, action?_miss knows apart]
    rfl

end Dispatch

end PasteQueue
