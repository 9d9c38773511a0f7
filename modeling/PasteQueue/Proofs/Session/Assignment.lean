import PasteQueue.Proofs.Capture.Delivery
import PasteQueue.Proofs.Config.Hotkeys
import PasteQueue.Proofs.Dispatch
import PasteQueue.Proofs.Session.Core
import PasteQueue.Session.Script

/-!
From a capture to the action. An event that has been captured and assigned to a binding brings, from the
next installation on, the action of that binding, unless an earlier one has the same hotkey.
-/

namespace PasteQueue

/-! ### What a wait returns -/

namespace Capture

theorem Standing.latest {captured signature : Signature} {newer older : List Turn}
    (standing : Standing (.capture captured) Turn.Clears (newer ++ .capture signature :: older))
    (none : ∀ turn ∈ newer, turn.captured? = none) : captured = signature := by
  induction newer with
  | nil =>
    rcases standing.of_cons with same | ⟨stays, -⟩
    · cases same
      rfl
    · exact absurd trivial stays
  | cons turn newer ih =>
    rcases standing.of_cons with same | ⟨-, earlier⟩
    · have nothing := none turn (.head _)
      rw [same] at nothing
      cases nothing
    · exact ih earlier fun other member => none other (.tail _ member)

end Capture

namespace Dispatch

variable {registry : Registry Action} {signature captured : Signature}

/-- An event has been diverted to a capture, and no other since; then a wait has returned. -/
inductive Caught (registry : Registry Action) (signature captured : Signature) : Prop
  | intro (newer older : List Capture.Moment) (offered : Capture.Moment) {line : Capture.Timeline}
      (run : Capture.Run (newer ++ offered :: older) line)
      (offers : offered.event = .act (.offer signature))
      (diverted : (handle registry offered.line.session signature).1 = .captured)
      (latest : ∀ moment ∈ newer, moment.turn.captured? = none)
      (name : String) (returned : (line.poll name).1 = some (.captured captured))

theorem diverted_iff {session : Capture.Session} :
    (handle registry session signature).1 = .captured ↔
      signature.isBareModifier = false ∧ session.capturing = true := by
  cases bare : signature.isBareModifier with
  | true => simp [handle_bare registry bare]
  | false =>
    cases capturing : session.capturing with
    | true => simp [handle_capturing registry bare capturing]
    | false =>
      rw [handle_idle registry bare capturing]
      cases action? registry signature <;> simp [Verdict.ofAction?]

theorem Caught.solid (caught : Caught registry signature captured) :
    signature.isBareModifier = false := by
  cases caught with
  | intro newer older offered run offers diverted latest name returned =>
    exact (diverted_iff.mp diverted).1

theorem Caught.same (caught : Caught registry signature captured) : captured = signature := by
  cases caught with
  | @intro newer older offered line run offers diverted latest name returned =>
    have capturing := (diverted_iff.mp diverted).2
    have turn : offered.turn = .capture signature := by
      rw [Capture.Moment.turn, offers]
      simp [Capture.Session.offer, capturing]
    have deliver : Capture.Moment.turn ⟨line, .poll name⟩ = .deliver captured := by
      simp [Capture.Moment.turn, returned]
    have polled := run.step (.poll name)
    have place : Capture.turns (⟨line, .poll name⟩ :: (newer ++ offered :: older)) =
        [] ++ .deliver captured :: Capture.turns (newer ++ offered :: older) := by
      rw [Capture.turns, List.map_cons, deliver]
      rfl
    have standing := polled.deliver_standing place
    rw [Capture.turns, List.map_append, List.map_cons, turn] at standing
    refine standing.latest fun turn member => ?_
    obtain ⟨moment, inside, rfl⟩ := List.mem_map.mp member
    exact latest moment inside

end Dispatch

/-! ### What an event starts -/

namespace Session

variable (session : Session)

theorem spawn_strands (strand : Strand) :
    (session.spawn strand).2.strands =
      (session.nextStrand, strand) :: session.strands.filter fun other =>
        other.1 != session.nextStrand :=
  congrArg Core.strands (wake_core ..)

/-- An event that finds an action starts a strand for it; no other event starts any. -/
theorem inject_strands {session : Session} (running : session.running = true) (event : Input.Event) :
    (session.inject event).1 =
        (Dispatch.handle session.registry session.capture event.signature).1.consumed ∧
      (session.inject event).2.strands =
        match (Dispatch.handle session.registry session.capture event.signature).1 with
        | .matched action =>
          (session.nextStrand, .action action) ::
            session.strands.filter fun strand => strand.1 != session.nextStrand
        | .passed | .captured => session.strands := by
  unfold inject
  rw [if_pos running]
  dsimp only
  generalize Dispatch.handle session.registry session.capture event.signature = handled
  obtain ⟨verdict, capture⟩ := handled
  refine ⟨rfl, ?_⟩
  let told := { session with capture }.log
    (Dispatch.records session.registry session.capture event.signature)
  let woken := (capture.signal.released.filter fun party =>
    !session.capture.signal.released.contains party).foldl wake told
  have same : woken.core = session.core := told.foldl_wake_core _ id
  have strands : woken.strands = session.strands := congrArg Core.strands same
  have next : woken.nextStrand = session.nextStrand := congrArg Core.nextStrand same
  cases verdict with
  | passed | captured => exact strands
  | matched action =>
    have spawned := woken.spawn_strands (.action action)
    rw [strands, next] at spawned
    exact spawned

end Session

/-! ### From a capture to the action -/

section Assignment

variable {config assigned ready : Config} {name : String} {event : Input.Event}
  {captured : Signature} {caught : Registry Action}

/-- However an event was captured, once it has been stored for a binding that is not switched off and the
missing signatures are there, the next such event starts one action: that of the first binding that
reads as it. The binding it was stored for is one of these, and all others read as they would have. -/
theorem assigned_hotkey_fires (capture : Dispatch.Caught caught event.signature captured)
    (accepted : config.assign name (Hotkey.format captured) = .ok assigned)
    (offered : (config.slot? name).any config.offers = true)
    (derived : assigned.ensureSignatures = (none, ready)) (registry : Registry Action) :
    ∃ slot own first,
      config.slot? name = some slot ∧ ready.bindings.at? slot = some own ∧
      own ∈ ready.bindings.all ∧ Hotkey.parse own.hotkey = .ok event.signature ∧
      ready.bindings.all.find? (·.reads event.signature) = some first ∧
      (∀ session : Session, session.running = true → session.capture.capturing = false →
        session.registry = ready.bindings.install registry →
          Dispatch.handle session.registry session.capture event.signature =
            (.matched first.action, session.capture) ∧
          (session.inject event).1 = true ∧
          (session.inject event).2.strands = (session.nextStrand, .action first.action) ::
            session.strands.filter fun strand => strand.1 != session.nextStrand) ∧
      ∀ other, other ≠ slot →
        (ready.bindings.at? other).map Binding.face = (config.bindings.at? other).map Binding.face ∧
        (ready.bindings.at? other).map Binding.face =
          (config.ensureSignatures.2.bindings.at? other).map Binding.face := by
  have solid := capture.solid
  rw [capture.same] at accepted
  obtain ⟨slot, place, given⟩ := Config.assign_assigned accepted
  have on : config.offers slot = true := by simpa [place] using offered
  have alike : Config.ReadAlike assigned ready := by
    have derivedAlike := assigned.ensureSignatures_alike
    rwa [derived] at derivedAlike
  obtain ⟨id, action, face⟩ := given.own on
  rw [← alike.face] at face
  obtain ⟨own, stands, same⟩ := Option.map_eq_some_iff.mp face
  have reads : Hotkey.parse own.hotkey = .ok event.signature := congrArg (·.2.2) same
  have member : own ∈ ready.bindings.all := Bindings.mem_all_iff.mpr ⟨slot, stands⟩
  obtain ⟨first, found⟩ : ∃ first, ready.bindings.all.find? (·.reads event.signature) = some first := by
    rw [← Option.isSome_iff_exists, List.find?_isSome]
    exact ⟨own, member, Binding.reads_iff.mpr reads⟩
  refine ⟨slot, own, first, place, stands, member, reads, found, ?_, ?_⟩
  · intro session running idle installed
    have matched : Dispatch.handle session.registry session.capture event.signature =
        (.matched first.action, session.capture) := by
      have action : session.registry.action? event.signature = some first.action := by
        rw [installed, Bindings.install_action?, found]
        rfl
      rw [Dispatch.handle_idle _ solid idle, Dispatch.action?, action]
      rfl
    obtain ⟨consumed, strands⟩ := session.inject_strands running event
    rw [matched] at consumed strands
    exact ⟨matched, consumed, strands⟩
  · intro other apart
    have kept := (alike.face other).trans (given.others other apart)
    exact ⟨kept, kept.trans (config.ensureSignatures_alike.face other).symm⟩

end Assignment

/-- Two macros of one name, and one that is called what the queue calls its own. -/
def greetings : Config :=
  { macros := [⟨"greet", "Ctrl+G", "", "Hello", .typed⟩, ⟨"greet", "F5", "", "Hi", .typed⟩,
      ⟨"toggle_queue", "", "", "", .typed⟩] }

def middle : Input.Event := .button .middle .ctrl

def greetingCapture : List Capture.Event :=
  [.act .start, .create "only" 10, .poll "only", .act (.offer middle.signature)]

theorem middle_caught : Dispatch.Caught {} middle.signature middle.signature :=
  .intro [] _ _ ((Capture.Run.begin 0).play greetingCapture) rfl (by decide +kernel) nofun "only"
    (by decide +kernel)

def greeted : Config :=
  { greetings with macros := greetings.macros.modify 0 fun entry =>
      { entry with signature := Hotkey.format middle.signature } }

theorem assigned_macro_fires :
    Dispatch.Caught {} middle.signature middle.signature ∧
    greetings.assign "greet" (Hotkey.format middle.signature) = .ok greeted ∧
    greeted.ensureSignatures = (none, greeted.ensureSignatures.2) ∧
    ∃ slot own first,
      greetings.slot? "greet" = some slot ∧ slot = .textMacro 0 ∧
      greeted.ensureSignatures.2.bindings.at? slot = some own ∧
      Hotkey.parse own.hotkey = .ok middle.signature ∧
      greeted.ensureSignatures.2.bindings.all.find? (·.reads middle.signature) = some first := by
  have accepted : greetings.assign "greet" (Hotkey.format middle.signature) = .ok greeted := rfl
  have complete : greeted.ensureSignatures.1 = none := by decide +kernel
  have derived : greeted.ensureSignatures = (none, greeted.ensureSignatures.2) :=
    Prod.ext complete rfl
  obtain ⟨slot, own, first, place, stands, -, reads, found, -⟩ :=
    assigned_hotkey_fires middle_caught accepted rfl derived {}
  have named : greetings.slot? "greet" = some (.textMacro 0) := rfl
  exact ⟨middle_caught, accepted, derived, slot, own, first, place,
    Option.some.inj (place.symm.trans named), stands, reads, found⟩

end PasteQueue
