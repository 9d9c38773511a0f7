import Mathlib.Data.List.Induction
import PasteQueue.Dispatch

/-!
A dispatcher between captures. While a capture waits, the next event that is not a modifier key by itself
goes to it and to nobody else; all others fare as they do where nothing is ever captured.
-/

namespace PasteQueue

/-- What becomes of an event that no capture takes. -/
def Verdict.ofAction? {α : Type} : Option α → Verdict α
  | some action => .matched action
  | none => .passed

namespace Dispatch

variable {α : Type}

inductive Deed
  | start
  | stop
  | event (signature : Signature)
  deriving DecidableEq, Repr

def Deed.isEvent : Deed → Bool
  | .event _ => true
  | .start | .stop => false

def Deed.isBare : Deed → Bool
  | .event signature => signature.isBareModifier
  | .start | .stop => false

/-- The same deeds with no capture among them. -/
def uncaptured (deeds : List Deed) : List Deed := deeds.filter Deed.isEvent

def turn (registry : Registry α) (session : Capture.Session) : Deed → Option (Verdict α) × Capture.Session
  | .start => (none, session.start)
  | .stop => (none, session.stop)
  | .event signature =>
    let (verdict, after) := handle registry session signature
    (some verdict, after)

/-- The verdicts on the events among the deeds, in their order, and the session after them all. -/
def run (registry : Registry α) (session : Capture.Session) :
    List Deed → List (Verdict α) × Capture.Session
  | [] => ([], session)
  | deed :: deeds =>
    let (verdict, after) := turn registry session deed
    let (verdicts, last) := run registry after deeds
    (verdict.toList ++ verdicts, last)

/-- A capture has been started, and since then there have been bare modifiers at most. -/
def Awaits (past : List Deed) : Prop :=
  ∃ older since, past = older ++ .start :: since ∧ ∀ deed ∈ since, deed.isBare = true

section Handle

variable (registry : Registry α) {session : Capture.Session} {signature : Signature}

theorem handle_bare (bare : signature.isBareModifier = true) :
    handle registry session signature = (.passed, session) := if_pos bare

theorem handle_capturing (other : signature.isBareModifier = false)
    (capturing : session.capturing = true) :
    handle registry session signature = (.captured, (session.offer signature).2) := by
  simp [handle, other, Capture.Session.offer, capturing]

theorem handle_idle (other : signature.isBareModifier = false) (idle : session.capturing = false) :
    handle registry session signature =
      (.ofAction? (action? registry signature), session) := by
  simp only [handle, other, Capture.Session.offer, idle, Bool.false_eq_true, if_false]
  cases action? registry signature <;> rfl

theorem handle_of_idle (idle : session.capturing = false) :
    (handle registry session signature).2 = session := by
  cases bare : signature.isBareModifier with
  | true => rw [handle_bare registry bare]
  | false => rw [handle_idle registry bare idle]

end Handle

section Run

variable (registry : Registry α) (session : Capture.Session)

theorem run_append (first second : List Deed) :
    run registry session (first ++ second) =
      ((run registry session first).1 ++ (run registry (run registry session first).2 second).1,
        (run registry (run registry session first).2 second).2) := by
  induction first generalizing session with
  | nil => rfl
  | cons deed first ih => simp [run, ih]

theorem length_run (deeds : List Deed) :
    (run registry session deeds).1.length = (uncaptured deeds).length := by
  induction deeds generalizing session with
  | nil => rfl
  | cons deed deeds ih =>
    cases deed with
    | start | stop => exact ih _
    | event signature => exact congrArg (· + 1) (ih _)

/-- The verdict on an event is that of its turn. -/
theorem run_event (past later : List Deed) (signature : Signature) :
    (run registry session (past ++ .event signature :: later)).1[(uncaptured past).length]? =
      some (handle registry (run registry session past).2 signature).1 := by
  rw [run_append, ← length_run registry session past, List.getElem?_append_right (Nat.le_refl _)]
  simp [run, turn]

variable {session}

/-- Where nothing is captured, the session stays as it is. -/
theorem run_uncaptured (idle : session.capturing = false) (deeds : List Deed) :
    (run registry session (uncaptured deeds)).2 = session := by
  induction deeds with
  | nil => rfl
  | cons deed deeds ih =>
    cases deed with
    | start | stop => exact ih
    | event signature =>
      change (run registry (handle registry session signature).2 (uncaptured deeds)).2 = session
      rw [handle_of_idle registry idle]
      exact ih

theorem run_event_uncaptured (idle : session.capturing = false) (past later : List Deed)
    (signature : Signature) :
    (run registry session (uncaptured (past ++ .event signature :: later))).1[
        (uncaptured past).length]? =
      some (handle registry session signature).1 := by
  have split : uncaptured (past ++ .event signature :: later) =
      uncaptured past ++ .event signature :: uncaptured later := List.filter_append ..
  have twice : uncaptured (uncaptured past) = uncaptured past := by simp [uncaptured]
  have given := run_event registry session (uncaptured past) (uncaptured later) signature
  rwa [twice, run_uncaptured registry idle, ← split] at given

end Run

/-! ### Waiting for an event -/

theorem not_awaits_nil : ¬ Awaits [] := by
  rintro ⟨older, since, split, -⟩
  simp at split

theorem awaits_concat_iff (past : List Deed) (deed : Deed) :
    Awaits (past ++ [deed]) ↔ deed = .start ∨ deed.isBare = true ∧ Awaits past := by
  constructor
  · rintro ⟨older, since, split, bare⟩
    rcases since.eq_nil_or_concat with none | ⟨earlier, last, rfl⟩
    · subst none
      exact .inl (List.append_inj_right' split rfl |> List.singleton_inj.mp)
    · have same : past ++ [deed] = (older ++ .start :: earlier) ++ [last] := by simpa using split
      obtain ⟨rfl, ends⟩ := List.append_inj' same rfl
      cases List.singleton_inj.mp ends
      refine .inr ⟨bare _ (by simp), older, earlier, rfl, fun other member => ?_⟩
      exact bare other (by simp [member])
  · rintro (rfl | ⟨bareLast, older, since, rfl, bare⟩)
    · exact ⟨past, [], rfl, nofun⟩
    · refine ⟨older, since ++ [deed], by simp, ?_⟩
      intro other member
      rcases List.mem_append.mp member with earlier | last
      · exact bare other earlier
      · rw [List.mem_singleton.mp last]
        exact bareLast

theorem capturing_turn (registry : Registry α) (session : Capture.Session) (deed : Deed) :
    (turn registry session deed).2.capturing = true ↔
      deed = .start ∨ deed.isBare = true ∧ session.capturing = true := by
  cases deed with
  | start => simp [turn, Capture.Session.start]
  | stop => simp [turn, Capture.Session.stop, Deed.isBare]
  | event signature =>
    simp only [turn, Deed.isBare, reduceCtorEq, false_or]
    cases bare : signature.isBareModifier with
    | true => simp [handle_bare registry bare]
    | false =>
      cases capturing : session.capturing with
      | true => simp [handle_capturing registry bare capturing, Capture.Session.offer, capturing]
      | false => simp [handle_idle registry bare capturing, capturing]

theorem capturing_iff_awaits (registry : Registry α) {session : Capture.Session}
    (idle : session.capturing = false) (past : List Deed) :
    (run registry session past).2.capturing = true ↔ Awaits past := by
  induction past using List.reverseRecOn with
  | nil => simp [run, idle, not_awaits_nil]
  | append_singleton past deed ih =>
    have last : (run registry session (past ++ [deed])).2 =
        (turn registry (run registry session past).2 deed).2 := by
      rw [run_append]
      rfl
    rw [last, capturing_turn, awaits_concat_iff, ih]

/-! ### With and without captures -/

/-- Behind any deeds, a bare modifier passes, an event that a capture waits for goes to it alone, and every
other event finds what it would find if nothing had ever been captured. -/
theorem capture_diverts_one (registry : Registry α) {session : Capture.Session}
    (idle : session.capturing = false) (past later : List Deed) (signature : Signature) :
    let deeds := past ++ .event signature :: later
    let place := (uncaptured past).length
    let verdict := (run registry session deeds).1[place]?
    let plain := (run registry session (uncaptured deeds)).1[place]?
    let before := (run registry session past).2
    let after := (run registry session (past ++ [.event signature])).2
    (signature.isBareModifier = true →
      verdict = some .passed ∧ plain = some .passed ∧ after = before) ∧
    (signature.isBareModifier = false →
      (Awaits past →
        verdict = some .captured ∧ after.result = some signature ∧ after.capturing = false) ∧
      (¬ Awaits past → verdict = plain ∧ after = before) ∧
      (∀ action, registry.action? signature = some action → plain = some (.matched action)) ∧
      (registry.action? signature = none →
        plain = some (.ofAction? (signature.reduced?.bind registry.action?)))) := by
  intro deeds place verdict plain before after
  have given : verdict = some (handle registry before signature).1 := run_event ..
  have alone : plain = some (handle registry session signature).1 :=
    run_event_uncaptured registry idle ..
  have last : after = (handle registry before signature).2 := by
    simp only [after, before, run_append]
    rfl
  have waits : before.capturing = true ↔ Awaits past := capturing_iff_awaits registry idle past
  refine ⟨fun bare => ?_, fun solid => ⟨fun awaits => ?_, fun unawaited => ?_, ?_, ?_⟩⟩
  · rw [handle_bare registry bare] at given alone last
    exact ⟨given, alone, last⟩
  · have capturing := waits.mpr awaits
    rw [handle_capturing registry solid capturing] at given last
    refine ⟨given, ?_, ?_⟩ <;> simp [last, Capture.Session.offer, capturing]
  · have unused : before.capturing = false := Bool.eq_false_iff.mpr (mt waits.mp unawaited)
    rw [handle_idle registry solid unused] at given last
    rw [handle_idle registry solid idle] at alone
    exact ⟨given.trans alone.symm, last⟩
  · intro action full
    rw [alone, handle_idle registry solid idle, action?, full]
    rfl
  · intro none
    rw [alone, handle_idle registry solid idle, action?, none]
    rfl

def control : Signature := .keyboard 0xA2 0x1D 0 0x100 .ctrl

def press : Signature := .keyboard 0x43 0x2E 0 0x100 .ctrl

/-- A key press is registered in full, and its reduced form for something else. -/
def shortcuts : Registry Nat :=
  (Registry.insert {} ⟨.keyOnly 0x43 .ctrl, "reduced", 2⟩).insert ⟨press, "full", 1⟩

/-- The second press finds what it would have found ahead of the capture. -/
theorem capture_diverts_first_press :
    (run shortcuts {} [.start, .event control, .event press, .event press]).1[1]? =
        some .captured ∧
      (run shortcuts {} [.start, .event control, .event press, .event press]).1[2]? =
        (run shortcuts {} [.event control, .event press, .event press]).1[2]? ∧
      (run shortcuts {} [.event control, .event press, .event press]).1[2]? = some (.matched 1) := by
  have idle : ({} : Capture.Session).capturing = false := rfl
  have awaits : Awaits [.start, .event control] := ⟨[], [.event control], rfl, by decide⟩
  have taken : ¬ Awaits ([.start, .event control] ++ [.event press]) := by
    rw [awaits_concat_iff]
    rintro (other | ⟨bare, -⟩)
    · cases other
    · exact absurd bare (by decide)
  have first := (capture_diverts_one shortcuts idle [.start, .event control] [.event press] press).2
    (by decide)
  have second := (capture_diverts_one shortcuts idle
    ([.start, .event control] ++ [.event press]) [] press).2 (by decide)
  exact ⟨(first.1 awaits).1, (second.2.1 taken).1, second.2.2.1 1 (by decide)⟩

end Dispatch

end PasteQueue
