import PasteQueue.Proofs.Capture.Delivery
import PasteQueue.Proofs.Capture.Wakeups

/-!
When a wait ends. Its deadline counts from its first poll, whatever has happened since; at the deadline
a poll never goes on waiting, and it gives up only if no result is there. Whichever way a wait ends, the
session captures no more.
-/

namespace PasteQueue.Capture

/-- The moment polls the wait of the party. -/
def Moment.polls (moment : Moment) (party : PartyId) : Bool := moment.polled?.any (·.1 == party)

/-- When the wait of the party was first polled, if it has been. -/
def firstPoll? (party : PartyId) : List Moment → Option Nat
  | [] => none
  | latest :: older =>
    (firstPoll? party older).or (if latest.polls party then some latest.line.now else none)

/-- The wait was begun under this name, and its deadline is what its first poll has made it. -/
structure Begun (past : List Moment) (name : String) (party : PartyId) (waiter : Waiter) : Prop where
  created : ∃ creation ∈ past,
    creation.event = .create name waiter.timeout ∧ creation.line.parties = party
  deadline : waiter.deadline = (firstPoll? party past).map (· + waiter.timeout)

section Begun

variable {past : List Moment} {moment : Moment} {line : Timeline} {name : String} {party : PartyId}
  {waiter : Waiter}

theorem firstPoll?_of_aside (aside : moment.polls party = false) :
    firstPoll? party (moment :: past) = firstPoll? party past := by
  rw [firstPoll?, aside]
  exact Option.or_none

theorem polls_of_found (found : line.find? name = some (party, waiter)) (other : PartyId) :
    (Moment.mk line (.poll name)).polls other = (party == other) := by
  simp [Moment.polls, Moment.polled?, found]

theorem Begun.later (begun : Begun past name party waiter) (aside : moment.polls party = false) :
    Begun (moment :: past) name party waiter where
  created := begun.created.imp fun _ creation => ⟨.tail _ creation.1, creation.2⟩
  deadline := by rw [firstPoll?_of_aside aside, begun.deadline]

/-- A poll finds the deadline that the first poll has set, be it this one. -/
theorem Begun.due (begun : Begun past name party waiter)
    (found : line.find? name = some (party, waiter)) :
    ∃ first, firstPoll? party (⟨line, .poll name⟩ :: past) = some first ∧
      waiter.due line.now = first + waiter.timeout := by
  rw [firstPoll?, polls_of_found found, Waiter.due, begun.deadline]
  cases firstPoll? party past with
  | none => exact ⟨line.now, by simp, rfl⟩
  | some first => exact ⟨first, rfl, rfl⟩

theorem Begun.polled (begun : Begun past name party waiter)
    (found : line.find? name = some (party, waiter)) :
    Begun (⟨line, .poll name⟩ :: past) name party
      { waiter with deadline := some (waiter.due line.now) } where
  created := begun.created.imp fun _ creation => ⟨.tail _ creation.1, creation.2⟩
  deadline := by
    obtain ⟨first, polled, due⟩ := begun.due found
    rw [polled, due]
    rfl

end Begun

theorem Timeline.drop_waiters (line : Timeline) (name : String) :
    (line.drop name).2.waiters ⊆ line.waiters := by
  unfold Timeline.drop
  split
  · exact List.filter_sublist.subset
  · exact List.Subset.refl _

theorem Timeline.drop_parties (line : Timeline) (name : String) :
    (line.drop name).2.parties = line.parties := by
  unfold Timeline.drop
  split <;> rfl

/-- What is known of the waits under way, in view of the past. -/
structure Timed (past : List Moment) (line : Timeline) : Prop where
  begun : ∀ name party waiter, (name, party, waiter) ∈ line.waiters → Begun past name party waiter
  unpolled : ∀ party, line.parties ≤ party → firstPoll? party past = none

namespace Timed

variable {past : List Moment} {line : Timeline} {name : String} {party : PartyId} {waiter : Waiter}

/-- Nothing is polled, and no wait comes. -/
theorem aside (timed : Timed past line) (event : Event) {after : Timeline}
    (quiet : (Moment.mk line event).polled? = none) (fewer : after.waiters ⊆ line.waiters)
    (parties : after.parties = line.parties) : Timed (⟨line, event⟩ :: past) after where
  begun name party waiter member :=
    (timed.begun name party waiter (fewer member)).later (by rw [Moment.polls, quiet]; rfl)
  unpolled party unknown := by
    rw [firstPoll?_of_aside (by rw [Moment.polls, quiet]; rfl)]
    exact timed.unpolled party (parties ▸ unknown)

theorem create (timed : Timed past line) (name : String) (timeout : Nat) :
    Timed (⟨line, .create name timeout⟩ :: past) (line.create name timeout) := by
  have dropped := timed.aside (.create name timeout) rfl (line.drop_waiters name)
    (line.drop_parties name)
  have known := line.drop_parties name
  refine ⟨?_, fun party unknown => dropped.unpolled party (Nat.le_of_succ_le unknown)⟩
  rintro _ _ _ (_ | ⟨_, member⟩)
  · refine ⟨⟨_, .head _, rfl, known.symm⟩, ?_⟩
    rw [dropped.unpolled _ (Nat.le_refl _)]
    rfl
  · exact dropped.begun _ _ _ member

theorem poll (timed : Timed past line) (sound : line.Sound) (name : String) :
    Timed (⟨line, .poll name⟩ :: past) (line.poll name).2 := by
  cases found : line.find? name with
  | none =>
    rw [Timeline.poll_of_missing found]
    refine timed.aside (.poll name) ?_ (List.Subset.refl _) rfl
    exact found
  | some wait =>
    obtain ⟨party, waiter⟩ := wait
    have member := Timeline.member_of_found found
    have begun := timed.begun name party waiter member
    -- the poll is the first of its own party at most
    have unpolled : ∀ other, line.parties ≤ other →
        firstPoll? other (⟨line, .poll name⟩ :: past) = none := by
      intro other unknown
      have apart : party ≠ other := fun same =>
        absurd (sound.known _ member) (same ▸ Nat.not_lt_of_le unknown)
      rw [firstPoll?_of_aside (by simp [polls_of_found found, apart]), timed.unpolled other unknown]
    have others : ∀ title other waiting, (title, other, waiting) ∈ (line.forget name).waiters →
        Begun (⟨line, .poll name⟩ :: past) title other waiting := by
      intro title other waiting left
      obtain ⟨inside, apart⟩ := (sound.mem_forget found _).mp left
      exact (timed.begun title other waiting inside).later
        (by simp [polls_of_found found, Ne.symm apart])
    have polled := line.session.poll_polled party waiter line.now
    unfold Timeline.poll
    simp only [found]
    generalize line.session.poll party waiter line.now = ending at polled ⊢
    obtain ⟨progress, session⟩ := ending
    cases polled with
    | captured => exact ⟨others, unpolled⟩
    | timedOut => exact ⟨others, unpolled⟩
    | pending =>
      refine ⟨?_, unpolled⟩
      rintro _ _ _ (_ | ⟨_, left⟩)
      · exact begun.polled found
      · exact others _ _ _ left

end Timed

theorem Run.timed {past : List Moment} {line : Timeline} (run : Run past line) : Timed past line := by
  induction run with
  | begin now => exact ⟨nofun, fun _ _ => rfl⟩
  | @step past line run event timed =>
    cases event with
    | act act => exact timed.aside (.act act) rfl (List.Subset.refl _) rfl
    | create name timeout => exact timed.create name timeout
    | poll name => exact timed.poll run.sound name
    | drop name =>
      exact timed.aside (.drop name) rfl (line.drop_waiters name) (line.drop_parties name)
    | advance time => exact timed.aside (.advance time) rfl (List.Subset.refl _) rfl

/-- A wait that was begun with a timeout gives up only when that time is over since its first poll, and
only while no result is held. From then on no poll of it goes on waiting. A result that is held is
returned to a wait that has been released, is at its deadline or has never been polled. When the wait is
over, either way, the session does not capture. -/
theorem wait_ends_in_time {past : List Moment} {line : Timeline} (run : Run past line) {name : String}
    {party : PartyId} {waiter : Waiter} (found : line.find? name = some (party, waiter)) :
    ∃ first, firstPoll? party (⟨line, .poll name⟩ :: past) = some first ∧
    (∃ creation ∈ past,
      creation.event = .create name waiter.timeout ∧ creation.line.parties = party) ∧
    (∀ fault, (line.poll name).1 = some (.timedOut fault) →
      fault.timeout = waiter.timeout ∧ first + waiter.timeout ≤ line.now ∧
        line.session.result = none) ∧
    (first + waiter.timeout ≤ line.now →
      ∀ waiting, (line.poll name).1 ≠ some (.pending waiting)) ∧
    (∀ signature, line.session.result = some signature →
      line.session.signal.isReleased party = true ∨ first + waiter.timeout ≤ line.now ∨
        firstPoll? party past = none →
      (line.poll name).1 = some (.captured signature)) ∧
    ((∀ waiting, (line.poll name).1 ≠ some (.pending waiting)) →
      (line.poll name).2.session.capturing = false) := by
  have begun := run.timed.begun name party waiter (Timeline.member_of_found found)
  obtain ⟨first, polled, due⟩ := begun.due found
  obtain ⟨progress, session⟩ := Timeline.poll_of_found found
  have ended := line.session.poll_polled party waiter line.now
  refine ⟨first, polled, begun.created, ?_⟩
  rw [progress, session, ← due]
  refine ⟨fun fault gaveUp => ?_, fun late waiting goesOn => ?_, fun signature held ready => ?_,
    fun finished => ?_⟩
  · rw [Option.some.inj gaveUp] at ended
    cases ended with
    | timedOut nothing late => exact ⟨rfl, late, nothing⟩
  · rw [Option.some.inj goesOn] at ended
    cases ended with
    | pending early => exact absurd late (Nat.not_le_of_lt early)
  · rw [Session.poll_of_some held]
    by_cases looks : line.session.looks party waiter = true
    · rw [if_pos looks]
    · have late : waiter.due line.now ≤ line.now := by
        rcases ready with released | late | fresh
        · exact absurd (by simp [Session.looks, released]) looks
        · exact late
        · exact absurd (by simp [Session.looks, begun.deadline, fresh]) looks
      rw [if_neg looks, if_pos late]
  · generalize line.session.poll party waiter line.now = ending at ended finished ⊢
    obtain ⟨progress, after⟩ := ending
    cases ended with
    | captured held _ same =>
      -- a result and a capture under way exclude each other
      refine same.trans (Bool.eq_false_iff.mpr fun capturing => ?_)
      cases held.symm.trans (run.spent capturing)
    | timedOut _ _ _ stopped => exact stopped
    | pending => exact absurd rfl (finished _)

/-- Two waits in line, one released, and the other at its deadline. -/
def overtaking : List Event := crowded ++ [.advance 20]

theorem overtaking_ends_in_time :
    let line := (({} : Timeline).play [] overtaking).2
    line.find? "second" = some (1, ⟨20, some 20⟩) ∧ line.session.signal.isReleased 1 = false ∧
    (line.poll "second").1 = some (.captured (.mouseButton 1 .none)) ∧
    (line.poll "second").2.session.capturing = false := by
  have found : (({} : Timeline).play [] overtaking).2.find? "second" = some (1, ⟨20, some 20⟩) := by
    decide +kernel
  obtain ⟨first, polled, -, -, -, returned, stopped⟩ :=
    wait_ends_in_time ((Run.begin 0).play overtaking) found
  have atZero : first = 0 := Option.some.inj (polled.symm.trans (by decide +kernel))
  have captured := returned (.mouseButton 1 .none) (by decide +kernel)
    (.inr (.inl (by subst atZero; decide +kernel)))
  refine ⟨found, by decide +kernel, captured, stopped fun waiting goesOn => ?_⟩
  cases captured.symm.trans goesOn

end PasteQueue.Capture
