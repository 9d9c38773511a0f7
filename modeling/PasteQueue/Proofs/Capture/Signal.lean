import Mathlib.Data.List.Nodup
import PasteQueue.Proofs.Capture.Poll

/-!
Seats at the signal: the parties in line and those released that have not seen it. Each notice moves
a party from one to the other, a wait that goes on has a seat, and one that is over has none.
-/

namespace PasteQueue.Capture

namespace Signal

variable {signal : Signal} {party : PartyId}

def seats (signal : Signal) : List PartyId := signal.line ++ signal.released

theorem isReleased_iff : signal.isReleased party = true ↔ party ∈ signal.released := by
  simp [isReleased]

theorem seats_notify (signal : Signal) : signal.notify.seats.Perm signal.seats := by
  unfold notify seats
  cases line : signal.line with
  | nil => rfl
  | cons first rest =>
    rw [← List.append_assoc]
    exact List.perm_append_singleton first (rest ++ signal.released)

theorem seats_join (signal : Signal) (party : PartyId) :
    (signal.join party).seats.Perm (party :: signal.seats) := by
  unfold join seats
  rw [List.append_assoc]
  exact List.perm_middle

theorem seats_acknowledge (apart : signal.seats.Nodup) (released : party ∈ signal.released) :
    (signal.acknowledge party).seats = signal.seats.erase party := by
  have away : party ∉ signal.line := by
    intro standing
    exact List.disjoint_of_nodup_append apart standing released
  exact (List.erase_append_right _ away).symm

theorem seats_leave (apart : signal.seats.Nodup) (party : PartyId) :
    (signal.leave party).seats.Perm (signal.seats.erase party) := by
  unfold leave
  cases released : signal.isReleased party with
  | true =>
    have acknowledged := seats_acknowledge apart (isReleased_iff.mp released)
    exact acknowledged ▸ seats_notify (signal.acknowledge party)
  | false =>
    have away : party ∉ signal.released := by
      rw [← isReleased_iff, released]
      exact Bool.false_ne_true
    simp only [Bool.false_eq_true, if_false]
    by_cases standing : party ∈ signal.line
    · unfold seats
      rw [List.erase_append_left _ standing]
    · unfold seats
      rw [List.erase_of_not_mem standing, List.erase_append_right _ standing,
        List.erase_of_not_mem away]

/-- Nobody has two seats, and a permit is kept only while nobody stands in line. -/
structure Sound (signal : Signal) : Prop where
  apart : signal.seats.Nodup
  spare : signal.permit = true → signal.line = []

/-- If anybody stands in line, somebody has been released. -/
def Heard (signal : Signal) : Prop := signal.line = [] ∨ signal.released ≠ []

theorem notify_heard (signal : Signal) : signal.notify.Heard := by
  unfold notify Heard
  split
  · exact .inl ‹_›
  · exact .inr (List.append_ne_nil_of_right_ne_nil _ (List.cons_ne_nil _ _))

theorem Heard.leave (heard : signal.Heard) (party : PartyId) : (signal.leave party).Heard := by
  unfold Signal.leave
  split
  · exact notify_heard _
  · rcases heard with nobody | released
    · exact .inl (by rw [nobody]; rfl)
    · exact .inr released

namespace Sound

theorem notify (sound : signal.Sound) : signal.notify.Sound where
  apart := (seats_notify signal).nodup_iff.mpr sound.apart
  spare := by
    unfold Signal.notify
    cases line : signal.line with
    | nil => exact fun _ => rfl
    | cons first rest =>
      intro permit
      cases line.symm.trans (sound.spare permit)

theorem acknowledge (sound : signal.Sound) (released : party ∈ signal.released) :
    (signal.acknowledge party).Sound where
  apart := seats_acknowledge sound.apart released ▸ sound.apart.erase party
  spare := sound.spare

theorem leave (sound : signal.Sound) (party : PartyId) : (signal.leave party).Sound where
  apart := (seats_leave sound.apart party).nodup_iff.mpr (sound.apart.erase party)
  spare := by
    unfold Signal.leave
    cases released : signal.isReleased party with
    | true => exact (sound.acknowledge (isReleased_iff.mp released)).notify.spare
    | false =>
      intro permit
      have nobody := sound.spare permit
      simp [nobody]

/-- A party stands in line only behind a permit used up. -/
theorem stand (sound : signal.Sound) (new : party ∉ signal.seats) :
    (signal.usePermit.join party).Sound where
  apart := (seats_join signal.usePermit party).nodup_iff.mpr (List.nodup_cons.mpr ⟨new, sound.apart⟩)
  spare := nofun

end Sound

end Signal

namespace Session

variable {session : Session} {party : PartyId} {waiter : Waiter}

/-- Somebody in line for a result that is there has somebody before it who will take it. -/
structure Sound (session : Session) : Prop where
  signal : session.signal.Sound
  heard : session.result ≠ none → session.signal.Heard

def Progress.isOver : Progress → Bool
  | .pending _ => false
  | .captured _ | .timedOut _ => true

theorem resumed_seats (sound : session.signal.Sound)
    (seated : waiter.deadline.isSome = true ↔ party ∈ session.signal.seats)
    (looks : session.looks party waiter = true) :
    (session.resumed party waiter).signal.Sound ∧
    (session.resumed party waiter).signal.seats = session.signal.seats.erase party := by
  unfold resumed
  cases deadline : waiter.deadline with
  | none =>
    have absent : party ∉ session.signal.seats := by
      rw [← seated, deadline]
      exact Bool.false_ne_true
    exact ⟨sound, (List.erase_of_not_mem absent).symm⟩
  | some time =>
    have released : party ∈ session.signal.released := by
      rw [← Signal.isReleased_iff]
      simpa [Session.looks, deadline] using looks
    exact ⟨sound.acknowledge released, Signal.seats_acknowledge sound.apart released⟩

/-- A party that finds nothing has a seat, whether it had one before or not. -/
theorem heard_seats (sound : session.signal.Sound)
    (seated : waiter.deadline.isSome = true ↔ party ∈ session.signal.seats) :
    (session.heard party waiter).Sound ∧
    (session.heard party waiter).seats.Perm (party :: session.signal.seats.erase party) := by
  unfold heard
  cases looks : session.looks party waiter with
  | true =>
    obtain ⟨resumed, seats⟩ := resumed_seats sound seated looks
    have absent : party ∉ (session.resumed party waiter).signal.seats := by
      rw [seats]
      exact sound.apart.not_mem_erase
    refine ⟨resumed.stand absent, ?_⟩
    rw [← seats]
    exact Signal.seats_join _ party
  | false =>
    obtain ⟨first, -⟩ := Bool.or_eq_false_iff.mp looks
    have present : party ∈ session.signal.seats := by
      rw [← seated]
      simpa using first
    exact ⟨sound, List.perm_cons_erase present⟩

/-- A wait keeps its seat as long as it goes on, and gives it up once it is over. -/
theorem poll_seats (sound : session.Sound)
    (seated : waiter.deadline.isSome = true ↔ party ∈ session.signal.seats) (now : Nat) :
    (session.poll party waiter now).2.Sound ∧
    (session.poll party waiter now).2.signal.seats.Perm
      (if (session.poll party waiter now).1.isOver then session.signal.seats.erase party
      else party :: session.signal.seats.erase party) := by
  cases held : session.result with
  | none =>
    obtain ⟨heard, seats⟩ := heard_seats sound.signal seated
    rw [poll_of_none held]
    split
    · refine ⟨⟨heard.leave party, fun some => absurd rfl some⟩, ?_⟩
      have left := Signal.seats_leave heard.apart party
      have erased := seats.erase party
      rw [List.erase_cons_head] at erased
      exact left.trans erased
    · exact ⟨⟨heard, fun some => absurd held some⟩, seats⟩
  | some signature =>
    rw [poll_of_some held]
    cases looks : session.looks party waiter with
    | true =>
      obtain ⟨resumed, seats⟩ := resumed_seats sound.signal seated looks
      exact ⟨⟨resumed, fun some => absurd rfl some⟩, seats ▸ .refl _⟩
    | false =>
      simp only [Bool.false_eq_true, if_false]
      split
      · exact ⟨⟨sound.signal.leave party, fun some => absurd rfl some⟩,
          Signal.seats_leave sound.signal.apart party⟩
      · obtain ⟨heard, seats⟩ := heard_seats sound.signal seated
        rw [Session.heard, looks] at seats
        exact ⟨sound, seats⟩

end Session

end PasteQueue.Capture
