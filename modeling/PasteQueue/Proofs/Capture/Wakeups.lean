import PasteQueue.Proofs.Capture.Run
import PasteQueue.Proofs.Capture.Signal

/-!
No wait misses a result. A wait has a seat at the signal exactly from its first poll on to its end, and
while a result is there and somebody stands in line, somebody has been released and will take it.
-/

namespace PasteQueue.Capture

theorem Session.Sound.act {session : Session} (sound : session.Sound) (act : Act) :
    (session.act act).2.Sound ∧ (session.act act).2.signal.seats.Perm session.signal.seats := by
  cases act with
  | start => exact ⟨⟨sound.signal, fun some => absurd rfl some⟩, .refl _⟩
  | stop => exact ⟨⟨sound.signal, sound.heard⟩, .refl _⟩
  | offer signature =>
    dsimp only [Session.act, Session.offer]
    split
    · exact ⟨⟨sound.signal.notify, fun _ => session.signal.notify_heard⟩, session.signal.seats_notify⟩
    · exact ⟨sound, .refl _⟩

theorem Session.Sound.abandon {session : Session} (sound : session.Sound) (party : PartyId) :
    (session.abandon party).Sound ∧
    (session.abandon party).signal.seats.Perm (session.signal.seats.erase party) :=
  ⟨⟨sound.signal.leave party, fun held => (sound.heard held).leave party⟩,
    Signal.seats_leave sound.signal.apart party⟩

namespace Timeline

variable {line : Timeline} {name : String} {party : PartyId} {waiter : Waiter}

/-- Each wait has a name and a party of its own, and a seat if it has been polled. -/
structure Sound (line : Timeline) : Prop where
  session : line.session.Sound
  names : (line.waiters.map Prod.fst).Nodup
  parties : (line.waiters.map fun wait => wait.2.1).Nodup
  known : ∀ wait ∈ line.waiters, wait.2.1 < line.parties
  seated : ∀ party, party ∈ line.session.signal.seats ↔
    ∃ wait ∈ line.waiters, wait.2.1 = party ∧ wait.2.2.deadline.isSome = true

theorem member_of_found (found : line.find? name = some (party, waiter)) :
    (name, party, waiter) ∈ line.waiters := by
  obtain ⟨before, after, split, -⟩ := List.lookup_eq_some_iff.mp found
  rw [split]
  simp

theorem forgotten (line : Timeline) (name : String) :
    name ∉ (line.forget name).waiters.map Prod.fst := by
  intro member
  obtain ⟨wait, member, rfl⟩ := List.mem_map.mp member
  simp [Timeline.forget] at member

theorem dropped (line : Timeline) (name : String) :
    name ∉ (line.drop name).2.waiters.map Prod.fst := by
  cases found : line.find? name with
  | none =>
    simp only [drop, found]
    intro named
    obtain ⟨wait, member, same⟩ := List.mem_map.mp named
    have other := List.lookup_eq_none_iff.mp found wait member
    simp [same] at other
  | some wait =>
    simp only [drop, found]
    exact line.forgotten name

namespace Sound

theorem of_name (sound : line.Sound) (found : line.find? name = some (party, waiter)) :
    ∀ wait ∈ line.waiters, wait.1 = name → wait = (name, party, waiter) :=
  fun _ member same => List.inj_on_of_nodup_map sound.names member (member_of_found found) same

theorem found_of_member (sound : line.Sound) (member : (name, party, waiter) ∈ line.waiters) :
    line.find? name = some (party, waiter) := by
  cases found : line.find? name with
  | none =>
    have other := List.lookup_eq_none_iff.mp found _ member
    simp at other
  | some wait =>
    obtain ⟨other, waiting⟩ := wait
    cases sound.of_name found _ member rfl
    rfl

theorem of_party (sound : line.Sound) (found : line.find? name = some (party, waiter)) :
    ∀ wait ∈ line.waiters, wait.2.1 = party → wait = (name, party, waiter) :=
  fun _ member same => List.inj_on_of_nodup_map sound.parties member (member_of_found found) same

theorem seat (sound : line.Sound) (found : line.find? name = some (party, waiter)) :
    waiter.deadline.isSome = true ↔ party ∈ line.session.signal.seats := by
  rw [sound.seated]
  constructor
  · intro polled
    exact ⟨_, member_of_found found, rfl, polled⟩
  · rintro ⟨wait, member, same, polled⟩
    rw [sound.of_party found wait member same] at polled
    exact polled

theorem mem_forget (sound : line.Sound) (found : line.find? name = some (party, waiter))
    (wait : String × PartyId × Waiter) :
    wait ∈ (line.forget name).waiters ↔ wait ∈ line.waiters ∧ wait.2.1 ≠ party := by
  simp only [forget, List.mem_filter, bne_iff_ne, ne_eq, and_congr_right_iff]
  intro member
  constructor
  · intro other same
    exact other (by rw [sound.of_party found wait member same])
  · intro other same
    exact other (by rw [sound.of_name found wait member same])

/-- A wait that goes away takes nothing but its seat. -/
theorem forget (sound : line.Sound) (found : line.find? name = some (party, waiter))
    {session : Session} (kept : session.Sound) (records : List Log.Record)
    (seats : session.signal.seats.Perm (line.session.signal.seats.erase party)) :
    Sound { line.forget name with session, records } where
  session := kept
  names := sound.names.sublist ((List.filter_sublist ..).map _)
  parties := sound.parties.sublist ((List.filter_sublist ..).map _)
  known wait member := sound.known wait ((sound.mem_forget found wait).mp member).1
  seated other := by
    rw [seats.mem_iff, sound.session.signal.apart.mem_erase_iff, sound.seated]
    constructor
    · rintro ⟨apart, wait, member, rfl, polled⟩
      exact ⟨wait, (sound.mem_forget found wait).mpr ⟨member, apart⟩, rfl, polled⟩
    · rintro ⟨wait, member, rfl, polled⟩
      obtain ⟨member, apart⟩ := (sound.mem_forget found wait).mp member
      exact ⟨apart, wait, member, rfl, polled⟩

/-- A wait that comes takes a seat if it has been polled. -/
theorem add (sound : line.Sound) {session : Session} (kept : session.Sound) {parties : Nat}
    {records : List Log.Record} (newName : name ∉ line.waiters.map Prod.fst)
    (newParty : party ∉ line.waiters.map fun wait => wait.2.1) (more : line.parties ≤ parties)
    (known : party < parties)
    (seats : ∀ other, other ∈ session.signal.seats ↔
      other = party ∧ waiter.deadline.isSome = true ∨ other ∈ line.session.signal.seats) :
    Sound { line with
      session, parties, records, waiters := (name, party, waiter) :: line.waiters } where
  session := kept
  names := List.nodup_cons.mpr ⟨newName, sound.names⟩
  parties := List.nodup_cons.mpr ⟨newParty, sound.parties⟩
  known := by
    rintro wait (_ | ⟨_, member⟩)
    · exact known
    · exact Nat.lt_of_lt_of_le (sound.known wait member) more
  seated other := by
    rw [seats, sound.seated]
    simp only [List.mem_cons, exists_eq_or_imp, eq_comm]

theorem act (sound : line.Sound) (act : Act) : (line.act act).2.Sound := by
  obtain ⟨kept, seats⟩ := sound.session.act act
  exact { sound with session := kept, seated := fun party => seats.mem_iff.trans (sound.seated party) }

theorem drop (sound : line.Sound) (name : String) : (line.drop name).2.Sound := by
  cases found : line.find? name with
  | none =>
    simp only [Timeline.drop, found]
    exact sound
  | some wait =>
    obtain ⟨kept, seats⟩ := sound.session.abandon wait.1
    simp only [Timeline.drop, found]
    exact sound.forget found kept _ seats

theorem create (sound : line.Sound) (name : String) (timeout : Nat) :
    (line.create name timeout).Sound := by
  have dropped := sound.drop name
  refine dropped.add dropped.session (line.dropped name) ?_ (Nat.le_succ _) (Nat.lt_succ_self _) ?_
  · intro member
    obtain ⟨wait, member, same⟩ := List.mem_map.mp member
    exact absurd (dropped.known wait member) (same ▸ Nat.lt_irrefl _)
  · simp

theorem poll (sound : line.Sound) (name : String) : (line.poll name).2.Sound := by
  cases found : line.find? name with
  | none =>
    rw [poll_of_missing found]
    exact sound
  | some wait =>
    obtain ⟨party, waiter⟩ := wait
    obtain ⟨kept, seats⟩ := Session.poll_seats sound.session (sound.seat found) line.now
    have polled := line.session.poll_polled party waiter line.now
    unfold Timeline.poll
    simp only [found]
    generalize line.session.poll party waiter line.now = ending at kept seats polled ⊢
    obtain ⟨progress, session⟩ := ending
    cases polled with
    | captured held taken same => exact sound.forget found kept _ seats
    | timedOut nothing due empty stopped => exact sound.forget found kept _ seats
    | pending early still same =>
      -- the wait goes away and comes back with its deadline
      obtain ⟨left, leaving⟩ := sound.session.abandon party
      have away := sound.forget found left line.records leaving
      refine away.add kept (line.forgotten name) ?_ (Nat.le_refl _)
        (sound.known _ (member_of_found found)) ?_
      · intro member
        obtain ⟨wait, member, same⟩ := List.mem_map.mp member
        exact ((sound.mem_forget found wait).mp member).2 same
      · intro other
        rw [seats.mem_iff, leaving.mem_iff]
        simp [Session.Progress.isOver]

end Sound

end Timeline

theorem Run.sound {past : List Moment} {line : Timeline} (run : Run past line) : line.Sound := by
  induction run with
  | begin now =>
    exact ⟨⟨⟨.nil, nofun⟩, nofun⟩, .nil, .nil, nofun, by simp [Signal.seats]⟩
  | step run event ih =>
    cases event with
    | act act => exact ih.act act
    | create name timeout => exact ih.create name timeout
    | poll name => exact ih.poll name
    | drop name => exact ih.drop name
    | advance time => exact { ih with }

/-- While a result is held, somebody live has been released as soon as anybody stands in line, and the
released take the result at their next poll, whenever that is. Every wait under way that has been polled
stands in line or has been released, and nobody else does. A poll goes round its loop at most twice. -/
theorem no_lost_wakeup {past : List Moment} {line : Timeline} (run : Run past line) :
    (∀ signature, line.session.result = some signature →
      line.session.signal.line = [] ∨ ∃ name party waiter,
        line.find? name = some (party, waiter) ∧ line.session.signal.isReleased party = true) ∧
    (∀ name party waiter signature, line.find? name = some (party, waiter) →
      line.session.signal.isReleased party = true → line.session.result = some signature →
      (line.poll name).1 = some (.captured signature)) ∧
    (∀ party, party ∈ line.session.signal.line ∨ line.session.signal.isReleased party = true ↔
      ∃ name waiter, line.find? name = some (party, waiter) ∧ waiter.deadline.isSome = true) ∧
    (∀ name party waiter, line.find? name = some (party, waiter) →
      if line.session.looks party waiter then
        ∃ count ≤ 2, Session.Rounds party waiter line.now count (line.session.resumed party waiter)
          (line.session.poll party waiter line.now)
      else line.session.poll party waiter line.now = line.session.await party waiter line.now) := by
  have sound := run.sound
  have live : ∀ party, party ∈ line.session.signal.line ∨ line.session.signal.isReleased party = true ↔
      ∃ name waiter, line.find? name = some (party, waiter) ∧ waiter.deadline.isSome = true := by
    intro party
    rw [Signal.isReleased_iff, ← List.mem_append]
    refine (sound.seated party).trans ⟨?_, ?_⟩
    · rintro ⟨⟨name, party, waiter⟩, member, rfl, polled⟩
      exact ⟨name, waiter, sound.found_of_member member, polled⟩
    · rintro ⟨name, waiter, found, polled⟩
      exact ⟨_, Timeline.member_of_found found, rfl, polled⟩
  refine ⟨?_, ?_, live, fun name party waiter _ => line.session.poll_rounds party waiter line.now⟩
  · intro signature held
    rcases sound.session.heard (by simp [held]) with nobody | released
    · exact .inl nobody
    · right
      obtain ⟨party, member⟩ := List.exists_mem_of_ne_nil _ released
      have released := Signal.isReleased_iff.mpr member
      obtain ⟨name, waiter, found, -⟩ := (live party).mp (.inr released)
      exact ⟨name, party, waiter, found, released⟩
  · intro name party waiter signature found released held
    rw [(Timeline.poll_of_found found).1, Session.poll_of_some held]
    simp [Session.looks, released]

/-- Two waits in line for one result. -/
def crowded : List Event :=
  [.act .start, .create "first" 10, .poll "first", .create "second" 20, .poll "second",
    .act (.offer (.mouseButton 1 .none))]

theorem no_lost_wakeup_crowded :
    let line := (({} : Timeline).play [] crowded).2
    line.session.signal.line = [1] ∧
    line.find? "first" = some (0, ⟨10, some 10⟩) ∧ line.session.signal.isReleased 0 = true ∧
    line.session.result = some (.mouseButton 1 .none) ∧
    (line.poll "first").1 = some (.captured (.mouseButton 1 .none)) := by
  refine ⟨by decide +kernel, by decide +kernel, by decide +kernel, by decide +kernel, ?_⟩
  exact (no_lost_wakeup ((Run.begin 0).play crowded)).2.1 "first" 0 ⟨10, some 10⟩ _
    (by decide +kernel) (by decide +kernel) (by decide +kernel)

end PasteQueue.Capture
