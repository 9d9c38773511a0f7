import PasteQueue.Capture.Session

/-!
What a poll of a wait leads to. If a result is held, a poll that looks for it takes it: the first one,
one after a release, or one at the deadline. If none is held, the wait stands in line, or gives up at
its deadline. A poll goes round the loop of its wait at most twice: once more than that only a permit
could make it, and there is at most one.
-/

namespace PasteQueue.Capture

/-- The deadline that holds from a poll on. -/
def Waiter.due (waiter : Waiter) (now : Nat) : Nat := waiter.deadline.getD (now + waiter.timeout)

namespace Session

variable {session : Session} {party : PartyId} {waiter : Waiter} {now : Nat} {signature : Signature}

theorem look_of_some (held : session.result = some signature) :
    session.look party = (some signature, { session with result := none }) := by
  unfold look
  simp [held, take]

theorem look_of_none (nothing : session.result = none) :
    session.look party =
      (none, { session with signal := session.signal.usePermit.join party }) := by
  have stand : ∀ calm : Session, calm.result = none → calm.signal.permit = false →
      calm.look party = (none, { calm with signal := calm.signal.join party }) := by
    intro calm none used
    unfold look
    simp [none, used]
  cases permit : session.signal.permit with
  | false =>
    have used : session.signal.usePermit = session.signal := by
      rw [Signal.usePermit, ← permit]
    rw [used]
    exact stand session nothing permit
  | true =>
    have settled := stand { session with signal := session.signal.usePermit } nothing rfl
    unfold look
    simpa only [nothing, permit, if_true] using settled

/-- A poll looks for a result, unless it goes on waiting behind a look in vain. -/
def looks (session : Session) (party : PartyId) (waiter : Waiter) : Bool :=
  waiter.deadline.isNone || session.signal.isReleased party

/-- The session as the look of a poll finds it: a release has been seen. -/
def resumed (session : Session) (party : PartyId) (waiter : Waiter) : Session :=
  if waiter.deadline.isNone then session
  else { session with signal := session.signal.acknowledge party }

theorem resumed_frame (session : Session) (party : PartyId) (waiter : Waiter) :
    (session.resumed party waiter).capturing = session.capturing ∧
    (session.resumed party waiter).result = session.result := by
  unfold resumed
  split <;> exact ⟨rfl, rfl⟩

theorem wake_of_looks (looks : session.looks party waiter = true) :
    session.wake party waiter.deadline.isNone = (session.resumed party waiter).look party := by
  unfold wake resumed
  cases first : waiter.deadline.isNone with
  | true => rfl
  | false =>
    have released : session.signal.isReleased party = true := by
      simpa [Session.looks, first] using looks
    simp [released]

theorem wake_of_waits (waits : session.looks party waiter = false) :
    session.wake party waiter.deadline.isNone = (none, session) := by
  obtain ⟨first, released⟩ := Bool.or_eq_false_iff.mp waits
  simp [wake, first, released]

/-- The signal behind a look in vain, or behind none. -/
def heard (session : Session) (party : PartyId) (waiter : Waiter) : Signal :=
  if session.looks party waiter then (session.resumed party waiter).signal.usePermit.join party
  else session.signal

/-- What a party that stands in line comes to: it gives up at the deadline, or goes on waiting. -/
def await (session : Session) (party : PartyId) (waiter : Waiter) (now : Nat) : Progress × Session :=
  if waiter.due now ≤ now then session.expire party waiter
  else (.pending { waiter with deadline := some (waiter.due now) }, session)

theorem poll_of_wake {after : Session}
    (woken : session.wake party waiter.deadline.isNone = (none, after)) :
    session.poll party waiter now = after.await party waiter now := by
  unfold poll
  rw [woken]
  rfl

theorem poll_of_none (nothing : session.result = none) :
    session.poll party waiter now =
      if waiter.due now ≤ now then
        (.timedOut ⟨waiter.timeout⟩,
          { capturing := false, result := none
            signal := (session.heard party waiter).leave party })
      else
        (.pending { waiter with deadline := some (waiter.due now) },
          { session with signal := session.heard party waiter }) := by
  have woken : session.wake party waiter.deadline.isNone =
      (none, { session with signal := session.heard party waiter }) := by
    cases looks : session.looks party waiter with
    | true =>
      obtain ⟨capturing, result⟩ := session.resumed_frame party waiter
      rw [wake_of_looks looks, look_of_none (result.trans nothing)]
      simp [heard, looks, capturing, result]
    | false =>
      rw [wake_of_waits looks]
      simp [heard, looks]
  rw [poll_of_wake woken, await]
  simp only [expire, nothing, stop]

theorem poll_of_some (held : session.result = some signature) :
    session.poll party waiter now =
      if session.looks party waiter then
        (.captured signature, { session.resumed party waiter with result := none })
      else if waiter.due now ≤ now then
        (.captured signature,
          { session with result := none, signal := session.signal.leave party })
      else (.pending { waiter with deadline := some (waiter.due now) }, session) := by
  cases looks : session.looks party waiter with
  | true =>
    unfold poll
    rw [wake_of_looks looks, look_of_some ((session.resumed_frame party waiter).2.trans held)]
    rfl
  | false =>
    rw [poll_of_wake (wake_of_waits looks), await]
    simp only [expire, held, take, Bool.false_eq_true, if_false]

inductive Polled (session : Session) (waiter : Waiter) (now : Nat) : Progress → Session → Prop
  | captured {signature : Signature} {after : Session} (held : session.result = some signature)
      (taken : after.result = none) (same : after.capturing = session.capturing) :
      Polled session waiter now (.captured signature) after
  | timedOut {after : Session} (nothing : session.result = none) (due : waiter.due now ≤ now)
      (empty : after.result = none) (stopped : after.capturing = false) :
      Polled session waiter now (.timedOut ⟨waiter.timeout⟩) after
  | pending {after : Session} (early : now < waiter.due now) (kept : after.result = session.result)
      (same : after.capturing = session.capturing) :
      Polled session waiter now (.pending { waiter with deadline := some (waiter.due now) }) after

theorem poll_polled (session : Session) (party : PartyId) (waiter : Waiter) (now : Nat) :
    Polled session waiter now (session.poll party waiter now).1 (session.poll party waiter now).2 := by
  cases held : session.result with
  | none =>
    rw [poll_of_none held]
    split
    · rename_i due
      exact .timedOut held due rfl rfl
    · rename_i early
      exact .pending (Nat.lt_of_not_le early) rfl rfl
  | some signature =>
    rw [poll_of_some held]
    split
    · exact .captured held rfl (session.resumed_frame party waiter).1
    · split
      · exact .captured held rfl rfl
      · rename_i early
        exact .pending (Nat.lt_of_not_le early) rfl rfl

/-! ### The loop of a wait -/

/-- The rounds that a poll makes: a round takes the result, uses up a permit and goes round again, or
stands in line. -/
inductive Rounds (party : PartyId) (waiter : Waiter) (now : Nat) :
    Nat → Session → Progress × Session → Prop
  | take {session : Session} {signature : Signature} (held : session.result = some signature) :
      Rounds party waiter now 1 session (.captured signature, session.take.2)
  | stand {session : Session} (nothing : session.result = none)
      (used : session.signal.permit = false) :
      Rounds party waiter now 1 session
        (await { session with signal := session.signal.join party } party waiter now)
  | again {session : Session} {count : Nat} {outcome : Progress × Session}
      (nothing : session.result = none) (permit : session.signal.permit = true)
      (rest : Rounds party waiter now count { session with signal := session.signal.usePermit }
        outcome) :
      Rounds party waiter now (count + 1) session outcome

theorem rounds_look (session : Session) (party : PartyId) (waiter : Waiter) (now : Nat) :
    ∃ count ≤ 2, Rounds party waiter now count session
      (match session.look party with
        | (some signature, after) => (.captured signature, after)
        | (none, after) => after.await party waiter now) := by
  cases held : session.result with
  | some signature =>
    rw [look_of_some held]
    exact ⟨1, by decide, .take held⟩
  | none =>
    rw [look_of_none held]
    cases permit : session.signal.permit with
    | false =>
      have used : session.signal.usePermit = session.signal := by
        rw [Signal.usePermit, ← permit]
      rw [used]
      exact ⟨1, by decide, .stand held permit⟩
    | true =>
      -- the permit is used up in the first round, so the second one cannot find it
      exact ⟨2, by decide, .again held permit (.stand held rfl)⟩

/-- A poll that looks makes its rounds, at most two; any other looks at its deadline only. -/
theorem poll_rounds (session : Session) (party : PartyId) (waiter : Waiter) (now : Nat) :
    if session.looks party waiter then
      ∃ count ≤ 2, Rounds party waiter now count (session.resumed party waiter)
        (session.poll party waiter now)
    else session.poll party waiter now = session.await party waiter now := by
  cases looks : session.looks party waiter with
  | true =>
    obtain ⟨count, few, rounds⟩ := rounds_look (session.resumed party waiter) party waiter now
    have same : session.poll party waiter now =
        match (session.resumed party waiter).look party with
        | (some signature, after) => (.captured signature, after)
        | (none, after) => after.await party waiter now := by
      unfold poll
      rw [wake_of_looks looks]
      rfl
    rw [if_pos rfl, same]
    exact ⟨count, few, rounds⟩
  | false =>
    simp only [Bool.false_eq_true, if_false]
    exact poll_of_wake (wake_of_waits looks)

end Session

end PasteQueue.Capture
