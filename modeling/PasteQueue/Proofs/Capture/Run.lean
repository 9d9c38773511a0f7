import PasteQueue.Capture.Timeline
import PasteQueue.Proofs.Capture.Poll

/-!
Runs of a capture session with any number of waits. A run keeps its past: what happened, with the line
it happened on, the latest first. A moment turns the capture if it begins it, ends it, or takes what it
has caught, and nothing else does.
-/

namespace PasteQueue.Capture

inductive Event
  | act (act : Act)
  | create (name : String) (timeout : Nat)
  | poll (name : String)
  | drop (name : String)
  | advance (time : Nat)
  deriving DecidableEq, Repr

def Timeline.next (line : Timeline) : Event → Timeline
  | .act act => (line.act act).2
  | .create name timeout => line.create name timeout
  | .poll name => (line.poll name).2
  | .drop name => (line.drop name).2
  | .advance time => line.advance time

structure Moment where
  line : Timeline
  event : Event

inductive Run : List Moment → Timeline → Prop
  | begin (now : Nat) : Run [] { now }
  | step {past : List Moment} {line : Timeline} (run : Run past line) (event : Event) :
      Run (⟨line, event⟩ :: past) (line.next event)

def Timeline.play (line : Timeline) (past : List Moment) : List Event → List Moment × Timeline
  | [] => (past, line)
  | event :: rest => (line.next event).play (⟨line, event⟩ :: past) rest

theorem Run.play {past : List Moment} {line : Timeline} (run : Run past line) (events : List Event) :
    Run (line.play past events).1 (line.play past events).2 := by
  induction events generalizing past line with
  | nil => exact run
  | cons event rest ih => exact ih (run.step event)

theorem Run.before {newer older : List Moment} {moment : Moment} {line : Timeline}
    (run : Run (newer ++ moment :: older) line) : Run older moment.line := by
  induction newer generalizing line with
  | nil =>
    cases run with
    | step earlier event => exact earlier
  | cons latest newer ih =>
    cases run with
    | step earlier event => exact ih earlier

/-! ### Turns of the capture -/

inductive Turn
  | start
  | stop
  | capture (signature : Signature)
  | deliver (signature : Signature)
  | giveUp
  | idle
  deriving DecidableEq, Repr

/-- An offer is a turn only if the session took it, a poll only if its wait is over. -/
def Moment.turn (moment : Moment) : Turn :=
  match moment.event with
  | .act .start => .start
  | .act .stop => .stop
  | .act (.offer signature) =>
    if (moment.line.session.offer signature).1 then .capture signature else .idle
  | .poll name =>
    match (moment.line.poll name).1 with
    | some (.captured signature) => .deliver signature
    | some (.timedOut _) => .giveUp
    | _ => .idle
  | .create .. | .drop _ | .advance _ => .idle

/-- What a turn finds in the session, and what it leaves there. -/
inductive Turned (before : Session) : Turn → Session → Prop
  | start {after : Session} (capturing : after.capturing = true) (empty : after.result = none) :
      Turned before .start after
  | stop {after : Session} (stopped : after.capturing = false) (same : after.result = before.result) :
      Turned before .stop after
  | capture {signature : Signature} {after : Session} (capturing : before.capturing = true)
      (stopped : after.capturing = false) (held : after.result = some signature) :
      Turned before (.capture signature) after
  | deliver {signature : Signature} {after : Session} (held : before.result = some signature)
      (taken : after.result = none) (same : after.capturing = before.capturing) :
      Turned before (.deliver signature) after
  | giveUp {after : Session} (nothing : before.result = none) (stopped : after.capturing = false)
      (empty : after.result = none) : Turned before .giveUp after
  | idle {after : Session} (same : after.capturing = before.capturing)
      (kept : after.result = before.result) : Turned before .idle after

namespace Timeline

variable {line : Timeline} {name : String}

theorem poll_of_missing (missing : line.find? name = none) : line.poll name = (none, line) := by
  simp only [poll, missing]

theorem poll_of_found {party : PartyId} {waiter : Waiter}
    (found : line.find? name = some (party, waiter)) :
    (line.poll name).1 = some (line.session.poll party waiter line.now).1 ∧
    (line.poll name).2.session = (line.session.poll party waiter line.now).2 := by
  simp only [poll, found]
  split <;> exact ⟨rfl, rfl⟩

theorem drop_frame (line : Timeline) (name : String) :
    (line.drop name).2.session.capturing = line.session.capturing ∧
    (line.drop name).2.session.result = line.session.result := by
  unfold drop
  split <;> exact ⟨rfl, rfl⟩

end Timeline

theorem Moment.turned (moment : Moment) :
    Turned moment.line.session moment.turn (moment.line.next moment.event).session := by
  obtain ⟨line, event⟩ := moment
  cases event with
  | act act =>
    cases act with
    | start => exact .start rfl rfl
    | stop => exact .stop rfl rfl
    | offer signature =>
      dsimp only [turn, Timeline.next, Timeline.act, Session.act]
      cases capturing : line.session.capturing with
      | true =>
        simp only [Session.offer, capturing, if_true]
        exact .capture capturing rfl rfl
      | false =>
        simp only [Session.offer, capturing, Bool.false_eq_true, if_false]
        exact .idle rfl rfl
  | poll name =>
    dsimp only [turn, Timeline.next]
    cases found : line.find? name with
    | none =>
      rw [Timeline.poll_of_missing found]
      exact .idle rfl rfl
    | some wait =>
      obtain ⟨party, waiter⟩ := wait
      obtain ⟨progress, session⟩ := Timeline.poll_of_found found
      rw [progress, session]
      have polled := line.session.poll_polled party waiter line.now
      generalize line.session.poll party waiter line.now = ending at polled ⊢
      obtain ⟨progress, after⟩ := ending
      cases polled with
      | captured held taken same => exact .deliver held taken same
      | timedOut nothing due empty stopped => exact .giveUp nothing stopped empty
      | pending early kept same => exact .idle same kept
  | create name timeout =>
    obtain ⟨capturing, result⟩ := line.drop_frame name
    exact .idle capturing result
  | drop name =>
    obtain ⟨capturing, result⟩ := line.drop_frame name
    exact .idle capturing result
  | advance time => exact .idle rfl rfl

/-! ### Turns that still stand -/

/-- Such a turn has come, and since then none that closes it. -/
def Standing (opening : Turn) (closes : Turn → Prop) (turns : List Turn) : Prop :=
  ∃ newer older, turns = newer ++ opening :: older ∧ ∀ turn ∈ newer, ¬ closes turn

/-- The capture is over. -/
def Turn.Ends : Turn → Prop
  | .stop | .capture _ | .giveUp => True
  | _ => False

/-- What had been captured before is gone. -/
def Turn.Clears : Turn → Prop
  | .start | .capture _ | .deliver _ => True
  | _ => False

section Standing

variable {opening turn : Turn} {closes : Turn → Prop} {turns : List Turn}

theorem Standing.now : Standing opening closes (opening :: turns) :=
  ⟨[], turns, rfl, by simp⟩

theorem Standing.later (standing : Standing opening closes turns) (stays : ¬ closes turn) :
    Standing opening closes (turn :: turns) := by
  obtain ⟨newer, older, rfl, none⟩ := standing
  refine ⟨turn :: newer, older, rfl, ?_⟩
  rintro later (_ | ⟨_, member⟩)
  · exact stays
  · exact none later member

theorem Standing.of_cons (standing : Standing opening closes (turn :: turns)) :
    turn = opening ∨ ¬ closes turn ∧ Standing opening closes turns := by
  obtain ⟨newer, older, split, none⟩ := standing
  cases newer with
  | nil =>
    cases split
    exact .inl rfl
  | cons latest newer =>
    cases split
    refine .inr ⟨none _ (.head _), newer, older, rfl, ?_⟩
    intro later member
    exact none later (.tail _ member)

theorem not_standing_of_closed (closed : closes turn) (other : turn ≠ opening) :
    ¬ Standing opening closes (turn :: turns) := by
  intro standing
  rcases standing.of_cons with same | ⟨stays, -⟩
  · exact other same
  · exact stays closed

theorem standing_cons_iff (stays : ¬ closes turn) (other : turn ≠ opening) :
    Standing opening closes (turn :: turns) ↔ Standing opening closes turns :=
  ⟨fun standing => (standing.of_cons.resolve_left other).2, fun standing => standing.later stays⟩

theorem not_standing_nil : ¬ Standing opening closes [] := by
  rintro ⟨newer, older, split, -⟩
  simp at split

end Standing

def turns (past : List Moment) : List Turn := past.map Moment.turn

namespace Run

variable {past : List Moment} {line : Timeline}

theorem before_turn (run : Run past line) {newer older : List Turn} {turn : Turn}
    (split : turns past = newer ++ turn :: older) :
    ∃ earlier, ∃ moment : Moment,
      Run earlier moment.line ∧ moment.turn = turn ∧ turns earlier = older := by
  obtain ⟨later, rest, rfl, rfl, same⟩ := List.map_eq_append_iff.mp split
  obtain ⟨moment, earlier, rfl, turned, rfl⟩ := List.map_eq_cons_iff.mp same
  exact ⟨earlier, moment, run.before, turned, rfl⟩

/-- What each turn keeps, whatever it is that turns, holds along a run. -/
theorem turn_induction {motive : List Turn → Session → Prop} (run : Run past line)
    (begin : motive [] {})
    (step : ∀ {turns before turn after}, motive turns before → Turned before turn after →
      motive (turn :: turns) after) :
    motive (turns past) line.session := by
  induction run with
  | begin now => exact begin
  | step run event ih => exact step ih (Moment.turned ⟨_, event⟩)

theorem capturing_iff (run : Run past line) :
    line.session.capturing = true ↔ Standing .start Turn.Ends (turns past) := by
  refine run.turn_induction (motive := fun turns session =>
    session.capturing = true ↔ Standing .start Turn.Ends turns) ?_ ?_
  · exact iff_of_false Bool.false_ne_true not_standing_nil
  · intro turns before turn after known turned
    cases turned with
    | start capturing => exact iff_of_true capturing .now
    | stop stopped => exact iff_of_false (by simp [stopped]) (not_standing_of_closed trivial nofun)
    | capture _ stopped => exact iff_of_false (by simp [stopped]) (not_standing_of_closed trivial nofun)
    | giveUp _ stopped => exact iff_of_false (by simp [stopped]) (not_standing_of_closed trivial nofun)
    | deliver _ _ same =>
      rw [same, known]
      exact Iff.symm (standing_cons_iff id nofun)
    | idle same =>
      rw [same, known]
      exact Iff.symm (standing_cons_iff id nofun)

/-- A session that captures holds nothing. -/
theorem spent (run : Run past line) (capturing : line.session.capturing = true) :
    line.session.result = none := by
  refine run.turn_induction (motive := fun _ session =>
    session.capturing = true → session.result = none) ?_ ?_ capturing
  · intro
    rfl
  · intro turns before turn after known turned capturing
    cases turned with
    | start _ empty => exact empty
    | stop stopped => simp [stopped] at capturing
    | capture _ stopped => simp [stopped] at capturing
    | giveUp _ _ empty => exact empty
    | deliver _ taken => exact taken
    | idle same kept => exact kept.trans (known (same ▸ capturing))

/-- What the session holds is the latest capture, not yet cleared away. -/
theorem held_standing (run : Run past line) {signature : Signature}
    (held : line.session.result = some signature) :
    Standing (.capture signature) Turn.Clears (turns past) := by
  refine run.turn_induction (motive := fun turns session =>
    session.result = some signature → Standing (.capture signature) Turn.Clears turns) ?_ ?_ held
  · intro held
    cases held
  · intro turns before turn after known turned held
    cases turned with
    | start _ empty => simp [empty] at held
    | stop _ same => exact (known (same ▸ held)).later id
    | capture _ _ caught =>
      cases caught.symm.trans held
      exact .now
    | giveUp _ _ empty => simp [empty] at held
    | deliver _ taken => simp [taken] at held
    | idle _ kept => exact (known (kept ▸ held)).later id

end Run

end PasteQueue.Capture
