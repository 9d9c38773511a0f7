import PasteQueue.Proofs.Capture.Run

/-!
What a capture delivers and how long it lasts. A session takes at most one offer after each start, and
a wait returns the latest one taken, unless a start has dropped it or another wait has had it. A
capture ends with the first offer, a stop or the end of a wait in vain; the session does not ask for
which capture that wait had begun.
-/

namespace PasteQueue.Capture

def Turn.captured? : Turn → Option Signature
  | .capture signature => some signature
  | _ => none

def Turn.delivered? : Turn → Option Signature
  | .deliver signature => some signature
  | _ => none

theorem Standing.of_append {opening : Turn} {closes : Turn → Prop} {newer older : List Turn}
    (standing : Standing opening closes (newer ++ older)) (fresh : opening ∉ newer) :
    ∀ turn ∈ newer, ¬ closes turn := by
  induction newer with
  | nil => simp
  | cons latest newer ih =>
    obtain ⟨other, rest⟩ := List.ne_and_not_mem_of_not_mem_cons fresh
    obtain ⟨stays, standing⟩ := standing.of_cons.resolve_left (Ne.symm other)
    rintro turn (_ | ⟨_, member⟩)
    · exact stays
    · exact ih standing rest turn member

theorem Turn.captured?_eq_none {turn : Turn} (stays : ¬ turn.Ends) : turn.captured? = none := by
  cases turn with
  | capture signature => exact absurd trivial stays
  | start | stop | deliver | giveUp | idle => rfl

namespace Run

variable {past : List Moment} {line : Timeline} {signature : Signature} {later earlier : List Turn}

theorem capture_standing (run : Run past line)
    (split : turns past = later ++ .capture signature :: earlier) :
    Standing .start Turn.Ends earlier := by
  obtain ⟨before, moment, run, turn, rfl⟩ := run.before_turn split
  have turned := moment.turned
  rw [turn] at turned
  cases turned with
  | capture capturing => exact run.capturing_iff.mp capturing

theorem deliver_standing (run : Run past line)
    (split : turns past = later ++ .deliver signature :: earlier) :
    Standing (.capture signature) Turn.Clears earlier := by
  obtain ⟨before, moment, run, turn, rfl⟩ := run.before_turn split
  have turned := moment.turned
  rw [turn] at turned
  cases turned with
  | deliver held => exact run.held_standing held

theorem one_capture (run : Run past line) {window : List Turn}
    (split : turns past = later ++ window ++ earlier) (fresh : .start ∉ window) :
    (window.filterMap Turn.captured?).length ≤ 1 := by
  induction window generalizing later with
  | nil => simp
  | cons turn window ih =>
    obtain ⟨other, rest⟩ := List.ne_and_not_mem_of_not_mem_cons fresh
    cases taken : turn.captured? with
    | none =>
      rw [List.filterMap_cons_none taken]
      refine @ih (later ++ [turn]) ?_ rest
      simpa using split
    | some signature =>
      have capture : turn = .capture signature := by
        cases turn <;> cases taken
        rfl
      have place : turns past = later ++ .capture signature :: (window ++ earlier) := by
        simpa [capture] using split
      -- the start this capture answers stands before the window, so nothing in it ends a capture
      have standing := run.capture_standing place
      have nobody : window.filterMap Turn.captured? = [] := by
        rw [List.filterMap_eq_nil_iff]
        intro turn member
        exact Turn.captured?_eq_none (standing.of_append rest turn member)
      rw [List.filterMap_cons_some taken, nobody]
      exact Nat.le_refl 1

/-- The captures are those delivered and the one still held, in that order, some of them left out. -/
theorem deliveries_sublist (run : Run past line) :
    (line.session.result.toList ++ (turns past).filterMap Turn.delivered?).Sublist
      ((turns past).filterMap Turn.captured?) := by
  refine run.turn_induction (motive := fun turns session =>
    (session.result.toList ++ turns.filterMap Turn.delivered?).Sublist
      (turns.filterMap Turn.captured?)) .slnil ?_
  intro turns before turn after known turned
  have deliveries : (turns.filterMap Turn.delivered?).Sublist (turns.filterMap Turn.captured?) :=
    (List.sublist_append_right ..).trans known
  cases turned with
  | start _ empty =>
    rw [empty]
    exact deliveries
  | stop _ same =>
    rw [same]
    exact known
  | capture _ _ held =>
    rw [held]
    exact deliveries.cons_cons _
  | giveUp _ _ empty =>
    rw [empty]
    exact deliveries
  | deliver held taken =>
    rw [held] at known
    rw [taken]
    exact known
  | idle _ kept =>
    rw [kept]
    exact known

end Run

/-- At most one offer is taken between two starts, and only while nothing has ended the capture; a
session that captures holds nothing; a wait returns the latest capture if no start has come since and
no wait has had it; and no capture is returned twice. -/
theorem captured_once_and_fresh {past : List Moment} {line : Timeline} (run : Run past line) :
    (∀ later window earlier, turns past = later ++ window ++ earlier → .start ∉ window →
      (window.filterMap Turn.captured?).length ≤ 1) ∧
    (∀ later signature earlier, turns past = later ++ .capture signature :: earlier →
      Standing .start Turn.Ends earlier) ∧
    (line.session.capturing = true → line.session.result = none) ∧
    (∀ later signature earlier, turns past = later ++ .deliver signature :: earlier →
      Standing (.capture signature) Turn.Clears earlier) ∧
    ((turns past).filterMap Turn.delivered?).Sublist ((turns past).filterMap Turn.captured?) := by
  refine ⟨?_, ?_, run.spent, ?_, ?_⟩
  · intro later window earlier split fresh
    exact run.one_capture split fresh
  · intro later signature earlier split
    exact run.capture_standing split
  · intro later signature earlier split
    exact run.deliver_standing split
  · exact (List.sublist_append_right ..).trans run.deliveries_sublist

/-- A start that drops a capture nobody has taken. -/
def restarted : List Event :=
  [.act .start, .create "early" 10, .poll "early", .act (.offer (.mouseButton 1 .none)), .act .start,
    .act (.offer (.mouseButton 2 .none)), .act (.offer (.mouseButton 3 .none)), .poll "early"]

theorem restarted_captured_once :
    let past := (({} : Timeline).play [] restarted).1
    turns past = [.deliver (.mouseButton 2 .none), .idle, .capture (.mouseButton 2 .none), .start,
      .capture (.mouseButton 1 .none), .idle, .idle, .start] ∧
    ((turns past).filterMap Turn.delivered?).Sublist ((turns past).filterMap Turn.captured?) :=
  ⟨by decide +kernel, (captured_once_and_fresh ((Run.begin 0).play restarted)).2.2.2.2⟩

/-! ### How long a capture lasts -/

namespace Moment

variable {moment : Moment} {signature : Signature}

/-- What is offered, taken or not. -/
def offered? (moment : Moment) : Option Signature :=
  match moment.event with
  | .act (.offer signature) => some signature
  | _ => none

theorem offered_of_capture (capture : moment.turn = .capture signature) :
    moment.offered? = some signature := by
  obtain ⟨line, event⟩ := moment
  cases event with
  | act act =>
    cases act with
    | offer offered =>
      dsimp only [turn] at capture
      split at capture <;> cases capture
      rfl
    | start | stop => cases capture
  | poll name =>
    dsimp only [turn] at capture
    split at capture <;> cases capture
  | create | drop | advance => cases capture

theorem stopped_of_offered (offered : moment.offered? = some signature) :
    (moment.line.next moment.event).session.capturing = false := by
  obtain ⟨line, event⟩ := moment
  dsimp only [offered?] at offered
  split at offered <;> cases offered
  dsimp only [Timeline.next, Timeline.act, Session.act, Session.offer]
  cases capturing : line.session.capturing <;> simp [capturing]

theorem capturing_next (moment : Moment) (again : moment.turn ≠ .start) :
    (moment.line.next moment.event).session.capturing = true ↔
      moment.line.session.capturing = true ∧
        moment.offered? = none ∧ moment.turn ≠ .stop ∧ moment.turn ≠ .giveUp := by
  cases offered : moment.offered? with
  | some signature => simp [stopped_of_offered offered]
  | none =>
    have turned := moment.turned
    generalize kind : moment.turn = turn at again turned ⊢
    cases turned with
    | start => exact absurd rfl again
    | capture => cases (offered_of_capture kind).symm.trans offered
    | stop stopped => simp [stopped]
    | giveUp _ stopped => simp [stopped]
    | deliver _ _ same => simp [same]
    | idle same => simp [same]

end Moment

/-- After a start the session captures until the first offer, a stop, a further start or the end of a
wait in vain, whichever capture that wait was begun for. -/
theorem capture_lasts_until {past newer older : List Moment} {opening : Moment} {line : Timeline}
    (run : Run past line) (split : past = newer ++ opening :: older) (started : opening.turn = .start)
    (once : ∀ moment ∈ newer, moment.turn ≠ .start) :
    line.session.capturing = true ↔
      ∀ moment ∈ newer, moment.offered? = none ∧ moment.turn ≠ .stop ∧ moment.turn ≠ .giveUp := by
  induction newer generalizing past line with
  | nil =>
    cases split
    cases run with
    | @step _ line run event =>
      have turned := Moment.turned ⟨line, event⟩
      rw [started] at turned
      cases turned with
      | start capturing => simpa using capturing
  | cons latest newer ih =>
    cases split
    cases run with
    | @step _ line run event =>
      have before := ih run rfl fun moment member => once moment (.tail _ member)
      rw [List.forall_mem_cons, ← before, and_comm]
      exact Moment.capturing_next ⟨line, event⟩ (once _ (.head _))

theorem capture_lasts_while_polled :
    let opening : Moment := ⟨{}, .act .start⟩
    let played := ({} : Timeline).play [] [.act .start, .create "only" 10, .poll "only"]
    opening.turn = .start ∧ (∀ moment ∈ played.1.take 2, moment.turn ≠ .start) ∧
      (played.2.session.capturing = true ↔ ∀ moment ∈ played.1.take 2,
        moment.offered? = none ∧ moment.turn ≠ .stop ∧ moment.turn ≠ .giveUp) :=
  ⟨rfl, by decide +kernel, capture_lasts_until ((Run.begin 0).play _) rfl rfl (by decide +kernel)⟩

namespace Moment

def polled? (moment : Moment) : Option (PartyId × Waiter) :=
  match moment.event with
  | .poll name => moment.line.find? name
  | _ => none

/-- The party whose wait is polled for the first time. -/
def begun? (moment : Moment) : Option PartyId :=
  (moment.polled?.filter fun wait => wait.2.deadline.isNone).map Prod.fst

/-- The wait that is polled was polled for the first time at one of these moments. -/
def BegunAmong (moment : Moment) (moments : List Moment) : Prop :=
  ∃ wait ∈ moment.polled?, ∃ first ∈ moments, first.begun? = some wait.1

end Moment

/-- Two captures, each with a wait of its own, the older of which gives up first. -/
def overlapping : List Event :=
  [.act .start, .create "older" 10, .poll "older", .advance 5,
    .act .start, .create "newer" 10, .poll "newer", .advance 5, .poll "older"]

theorem capture_ended_by_older_wait :
    ¬ ∀ (past newer older : List Moment) (opening : Moment) (line : Timeline), Run past line →
      past = newer ++ opening :: older → opening.turn = .start →
      (∀ moment ∈ newer, moment.turn ≠ .start ∧ moment.offered? = none ∧ moment.turn ≠ .stop ∧
        ¬ (moment.turn = .giveUp ∧ moment.BegunAmong newer)) →
      line.session.capturing = true := by
  intro lasts
  let past := (({} : Timeline).play [] overlapping).1
  have capturing := lasts past (past.take 4) (past.drop 5) past[4] _
    ((Run.begin 0).play overlapping) rfl rfl ?_
  · revert capturing
    decide +kernel
  · unfold Moment.BegunAmong
    decide +kernel

end PasteQueue.Capture
