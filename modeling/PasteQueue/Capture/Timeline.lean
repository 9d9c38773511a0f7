import PasteQueue.Capture.Session
import PasteQueue.Clock

/-!
Captures played through on a clock that the player moves: waits with somebody acting meanwhile, and
waits polled by hand under names.
-/

namespace PasteQueue.Capture

open Log (Record)

inductive Act
  | start
  | stop
  | offer (signature : Signature)
  deriving DecidableEq, Repr

def Session.act (session : Session) : Act → Option Bool × Session
  | .start => (none, session.start)
  | .stop => (none, session.stop)
  | .offer signature => ((session.offer signature).1, (session.offer signature).2)

def Session.actRecords (session : Session) : Act → List Record
  | .start => session.startRecords
  | .stop => session.stopRecords
  | .offer signature => session.offerRecords signature

/-- A session on a clock, with the waits that are under way and what the log says so far. -/
structure Timeline where
  session : Session := {}
  now : Nat := 0
  waiters : List (String × PartyId × Waiter) := []
  parties : Nat := 0
  records : List Record := []
  deriving Repr

/-- How a wait ended, when, and whether the session captured at that moment. -/
structure Ending where
  result : Except Timeout Signature
  time : Nat
  capturing : Bool
  deriving Repr

namespace Timeline

def act (line : Timeline) (act : Act) : Option Bool × Timeline :=
  ((line.session.act act).1,
    { line with
      session := (line.session.act act).2
      records := line.records ++ line.session.actRecords act })

def find? (line : Timeline) (name : String) : Option (PartyId × Waiter) := line.waiters.lookup name

def forget (line : Timeline) (name : String) : Timeline :=
  { line with waiters := line.waiters.filter (·.1 != name) }

def drop (line : Timeline) (name : String) : Bool × Timeline :=
  match line.find? name with
  | some (party, _) =>
    (true, { line.forget name with session := line.session.abandon party })
  | none => (false, line)

/-- A new wait takes the place of one of the same name. -/
def create (line : Timeline) (name : String) (timeout : Nat) : Timeline :=
  let line := (line.drop name).2
  { line with
    waiters := (name, line.parties, { timeout }) :: line.waiters, parties := line.parties + 1 }

def poll (line : Timeline) (name : String) : Option Session.Progress × Timeline :=
  match line.find? name with
  | none => (none, line)
  | some (party, waiter) =>
    let progress := line.session.poll party waiter line.now
    let after := { line.forget name with
      session := progress.2
      records := line.records ++ line.session.pollRecords party waiter line.now }
    match progress.1 with
    | .pending waiter =>
      (some progress.1, { after with waiters := (name, party, waiter) :: after.waiters })
    | _ => (some progress.1, after)

def advance (line : Timeline) (time : Nat) : Timeline := { line with now := line.now + time }

/-- The wait of a name and, once it is over, how it ended. -/
def pollTill (line : Timeline) (name : String) (ending : Option Ending) :
    Option Ending × Timeline :=
  match ending with
  | some _ => (ending, line)
  | none =>
    match line.poll name with
    | (some (.captured signature), after) =>
      (some ⟨.ok signature, after.now, after.session.capturing⟩, after)
    | (some (.timedOut fault), after) =>
      (some ⟨.error fault, after.now, after.session.capturing⟩, after)
    | (_, after) => (none, after)

def deadline? (line : Timeline) (name : String) : Option Nat :=
  (line.find? name).bind fun found => found.2.deadline

/-- Moves the clock to a time and lets the wait end on the way if its deadline comes first. -/
def moveTo (line : Timeline) (name : String) (ending : Option Ending) (time : Nat) :
    Option Ending × Timeline :=
  match line.deadline? name with
  | some deadline =>
    if deadline ≤ time then
      let (ending, line) := pollTill { line with now := max line.now deadline } name ending
      (ending, { line with now := time })
    else (ending, { line with now := time })
  | none => (ending, { line with now := time })

/-- Somebody who rests lets the wait see what has been done so far. -/
def restWhile (line : Timeline) (name : String) (ending : Option Ending) (millis : Nat) :
    Option Ending × Timeline :=
  if millis = 0 then (ending, line)
  else
    let (ending, line) := line.pollTill name ending
    line.moveTo name ending (line.now + Clock.rest millis)

def meanwhileFrom (line : Timeline) (name : String) (ending : Option Ending) :
    List (Nat × Act) → List (Option Bool) × Option Ending × Timeline
  | [] => ([], line.pollTill name ending)
  | (after, act) :: rest =>
    let (ending, line) := line.restWhile name ending after
    let (answer, line) := line.act act
    let (answers, ending, line) := line.meanwhileFrom name ending rest
    (answer :: answers, ending, line)

/-- Waits while somebody acts, each act after its own rest, until both are done. -/
def wait (line : Timeline) (timeout : Nat) (meanwhile : List (Nat × Act)) :
    List (Option Bool) × Option Ending × Timeline :=
  let name := ""
  let (ending, line) := (line.create name timeout).pollTill name none
  let (answers, ending, line) := line.meanwhileFrom name ending meanwhile
  let (ending, line) :=
    match line.deadline? name with
    | some deadline => line.moveTo name ending (max line.now deadline)
    | none => (ending, line)
  (answers, ending, line)

end Timeline

end PasteQueue.Capture
