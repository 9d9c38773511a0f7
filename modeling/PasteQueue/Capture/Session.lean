import PasteQueue.Capture.Signal
import PasteQueue.Log.Record
import PasteQueue.Signature.Hint
import PasteQueue.Text.Duration

/-!
Capturing one input. A session that captures takes the first signature offered to it, keeps it for
whoever waits, and stops capturing. Waiting goes on in polls: a waiter looks for the result, stands
in line for the signal, and gives up at its deadline, which ends the capture. Times are
milliseconds.
-/

namespace PasteQueue.Capture

open Log (Record)

def target : String := "clipqueue_core::capture"

structure Session where
  capturing : Bool := false
  result : Option Signature := none
  signal : Signal := {}
  deriving DecidableEq, Repr

/-- The deadline counts from the first poll, and is not known before. -/
structure Waiter where
  timeout : Nat
  deadline : Option Nat := none
  deriving DecidableEq, Repr

structure Timeout where
  timeout : Nat
  deriving DecidableEq, Repr

def Timeout.message (fault : Timeout) : String :=
  "no input captured within " ++ Text.duration fault.timeout

namespace Session

/-- A result that nobody has taken is dropped. -/
def start (session : Session) : Session := { session with capturing := true, result := none }

def startRecords (session : Session) : List Record :=
  (session.result.toList.map fun stale =>
    ⟨.debug, target, "dropping stale captured signature", [("hotkey", .plain stale.hint)]⟩) ++
  [⟨.info, target, "hotkey capture started", []⟩]

def stop (session : Session) : Session := { session with capturing := false }

def stopRecords (session : Session) : List Record :=
  if session.capturing then [⟨.info, target, "hotkey capture stopped", []⟩] else []

/-- Whether the session took the signature, and the session after that. -/
def offer (session : Session) (signature : Signature) : Bool × Session :=
  if session.capturing then
    (true,
      { capturing := false, result := some signature, signal := session.signal.notify })
  else (false, session)

def offerRecords (session : Session) (signature : Signature) : List Record :=
  if session.capturing then
    [⟨.info, target, "captured input signature", [("hotkey", .plain signature.hint)]⟩]
  else []

def take (session : Session) : Option Signature × Session :=
  (session.result, { session with result := none })

/-- Goes round as long as there is a permit to use up: takes the result, or stands in line. -/
def look (session : Session) (party : PartyId) : Option Signature × Session :=
  match session.result with
  | some _ => session.take
  | none =>
    if session.signal.permit then
      look { session with signal := session.signal.usePermit } party
    else (none, { session with signal := session.signal.join party })
termination_by session.signal.permit.toNat
decreasing_by simp_all [Signal.usePermit]

inductive Progress
  | pending (waiter : Waiter)
  | captured (signature : Signature)
  | timedOut (fault : Timeout)
  deriving DecidableEq, Repr

/-- At the deadline the result gets a last look; without one the capture ends. -/
def expire (session : Session) (party : PartyId) (waiter : Waiter) : Progress × Session :=
  let left := { session with signal := session.signal.leave party }
  match left.result with
  | some signature => (.captured signature, left.take.2)
  | none => (.timedOut ⟨waiter.timeout⟩, left.stop)

/-- The release, or the first poll, is looked at before the deadline. -/
def wake (session : Session) (party : PartyId) (first : Bool) : Option Signature × Session :=
  if first then session.look party
  else if session.signal.isReleased party then
    look { session with signal := session.signal.acknowledge party } party
  else (none, session)

def poll (session : Session) (party : PartyId) (waiter : Waiter) (now : Nat) : Progress × Session :=
  let deadline := waiter.deadline.getD (now + waiter.timeout)
  match session.wake party waiter.deadline.isNone with
  | (some signature, after) => (.captured signature, after)
  | (none, after) =>
    if deadline ≤ now then after.expire party waiter
    else (.pending { waiter with deadline := some deadline }, after)

/-- Only a wait that gives up is spoken of. -/
def pollRecords (session : Session) (party : PartyId) (waiter : Waiter) (now : Nat) : List Record :=
  match (session.poll party waiter now).1 with
  | .timedOut fault =>
    session.stopRecords ++
      [⟨.warn, target, "hotkey capture timed out",
        [("timeout", .plain (Text.duration fault.timeout))]⟩]
  | _ => []

def abandon (session : Session) (party : PartyId) : Session :=
  { session with signal := session.signal.leave party }

end Session

end PasteQueue.Capture
