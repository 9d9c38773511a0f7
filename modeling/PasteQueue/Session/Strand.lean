import PasteQueue.Bindings
import PasteQueue.Clock
import PasteQueue.Dispatch
import PasteQueue.Session.Labels

/-!
A session of the wired application: controller, registry, capture and input source, and the strands
of execution that are under way in it. Strand 0 is the script that drives the session, strand 1 the
watcher's worker.
-/

namespace PasteQueue

open Clipboard (Content Item ItemId)

namespace Session

/-- Steps of a script that a task can take too. -/
inductive Move
  | external (content : Content)
  | copy (content : Content)
  | operate (operation : Controller.Operation)
  | copyItem (label : String)
  | sleep (millis : Nat)
  | fail (call : Desktop.Call) (script : List (Option String))
  | holdSequence (sequence : Option UInt32)

inductive Purpose
  | script
  | task
  | action (action : Action)
  | worker
  deriving DecidableEq, Repr

inductive Strand
  | operation (stage : Controller.Stage) (purpose : Purpose)
  /-- An operation that has stopped before a barrier it could have tried. -/
  | paused (stage : Controller.Stage) (purpose : Purpose)
  | action (action : Action)
  | task (delay : Nat) (move : Move)
  | asleep
  | joining (strands : List StrandId)
  | yielding (capture : StrandId)
  | worker
  | cancelled (stage : Option Controller.Stage)
  | capture (timeout : Nat)
  | waiting (waiter : Capture.Waiter)

inductive Outcome
  | silent
  | result (result : Controller.Result)
  | captured (result : Except Capture.Timeout Signature)
  | aborted

/-- How many strands run before the script is asked, though others are ready. -/
def longestRound : Nat := 61

/-- How many gates, rests and ends of strands a strand passes before it lets the others run. -/
def longestStride : Nat := 128

end Session

structure Session where
  controller : Controller
  registry : Registry Action := {}
  capture : Capture.Session := {}
  running : Bool := false
  suppressed : Nat := 0
  strands : List (StrandId × Session.Strand) := []
  ready : List StrandId := []
  scriptReady : Bool := false
  round : Nat := Session.longestRound
  stride : Nat := Session.longestStride
  timers : List (Nat × StrandId) := []
  nextStrand : StrandId := 2
  ended : List (StrandId × Session.Outcome × Nat) := []
  records : Array Log.Record := #[]
  announced : Array Queue.Status := #[]
  pasted : Array Item := #[]
  labels : Session.Labels := {}

namespace Session

def scriptStrand : StrandId := 0

def workerStrand : StrandId := 1

def clock (session : Session) : Nat := session.controller.clock

def strand? (session : Session) (id : StrandId) : Option Strand := session.strands.lookup id

def setStrand (session : Session) (id : StrandId) (strand : Strand) : Session :=
  { session with strands := (id, strand) :: session.strands.filter (·.1 != id) }

/-- The script stands in no line. A strand that is ready already is not made so twice. -/
def wake (session : Session) (id : StrandId) : Session :=
  if id = scriptStrand then { session with scriptReady := true }
  else if session.ready.contains id then session
  else { session with ready := session.ready ++ [id] }

def wakeAfter (session : Session) (id : StrandId) (millis : Nat) : Session :=
  { session with timers := session.timers ++ [(session.clock + millis, id)] }

def rest (session : Session) (id : StrandId) (millis : Nat) : Session :=
  session.wakeAfter id (Clock.rest millis)

def log (session : Session) (records : List Log.Record) : Session :=
  { session with records := session.records ++ records.toArray }

def isJoined (session : Session) (id : StrandId) : Bool :=
  match session.strand? scriptStrand with
  | some (.joining (first :: _)) => first == id
  | _ => false

def hasEnded (session : Session) (id : StrandId) : Bool := session.ended.any (·.1 == id)

/-- A strand that has ended has no timer any more and wakes a script that waits for it. -/
def finish (session : Session) (id : StrandId) (outcome : Outcome) : Session :=
  let joined := session.isJoined id
  let session := { session with
    strands := session.strands.filter (·.1 != id)
    timers := session.timers.filter (·.2 != id)
    ended := (id, outcome, session.clock) :: session.ended }
  if joined then session.wake scriptStrand else session

/-- The idle worker wakes up for a notification, or when its notifiers have gone. -/
def wakeWorker (session : Session) : Session :=
  match session.strand? workerStrand, session.controller.watcher with
  | some .worker, some watcher =>
    if watcher.phase = .idle then session.wake workerStrand else session
  | _, _ => session

def absorbNotice (session : Session) : Controller.Notice → Session
  | .logged record => { session with records := session.records.push record }
  | .announced status => { session with announced := session.announced.push status }
  | .pressed _ shown none => { session with pasted := session.pasted.push shown }
  | .freed strand => session.wake strand
  | .notified => session.wakeWorker
  | _ => session

/-- Takes over what a controller has let be observed, and wakes whom it concerns. -/
def absorb (session : Session) (controller : Controller) : Session :=
  controller.notices.reverse.foldl absorbNotice
    { session with controller := { controller with notices := [] } }

def spawn (session : Session) (strand : Strand) : StrandId × Session :=
  let id := session.nextStrand
  (id, ({ session with nextStrand := id + 1 }.setStrand id strand).wake id)

end Session

end PasteQueue
