import PasteQueue.Session.Strand

/-!
Running the strands of a session on one thread. Strands that are ready run in the order in which
they became so, and the script once no other strand is ready, or a round of them has run; if the
script is not ready either, the clock moves to the next timer. A strand runs until it has to wait,
or has passed so much without waiting that the others are let in.
-/

namespace PasteQueue.Session

open Controller (Stage Operation)

def updateRecord : Controller.Result → List Log.Record
  | .ok (.update outcome) =>
    [⟨.debug, Watcher.target, "clipboard change processed", [("outcome", .plain outcome.label)]⟩]
  | .ok _ => []
  | .error error =>
    [⟨.error, Watcher.target, "clipboard change handling failed",
      [("error", .plain error.message)]⟩]

/-- A strand waits with a stage: in the line of a gate, where it is already, or for a time. -/
def park (session : Session) (id : StrandId) (stage : Stage) (purpose : Purpose) : Session :=
  let session := session.setStrand id (.operation stage purpose)
  match stage.barrier session.controller.settings with
  | .time millis => session.rest id millis
  | _ => session

def withWatcher (session : Session) (watcher : Watcher) : Session :=
  { session with controller := { session.controller with watcher := some watcher } }

/-- The worker has handled an update and turns to its channel again, at once and in the same run if it
is not empty. -/
def workerAgain (session : Session) : Session :=
  match session.controller.watcher with
  | none => session
  | some watcher =>
    let session := (session.withWatcher { watcher with phase := .idle }).setStrand workerStrand
      .worker
    if watcher.pending || watcher.notifiersGone then
      { session with ready := workerStrand :: session.ready, round := session.round + 1 }
    else session

/-- Carries an operation on from a step until it is over, has to wait, or has passed enough for this
time. -/
def carryOut (session : Session) (id : StrandId) (purpose : Purpose) (step : Controller.Step) :
    Session :=
  let run := Controller.proceed id session.stride step
  let session := { session with stride := run.left }.absorb run.controller
  match run.halt with
  | .waiting stage => session.park id stage purpose
  | .paused stage => (session.setStrand id (.paused stage purpose)).wake id
  | .finished result =>
    match purpose with
    | .script | .task => session.finish id (.result result)
    | .action action =>
      let records :=
        match result with
        | .error error => [action.failureRecord error]
        | .ok _ => []
      (session.log records).finish id .silent
    | .worker => (session.log (updateRecord result)).workerAgain

def operate (session : Session) (id : StrandId) (purpose : Purpose) (operation : Operation) :
    Session :=
  session.carryOut id purpose (session.controller.begin id operation)

def external (session : Session) (content : Clipboard.Content) : Session :=
  session.absorb (session.controller.copy content)

def withDesktop (session : Session) (change : Desktop → Desktop) : Session :=
  { session with controller :=
    { session.controller with desktop := change session.controller.desktop } }

/-- The strand has passed something. -/
def pass (session : Session) (count : Nat) : Session :=
  { session with stride := session.stride - count }

/-- No time is no rest, but it is something passed. -/
def sleep (session : Session) (id : StrandId) (millis : Nat) : Session :=
  if millis > 0 then (session.setStrand id .asleep).rest id millis
  else if session.stride > 0 then (session.pass 1).finish id .silent
  else (session.setStrand id .asleep).wake id

/-- Takes a step on a strand; it may have to wait. -/
def takeMove (session : Session) (id : StrandId) (purpose : Purpose) : Move → Session
  | .external content => (session.external content).finish id .silent
  | .copy content => (session.external content).operate id purpose .update
  | .operate operation => session.operate id purpose operation
  | .copyItem label => session.operate id purpose (.copyItem (session.labels.resolve label))
  | .sleep millis => session.sleep id millis
  | .fail call script =>
    (session.withDesktop fun desktop =>
      { desktop with scripts := desktop.scripts.append call script }).finish id .silent
  | .holdSequence sequence =>
    (session.withDesktop fun desktop =>
      { desktop with heldSequence := sequence }).finish id .silent

def workerUpdate (session : Session) (watcher : Watcher) : Session :=
  (session.withWatcher watcher.drain).operate workerStrand .worker .update

def runWorker (session : Session) : Session :=
  match session.controller.watcher with
  | none => session
  | some watcher =>
    match watcher.phase with
    | .debouncing => session.workerUpdate watcher
    | _ =>
      let watcher := watcher.receive
      let session := session.withWatcher watcher
      match watcher.phase with
      | .debouncing =>
        if watcher.debounce = 0 then session.workerUpdate watcher
        else session.rest workerStrand watcher.debounce
      | .ended => (session.log [Watcher.exitRecord]).finish workerStrand .silent
      | _ => session

/-- An aborted worker goes away from whatever it waited for. -/
def cancelWorker (session : Session) (stage : Option Stage) : Session :=
  let controller := session.controller
  let gate :=
    if stage.isSome then controller.writeGate.withdraw workerStrand else controller.writeGate
  let freed := if controller.writeGate.isHeldBy workerStrand then gate.holder else none
  let controller := { controller with
    writeGate := gate, watcher := controller.watcher.map Watcher.stop }.noteFreed freed
  (session.absorb controller).finish workerStrand .aborted

/-- Polls the wait of a capture; a wait that goes on has a timer for its deadline. -/
def pollCapture (session : Session) (id : StrandId) (waiter : Capture.Waiter) : Session :=
  let now := session.clock
  let (progress, capture) := session.capture.poll id waiter now
  let records := session.capture.pollRecords id waiter now
  let first := waiter.deadline.isNone
  let session := { session with capture }.log records
  match progress with
  | .captured signature => session.finish id (.captured (.ok signature))
  | .timedOut fault => session.finish id (.captured (.error fault))
  | .pending waiter =>
    let session := session.setStrand id (.waiting waiter)
    if first then session.wakeAfter id waiter.timeout else session

def startCapture (session : Session) (id : StrandId) (timeout : Nat) : Session :=
  let records := session.capture.startRecords
  ({ session with capture := session.capture.start }.log records).pollCapture id { timeout }

def joinFrom (session : Session) (id : StrandId) (strands : List StrandId) : Session :=
  let ended := (strands.takeWhile session.hasEnded).take session.stride
  match strands.drop ended.length with
  | [] => (session.pass ended.length).finish id .silent
  | first :: rest =>
    let session := session.setStrand id (.joining (first :: rest))
    if session.hasEnded first then session.wake id else session.pass ended.length

/-- Runs a strand until it waits or ends, or has passed enough. -/
def runStrand (session : Session) (id : StrandId) : Session :=
  let session := { session with stride := longestStride }
  match session.strand? id with
  | none => session
  | some (.operation stage purpose) =>
    (session.pass 1).carryOut id purpose (session.controller.resume id stage)
  | some (.paused stage purpose) => session.carryOut id purpose (session.controller.reach stage)
  | some (.action action) => session.operate id (.action action) action.operation
  | some (.task 0 move) => session.takeMove id .task move
  | some (.task delay move) => (session.setStrand id (.task 0 move)).rest id delay
  | some .asleep => (session.pass 1).finish id .silent
  | some (.joining strands) => session.joinFrom id strands
  | some (.yielding capture) =>
    if session.capture.capturing || session.hasEnded capture then session.finish id .silent
    else session.wake id
  | some .worker => session.runWorker
  | some (.cancelled stage) => session.cancelWorker stage
  | some (.capture timeout) => session.startCapture id timeout
  | some (.waiting waiter) => session.pollCapture id waiter

def nextDue? (timers : List (Nat × StrandId)) : Option Nat := (timers.map (·.1)).min?

/-- Lets the clock go on to the next timer. All strands whose time it is become ready, in the order
in which they began to wait, and the script is asked before them. -/
def tick (session : Session) : Session :=
  match nextDue? session.timers with
  | none => session
  | some due =>
    let (past, timers) := session.timers.partition (·.1 == due)
    past.foldl (fun session timer => session.wake timer.2)
      { session with
        timers, round := 0
        controller := { session.controller with clock := max session.clock due } }

/-- Asks the script, whose round begins anew; if it is not ready, the clock may go on. -/
def ask (session : Session) : Session :=
  let session := { session with round := longestRound }
  if session.scriptReady then { session with scriptReady := false }.runStrand scriptStrand
  else if session.ready.isEmpty then session.tick
  else session

def turn (session : Session) : Session :=
  match session.ready, session.round with
  | id :: ready, round + 1 => { session with ready, round }.runStrand id
  | _, _ => session.ask

def settleWith : Nat → Session → Session
  | 0, session => session
  | fuel + 1, session =>
    if (session.strand? scriptStrand).isSome then settleWith fuel session.turn else session

/-- Lets the others go on until the script can. Every strand ends after a few turns, and each of its
clipboard changes wakes the worker for a few more. -/
def settle (session : Session) : Session :=
  settleWith (256 * (session.strands.length + session.ready.length + 2)) session

end PasteQueue.Session
