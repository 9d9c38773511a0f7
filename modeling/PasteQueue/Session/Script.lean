import PasteQueue.Config.File
import PasteQueue.Config.Hotkeys
import PasteQueue.Input.Event
import PasteQueue.Session.Schedule

/-!
Scripts drive a session step by step. After each step a snapshot shows what can be seen of the
session from outside.
-/

namespace PasteQueue.Session

open Clipboard (Content Item ItemId)

inductive Command
  | move (move : Move)
  | parallel (tasks : List (Nat × Move))
  | notify
  | abortWatcher
  | finishWatcher
  | install (bindings : Bindings)
  | reload (toml : String)
  | registrations
  | start
  | stop
  | event (event : Input.Event)
  | capture (timeout : Nat) (events : List (Nat × Input.Event))

inductive Reply
  | nothing
  | result (result : Controller.Result)
  | tasks (results : List (Option Controller.Result × Nat))
  | flag (value : Bool)
  | report (report : InstallReport)
  | refused (error : Config.Error)
  | registrations (rows : List (String × Signature))
  | alreadyRunning
  | captured (consumed : List Bool) (result : Except Capture.Timeout Signature)

def alreadyRunningMessage : String := "input source is already running"

def itemOf? : Controller.Result → Option Item
  | .ok (.item item) => some item
  | _ => none

def Reply.items : Reply → List Item
  | .result outcome => (itemOf? outcome).toList
  | .tasks outcomes => outcomes.filterMap fun entry => entry.1.bind itemOf?
  | _ => []

structure Snapshot where
  reply : Reply
  status : Queue.Status
  announced : List Queue.Status
  pasted : List Item
  queue : List Item
  history : List Item
  clipboard : Item
  sequence : UInt32
  writes : Nat
  typed : Nat
  lastTyped : Option String
  running : Bool
  suppressed : Nat
  capturing : Bool
  clock : Nat
  fresh : List Item

def Snapshot.items (snapshot : Snapshot) : List Item :=
  snapshot.reply.items ++ snapshot.pasted ++ snapshot.queue ++ snapshot.history ++
    [snapshot.clipboard]

/-- A snapshot, and the session with nothing left unseen. -/
def view (session : Session) (reply : Reply) : Snapshot × Session :=
  let controller := session.controller
  let desktop := controller.desktop
  let snapshot : Snapshot :=
    { reply
      status := controller.status
      announced := session.announced.toList
      pasted := session.pasted.toList
      queue := controller.state.queue
      history := controller.state.items
      clipboard := desktop.current
      sequence := desktop.sequence
      writes := desktop.writes
      typed := desktop.typed
      lastTyped := desktop.lastTyped
      running := session.running
      suppressed := session.suppressed
      capturing := session.capture.capturing
      clock := session.clock
      fresh := [] }
  let (fresh, labels) := session.labels.extend snapshot.items
  ({ snapshot with fresh }, { session with announced := #[], pasted := #[], labels })

def resultOf (session : Session) (id : StrandId) : Option Controller.Result × Nat :=
  match session.ended.lookup id with
  | some (.result result, time) => (some result, time)
  | some (_, time) => (none, time)
  | none => (none, session.clock)

def join (session : Session) (strands : List StrandId) : Session :=
  (session.joinFrom scriptStrand strands).settle

def spawnTasks (session : Session) : List (Nat × Move) → List StrandId × Session
  | [] => ([], session)
  | task :: rest =>
    let (id, session) := session.spawn (.task task.1 task.2)
    let (ids, session) := session.spawnTasks rest
    (id :: ids, session)

/-- An event from the input source; without a running source it passes. -/
def inject (session : Session) (event : Input.Event) : Bool × Session :=
  if session.running then
    let signature := event.signature
    let records := Dispatch.records session.registry session.capture signature
    let released := session.capture.signal.released
    let (verdict, capture) := Dispatch.handle session.registry session.capture signature
    let session := { session with capture }.log records
    let session :=
      (capture.signal.released.filter fun party => !released.contains party).foldl wake session
    let session :=
      match verdict with
      | .matched action => (session.spawn (.action action)).2
      | _ => session
    (verdict.consumed,
      { session with suppressed := session.suppressed + if verdict.consumed then 1 else 0 })
  else (false, session)

def injectAll (session : Session) : List (Nat × Input.Event) → List Bool × Session
  | [] => ([], session)
  | (delay, event) :: rest =>
    let (consumed, session) := (session.sleep scriptStrand delay).settle.inject event
    let (others, session) := session.injectAll rest
    (consumed :: others, session)

def captureNext (session : Session) (timeout : Nat) (events : List (Nat × Input.Event)) :
    Reply × Session :=
  let (id, session) := session.spawn (.capture timeout)
  let session :=
    if session.capture.capturing then session
    else ((session.setStrand scriptStrand (.yielding id)).wake scriptStrand).settle
  let (consumed, session) := session.injectAll events
  let session := session.join [id]
  match session.ended.lookup id with
  | some (.captured result, _) => (.captured consumed result, session)
  | _ => (.nothing, session)

def abortWatcher (session : Session) : Reply × Session :=
  match session.strand? workerStrand with
  | some (.cancelled _) | none => (.nothing, session)
  | some strand =>
    let stage :=
      match strand with
      | .operation stage _ => some stage
      | _ => none
    let session := ((session.setStrand workerStrand (.cancelled stage)).wake workerStrand).join
      [workerStrand]
    let aborted :=
      match session.ended.lookup workerStrand with
      | some (.aborted, _) => true
      | _ => false
    (.flag aborted, session)

def finishWatcher (session : Session) : Reply × Session :=
  let controller := { session.controller with
    hooked := false, watcher := session.controller.watcher.map Watcher.dropNotifiers }
  let session := { session with controller }
  match session.strand? workerStrand with
  | none => (.nothing, { session with controller := { controller with watcher := none } })
  | some _ =>
    let session := session.wakeWorker.join [workerStrand]
    (.flag true,
      { session with controller := { session.controller with watcher := none } })

def install (session : Session) (bindings : Bindings) : Reply × Session :=
  (.report bindings.report,
    { session with registry := bindings.install session.registry }.log
      (bindings.installRecords session.registry))

def prepare (toml : String) : Except Config.Error Config × List Log.Record :=
  match Config.load (.file toml.toUTF8) with
  | .error error => (.error error, [])
  | .ok config =>
    let records := config.ensureRecords
    match config.ensureSignatures with
    | (some error, _) => (.error error, records)
    | (none, config) =>
      match config.validate with
      | some error => (.error error, records)
      | none => (.ok config, records)

/-- Takes over the bindings of another configuration, and nothing else. -/
def reload (session : Session) (toml : String) : Reply × Session :=
  let (outcome, records) := prepare toml
  let session := session.log records
  match outcome with
  | .error error => (.refused error, session)
  | .ok config => session.install config.bindings

def move (session : Session) (move : Move) : Reply × Session :=
  let session := (session.takeMove scriptStrand .script move).settle
  match (session.resultOf scriptStrand).1 with
  | some result => (.result result, session)
  | none => (.nothing, session)

def run (session : Session) : Command → Reply × Session
  | .move step => session.move step
  | .parallel tasks =>
    let (ids, session) := session.spawnTasks tasks
    let session := session.join ids
    (.tasks (ids.map session.resultOf), session)
  | .notify => (.nothing, session.absorb session.controller.notifyWatcher)
  | .abortWatcher => session.abortWatcher
  | .finishWatcher => session.finishWatcher
  | .install bindings => session.install bindings
  | .reload toml => session.reload toml
  | .registrations =>
    (.registrations (session.registry.toList.map fun entry => (entry.id, entry.signature)), session)
  | .start =>
    if session.running then (.alreadyRunning, session)
    else (.nothing, { session with running := true })
  | .stop => (.nothing, { session with running := false })
  | .event event =>
    let (consumed, session) := session.inject event
    (.flag consumed, session)
  | .capture timeout events => session.captureNext timeout events

/-- A session that has not begun. A watcher's worker is ready from the start. -/
def ofSettings (settings : ControllerSettings) (watcher : Option (Nat × Bool)) : Session :=
  let controller := Controller.init settings
  let session := Session.log { controller } [Controller.initRecord settings]
  match watcher with
  | none => session
  | some (debounce, hooked) =>
    let controller := { controller with watcher := some { debounce }, hooked }
    (({ session with controller }).setStrand workerStrand .worker).wake workerStrand

/-- A session of the application as a configuration sets it up, with its hotkeys installed and its
input source running. -/
def ofConfig (config : Config) : Reply × Session :=
  let watcher :=
    if config.features.clipboard then some (config.clipboard.watchDebounce, true) else none
  let session := ofSettings config.controllerSettings watcher
  let session := { session with records := config.orderRecords.toArray ++ session.records }
  let (reply, session) := session.install config.bindings
  (reply, { session with running := true })

def ofToml (toml : String) : Except Config.Error (Snapshot × Session) × List Log.Record :=
  let (outcome, records) := prepare toml
  match outcome with
  | .error error => (.error error, records)
  | .ok config =>
    let (reply, session) := ofConfig config
    (.ok (view { session with records := records.toArray ++ session.records } reply), records)

def step (session : Session) (command : Command) : Snapshot × Session :=
  let (reply, session) := session.run command
  session.view reply

end PasteQueue.Session
