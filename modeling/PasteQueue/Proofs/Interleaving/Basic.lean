import Mathlib.Logic.Function.Basic
import PasteQueue.Controller.Operation

/-!
Operations in hand side by side. A strand has at most one of them in hand at a time. Between two of
its await points, that is the gates, the rests and the calls of the desktop, an operation goes on
alone; at each of them any other strand may take a step, somebody else may copy something, calls that
are still to come may be made to fail, and time may pass. A run keeps all of its moments, the latest
first.
-/

namespace PasteQueue

open Clipboard (Content Item)
open Controller (Advance Approach Errand Operation Progress Result Stage)

/-- Where an operation in hand stands: ahead of a barrier that it has not tried, behind its trial of
one, or ahead of a call of the desktop. -/
inductive Point
  | arriving (stage : Stage)
  | waiting (stage : Stage)
  | calling (errand : Errand)

structure Task where
  operation : Operation
  point : Point

structure World where
  controller : Controller
  tasks : StrandId → Option Task

inductive Choice
  | start (strand : StrandId) (operation : Operation)
  | request (strand : StrandId)
  | resume (strand : StrandId)
  | call (strand : StrandId)
  | external (content : Content)
  | fail (call : Desktop.Call) (script : List (Option String))
  | pass (millis : Nat)
  deriving DecidableEq

/-- Whether a strand behind its trial of a barrier may go on. A rest may be over at any time. -/
def Controller.opens (controller : Controller) (strand : StrandId) (stage : Stage) : Bool :=
  match stage.barrier controller.settings with
  | .writeGate => controller.writeGate.isHeldBy strand
  | .pasteGate => controller.pasteGate.isHeldBy strand
  | .time _ => true

/-- The point that an operation has come to; none is its end. -/
def Controller.Advance.point? : Advance → Option Point
  | .made (.finished _) => none
  | .made (.reached stage) => some (.arriving stage)
  | .calling errand => some (.calling errand)

def Controller.Advance.result? : Advance → Option Result
  | .made (.finished result) => some result
  | .made (.reached _) | .calling _ => none

namespace World

def Idle (world : World) : Prop := ∀ strand, world.tasks strand = none

/-- Nothing is in hand, and both gates are free. -/
structure Rested (world : World) : Prop where
  idle : world.Idle
  writeGate : world.controller.writeGate = {}
  pasteGate : world.controller.pasteGate = {}

/-- A controller as it is made, beside a clipboard with anything on it. -/
structure Fresh (world : World) : Prop extends world.Rested where
  state : world.controller.state =
    .init world.controller.settings.queue world.controller.settings.order
  held : world.controller.desktop.heldSequence = none

def fresh (settings : ControllerSettings) (content : Content) : World where
  controller := { Controller.init settings with desktop := { current := ⟨.minted 0, content⟩ } }
  tasks _ := none

theorem fresh_fresh (settings : ControllerSettings) (content : Content) :
    (fresh settings content).Fresh where
  idle _ := rfl
  writeGate := rfl
  pasteGate := rfl
  state := rfl
  held := rfl

/-- A strand has moved, to a task or to none. -/
def move (world : World) (controller : Controller) (strand : StrandId) (task : Option Task) : World where
  controller := controller
  tasks := Function.update world.tasks strand task

def put (world : World) (strand : StrandId) (operation : Operation) (approach : Approach) : World :=
  world.move approach.2 strand (approach.1.point?.map (Task.mk operation))

def withController (world : World) (controller : Controller) : World := { world with controller }

inductive Step (world : World) : Choice → World → Prop
  | start {strand : StrandId} {operation : Operation} (free : world.tasks strand = none) :
      Step world (.start strand operation)
        (world.put strand operation (world.controller.launch operation))
  | request {strand : StrandId} {operation : Operation} {stage : Stage}
      (task : world.tasks strand = some ⟨operation, .arriving stage⟩) :
      Step world (.request strand)
        (world.move (world.controller.enter strand stage).2 strand
          (some ⟨operation, .waiting stage⟩))
  | resume {strand : StrandId} {operation : Operation} {stage : Stage}
      (task : world.tasks strand = some ⟨operation, .waiting stage⟩)
      (opened : world.controller.opens strand stage = true) :
      Step world (.resume strand)
        (world.put strand operation (world.controller.approach stage))
  | call {strand : StrandId} {operation : Operation} {errand : Errand}
      (task : world.tasks strand = some ⟨operation, .calling errand⟩) :
      Step world (.call strand)
        (world.put strand operation (world.controller.complete strand errand).approach)
  | external (content : Content) :
      Step world (.external content) (world.withController (world.controller.copy content))
  | fail (call : Desktop.Call) (script : List (Option String)) :
      Step world (.fail call script) (world.withController { world.controller with
        desktop := { world.controller.desktop with
          scripts := world.controller.desktop.scripts.append call script } })
  | pass (millis : Nat) :
      Step world (.pass millis) (world.withController { world.controller with
        clock := world.controller.clock + millis })

/-- The call that is made, with the strand and the operation that make it. -/
def errand? (world : World) : Choice → Option (StrandId × Operation × Errand)
  | .call strand =>
    match world.tasks strand with
    | some ⟨operation, .calling errand⟩ => some (strand, operation, errand)
    | _ => none
  | _ => none

/-- The operation that ends with a choice, its strand and what it returns. -/
def returned? (world : World) : Choice → Option (StrandId × Operation × Result)
  | .start strand operation =>
    (world.controller.launch operation).1.result?.map fun result => (strand, operation, result)
  | .resume strand =>
    match world.tasks strand with
    | some ⟨operation, .waiting stage⟩ =>
      (world.controller.approach stage).1.result?.map fun result => (strand, operation, result)
    | _ => none
  | .call strand =>
    match world.tasks strand with
    | some ⟨operation, .calling errand⟩ =>
      (world.controller.complete strand errand).approach.1.result?.map fun result =>
        (strand, operation, result)
    | _ => none
  | _ => none

end World

/-- A world and the choice that was made in it. -/
structure Moment where
  world : World
  choice : Choice

inductive Run (start : World) : List Moment → World → Prop
  | rest : Run start [] start
  | step {past : List Moment} {world after : World} {choice : Choice} (run : Run start past world)
      (taken : world.Step choice after) : Run start (⟨world, choice⟩ :: past) after

/-! ### Playing a run -/

def World.next? (world : World) : Choice → Option World
  | .start strand operation =>
    match world.tasks strand with
    | none => some (world.put strand operation (world.controller.launch operation))
    | some _ => none
  | .request strand =>
    match world.tasks strand with
    | some ⟨operation, .arriving stage⟩ =>
      some (world.move (world.controller.enter strand stage).2 strand
        (some ⟨operation, .waiting stage⟩))
    | _ => none
  | .resume strand =>
    match world.tasks strand with
    | some ⟨operation, .waiting stage⟩ =>
      if world.controller.opens strand stage then
        some (world.put strand operation (world.controller.approach stage))
      else none
    | _ => none
  | .call strand =>
    match world.tasks strand with
    | some ⟨operation, .calling errand⟩ =>
      some (world.put strand operation (world.controller.complete strand errand).approach)
    | _ => none
  | .external content => some (world.withController (world.controller.copy content))
  | .fail call script => some (world.withController { world.controller with
      desktop := { world.controller.desktop with
        scripts := world.controller.desktop.scripts.append call script } })
  | .pass millis => some (world.withController { world.controller with
      clock := world.controller.clock + millis })

theorem World.step_iff {world after : World} {choice : Choice} :
    world.Step choice after ↔ world.next? choice = some after := by
  constructor
  · intro taken
    cases taken with
    | start free => simp [next?, free]
    | request task => simp [next?, task]
    | resume task opened => simp [next?, task, opened]
    | call task => simp [next?, task]
    | external | fail | pass => rfl
  · intro next
    cases choice with
    | start strand operation =>
      dsimp only [next?] at next
      split at next <;> cases next
      exact .start ‹_›
    | request strand =>
      dsimp only [next?] at next
      split at next <;> cases next
      exact .request ‹_›
    | resume strand =>
      dsimp only [next?] at next
      split at next
      · split at next <;> cases next
        exact .resume ‹_› ‹_›
      · cases next
    | call strand =>
      dsimp only [next?] at next
      split at next <;> cases next
      exact .call ‹_›
    | external content =>
      cases next
      exact .external content
    | fail call script =>
      cases next
      exact .fail call script
    | pass millis =>
      cases next
      exact .pass millis

def World.play (world : World) (past : List Moment) : List Choice → Option (List Moment × World)
  | [] => some (past, world)
  | choice :: rest =>
    match world.next? choice with
    | some after => after.play (⟨world, choice⟩ :: past) rest
    | none => none

theorem Run.play {start world after : World} {past now : List Moment} {choices : List Choice}
    (run : Run start past world) (played : world.play past choices = some (now, after)) :
    Run start now after := by
  induction choices generalizing world past with
  | nil =>
    cases played
    exact run
  | cons choice rest ih =>
    dsimp only [World.play] at played
    split at played
    · rename_i next
      exact ih (run.step (World.step_iff.mpr next)) played
    · cases played

/-- The past and the world to which choices lead. -/
def World.played (world : World) (choices : List Choice)
    (playable : (world.play [] choices).isSome = true) : List Moment × World :=
  (world.play [] choices).get playable

theorem World.played_run (world : World) (choices : List Choice)
    (playable : (world.play [] choices).isSome = true) :
    Run world (world.played choices playable).1 (world.played choices playable).2 :=
  Run.rest.play (Option.some_get playable).symm

theorem World.play_choices {world after : World} {past now : List Moment} {choices : List Choice}
    (played : world.play past choices = some (now, after)) :
    now.map Moment.choice = choices.reverse ++ past.map Moment.choice := by
  induction choices generalizing world past with
  | nil =>
    cases played
    rfl
  | cons choice rest ih =>
    dsimp only [World.play] at played
    split at played
    · rw [ih played]
      simp
    · cases played

theorem World.forall_played {world : World} {choices : List Choice}
    {playable : (world.play [] choices).isSome = true} (allowed : Choice → Prop)
    (all : ∀ choice ∈ choices, allowed choice) :
    ∀ moment ∈ (world.played choices playable).1, allowed moment.choice := by
  intro moment member
  have made := World.play_choices (Option.some_get playable).symm
  rw [List.map_nil, List.append_nil] at made
  refine all _ (List.mem_reverse.mp ?_)
  rw [← made]
  exact List.mem_map_of_mem member

/-- A pasted macro as far as its text is on the clipboard, and from there to its end. -/
def pasteHalfway : List Choice :=
  [.start 0 (.textMacro "T" .pasted), .request 0, .resume 0, .call 0, .request 0, .resume 0, .call 0]

def pasteToEnd : List Choice :=
  [.request 0, .resume 0, .call 0, .request 0, .resume 0, .request 0, .resume 0, .call 0]

/-- Queue mode is switched, with what it brings back. -/
def switching : List Choice := [.start 1 .toggle, .request 1, .resume 1, .call 1]

end PasteQueue
