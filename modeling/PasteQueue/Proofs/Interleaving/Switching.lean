import Mathlib.Algebra.Ring.Parity
import PasteQueue.Proofs.Interleaving.Announcements
import PasteQueue.Proofs.Interleaving.Calling
import PasteQueue.Proofs.Interleaving.Echoes
import PasteQueue.Proofs.Interleaving.Progress

/-!
Switches of queue mode. A switch reads the mode, does what it has to do, and commits, all behind the
write gate, so switches take effect one after the other: each on follows an off, and each off gives up
exactly what the on before it has kept.
-/

namespace PasteQueue

open Clipboard (Item)
open Controller (Approach Errand Notice Operation Stage)
open Gate (Role)

/-! ### What operations do to queue mode -/

namespace Controller

/-- Whether queue mode is on, and what it keeps. -/
def position (controller : Controller) : Bool × Option Item :=
  (controller.state.enabled, controller.state.snapshot)

theorem position_aside : Aside position :=
  ⟨fun _ _ _ => rfl, fun _ _ => rfl, fun _ _ => rfl, fun _ _ => rfl, fun _ _ => rfl, fun _ _ => rfl⟩

variable (controller : Controller) (strand : StrandId)

theorem launch_position (operation : Operation) :
    (controller.launch operation).2.position = controller.position :=
  Prod.ext (controller.launch_enabled operation) (launch_launched controller operation).snapshot

theorem look_position : (look strand controller).2.position = controller.position := by
  refine Prod.ext (look_enabled controller strand) ?_
  have read := position_aside.read controller strand
  unfold look
  split <;> rename_i reading <;> rw [reading] at read
  · exact congrArg Prod.snd (((position_aside.leaveWriteGate _).trans
      (position_aside.logFault _ _ _)).trans read)
  · rename_i item after
    have left := (position_aside.leaveWriteGate after).trans read
    have accepted := after.leaveWriteGate.state.accept_snapshot item after.leaveWriteGate.clock
    have logged := position_aside.logAll
      { after.leaveWriteGate with
        state := (after.leaveWriteGate.state.accept item after.leaveWriteGate.clock).2 }
      (after.leaveWriteGate.state.acceptRecords item after.leaveWriteGate.clock)
    dsimp only [accept]
    split <;>
      exact ((congrArg Prod.snd logged).trans accepted).trans (congrArg Prod.snd left)

theorem complete_position {errand : Errand} (other : errand ≠ .keeping) :
    (controller.complete strand errand).2.position = controller.position := by
  by_cases looks : errand = .looking
  · subst looks
    exact look_position controller strand
  · exact position_aside.complete controller strand other looks

theorem turnOn_position {controller : Controller} (off : controller.state.enabled = false) :
    (turnOn strand controller).2.position = (true, controller.desktop.read.1.toOption) := by
  have enabled : ∀ {state : Queue.State} (kept : Option Item), state = controller.state →
      (state.enable kept).enabled = true ∧ (state.enable kept).snapshot = kept := by
    intro state kept same
    rw [same, Queue.State.enable, if_neg (by simp [off])]
    exact ⟨rfl, rfl⟩
  have read := position_aside.read controller strand
  unfold turnOn
  cases reading : controller.read strand with
  | mk outcome after =>
    have state : after.state = controller.state := (congrArg (fun read => read.2.state) reading).symm
    have found : controller.desktop.read.1 = outcome := congrArg Prod.fst reading
    rw [found]
    cases outcome with
    | ok item =>
      have now := enabled (some item) state
      exact (position_aside.leaveWriteGate _).trans (Prod.ext now.1 now.2)
    | error fault =>
      have now := enabled none state
      exact (position_aside.leaveWriteGate _).trans (Prod.ext now.1 now.2)

/-- A switch that finds queue mode on turns it off at once, and brings back what has been kept. -/
theorem switch_of_on {controller : Controller} (on : controller.state.enabled = true) :
    (switch controller).2.position = (false, none) ∧
      match controller.state.snapshot with
      | none => (switch controller).1.point? = none
      | some item => ∃ status, (switch controller).1.point? = some (.calling (.bringingBack item status)) := by
  rw [switch, if_pos on]
  dsimp only [turnOff]
  cases controller.state.snapshot with
  | none => exact ⟨position_aside.leaveWriteGate _, rfl⟩
  | some item => exact ⟨rfl, _, rfl⟩

theorem switch_of_off {controller : Controller} (off : controller.state.enabled = false) :
    switch controller = controller.call .keeping := if_neg (by simp [off])

end Controller

/-! ### Switches -/

/-- Queue mode goes on, with what it keeps, or off, with what it has kept. -/
inductive Switch
  | on (kept : Option Item)
  | off (kept : Option Item)
  deriving DecidableEq, Repr

namespace World

def switch? (world after : World) : Option Switch :=
  match world.controller.state.enabled, after.controller.state.enabled with
  | false, true => some (.on after.controller.state.snapshot)
  | true, false => some (.off world.controller.state.snapshot)
  | _, _ => none

end World

def Moment.switch? (moment : Moment) : Option Switch :=
  (moment.world.next? moment.choice).bind moment.world.switch?

/-- The switches of a run, the latest first. -/
def switches (past : List Moment) : List Switch := past.filterMap Moment.switch?

/-- The switches that a strand has made since its latest start, the latest first. -/
def switchesOf (strand : StrandId) (past : List Moment) : List Switch :=
  (latest strand past).filterMap Moment.switch?

/-- The operation that a strand has started latest. -/
def latestOperation? (strand : StrandId) : List Moment → Option Operation
  | [] => none
  | ⟨_, .start starter operation⟩ :: past =>
    if starter = strand then some operation else latestOperation? strand past
  | _ :: past => latestOperation? strand past

/-- Each time that queue mode has been on, with what it has kept. -/
def Paired (kept : List (Option Item)) : List Switch := kept.flatMap fun item => [.off item, .on item]

namespace World

variable {world after : World} {choice : Choice} {strand : StrandId} {past : List Moment}

theorem Step.switch?_eq (taken : world.Step choice after) :
    Moment.switch? ⟨world, choice⟩ = world.switch? after := by
  rw [Moment.switch?, step_iff.mp taken]
  rfl

theorem switch?_of_same (same : after.controller.position = world.controller.position) :
    world.switch? after = none := by
  have enabled : after.controller.state.enabled = world.controller.state.enabled :=
    congrArg Prod.fst same
  unfold switch?
  rw [enabled]
  cases world.controller.state.enabled <;> rfl

/-- What a step does to queue mode: the call of a switch that has found it off turns it on, the passing
of a switch through the gate turns it off where it is on, and nothing else touches it. -/
inductive Turned (world : World) : Choice → World → Prop
  | still {choice : Choice} {after : World}
      (same : after.controller.position = world.controller.position) : Turned world choice after
  | on {strand : StrandId} {operation : Operation} {after : World}
      (task : world.tasks strand = some ⟨operation, .calling .keeping⟩)
      (off : world.controller.state.enabled = false)
      (position : after.controller.position = (true, world.controller.desktop.read.1.toOption)) :
      Turned world (.call strand) after
  | off {strand : StrandId} {operation : Operation} {after : World}
      (task : world.tasks strand = some ⟨operation, .waiting .toggling⟩)
      (opened : world.controller.writeGate.holder = some strand)
      (on : world.controller.state.enabled = true)
      (position : after.controller.position = (false, none)) : Turned world (.resume strand) after

theorem Poised.turned (poised : world.Poised) (taken : world.Step choice after) :
    world.Turned choice after := by
  cases taken with
  | start free => exact .still (Controller.launch_position _ _)
  | request task => exact .still (Controller.position_aside.enter _ _ _)
  | @resume strand operation stage task opened =>
    by_cases switches : stage = .toggling
    · subst switches
      cases mode : world.controller.state.enabled with
      | true =>
        exact .off task (Controller.opens_write _ _ _ rfl opened) mode
          (Controller.switch_of_on mode).1
      | false =>
        refine .still ?_
        change (Controller.switch world.controller).2.position = _
        rw [Controller.switch_of_off mode]
        rfl
    · exact .still (Controller.position_aside.approach _ switches)
  | @call strand operation errand task =>
    by_cases keeps : errand = .keeping
    · subst keeps
      have off := poised strand (point?_of_task task)
      exact .on task off (Controller.turnOn_position strand off)
    · exact .still (Controller.complete_position _ _ keeps)
  | external content => exact .still (Controller.position_aside.copy _ content)
  | fail | pass => exact .still rfl

theorem switch?_of_on (off : world.controller.state.enabled = false) {kept : Option Item}
    (position : after.controller.position = (true, kept)) : world.switch? after = some (.on kept) := by
  have enabled : after.controller.state.enabled = true := congrArg Prod.fst position
  have snapshot : after.controller.state.snapshot = kept := congrArg Prod.snd position
  rw [switch?, off, enabled, snapshot]

theorem switch?_of_off (on : world.controller.state.enabled = true)
    (position : after.controller.position = (false, none)) :
    world.switch? after = some (.off world.controller.state.snapshot) := by
  have enabled : after.controller.state.enabled = false := congrArg Prod.fst position
  rw [switch?, on, enabled]

theorem Step.switches (taken : world.Step choice after) :
    PasteQueue.switches (⟨world, choice⟩ :: past) =
      (world.switch? after).toList ++ PasteQueue.switches past := by
  rw [PasteQueue.switches, filterMap_cons_toList, taken.switch?_eq]
  rfl

/-! ### One after the other -/

/-- Off follows on with what has been kept, and what is kept now comes from the latest on. -/
def Alternating (past : List Moment) (world : World) : Prop :=
  ∃ kept, world.controller.state.enabled = false ∧ PasteQueue.switches past = Paired kept ∨
    world.controller.state.enabled = true ∧
      PasteQueue.switches past = .on world.controller.state.snapshot :: Paired kept

theorem Alternating.step (alternating : world.Alternating past) (poised : world.Poised)
    (taken : world.Step choice after) : after.Alternating (⟨world, choice⟩ :: past) := by
  obtain ⟨kept, before⟩ := alternating
  rw [Alternating, taken.switches]
  -- A switch finds the mode that it has tested: on comes upon off, and off upon on.
  cases poised.turned taken with
  | still same =>
    obtain ⟨enabled, snapshot⟩ := Prod.ext_iff.mp same
    dsimp only [Controller.position] at enabled snapshot
    rw [switch?_of_same same, enabled, snapshot]
    exact ⟨kept, before⟩
  | on task off position =>
    obtain ⟨enabled, snapshot⟩ := Prod.ext_iff.mp position
    dsimp only [Controller.position] at enabled snapshot
    rw [switch?_of_on off position, enabled, snapshot]
    rcases before with ⟨-, paired⟩ | ⟨on, -⟩
    · exact ⟨kept, .inr ⟨rfl, congrArg _ paired⟩⟩
    · rw [off] at on
      cases on
  | off task opened on position =>
    have enabled : after.controller.state.enabled = false := congrArg Prod.fst position
    rw [switch?_of_off on position, enabled]
    rcases before with ⟨off, -⟩ | ⟨-, paired⟩
    · rw [on] at off
      cases off
    · exact ⟨world.controller.state.snapshot :: kept, .inl ⟨rfl, congrArg _ paired⟩⟩

theorem paired_length (kept : List (Option Item)) : (Paired kept).length = 2 * kept.length := by
  induction kept with
  | nil => rfl
  | cons item kept ih =>
    have more : (Paired (item :: kept)).length = (Paired kept).length + 2 := rfl
    rw [more, ih, List.length_cons]
    omega

theorem Alternating.odd (alternating : world.Alternating past) :
    world.controller.state.enabled = true ↔ Odd (PasteQueue.switches past).length := by
  obtain ⟨kept, ⟨off, paired⟩ | ⟨on, paired⟩⟩ := alternating
  · rw [off, paired, paired_length]
    simp
  · rw [on, paired, List.length_cons, paired_length]
    simp

/-- Whoever is bringing back has made the latest switch, and holds the gate until it is done. -/
def Returning (past : List Moment) (world : World) : Prop :=
  ∀ strand item status, world.point? strand = some (.calling (.bringingBack item status)) →
    (PasteQueue.switches past).head? = some (.off (some item))

theorem Gated.writes_alone (gated : world.Gated) {errand : Errand} (inside : errand.inWriteGate = true)
    (stands : world.point? strand = some (.calling errand)) :
    world.controller.writeGate.holder = some strand := by
  refine gated.write.inside ((seen_of_point Role.outside Point.writeRole stands).trans ?_)
  simp [Point.writeRole, inside]

theorem Step.brings (taken : world.Step choice after) (own : choice.strand? = some strand)
    {item : Item} {status : Queue.Status}
    (stands : after.point? strand = some (.calling (.bringingBack item status))) :
    world.controller.state.enabled = true ∧ world.controller.state.snapshot = some item ∧
      after.controller.position = (false, none) := by
  cases taken with
  | start free =>
    cases own
    rw [put_point?] at stands
    cases ((Controller.launch_launched _ _).outside _ stands).1
  | request task =>
    cases own
    rw [point?, move_tasks] at stands
    cases stands
  | @resume _ operation stage task opened =>
    cases own
    rw [put_point?] at stands
    have family := (Controller.approach_approached world.controller stage).family _ stands
    cases stage with
    | toggling =>
      cases mode : world.controller.state.enabled with
      | true =>
        obtain ⟨position, brought⟩ := Controller.switch_of_on mode
        cases kept : world.controller.state.snapshot with
        | none =>
          rw [kept] at brought
          cases brought.symm.trans stands
        | some found =>
          rw [kept] at brought
          obtain ⟨_, came⟩ := brought
          cases came.symm.trans stands
          exact ⟨rfl, rfl, position⟩
      | false =>
        change (Controller.switch world.controller).1.point? = _ at stands
        rw [Controller.switch_of_off mode] at stands
        cases stands
    | checking | copying | saving | placing | settling | lingering | returning => cases family
  | call task =>
    cases own
    rw [Step.point?_call task (.call task)] at stands
    obtain ⟨_, -, same⟩ := Option.map_eq_some_iff.mp stands
    cases same
  | external | fail | pass => cases own

theorem Returning.step (returning : world.Returning past) (gated : world.Gated)
    (poised : world.Poised) (taken : world.Step choice after) :
    after.Returning (⟨world, choice⟩ :: past) := by
  intro strand item status stands
  rw [taken.switches]
  by_cases own : choice.strand? = some strand
  · obtain ⟨on, kept, position⟩ := taken.brings own stands
    rw [switch?_of_off on position, kept]
    rfl
  · have before : world.point? strand = some (.calling (.bringingBack item status)) := by
      rw [← stands, point?, point?, taken.others own]
    -- Queue mode is turned behind the write gate alone, and that is still with the strand.
    have holds := gated.writes_alone rfl before
    have apart : ∀ {other}, world.controller.writeGate.holder = some other →
        choice.strand? ≠ some other := by
      intro other same
      rw [holds] at same
      cases same
      exact own
    cases poised.turned taken with
    | still same =>
      rw [switch?_of_same same]
      exact returning strand item status before
    | on task off position =>
      exact absurd rfl (apart (gated.writes_alone rfl (point?_of_task task)))
    | off task opened on position => exact absurd rfl (apart opened)

end World

/-! ### The course of a switch -/

/-- How far a switch has come, with the switches and the calls that it has made: it turns queue mode on,
keeping what it has read, or off, writing what has been kept, and it does so once. -/
inductive SwitchCourse (strand : StrandId) : Option Point → List Switch → List Notice → Prop
  | arriving : SwitchCourse strand (some (.arriving .toggling)) [] []
  | waiting : SwitchCourse strand (some (.waiting .toggling)) [] []
  | keeping : SwitchCourse strand (some (.calling .keeping)) [] []
  | bringingBack (item : Item) (status : Queue.Status) :
      SwitchCourse strand (some (.calling (.bringingBack item status))) [.off (some item)] []
  | on (outcome : Except Desktop.Fault Item) :
      SwitchCourse strand none [.on outcome.toOption] [.read strand outcome]
  | off : SwitchCourse strand none [.off none] []
  | restored (item : Item) (failure : Option Desktop.Fault) :
      SwitchCourse strand none [.off (some item)] [.wrote strand item failure]

theorem SwitchCourse.waiting_stage {strand : StrandId} {stage : Stage} {made : List Switch}
    {called : List Notice} (course : SwitchCourse strand (some (.waiting stage)) made called) :
    stage = .toggling := by
  cases course
  rfl

namespace World

variable {world after : World} {choice : Choice} {strand : StrandId} {past : List Moment}

theorem latestOperation?_of_other {moment : Moment}
    (other : ∀ operation, moment.choice ≠ .start strand operation) :
    latestOperation? strand (moment :: past) = latestOperation? strand past := by
  obtain ⟨world, choice⟩ := moment
  cases choice with
  | start starter operation =>
    refine if_neg ?_
    rintro rfl
    exact other operation rfl
  | request | resume | call | external | fail | pass => rfl

theorem latestOperation?_of_onward (onward : choice.onward? = some strand) :
    latestOperation? strand (⟨world, choice⟩ :: past) = latestOperation? strand past := by
  refine latestOperation?_of_other ?_
  rintro operation rfl
  cases onward

theorem Step.switchesOf_onward (taken : world.Step choice after)
    (onward : choice.onward? = some strand) :
    switchesOf strand (⟨world, choice⟩ :: past) =
      (world.switch? after).toList ++ switchesOf strand past := by
  rw [switchesOf, latest_of_onward onward, filterMap_cons_toList, taken.switch?_eq]
  rfl

theorem Step.switchesOf_start {operation : Operation}
    (taken : world.Step (.start strand operation) after) :
    switchesOf strand (⟨world, .start strand operation⟩ :: past) = (world.switch? after).toList := by
  have since : latest strand (⟨world, .start strand operation⟩ :: past) =
      [⟨world, .start strand operation⟩] := if_pos rfl
  rw [switchesOf, since, filterMap_cons_toList, taken.switch?_eq]
  exact List.append_nil _

theorem callsOf_onward (onward : choice.onward? = some strand) :
    callsOf strand (⟨world, choice⟩ :: past) =
      (world.called? choice).toList ++ callsOf strand past := by
  rw [callsOf, latest_of_onward onward, filterMap_cons_toList]
  rfl

def OnCourse (past : List Moment) (world : World) : Prop :=
  ∀ strand, latestOperation? strand past = some .toggle →
    SwitchCourse strand (world.point? strand) (switchesOf strand past) (callsOf strand past)

theorem start_course (free : world.tasks strand = none) :
    SwitchCourse strand
      ((world.put strand .toggle (world.controller.launch .toggle)).point? strand)
      (switchesOf strand (⟨world, .start strand .toggle⟩ :: past))
      (callsOf strand (⟨world, .start strand .toggle⟩ :: past)) := by
  have since : latest strand (⟨world, .start strand .toggle⟩ :: past) =
      [⟨world, .start strand .toggle⟩] := if_pos rfl
  have still : world.switch? (world.put strand .toggle (world.controller.launch .toggle)) = none :=
    switch?_of_same rfl
  rw [(Step.start free).switchesOf_start, still, callsOf, since, put_point?]
  exact .arriving

theorem resume_course (course : SwitchCourse strand (some (.waiting .toggling))
      (switchesOf strand past) (callsOf strand past)) {operation : Operation}
    (task : world.tasks strand = some ⟨operation, .waiting .toggling⟩)
    (opened : world.controller.opens strand .toggling = true) :
    SwitchCourse strand
      ((world.put strand operation (world.controller.approach .toggling)).point? strand)
      (switchesOf strand (⟨world, .resume strand⟩ :: past))
      (callsOf strand (⟨world, .resume strand⟩ :: past)) := by
  rw [(Step.resume task opened).switchesOf_onward rfl, callsOf_onward rfl, put_point?]
  generalize switchesOf strand past = made at course
  generalize callsOf strand past = called at course
  cases course
  cases mode : world.controller.state.enabled with
  | true =>
    obtain ⟨position, brought⟩ := Controller.switch_of_on mode
    have turned : world.switch?
        (world.put strand operation (world.controller.approach .toggling)) =
          some (.off world.controller.state.snapshot) := switch?_of_off mode position
    change SwitchCourse strand (Controller.switch world.controller).1.point? _ _
    rw [turned]
    cases kept : world.controller.state.snapshot with
    | none =>
      rw [kept] at brought
      rw [brought]
      exact .off
    | some item =>
      rw [kept] at brought
      obtain ⟨status, came⟩ := brought
      rw [came]
      exact .bringingBack item status
  | false =>
    have same := Controller.switch_of_off mode
    have still : world.switch?
        (world.put strand operation (world.controller.approach .toggling)) = none := by
      refine switch?_of_same ?_
      change (Controller.switch world.controller).2.position = _
      rw [same]
      rfl
    change SwitchCourse strand (Controller.switch world.controller).1.point? _ _
    rw [still, same]
    exact .keeping

theorem Poised.call_course {operation : Operation} {errand : Errand} (poised : world.Poised)
    (course : SwitchCourse strand (some (.calling errand)) (switchesOf strand past)
      (callsOf strand past))
    (task : world.tasks strand = some ⟨operation, .calling errand⟩)
    (taken : world.Step (.call strand) after) :
    SwitchCourse strand (after.point? strand)
      (switchesOf strand (⟨world, .call strand⟩ :: past))
      (callsOf strand (⟨world, .call strand⟩ :: past)) := by
  rw [taken.switchesOf_onward rfl, callsOf_onward rfl, called?_call task,
    Step.point?_call task taken]
  generalize switchesOf strand past = made at course
  generalize callsOf strand past = called at course
  have turned := poised.turned taken
  cases course with
  | keeping =>
    cases taken with
    | call same =>
      cases task.symm.trans same
      have off := poised strand (point?_of_task task)
      have position := Controller.turnOn_position strand off
      have turned : world.switch? (world.put strand operation
          (world.controller.complete strand .keeping).approach) =
            some (.on world.controller.desktop.read.1.toOption) := switch?_of_on off position
      rw [turned]
      exact .on _
  | bringingBack item status =>
    cases taken with
    | call same =>
      cases task.symm.trans same
      have still : world.switch? (world.put strand operation
          (world.controller.complete strand (.bringingBack item status)).approach) = none :=
        switch?_of_same (Controller.complete_position _ _ nofun)
      rw [still]
      exact .restored item _

theorem OnCourse.step (onCourse : world.OnCourse past) (poised : world.Poised)
    (taken : world.Step choice after) : after.OnCourse (⟨world, choice⟩ :: past) := by
  intro strand begun
  by_cases own : choice.strand? = some strand
  · rcases Choice.starts_or_onward own with ⟨operation, rfl⟩ | onward
    · have same : operation = .toggle := by simpa [latestOperation?] using begun
      subst same
      cases taken with
      | start free => exact start_course free
    · rw [latestOperation?_of_onward onward] at begun
      have course := onCourse strand begun
      cases taken with
      | request task =>
        cases onward
        rw [point?_of_task task] at course
        rw [(Step.request task).switchesOf_onward rfl, callsOf_onward rfl,
          point?_of_task (move_tasks ..),
          switch?_of_same (Controller.position_aside.enter _ _ _)]
        generalize switchesOf strand past = made at course
        generalize callsOf strand past = called at course
        cases course
        exact .waiting
      | resume task opened =>
        cases onward
        rw [point?_of_task task] at course
        obtain rfl := course.waiting_stage
        exact resume_course course task opened
      | call task =>
        cases onward
        rw [point?_of_task task] at course
        exact poised.call_course course task (.call task)
      | start | external | fail | pass => cases onward
  · rw [latestOperation?_of_other (by rintro operation rfl; exact own rfl)] at begun
    have course := onCourse strand begun
    rw [switchesOf, callsOf, latest_of_other own, point?, taken.others own]
    exact course

/-! ### How many have taken effect -/

theorem operation_of_switching {operation : Operation} (switching : operation.family = .switching) :
    operation = .toggle := by
  cases operation with
  | toggle => rfl
  | textMacro text delivery => cases delivery <;> cases switching
  | update | pasteNext | copyItem | remove | clear | toggleOrder | setOrder => cases switching

theorem Poised.turner (poised : world.Poised) (gated : world.Gated) (taken : world.Step choice after)
    (turns : world.switch? after ≠ none) :
    ∃ strand point, choice.onward? = some strand ∧ world.tasks strand = some ⟨.toggle, point⟩ := by
  have toggle : ∀ {strand operation point}, world.tasks strand = some ⟨operation, point⟩ →
      point.family = .switching → operation = .toggle := fun task switching =>
    operation_of_switching ((gated.family _ _ task).symm.trans switching)
  cases poised.turned taken with
  | still same => exact absurd (switch?_of_same same) turns
  | on task off position =>
    obtain rfl := toggle task rfl
    exact ⟨_, _, rfl, task⟩
  | off task opened on position =>
    obtain rfl := toggle task rfl
    exact ⟨_, _, rfl, task⟩

end World

/-- Whether a switch has yet to take effect. -/
def Point.unswitched : Point → Bool
  | .arriving .toggling | .waiting .toggling | .calling .keeping => true
  | _ => false

def World.unswitched (world : World) (strand : StrandId) : Bool :=
  world.seen false Point.unswitched strand

def Moment.beginsSwitch (moment : Moment) : Bool :=
  match moment.choice with
  | .start _ .toggle => true
  | _ => false

theorem SwitchCourse.once {strand : StrandId} {point? : Option Point} {made : List Switch}
    {called : List Notice} (course : SwitchCourse strand point? made called) :
    made.length + (point?.elim false Point.unswitched).toNat = 1 := by
  cases course <;> rfl

section Tally

variable {start world after : World} {past : List Moment} {choice : Choice} {strand : StrandId}

theorem Run.latestOperation (run : Run start past world) (idle : start.Idle) {operation : Operation}
    {point : Point} (task : world.tasks strand = some ⟨operation, point⟩) :
    latestOperation? strand past = some operation := by
  induction run generalizing point with
  | rest =>
    rw [idle strand] at task
    cases task
  | @step past world after choice run taken ih =>
    by_cases begins : ∃ operation, choice = .start strand operation
    · obtain ⟨begun, rfl⟩ := begins
      cases taken with
      | start free =>
        rw [World.put_tasks] at task
        obtain ⟨point, -, same⟩ := Option.map_eq_some_iff.mp task
        cases same
        exact if_pos rfl
    · have goesOn : ∀ operation, choice ≠ .start strand operation := fun operation same =>
        begins ⟨operation, same⟩
      rw [World.latestOperation?_of_other goesOn]
      by_cases own : choice.strand? = some strand
      · obtain ⟨point, before⟩ := taken.operation own task goesOn
        exact ih before
      · rw [taken.others own] at task
        exact ih task

theorem World.Gated.switcher (gated : world.Gated) (waits : world.unswitched strand = true) :
    ∃ point, world.tasks strand = some ⟨.toggle, point⟩ := by
  cases held : world.tasks strand with
  | none =>
    rw [World.unswitched, World.seen_of_free _ _ held] at waits
    cases waits
  | some task =>
    obtain ⟨operation, point⟩ := task
    rw [World.unswitched, World.seen_of_task _ _ held] at waits
    have switching : point.family = .switching := by
      cases point with
      | arriving stage | waiting stage => cases stage <;> first | rfl | cases waits
      | calling errand => cases errand <;> first | rfl | cases waits
    have same := World.operation_of_switching ((gated.family _ _ held).symm.trans switching)
    exact ⟨point, by rw [← same]⟩

theorem Run.unswitched_of_other (run : Run start past world) (fresh : start.Fresh)
    (other : PasteQueue.latestOperation? strand past ≠ some .toggle) :
    world.unswitched strand = false := by
  by_contra waits
  obtain ⟨point, task⟩ := (run.gated fresh.gated).switcher (Bool.eq_true_of_not_eq_false waits)
  exact other (run.latestOperation fresh.idle task)

theorem Run.onCourse (run : Run start past world) (fresh : start.Fresh) : world.OnCourse past := by
  induction run with
  | rest => exact fun strand begun => by cases begun
  | step run taken ih => exact ih.step (run.poised fresh) taken

theorem beginsSwitch_iff : Moment.beginsSwitch ⟨world, choice⟩ = true ↔
    ∃ strand, choice = .start strand .toggle := by
  cases choice with
  | start starter operation => cases operation <;> simp [Moment.beginsSwitch]
  | request | resume | call | external | fail | pass => simp [Moment.beginsSwitch]

theorem beginsSwitch_onward (onward : choice.onward? = some strand) :
    Moment.beginsSwitch ⟨world, choice⟩ = false := by
  cases choice with
  | start => cases onward
  | request | resume | call | external | fail | pass => rfl

theorem Run.switch?_of_other (run : Run start past world) (fresh : start.Fresh)
    (taken : world.Step choice after) (own : choice.strand? = some strand)
    (other : latestOperation? strand (⟨world, choice⟩ :: past) ≠ some .toggle) :
    world.switch? after = none := by
  by_contra turns
  obtain ⟨turner, point, onward, task⟩ :=
    (run.poised fresh).turner (run.gated fresh.gated) taken turns
  rw [Choice.strand?_of_onward onward] at own
  cases own
  refine other ?_
  rw [World.latestOperation?_of_onward onward]
  exact run.latestOperation fresh.idle task

theorem Run.unswitched_toggle (run : Run start past world) (fresh : start.Fresh)
    (taken : world.Step choice after) (own : choice.strand? = some strand)
    (switching : latestOperation? strand (⟨world, choice⟩ :: past) = some .toggle) :
    (Moment.beginsSwitch ⟨world, choice⟩).toNat + (world.unswitched strand).toNat =
      (world.switch? after).toList.length + (after.unswitched strand).toNat := by
  have once : _ + (after.unswitched strand).toNat = 1 :=
    ((run.step taken).onCourse fresh strand switching).once
  rcases Choice.starts_or_onward own with ⟨operation, rfl⟩ | onward
  · have same : operation = .toggle := by simpa [latestOperation?] using switching
    subst same
    cases taken with
    | start free =>
      have nothing : world.unswitched strand = false := World.seen_of_free _ _ free
      rw [World.Step.switchesOf_start (.start free)] at once
      rw [nothing, once]
      rfl
  · rw [World.latestOperation?_of_onward onward] at switching
    have before : _ + (world.unswitched strand).toNat = 1 :=
      (run.onCourse fresh strand switching).once
    rw [taken.switchesOf_onward onward, List.length_append] at once
    rw [beginsSwitch_onward onward, Bool.toNat_false]
    omega

theorem Run.unswitched_other (run : Run start past world) (fresh : start.Fresh)
    (taken : world.Step choice after) (own : choice.strand? = some strand)
    (other : latestOperation? strand (⟨world, choice⟩ :: past) ≠ some .toggle) :
    Moment.beginsSwitch ⟨world, choice⟩ = false ∧ world.unswitched strand = false := by
  rcases Choice.starts_or_onward own with ⟨operation, rfl⟩ | onward
  · cases taken with
    | start free =>
      refine ⟨?_, World.seen_of_free _ _ free⟩
      by_contra begins
      obtain ⟨starter, same⟩ := beginsSwitch_iff.mp (Bool.eq_true_of_not_eq_false begins)
      cases same
      exact other (if_pos rfl)
  · refine ⟨beginsSwitch_onward onward, run.unswitched_of_other fresh fun begun => other ?_⟩
    rw [World.latestOperation?_of_onward onward, begun]

theorem Run.unswitched_step (run : Run start past world) (fresh : start.Fresh)
    (taken : world.Step choice after) (own : choice.strand? = some strand) :
    (Moment.beginsSwitch ⟨world, choice⟩).toNat + (world.unswitched strand).toNat =
      (world.switch? after).toList.length + (after.unswitched strand).toNat := by
  by_cases switching : latestOperation? strand (⟨world, choice⟩ :: past) = some .toggle
  · exact run.unswitched_toggle fresh taken own switching
  · obtain ⟨begins, waits⟩ := run.unswitched_other fresh taken own switching
    rw [begins, waits, run.switch?_of_other fresh taken own switching,
      (run.step taken).unswitched_of_other fresh switching]
    rfl

theorem card_after {before after : StrandId → Bool} {waiting : Finset StrandId}
    (member : ∀ strand, strand ∈ waiting ↔ before strand = true) (mover : StrandId)
    (others : ∀ other, other ≠ mover → after other = before other) :
    ∃ left : Finset StrandId, (∀ strand, strand ∈ left ↔ after strand = true) ∧
      left.card + (before mover).toNat = waiting.card + (after mover).toNat := by
  cases now : after mover with
  | true =>
    refine ⟨insert mover waiting, fun strand => ?_, ?_⟩
    · by_cases same : strand = mover
      · simp [same, now]
      · rw [Finset.mem_insert, member, others strand same, or_iff_right same]
    · cases was : before mover with
      | true => rw [Finset.insert_eq_of_mem ((member mover).mpr was)]
      | false =>
        have outside : mover ∉ waiting := by rw [member, was]; nofun
        rw [Finset.card_insert_of_notMem outside]
        rfl
  | false =>
    refine ⟨waiting.erase mover, fun strand => ?_, ?_⟩
    · by_cases same : strand = mover
      · simp [same, now]
      · rw [Finset.mem_erase, member, others strand same, and_iff_right same]
    · cases was : before mover with
      | true => exact Finset.card_erase_add_one ((member mover).mpr was)
      | false =>
        have outside : mover ∉ waiting := by rw [member, was]; nofun
        rw [Finset.erase_eq_of_notMem outside]

/-- Of the switches that have been started, those that have not taken effect have yet to. -/
theorem Run.tally (run : Run start past world) (fresh : start.Fresh) :
    ∃ waiting : Finset StrandId, (∀ strand, strand ∈ waiting ↔ world.unswitched strand = true) ∧
      past.countP Moment.beginsSwitch = (switches past).length + waiting.card := by
  induction run with
  | rest =>
    refine ⟨∅, fun strand => ?_, rfl⟩
    rw [World.unswitched, World.seen_of_free _ _ (fresh.idle strand)]
    simp
  | @step past world after choice run taken ih =>
    obtain ⟨waiting, member, counted⟩ := ih
    rw [taken.switches, List.length_append, List.countP_cons]
    cases own : choice.strand? with
    | none =>
      have apart := Choice.strand?_ne own
      have still := World.switch?_of_same
        (taken.view_aside Controller.position_aside (fun _ _ => rfl) own)
      have begins : ¬ Moment.beginsSwitch ⟨world, choice⟩ = true := by
        rw [beginsSwitch_iff]
        rintro ⟨starter, rfl⟩
        exact apart _ rfl
      refine ⟨waiting, fun strand => ?_, ?_⟩
      · rw [member, World.unswitched, World.unswitched, taken.seen_others _ _ (apart strand)]
      · rw [still, if_neg begins, counted]
        simp
    | some strand =>
      have others : ∀ other, other ≠ strand → after.unswitched other = world.unswitched other := by
        intro other apart
        refine taken.seen_others false Point.unswitched ?_
        rw [own]
        exact fun same => apart (Option.some.inj same).symm
      obtain ⟨left, all, cards⟩ := card_after member strand others
      have step := run.unswitched_step fresh taken own
      refine ⟨left, all, ?_⟩
      have begins : (if Moment.beginsSwitch ⟨world, choice⟩ = true then 1 else 0) =
          (Moment.beginsSwitch ⟨world, choice⟩).toNat := by
        cases Moment.beginsSwitch ⟨world, choice⟩ <;> rfl
      rw [begins]
      omega

theorem Run.alternating (run : Run start past world) (fresh : start.Fresh) :
    world.Alternating past := by
  induction run with
  | rest =>
    refine ⟨[], .inl ⟨?_, rfl⟩⟩
    rw [fresh.state]
    rfl
  | step run taken ih => exact ih.step (run.poised fresh) taken

theorem Run.returning (run : Run start past world) (fresh : start.Fresh) :
    world.Returning past := by
  induction run with
  | rest =>
    intro strand item status stands
    rw [World.point?, fresh.idle strand] at stands
    cases stands
  | step run taken ih => exact ih.step (run.gated fresh.gated) (run.poised fresh) taken

theorem Run.turned (run : Run start past world) (fresh : start.Fresh) {moment : Moment}
    (member : moment ∈ past) (turns : moment.switch? ≠ none) :
    ∃ strand point, moment.choice.onward? = some strand ∧
      moment.world.tasks strand = some ⟨.toggle, point⟩ := by
  induction run with
  | rest => cases member
  | step run taken ih =>
    rcases List.mem_cons.mp member with rfl | member
    · rw [taken.switch?_eq] at turns
      exact (run.poised fresh).turner (run.gated fresh.gated) taken turns
    · exact ih member

end Tally

/-- Switches take effect one at a time, and pair up. -/
structure Switched (past : List Moment) (world : World) : Prop where
  turned : ∀ moment ∈ past, moment.switch? ≠ none → ∃ strand point,
    moment.choice.onward? = some strand ∧ moment.world.tasks strand = some ⟨.toggle, point⟩
  courses : world.OnCourse past
  alone : ∀ one other errand another, world.tasks one = some ⟨.toggle, .calling errand⟩ →
    world.tasks other = some ⟨.toggle, .calling another⟩ → one = other
  tally : ∃ waiting : Finset StrandId, (∀ strand, strand ∈ waiting ↔ world.unswitched strand = true) ∧
    past.countP Moment.beginsSwitch = (switches past).length + waiting.card
  odd : world.controller.state.enabled = true ↔ Odd (switches past).length
  alternating : world.Alternating past
  kept : world.controller.state.enabled = false → world.controller.state.snapshot = none
  returning : ∀ strand item status,
    world.point? strand = some (.calling (.bringingBack item status)) →
      (switches past).head? = some (.off (some item)) ∧ world.controller.state.enabled = false

theorem switches_pair_up {start world : World} {past : List Moment} (fresh : start.Fresh)
    (run : Run start past world) : Switched past world := by
  have gated := run.gated fresh.gated
  have alternating := run.alternating fresh
  constructor
  · exact fun moment member => run.turned fresh member
  · exact run.onCourse fresh
  · intro one other errand another task beside
    have inside : ∀ {strand errand}, world.tasks strand = some ⟨.toggle, .calling errand⟩ →
        world.controller.writeGate.holder = some strand := by
      intro strand errand task
      refine gated.writes_alone ?_ (World.point?_of_task task)
      have family := gated.family _ _ task
      cases errand <;> first | rfl | cases family
    exact Option.some.inj ((inside task).symm.trans (inside beside))
  · exact run.tally fresh
  · exact alternating.odd
  · exact alternating
  · exact Queue.State.snapshot_of_off
  · intro strand item status stands
    have latest := run.returning fresh strand item status stands
    obtain ⟨kept, ⟨off, -⟩ | ⟨-, paired⟩⟩ := alternating
    · exact ⟨latest, off⟩
    · rw [paired] at latest
      cases latest

/-- Three switches at once. Somebody copies something before the first has kept it, the second fails to
bring that back, and the third fails to keep anything. -/
def switchingThrice : List Choice :=
  [.start 1 .toggle, .start 2 .toggle, .start 3 .toggle, .request 1, .request 2, .resume 1,
    .external (.text "V"), .request 3, .call 1, .fail .write [some "busy"], .resume 2, .call 2,
    .fail .read [some "busy"], .resume 3, .call 3]

theorem switchingThrice_pairs :
    let played := (World.fresh {} (.text "U")).played switchingThrice rfl
    switches played.1 = [.on none, .off (some ⟨.minted 2, .text "V"⟩), .on (some ⟨.minted 2, .text "V"⟩)] ∧
      callsOf 2 played.1 = [.wrote 2 ⟨.minted 2, .text "V"⟩ (some ⟨.write, "busy"⟩)] ∧
      Switched played.1 played.2 :=
  ⟨rfl, rfl, switches_pair_up (World.fresh_fresh {} _) (World.played_run _ switchingThrice rfl)⟩

end PasteQueue
