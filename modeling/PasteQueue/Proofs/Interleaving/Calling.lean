import PasteQueue.Proofs.Controller.Aside
import PasteQueue.Proofs.Controller.Calling
import PasteQueue.Proofs.Interleaving.Custody

/-!
The calls of a run. A step makes the call that its strand has come to, and no step makes any other. As
long as nobody else copies anything, what the clipboard shows and what the ring has recorded is told by
the calls alone.
-/

namespace PasteQueue

open Clipboard (Item)
open Controller (Errand Notice Operation)

theorem filterMap_cons_toList {Given Seen : Type} (view : Given → Option Seen) (head : Given)
    (rest : List Given) : (head :: rest).filterMap view = (view head).toList ++ rest.filterMap view := by
  rw [List.filterMap_cons]
  cases view head <;> rfl

/-- What a call has put on the clipboard. -/
def Controller.Notice.stored? : Notice → Option Item
  | .wrote _ item none => some item
  | _ => none

/-- A call meets with an item on the clipboard: a read gives its content, a keystroke pastes it. -/
def Controller.Notice.Shows (item : Item) : Notice → Prop
  | .read _ (.ok seen) => seen.content = item.content
  | .pressed _ shown _ => shown = item
  | _ => True

theorem Desktop.answer_shows (desktop : Desktop) (caller : StrandId) (errand : Errand) :
    (desktop.answer caller errand).Shows desktop.current := by
  have reads : Notice.Shows desktop.current (.read caller desktop.read.1) := by
    cases read : desktop.read.1 with
    | ok seen => exact Desktop.read_content desktop read
    | error fault => trivial
  cases errand with
  | keeping | looking | saving => exact reads
  | pressing => rfl
  | bringingBack | copying | placing | returning | typing => trivial

/-- What calls have put on the clipboard, the latest first. -/
def stored (calls : List Notice) : List Item := calls.filterMap Notice.stored?

theorem Desktop.answer_stored? (desktop : Desktop) (caller : StrandId) (errand : Errand) :
    (desktop.answer caller errand).stored? = desktop.written? errand := by
  have wrote : ∀ item : Item, Notice.stored? (.wrote caller item (desktop.write item).1) =
      (some item).filter fun item => (desktop.write item).1.isNone := by
    intro item
    rw [Option.filter_some]
    cases (desktop.write item).1 <;> rfl
  cases errand with
  | keeping | looking | saving | pressing | typing => rfl
  | bringingBack item | copying item => exact wrote item
  | placing paste => exact wrote paste.item
  | returning paste saved => exact wrote saved

/-- A ring that goes on to record numbers, so many of them from a number on. -/
def Queue.EchoRing.recordFrom (ring : Queue.EchoRing) (sequence : UInt32) : Nat → Queue.EchoRing
  | 0 => ring
  | count + 1 => (ring.recordFrom sequence count).record (sequence + UInt32.ofNat (count + 1))

/-- What calls have left behind where nobody else has changed the clipboard. -/
structure Stored (before : Controller) (calls : List Notice) (after : Controller) : Prop where
  held : after.desktop.heldSequence = none
  current : after.desktop.current = (stored calls).head?.getD before.desktop.current
  sequence : after.desktop.sequence = before.desktop.sequence + UInt32.ofNat (stored calls).length
  echoes : after.state.echoes =
    before.state.echoes.recordFrom before.desktop.sequence (stored calls).length
  shows : ∀ newer notice older, calls = newer ++ notice :: older →
    notice.Shows ((stored older).head?.getD before.desktop.current)

namespace World

/-- The call that is made with a choice, with what it comes back with. -/
def called? (world : World) (choice : Choice) : Option Notice :=
  (world.errand? choice).map fun (caller, _, errand) => world.controller.desktop.answer caller errand

variable {world after : World} {choice : Choice} {strand : StrandId}

theorem called?_call {operation : Operation} {errand : Errand}
    (task : world.tasks strand = some ⟨operation, .calling errand⟩) :
    world.called? (.call strand) = some (world.controller.desktop.answer strand errand) := by
  rw [called?, errand?_call task]
  rfl

theorem Step.calls (taken : world.Step choice after) :
    after.controller.calls = (world.called? choice).toList ++ world.controller.calls := by
  cases taken with
  | start free => exact Controller.launch_calls _ _
  | request task => exact Controller.enter_calls _ _ _
  | resume task opened => exact Controller.approach_calls _ _
  | call task =>
    rw [called?_call task]
    exact Controller.complete_calls _ _ _
  | external content => exact Controller.copy_calls _ content
  | fail | pass => rfl

theorem called?_aside (aside : choice.strand? = none) : world.called? choice = none := by
  cases choice with
  | start | request | resume | call => cases aside
  | external | fail | pass => rfl

theorem Step.view_aside {View : Type} {view : Controller → View} (taken : world.Step choice after)
    (kept : Controller.Aside view)
    (clock : ∀ controller clock, view { controller with clock } = view controller)
    (aside : choice.strand? = none) : view after.controller = view world.controller := by
  cases taken with
  | external content => exact kept.copy _ content
  | fail => exact kept.desktop _ _
  | pass => exact clock _ _
  | start | request | resume | call => cases aside

theorem called?_stored (world : World) (choice : Choice) :
    (world.called? choice).bind Notice.stored? = (world.written? choice).map fun written => written.2.2 := by
  rw [called?, written?]
  cases world.errand? choice with
  | none => rfl
  | some calling =>
    obtain ⟨caller, operation, errand⟩ := calling
    simp [Desktop.answer_stored?, Function.comp_def]

theorem called?_shows {notice : Notice} (called : world.called? choice = some notice) :
    notice.Shows world.controller.desktop.current := by
  obtain ⟨⟨strand, operation, errand⟩, -, rfl⟩ := Option.map_eq_some_iff.mp called
  exact Desktop.answer_shows _ _ _

theorem Step.stored (taken : world.Step choice after) {before : Controller} {calls : List Notice}
    (left : Stored before calls world.controller) (alone : ∀ content, choice ≠ .external content) :
    Stored before ((world.called? choice).toList ++ calls) after.controller := by
  have traced := taken.traced
  have held : after.controller.desktop.heldSequence = none := traced.held.trans left.held
  have shows : ∀ newer notice older, (world.called? choice).toList ++ calls = newer ++ notice :: older →
      notice.Shows ((PasteQueue.stored older).head?.getD before.desktop.current) := by
    intro newer notice older split
    cases called : world.called? choice with
    | none =>
      rw [called] at split
      exact left.shows _ _ _ split
    | some latest =>
      rw [called] at split
      cases newer with
      | cons first newer => exact left.shows _ _ _ (List.cons.inj split).2
      | nil =>
        obtain ⟨rfl, rfl⟩ := List.cons.inj split
        exact left.current ▸ called?_shows called
  have latest := called?_stored world choice
  have more : PasteQueue.stored ((world.called? choice).toList ++ calls) =
      ((world.written? choice).map fun written => written.2.2).toList ++ PasteQueue.stored calls := by
    rw [← latest]
    cases world.called? choice with
    | none => rfl
    | some notice => exact filterMap_cons_toList _ _ _
  cases written : world.written? choice with
  | none =>
    obtain ⟨current, sequence, echoes⟩ := traced.kept written alone
    rw [written] at more
    have same : PasteQueue.stored ((world.called? choice).toList ++ calls) = PasteQueue.stored calls :=
      more
    exact ⟨held, by rw [same, current, left.current], by rw [same, sequence, left.sequence],
      by rw [same, echoes, left.echoes], shows⟩
  | some writing =>
    obtain ⟨strand, operation, item⟩ := writing
    obtain ⟨current, sequence, echoes⟩ := traced.written _ _ _ written
    rw [written] at more
    have longer : PasteQueue.stored ((world.called? choice).toList ++ calls) =
        item :: PasteQueue.stored calls := more
    have number : after.controller.desktop.sequence = before.desktop.sequence +
        UInt32.ofNat ((PasteQueue.stored calls).length + 1) := by
      rw [sequence, left.sequence, UInt32.add_assoc, UInt32.ofNat_add]
      rfl
    refine ⟨held, by rw [longer, current]; rfl, by rw [longer, number]; rfl, ?_, shows⟩
    have seen : after.controller.desktop.seenSequence = after.controller.desktop.sequence := by
      rw [Desktop.seenSequence, held]
      rfl
    rw [longer, echoes, seen, number, left.echoes]
    rfl

end World

def Moment.called? (moment : Moment) : Option Notice := moment.world.called? moment.choice

/-- The calls of a run, the latest first. -/
def calls (past : List Moment) : List Notice := past.filterMap Moment.called?

theorem calls_cons (world : World) (choice : Choice) (past : List Moment) :
    calls (⟨world, choice⟩ :: past) = (world.called? choice).toList ++ calls past :=
  filterMap_cons_toList _ _ _

namespace Run

variable {start world : World} {past : List Moment}

theorem calls (run : Run start past world) :
    world.controller.calls = PasteQueue.calls past ++ start.controller.calls := by
  induction run with
  | rest => rfl
  | step run taken ih => rw [taken.calls, ih, calls_cons, List.append_assoc]

theorem stored (run : Run start past world) (held : start.controller.desktop.heldSequence = none)
    (alone : ∀ moment ∈ past, ∀ content, moment.choice ≠ .external content) :
    Stored start.controller (PasteQueue.calls past) world.controller := by
  induction run with
  | rest =>
    refine ⟨held, rfl, (UInt32.add_zero _).symm, rfl, fun newer notice older split => ?_⟩
    cases newer <;> cases split
  | step run taken ih =>
    rw [calls_cons]
    exact taken.stored (ih fun moment member => alone moment (.tail _ member)) (alone _ (.head _))

end Run

/-- The calls that a strand has made since its latest start, the latest first. -/
def callsOf (strand : StrandId) (past : List Moment) : List Notice :=
  (latest strand past).filterMap Moment.called?

end PasteQueue
