import PasteQueue.Proofs.Controller.Calls
import PasteQueue.Proofs.Controller.Gate
import PasteQueue.Proofs.Interleaving.Basic

/-!
What can be read off the point at which an operation stands: which gates it holds or wants, what it
pastes, and what it has saved. Coming to a point, an operation leaves clipboard and ring alone.
-/

namespace PasteQueue

open Clipboard (Content Item)
open Controller (Advance Approach Errand Operation Paste Progress Result Stage)
open Gate (Role)

namespace Controller

/-! ### Views of a point -/

def Stage.paste? : Stage → Option Paste
  | .saving paste | .placing paste _ | .settling paste _ | .lingering paste _
  | .returning paste _ _ => some paste
  | .toggling | .checking | .copying _ => none

def Errand.paste? : Errand → Option Paste
  | .saving paste | .placing paste _ | .pressing paste _ | .returning paste _ _ => some paste
  | .keeping | .bringingBack .. | .looking | .copying _ | .typing _ => none

def Stage.saved? : Stage → Option Item
  | .placing _ saved | .settling _ saved | .lingering _ saved | .returning _ saved _ => some saved
  | .toggling | .checking | .copying _ | .saving _ => none

def Errand.saved? : Errand → Option Item
  | .placing _ saved | .pressing _ saved | .returning _ saved _ => some saved
  | .keeping | .bringingBack .. | .looking | .copying _ | .saving _ | .typing _ => none

def Stage.asksWriteGate : Stage → Bool
  | .toggling | .checking | .copying _ | .placing .. | .returning .. => true
  | .saving _ | .settling .. | .lingering .. => false

def Stage.asksPasteGate : Stage → Bool
  | .saving _ => true
  | _ => false

/-- What an operation is about. -/
inductive Family
  | switching | updating | copying | pasting | typing | editing
  deriving DecidableEq, Repr

def Operation.family : Operation → Family
  | .toggle => .switching
  | .update => .updating
  | .copyItem _ => .copying
  | .pasteNext | .textMacro _ .pasted => .pasting
  | .textMacro _ .typed => .typing
  | .remove _ | .clear | .toggleOrder | .setOrder _ => .editing

def Stage.family : Stage → Family
  | .toggling => .switching
  | .checking => .updating
  | .copying _ => .copying
  | .saving _ | .placing .. | .settling .. | .lingering .. | .returning .. => .pasting

def Errand.family : Errand → Family
  | .keeping | .bringingBack .. => .switching
  | .looking => .updating
  | .copying _ => .copying
  | .saving _ | .placing .. | .pressing .. | .returning .. => .pasting
  | .typing _ => .typing

end Controller

namespace Point

def paste? : Point → Option Paste
  | .arriving stage | .waiting stage => stage.paste?
  | .calling errand => errand.paste?

/-- What a paste under way has saved and not yet given back. -/
def saved? : Point → Option Item
  | .arriving stage | .waiting stage => stage.saved?
  | .calling errand => errand.saved?

def family : Point → Controller.Family
  | .arriving stage | .waiting stage => stage.family
  | .calling errand => errand.family

def writeRole : Point → Role
  | .arriving _ => .outside
  | .waiting stage => if stage.asksWriteGate then .asking else .outside
  | .calling errand => if errand.inWriteGate then .inside else .outside

def pasteRole : Point → Role
  | .arriving stage => if stage.holdsPasteGate then .inside else .outside
  | .waiting stage =>
    if stage.holdsPasteGate then .inside
    else if stage.asksPasteGate then .asking
    else .outside
  | .calling errand => if errand.inPasteGate then .inside else .outside

theorem pasteRole_of_saved {point : Point} {saved : Item} (holds : point.saved? = some saved) :
    point.pasteRole = .inside := by
  cases point with
  | arriving stage => cases stage <;> first | rfl | cases holds
  | waiting stage => cases stage <;> first | rfl | cases holds
  | calling errand => cases errand <;> first | rfl | cases holds

end Point

namespace World

def point? (world : World) (strand : StrandId) : Option Point := (world.tasks strand).map Task.point

/-- What a view shows of the point at which a strand stands, and the rest of a strand that stands at
none. -/
def seen {View : Type} (world : World) (rest : View) (view : Point → View) (strand : StrandId) :
    View :=
  (world.point? strand).elim rest view

section Seen

variable {View : Type} {world : World} {strand : StrandId}

theorem point?_of_task {operation : Operation} {point : Point}
    (task : world.tasks strand = some ⟨operation, point⟩) : world.point? strand = some point := by
  simp [point?, task]

theorem seen_of_free (rest : View) (view : Point → View) (free : world.tasks strand = none) :
    world.seen rest view strand = rest := by
  simp [seen, point?, free]

theorem seen_of_point (rest : View) (view : Point → View) {point : Point}
    (stands : world.point? strand = some point) : world.seen rest view strand = view point := by
  simp [seen, stands]

theorem seen_of_task (rest : View) (view : Point → View) {operation : Operation} {point : Point}
    (task : world.tasks strand = some ⟨operation, point⟩) :
    world.seen rest view strand = view point := seen_of_point rest view (point?_of_task task)

theorem point_of_seen {view : Point → Option View} {shown : View}
    (sees : world.seen none view strand = some shown) :
    ∃ point, world.point? strand = some point ∧ view point = some shown := by
  unfold seen at sees
  cases stands : world.point? strand with
  | none =>
    rw [stands] at sees
    cases sees
  | some point =>
    rw [stands] at sees
    exact ⟨point, rfl, sees⟩

end Seen

/-- The role of each strand, by a view of points. -/
def role (world : World) (view : Point → Role) (strand : StrandId) : Role :=
  world.seen .outside view strand

theorem role_of_task {world : World} (view : Point → Role) {strand : StrandId}
    {operation : Operation} {point : Point} (task : world.tasks strand = some ⟨operation, point⟩) :
    world.role view strand = view point := seen_of_task Role.outside view task

theorem role_of_free {world : World} {view : Point → Role} {strand : StrandId}
    (free : world.tasks strand = none) : world.role view strand = .outside :=
  seen_of_free Role.outside view free

theorem role_move (world : World) (controller : Controller) (view : Point → Role)
    (strand : StrandId) (task : Option Task) :
    (world.move controller strand task).role view =
      Function.update (world.role view) strand ((task.map Task.point).elim .outside view) := by
  funext other
  by_cases same : other = strand
  · rw [same]
    simp [role, seen, point?, move]
  · simp [role, seen, point?, move, same]

theorem role_put (world : World) (view : Point → Role) (strand : StrandId) (operation : Operation)
    (approach : Approach) :
    (world.put strand operation approach).role view =
      Function.update (world.role view) strand (approach.1.point?.elim .outside view) := by
  unfold put
  rw [role_move]
  cases approach.1.point? <;> rfl

end World

end PasteQueue
