import Mathlib.Data.List.Chain
import PasteQueue.Proofs.Interleaving.Restoration

/-!
The order of overlapping pastes. The paste gate lets them through in the order in which they have
asked for it; each that is let through presses once, whether or not the keystroke comes off. So what
has been pressed, followed by what is still to be pressed, is what has been begun.
-/

namespace PasteQueue

open Clipboard (Content Item)
open Controller (Approach Errand Operation Paste Stage)
open Gate (Role)

/-! ### What has still to be pressed -/

namespace Point

def pending? : Point → Option Paste
  | .arriving stage | .waiting stage =>
    match stage with
    | .saving paste | .placing paste _ | .settling paste _ => some paste
    | .toggling | .checking | .copying _ | .lingering .. | .returning .. => none
  | .calling errand =>
    match errand with
    | .saving paste | .placing paste _ | .pressing paste _ => some paste
    | .keeping | .bringingBack .. | .looking | .copying _ | .returning .. | .typing _ => none

/-- The paste that has not yet asked for the paste gate. -/
def unasked? : Point → Option Paste
  | .arriving (.saving paste) => some paste
  | _ => none

theorem pending?_of_unasked {point : Point} {paste : Paste} (unasked : point.unasked? = some paste) :
    point.pending? = some paste := by
  cases point with
  | arriving stage => cases stage <;> first | exact unasked | cases unasked
  | waiting | calling => cases unasked

theorem pasteRole_of_unasked {point : Point} {paste : Paste}
    (unasked : point.unasked? = some paste) : point.pasteRole = .outside := by
  cases point with
  | arriving stage => cases stage <;> first | rfl | cases unasked
  | waiting | calling => cases unasked

theorem unasked_or_asked {point : Point} {paste : Paste} (pending : point.pending? = some paste) :
    point.unasked? = some paste ∨ point.pasteRole ≠ .outside := by
  cases point with
  | arriving stage =>
    cases stage with
    | saving => exact .inl pending
    | placing | settling => exact .inr nofun
    | toggling | checking | copying | lingering | returning => cases pending
  | waiting stage =>
    cases stage with
    | saving | placing | settling => exact .inr nofun
    | toggling | checking | copying | lingering | returning => cases pending
  | calling errand =>
    cases errand with
    | saving | placing | pressing => exact .inr nofun
    | keeping | bringingBack | looking | copying | returning | typing => cases pending

end Point

/-- What a view shows of some strands, each with its strand. -/
def tagged (view : StrandId → Option Paste) (strands : List StrandId) : List (StrandId × Paste) :=
  strands.filterMap fun strand => (view strand).map (Prod.mk strand)

section Tagged

variable {view other : StrandId → Option Paste} {strand : StrandId} {strands : List StrandId}
  {paste : Paste}

theorem mem_tagged : (strand, paste) ∈ tagged view strands ↔ strand ∈ strands ∧ view strand = some paste := by
  unfold tagged
  rw [List.mem_filterMap]
  constructor
  · rintro ⟨found, member, shown⟩
    obtain ⟨_, seen, same⟩ := Option.map_eq_some_iff.mp shown
    cases same
    exact ⟨member, seen⟩
  · rintro ⟨member, seen⟩
    exact ⟨strand, member, by rw [seen]; rfl⟩

theorem tagged_congr (same : ∀ strand ∈ strands, view strand = other strand) :
    tagged view strands = tagged other strands := by
  refine List.filterMap_congr ?_
  intro strand member
  rw [same strand member]

theorem tagged_append (first second : List StrandId) :
    tagged view (first ++ second) = tagged view first ++ tagged view second :=
  List.filterMap_append ..

theorem tagged_cons_some (seen : view strand = some paste) :
    tagged view (strand :: strands) = (strand, paste) :: tagged view strands :=
  List.filterMap_cons_some (by rw [seen]; rfl)

theorem tagged_cons_none (unseen : view strand = none) :
    tagged view (strand :: strands) = tagged view strands :=
  List.filterMap_cons_none (by rw [unseen]; rfl)

theorem tagged_strands (view : StrandId → Option Paste) (strands : List StrandId) :
    ((tagged view strands).map Prod.fst).Sublist strands := by
  induction strands with
  | nil => exact .slnil
  | cons strand strands ih =>
    cases seen : view strand with
    | none =>
      rw [tagged_cons_none seen]
      exact ih.cons _
    | some paste =>
      rw [tagged_cons_some seen]
      exact ih.cons_cons _

end Tagged

/-! ### The chronicle of a run -/

/-- What a view shows of the moments of a run, the first moment first. -/
def chronicle {Event : Type} (view : Moment → Option Event) (past : List Moment) : List Event :=
  (past.filterMap view).reverse

section Chronicle

variable {Event : Type} {view : Moment → Option Event} {moment : Moment} {past : List Moment}

theorem chronicle_cons_none (unseen : view moment = none) :
    chronicle view (moment :: past) = chronicle view past := by
  rw [chronicle, List.filterMap_cons_none unseen]
  rfl

theorem chronicle_cons_some {event : Event} (seen : view moment = some event) :
    chronicle view (moment :: past) = chronicle view past ++ [event] := by
  rw [chronicle, List.filterMap_cons_some seen, List.reverse_cons]
  rfl

end Chronicle

namespace World

def pending? (world : World) : StrandId → Option Paste := world.seen none Point.pending?

def unasked? (world : World) : StrandId → Option Paste := world.seen none Point.unasked?

end World

namespace Moment

/-- The paste that a start has taken from the queue, or made for a macro. -/
def begun? (moment : Moment) : Option (StrandId × Paste) :=
  match moment.choice with
  | .start strand operation =>
    ((moment.world.controller.launch operation).1.point?.bind Point.paste?).map (Prod.mk strand)
  | _ => none

/-- The paste for which the paste gate is asked. -/
def asked? (moment : Moment) : Option (StrandId × Paste) :=
  match moment.choice with
  | .request strand => (moment.world.unasked? strand).map (Prod.mk strand)
  | _ => none

/-- The paste for which paste is pressed. -/
def pressed? (moment : Moment) : Option (StrandId × Paste) :=
  match moment.world.errand? moment.choice with
  | some (strand, _, .pressing paste _) => some (strand, paste)
  | _ => none

end Moment

def begun : List Moment → List (StrandId × Paste) := chronicle Moment.begun?

def asked : List Moment → List (StrandId × Paste) := chronicle Moment.asked?

def pressed : List Moment → List (StrandId × Paste) := chronicle Moment.pressed?

/-- Whoever has begun a paste asks for the paste gate next, before any other strand takes a step. -/
def Prompt (past : List Moment) : Prop :=
  past.IsChain fun next moment => ∀ paste ∈ moment.begun?, next.choice = .request paste.1

instance (past : List Moment) : Decidable (Prompt past) :=
  inferInstanceAs (Decidable (past.IsChain _))

namespace World

variable {world after : World} {choice : Choice} {past : List Moment} {strand : StrandId}

/-! ### From the request to the keystroke -/

/-- What has asked has been pressed, or is in the queue of the paste gate. -/
def Lined (past : List Moment) (world : World) : Prop :=
  asked past = pressed past ++ tagged world.pending? world.controller.pasteGate.queue

theorem Lined.of_same (lined : world.Lined past) (silent : Moment.asked? ⟨world, choice⟩ = none)
    (still : Moment.pressed? ⟨world, choice⟩ = none)
    (queue : after.controller.pasteGate.queue = world.controller.pasteGate.queue)
    (pending : ∀ strand ∈ world.controller.pasteGate.queue,
      after.pending? strand = world.pending? strand) :
    after.Lined (⟨world, choice⟩ :: past) := by
  rw [Lined, asked, pressed, chronicle_cons_none silent, chronicle_cons_none still, queue,
    tagged_congr pending]
  exact lined

theorem Step.pending?_onward (taken : world.Step choice after)
    (still : world.errand? choice = none) (strand : StrandId)
    (goesOn : ∀ operation, choice ≠ .start strand operation) :
    after.pending? strand = world.pending? strand := by
  have plain : ∀ errand : Errand, errand.paste? = none →
      Point.pending? (.calling errand) = none := by
    intro errand none
    cases errand <;> first | rfl | cases none
  refine taken.seen_onward none Point.pending? (fun _ => rfl) ?_ still goesOn
  intro controller stage
  have away := Controller.switch_check_view Point.pending? none plain controller
  cases stage with
  | toggling => exact away.1
  | checking => exact away.2
  | copying | saving | placing | settling | lingering | returning => rfl

theorem pressed?_of_still (still : world.errand? choice = none) :
    Moment.pressed? ⟨world, choice⟩ = none := by
  simp only [Moment.pressed?, still]

theorem Lined.request (lined : world.Lined past) (gated : world.Gated) {operation : Operation}
    {stage : Stage} (task : world.tasks strand = some ⟨operation, .arriving stage⟩)
    (taken : world.Step (.request strand) after) :
    after.Lined (⟨world, .request strand⟩ :: past) := by
  have gate : after.controller.pasteGate =
      if stage.asksPasteGate then (world.controller.pasteGate.request strand).2
      else world.controller.pasteGate := by
    cases taken with
    | request same =>
      rw [task] at same
      cases same
      exact (Controller.enter_frame world.controller strand stage).2.2.2.2
  have pending : ∀ other, after.pending? other = world.pending? other := fun other =>
    taken.pending?_onward rfl other fun _ same => by cases same
  have unasked : world.unasked? strand = Point.unasked? (.arriving stage) :=
    seen_of_task none Point.unasked? task
  cases stage with
  | saving paste =>
    have asks : Moment.asked? ⟨world, .request strand⟩ = some (strand, paste) := by
      simp only [Moment.asked?, unasked]
      rfl
    have own : world.pending? strand = some paste := seen_of_task none Point.pending? task
    have gate : after.controller.pasteGate = (world.controller.pasteGate.request strand).2 := gate
    rw [Lined, asked, pressed, chronicle_cons_some asks, chronicle_cons_none (pressed?_of_still rfl),
      gate, gated.paste.request_queue, tagged_congr fun other _ => pending other, tagged_append,
      tagged_cons_some own, ← List.append_assoc]
    exact congrArg (· ++ [(strand, paste)]) lined
  | toggling | checking | copying | placing | settling | lingering | returning =>
    exact lined.of_same (by simp only [Moment.asked?, unasked]; rfl) (pressed?_of_still rfl)
      (congrArg Gate.queue gate) fun other _ => pending other

theorem Step.pasteGate_call {operation : Operation} {errand : Errand}
    (task : world.tasks strand = some ⟨operation, .calling errand⟩)
    (taken : world.Step (.call strand) after) :
    after.controller.pasteGate =
      if errand.inPasteGate ∧ errand.next? world.controller.desktop = none then
        world.controller.pasteGate.release
      else world.controller.pasteGate := by
  cases taken with
  | call same =>
    rw [task] at same
    cases same
    exact (Controller.complete_completed world.controller strand errand).pasteGate

theorem pressed?_call {operation : Operation} {errand : Errand}
    (task : world.tasks strand = some ⟨operation, .calling errand⟩)
    (other : ∀ paste saved, errand ≠ .pressing paste saved) :
    Moment.pressed? ⟨world, .call strand⟩ = none := by
  simp only [Moment.pressed?, errand?_call task]
  split
  · rename_i same
    cases same
    exact absurd rfl (other _ _)
  · rfl

theorem pressed?_pressing {operation : Operation} {paste : Paste} {saved : Item}
    (task : world.tasks strand = some ⟨operation, .calling (.pressing paste saved)⟩) :
    Moment.pressed? ⟨world, .call strand⟩ = some (strand, paste) := by
  simp only [Moment.pressed?, errand?_call task]

theorem Lined.call (lined : world.Lined past) (gated : world.Gated) (clear : world.Clear)
    {operation : Operation} {errand : Errand}
    (task : world.tasks strand = some ⟨operation, .calling errand⟩)
    (taken : world.Step (.call strand) after) : after.Lined (⟨world, .call strand⟩ :: past) := by
  have own : after.pending? strand = _ := Step.seen_call none Point.pending? task taken
  have gate := Step.pasteGate_call task taken
  have before : world.pending? strand = Point.pending? (.calling errand) :=
    seen_of_task none Point.pending? task
  have others : ∀ other, other ≠ strand → after.pending? other = world.pending? other :=
    fun other different => taken.seen_others none Point.pending? (call_others different)
  have same : after.pending? strand = world.pending? strand →
      ∀ other ∈ world.controller.pasteGate.queue, after.pending? other = world.pending? other := by
    intro kept other _
    by_cases equal : other = strand
    · rw [equal, kept]
    · exact others other equal
  have queue : errand.inPasteGate = true →
      world.controller.pasteGate.queue = strand :: world.controller.pasteGate.line := fun inside =>
    Gate.queue_of_held (gated.holds (point?_of_task task) (by simp [Point.pasteRole, inside]))
  have behind : errand.inPasteGate = true → ∀ other ∈ world.controller.pasteGate.line,
      after.pending? other = world.pending? other := by
    intro inside other member
    refine others other ?_
    rintro rfl
    have nodup := gated.paste.queue_nodup
    rw [queue inside] at nodup
    exact (List.nodup_cons.mp nodup).1 member
  cases errand with
  | keeping | bringingBack | looking | copying | typing =>
    exact lined.of_same rfl (pressed?_call task (by intro _ _ other; cases other))
      (congrArg Gate.queue (gate.trans (if_neg (by simp [Errand.inPasteGate]))))
      (same (own.trans before.symm))
  | saving paste =>
    obtain ⟨item, read⟩ := Desktop.read_of_sound _ clear.read
    have next : Errand.next? world.controller.desktop (.saving paste) = some (.placing paste item) := by
      simp only [Errand.next?, read]
    rw [next] at own gate
    exact lined.of_same rfl (pressed?_call task (by intro _ _ other; cases other))
      (congrArg Gate.queue (gate.trans (if_neg (by simp)))) (same (own.trans before.symm))
  | placing paste saved =>
    have next : Errand.next? world.controller.desktop (.placing paste saved) =
        some (.settling paste saved) := by
      simp only [Errand.next?, Desktop.write_of_sound _ clear.write]
    rw [next] at own gate
    exact lined.of_same rfl (pressed?_call task (by intro _ _ other; cases other))
      (congrArg Gate.queue (gate.trans (if_neg (by simp)))) (same (own.trans before.symm))
  | pressing paste saved =>
    -- The holder is first in the queue, and moves from what is pending to the end of what is pressed.
    have gone : after.pending? strand = none := by
      rw [own]
      dsimp only [Errand.next?]
      cases world.controller.desktop.pressPaste.1 <;> rfl
    have kept : after.controller.pasteGate = world.controller.pasteGate := by
      refine gate.trans (if_neg ?_)
      dsimp only [Errand.next?]
      cases world.controller.desktop.pressPaste.1 <;> simp
    rw [Lined, queue rfl, tagged_cons_some before] at lined
    rw [Lined, asked, pressed, chronicle_cons_none rfl, chronicle_cons_some (pressed?_pressing task),
      kept, queue rfl, tagged_cons_none gone, tagged_congr (behind rfl), List.append_assoc]
    exact lined
  | returning paste saved failure =>
    -- The holder has been pressed by now, so the queue loses nothing that is pending.
    have freed : after.controller.pasteGate = world.controller.pasteGate.release :=
      gate.trans (if_pos ⟨rfl, rfl⟩)
    rw [Lined, queue rfl, tagged_cons_none before] at lined
    rw [Lined, asked, pressed, chronicle_cons_none rfl,
      chronicle_cons_none (pressed?_call task (by intro _ _ other; cases other)), freed,
      Gate.release_queue, tagged_congr (behind rfl)]
    exact lined

theorem Lined.step (lined : world.Lined past) (gated : world.Gated) (clear : world.Clear)
    (taken : world.Step choice after) : after.Lined (⟨world, choice⟩ :: past) := by
  cases taken with
  | start free =>
    rename_i strand operation
    have launched := Controller.launch_launched world.controller operation
    refine lined.of_same rfl (pressed?_of_still rfl) (congrArg Gate.queue launched.pasteGate) ?_
    intro other member
    refine (Step.start free).seen_others none Point.pending? ?_
    intro same
    cases same
    exact gated.paste.mem_queue.mp member (role_of_free free)
  | request task => exact lined.request gated task (.request task)
  | resume task opened =>
    rename_i strand operation stage
    have approached := Controller.approach_approached world.controller stage
    exact lined.of_same rfl (pressed?_of_still rfl) (congrArg Gate.queue approached.pasteGate)
      fun other _ => (Step.resume task opened).pending?_onward rfl other fun _ same => by cases same
  | call task => exact lined.call gated clear task (.call task)
  | external content =>
    obtain ⟨-, -, -, pasteGate, -⟩ := Controller.copy_frame world.controller content
    exact lined.of_same rfl (pressed?_of_still rfl) (congrArg Gate.queue pasteGate) fun _ _ => rfl
  | fail | pass => exact lined.of_same rfl (pressed?_of_still rfl) rfl fun _ _ => rfl

/-! ### From the start to the request -/

/-- What has been begun has asked, or has still to ask. -/
def Tallied (past : List Moment) (world : World) : Prop :=
  ∃ strands : List StrandId, strands.Nodup ∧
    (∀ strand, strand ∈ strands ↔ world.unasked? strand ≠ none) ∧
    (begun past).Perm (asked past ++ tagged world.unasked? strands)

theorem Tallied.of_same (tallied : world.Tallied past) (silent : Moment.begun? ⟨world, choice⟩ = none)
    (still : Moment.asked? ⟨world, choice⟩ = none)
    (unasked : ∀ strand, after.unasked? strand = world.unasked? strand) :
    after.Tallied (⟨world, choice⟩ :: past) := by
  obtain ⟨strands, nodup, all, perm⟩ := tallied
  refine ⟨strands, nodup, fun strand => by rw [unasked strand]; exact all strand, ?_⟩
  rw [begun, asked, chronicle_cons_none silent, chronicle_cons_none still,
    tagged_congr fun strand _ => unasked strand]
  exact perm

theorem launch_unasked (operation : Operation) :
    (world.controller.launch operation).1.point?.elim none Point.unasked? =
      (world.controller.launch operation).1.point?.bind Point.paste? := by
  have launched := Controller.launch_launched world.controller operation
  cases came : (world.controller.launch operation).1.point? with
  | none => rfl
  | some point =>
    have outside := (launched.outside point came).2
    cases point with
    | arriving stage =>
      cases stage with
      | toggling | checking | copying | saving => rfl
      | placing | settling | lingering | returning => cases outside
    | waiting stage =>
      cases stage with
      | toggling | checking | copying => rfl
      | saving | placing | settling | lingering | returning => cases outside
    | calling errand =>
      cases errand with
      | keeping | bringingBack | looking | copying | typing => rfl
      | saving | placing | pressing | returning => cases outside

theorem begun?_start {operation : Operation} (taken : world.Step (.start strand operation) after) :
    Moment.begun? ⟨world, .start strand operation⟩ =
      (after.unasked? strand).map (Prod.mk strand) := by
  have own : after.unasked? strand =
      (world.controller.launch operation).1.point?.bind Point.paste? := by
    cases taken with
    | start free =>
      rw [unasked?, seen, put_point?]
      exact launch_unasked operation
  rw [own]
  rfl

theorem Tallied.start (tallied : world.Tallied past) {operation : Operation}
    (free : world.tasks strand = none) (taken : world.Step (.start strand operation) after) :
    after.Tallied (⟨world, .start strand operation⟩ :: past) := by
  have before : world.unasked? strand = none := seen_of_free none Point.unasked? free
  have others : ∀ other, other ≠ strand → after.unasked? other = world.unasked? other :=
    fun other different =>
      taken.seen_others none Point.unasked? fun same => different (Option.some.inj same).symm
  have begins := begun?_start taken
  cases now : after.unasked? strand with
  | none =>
    rw [now] at begins
    refine tallied.of_same begins rfl ?_
    intro other
    by_cases same : other = strand
    · rw [same, now, before]
    · exact others other same
  | some paste =>
    rw [now] at begins
    obtain ⟨strands, nodup, all, perm⟩ := tallied
    have fresh : strand ∉ strands := fun member => (all strand).mp member before
    have rest : ∀ other ∈ strands, after.unasked? other = world.unasked? other := by
      intro other member
      refine others other ?_
      rintro rfl
      exact fresh member
    refine ⟨strand :: strands, List.nodup_cons.mpr ⟨fresh, nodup⟩, ?_, ?_⟩
    · intro other
      rw [List.mem_cons]
      by_cases same : other = strand
      · rw [same, now]
        simp
      · rw [others other same, all other]
        simp [same]
    · rw [begun, asked, chronicle_cons_some begins, chronicle_cons_none rfl, tagged_cons_some now,
        tagged_congr rest]
      refine (perm.append_right _).trans ?_
      rw [List.append_assoc]
      exact List.Perm.append_left _ List.perm_append_comm

theorem Step.unasked?_onward (taken : world.Step choice after) (own : choice.strand? = some strand)
    (goesOn : ∀ operation, choice ≠ .start strand operation) : after.unasked? strand = none := by
  cases taken with
  | start free =>
    cases own
    exact absurd rfl (goesOn _)
  | request task =>
    cases own
    exact seen_of_task none Point.unasked? (move_tasks ..)
  | resume task opened =>
    cases own
    rename_i stage
    have away := Controller.switch_check_view Point.unasked? none (fun _ _ => rfl) world.controller
    rw [unasked?, seen, put_point?]
    cases stage with
    | toggling => exact away.1
    | checking => exact away.2
    | copying | saving | placing | settling | lingering | returning => rfl
  | call task =>
    cases own
    rename_i operation errand
    rw [unasked?, Step.seen_call none Point.unasked? task (.call task)]
    cases next : errand.next? world.controller.desktop with
    | none => rfl
    | some stage =>
      have holds := (Errand.next?_frame next).2.2.2
      cases stage with
      | saving => cases holds
      | toggling | checking | copying | placing | settling | lingering | returning => rfl
  | external | fail | pass => cases own

theorem Tallied.request (tallied : world.Tallied past) {paste : Paste}
    (unasked : world.unasked? strand = some paste) (taken : world.Step (.request strand) after) :
    after.Tallied (⟨world, .request strand⟩ :: past) := by
  have asks : Moment.asked? ⟨world, .request strand⟩ = some (strand, paste) := by
    simp only [Moment.asked?, unasked]
    rfl
  have gone : after.unasked? strand = none :=
    taken.unasked?_onward rfl fun _ same => by cases same
  have others : ∀ other, other ≠ strand → after.unasked? other = world.unasked? other :=
    fun other different =>
      taken.seen_others none Point.unasked? fun same => different (Option.some.inj same).symm
  obtain ⟨strands, nodup, all, perm⟩ := tallied
  have member : strand ∈ strands := (all strand).mpr (by rw [unasked]; simp)
  have left : ∀ other, other ∈ strands.erase strand ↔ other ≠ strand ∧ other ∈ strands :=
    fun other => nodup.mem_erase_iff
  refine ⟨strands.erase strand, nodup.erase strand, ?_, ?_⟩
  · intro other
    rw [left other]
    by_cases same : other = strand
    · rw [same, gone]
      simp
    · rw [others other same, ← all other]
      simp [same]
  · have moved : (tagged world.unasked? strands).Perm
        ((strand, paste) :: tagged after.unasked? (strands.erase strand)) := by
      rw [tagged_congr fun other held => others other ((left other).mp held).1,
        ← tagged_cons_some unasked]
      exact (List.perm_cons_erase member).filterMap _
    rw [begun, asked, chronicle_cons_none rfl, chronicle_cons_some asks, List.append_assoc]
    exact perm.trans (moved.append_left _)

theorem Tallied.step (tallied : world.Tallied past) (taken : world.Step choice after) :
    after.Tallied (⟨world, choice⟩ :: past) := by
  have kept : ∀ strand, choice.strand? = some strand → world.unasked? strand = none →
      (∀ operation, choice ≠ .start strand operation) →
      ∀ other, after.unasked? other = world.unasked? other := by
    intro strand own before goesOn other
    by_cases same : choice.strand? = some other
    · rw [own] at same
      cases same
      rw [before, taken.unasked?_onward own goesOn]
    · exact taken.seen_others none Point.unasked? same
  cases choice with
  | start strand operation =>
    have free : world.tasks strand = none := by
      cases taken with
      | start free => exact free
    exact tallied.start free taken
  | request strand =>
    cases unasked : world.unasked? strand with
    | none =>
      refine tallied.of_same rfl ?_ (kept strand rfl unasked fun _ same => by cases same)
      simp only [Moment.asked?, unasked]
      rfl
    | some paste => exact tallied.request unasked taken
  | resume strand =>
    have unasked : world.unasked? strand = none := by
      cases taken with
      | resume task opened =>
        exact seen_of_task none Point.unasked? task
    exact tallied.of_same rfl rfl (kept strand rfl unasked fun _ same => by cases same)
  | call strand =>
    have unasked : world.unasked? strand = none := by
      cases taken with
      | call task =>
        exact seen_of_task none Point.unasked? task
    exact tallied.of_same rfl rfl (kept strand rfl unasked fun _ same => by cases same)
  | external | fail | pass =>
    exact tallied.of_same rfl rfl fun strand =>
      taken.seen_others none Point.unasked? (by intro same; cases same)

/-! ### Pastes in turn -/

theorem Tallied.unasked?_eq_none (tallied : world.Tallied past) (all : begun past = asked past)
    (strand : StrandId) : world.unasked? strand = none := by
  obtain ⟨strands, -, unasked, perm⟩ := tallied
  have nothing : tagged world.unasked? strands = [] := by
    rw [all] at perm
    exact List.perm_nil.mp
      ((List.perm_append_left_iff (asked past)).mp (by rw [List.append_nil]; exact perm)).symm
  by_contra waits
  obtain ⟨paste, seen⟩ := Option.ne_none_iff_exists'.mp waits
  have member : (strand, paste) ∈ tagged world.unasked? strands :=
    mem_tagged.mpr ⟨(unasked strand).mpr waits, seen⟩
  rw [nothing] at member
  cases member

/-- What has been begun has asked in turn, but for a paste that has been begun just now. -/
structure InTurn (past : List Moment) (world : World) : Prop where
  whole : begun past = asked past ++ (past.head?.bind Moment.begun?).toList
  last : ∀ paste ∈ past.head?.bind Moment.begun?, world.unasked? paste.1 = some paste.2

theorem InTurn.step (inTurn : world.InTurn past) (tallied : world.Tallied past)
    (taken : world.Step choice after)
    (prompt : ∀ paste ∈ past.head?.bind Moment.begun?, choice = .request paste.1) :
    after.InTurn (⟨world, choice⟩ :: past) := by
  obtain ⟨whole, last⟩ := inTurn
  cases before : past.head?.bind Moment.begun? with
  | some paste =>
    rw [before] at whole
    cases prompt paste before
    have asks : Moment.asked? ⟨world, .request paste.1⟩ = some paste := by
      simp only [Moment.asked?, last paste before]
      rfl
    refine ⟨?_, nofun⟩
    rw [begun, asked, chronicle_cons_none rfl, chronicle_cons_some asks]
    exact whole.trans (List.append_nil _).symm
  | none =>
    -- Everything has asked, so a request that is made now is not for the paste gate.
    rw [before] at whole
    have all : begun past = asked past := whole.trans (List.append_nil _)
    have asks : Moment.asked? ⟨world, choice⟩ = none := by
      cases choice with
      | request strand =>
        simp only [Moment.asked?, tallied.unasked?_eq_none all strand]
        rfl
      | start | resume | call | external | fail | pass => rfl
    constructor
    · rw [asked, chronicle_cons_none asks, List.head?_cons, Option.bind_some]
      cases begins : Moment.begun? ⟨world, choice⟩ with
      | none =>
        rw [begun, chronicle_cons_none begins]
        exact whole
      | some paste =>
        rw [begun, chronicle_cons_some begins]
        exact congrArg (· ++ [paste]) all
    · intro paste begins
      cases choice with
      | start strand operation =>
        have begins := (begun?_start taken).symm.trans begins
        obtain ⟨_, unasked, rfl⟩ := Option.map_eq_some_iff.mp begins
        exact unasked
      | request | resume | call | external | fail | pass => cases begins

/-- What is to be pressed still: first what has asked, in that order, then the others. -/
theorem Lined.waiting (lined : world.Lined past) (tallied : world.Tallied past)
    (gated : world.Gated) :
    ∃ waiting, (waiting.map Prod.fst).Nodup ∧
      (∀ strand paste, (strand, paste) ∈ waiting ↔ world.pending? strand = some paste) ∧
      (begun past).Perm (pressed past ++ waiting) ∧
      (asked past <+: begun past → begun past = pressed past ++ waiting) := by
  obtain ⟨strands, nodup, all, perm⟩ := tallied
  have apart : ∀ strand paste, world.unasked? strand = some paste →
      strand ∉ world.controller.pasteGate.queue := by
    intro strand paste unasked member
    obtain ⟨point, stands, shown⟩ := point_of_seen unasked
    have outside := Point.pasteRole_of_unasked shown
    exact gated.paste.mem_queue.mp member
      ((seen_of_point Role.outside Point.pasteRole stands).trans outside)
  have everything : ∀ strand paste,
      (strand, paste) ∈ tagged world.pending? world.controller.pasteGate.queue ++
          tagged world.unasked? strands ↔ world.pending? strand = some paste := by
    intro strand paste
    rw [List.mem_append, mem_tagged, mem_tagged]
    constructor
    · rintro (⟨-, pending⟩ | ⟨-, unasked⟩)
      · exact pending
      · obtain ⟨point, stands, shown⟩ := point_of_seen unasked
        exact (seen_of_point none Point.pending? stands).trans (Point.pending?_of_unasked shown)
    · intro pending
      obtain ⟨point, stands, shown⟩ := point_of_seen pending
      have role := seen_of_point Role.outside Point.pasteRole stands
      rcases Point.unasked_or_asked shown with unasked | wants
      · have seen : world.unasked? strand = some paste :=
          (seen_of_point none Point.unasked? stands).trans unasked
        exact .inr ⟨(all strand).mpr (by rw [seen]; simp), seen⟩
      · refine .inl ⟨gated.paste.mem_queue.mpr fun outside => ?_, pending⟩
        exact wants (role.symm.trans outside)
  have distinct : ((tagged world.pending? world.controller.pasteGate.queue ++
      tagged world.unasked? strands).map Prod.fst).Nodup := by
    rw [List.map_append]
    refine ((tagged_strands _ _).nodup gated.paste.queue_nodup).append
      ((tagged_strands _ _).nodup nodup) ?_
    intro strand queued unqueued
    obtain ⟨⟨_, paste⟩, member, rfl⟩ := List.mem_map.mp unqueued
    exact apart _ paste (mem_tagged.mp member).2 ((tagged_strands _ _).subset queued)
  rw [Lined] at lined
  rw [lined, List.append_assoc] at perm
  -- The strands that have not asked are known as a set only, unless all have asked in turn.
  by_cases inTurn : asked past <+: begun past
  · obtain ⟨rest, whole⟩ := inTurn
    have same : rest.Perm (tagged world.unasked? strands) := by
      rw [← whole, lined, List.append_assoc] at perm
      exact (List.perm_append_left_iff _).mp ((List.perm_append_left_iff _).mp perm)
    have moved := same.append_left (tagged world.pending? world.controller.pasteGate.queue)
    have equal : begun past =
        pressed past ++ (tagged world.pending? world.controller.pasteGate.queue ++ rest) := by
      rw [← whole, lined, List.append_assoc]
    refine ⟨_, (moved.map Prod.fst).nodup_iff.mpr distinct, ?_, ?_, fun _ => equal⟩
    · intro strand paste
      rw [moved.mem_iff]
      exact everything strand paste
    · rw [equal]
  · exact ⟨_, distinct, everything, perm, fun turn => absurd turn inTurn⟩

end World

section Run

variable {start world : World} {past : List Moment} (run : Run start past world)
  (rested : start.Rested)

include run rested

theorem Run.tallied : world.Tallied past := by
  induction run with
  | rest =>
    have nothing : ∀ strand, start.unasked? strand = none := fun strand =>
      World.seen_of_free none Point.unasked? (rested.idle strand)
    exact ⟨[], List.nodup_nil, fun strand => by simp [nothing strand], List.Perm.refl _⟩
  | step run taken tallied => exact tallied.step taken

theorem Run.inTurn (prompt : Prompt past) : world.InTurn past := by
  induction run with
  | rest => exact ⟨rfl, nofun⟩
  | step run taken ih =>
    obtain ⟨next, earlier⟩ := List.isChain_cons.mp prompt
    refine (ih earlier).step (run.tallied rested) taken ?_
    intro paste begins
    obtain ⟨moment, latest, begins⟩ := Option.bind_eq_some_iff.mp begins
    exact next moment latest paste begins

theorem Run.lined (clear : start.Clear) (sheltered : ∀ moment ∈ past, moment.choice.Sheltered) :
    world.Lined past := by
  induction run with
  | rest =>
    rw [World.Lined, rested.pasteGate]
    rfl
  | step run taken lined =>
    have earlier := fun moment member => sheltered moment (List.mem_cons_of_mem _ member)
    exact (lined earlier).step (run.gated rested.gated) (run.clear earlier clear) taken

theorem Run.restorations_eq_nil
    (untoggled : ∀ moment ∈ past, ∀ strand, moment.choice ≠ .start strand .toggle) :
    restorations past = [] := by
  induction run with
  | rest => rfl
  | step run taken ih =>
    rename_i past world after choice
    have earlier := fun moment member => untoggled moment (List.mem_cons_of_mem _ member)
    have silent : Moment.restored? ⟨world, choice⟩ = none := by
      cases calls : world.errand? choice with
      | none => simp only [Moment.restored?, calls]
      | some caller =>
        obtain ⟨strand, operation, errand⟩ := caller
        obtain ⟨rfl, task⟩ := World.errand?_eq_some calls
        refine World.restored?_call task ?_
        rintro item status rfl
        obtain ⟨moment, member, started⟩ := run.started rested.idle task
        refine earlier moment member strand ?_
        rw [started]
        have family := (run.gated rested.gated).family strand _ task
        cases operation with
        | toggle => rfl
        | textMacro text delivery => cases delivery <;> cases family
        | update | pasteNext | copyItem | remove | clear | toggleOrder | setOrder => cases family
    rw [restorations, List.filterMap_cons_none silent]
    exact ih earlier

end Run

/-- Pastes that overlap do not get between each other's saving and giving back; each saves what was on
the clipboard before the first, presses once, and in its turn, if it asks for the gate in its turn. So
it does if it asks as soon as it is begun. -/
theorem pastes_serialised {start world : World} {past : List Moment} (run : Run start past world)
    (rested : start.Rested) (clear : start.Clear)
    (sheltered : ∀ moment ∈ past, moment.choice.Sheltered)
    (untoggled : ∀ moment ∈ past, ∀ strand, moment.choice ≠ .start strand .toggle) :
    (∀ first second point other, world.point? first = some point → point.pasteRole = .inside →
      world.point? second = some other → other.pasteRole = .inside → first = second) ∧
    (∀ strand operation paste, world.tasks strand = some ⟨operation, .calling (.saving paste)⟩ →
      world.controller.desktop.current.content = start.controller.desktop.current.content) ∧
    (∀ strand item, world.saved? strand = some item →
      item.content = start.controller.desktop.current.content) ∧
    (∃ waiting, (waiting.map Prod.fst).Nodup ∧
      (∀ strand paste, (strand, paste) ∈ waiting ↔ world.pending? strand = some paste) ∧
      (begun past).Perm (pressed past ++ waiting) ∧
      (asked past <+: begun past → begun past = pressed past ++ waiting)) ∧
    (Prompt past → asked past <+: begun past) ∧
    (world.Idle → (asked past <+: begun past → pressed past = begun past) ∧
      world.controller.desktop.current.content = start.controller.desktop.current.content) := by
  have gated := run.gated rested.gated
  have owing := run.owing rested sheltered clear
  have content : owed start.controller.desktop.current.content past =
      start.controller.desktop.current.content := by
    rw [owed, run.restorations_eq_nil rested untoggled]
    rfl
  obtain ⟨waiting, nodup, all, perm, inTurn⟩ :=
    (run.lined rested clear sheltered).waiting (run.tallied rested) gated
  refine ⟨?_, ?_, ?_, ⟨waiting, nodup, all, perm, inTurn⟩, ?_, ?_⟩
  · intro first second point other stands inside follows within
    exact gated.alone stands inside follows within
  · intro strand operation paste task
    rw [owing.free, content]
    intro other
    by_cases own : other = strand
    · rw [own]
      exact World.seen_of_task none Point.saved? task
    · exact gated.seen_alone Point.saved?_guarded (World.point?_of_task task) rfl own
  · intro strand item holds
    exact (owing.saved strand item holds).trans content
  · intro prompt
    exact ⟨_, (run.inTurn rested prompt).whole.symm⟩
  · intro idle
    have nothing : waiting = [] := by
      refine List.eq_nil_iff_forall_not_mem.mpr ?_
      rintro ⟨strand, paste⟩ member
      have pending := (all strand paste).mp member
      cases pending.symm.trans (World.seen_of_free none Point.pending? (idle strand))
    constructor
    · intro turn
      rw [inTurn turn, nothing, List.append_nil]
    · rw [owing.free, content]
      exact fun strand => World.seen_of_free none Point.saved? (idle strand)

/-- Queue mode is on, with one item to paste. -/
def stocked : World where
  controller := { Controller.init {} with
    state := { Queue.State.init {} .lifo with mode := .on none [⟨.minted 7, .text "A"⟩] }
    desktop := { current := ⟨.minted 0, .text "U"⟩ } }
  tasks _ := none

/-- A paste from the queue, whose keystroke fails, and a pasted macro that comes before its end. -/
def overlap : List Choice :=
  [.fail .paste [some "no window"], .start 0 .pasteNext, .request 0,
    .start 1 (.textMacro "B" .pasted), .request 1,
    .resume 0, .call 0, .request 0, .resume 0, .call 0, .request 0, .resume 0, .call 0,
    .request 0, .resume 0, .call 0,
    .resume 1, .call 1, .request 1, .resume 1, .call 1, .request 1, .resume 1, .call 1,
    .request 1, .resume 1, .request 1, .resume 1, .call 1]

theorem overlap_serialised :
    let played := stocked.played overlap rfl
    pressed played.1 = begun played.1 ∧ (begun played.1).length = 2 ∧
      played.2.controller.desktop.current.content = .text "U" := by
  have rested : stocked.Rested := ⟨fun _ => rfl, rfl, rfl⟩
  have clear : stocked.Clear := by constructor <;> intro entry member <;> cases member
  have idle : (stocked.played overlap rfl).2.Idle := by
    intro strand
    match strand with
    | 0 => rfl
    | 1 => rfl
    | _ + 2 => rfl
  have claim := pastes_serialised (stocked.played_run overlap rfl) rested clear
    (World.forall_played Choice.Sheltered (by simp [overlap, Choice.Sheltered]))
    (World.forall_played (fun choice => ∀ strand, choice ≠ .start strand .toggle)
      (by simp [overlap]))
  obtain ⟨-, -, -, -, ask, last⟩ := claim
  have prompt : Prompt (stocked.played overlap rfl).1 := by decide
  exact ⟨(last idle).1 (ask prompt), rfl, (last idle).2⟩

end PasteQueue
