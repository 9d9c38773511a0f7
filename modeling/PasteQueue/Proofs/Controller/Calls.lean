import PasteQueue.Proofs.Controller.Frame
import PasteQueue.Proofs.Desktop
import PasteQueue.Proofs.Queue.Frame

/-!
What an operation does with a call of the desktop. The desktop after it depends on the call alone;
a write that succeeds is recorded in the ring, and nothing else is; what is left of the operation
then depends on the outcome of the call.
-/

namespace PasteQueue

open Clipboard (Item)

/-! ### The desktop after a call -/

namespace Controller

def Errand.item? : Errand → Option Item
  | .bringingBack item _ | .copying item | .returning _ item _ => some item
  | .placing paste _ => some paste.item
  | .keeping | .looking | .saving _ | .pressing .. | .typing _ => none

end Controller

open Controller (Errand Operation Progress Stage Advance)

def Desktop.after (desktop : Desktop) : Errand → Desktop
  | .keeping | .looking | .saving _ => desktop.read.2
  | .pressing .. => desktop.pressPaste.2
  | .typing text => (desktop.typeText text).2
  | .bringingBack item _ | .copying item | .returning _ item _ => (desktop.write item).2
  | .placing paste _ => (desktop.write paste.item).2

/-- What an errand does put on the clipboard. -/
def Desktop.written? (desktop : Desktop) (errand : Errand) : Option Item :=
  errand.item?.filter fun item => (desktop.write item).1.isNone

namespace Desktop

variable {desktop : Desktop} {errand : Errand}

theorem written?_eq_some {item : Item} :
    desktop.written? errand = some item ↔
      errand.item? = some item ∧ (desktop.write item).1 = none := by
  simp [written?, Option.filter_eq_some_iff]

theorem after_of_item (desktop : Desktop) {item : Item} (writes : errand.item? = some item) :
    desktop.after errand = (desktop.write item).2 := by
  cases errand <;> cases writes <;> rfl

theorem after_unchanged (kept : desktop.written? errand = none) :
    Unchanged desktop (desktop.after errand) := by
  cases writes : errand.item? with
  | some item =>
    rw [after_of_item _ writes]
    cases outcome : (desktop.write item).1 with
    | some fault => exact write_unchanged desktop outcome
    | none => simp [written?, writes, outcome] at kept
  | none =>
    cases errand with
    | keeping | looking | saving => exact read_unchanged desktop
    | pressing => exact pressPaste_unchanged desktop
    | typing text => exact typeText_unchanged desktop text
    | bringingBack | copying | placing | returning => cases writes

theorem after_changed {item : Item} (written : desktop.written? errand = some item) :
    (desktop.after errand).current = item ∧
    (desktop.after errand).sequence = desktop.sequence + 1 ∧
    (desktop.after errand).heldSequence = desktop.heldSequence := by
  obtain ⟨writes, outcome⟩ := written?_eq_some.mp written
  rw [after_of_item _ writes]
  exact write_changed desktop outcome

theorem after_heldSequence : (desktop.after errand).heldSequence = desktop.heldSequence := by
  cases written : desktop.written? errand with
  | none => exact (after_unchanged written).heldSequence
  | some item => exact (after_changed written).2.2

theorem after_sound {call : Call} (sound : desktop.scripts.Sound call) :
    (desktop.after errand).scripts.Sound call := by
  cases errand with
  | keeping | looking | saving =>
    simp only [after, read_scripts]
    exact sound.next _
  | pressing =>
    simp only [after, pressPaste_scripts]
    exact sound.next _
  | typing =>
    simp only [after, typeText_scripts]
    exact sound.next _
  | bringingBack | copying | placing | returning =>
    simp only [after, write_scripts]
    exact sound.next _

theorem written?_of_sound (sound : desktop.scripts.Sound .write) :
    desktop.written? errand = errand.item? := by
  unfold written?
  cases errand.item? with
  | none => rfl
  | some item => simp [write_of_sound desktop sound item]

end Desktop

namespace Controller

variable (controller : Controller) (strand : StrandId)

/-! ### Single calls -/

theorem read_frame :
    (controller.read strand).1 = controller.desktop.read.1 ∧
    (controller.read strand).2.settings = controller.settings ∧
    (controller.read strand).2.state = controller.state ∧
    (controller.read strand).2.desktop = controller.desktop.read.2 ∧
    (controller.read strand).2.pasteGate = controller.pasteGate ∧
    (controller.read strand).2.writeGate = controller.writeGate := ⟨rfl, rfl, rfl, rfl, rfl, rfl⟩

theorem pressPaste_frame :
    (controller.pressPaste strand).1 = controller.desktop.pressPaste.1 ∧
    (controller.pressPaste strand).2.settings = controller.settings ∧
    (controller.pressPaste strand).2.state = controller.state ∧
    (controller.pressPaste strand).2.desktop = controller.desktop.pressPaste.2 ∧
    (controller.pressPaste strand).2.pasteGate = controller.pasteGate ∧
    (controller.pressPaste strand).2.writeGate = controller.writeGate := by
  unfold pressPaste
  cases controller.desktop.pressPaste with
  | mk failure after => cases failure <;> exact ⟨rfl, rfl, rfl, rfl, rfl, rfl⟩

theorem typeText_frame (text : String) :
    (controller.typeText strand text).2.settings = controller.settings ∧
    (controller.typeText strand text).2.state = controller.state ∧
    (controller.typeText strand text).2.desktop = (controller.desktop.typeText text).2 ∧
    (controller.typeText strand text).2.pasteGate = controller.pasteGate ∧
    (controller.typeText strand text).2.writeGate = controller.writeGate := by
  unfold typeText
  cases controller.desktop.typeText text with
  | mk failure after => cases failure <;> exact ⟨rfl, rfl, rfl, rfl, rfl⟩

theorem write_frame (item : Item) :
    (controller.write strand item).1 = (controller.desktop.write item).1 ∧
    (controller.write strand item).2.settings = controller.settings ∧
    (controller.write strand item).2.state = controller.state ∧
    (controller.write strand item).2.desktop = (controller.desktop.write item).2 ∧
    (controller.write strand item).2.pasteGate = controller.pasteGate ∧
    (controller.write strand item).2.writeGate = controller.writeGate := by
  unfold write
  cases outcome : (controller.desktop.write item).1 <;> simp [outcome]

/-- The ring after a write: its number is recorded if it has succeeded. -/
def recorded (state : Queue.State) (outcome : Option Desktop.Fault × Desktop) : Queue.State :=
  if outcome.1.isNone then state.recordEcho outcome.2.seenSequence else state

theorem writeRecorded_frame (item : Item) :
    (controller.writeRecorded strand item).1 = (controller.desktop.write item).1 ∧
    (controller.writeRecorded strand item).2.settings = controller.settings ∧
    (controller.writeRecorded strand item).2.state =
      recorded controller.state (controller.desktop.write item) ∧
    (controller.writeRecorded strand item).2.desktop = (controller.desktop.write item).2 ∧
    (controller.writeRecorded strand item).2.pasteGate = controller.pasteGate ∧
    (controller.writeRecorded strand item).2.writeGate = controller.writeGate := by
  have frame := write_frame controller strand item
  unfold writeRecorded
  cases written : controller.write strand item with
  | mk failure after =>
    rw [written] at frame
    obtain ⟨failed, settings, state, desktop, pasteGate, writeGate⟩ := frame
    cases failure with
    | some fault => simp_all [recorded, ← failed]
    | none => simp_all [recorded, ← failed]

/-! ### An operation behind its call -/

/-- The stage that an operation has come to. -/
def Progress.stage? : Progress → Option Stage
  | .finished _ => none
  | .reached stage => some stage

/-- The stage that an operation comes to behind a call; none is the end. -/
def Errand.next? (desktop : Desktop) : Errand → Option Stage
  | .saving paste =>
    match desktop.read.1 with
    | .ok saved => some (.placing paste saved)
    | .error _ => none
  | .placing paste saved =>
    match (desktop.write paste.item).1 with
    | none => some (.settling paste saved)
    | some fault => some (.returning paste saved (some fault))
  | .pressing paste saved =>
    match desktop.pressPaste.1 with
    | none => some (.lingering paste saved)
    | some fault => some (.returning paste saved (some fault))
  | .keeping | .bringingBack .. | .looking | .copying _ | .returning .. | .typing _ => none

def Errand.inWriteGate : Errand → Bool
  | .saving _ | .pressing .. | .typing _ => false
  | .keeping | .bringingBack .. | .looking | .copying _ | .placing .. | .returning .. => true

def Errand.inPasteGate : Errand → Bool
  | .saving _ | .placing .. | .pressing .. | .returning .. => true
  | .keeping | .bringingBack .. | .looking | .copying _ | .typing _ => false

/-- What a call leads to. A clipboard that is kept for later was kept before, or has been read for
that now. -/
structure Completed (errand : Errand) (before : Controller) (step : Step) : Prop where
  stage : step.1.stage? = errand.next? before.desktop
  settings : step.2.settings = before.settings
  desktop : step.2.desktop = before.desktop.after errand
  writeGate : step.2.writeGate =
    if errand.inWriteGate then before.writeGate.release else before.writeGate
  pasteGate : step.2.pasteGate =
    if errand.inPasteGate ∧ errand.next? before.desktop = none then before.pasteGate.release
    else before.pasteGate
  echoes : step.2.state.echoes =
    if (before.desktop.written? errand).isSome then
      before.state.echoes.record (before.desktop.after errand).seenSequence
    else before.state.echoes
  snapshot : ∀ item, step.2.state.snapshot = some item →
    before.state.snapshot = some item ∨
      errand = .keeping ∧ item.content = before.desktop.current.content

variable {controller}

theorem Completed.of_kept {errand : Errand} {step : Step} (kept : errand.item? = none)
    (stage : step.1.stage? = errand.next? controller.desktop)
    (settings : step.2.settings = controller.settings)
    (desktop : step.2.desktop = controller.desktop.after errand)
    (writeGate : step.2.writeGate =
      if errand.inWriteGate then controller.writeGate.release else controller.writeGate)
    (pasteGate : step.2.pasteGate =
      if errand.inPasteGate ∧ errand.next? controller.desktop = none
      then controller.pasteGate.release else controller.pasteGate)
    (echoes : step.2.state.echoes = controller.state.echoes)
    (snapshot : step.2.state.snapshot = controller.state.snapshot) :
    Completed errand controller step := by
  have nothing : controller.desktop.written? errand = none := by simp [Desktop.written?, kept]
  exact ⟨stage, settings, desktop, writeGate, pasteGate, by rw [nothing, echoes]; rfl,
    fun _ keeps => .inl (snapshot ▸ keeps)⟩

/-- A write behind the write gate, with whatever is left to do but gates and notices. -/
theorem Completed.of_write {errand : Errand} {item : Item} {step : Step}
    (writes : errand.item? = some item) (gate : errand.inWriteGate = true)
    (stage : step.1.stage? = errand.next? controller.desktop)
    (settings : step.2.settings = (controller.writeRecorded strand item).2.settings)
    (state : step.2.state = (controller.writeRecorded strand item).2.state)
    (desktop : step.2.desktop = (controller.writeRecorded strand item).2.desktop)
    (writeGate : step.2.writeGate =
      (controller.writeRecorded strand item).2.writeGate.release)
    (pasteGate : step.2.pasteGate =
      if errand.inPasteGate ∧ errand.next? controller.desktop = none
      then (controller.writeRecorded strand item).2.pasteGate.release
      else (controller.writeRecorded strand item).2.pasteGate) :
    Completed errand controller step := by
  obtain ⟨-, oldSettings, oldState, oldDesktop, oldPasteGate, oldWriteGate⟩ :=
    writeRecorded_frame controller strand item
  have after := Desktop.after_of_item controller.desktop writes
  refine ⟨stage, settings.trans oldSettings, (desktop.trans oldDesktop).trans after.symm, ?_, ?_, ?_,
    ?_⟩
  · rw [writeGate, oldWriteGate, gate]
    rfl
  · rw [pasteGate, oldPasteGate]
  · rw [state, oldState, after]
    cases outcome : (controller.desktop.write item).1 <;>
      simp [recorded, Desktop.written?, writes, outcome]
  · intro kept keeps
    rw [state, oldState] at keeps
    refine .inl ?_
    cases outcome : (controller.desktop.write item).1 <;> simpa [recorded, outcome] using keeps

theorem turnOn_completed : Completed .keeping controller (turnOn strand controller) := by
  have frame := read_frame controller strand
  unfold turnOn
  cases reading : controller.read strand with
  | mk outcome after =>
    rw [reading] at frame
    dsimp only at frame
    obtain ⟨read, settings, state, desktop, pasteGate, writeGate⟩ := frame
    refine ⟨rfl, ?_, ?_, ?_, ?_, ?_, ?_⟩
    · cases outcome <;> simp [finish, settings]
    · cases outcome <;> simp [finish, desktop, Desktop.after]
    · cases outcome <;> simp [finish, writeGate, Errand.inWriteGate]
    · cases outcome <;> simp [finish, pasteGate, Errand.inPasteGate]
    · cases outcome <;> simp [finish, state, Desktop.written?, Errand.item?]
    · intro item keeps
      cases outcome with
      | error fault =>
        rcases Queue.State.enable_snapshot _ (by simpa [finish] using keeps) with kept | kept
        · cases kept
        · exact .inl (by simpa [state] using kept)
      | ok snapshot =>
        rcases Queue.State.enable_snapshot _ (by simpa [finish] using keeps) with kept | kept
        · cases kept
          exact .inr ⟨rfl, Desktop.read_content controller.desktop read.symm⟩
        · exact .inl (by rwa [state] at kept)

theorem bringBack_completed (item : Item) (status : Queue.Status) :
    Completed (.bringingBack item status) controller (bringBack strand item status controller) := by
  unfold bringBack
  split <;> rename_i written <;>
    exact .of_write strand rfl rfl rfl (by simp [written, finish, fail])
      (by simp [written, finish, fail]) (by simp [written, finish, fail])
      (by simp [written, finish, fail]) (by simp [written, finish, fail, Errand.inPasteGate])

theorem look_completed : Completed .looking controller (look strand controller) := by
  have frame := read_frame controller strand
  unfold look
  cases reading : controller.read strand with
  | mk outcome after =>
    rw [reading] at frame
    dsimp only at frame
    obtain ⟨-, settings, state, desktop, pasteGate, writeGate⟩ := frame
    cases outcome with
    | error fault =>
      exact .of_kept rfl rfl (by simp [finish, fail, settings])
        (by simp [finish, fail, desktop, Desktop.after])
        (by simp [finish, fail, writeGate, Errand.inWriteGate])
        (by simp [finish, fail, pasteGate, Errand.inPasteGate]) (by simp [finish, fail, state])
        (by simp [finish, fail, state])
    | ok item =>
      dsimp only [accept]
      split <;>
        exact .of_kept rfl rfl (by simp [finish, settings])
          (by simp [finish, desktop, Desktop.after])
          (by simp [finish, writeGate, Errand.inWriteGate])
          (by simp [finish, pasteGate, Errand.inPasteGate]) (by simp [finish, state])
          (by simp [finish, state])

theorem copyOut_completed (item : Item) :
    Completed (.copying item) controller (copyOut strand item controller) := by
  unfold copyOut
  split <;> rename_i written <;>
    exact .of_write strand rfl rfl rfl (by simp [written, finish, fail])
      (by simp [written, finish, fail]) (by simp [written, finish, fail])
      (by simp [written, finish, fail]) (by simp [written, finish, fail, Errand.inPasteGate])

theorem save_completed (paste : Paste) :
    Completed (.saving paste) controller (save strand paste controller) := by
  have frame := read_frame controller strand
  unfold save
  cases reading : controller.read strand with
  | mk outcome after =>
    rw [reading] at frame
    dsimp only at frame
    obtain ⟨read, settings, state, desktop, pasteGate, writeGate⟩ := frame
    cases outcome with
    | error fault =>
      exact .of_kept rfl (by simp [finish, fail, Progress.stage?, Errand.next?, ← read])
        (by simp [finish, fail, settings]) (by simp [finish, fail, desktop, Desktop.after])
        (by simp [finish, fail, writeGate, Errand.inWriteGate])
        (by simp [finish, fail, pasteGate, Errand.inPasteGate, Errand.next?, ← read])
        (by simp [finish, fail, state])
        (by simp [finish, fail, state])
    | ok saved =>
      exact .of_kept rfl (by simp [reach, Progress.stage?, Errand.next?, ← read])
        (by simp [reach, settings]) (by simp [reach, desktop, Desktop.after])
        (by simp [reach, writeGate, Errand.inWriteGate])
        (by simp [reach, pasteGate, Errand.next?, ← read]) (by simp [reach, state])
        (by simp [reach, state])

theorem place_completed (paste : Paste) (saved : Item) :
    Completed (.placing paste saved) controller (place strand paste saved controller) := by
  have failed := (writeRecorded_frame controller strand paste.item).1
  unfold place
  cases written : controller.writeRecorded strand paste.item with
  | mk failure after =>
    rw [written] at failed
    dsimp only at failed
    cases failure <;>
      exact .of_write strand rfl rfl (by simp [reach, Progress.stage?, Errand.next?, ← failed])
        (by simp [written, reach]) (by simp [written, reach]) (by simp [written, reach])
        (by simp [written, reach]) (by simp [written, reach, Errand.next?, ← failed])

theorem press_completed (paste : Paste) (saved : Item) :
    Completed (.pressing paste saved) controller (press strand paste saved controller) := by
  have frame := pressPaste_frame controller strand
  unfold press
  cases pressing : controller.pressPaste strand with
  | mk failure after =>
    rw [pressing] at frame
    dsimp only at frame
    obtain ⟨pressed, settings, state, desktop, pasteGate, writeGate⟩ := frame
    cases failure <;>
      exact .of_kept rfl (by simp [reach, Progress.stage?, Errand.next?, ← pressed])
        (by simp [reach, settings]) (by simp [reach, desktop, Desktop.after])
        (by simp [reach, writeGate, Errand.inWriteGate])
        (by simp [reach, pasteGate, Errand.next?, ← pressed]) (by simp [reach, state])
        (by simp [reach, state])

theorem giveBack_completed (paste : Paste) (saved : Item) (failure : Option Desktop.Fault) :
    Completed (.returning paste saved failure) controller
      (giveBack strand paste saved failure controller) := by
  unfold giveBack
  cases written : controller.writeRecorded strand saved with
  | mk missed after =>
    cases failure <;> cases missed <;>
      exact .of_write strand rfl rfl rfl (by simp [written, finish, fail])
        (by simp [written, finish, fail]) (by simp [written, finish, fail])
        (by simp [written, finish, fail])
        (by simp [written, finish, fail, Errand.inPasteGate, Errand.next?])

theorem typeOut_completed (text : String) :
    Completed (.typing text) controller (typeOut strand text controller) := by
  have frame := typeText_frame controller strand text
  unfold typeOut
  cases typing : controller.typeText strand text with
  | mk failure after =>
    rw [typing] at frame
    dsimp only at frame
    obtain ⟨settings, state, desktop, pasteGate, writeGate⟩ := frame
    cases failure <;>
      exact .of_kept rfl rfl (by simp [finish, fail, settings])
        (by simp [finish, fail, desktop, Desktop.after])
        (by simp [finish, fail, writeGate, Errand.inWriteGate])
        (by simp [finish, fail, pasteGate, Errand.inPasteGate]) (by simp [finish, fail, state])
        (by simp [finish, fail, state])

theorem complete_completed (controller : Controller) (strand : StrandId) (errand : Errand) :
    Completed errand controller (controller.complete strand errand) := by
  cases errand with
  | keeping => exact turnOn_completed strand
  | bringingBack item status => exact bringBack_completed strand item status
  | looking => exact look_completed strand
  | copying item => exact copyOut_completed strand item
  | saving paste => exact save_completed strand paste
  | placing paste saved => exact place_completed strand paste saved
  | pressing paste saved => exact press_completed strand paste saved
  | returning paste saved failure => exact giveBack_completed strand paste saved failure
  | typing text => exact typeOut_completed strand text

end Controller

end PasteQueue
