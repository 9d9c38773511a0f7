import PasteQueue.Desktop

/-!
What the calls of the desktop do to the clipboard. Only a write that succeeds changes it; a script
without failures lets every call succeed, and stays without failures.
-/

namespace PasteQueue.Desktop

/-! ### Scripts -/

/-- No coming call of the kind fails. -/
def Scripts.Sound (scripts : Scripts) (call : Call) : Prop := ∀ entry ∈ scripts.of call, entry = none

theorem Scripts.of_set (scripts : Scripts) (call other : Call) (entries : List (Option String)) :
    (scripts.set call entries).of other = if other = call then entries else scripts.of other := by
  cases call <;> cases other <;> rfl

theorem Scripts.next_of_sound {scripts : Scripts} {call : Call} (sound : scripts.Sound call) :
    (scripts.next call).1 = none := by
  unfold Scripts.next
  cases entries : scripts.of call with
  | nil => rfl
  | cons entry rest =>
    have clear : entry = none := sound entry (by rw [entries]; exact List.mem_cons_self)
    simp [clear]

theorem Scripts.Sound.next {scripts : Scripts} {call : Call} (sound : scripts.Sound call)
    (other : Call) : (scripts.next other).2.Sound call := by
  unfold Scripts.next
  cases entries : scripts.of other with
  | nil => exact sound
  | cons entry rest =>
    intro later member
    simp only [Scripts.of_set] at member
    split at member
    · rename_i same
      exact sound later (by rw [same, entries]; exact List.mem_cons_of_mem _ member)
    · exact sound later member

theorem Scripts.Sound.append {scripts : Scripts} {call : Call} (sound : scripts.Sound call)
    {other : Call} {entries : List (Option String)}
    (clear : other = call → ∀ entry ∈ entries, entry = none) :
    (scripts.append other entries).Sound call := by
  intro entry member
  simp only [Scripts.append, Scripts.of_set] at member
  split at member
  · rename_i same
    rcases List.mem_append.mp member with member | member
    · exact sound entry (by rwa [same])
    · exact clear same.symm entry member
  · exact sound entry member

/-! ### Calls -/

variable (desktop : Desktop)

/-- The desktop shows the same clipboard as before, and the same number of changes. -/
structure Unchanged (before after : Desktop) : Prop where
  current : after.current = before.current
  sequence : after.sequence = before.sequence
  heldSequence : after.heldSequence = before.heldSequence

theorem Unchanged.refl : Unchanged desktop desktop := ⟨rfl, rfl, rfl⟩

theorem mint_unchanged (content : Clipboard.Content) :
    Unchanged desktop (desktop.mint content).2 := ⟨rfl, rfl, rfl⟩

theorem read_unchanged : Unchanged desktop desktop.read.2 := by
  unfold read
  split <;> exact ⟨rfl, rfl, rfl⟩

theorem pressPaste_unchanged : Unchanged desktop desktop.pressPaste.2 := by
  unfold pressPaste
  split <;> exact ⟨rfl, rfl, rfl⟩

theorem typeText_unchanged (text : String) : Unchanged desktop (desktop.typeText text).2 := by
  unfold typeText
  split <;> exact ⟨rfl, rfl, rfl⟩

theorem write_failure (item : Clipboard.Item) :
    (desktop.write item).1 = (desktop.scripts.next .write).1 := by
  unfold write
  split <;> rename_i outcome <;> rw [outcome]

theorem write_unchanged {item : Clipboard.Item} {fault : Fault}
    (failed : (desktop.write item).1 = some fault) : Unchanged desktop (desktop.write item).2 := by
  unfold write at failed ⊢
  split
  · exact ⟨rfl, rfl, rfl⟩
  · rename_i outcome
    simp [outcome] at failed

theorem write_changed {item : Clipboard.Item} (written : (desktop.write item).1 = none) :
    (desktop.write item).2.current = item ∧
    (desktop.write item).2.sequence = desktop.sequence + 1 ∧
    (desktop.write item).2.heldSequence = desktop.heldSequence := by
  unfold write at written ⊢
  split
  · rename_i outcome
    simp [outcome] at written
  · exact ⟨rfl, rfl, rfl⟩

/-- What is read is what the clipboard shows, as a new item. -/
theorem read_content {item : Clipboard.Item} (outcome : desktop.read.1 = .ok item) :
    item.content = desktop.current.content := by
  unfold read at outcome
  split at outcome
  · cases outcome
  · cases outcome
    rfl

theorem read_of_sound (sound : desktop.scripts.Sound .read) :
    ∃ item, desktop.read.1 = .ok item := by
  have clear := Scripts.next_of_sound sound
  unfold read
  split
  · rename_i outcome
    simp [outcome] at clear
  · exact ⟨_, rfl⟩

theorem write_of_sound (sound : desktop.scripts.Sound .write) (item : Clipboard.Item) :
    (desktop.write item).1 = none := by
  rw [write_failure]
  exact Scripts.next_of_sound sound

theorem read_scripts : desktop.read.2.scripts = (desktop.scripts.next .read).2 := by
  unfold read
  split
  · rename_i outcome
    rw [outcome]
  · rename_i outcome
    rw [outcome]
    rfl

theorem write_scripts (item : Clipboard.Item) :
    (desktop.write item).2.scripts = (desktop.scripts.next .write).2 := by
  unfold write
  split <;> rename_i outcome <;> rw [outcome]

theorem pressPaste_scripts : desktop.pressPaste.2.scripts = (desktop.scripts.next .paste).2 := by
  unfold pressPaste
  split <;> rename_i outcome <;> rw [outcome]

theorem typeText_scripts (text : String) :
    (desktop.typeText text).2.scripts = (desktop.scripts.next .type).2 := by
  unfold typeText
  split <;> rename_i outcome <;> rw [outcome]

end PasteQueue.Desktop
