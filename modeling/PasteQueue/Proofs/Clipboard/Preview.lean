import Mathlib.Algebra.Order.BigOperators.Group.List
import Mathlib.Data.Nat.Digits.Defs
import Mathlib.Data.Set.Defs
import PasteQueue.Clipboard.Content

/-!
How long a preview is. A text is cut off, and the measures of an image have few digits, but of a list
of files only the number of paths is limited: each path that is shown is shown as it is, so previews
are as long as paths make them.
-/

namespace PasteQueue

namespace Text

theorem length_decimal_le {n width : Nat} (positive : 0 < width) (small : n < 10 ^ width) :
    (decimal n).length ≤ width := by
  rw [decimal, String.length_ofList]
  exact Nat.toDigits_length 10 n width positive small

theorem length_intercalate (separator : String) (parts : List String) :
    (separator.intercalate parts).length =
      (parts.map String.length).sum + separator.length * (parts.length - 1) := by
  induction parts with
  | nil => simp
  | cons part rest follows =>
    cases rest with
    | nil => simp
    | cons next others =>
      rw [String.intercalate_cons_cons, String.length_append, String.length_append, follows]
      simp only [List.map_cons, List.sum_cons, List.length_cons, Nat.add_sub_cancel, Nat.mul_add]
      omega

end Text

namespace Clipboard.Content

/-! ### Texts -/

theorem length_textPreview (body : String) :
    (textPreview body).length =
      if textPreviewLength < body.length then textPreviewLength + 3 else body.length := by
  unfold textPreview
  split
  · rename_i long
    rw [String.length_append, String.length_ofList, List.length_take_of_le]
    · rfl
    · rw [String.length_toList]
      exact long.le
  · rfl

theorem length_textPreview_le (body : String) :
    (textPreview body).length ≤ textPreviewLength + 3 := by
  rw [length_textPreview]
  split
  · exact le_rfl
  · omega

/-! ### Images -/

/-- Four bytes make a number of at most ten digits. -/
theorem bigEndian?_lt {bytes : List UInt8} {n : Nat} (read : bigEndian? bytes = some n) :
    n < 10 ^ 10 := by
  unfold bigEndian? at read
  split at read
  · rename_i a b c d
    cases read
    have first := a.toNat_lt
    have second := b.toNat_lt
    have third := c.toNat_lt
    have fourth := d.toNat_lt
    omega
  · cases read

theorem pngSize?_lt {png : List UInt8} {width height : Nat}
    (measured : pngSize? png = some (width, height)) : width < 10 ^ 10 ∧ height < 10 ^ 10 := by
  unfold pngSize? at measured
  split at measured
  · split at measured
    · rename_i across down
      cases measured
      exact ⟨bigEndian?_lt across, bigEndian?_lt down⟩
    · cases measured
  · cases measured

theorem length_imagePreview_le (png : List UInt8) : (imagePreview png).length ≤ 25 := by
  unfold imagePreview
  split
  · rename_i width height measured
    obtain ⟨narrow, low⟩ := pngSize?_lt measured
    have across := Text.length_decimal_le (by decide) narrow
    have down := Text.length_decimal_le (by decide) low
    have marks : "x".length = 1 ∧ " PNG".length = 4 := by decide
    simp only [String.length_append]
    omega
  · decide

/-! ### Files -/

/-- The paths that a preview shows. -/
def shownPaths : Content → List String
  | files paths => paths.take filesPreviewLength
  | empty | text _ | image _ => []

theorem length_filesPreview (paths : List String) :
    (filesPreview paths).length =
      ((shownPaths (.files paths)).map String.length).sum +
        2 * ((shownPaths (.files paths)).length - 1) +
        if filesPreviewLength < paths.length then 5 else 0 := by
  rw [filesPreview, String.length_append, Text.length_intercalate]
  congr 1
  split <;> rfl

/-! ### All contents -/

/-- A path is shown as it is. -/
theorem length_le_preview {content : Content} {path : String} (shown : path ∈ content.shownPaths) :
    path.length ≤ content.preview.length := by
  cases content with
  | files paths =>
    have part := List.le_sum_of_mem (List.mem_map_of_mem (f := String.length) shown)
    rw [preview, length_filesPreview]
    omega
  | empty | text | image => cases shown

theorem length_preview_le {content : Content} {limit : Nat}
    (short : ∀ path ∈ content.shownPaths, path.length ≤ limit) :
    content.preview.length ≤ max (textPreviewLength + 3) (filesPreviewLength * limit + 9) := by
  cases content with
  | empty => exact le_max_of_le_left (by decide)
  | text body => exact le_max_of_le_left (length_textPreview_le body)
  | image png => exact le_max_of_le_left ((length_imagePreview_le png).trans (by decide))
  | files paths =>
    refine le_max_of_le_right ?_
    have few : (shownPaths (.files paths)).length ≤ 3 := List.length_take_le ..
    have total : ((shownPaths (.files paths)).map String.length).sum ≤
        ((shownPaths (.files paths)).map String.length).length * limit :=
      List.sum_le_card_nsmul _ limit (List.forall_mem_map.mpr short)
    rw [List.length_map] at total
    have most := Nat.mul_le_mul_right limit few
    change (filesPreview paths).length ≤ 3 * limit + 9
    rw [length_filesPreview]
    split <;> omega

/-- Previews of some contents are bounded exactly if the paths that they show are. -/
theorem previews_bounded_iff (contents : Set Content) :
    ((∃ bound, ∀ content ∈ contents, content.preview.length ≤ bound) ↔
      ∃ limit, ∀ content ∈ contents, ∀ path ∈ content.shownPaths, path.length ≤ limit) ∧
    ∀ limit, (∀ content ∈ contents, ∀ path ∈ content.shownPaths, path.length ≤ limit) →
      ∀ content ∈ contents, content.preview.length ≤
        max (textPreviewLength + 3) (filesPreviewLength * limit + 9) := by
  have enough : ∀ limit, (∀ content ∈ contents, ∀ path ∈ content.shownPaths, path.length ≤ limit) →
      ∀ content ∈ contents, content.preview.length ≤
        max (textPreviewLength + 3) (filesPreviewLength * limit + 9) :=
    fun limit short content member => length_preview_le (short content member)
  refine ⟨⟨?_, fun ⟨limit, short⟩ => ⟨_, enough limit short⟩⟩, enough⟩
  rintro ⟨bound, bounded⟩
  exact ⟨bound, fun content member path shown =>
    (length_le_preview shown).trans (bounded content member)⟩

/-- Everything but lists of files. -/
def fileless : Set Content := {content | content.kind ≠ .files}

theorem previews_bounded_fileless :
    (∀ content ∈ fileless, ∀ path ∈ content.shownPaths, path.length ≤ 0) ∧
    ∀ content ∈ fileless, content.preview.length ≤ 83 := by
  have nothing : ∀ content ∈ fileless, ∀ path ∈ content.shownPaths, path.length ≤ 0 := by
    intro content other
    cases content with
    | files => exact absurd rfl other
    | empty | text | image => exact fun path shown => nomatch shown
  exact ⟨nothing, (previews_bounded_iff fileless).2 0 nothing⟩

/-- A list of one file, whose path is longer than the bound. -/
theorem previews_unbounded : ¬ ∃ bound, ∀ content : Content, content.preview.length ≤ bound := by
  rintro ⟨bound, bounded⟩
  let path := String.ofList (List.replicate (bound + 1) 'a')
  have long : path.length = bound + 1 := by rw [String.length_ofList, List.length_replicate]
  have shown : path ∈ shownPaths (.files [path]) := List.mem_cons_self
  have within := (length_le_preview shown).trans (bounded (.files [path]))
  omega

end Clipboard.Content

end PasteQueue
