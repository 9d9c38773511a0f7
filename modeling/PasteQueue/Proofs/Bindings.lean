import PasteQueue.Bindings
import PasteQueue.Proofs.Registry
import PasteQueue.Proofs.Text

/-!
What an installed registry answers. Whatever it held before, it finds the action of the first binding
whose hotkey reads as the signature that is asked for. The report names every binding once, for an
identity tells the place of its binding.
-/

namespace PasteQueue

namespace Binding

def reads (binding : Binding) (signature : Signature) : Bool :=
  match Hotkey.parse binding.hotkey with
  | .ok found => found == signature
  | .error _ => false

def registration? (binding : Binding) : Option (Registration Action) :=
  match Hotkey.parse binding.hotkey with
  | .ok signature => some ⟨signature, binding.id, binding.action⟩
  | .error _ => none

def fault? (binding : Binding) : Option (String × ReadError) :=
  match Hotkey.parse binding.hotkey with
  | .ok _ => none
  | .error fault => some (binding.id, fault)

/-- A binding with what its hotkey reads as. -/
def face (binding : Binding) : String × Action × Except ReadError Signature :=
  (binding.id, binding.action, Hotkey.parse binding.hotkey)

theorem reads_iff {binding : Binding} {signature : Signature} :
    binding.reads signature = true ↔ Hotkey.parse binding.hotkey = .ok signature := by
  unfold reads
  split <;> rename_i parsed <;> simp [parsed]

theorem registration?_congr {one other : Binding} (same : one.face = other.face) :
    one.registration? = other.registration? := by
  obtain ⟨id, rest⟩ := Prod.mk.inj same
  obtain ⟨action, read⟩ := Prod.mk.inj rest
  rw [registration?, registration?, id, action, read]

theorem fault?_congr {one other : Binding} (same : one.face = other.face) :
    one.fault? = other.fault? := by
  obtain ⟨id, rest⟩ := Prod.mk.inj same
  rw [fault?, fault?, id, (Prod.mk.inj rest).2]

theorem registration?_any (binding : Binding) (signature : Signature) :
    (binding.registration?.any fun entry => entry.signature == signature) =
      binding.reads signature := by
  unfold registration? reads
  split <;> rfl

theorem registration?_action {binding : Binding} {signature : Signature}
    (reads : binding.reads signature = true) :
    binding.registration?.map Registration.action = some binding.action := by
  simp [registration?, reads_iff.mp reads]

end Binding

namespace Bindings

/-! ### The places of bindings -/

inductive Slot
  | toggleQueue
  | pasteNext
  | textMacro (index : Nat)
  deriving DecidableEq, Repr

def at? (bindings : Bindings) : Slot → Option Binding
  | .toggleQueue => bindings.toggleQueue.map fun hotkey => ⟨toggleQueueId, hotkey, .toggleQueue⟩
  | .pasteNext => bindings.pasteNext.map fun hotkey => ⟨pasteNextId, hotkey, .pasteNext⟩
  | .textMacro index => bindings.macros[index]?.map (macroBinding · index)

variable {bindings : Bindings}

/-- The places in the order in which their bindings are installed. -/
def slots (bindings : Bindings) : List Slot :=
  .toggleQueue :: .pasteNext :: (List.range bindings.macros.length).map .textMacro

theorem all_eq_filterMap (bindings : Bindings) :
    bindings.all = bindings.slots.filterMap bindings.at? := by
  have macros : ((List.range bindings.macros.length).map Slot.textMacro).filterMap bindings.at? =
      bindings.macros.zipIdx.map fun bound => macroBinding bound.1 bound.2 := by
    rw [List.range_eq_range', ← List.zipIdx_map_snd, List.map_map, List.filterMap_map,
      List.filterMap_eq_map_iff_forall_eq_some]
    intro bound member
    simp [at?, List.mem_zipIdx_iff_getElem?.mp member]
  rw [slots, all, List.filterMap_cons, List.filterMap_cons, macros]
  unfold at?
  cases bindings.toggleQueue <;> cases bindings.pasteNext <;> rfl

theorem mem_slots {slot : Slot} {binding : Binding} (stands : bindings.at? slot = some binding) :
    slot ∈ bindings.slots := by
  cases slot with
  | toggleQueue => exact .head _
  | pasteNext => exact .tail _ (.head _)
  | textMacro index =>
    obtain ⟨bound, there, -⟩ := Option.map_eq_some_iff.mp stands
    have within : index < bindings.macros.length := (List.getElem?_eq_some_iff.mp there).choose
    exact .tail _ (.tail _ (List.mem_map_of_mem (List.mem_range.mpr within)))

theorem mem_all_iff {binding : Binding} :
    binding ∈ bindings.all ↔ ∃ slot, bindings.at? slot = some binding := by
  rw [all_eq_filterMap, List.mem_filterMap]
  exact exists_congr fun slot => and_iff_right_of_imp mem_slots

/-- The place that an identity tells. -/
def Slot.ofId (id : String) : Slot :=
  match id.toList with
  | 't' :: _ => .toggleQueue
  | 'p' :: _ => .pasteNext
  | text => .textMacro (Text.leadingNumber (text.drop 6))

theorem Slot.ofId_toggleQueueId : ofId toggleQueueId = .toggleQueue := by
  simp [ofId, toggleQueueId]

theorem Slot.ofId_pasteNextId : ofId pasteNextId = .pasteNext := by
  simp [ofId, pasteNextId]

theorem Slot.ofId_macroId (index : Nat) (name : String) :
    ofId (macroId index name) = .textMacro index := by
  have text : (macroId index name).toList =
      ['m', 'a', 'c', 'r', 'o', ':'] ++ ((Text.decimal index).toList ++ ':' :: name.toList) := by
    simp [macroId]
  rw [ofId, text]
  exact congrArg Slot.textMacro (Text.leadingNumber_decimal index rfl name.toList)

theorem Slot.ofId_id {slot : Slot} {binding : Binding} (stands : bindings.at? slot = some binding) :
    ofId binding.id = slot := by
  cases slot with
  | toggleQueue =>
    obtain ⟨hotkey, -, rfl⟩ := Option.map_eq_some_iff.mp stands
    exact ofId_toggleQueueId
  | pasteNext =>
    obtain ⟨hotkey, -, rfl⟩ := Option.map_eq_some_iff.mp stands
    exact ofId_pasteNextId
  | textMacro index =>
    obtain ⟨bound, -, rfl⟩ := Option.map_eq_some_iff.mp stands
    exact ofId_macroId index bound.name

theorem slots_nodup (bindings : Bindings) : bindings.slots.Nodup := by
  have macros : ((List.range bindings.macros.length).map Slot.textMacro).Nodup :=
    List.nodup_range.map fun _ _ => Slot.textMacro.inj
  simp [slots, macros]

/-- No two bindings share an identity, whatever the names of the macros. -/
theorem ids_nodup (bindings : Bindings) : (bindings.all.map Binding.id).Nodup := by
  rw [all_eq_filterMap, List.map_filterMap]
  refine bindings.slots_nodup.filterMap ?_
  intro slot other id here there
  obtain ⟨binding, stands, rfl⟩ := Option.map_eq_some_iff.mp here
  obtain ⟨twin, standing, same⟩ := Option.map_eq_some_iff.mp there
  rw [← Slot.ofId_id stands, ← Slot.ofId_id standing, same]

/-! ### Installing -/

theorem foldl_register {registry : Registry Action} {entries : List (Registration Action)}
    (grouped : Registry.Grouped registry.hash registry.buckets entries) (bound : List Binding) :
    (bound.foldl register registry).hash = registry.hash ∧
      Registry.Grouped registry.hash (bound.foldl register registry).buckets
        (entries ++ bound.filterMap Binding.registration?) := by
  induction bound generalizing registry entries with
  | nil => exact ⟨rfl, by simpa using grouped⟩
  | cons binding bound ih =>
    rw [List.foldl_cons]
    cases parsed : Hotkey.parse binding.hotkey with
    | error fault =>
      have skipped : register registry binding = registry := by simp [register, parsed]
      have unlisted : binding.registration? = none := by simp [Binding.registration?, parsed]
      rw [skipped, List.filterMap_cons_none unlisted]
      exact ih grouped
    | ok signature =>
      let entry : Registration Action := ⟨signature, binding.id, binding.action⟩
      have inserted : register registry binding = registry.insert entry := by
        simp [register, parsed, entry]
      have listed : binding.registration? = some entry := by
        simp [Binding.registration?, parsed, entry]
      rw [inserted, List.filterMap_cons_some listed]
      have placed : Registry.Grouped (registry.insert entry).hash (registry.insert entry).buckets
          (entries ++ [entry]) := grouped.place entry
      have follows := ih placed
      rwa [List.append_assoc] at follows

/-- An installed registry holds what could be registered, in this order, and nothing else. -/
theorem install_grouped (bindings : Bindings) (registry : Registry Action) :
    Registry.Grouped (bindings.install registry).hash (bindings.install registry).buckets
      (bindings.all.filterMap Binding.registration?) := by
  have empty : Registry.Grouped registry.clear.hash registry.clear.buckets [] :=
    Registry.grouped_nil_iff.mpr rfl
  obtain ⟨hash, grouped⟩ := foldl_register empty bindings.all
  rw [List.nil_append, ← hash] at grouped
  exact grouped

theorem install_action? (bindings : Bindings) (registry : Registry Action) (signature : Signature) :
    (bindings.install registry).action? signature =
      (bindings.all.find? (·.reads signature)).map Binding.action := by
  rw [Registry.action?, (bindings.install_grouped registry).find?, List.find?_filterMap]
  simp only [Binding.registration?_any]
  cases first : bindings.all.find? (·.reads signature) with
  | none => rfl
  | some binding =>
    have reads : binding.reads signature = true := by simpa using List.find?_some first
    exact Binding.registration?_action reads

/-! ### The report -/

theorem foldl_add (report : InstallReport) (bound : List Binding) :
    bound.foldl .add report =
      ⟨report.registered ++ (bound.filterMap Binding.registration?).map Registration.id,
        report.skipped ++ bound.filterMap Binding.fault?⟩ := by
  induction bound generalizing report with
  | nil => simp
  | cons binding rest follows =>
    rw [List.foldl_cons, follows]
    cases parsed : Hotkey.parse binding.hotkey <;>
      simp [InstallReport.add, Binding.registration?, Binding.fault?, parsed]

theorem report_eq (bindings : Bindings) :
    bindings.report = ⟨(bindings.all.filterMap Binding.registration?).map Registration.id,
      bindings.all.filterMap Binding.fault?⟩ := foldl_add {} bindings.all

/-! ### Bindings that read alike -/

section Alike

variable {first second : Bindings} (alike : first.all.map Binding.face = second.all.map Binding.face)

include alike

theorem filterMap_congr_face {β : Type} {view : Binding → Option β}
    (seen : ∀ one other : Binding, one.face = other.face → view one = view other) :
    first.all.filterMap view = second.all.filterMap view := by
  generalize first.all = bound, second.all = others at alike ⊢
  have each : List.Forall₂ (fun one other => one.face = other.face) bound others := by
    rwa [← List.forall₂_eq_eq_eq, List.forall₂_map_left_iff, List.forall₂_map_right_iff] at alike
  clear alike
  induction each with
  | nil => rfl
  | cons same _ later => rw [List.filterMap_cons, List.filterMap_cons, seen _ _ same, later]

/-- What an installed registry answers hangs on what the hotkeys read as, not on how they are written. -/
theorem install_action?_congr (registry : Registry Action) (signature : Signature) :
    (first.install registry).action? signature = (second.install registry).action? signature := by
  rw [Registry.action?, Registry.action?, (first.install_grouped registry).find?,
    (second.install_grouped registry).find?,
    filterMap_congr_face alike fun _ _ => Binding.registration?_congr]

theorem report_congr : first.report = second.report := by
  rw [report_eq, report_eq, filterMap_congr_face alike fun _ _ => Binding.registration?_congr,
    filterMap_congr_face alike fun _ _ => Binding.fault?_congr]

end Alike

end Bindings

namespace Binding

/-- Each binding is registered or skipped. -/
theorem ids_perm (bound : List Binding) :
    ((bound.filterMap registration?).map Registration.id ++
      (bound.filterMap fault?).map Prod.fst).Perm (bound.map id) := by
  induction bound with
  | nil => exact .nil
  | cons binding rest follows =>
    cases parsed : Hotkey.parse binding.hotkey with
    | ok signature =>
      simpa [registration?, fault?, parsed] using follows
    | error fault =>
      simpa [registration?, fault?, parsed] using List.perm_middle.trans (follows.cons binding.id)

theorem ids_sublist {α : Type} {part : Binding → Option α} {named : α → String}
    (same : ∀ binding found, part binding = some found → named found = binding.id)
    (bound : List Binding) : ((bound.filterMap part).map named).Sublist (bound.map id) := by
  induction bound with
  | nil => exact .slnil
  | cons binding rest follows =>
    cases found : part binding with
    | none =>
      rw [List.filterMap_cons_none found]
      exact follows.cons _
    | some entry =>
      rw [List.filterMap_cons_some found, List.map_cons, List.map_cons, same binding entry found]
      exact follows.cons_cons _

theorem registration?_id {binding : Binding} {entry : Registration Action}
    (listed : binding.registration? = some entry) : entry.id = binding.id := by
  unfold registration? at listed
  split at listed <;> cases listed
  rfl

theorem fault?_eq_some_iff {binding : Binding} {id : String} {fault : ReadError} :
    binding.fault? = some (id, fault) ↔
      binding.id = id ∧ Hotkey.parse binding.hotkey = .error fault := by
  unfold fault?
  split <;> rename_i parsed <;> simp [parsed]

end Binding

namespace Bindings

/-- Whatever was registered before, an installed registry finds the action of the first binding, the
queue's own before the macros by index, whose hotkey reads as the signature. It holds what the report
names as registered. The report names every binding once, in order, and with those that were skipped
why their hotkeys cannot be read. -/
theorem install_starts_afresh (bindings : Bindings) (registry : Registry Action) :
    let bound := bindings.slots.filterMap bindings.at?
    let installed := bindings.install registry
    let report := bindings.report
    (∀ signature, installed.action? signature =
      (bound.find? (·.reads signature)).map Binding.action) ∧
    (report.registered ++ report.skipped.map Prod.fst).Nodup ∧
    (report.registered ++ report.skipped.map Prod.fst).Perm (bound.map Binding.id) ∧
    report.registered.Sublist (bound.map Binding.id) ∧
    (report.skipped.map Prod.fst).Sublist (bound.map Binding.id) ∧
    (∀ id fault, (id, fault) ∈ report.skipped ↔
      ∃ binding ∈ bound, binding.id = id ∧ Hotkey.parse binding.hotkey = .error fault) ∧
    report.registered = (bound.filterMap Binding.registration?).map Registration.id ∧
    installed.toList.Perm (bound.filterMap Binding.registration?) := by
  intro bound installed report
  have all : bindings.all = bound := bindings.all_eq_filterMap
  have named : report = ⟨(bound.filterMap Binding.registration?).map Registration.id,
      bound.filterMap Binding.fault?⟩ := all ▸ bindings.report_eq
  have once := bindings.ids_nodup
  rw [all] at once
  have each := Binding.ids_perm bound
  rw [named]
  refine ⟨fun signature => all ▸ bindings.install_action? registry signature,
    each.nodup_iff.mpr once, each, Binding.ids_sublist (fun _ _ => Binding.registration?_id) bound,
    Binding.ids_sublist (fun _ _ failed => (Binding.fault?_eq_some_iff.mp failed).1.symm) bound,
    fun id fault => ?_, rfl, ?_⟩
  · rw [List.mem_filterMap]
    simp only [Binding.fault?_eq_some_iff]
  · have grouped := bindings.install_grouped registry
    rw [all] at grouped
    exact grouped.flatMap_perm

end Bindings

end PasteQueue
