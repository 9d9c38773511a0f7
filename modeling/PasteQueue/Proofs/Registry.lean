import Mathlib.Data.List.Dedup
import Mathlib.Data.List.Induction
import Mathlib.Data.List.Perm.Lattice
import PasteQueue.Registry

/-!
The registry beside a plain list of registrations in the order in which they were made. The buckets
are in no particular order, and may change it at any time; each holds, in the order of the list, the
registrations of its hash. So long as registrations of one id share a hash, the registry answers as
the list does.
-/

namespace PasteQueue

theorem Signature.eq_iff {first second : Signature} :
    first = second ↔ first.source = second.source ∧ first.modifiers = second.modifiers ∧
      first.raw = second.raw := by
  obtain ⟨source, modifiers, raw, _⟩ := first
  obtain ⟨otherSource, otherModifiers, otherRaw, _⟩ := second
  simp

namespace Registry

variable {α : Type}

/-! ### Edits -/

inductive Edit (α : Type)
  | insert (entry : Registration α)
  | erase (id : String)
  | clear

def edit (registry : Registry α) : Edit α → Registry α
  | .insert entry => registry.insert entry
  | .erase id => registry.erase id
  | .clear => registry.clear

def Edit.apply (entries : List (Registration α)) : Edit α → List (Registration α)
  | .insert entry => entries ++ [entry]
  | .erase id => entries.eraseP (·.id == id)
  | .clear => []

def listed (edits : List (Edit α)) : List (Registration α) := edits.foldl Edit.apply []

theorem listed_concat (edits : List (Edit α)) (edit : Edit α) :
    listed (edits ++ [edit]) = edit.apply (listed edits) :=
  List.foldl_append

/-- What a registry with this hash may be after some edits. -/
inductive Reached (hash : Signature → UInt64) : List (Edit α) → Registry α → Prop
  | empty : Reached hash [] { hash }
  | edit {edits : List (Edit α)} {registry : Registry α} (reached : Reached hash edits registry)
      (edit : Edit α) : Reached hash (edits ++ [edit]) (registry.edit edit)
  | shuffle {edits : List (Edit α)} {registry : Registry α}
      {buckets : List (UInt64 × List (Registration α))} (reached : Reached hash edits registry)
      (same : buckets.Perm registry.buckets) : Reached hash edits { registry with buckets }

def OneHash (hash : Signature → UInt64) (entries : List (Registration α)) : Prop :=
  ∀ first ∈ entries, ∀ second ∈ entries, first.id = second.id →
    hash first.signature = hash second.signature

/-! ### Registrations of a hash -/

section Grouped

variable {hash : Signature → UInt64} {key other : UInt64} {entries : List (Registration α)}

def ofHash (hash : Signature → UInt64) (key : UInt64) (entries : List (Registration α)) :
    List (Registration α) :=
  entries.filter fun entry => hash entry.signature == key

def apart (hash : Signature → UInt64) (key : UInt64) (entries : List (Registration α)) :
    List (Registration α) :=
  entries.filter fun entry => !(hash entry.signature == key)

theorem mem_ofHash {entry : Registration α} :
    entry ∈ ofHash hash key entries ↔ entry ∈ entries ∧ hash entry.signature = key := by
  simp [ofHash]

theorem mem_apart {entry : Registration α} :
    entry ∈ apart hash key entries ↔ entry ∈ entries ∧ hash entry.signature ≠ key := by
  simp [apart]

theorem ofHash_append_apart (hash : Signature → UInt64) (key : UInt64)
    (entries : List (Registration α)) :
    (ofHash hash key entries ++ apart hash key entries).Perm entries :=
  List.filter_append_perm ..

theorem ofHash_apart (different : other ≠ key) :
    ofHash hash other (apart hash key entries) = ofHash hash other entries := by
  rw [ofHash, apart, List.filter_filter]
  refine List.filter_congr fun entry _ => ?_
  by_cases same : hash entry.signature = other <;> simp [same, different]

theorem apart_of_none (none : ofHash hash key entries = []) : apart hash key entries = entries := by
  refine List.filter_eq_self.mpr fun entry member => ?_
  have outside := List.filter_eq_nil_iff.mp none entry member
  simpa using outside

/-! ### Buckets -/

variable {buckets rest : List (UInt64 × List (Registration α))} {held : List (Registration α)}

/-- One bucket for each hash that occurs in the list, with all registrations of that hash. -/
structure Grouped (hash : Signature → UInt64) (buckets : List (UInt64 × List (Registration α)))
    (entries : List (Registration α)) : Prop where
  keys : (buckets.map Prod.fst).Nodup
  held : ∀ bucket ∈ buckets, bucket.2 = ofHash hash bucket.1 entries
  filled : ∀ bucket ∈ buckets, bucket.2 ≠ []
  covered : ∀ entry ∈ entries, hash entry.signature ∈ buckets.map Prod.fst

theorem Grouped.perm (grouped : Grouped hash buckets entries)
    {others : List (UInt64 × List (Registration α))} (same : others.Perm buckets) :
    Grouped hash others entries where
  keys := (same.map Prod.fst).nodup_iff.mpr grouped.keys
  held bucket member := grouped.held bucket (same.mem_iff.mp member)
  filled bucket member := grouped.filled bucket (same.mem_iff.mp member)
  covered entry member := (same.map Prod.fst).mem_iff.mpr (grouped.covered entry member)

theorem grouped_nil_iff : Grouped hash [] entries ↔ entries = [] := by
  constructor
  · intro grouped
    exact List.eq_nil_iff_forall_not_mem.mpr fun entry member => nomatch grouped.covered entry member
  · rintro rfl
    exact ⟨List.nodup_nil, nofun, nofun, nofun⟩

/-- The first bucket has the registrations of its hash, and the others have the rest. -/
theorem grouped_cons_iff :
    Grouped hash ((key, held) :: rest) entries ↔
      (key ∉ rest.map Prod.fst ∧ held = ofHash hash key entries ∧ held ≠ []) ∧
        Grouped hash rest (apart hash key entries) := by
  constructor
  · intro grouped
    obtain ⟨absent, keys⟩ := List.nodup_cons.mp grouped.keys
    refine ⟨⟨absent, grouped.held _ List.mem_cons_self, grouped.filled _ List.mem_cons_self⟩,
      keys, fun bucket member => ?_, fun bucket member => grouped.filled _ (.tail _ member),
      fun entry member => ?_⟩
    · have different : bucket.1 ≠ key := fun same =>
        absent (List.mem_map.mpr ⟨bucket, member, same⟩)
      rw [ofHash_apart different]
      exact grouped.held bucket (.tail _ member)
    · obtain ⟨member, different⟩ := mem_apart.mp member
      exact (List.mem_cons.mp (grouped.covered entry member)).resolve_left different
  · rintro ⟨⟨absent, here, filled⟩, grouped⟩
    refine ⟨List.nodup_cons.mpr ⟨absent, grouped.keys⟩, fun bucket member => ?_,
      fun bucket member => ?_, fun entry member => ?_⟩
    · rcases List.mem_cons.mp member with rfl | member
      · exact here
      · have different : bucket.1 ≠ key := fun same =>
        absent (List.mem_map.mpr ⟨bucket, member, same⟩)
        rw [← ofHash_apart different]
        exact grouped.held bucket member
    · rcases List.mem_cons.mp member with rfl | member
      · exact filled
      · exact grouped.filled bucket member
    · by_cases same : hash entry.signature = key
      · exact List.mem_cons.mpr (.inl same)
      · exact .tail _ (grouped.covered entry (mem_apart.mpr ⟨member, same⟩))

theorem Grouped.lookup (grouped : Grouped hash buckets entries) (key : UInt64) :
    (buckets.lookup key).getD [] = ofHash hash key entries := by
  induction buckets generalizing entries with
  | nil =>
    rw [grouped_nil_iff.mp grouped]
    rfl
  | cons bucket rest follows =>
    obtain ⟨⟨_, here, _⟩, others⟩ := grouped_cons_iff.mp grouped
    rw [List.lookup_cons]
    cases same : key == bucket.1 with
    | true => rw [eq_of_beq same]; exact here
    | false => exact (follows others).trans (ofHash_apart (ne_of_beq_false same))

theorem Grouped.flatMap_perm (grouped : Grouped hash buckets entries) :
    (buckets.flatMap Prod.snd).Perm entries := by
  induction buckets generalizing entries with
  | nil =>
    rw [grouped_nil_iff.mp grouped]
    exact .nil
  | cons bucket rest follows =>
    obtain ⟨⟨_, here, _⟩, others⟩ := grouped_cons_iff.mp grouped
    rw [List.flatMap_cons, here]
    exact ((follows others).append_left _).trans (ofHash_append_apart hash bucket.1 entries)

theorem Grouped.keys_perm (grouped : Grouped hash buckets entries) :
    (buckets.map Prod.fst).Perm (entries.map fun entry => hash entry.signature).dedup := by
  rw [List.perm_ext_iff_of_nodup grouped.keys (List.nodup_dedup _)]
  intro key
  rw [List.mem_dedup, List.mem_map, List.mem_map]
  constructor
  · rintro ⟨bucket, member, rfl⟩
    obtain ⟨entry, inside⟩ := List.exists_mem_of_ne_nil _ (grouped.filled bucket member)
    rw [grouped.held bucket member] at inside
    exact ⟨entry, mem_ofHash.mp inside⟩
  · rintro ⟨entry, member, rfl⟩
    exact List.mem_map.mp (grouped.covered entry member)

/-! ### Registering -/

theorem mem_keys_place (key : UInt64) (entry : Registration α) :
    other ∈ (place key entry buckets).map Prod.fst ↔ other = key ∨ other ∈ buckets.map Prod.fst := by
  induction buckets with
  | nil => simp [place]
  | cons bucket rest follows =>
    unfold place
    split
    · rename_i here
      simp [here]
    · rw [List.map_cons, List.map_cons, List.mem_cons, List.mem_cons, follows]
      exact or_left_comm

theorem Grouped.place (grouped : Grouped hash buckets entries) (entry : Registration α) :
    Grouped hash (place (hash entry.signature) entry buckets) (entries ++ [entry]) := by
  induction buckets generalizing entries with
  | nil =>
    rw [grouped_nil_iff.mp grouped]
    refine grouped_cons_iff.mpr ⟨⟨List.not_mem_nil, ?_, List.cons_ne_nil _ _⟩, grouped_nil_iff.mpr ?_⟩
    · simp [ofHash]
    · simp [apart]
  | cons bucket rest follows =>
    obtain ⟨⟨absent, here, filled⟩, others⟩ := grouped_cons_iff.mp grouped
    unfold Registry.place
    split
    · rename_i same
      refine grouped_cons_iff.mpr ⟨⟨absent, ?_, by simp⟩, ?_⟩
      · rw [here, same]
        simp [ofHash]
      · rw [same] at others ⊢
        simpa [apart] using others
    · rename_i different
      refine grouped_cons_iff.mpr ⟨⟨?_, ?_, filled⟩, ?_⟩
      · rw [mem_keys_place]
        exact not_or.mpr ⟨different, absent⟩
      · rw [here]
        simp [ofHash, Ne.symm different]
      · have kept : apart hash bucket.1 (entries ++ [entry]) =
            apart hash bucket.1 entries ++ [entry] := by
          simp [apart, Ne.symm different]
        rw [kept]
        exact follows others

/-! ### Unregistering -/

section Erase

variable {id : String}

theorem eraseP_filter_of_imp {accepts keeps : Registration α → Bool}
    (inside : ∀ entry ∈ entries, accepts entry = true → keeps entry = true) :
    (entries.eraseP accepts).filter keeps = (entries.filter keeps).eraseP accepts := by
  rw [List.eraseP_filter]
  rcases List.exists_or_eq_self_of_eraseP accepts entries with
    whole | ⟨entry, front, back, others, found, rfl, erased⟩
  · have none : ∀ entry ∈ entries, ¬ (accepts entry && keeps entry) = true :=
      fun entry member both =>
        List.eraseP_eq_self_iff.mp whole entry member (Bool.and_eq_true_iff.mp both).1
    rw [whole, List.eraseP_of_forall_not none]
  · have first : ∀ other ∈ front, ¬ (accepts other && keeps other) = true :=
      fun other member both => others other member (Bool.and_eq_true_iff.mp both).1
    have kept := inside entry (List.mem_append_right _ List.mem_cons_self) found
    rw [erased, List.eraseP_append_right _ first, List.eraseP_cons_of_pos (by simp [found, kept])]

theorem eraseP_filter_of_disjoint {accepts keeps : Registration α → Bool}
    (outside : ∀ entry ∈ entries, accepts entry = true → keeps entry = false) :
    (entries.eraseP accepts).filter keeps = entries.filter keeps := by
  rcases List.exists_or_eq_self_of_eraseP accepts entries with
    whole | ⟨entry, front, back, _, found, rfl, erased⟩
  · rw [whole]
  · have left := outside entry (List.mem_append_right _ List.mem_cons_self) found
    rw [erased, List.filter_append, List.filter_append, List.filter_cons_of_neg (by simp [left])]

/-- All registrations of the id have one hash. -/
theorem ofHash_eraseP_of_shared
    (shared : ∀ entry ∈ entries, entry.id = id → hash entry.signature = key) :
    ofHash hash key (entries.eraseP (·.id == id)) = (ofHash hash key entries).eraseP (·.id == id) :=
  eraseP_filter_of_imp fun entry member named =>
    beq_iff_eq.mpr (shared entry member (eq_of_beq named))

theorem apart_eraseP_of_shared
    (shared : ∀ entry ∈ entries, entry.id = id → hash entry.signature = key) :
    apart hash key (entries.eraseP (·.id == id)) = apart hash key entries :=
  eraseP_filter_of_disjoint fun entry member named => by
    simp [shared entry member (eq_of_beq named)]

/-- No registration of the id has the hash. -/
theorem ofHash_eraseP_of_none
    (none : ∀ entry ∈ entries, entry.id = id → hash entry.signature ≠ key) :
    ofHash hash key (entries.eraseP (·.id == id)) = ofHash hash key entries :=
  eraseP_filter_of_disjoint fun entry member named =>
    beq_false_of_ne (none entry member (eq_of_beq named))

theorem apart_eraseP_of_none
    (none : ∀ entry ∈ entries, entry.id = id → hash entry.signature ≠ key) :
    apart hash key (entries.eraseP (·.id == id)) = (apart hash key entries).eraseP (·.id == id) :=
  eraseP_filter_of_imp fun entry member named => by
    simp [none entry member (eq_of_beq named)]

theorem remove_of_absent (absent : ∀ bucket ∈ buckets, bucket.2.any (·.id == id) = false) :
    remove id buckets = buckets := by
  induction buckets with
  | nil => rfl
  | cons bucket rest follows =>
    rw [remove, if_neg (by simp [absent bucket List.mem_cons_self]),
      follows fun other member => absent other (.tail _ member)]

theorem keys_remove_sublist (id : String) (buckets : List (UInt64 × List (Registration α))) :
    ((remove id buckets).map Prod.fst).Sublist (buckets.map Prod.fst) := by
  induction buckets with
  | nil => exact .slnil
  | cons bucket rest follows =>
    unfold remove
    split
    · split
      · exact List.sublist_cons_self ..
      · exact .refl _
    · exact follows.cons_cons _

theorem Grouped.remove (grouped : Grouped hash buckets entries)
    (shared : ∀ entry ∈ entries, entry.id = id → hash entry.signature = key) :
    Grouped hash (remove id buckets) (entries.eraseP (·.id == id)) := by
  induction buckets generalizing entries with
  | nil =>
    rw [grouped_nil_iff.mp grouped]
    exact grouped_nil_iff.mpr rfl
  | cons bucket rest follows =>
    obtain ⟨⟨absent, here, filled⟩, others⟩ := grouped_cons_iff.mp grouped
    unfold Registry.remove
    split
    · rename_i found
      obtain ⟨entry, member, named⟩ := List.any_eq_true.mp found
      rw [here] at member
      obtain ⟨member, hashed⟩ := mem_ofHash.mp member
      -- every registration with the id is in this bucket
      obtain rfl : key = bucket.1 := (shared entry member (eq_of_beq named)).symm.trans hashed
      have left := ofHash_eraseP_of_shared shared
      have kept := apart_eraseP_of_shared shared
      rw [← here] at left
      split
      · rename_i emptied
        rw [← apart_of_none (left.trans emptied), kept]
        exact others
      · refine grouped_cons_iff.mpr ⟨⟨absent, left.symm, by assumption⟩, ?_⟩
        rw [kept]
        exact others
    · rename_i missing
      -- no registration with the id is in this bucket
      have none : ∀ entry ∈ entries, entry.id = id → hash entry.signature ≠ bucket.1 := by
        intro entry member named hashed
        refine missing (List.any_eq_true.mpr ⟨entry, ?_, beq_iff_eq.mpr named⟩)
        rw [here]
        exact mem_ofHash.mpr ⟨member, hashed⟩
      refine grouped_cons_iff.mpr ⟨⟨?_, here.trans (ofHash_eraseP_of_none none).symm, filled⟩, ?_⟩
      · exact fun member => absent ((keys_remove_sublist id rest).subset member)
      · rw [apart_eraseP_of_none none]
        exact follows others fun entry member => shared entry (mem_apart.mp member).1

end Erase

/-! ### Runs -/

theorem OneHash.of_id (shared : OneHash hash entries) (id : String) :
    ∃ key, ∀ entry ∈ entries, entry.id = id → hash entry.signature = key := by
  by_cases named : ∃ entry ∈ entries, entry.id = id
  · obtain ⟨first, member, rfl⟩ := named
    exact ⟨hash first.signature, fun entry inside same => shared entry inside first member same⟩
  · exact ⟨0, fun entry inside same => absurd ⟨entry, inside, same⟩ named⟩

theorem Grouped.edit {registry : Registry α}
    (grouped : Grouped registry.hash registry.buckets entries)
    (shared : OneHash registry.hash entries) (edit : Edit α) :
    Grouped registry.hash (registry.edit edit).buckets (edit.apply entries) := by
  cases edit with
  | insert entry => exact grouped.place entry
  | erase id =>
    obtain ⟨key, shared⟩ := OneHash.of_id shared id
    exact grouped.remove shared
  | clear => exact grouped_nil_iff.mpr rfl

theorem edit_hash (registry : Registry α) (edit : Edit α) :
    (registry.edit edit).hash = registry.hash := by
  cases edit <;> rfl

theorem Reached.hash_eq {edits : List (Edit α)} {registry : Registry α}
    (reached : Reached hash edits registry) : registry.hash = hash := by
  induction reached with
  | empty => rfl
  | edit _ edit same => exact (edit_hash _ edit).trans same
  | shuffle _ _ same => exact same

theorem Reached.grouped {edits : List (Edit α)} {registry : Registry α}
    (reached : Reached hash edits registry)
    (shared : ∀ before, before <+: edits → OneHash hash (listed before)) :
    Grouped hash registry.buckets (listed edits) := by
  induction reached with
  | empty => exact grouped_nil_iff.mpr rfl
  | @edit edits registry reached edit follows =>
    have before := List.prefix_append edits [edit]
    have grouped := follows fun earlier inside => shared earlier (inside.trans before)
    have same := shared edits before
    rw [listed_concat]
    obtain rfl := reached.hash_eq
    exact grouped.edit same edit
  | shuffle _ same follows => exact (follows shared).perm same

/-- Every registration is in the bucket of its hash. -/
def Keyed (hash : Signature → UInt64) (buckets : List (UInt64 × List (Registration α))) : Prop :=
  ∀ bucket ∈ buckets, ∀ entry ∈ bucket.2, hash entry.signature = bucket.1

theorem Keyed.place (keyed : Keyed hash buckets) (entry : Registration α) :
    Keyed hash (Registry.place (hash entry.signature) entry buckets) := by
  induction buckets with
  | nil => simp [Keyed, Registry.place]
  | cons bucket rest follows =>
    obtain ⟨here, others⟩ := List.forall_mem_cons.mp keyed
    unfold Registry.place
    split
    · rename_i same
      refine List.forall_mem_cons.mpr ⟨fun other member => ?_, others⟩
      rcases List.mem_append.mp member with member | member
      · exact here other member
      · rw [List.mem_singleton.mp member, same]
    · exact List.forall_mem_cons.mpr ⟨here, follows others⟩

theorem Keyed.remove (keyed : Keyed hash buckets) (id : String) :
    Keyed hash (Registry.remove id buckets) := by
  induction buckets with
  | nil => exact keyed
  | cons bucket rest follows =>
    obtain ⟨here, others⟩ := List.forall_mem_cons.mp keyed
    unfold Registry.remove
    split
    · split
      · exact others
      · exact List.forall_mem_cons.mpr
          ⟨fun other member => here other (List.mem_of_mem_eraseP member), others⟩
    · exact List.forall_mem_cons.mpr ⟨here, follows others⟩

/-- Whatever the ids: this does not need registrations of one id to share a hash. -/
theorem Reached.keyed {edits : List (Edit α)} {registry : Registry α}
    (reached : Reached hash edits registry) : Keyed hash registry.buckets := by
  induction reached with
  | empty => exact fun _ member => nomatch member
  | edit reached edit keyed =>
    obtain rfl := reached.hash_eq
    cases edit with
    | insert entry => exact keyed.place entry
    | erase id => exact keyed.remove id
    | clear => exact fun _ member => nomatch member
  | shuffle _ same keyed => exact fun bucket member => keyed bucket (same.mem_iff.mp member)

theorem reached_run (hash : Signature → UInt64) (edits : List (Edit α)) :
    Reached hash edits (edits.foldl Registry.edit { hash }) := by
  induction edits using List.reverseRecOn with
  | nil => exact .empty
  | append_singleton edits edit reached =>
    rw [List.foldl_append]
    exact reached.edit edit

theorem Grouped.find? {registry : Registry α}
    (grouped : Grouped registry.hash registry.buckets entries) (query : Signature) :
    registry.find? query = entries.find? (·.signature == query) := by
  have bucket : registry.find? query =
      ((registry.buckets.lookup (registry.hash query)).getD []).find? (·.signature == query) := by
    unfold Registry.find?
    cases registry.buckets.lookup (registry.hash query) <;> rfl
  rw [bucket, grouped.lookup, ofHash, List.find?_filter]
  congr 1
  funext entry
  by_cases same : entry.signature = query <;> simp [same]

theorem Grouped.erase_of_absent {registry : Registry α}
    (grouped : Grouped registry.hash registry.buckets entries) {id : String}
    (absent : ∀ entry ∈ entries, entry.id ≠ id) : registry.erase id = registry := by
  have none : ∀ bucket ∈ registry.buckets, bucket.2.any (·.id == id) = false := by
    intro bucket member
    rw [grouped.held bucket member, List.any_eq_false]
    intro entry inside
    simpa using absent entry (mem_ofHash.mp inside).1
  rw [erase, remove_of_absent none]

end Grouped

/-- A registry that has come of some edits, beside the list that comes of the same edits: a look-up
finds the first equal signature of the list, the first registration of an id is the one that goes, an
unknown id is left alone, the registrations are those of the list, and there is one bucket for each
hash that occurs, never an empty one. -/
theorem registry_mirrors_list {hash : Signature → UInt64} {edits : List (Edit α)}
    {registry : Registry α} (reached : Reached hash edits registry)
    (shared : ∀ before, before <+: edits → OneHash hash (listed before)) :
    (∀ query, registry.action? query = ((listed edits).find? fun entry =>
      entry.signature.source = query.source ∧ entry.signature.modifiers = query.modifiers ∧
        entry.signature.raw = query.raw).map Registration.action) ∧
    (∀ id, (registry.erase id).toList.Perm ((listed edits).eraseP (·.id == id))) ∧
    (∀ id, (∀ entry ∈ listed edits, entry.id ≠ id) → registry.erase id = registry) ∧
    registry.toList.Perm (listed edits) ∧ registry.size = (listed edits).length ∧
    (∀ bucket ∈ registry.buckets, bucket.2 ≠ [] ∧
      ∀ entry ∈ bucket.2, hash entry.signature = bucket.1) ∧
    registry.bucketCount = ((listed edits).map fun entry => hash entry.signature).dedup.length := by
  have grouped := reached.grouped shared
  have same := shared edits (List.prefix_refl edits)
  obtain rfl := reached.hash_eq
  refine ⟨fun query => ?_, fun id => (grouped.edit same (.erase id)).flatMap_perm,
    fun id => grouped.erase_of_absent, grouped.flatMap_perm, grouped.flatMap_perm.length_eq,
    fun bucket member => ⟨grouped.filled bucket member, ?_⟩, ?_⟩
  · rw [action?, grouped.find?]
    congr 2
    funext entry
    rw [← decide_eq_decide.mpr Signature.eq_iff]
    rfl
  · intro entry inside
    rw [grouped.held bucket member] at inside
    exact (mem_ofHash.mp inside).2
  · rw [bucketCount, ← grouped.keys_perm.length_eq, List.length_map]

/-- Two registrations of one signature and one id, and one of another signature between them. -/
def doubled : List (Edit Nat) :=
  [.insert ⟨.ofRaw .hid [1] .none, "twice", 1⟩, .insert ⟨.ofRaw .hid [2] .none, "once", 2⟩,
    .insert ⟨.ofRaw .hid [1] .none, "twice", 3⟩, .erase "twice"]

/-- Every signature has the same hash. -/
theorem registry_mirrors_list_colliding :
    let registry := doubled.foldl Registry.edit { hash := fun _ => 0 }
    registry.action? (.ofRaw .hid [1] .none) = some 3 ∧ registry.erase "thrice" = registry ∧
    registry.size = 2 ∧ registry.bucketCount = 1 := by
  obtain ⟨found, _, unknown, _, size, _, count⟩ :=
    registry_mirrors_list (reached_run (fun _ => 0) doubled) fun _ _ _ _ _ _ _ => rfl
  exact ⟨(found _).trans rfl, unknown "thrice" (by decide), size.trans rfl, count.trans rfl⟩

end Registry

end PasteQueue
