import Mathlib.Data.List.Nodup
import Mathlib.Logic.Function.Basic
import PasteQueue.Controller.Gate

/-!
What a gate guards. Whoever is inside holds it, so nobody is inside together with another; whoever
has asked holds it or stands in its line, once.
-/

namespace PasteQueue.Gate

/-- Where a strand stands towards a gate. -/
inductive Role
  | outside | asking | inside
  deriving DecidableEq, Repr

structure Guards (gate : Gate) (role : StrandId → Role) : Prop where
  inside : ∀ {strand}, role strand = .inside → gate.holder = some strand
  asking : ∀ {strand}, role strand = .asking → gate.holder = some strand ∨ strand ∈ gate.line
  holder : ∀ {strand}, gate.holder = some strand → role strand ≠ .outside ∧ strand ∉ gate.line
  line : ∀ {strand}, strand ∈ gate.line → role strand = .asking
  nodup : gate.line.Nodup
  free : gate.holder = none → gate.line = []

theorem isHeldBy_iff {gate : Gate} {strand : StrandId} :
    gate.isHeldBy strand = true ↔ gate.holder = some strand := by
  simp [isHeldBy]

theorem request_of_free {gate : Gate} (free : gate.holder = none) (strand : StrandId) :
    gate.request strand = (true, ⟨some strand, gate.line⟩) := by
  simp [request, free]

theorem request_of_held {gate : Gate} {holder : StrandId} (held : gate.holder = some holder)
    (strand : StrandId) : gate.request strand = (false, ⟨some holder, gate.line ++ [strand]⟩) := by
  simp [request, held]

theorem release_of_nil {gate : Gate} (empty : gate.line = []) : gate.release = {} := by
  simp [release, empty]

theorem release_of_cons {gate : Gate} {first : StrandId} {rest : List StrandId}
    (line : gate.line = first :: rest) : gate.release = ⟨some first, rest⟩ := by
  simp [release, line]

/-- The strands that have asked and not yet gone, in the order in which they asked. -/
def queue (gate : Gate) : List StrandId := gate.holder.toList ++ gate.line

theorem queue_of_held {gate : Gate} {holder : StrandId} (held : gate.holder = some holder) :
    gate.queue = holder :: gate.line := by
  simp [queue, held]

theorem release_queue (gate : Gate) : gate.release.queue = gate.line := by
  cases line : gate.line with
  | nil => rw [release_of_nil line]; rfl
  | cons first rest => rw [release_of_cons line]; rfl

namespace Guards

variable {gate : Gate} {role : StrandId → Role} {strand : StrandId}

theorem unique (guards : gate.Guards role) {other : StrandId} (first : role strand = .inside)
    (second : role other = .inside) : strand = other :=
  Option.some.inj ((guards.inside first).symm.trans (guards.inside second))

theorem free_outside (role : StrandId → Role) (outside : ∀ strand, role strand = .outside) :
    Guards {} role where
  inside {strand} inside := by rw [outside strand] at inside; cases inside
  asking {strand} asking := by rw [outside strand] at asking; cases asking
  holder held := by cases held
  line member := by cases member
  nodup := List.nodup_nil
  free _ := rfl

theorem stay (guards : gate.Guards role) {now : Role} (same : role strand = now) :
    gate.Guards (Function.update role strand now) := by
  rw [← same, Function.update_eq_self]
  exact guards

theorem absent (guards : gate.Guards role) (outside : role strand = .outside) :
    gate.holder ≠ some strand ∧ strand ∉ gate.line := by
  constructor
  · intro held
    exact (guards.holder held).1 outside
  · intro member
    have asking := guards.line member
    rw [outside] at asking
    cases asking

theorem request (guards : gate.Guards role) (outside : role strand = .outside) :
    (gate.request strand).2.Guards (Function.update role strand .asking) := by
  have absent := guards.absent outside
  cases held : gate.holder with
  | none =>
    rw [request_of_free held]
    have empty := guards.free held
    constructor
    · intro other inside
      by_cases same : other = strand
      · rw [same]
      · rw [Function.update_of_ne same] at inside
        have holds := guards.inside inside
        rw [held] at holds
        cases holds
    · intro other asking
      by_cases same : other = strand
      · exact .inl (by rw [same])
      · rw [Function.update_of_ne same] at asking
        rcases guards.asking asking with holds | member
        · rw [held] at holds
          cases holds
        · exact .inr member
    · intro other holds
      cases holds
      exact ⟨by simp, absent.2⟩
    · intro other member
      rw [empty] at member
      cases member
    · exact guards.nodup
    · intro free
      cases free
  | some holder =>
    rw [request_of_held held]
    constructor
    · intro other inside
      by_cases same : other = strand
      · rw [same, Function.update_self] at inside
        cases inside
      · rw [Function.update_of_ne same] at inside
        exact held.symm.trans (guards.inside inside)
    · intro other asking
      by_cases same : other = strand
      · exact .inr (by simp [same])
      · rw [Function.update_of_ne same] at asking
        rcases guards.asking asking with holds | member
        · exact .inl (held.symm.trans holds)
        · exact .inr (List.mem_append_left _ member)
    · intro other holds
      have kept := guards.holder (held.trans holds)
      have different : other ≠ strand := by
        intro same
        exact kept.1 (same ▸ outside)
      rw [Function.update_of_ne different]
      refine ⟨kept.1, ?_⟩
      intro member
      rcases List.mem_append.mp member with member | member
      · exact kept.2 member
      · exact different (List.mem_singleton.mp member)
    · intro other member
      rcases List.mem_append.mp member with member | member
      · have different : other ≠ strand := by
          intro same
          exact absent.2 (same ▸ member)
        rw [Function.update_of_ne different]
        exact guards.line member
      · rw [List.mem_singleton.mp member, Function.update_self]
    · exact guards.nodup.append (List.nodup_singleton strand)
        (List.disjoint_singleton.mpr absent.2)
    · intro free
      cases free

theorem enter (guards : gate.Guards role) (held : gate.holder = some strand) :
    gate.Guards (Function.update role strand .inside) where
  inside {other} inside := by
    by_cases same : other = strand
    · rw [same, held]
    · rw [Function.update_of_ne same] at inside
      exact guards.inside inside
  asking {other} asking := by
    have different : other ≠ strand := by
      intro same
      rw [same, Function.update_self] at asking
      cases asking
    rw [Function.update_of_ne different] at asking
    exact guards.asking asking
  holder {other} holds := by
    have same : other = strand := Option.some.inj (holds.symm.trans held)
    refine ⟨?_, (guards.holder holds).2⟩
    rw [same, Function.update_self]
    simp
  line {other} member := by
    have different : other ≠ strand := by
      intro same
      exact (guards.holder held).2 (same ▸ member)
    rw [Function.update_of_ne different]
    exact guards.line member
  nodup := guards.nodup
  free := guards.free

/-- The holder goes away, and the first in line holds the gate. -/
theorem leave (guards : gate.Guards role) (held : gate.holder = some strand) :
    gate.release.Guards (Function.update role strand .outside) := by
  have alone : ∀ {other}, Function.update role strand .outside other ≠ .inside := by
    intro other inside
    by_cases same : other = strand
    · rw [same, Function.update_self] at inside
      cases inside
    · rw [Function.update_of_ne same] at inside
      exact same (Option.some.inj ((guards.inside inside).symm.trans held))
  have waits : ∀ {other}, Function.update role strand .outside other = .asking →
      other ∈ gate.line := by
    intro other asking
    by_cases same : other = strand
    · rw [same, Function.update_self] at asking
      cases asking
    · rw [Function.update_of_ne same] at asking
      rcases guards.asking asking with holds | member
      · exact absurd (Option.some.inj (holds.symm.trans held)) same
      · exact member
  have behind : ∀ {other}, other ∈ gate.line →
      Function.update role strand .outside other = .asking := by
    intro other member
    have different : other ≠ strand := by
      intro same
      exact (guards.holder held).2 (same ▸ member)
    rw [Function.update_of_ne different]
    exact guards.line member
  have nodup := guards.nodup
  cases line : gate.line with
  | nil =>
    rw [release_of_nil line]
    rw [line] at waits
    constructor
    · intro other inside
      exact absurd inside alone
    · intro other asking
      exact .inr (waits asking)
    · intro other holds
      cases holds
    · intro other member
      cases member
    · exact List.nodup_nil
    · intro _
      rfl
  | cons first rest =>
    rw [release_of_cons line]
    rw [line] at waits behind nodup
    obtain ⟨fresh, nodup⟩ := List.nodup_cons.mp nodup
    constructor
    · intro other inside
      exact absurd inside alone
    · intro other asking
      rcases List.mem_cons.mp (waits asking) with rfl | member
      · exact .inl rfl
      · exact .inr member
    · intro other holds
      cases holds
      rw [behind List.mem_cons_self]
      exact ⟨by simp, fresh⟩
    · intro other member
      exact behind (List.mem_cons_of_mem _ member)
    · exact nodup
    · intro free
      cases free

/-- Nobody waits at a gate that is free. -/
theorem held (guards : gate.Guards role) (asking : role strand = .asking) :
    ∃ holder, gate.holder = some holder := by
  cases held : gate.holder with
  | some holder => exact ⟨holder, rfl⟩
  | none =>
    rcases guards.asking asking with holds | member
    · rw [held] at holds
      cases holds
    · rw [guards.free held] at member
      cases member

/-! ### The queue -/

theorem mem_queue (guards : gate.Guards role) : strand ∈ gate.queue ↔ role strand ≠ .outside := by
  have either : strand ∈ gate.queue ↔ gate.holder = some strand ∨ strand ∈ gate.line := by
    simp [queue]
  rw [either]
  constructor
  · rintro (holds | member)
    · exact (guards.holder holds).1
    · rw [guards.line member]
      decide
  · intro wants
    cases now : role strand with
    | outside => exact absurd now wants
    | asking => exact guards.asking now
    | inside => exact .inl (guards.inside now)

theorem queue_nodup (guards : gate.Guards role) : gate.queue.Nodup := by
  cases held : gate.holder with
  | none => simpa [queue, held] using guards.nodup
  | some holder =>
    rw [queue_of_held held]
    exact List.nodup_cons.mpr ⟨(guards.holder held).2, guards.nodup⟩

theorem request_queue (guards : gate.Guards role) (strand : StrandId) :
    (gate.request strand).2.queue = gate.queue ++ [strand] := by
  cases held : gate.holder with
  | none =>
    rw [request_of_free held]
    simp [queue, held, guards.free held]
  | some holder =>
    rw [request_of_held held]
    simp [queue, held]

end Guards

end PasteQueue.Gate
