import LinkedShapes.Proofs.Shape.Inference
import LinkedShapes.Proofs.Shape.Redaction
import LinkedShapes.Shape.Driver

/-!
# Drivers have no guards

The context of descriptions has a rule for every axis, so redaction leaves no guard. Expansion
builds the redacted shape anew with implied constraints beside those that imply them, and no guard
is among these.

* `Shape.checkRedacted_ok_iff`: the check passes exactly the shapes without guards.
* `Shape.rule_eq_none_of_mem_redact`: a guard that redaction leaves is on an axis without a rule.
* `Shape.guard_of_mem_expand`: expansion adds no guards.
* `Shape.guard_not_mem_drive`: a driver has none.
-/

namespace LinkedShapes

variable {s test pass fail : Shape} {xs : List Shape} {edge : Edge} {label : Option String}
variable {c : GuardContext} {g : Guard}

namespace GuardContext

/-- A context answers the guards on the axes that it has a rule for. -/
theorem answer_eq_none_iff : c.answer g = none ↔ c.rule g.axis = none := by
  unfold answer
  exact Option.map_eq_none_iff

theorem conveying_covers (axis : Axis) : conveying.rule axis ≠ none := by
  cases axis <;> exact nofun

end GuardContext

namespace Shape

/-! ## The check -/

theorem firstGuard?_of_isLeaf (hl : s.isLeaf = true) (hg : ∀ g, s ≠ .guard g) :
    s.firstGuard? = none := by
  cases s with
  | guard g => exact absurd rfl (hg g)
  | and _ | or _ | when _ _ _ | field _ _ _ | link _ _ => cases hl
  | _ => rfl

/-- No guard is found in the shapes that have none. -/
theorem firstGuard?_eq_none_iff : s.firstGuard? = none ↔ ∀ g, .guard g ∉ s.within := by
  have hall : ∀ shapes : List Shape,
      (∀ s ∈ shapes, (s.firstGuard? = none ↔ ∀ g, .guard g ∉ s.within)) →
      (firstGuardOfAll? shapes = none ↔ ∀ g, .guard g ∉ withinAll shapes) := by
    intro shapes ih
    induction shapes with
    | nil => exact iff_of_true rfl fun _ => List.not_mem_nil
    | cons s shapes ihs =>
      obtain ⟨hs, hshapes⟩ := List.forall_mem_cons.1 ih
      rw [firstGuardOfAll?, Option.or_eq_none_iff, hs, ihs hshapes]
      simp only [withinAll, List.mem_append, not_or, forall_and]
  induction s using Shape.induct with
  | and shapes ih =>
    rw [firstGuard?, hall shapes ih]
    simp [within]
  | or shapes ih =>
    rw [firstGuard?, hall shapes ih]
    simp [within]
  | when test pass fail iht ihp ihf =>
    have hparts := Option.or_eq_none_iff.trans
      (and_congr (Option.or_eq_none_iff.trans (and_congr iht ihp)) ihf)
    refine hparts.trans ?_
    simp only [mem_within_when, reduceCtorEq, false_or, not_or, forall_and, and_assoc]
  | field edge label s ih =>
    exact ih.trans (by simp [mem_within_field])
  | link iri s ih =>
    exact ih.trans (by simp [mem_within_link])
  | leaf s hl =>
    rw [within_of_isLeaf hl]
    by_cases hg : ∃ g, s = .guard g
    · obtain ⟨g, rfl⟩ := hg
      simp [firstGuard?]
    · have hne := not_exists.1 hg
      rw [firstGuard?_of_isLeaf hl hne]
      exact iff_of_true rfl fun g h => hne g (List.mem_singleton.1 h).symm

/-- The check passes exactly the shapes without guards. -/
theorem checkRedacted_ok_iff : s.checkRedacted = .ok () ↔ ∀ g, .guard g ∉ s.within := by
  rw [← firstGuard?_eq_none_iff]
  unfold checkRedacted
  cases s.firstGuard? <;> simp

/-! ## Redaction -/

/-- A guard that redaction leaves stands in the shape, on an axis that the context has no rule
for. -/
theorem rule_eq_none_of_mem_redact (h : .guard g ∈ (redact c s).within) :
    .guard g ∈ s.within ∧ c.rule g.axis = none :=
  (guard_of_mem_redact h).imp_right GuardContext.answer_eq_none_iff.1

/-- No guard is left when a shape is redacted for conveying. -/
theorem guard_not_mem_conveyed (g : Guard) : .guard g ∉ (redact .conveying s).within :=
  fun h => GuardContext.conveying_covers g.axis (rule_eq_none_of_mem_redact h).2

/-! ## Expansion -/

/-- The constraints that a shape without parts implies are no guards. -/
theorem guard_of_mem_expand_leaf (hl : s.isLeaf = true) (h : .guard g ∈ (expand s).within) :
    s = .guard g := by
  rw [expand_eq_conj hl] at h
  obtain ⟨x, hx, hmem⟩ := mem_within_build (c := .all) rfl h
  rcases List.mem_cons.1 hx with rfl | hx
  · rw [within_of_isLeaf hl] at hmem
    exact (List.mem_singleton.1 hmem).symm
  · rw [within_of_isLeaf (isLeaf_of_mem_implied hx)] at hmem
    have hguard := List.mem_singleton.1 hmem
    rcases implied_cases hx with ⟨_, rfl⟩ | ⟨_, rfl⟩ | ⟨_, rfl⟩ | rfl <;> cases hguard

theorem guard_of_mem_withResource (h : .guard g ∈ (withResource edge s).within) :
    .guard g ∈ s.within := by
  unfold withResource at h
  split at h
  · obtain ⟨x, hx, hmem⟩ := mem_within_build (c := .all) rfl h
    rcases List.mem_pair.1 hx with rfl | rfl
    · exact hmem
    · simp [within] at hmem
  · exact h

/-- Expansion adds no guards. -/
theorem guard_of_mem_expand (h : .guard g ∈ (expand s).within) : .guard g ∈ s.within := by
  induction s using inductJoined with
  | join k shapes ih =>
    rw [expand_wrap] at h
    obtain ⟨e, he, h⟩ := mem_within_build rfl h
    obtain ⟨s, hs, rfl⟩ := List.mem_map.1 he
    exact mem_within_wrap.2 (Or.inr ⟨s, hs, ih s hs h⟩)
  | when test pass fail iht ihp ihf =>
    exact mem_within_when.2 (Or.inr ((mem_within_cond rfl h).imp iht (Or.imp ihp ihf)))
  | field edge label s ih =>
    exact mem_within_field.2 (Or.inr (ih (guard_of_mem_withResource (mem_within_along rfl h))))
  | link iri s ih =>
    exact mem_within_link.2 (Or.inr (ih ((mem_within_link.1 h).resolve_left (by simp))))
  | leaf s hl =>
    rw [guard_of_mem_expand_leaf hl h]
    exact self_mem_within _

/-! ## Drivers -/

/-- A driver has no guards. -/
theorem guard_not_mem_drive (g : Guard) : .guard g ∉ s.drive.within :=
  fun h => guard_not_mem_conveyed g (guard_of_mem_expand h)

theorem checkRedacted_drive (s : Shape) : s.drive.checkRedacted = .ok () :=
  checkRedacted_ok_iff.2 guard_not_mem_drive

end Shape

end LinkedShapes
