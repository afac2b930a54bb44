import LinkedShapes.Proofs.Shape.Inference
import LinkedShapes.Proofs.Shape.Redaction
import LinkedShapes.Shape.Driver

/-!
# The laws of building shapes

Shapes in normal form are what the functions that build shapes work on: nothing leads out of them,
and on them the connectives are monoids in which repetition does not count.

* `Shape.isNormal_iff`: the normal form can be decided.
* `Shape.normal_constructors`: every function that builds shapes keeps the normal form.
* `Connective.lawful`: the laws of both connectives.
* `Shape.laws_of_normal`: all of it, and that redaction and inference arrive at normal forms
  whatever they start from.
-/

namespace LinkedShapes

open Shape

variable {c : Connective} {s test pass fail : Shape} {xs : List Shape}

/-! ## Deciding the normal form -/

namespace Connective

/-- Does the connective join the shape at its top? -/
def joins : Connective → Shape → Bool
  | .all, .and _ => true
  | .any, .or _ => true
  | _, _ => false

theorem joins_eq_false_iff : c.joins s = false ↔ ∀ inner, s ≠ c.wrap inner := by
  cases c <;> cases s <;> simp [joins, wrap]

theorem flat_iff : c.Flat xs ↔ xs.length ≠ 1 ∧ xs.Nodup ∧ ∀ s ∈ xs, c.joins s = false := by
  simp only [joins_eq_false_iff]
  exact ⟨fun h => ⟨h.several, h.distinct, h.unjoined⟩, fun ⟨h1, h2, h3⟩ => ⟨h1, h2, h3⟩⟩

instance : Decidable (c.Flat xs) := decidable_of_iff' _ flat_iff

end Connective

namespace Shape

mutual

/-- Is nothing in the shape trivially redundant? -/
def isNormal : Shape → Bool
  | .and shapes => decide (Connective.all.Flat shapes) && areNormal shapes
  | .or shapes => decide (Connective.any.Flat shapes) && areNormal shapes
  | .when test pass fail =>
    !test.isEmptyAnd && !test.isEmptyOr && pass != fail &&
      isNormal test && isNormal pass && isNormal fail
  | .field _ _ shape => !shape.isEmptyOr && isNormal shape
  | .link _ shape => isNormal shape
  | _ => true

def areNormal : List Shape → Bool
  | [] => true
  | s :: shapes => isNormal s && areNormal shapes

end

theorem areNormal_iff : areNormal xs = true ↔ ∀ s ∈ xs, isNormal s = true := by
  induction xs with
  | nil => simp [areNormal]
  | cons s xs ih => simp [areNormal, ih]

theorem isNormal_iff : s.isNormal = true ↔ Normal s := by
  induction s using inductJoined with
  | join c shapes ih =>
    have hjoined : (c.wrap shapes).isNormal = (decide (c.Flat shapes) && areNormal shapes) := by
      cases c <;> rfl
    rw [hjoined, Bool.and_eq_true, decide_eq_true_iff, areNormal_iff, normal_wrap]
    exact and_congr_right fun _ => forall₂_congr ih
  | when test pass fail iht ihp ihf =>
    rw [normal_when, isNormal]
    simp [← isEmptyAnd_iff, ← isEmptyOr_iff, iht, ihp, ihf, and_assoc]
  | field edge label s ih =>
    rw [normal_field, isNormal]
    simp [← isEmptyOr_iff, ih]
  | link iri s ih => simp [isNormal, normal_link, ih]
  | leaf s hl =>
    refine iff_of_true ?_ (.leaf hl)
    cases s <;> first | rfl | cases hl

instance : DecidablePred Normal := fun _ => decidable_of_iff _ isNormal_iff

/-! ## Functions that build shapes -/

/-- Every function that builds shapes keeps the property. -/
structure Constructors (P : Shape → Prop) : Prop where
  conj : ∀ shapes, (∀ s ∈ shapes, P s) → P (conj shapes)
  disj : ∀ shapes, (∀ s ∈ shapes, P s) → P (disj shapes)
  cond : ∀ test pass fail, P test → P pass → P fail → P (cond test pass fail)
  implies : ∀ test shapes, P test → (∀ s ∈ shapes, P s) → P (implies test shapes)
  direct : ∀ iri s, P s → P (direct iri s)
  inverse : ∀ iri s, P s → P (inverse iri s)
  labelled : ∀ label iri s, P s → P (labelled label iri s)
  withShape : ∀ (f : Field) s, P s → P (f.withShape s)
  link : ∀ iri s, P s → P (.link iri s)
  filtered : ∀ s filter, P s → P filter → P (s.filtered filter)
  leaf : ∀ s : Shape, s.isLeaf = true → P s

theorem normal_implies (ht : Normal test) (h : ∀ s ∈ xs, Normal s) : Normal (implies test xs) :=
  normal_cond ht (normal_build (c := .all) h) (normal_nothing (c := .all))

theorem normal_filtered {filter : Shape} (hs : Normal s) (hf : Normal filter) :
    Normal (s.filtered filter) := by
  unfold filtered
  split
  · exact hs
  · have himplied : Normal (implies filterMode [filter]) :=
      normal_implies (.leaf rfl) (List.forall_mem_singleton.2 hf)
    refine normal_build (c := .all) fun x hx => ?_
    obtain rfl | rfl : x = s ∨ x = implies filterMode [filter] := by simpa using hx
    · exact hs
    · exact himplied

theorem normal_constructors : Constructors Normal where
  conj _ := normal_build (c := .all)
  disj _ := normal_build (c := .any)
  cond _ _ _ := normal_cond
  implies _ _ := normal_implies
  direct _ _ := normal_along
  inverse _ _ := normal_along
  labelled _ _ _ := normal_along
  withShape _ _ := normal_along
  link _ _ := .link
  filtered _ _ := normal_filtered
  leaf _ := .leaf

end Shape

/-! ## The laws of connectives -/

/-- A connective is a monoid on shapes in normal form, and repetition does not count. -/
structure Connective.Laws (c : Connective) : Prop where
  assoc : ∀ x y z, Normal x → Normal y → Normal z →
    c.build [c.build [x, y], z] = c.build [x, c.build [y, z]]
  /-- What is joined within may be joined along with the rest. -/
  flatten : ∀ xs ys zs, (∀ y ∈ ys, Normal y) →
    c.build (xs ++ c.build ys :: zs) = c.build (xs ++ (ys ++ zs))
  idem : ∀ x, Normal x → c.build [x, x] = x
  nothing_left : ∀ x, Normal x → c.build [c.build [], x] = x
  nothing_right : ∀ x, Normal x → c.build [x, c.build []] = x
  singleton : ∀ x, Normal x → c.build [x] = x
  /-- A connective is what is built of its branches. -/
  rebuild : ∀ xs, Normal (c.wrap xs) → c.build xs = c.wrap xs

theorem Connective.build_nil : c.build [] = c.wrap [] := by
  cases c <;> rfl

theorem Connective.lawful (c : Connective) : c.Laws where
  assoc _ _ _ := build_assoc
  flatten xs _ zs := build_append_build xs zs
  idem _ := build_self
  nothing_left _ h := by rw [build_nil, build_nothing_left h]
  nothing_right _ h := by rw [build_nil, build_nothing_right h]
  singleton _ := build_singleton
  rebuild _ h := build_of_flat (normal_wrap.1 h).1

namespace Shape

theorem cond_of_normal (h : Normal (.when test pass fail)) :
    cond test pass fail = .when test pass fail := by
  obtain ⟨⟨htest, hnot, hne⟩, -⟩ := normal_when.1 h
  obtain ⟨hsettled | hsame, -⟩ | ⟨hnothing, -⟩ | ⟨-, heq⟩ := cond_cases test pass fail
  · exact absurd hsettled htest
  · exact absurd hsame hne
  · exact absurd hnothing hnot
  · exact heq

theorem along_of_normal {edge : Edge} {label : Option String}
    (h : Normal (.field edge label s)) : along edge label s = .field edge label s := by
  obtain ⟨hne, -⟩ := normal_field.1 h
  obtain ⟨hnothing, -⟩ | ⟨-, heq⟩ := along_cases edge label s
  · exact absurd hnothing hne
  · exact heq

/--
Shapes stay in normal form: the functions that build shapes keep it, redaction and inference
arrive at it whatever they start from, and what is in normal form is what is built of its parts.
On normal forms the connectives obey the laws of monoids.
-/
theorem laws_of_normal : Constructors Normal ∧
    (∀ context (s : Shape), Normal (redact context s)) ∧ (∀ s : Shape, Normal s.expand) ∧
    (∀ s : Shape, Normal s.drive) ∧ (∀ c : Connective, c.Laws) ∧
    (∀ test pass fail, Normal (.when test pass fail) →
      cond test pass fail = .when test pass fail) ∧
    ∀ edge label s, Normal (.field edge label s) → along edge label s = .field edge label s :=
  ⟨normal_constructors, normal_redact, normal_expand, fun _ => normal_expand _,
    Connective.lawful, fun _ _ _ => cond_of_normal, fun _ _ _ => along_of_normal⟩

/-- A field, alternatives that mention it, and a disjunction of the two kinds of counts. -/
theorem laws_of_alternatives :
    let field := direct "http://example.org/name" required
    let alternatives := cond (guardOf .role ["editor"]) field optional
    let counts := disj [optional, repeatable]
    Normal (alternatives.filtered counts) ∧
      conj [conj [field, alternatives], counts] = conj [field, conj [alternatives, counts]] ∧
      disj [counts, counts] = counts ∧ conj [conj [], counts] = counts := by
  intro field alternatives counts
  have hfield : Normal field := by decide
  have halternatives : Normal alternatives := by decide +kernel
  have hcounts : Normal counts := by decide
  obtain ⟨hconstructors, -, -, -, hlaws, -⟩ := laws_of_normal
  exact ⟨hconstructors.filtered _ _ halternatives hcounts,
    (hlaws .all).assoc _ _ _ hfield halternatives hcounts, (hlaws .any).idem _ hcounts,
    (hlaws .all).nothing_left _ hcounts⟩

end Shape

end LinkedShapes
