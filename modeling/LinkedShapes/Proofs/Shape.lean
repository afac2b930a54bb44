import LinkedShapes.Description.Encoding

/-!
# Shapes and their fields

* `Shape.induct`: induction over the shapes that have parts, with one case for all that have none.
* `Shape.mem_fields_conj`: the fields of a conjunction are those of its parts.
* `Shape.depth_le_iff`: the depth of a shape is known from its fields.
* `Shape.parts`: what stands at one level of a shape, `Shape.demanded`: what all values must meet.
* `Shape.within`: what stands anywhere in a shape.
-/

namespace LinkedShapes.Shape

variable {shape : Shape} {shapes : List Shape} {f : Field}

/-- Does a shape have no parts? -/
def isLeaf : Shape → Bool
  | .and _ | .or _ | .when .. | .field .. | .link .. => false
  | _ => true

section Induct

variable {P : Shape → Prop}

/-- Induction over shapes, with one case for all shapes that have no parts. -/
@[elab_as_elim]
theorem induct (and : ∀ shapes, (∀ s ∈ shapes, P s) → P (.and shapes))
    (or : ∀ shapes, (∀ s ∈ shapes, P s) → P (.or shapes))
    (when : ∀ test pass fail, P test → P pass → P fail → P (.when test pass fail))
    (field : ∀ edge label s, P s → P (.field edge label s))
    (link : ∀ iri s, P s → P (.link iri s)) (leaf : ∀ s, s.isLeaf = true → P s) (shape : Shape) :
    P shape := by
  refine @Shape.rec P (fun shapes => ∀ s ∈ shapes, P s) and or when field link
    ?_ ?_ ?_ ?_ ?_ ?_ ?_ ?_ ?_ ?_ ?_ ?_ ?_ ?_ ?_ ?_ ?_ ?_ ?_ ?_ ?_ ?_ shape
  case refine_21 => exact fun s hs => absurd hs List.not_mem_nil
  case refine_22 => exact fun s shapes hs hall => List.forall_mem_cons.2 ⟨hs, hall⟩
  all_goals intros; exact leaf _ rfl

end Induct

/-! ## Fields -/

theorem fields_of_isLeaf (h : shape.isLeaf = true) : shape.fields = [] := by
  cases shape <;> first | rfl | cases h

theorem mem_fieldsOfAll : f ∈ fieldsOfAll shapes ↔ ∃ s ∈ shapes, f ∈ s.fields := by
  induction shapes with
  | nil => simp [fieldsOfAll]
  | cons s shapes ih =>
    rw [fieldsOfAll, List.mem_append, ih]
    simp only [List.mem_cons, exists_eq_or_imp]

/-- What a probe finds in a conjunction is what it finds in its parts. -/
theorem mem_probe_conj {α : Type} {probe : Shape → List α} {x : α}
    (hand : ∀ shapes, x ∈ probe (.and shapes) ↔ ∃ s ∈ shapes, x ∈ probe s) :
    x ∈ probe (conj shapes) ↔ ∃ s ∈ shapes, x ∈ probe s := by
  have hof : ∀ cs : List Shape, x ∈ probe (andOf cs) ↔ ∃ c ∈ cs, x ∈ probe c := by
    intro cs
    unfold andOf
    split
    · simp
    · exact hand _
  have hconjuncts : ∀ s : Shape, (∃ c ∈ conjuncts s, x ∈ probe c) ↔ x ∈ probe s := by
    intro s
    cases s with
    | and shapes => exact (hand shapes).symm
    | _ => simp [conjuncts]
  unfold conj
  rw [hof]
  constructor
  · rintro ⟨c, hc, hx⟩
    obtain ⟨s, hs, hcs⟩ := List.mem_flatMap.1 (List.mem_eraseDups.1 hc)
    exact ⟨s, hs, (hconjuncts s).1 ⟨c, hcs, hx⟩⟩
  · rintro ⟨s, hs, hx⟩
    obtain ⟨c, hc, hx⟩ := (hconjuncts s).2 hx
    exact ⟨c, List.mem_eraseDups.2 (List.mem_flatMap.2 ⟨s, hs, hc⟩), hx⟩

/-- The fields of a conjunction are those of its parts. -/
theorem mem_fields_conj : f ∈ (conj shapes).fields ↔ ∃ s ∈ shapes, f ∈ s.fields :=
  mem_probe_conj fun _ => mem_fieldsOfAll

/-! ## Parts of a level -/

mutual

/-- The fields and the shapes without parts that stand at the level of a shape, tests included. -/
def parts : Shape → List Shape
  | .and shapes => partsOfAll shapes
  | .or shapes => partsOfAll shapes
  | .when test pass fail => parts test ++ parts pass ++ parts fail
  | .link _ shape => parts shape
  | s => [s]

def partsOfAll : List Shape → List Shape
  | [] => []
  | s :: shapes => parts s ++ partsOfAll shapes

end

mutual

/-- The parts of a level that hold whatever else does: no alternatives and no conditionals. -/
def demanded : Shape → List Shape
  | .and shapes => demandedOfAll shapes
  | .or _ => []
  | .when .. => []
  | .link _ shape => demanded shape
  | s => [s]

def demandedOfAll : List Shape → List Shape
  | [] => []
  | s :: shapes => demanded s ++ demandedOfAll shapes

end

/-- Does a level have fields? -/
def HasFields (shape : Shape) : Prop := ∃ edge label inner, .field edge label inner ∈ shape.parts

theorem parts_of_isLeaf (h : shape.isLeaf = true) : shape.parts = [shape] := by
  cases shape <;> first | rfl | cases h

theorem demanded_of_isLeaf (h : shape.isLeaf = true) : shape.demanded = [shape] := by
  cases shape <;> first | rfl | cases h

theorem mem_partsOfAll {part : Shape} :
    part ∈ partsOfAll shapes ↔ ∃ s ∈ shapes, part ∈ s.parts := by
  induction shapes with
  | nil => simp [partsOfAll]
  | cons s shapes ih =>
    rw [partsOfAll, List.mem_append, ih]
    simp only [List.mem_cons, exists_eq_or_imp]

theorem mem_demandedOfAll {part : Shape} :
    part ∈ demandedOfAll shapes ↔ ∃ s ∈ shapes, part ∈ s.demanded := by
  induction shapes with
  | nil => simp [demandedOfAll]
  | cons s shapes ih =>
    rw [demandedOfAll, List.mem_append, ih]
    simp only [List.mem_cons, exists_eq_or_imp]

theorem demanded_subset_parts : shape.demanded ⊆ shape.parts := by
  intro part hpart
  induction shape using induct with
  | and shapes ih =>
    obtain ⟨s, hs, hpart⟩ := mem_demandedOfAll.1 hpart
    exact mem_partsOfAll.2 ⟨s, hs, ih s hs hpart⟩
  | or shapes ih => exact absurd hpart List.not_mem_nil
  | when test pass fail => exact absurd hpart List.not_mem_nil
  | field edge label s => exact hpart
  | link iri s ih => exact ih hpart
  | leaf s hs =>
    rw [demanded_of_isLeaf hs] at hpart
    rw [parts_of_isLeaf hs]
    exact hpart

theorem mem_fields_of_demanded {edge : Edge} {label : Option String} {inner : Shape}
    (h : .field edge label inner ∈ shape.demanded) : ⟨edge, label, inner⟩ ∈ shape.fields := by
  induction shape using induct with
  | and shapes ih =>
    obtain ⟨s, hs, h⟩ := mem_demandedOfAll.1 h
    exact mem_fieldsOfAll.2 ⟨s, hs, ih s hs h⟩
  | or _ _ | when _ _ _ _ _ _ => exact absurd h List.not_mem_nil
  | field edge label s _ =>
    cases List.mem_singleton.1 h
    exact List.mem_singleton_self _
  | link iri s ih => exact ih h
  | leaf s hs =>
    rw [demanded_of_isLeaf hs] at h
    rw [← List.mem_singleton.1 h] at hs
    cases hs

/-! ## What stands anywhere in a shape -/

mutual

/-- All shapes that a shape is made of, itself included, at all levels. -/
def within : Shape → List Shape
  | .and shapes => .and shapes :: withinAll shapes
  | .or shapes => .or shapes :: withinAll shapes
  | .when test pass fail => .when test pass fail :: (within test ++ within pass ++ within fail)
  | .field edge label shape => .field edge label shape :: within shape
  | .link iri shape => .link iri shape :: within shape
  | s => [s]

def withinAll : List Shape → List Shape
  | [] => []
  | s :: shapes => within s ++ withinAll shapes

end

theorem within_of_isLeaf (h : shape.isLeaf = true) : shape.within = [shape] := by
  cases shape <;> first | rfl | cases h

theorem mem_withinAll {part : Shape} :
    part ∈ withinAll shapes ↔ ∃ s ∈ shapes, part ∈ s.within := by
  induction shapes with
  | nil => simp [withinAll]
  | cons s shapes ih =>
    rw [withinAll, List.mem_append, ih]
    simp only [List.mem_cons, exists_eq_or_imp]

theorem self_mem_within (shape : Shape) : shape ∈ shape.within := by
  cases shape <;> exact List.mem_cons_self

section Within

variable {part test pass fail : Shape}

theorem mem_within_when : part ∈ (Shape.when test pass fail).within ↔
    part = .when test pass fail ∨ part ∈ test.within ∨ part ∈ pass.within ∨
      part ∈ fail.within := by
  simp [within]

theorem mem_within_field {edge : Edge} {label : Option String} :
    part ∈ (Shape.field edge label shape).within ↔
      part = .field edge label shape ∨ part ∈ shape.within :=
  List.mem_cons

theorem mem_within_link {iri : String} :
    part ∈ (Shape.link iri shape).within ↔ part = .link iri shape ∨ part ∈ shape.within :=
  List.mem_cons

end Within

/-- A shape that stands at the level of another one: what is part of it is part of the other. -/
structure OfLevel (inner shape : Shape) : Prop where
  within : inner.within ⊆ shape.within
  parts : inner.parts ⊆ shape.parts

theorem ofLevel_and (h : shape ∈ shapes) : OfLevel shape (.and shapes) where
  within := fun _ hp => List.mem_cons_of_mem _ (mem_withinAll.2 ⟨shape, h, hp⟩)
  parts := fun _ hp => mem_partsOfAll.2 ⟨shape, h, hp⟩

theorem ofLevel_or (h : shape ∈ shapes) : OfLevel shape (.or shapes) where
  within := fun _ hp => List.mem_cons_of_mem _ (mem_withinAll.2 ⟨shape, h, hp⟩)
  parts := fun _ hp => mem_partsOfAll.2 ⟨shape, h, hp⟩

theorem ofLevel_link {iri : String} : OfLevel shape (.link iri shape) where
  within := List.subset_cons_self _ _
  parts := List.Subset.refl _

theorem ofLevel_when (test pass fail : Shape) : OfLevel test (.when test pass fail) ∧
    OfLevel pass (.when test pass fail) ∧ OfLevel fail (.when test pass fail) := by
  refine ⟨⟨fun x hx => ?_, fun x hx => ?_⟩, ⟨fun x hx => ?_, fun x hx => ?_⟩,
    ⟨fun x hx => ?_, fun x hx => ?_⟩⟩ <;>
  simp [within, parts, hx]

/-- What stands in a shape that stands in another one stands in that. -/
theorem within_subset_of_mem {inner : Shape} (h : inner ∈ shape.within) :
    inner.within ⊆ shape.within := by
  induction shape using induct with
  | and shapes ih =>
    rcases List.mem_cons.1 h with rfl | h
    · exact List.Subset.refl _
    · obtain ⟨s, hs, h⟩ := mem_withinAll.1 h
      exact List.Subset.trans (ih s hs h) (ofLevel_and hs).within
  | or shapes ih =>
    rcases List.mem_cons.1 h with rfl | h
    · exact List.Subset.refl _
    · obtain ⟨s, hs, h⟩ := mem_withinAll.1 h
      exact List.Subset.trans (ih s hs h) (ofLevel_or hs).within
  | when test pass fail iht ihp ihf =>
    obtain ⟨ht, hp, hf⟩ := ofLevel_when test pass fail
    rcases mem_within_when.1 h with rfl | h | h | h
    · exact List.Subset.refl _
    · exact List.Subset.trans (iht h) ht.within
    · exact List.Subset.trans (ihp h) hp.within
    · exact List.Subset.trans (ihf h) hf.within
  | field edge label s ih =>
    rcases mem_within_field.1 h with rfl | h
    · exact List.Subset.refl _
    · exact List.Subset.trans (ih h) (List.subset_cons_self _ _)
  | link iri s ih =>
    rcases mem_within_link.1 h with rfl | h
    · exact List.Subset.refl _
    · exact List.Subset.trans (ih h) (List.subset_cons_self _ _)
  | leaf s hs =>
    rw [within_of_isLeaf hs] at h
    rw [List.mem_singleton.1 h]
    exact List.Subset.refl _

theorem parts_subset_within : shape.parts ⊆ shape.within := by
  intro part hpart
  have hall : ∀ shapes : List Shape, (∀ s ∈ shapes, part ∈ s.parts → part ∈ s.within) →
      part ∈ partsOfAll shapes → part ∈ withinAll shapes := by
    intro shapes ih h
    obtain ⟨s, hs, h⟩ := mem_partsOfAll.1 h
    exact mem_withinAll.2 ⟨s, hs, ih s hs h⟩
  induction shape using induct with
  | and shapes ih => exact List.mem_cons_of_mem _ (hall shapes ih hpart)
  | or shapes ih => exact List.mem_cons_of_mem _ (hall shapes ih hpart)
  | when test pass fail iht ihp ihf =>
    simp only [parts, List.mem_append, or_assoc] at hpart
    exact mem_within_when.2 (Or.inr (hpart.imp iht (Or.imp ihp ihf)))
  | field edge label s _ =>
    rw [List.mem_singleton.1 hpart]
    exact self_mem_within _
  | link iri s ih => exact List.mem_cons_of_mem _ (ih hpart)
  | leaf s hs =>
    rw [parts_of_isLeaf hs] at hpart
    rw [within_of_isLeaf hs]
    exact hpart

/-! ## Tests without fields -/

/-- No test of a conditional looks at fields, at any level. -/
def FieldlessTests (shape : Shape) : Prop :=
  ∀ test pass fail, .when test pass fail ∈ shape.within →
    ∀ edge label inner, .field edge label inner ∉ test.within

theorem FieldlessTests.mono {inner : Shape} (h : FieldlessTests shape)
    (hsub : inner.within ⊆ shape.within) : FieldlessTests inner :=
  fun t p f hw => h t p f (hsub hw)

/-- Where tests have no fields, the fields of a level are those of its table. -/
theorem FieldlessTests.mem_fields {edge : Edge} {label : Option String} {inner : Shape}
    (h : FieldlessTests shape) (hpart : .field edge label inner ∈ shape.parts) :
    ⟨edge, label, inner⟩ ∈ shape.fields := by
  induction shape using induct with
  | and shapes ih =>
    obtain ⟨s, hs, hpart⟩ := mem_partsOfAll.1 hpart
    exact mem_fieldsOfAll.2 ⟨s, hs, ih s hs (h.mono (ofLevel_and hs).within) hpart⟩
  | or shapes ih =>
    obtain ⟨s, hs, hpart⟩ := mem_partsOfAll.1 hpart
    exact mem_fieldsOfAll.2 ⟨s, hs, ih s hs (h.mono (ofLevel_or hs).within) hpart⟩
  | when test pass fail _ ihp ihf =>
    obtain ⟨-, hp, hf⟩ := ofLevel_when test pass fail
    simp only [parts, List.mem_append] at hpart
    rcases hpart with (ht | hpart) | hpart
    · exact absurd (parts_subset_within ht) (h _ _ _ (self_mem_within _) _ _ _)
    · exact List.mem_append_left _ (ihp (h.mono hp.within) hpart)
    · exact List.mem_append_right _ (ihf (h.mono hf.within) hpart)
  | field edge label s _ =>
    cases List.mem_singleton.1 hpart
    exact List.mem_singleton_self _
  | link iri s ih => exact ih (h.mono ofLevel_link.within) hpart
  | leaf s hs =>
    rw [parts_of_isLeaf hs] at hpart
    rw [← List.mem_singleton.1 hpart] at hs
    cases hs

/-! ## Depth -/

theorem depthOfAll_le_iff {n : Nat} : depthOfAll shapes ≤ n ↔ ∀ s ∈ shapes, s.depth ≤ n := by
  induction shapes with
  | nil => simp [depthOfAll]
  | cons s shapes ih =>
    show max (depth s) (depthOfAll shapes) ≤ n ↔ _
    rw [Nat.max_le, ih, List.forall_mem_cons]

/-- A shape is as deep as its fields are. -/
theorem depth_le_iff {n : Nat} : shape.depth ≤ n ↔ ∀ f ∈ shape.fields, f.shape.depth + 1 ≤ n := by
  have hall : ∀ shapes : List Shape,
      (∀ s ∈ shapes, (s.depth ≤ n ↔ ∀ f ∈ s.fields, f.shape.depth + 1 ≤ n)) →
        (depthOfAll shapes ≤ n ↔ ∀ f ∈ fieldsOfAll shapes, f.shape.depth + 1 ≤ n) := by
    intro shapes ih
    rw [depthOfAll_le_iff]
    constructor
    · intro h f hf
      obtain ⟨s, hs, hf⟩ := mem_fieldsOfAll.1 hf
      exact (ih s hs).1 (h s hs) f hf
    · exact fun h s hs => (ih s hs).2 fun f hf => h f (mem_fieldsOfAll.2 ⟨s, hs, hf⟩)
  induction shape using induct with
  | and shapes ih => exact hall shapes ih
  | or shapes ih => exact hall shapes ih
  | when test pass fail _ ihp ihf =>
    show max (depth pass) (depth fail) ≤ n ↔ ∀ f ∈ fields pass ++ fields fail, _
    exact Nat.max_le.trans ((and_congr ihp ihf).trans List.forall_mem_append.symm)
  | field edge label s _ => simp [depth, fields]
  | link iri s ih => exact ih
  | leaf s hs =>
    have hd : s.depth = 0 := by cases s <;> first | rfl | cases hs
    rw [fields_of_isLeaf hs, hd]
    exact ⟨fun _ f hf => absurd hf List.not_mem_nil, fun _ => Nat.zero_le n⟩

theorem depth_lt_of_mem_fields (h : f ∈ shape.fields) : f.shape.depth < shape.depth :=
  depth_le_iff.1 (Nat.le_refl shape.depth) f h

end LinkedShapes.Shape
