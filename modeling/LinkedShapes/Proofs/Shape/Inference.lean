import LinkedShapes.Proofs.Shape.Normal
import LinkedShapes.Shape.Inference

/-!
# Inference and normal form

Expansion builds a shape anew, with implied constraints beside those that imply them.

* `Shape.expand_eq_conj`: a shape without parts stays in its place, and what it implies joins it.
* `Shape.normal_expand`: an expanded shape is in normal form.
* `Shape.eq_nothing_of_expand`: of the shapes in normal form, only those that always hold or never
  do are expanded to such.
* `Shape.expand_when_cases`, `Shape.expand_field`: so conditionals stay, unless their branches
  become equal, and fields are kept.
* `Shape.eraseDups_fields_expand`: the fields of a level are expanded in their places, and nothing
  but repetitions is lost.
-/

namespace LinkedShapes

variable {s test pass fail : Shape} {xs : List Shape} {edge : Edge} {k c : Connective}

/-- The field with its shape expanded, and resources made explicit. -/
def Field.expanded (f : Field) : Field :=
  ⟨f.edge, f.label, Shape.withResource f.edge f.shape.expand⟩

namespace Connective

/-- The branch that the empty shape of a connective contributes, if any, is that shape. -/
theorem eq_of_mem_branches_nothing (h : s ∈ c.branches (k.wrap [])) : s = k.wrap [] := by
  cases c <;> cases k <;> first | exact absurd h List.not_mem_nil | exact List.mem_singleton.1 h

/-- Several branches cannot be distinct and all the same. -/
theorem Flat.eq_nil (h : c.Flat xs) (hall : ∀ x ∈ xs, x = s) : xs = [] := by
  match xs, h, hall with
  | [], _, _ => rfl
  | [_], h, _ => exact absurd rfl h.several
  | x :: y :: _, h, hall =>
    have hxy : x = y := (hall x List.mem_cons_self).trans
      (hall y (List.mem_cons_of_mem _ List.mem_cons_self)).symm
    exact absurd (hxy ▸ List.mem_cons_self) (List.nodup_cons.1 h.distinct).1

/-- What is joined to the empty shape of a connective is empty, too. -/
theorem eq_nothing_of_build (hx : ∀ x ∈ xs, Shape.Normal x) (h : c.build xs = k.wrap []) :
    ∀ x ∈ xs, x = c.wrap [] ∨ x = k.wrap [] := by
  intro x hm
  have hbranch : ∀ b ∈ c.branches x, b = k.wrap [] := by
    intro b hb
    refine eq_of_mem_branches_nothing (c := c) ?_
    rw [← h, mem_branches_build hx]
    exact ⟨x, hm, hb⟩
  by_cases hjoined : ∃ inner, x = c.wrap inner
  · obtain ⟨inner, rfl⟩ := hjoined
    rw [branches_wrap] at hbranch
    rw [(Shape.normal_wrap.1 (hx _ hm)).1.eq_nil hbranch]
    exact Or.inl rfl
  · rw [branches_of_ne (not_exists.1 hjoined)] at hbranch
    exact Or.inr (hbranch x (List.mem_singleton_self _))

end Connective

namespace Shape

open Vocabulary

theorem expandAll_eq_map (shapes : List Shape) : expandAll shapes = shapes.map expand := by
  induction shapes with
  | nil => rfl
  | cons s shapes ih => rw [expandAll, ih, List.map_cons]

theorem expand_wrap : expand (c.wrap xs) = c.build (xs.map expand) := by
  cases c <;> rw [← expandAll_eq_map] <;> rfl

/-- The two booleans. -/
def booleans : Shape := rangeOf [.term (.boolean false), .term (.boolean true)]

/-- The constraints that a shape without parts implies. -/
def implied : Shape → List Shape
  | .datatype iri => if iri = Xsd.boolean then [.maxCount 1, booleans] else []
  | .clazz _ => [.datatype Abstract.resource]
  | .range values => .maxCount values.size :: ((sharedType? values).map Shape.datatype).toList
  | .all values => [.minCount values.size]
  | .any _ => [.minCount 1]
  | .lang _ | .localized => [.datatype Rdf.langString]
  | _ => []

/-- What is implied is a datatype, a number of values or a choice between the booleans. -/
theorem implied_cases {x : Shape} (h : x ∈ s.implied) : (∃ iri, x = .datatype iri) ∨
    (∃ limit, x = .minCount limit) ∨ (∃ limit, x = .maxCount limit) ∨ x = booleans := by
  cases s with
  | datatype iri =>
    by_cases hb : iri = Xsd.boolean
    · rw [implied, if_pos hb] at h
      rcases List.mem_pair.1 h with rfl | rfl
      · exact Or.inr (Or.inr (Or.inl ⟨1, rfl⟩))
      · exact Or.inr (Or.inr (Or.inr rfl))
    · rw [implied, if_neg hb] at h
      exact absurd h List.not_mem_nil
  | range values =>
    rcases List.mem_cons.1 h with rfl | h
    · exact Or.inr (Or.inr (Or.inl ⟨_, rfl⟩))
    · obtain ⟨iri, -, rfl⟩ := Option.map_eq_some_iff.1 (Option.mem_toList.1 h)
      exact Or.inl ⟨iri, rfl⟩
  | clazz _ | lang _ | localized => exact Or.inl ⟨_, List.mem_singleton.1 h⟩
  | all _ | any _ => exact Or.inr (Or.inl ⟨_, List.mem_singleton.1 h⟩)
  | _ => exact absurd h List.not_mem_nil

theorem isLeaf_of_mem_implied {x : Shape} (h : x ∈ s.implied) : x.isLeaf = true := by
  rcases implied_cases h with ⟨_, rfl⟩ | ⟨_, rfl⟩ | ⟨_, rfl⟩ | rfl <;> rfl

theorem isLeaf_with_implied (h : s.isLeaf = true) : ∀ x ∈ s :: s.implied, x.isLeaf = true :=
  List.forall_mem_cons.2 ⟨h, fun _ => isLeaf_of_mem_implied⟩

theorem normal_with_implied (h : s.isLeaf = true) : ∀ x ∈ s :: s.implied, Normal x :=
  fun x hx => .leaf (isLeaf_with_implied h x hx)

theorem normal_with_resource (h : Normal s) : ∀ x ∈ [s, .datatype Abstract.resource], Normal x :=
  List.forall_mem_cons.2 ⟨h, List.forall_mem_singleton.2 (.leaf rfl)⟩

/-- A shape without parts is expanded to the conjunction with what it implies. -/
theorem expand_eq_conj (h : s.isLeaf = true) : expand s = conj (s :: s.implied) := by
  have hself : conj [s] = s := Connective.build_singleton (c := .all) (.leaf h)
  cases s with
  | datatype iri =>
    by_cases hb : iri = Xsd.boolean
    · rw [expand, implied, if_pos hb, if_pos hb]
      rfl
    · rw [expand, implied, if_neg hb, if_neg hb, hself]
  | and _ | or _ | when _ _ _ | field _ _ _ | link _ _ => cases h
  | range _ | clazz _ | all _ | any _ | lang _ | localized => rfl
  | _ => exact hself.symm

theorem normal_withResource (h : Normal s) : Normal (withResource edge s) := by
  unfold withResource
  split
  · exact normal_build (c := .all) (normal_with_resource h)
  · exact h

/-- An expanded shape is in normal form. -/
theorem normal_expand (s : Shape) : Normal (expand s) := by
  induction s using inductJoined with
  | join c shapes ih =>
    rw [expand_wrap]
    exact normal_build (List.forall_mem_map.2 ih)
  | when test pass fail iht ihp ihf => exact normal_cond iht ihp ihf
  | field edge label s ih => exact normal_along (normal_withResource ih)
  | link iri s ih => exact .link ih
  | leaf s hl =>
    rw [expand_eq_conj hl]
    exact normal_build (c := .all) (normal_with_implied hl)

/-- A conjunction with a shape without parts says something. -/
theorem conj_ne_nothing (hx : ∀ x ∈ xs, Normal x) (hs : s ∈ xs) (hl : s.isLeaf = true) :
    conj xs ≠ k.wrap [] := by
  intro h
  rcases Connective.eq_nothing_of_build (c := .all) hx h s hs with heq | heq
  · exact Connective.wrap_ne_of_isLeaf hl [] heq
  · exact Connective.wrap_ne_of_isLeaf hl [] heq

theorem withResource_eq_nothing (hs : Normal s) (h : withResource edge s = .or []) :
    s = .or [] := by
  unfold withResource at h
  split at h
  · have hmem : .datatype Abstract.resource ∈ [s, .datatype Abstract.resource] :=
      List.mem_cons_of_mem _ List.mem_cons_self
    exact absurd h (conj_ne_nothing (k := .any) (normal_with_resource hs) hmem rfl)
  · exact h

/-- A shape in normal form that says something still does so when it is expanded. -/
theorem eq_nothing_of_expand (hn : Normal s) (h : expand s = k.wrap []) : s = k.wrap [] := by
  induction s using inductJoined generalizing k with
  | join c shapes ih =>
    obtain ⟨hflat, hall⟩ := normal_wrap.1 hn
    rw [expand_wrap] at h
    -- no branch is settled by the connective itself, or it would have been left out before
    have hsame : ∀ s ∈ shapes, s = k.wrap [] := by
      intro s hs
      have hempty := Connective.eq_nothing_of_build
        (List.forall_mem_map.2 fun s _ => normal_expand s) h _ (List.mem_map_of_mem hs)
      rcases hempty with heq | heq
      · exact absurd (ih s hs (hall s hs) heq) (hflat.unjoined s hs [])
      · exact ih s hs (hall s hs) heq
    rw [hflat.eq_nil hsame] at h ⊢
    rw [← h]
    cases c <;> rfl
  | when test pass fail iht ihp ihf =>
    obtain ⟨⟨htest, hnone, hne⟩, ht, hp, hf⟩ := normal_when.1 hn
    change cond (expand test) (expand pass) (expand fail) = _ at h
    rcases cond_cases (expand test) (expand pass) (expand fail) with
      ⟨hsettled | hsame, heq⟩ | ⟨hsettled, -⟩ | ⟨-, heq⟩
    · exact absurd (iht (k := .all) ht hsettled) htest
    · rw [heq] at h
      exact absurd ((ihp hp h).trans (ihf hf (hsame ▸ h)).symm) hne
    · exact absurd (iht (k := .any) ht hsettled) hnone
    · rw [heq] at h
      cases k <;> cases h
  | field edge label s ih =>
    obtain ⟨hne, hs⟩ := normal_field.1 hn
    change along edge label (withResource edge (expand s)) = _ at h
    rcases along_cases edge label (withResource edge (expand s)) with ⟨hempty, -⟩ | ⟨-, heq⟩
    · exact absurd (ih (k := .any) hs (withResource_eq_nothing (normal_expand s) hempty)) hne
    · rw [heq] at h
      cases k <;> cases h
  | link iri s ih => cases k <;> cases h
  | leaf s hl =>
    rw [expand_eq_conj hl] at h
    exact absurd h (conj_ne_nothing (normal_with_implied hl) List.mem_cons_self hl)

/-- A test that is not settled is not settled by expansion, so that a conditional stays one unless
its branches become equal. -/
theorem expand_when_cases (h : Normal (.when test pass fail)) :
    expand pass = expand fail ∧ expand (.when test pass fail) = expand pass ∨
      expand (.when test pass fail) = .when (expand test) (expand pass) (expand fail) := by
  obtain ⟨⟨htest, hnone, -⟩, ht, -⟩ := normal_when.1 h
  show _ ∧ cond (expand test) (expand pass) (expand fail) = _ ∨ cond _ _ _ = _
  rcases cond_cases (expand test) (expand pass) (expand fail) with
    ⟨hsettled | hsame, heq⟩ | ⟨hsettled, -⟩ | ⟨-, heq⟩
  · exact absurd (eq_nothing_of_expand (k := .all) ht hsettled) htest
  · exact Or.inl ⟨hsame, heq⟩
  · exact absurd (eq_nothing_of_expand (k := .any) ht hsettled) hnone
  · exact Or.inr heq

/-- A field that something can satisfy is kept. -/
theorem expand_field {label : Option String} (h : Normal (.field edge label s)) :
    expand (.field edge label s) = .field edge label (withResource edge (expand s)) := by
  obtain ⟨hne, hs⟩ := normal_field.1 h
  rcases along_cases edge label (withResource edge (expand s)) with ⟨hempty, -⟩ | ⟨-, heq⟩
  · have hnone := withResource_eq_nothing (normal_expand s) hempty
    exact absurd (eq_nothing_of_expand (k := .any) hs hnone) hne
  · exact heq

/-! ## Fields -/

theorem fields_wrap : (c.wrap xs).fields = xs.flatMap fields := by
  have hall : fieldsOfAll xs = xs.flatMap fields := by
    induction xs with
    | nil => rfl
    | cons s xs ih => rw [fieldsOfAll, ih, List.flatMap_cons]
  cases c <;> exact hall

/-- What the shapes that fields are met in hand down to their parts reaches the fields. -/
theorem of_mem_fields {P : Shape → Prop} {Q : Field → Prop} {f : Field}
    (wrap : ∀ (c : Connective) xs, P (c.wrap xs) → ∀ x ∈ xs, P x)
    (when : ∀ test pass fail, P (.when test pass fail) → P pass ∧ P fail)
    (link : ∀ iri x, P (.link iri x) → P x)
    (field : ∀ edge label x, P (.field edge label x) → Q ⟨edge, label, x⟩)
    (h : P s) (hf : f ∈ s.fields) : Q f := by
  induction s using Shape.induct with
  | and xs ih =>
    obtain ⟨x, hx, hf⟩ := mem_fieldsOfAll.1 hf
    exact ih x hx (wrap .all xs h x hx) hf
  | or xs ih =>
    obtain ⟨x, hx, hf⟩ := mem_fieldsOfAll.1 hf
    exact ih x hx (wrap .any xs h x hx) hf
  | when test pass fail _ ihp ihf =>
    obtain ⟨hp, hq⟩ := when test pass fail h
    exact (List.mem_append.1 hf).elim (ihp hp) (ihf hq)
  | field edge label x _ =>
    cases List.mem_singleton.1 hf
    exact field edge label x h
  | link iri x ih => exact ih (link iri x h) hf
  | leaf s hl =>
    rw [fields_of_isLeaf hl] at hf
    exact absurd hf List.not_mem_nil

theorem Normal.of_mem_fields {f : Field} (hn : Normal s) (hf : f ∈ s.fields) : Normal f.shape :=
  Shape.of_mem_fields (Q := fun f => Normal f.shape) (fun _ _ h => (normal_wrap.1 h).2)
    (fun _ _ _ => Normal.of_when) (fun _ _ => Normal.of_link) (fun _ _ _ => Normal.of_field) hn hf

/-- The fields that are met in joined shapes are those that are met in them one after the other. -/
theorem eraseDups_fields_build :
    (c.build xs).fields.eraseDups = (xs.flatMap fields).eraseDups := by
  have hclose : ∀ xs, (c.close xs).fields = xs.flatMap fields := fun xs => by
    rcases Connective.close_cases c xs with ⟨s, rfl, heq⟩ | ⟨-, heq⟩
    · rw [heq, List.flatMap_singleton]
    · rw [heq, fields_wrap]
  have hbranches : ∀ s, (c.branches s).flatMap fields = s.fields := fun s => by
    by_cases hs : ∃ inner, s = c.wrap inner
    · obtain ⟨inner, rfl⟩ := hs
      rw [Connective.branches_wrap, fields_wrap]
    · rw [Connective.branches_of_ne (not_exists.1 hs), List.flatMap_singleton]
  rw [Connective.build_eq, hclose, eraseDups_flatMap_eraseDups, List.flatMap_assoc]
  simp only [hbranches]

/-- Expansion adds no fields to a shape without parts. -/
theorem fields_expand_of_isLeaf (hl : s.isLeaf = true) : (expand s).fields = [] := by
  refine List.eq_nil_iff_forall_not_mem.2 fun f hf => ?_
  rw [expand_eq_conj hl, mem_fields_conj] at hf
  obtain ⟨x, hx, hf⟩ := hf
  rw [fields_of_isLeaf (isLeaf_with_implied hl x hx)] at hf
  exact absurd hf List.not_mem_nil

/-- The fields that are met in an expanded shape are those of the shape, each of them expanded. -/
theorem eraseDups_fields_expand (hn : Normal s) :
    (expand s).fields.eraseDups = (s.fields.map Field.expanded).eraseDups := by
  induction s using inductJoined with
  | join c shapes ih =>
    obtain ⟨-, hall⟩ := normal_wrap.1 hn
    rw [expand_wrap, eraseDups_fields_build, List.flatMap_map, fields_wrap, List.map_flatMap]
    exact eraseDups_flatMap_congr fun s hs => ih s hs (hall s hs)
  | when test pass fail _ ihp ihf =>
    obtain ⟨hp, hf⟩ := hn.of_when
    have hbranches : ((expand pass).fields ++ (expand fail).fields).eraseDups =
        ((Shape.when test pass fail).fields.map Field.expanded).eraseDups := by
      rw [fields, List.map_append]
      exact eraseDups_append_congr (ihp hp) (ihf hf)
    rcases expand_when_cases hn with ⟨hsame, heq⟩ | heq
    · -- one branch has all the fields of two that are equal
      have hnothing : (expand pass).fields.removeAll (expand pass).fields = [] :=
        List.filter_eq_nil_iff.2 fun f hf => by simp [hf]
      rw [heq, ← hbranches, ← hsame, List.eraseDups_append, hnothing, List.eraseDups_nil,
        List.append_nil]
    · rw [heq]
      exact hbranches
  | field edge label s _ =>
    rw [expand_field hn]
    rfl
  | link iri s ih => exact ih hn.of_link
  | leaf s hl =>
    rw [fields_expand_of_isLeaf hl, fields_of_isLeaf hl]
    rfl

theorem mem_fields_expand {f : Field} (hn : Normal s) :
    f ∈ (expand s).fields ↔ ∃ g ∈ s.fields, g.expanded = f := by
  rw [← List.mem_eraseDups, eraseDups_fields_expand hn, List.mem_eraseDups, List.mem_map]

end Shape

end LinkedShapes
