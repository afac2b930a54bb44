import LinkedShapes.Proofs.Shape.Inference

/-!
# What expansion leaves to imply

Expansion adds what constraints imply, but not what the added constraints imply in turn. Of these
only the choice between booleans and the datatype of booleans imply anything: each other, and that
there is one value, or two. So whatever an expanded shape still implies stands in it already, or is
a bound that a choice between booleans would have.

* `Shape.Complete`: constraints that imply nothing new, but for booleans.
* `Shape.Saturated`: the constraints of every conjunction at a level and below it are complete, and
  fields that lead to resources say so.
* `Shape.saturated_expand`: expanded shapes are saturated.
-/

namespace LinkedShapes.Shape

open Vocabulary

variable {s test pass fail : Shape} {xs : List Shape} {edge : Edge} {label : Option String}
  {f : Field}

/-! ## Complete constraints -/

/-- Operands that are all booleans are chosen from. -/
def ChoosesBooleans (xs : List Shape) : Prop :=
  ∃ values, .range values ∈ xs ∧ sharedType? values = some Xsd.boolean

/-- What the constraints imply is among them, apart from what follows from a choice between
booleans: that a boolean is chosen, and that there are not too many. -/
def Complete (xs : List Shape) : Prop := ∀ x ∈ xs, ∀ y ∈ x.implied,
  y ∈ xs ∨ y = booleans ∨ ChoosesBooleans xs ∧ ∃ limit, 1 ≤ limit ∧ y = .maxCount limit

theorem sharedType?_booleans :
    sharedType? (.ofList [.term (.boolean false), .term (.boolean true)]) = some Xsd.boolean := by
  decide +kernel

/-- What follows of a datatype other than that of booleans is nothing. -/
theorem implied_datatype_of_ne {iri : String} (h : iri ≠ Xsd.boolean) :
    implied (.datatype iri) = [] :=
  if_neg h

/-- A constraint is complete together with what it implies. -/
theorem complete_implied (s : Shape) : Complete (s :: s.implied) := by
  intro x hx y hy
  rcases List.mem_cons.1 hx with rfl | hx
  · exact Or.inl (List.mem_cons_of_mem _ hy)
  -- of what is implied, only the datatype of booleans and the choice between them imply something
  -- again
  cases s with
  | datatype iri =>
    by_cases hb : iri = Xsd.boolean
    · rw [implied, if_pos hb] at hx ⊢
      rcases List.mem_pair.1 hx with rfl | rfl
      · exact absurd hy List.not_mem_nil
      · -- of the two booleans, both may be chosen
        rw [booleans, rangeOf, implied, sharedType?_booleans] at hy
        rcases List.mem_pair.1 hy with rfl | rfl
        · refine Or.inr (Or.inr ⟨⟨_, ?_, sharedType?_booleans⟩, 2, by decide, rfl⟩)
          exact List.mem_cons_of_mem _ (List.mem_cons_of_mem _ List.mem_cons_self)
        · rw [hb]
          exact Or.inl List.mem_cons_self
    · rw [implied_datatype_of_ne hb] at hx
      exact absurd hx List.not_mem_nil
  | range values =>
    rcases List.mem_cons.1 hx with rfl | hx
    · exact absurd hy List.not_mem_nil
    obtain ⟨iri, hiri, rfl⟩ := Option.map_eq_some_iff.1 (Option.mem_toList.1 hx)
    by_cases hb : iri = Xsd.boolean
    · rw [implied, if_pos hb] at hy
      rcases List.mem_pair.1 hy with rfl | rfl
      · exact Or.inr (Or.inr ⟨⟨values, List.mem_cons_self, hb ▸ hiri⟩, 1, Nat.le_refl 1, rfl⟩)
      · exact Or.inr (Or.inl rfl)
    · rw [implied_datatype_of_ne hb] at hy
      exact absurd hy List.not_mem_nil
  | clazz _ | lang _ | localized =>
    rw [List.mem_singleton.1 hx, implied_datatype_of_ne (by decide)] at hy
    exact absurd hy List.not_mem_nil
  | all _ | any _ =>
    rw [List.mem_singleton.1 hx] at hy
    exact absurd hy List.not_mem_nil
  | _ => exact absurd hx List.not_mem_nil

theorem complete_singleton (h : s.implied = []) : Complete [s] := by
  have hs := complete_implied s
  rwa [h] at hs

/-- A constraint that is complete on its own implies nothing. -/
theorem implied_eq_nil_of_complete (h : Complete [s]) : s.implied = [] := by
  have hone := h s (List.mem_singleton_self s)
  cases s with
  | datatype iri =>
    by_cases hb : iri = Xsd.boolean
    · rw [implied, if_pos hb] at hone
      have hmax := hone (.maxCount 1) List.mem_cons_self
      simp [ChoosesBooleans, booleans, rangeOf] at hmax
    · exact implied_datatype_of_ne hb
  | range values =>
    cases hshared : sharedType? values with
    | none =>
      have hmax := hone (.maxCount values.size) List.mem_cons_self
      simp [ChoosesBooleans, booleans, rangeOf, hshared] at hmax
    | some iri =>
      have htype := hone (.datatype iri) (by simp [implied, hshared])
      simp [booleans, rangeOf] at htype
  | clazz _ | lang _ | localized | all _ | any _ =>
    have hfirst := hone _ List.mem_cons_self
    simp [booleans, rangeOf] at hfirst
  | _ => rfl

/-- Which constraints there are decides whether they are complete. -/
theorem Complete.eraseDups (h : Complete xs) : Complete xs.eraseDups := by
  simpa only [Complete, ChoosesBooleans, List.mem_eraseDups] using h

/-- Complete constraints remain so beside others. -/
theorem complete_flatMap {g : Shape → List Shape} (h : ∀ x ∈ xs, Complete (g x)) :
    Complete (xs.flatMap g) := by
  have hmem : ∀ {x}, x ∈ xs → g x ⊆ xs.flatMap g := fun hx y hy =>
    List.mem_flatMap.2 ⟨_, hx, hy⟩
  intro y hy z hz
  obtain ⟨x, hx, hy⟩ := List.mem_flatMap.1 hy
  rcases h x hx y hy z hz with hin | hbooleans | ⟨⟨values, hrange, hshared⟩, hlimit⟩
  · exact Or.inl (hmem hx hin)
  · exact Or.inr (Or.inl hbooleans)
  · exact Or.inr (Or.inr ⟨⟨values, hmem hx hrange, hshared⟩, hlimit⟩)

/-! ## Saturated shapes -/

/-- A field that leads to resources says so. -/
def Resourced (edge : Edge) (s : Shape) : Prop :=
  leadsToResources edge s = true → .datatype Abstract.resource ∈ s.conjuncts

/-- The constraints of every conjunction are complete, and fields that lead to resources say so.
Tests are left out. -/
inductive Saturated : Shape → Prop
  | and {shapes : List Shape} : Complete shapes →
      (∀ s ∈ shapes, s.isLeaf = false → Saturated s) → Saturated (.and shapes)
  | or {shapes : List Shape} : (∀ s ∈ shapes, Saturated s) → Saturated (.or shapes)
  | when {test pass fail : Shape} : Saturated pass → Saturated fail →
      Saturated (.when test pass fail)
  | field {edge : Edge} {label : Option String} {shape : Shape} : Resourced edge shape →
      Saturated shape → Saturated (.field edge label shape)
  | link {iri : String} {shape : Shape} : Saturated shape → Saturated (.link iri shape)
  | leaf {shape : Shape} : shape.isLeaf = true → shape.implied = [] → Saturated shape

namespace Saturated

theorem of_wrap {c : Connective} (h : Saturated (c.wrap xs)) :
    ∀ x ∈ xs, x.isLeaf = false → Saturated x := by
  cases c with
  | all =>
    cases h with
    | and _ hall => exact hall
    | leaf hl _ => cases hl
  | any =>
    cases h with
    | or hall => exact fun x hx _ => hall x hx
    | leaf hl _ => cases hl

theorem of_or (h : Saturated (.or xs)) : ∀ x ∈ xs, Saturated x := by
  cases h with
  | or hall => exact hall
  | leaf hl _ => cases hl

theorem complete (h : Saturated (.and xs)) : Complete xs := by
  cases h with
  | and hcomplete _ => exact hcomplete
  | leaf hl _ => cases hl

theorem of_when (h : Saturated (.when test pass fail)) : Saturated pass ∧ Saturated fail := by
  cases h with
  | when hp hf => exact ⟨hp, hf⟩
  | leaf hl _ => cases hl

theorem of_link {iri : String} (h : Saturated (.link iri s)) : Saturated s := by
  cases h with
  | link hs => exact hs
  | leaf hl _ => cases hl

theorem of_field (h : Saturated (.field edge label s)) : Resourced edge s ∧ Saturated s := by
  cases h with
  | field hr hs => exact ⟨hr, hs⟩
  | leaf hl _ => cases hl

/-- The fields of a saturated shape lead to resources where they say so, and to saturated
shapes. -/
theorem of_mem_fields (h : Saturated s) (hf : f ∈ s.fields) :
    Resourced f.edge f.shape ∧ Saturated f.shape :=
  Shape.of_mem_fields (P := fun x => x.isLeaf = false → Saturated x)
    (Q := fun f => Resourced f.edge f.shape ∧ Saturated f.shape)
    (fun c _ h => (h (by cases c <;> rfl)).of_wrap)
    (fun _ _ _ h => (h rfl).of_when.imp (fun hp _ => hp) fun hf _ => hf)
    (fun _ _ h _ => (h rfl).of_link) (fun _ _ _ h => (h rfl).of_field) (fun _ => h) hf

theorem expand_of_isLeaf (h : Saturated s) (hl : s.isLeaf = true) : expand s = s := by
  cases h with
  | leaf _ hnil =>
    rw [expand_eq_conj hl, hnil]
    exact Connective.build_singleton (c := .all) (.leaf hl)
  | _ => cases hl

/-- The constraints that a saturated shape contributes to a conjunction. -/
theorem conjuncts (h : Saturated s) : Complete s.conjuncts ∧
    ∀ x ∈ s.conjuncts, x.isLeaf = false → Saturated x := by
  have hsingle : s.implied = [] → Complete [s] ∧ ∀ x ∈ [s], x.isLeaf = false → Saturated x :=
    fun hnil => ⟨complete_singleton hnil, List.forall_mem_singleton.2 fun _ => h⟩
  cases h with
  | and hcomplete hall => exact ⟨hcomplete, hall⟩
  | leaf hl hnil =>
    rw [show s.conjuncts = [s] from Connective.branches_of_isLeaf (c := .all) hl]
    exact hsingle hnil
  | or _ | when _ _ | field _ _ | link _ => exact hsingle rfl

theorem disjuncts (h : Saturated s) : ∀ x ∈ s.disjuncts, Saturated x := by
  cases h with
  | or hall => exact hall
  | leaf hl hnil =>
    rw [show s.disjuncts = [s] from Connective.branches_of_isLeaf (c := .any) hl]
    exact List.forall_mem_singleton.2 (.leaf hl hnil)
  | and hcomplete hall => exact List.forall_mem_singleton.2 (.and hcomplete hall)
  | when hp hf => exact List.forall_mem_singleton.2 (.when hp hf)
  | field hr hs => exact List.forall_mem_singleton.2 (.field hr hs)
  | link hs => exact List.forall_mem_singleton.2 (.link hs)

theorem of_conjuncts (hcomplete : Complete (xs.flatMap Shape.conjuncts))
    (hall : ∀ x ∈ xs.flatMap Shape.conjuncts, x.isLeaf = false → Saturated x) :
    Saturated (conj xs) := by
  have hcomplete := hcomplete.eraseDups
  have hall : ∀ x ∈ (xs.flatMap Shape.conjuncts).eraseDups, x.isLeaf = false → Saturated x :=
    fun x hx => hall x (List.mem_eraseDups.1 hx)
  rcases Connective.close_cases .all (xs.flatMap Shape.conjuncts).eraseDups with
    ⟨s, heq, hclose⟩ | ⟨-, hclose⟩
  · rw [show conj xs = s from hclose]
    rw [heq] at hcomplete hall
    cases hl : s.isLeaf with
    | true => exact .leaf hl (implied_eq_nil_of_complete hcomplete)
    | false => exact hall s (List.mem_singleton_self s) hl
  · rw [show conj xs = .and _ from hclose]
    exact .and hcomplete hall

/-- What is joined of saturated shapes is saturated. -/
theorem build (c : Connective) (h : ∀ x ∈ xs, Saturated x) : Saturated (c.build xs) := by
  cases c with
  | all =>
    refine of_conjuncts (complete_flatMap fun x hx => (h x hx).conjuncts.1) fun y hy => ?_
    obtain ⟨x, hx, hy⟩ := List.mem_flatMap.1 hy
    exact (h x hx).conjuncts.2 y hy
  | any =>
    have hall : ∀ y ∈ (xs.flatMap Shape.disjuncts).eraseDups, Saturated y := by
      intro y hy
      obtain ⟨x, hx, hy⟩ := List.mem_flatMap.1 (List.mem_eraseDups.1 hy)
      exact (h x hx).disjuncts y hy
    rcases Connective.close_cases .any (xs.flatMap Shape.disjuncts).eraseDups with
      ⟨s, heq, hclose⟩ | ⟨-, hclose⟩
    · rw [show Connective.any.build xs = s from hclose]
      exact hall s (heq ▸ List.mem_singleton_self s)
    · rw [show Connective.any.build xs = .or _ from hclose]
      exact .or hall

theorem withResource (h : Saturated s) : Saturated (withResource edge s) := by
  unfold Shape.withResource
  split
  · exact build .all (List.forall_mem_cons.2
      ⟨h, List.forall_mem_singleton.2 (.leaf rfl (implied_datatype_of_ne (by decide)))⟩)
  · exact h

end Saturated

theorem resourced_withResource (hn : Normal s) : Resourced edge (withResource edge s) := by
  intro hleads
  unfold withResource at hleads ⊢
  split at hleads
  · next h =>
    rw [if_pos h]
    exact (Connective.mem_branches_build (c := .all) (normal_with_resource hn)).2
      ⟨_, List.mem_cons_of_mem _ List.mem_cons_self, List.mem_singleton_self _⟩
  · next h => exact absurd hleads h

/-- An expanded shape is saturated. -/
theorem saturated_expand (s : Shape) : Saturated (expand s) := by
  induction s using inductJoined with
  | join c shapes ih =>
    rw [expand_wrap]
    exact .build c (List.forall_mem_map.2 ih)
  | when test pass fail _ ihp ihf =>
    show Saturated (cond (expand test) (expand pass) (expand fail))
    rcases cond_cases (expand test) (expand pass) (expand fail) with
      ⟨-, heq⟩ | ⟨-, heq⟩ | ⟨-, heq⟩ <;> rw [heq]
    · exact ihp
    · exact ihf
    · exact .when ihp ihf
  | field edge label s ih =>
    show Saturated (along edge label (withResource edge (expand s)))
    rcases along_cases edge label (withResource edge (expand s)) with ⟨-, heq⟩ | ⟨-, heq⟩ <;>
      rw [heq]
    · exact .build .all (fun _ h => absurd h List.not_mem_nil)
    · exact .field (resourced_withResource (normal_expand s)) ih.withResource
  | link iri s ih => exact .link ih
  | leaf s hl =>
    have hleaf := isLeaf_with_implied hl
    have hself : (s :: s.implied).flatMap Shape.conjuncts = s :: s.implied :=
      Connective.flatMap_branches (c := .all) fun x hx =>
        Connective.wrap_ne_of_isLeaf (hleaf x hx)
    rw [expand_eq_conj hl]
    refine .of_conjuncts ?_ ?_ <;> rw [hself]
    · exact complete_implied s
    · exact fun x hx hpart => Bool.noConfusion ((hleaf x hx).symm.trans hpart)

end LinkedShapes.Shape
