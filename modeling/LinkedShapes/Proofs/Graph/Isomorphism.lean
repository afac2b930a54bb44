import Mathlib.Data.List.Nodup
import LinkedShapes.Graph.Isomorphism
import LinkedShapes.Proofs.Graph.Store

/-!
# The search for an isomorphism is complete

If a one-to-one renaming of blank nodes takes the triples of a graph to those of another, the
search finds a renaming. It may always go on with the given one: the renaming keeps how often a
blank node occurs, and no triple that it covers is without an image.

* `Graph.triples_perm`: the triples of the other graph are the renamed ones, in some order.
* `Graph.extendable_of_rename`: the search goes through as long as it follows the renaming.
* `Graph.isIsomorphicInOrder_of_rename`: so the graphs are found to be isomorphic, in whatever order
  the candidates are tried.
-/

namespace LinkedShapes

/-- The term with its label renamed, if it is a blank node. -/
def Term.rename (σ : String → String) : Term → Term
  | .blankNode label => .blankNode (σ label)
  | other => other

/-- The triple with its ends renamed. -/
def Triple.rename (σ : String → String) (t : Triple) : Triple :=
  ⟨t.subject.rename σ, t.predicate, t.object.rename σ⟩

namespace Graph

variable {g other : Graph} {σ : String → String} {t u : Triple} {label : String}

/-! ## Blank nodes -/

theorem mem_blankOccurrences : label ∈ g.blankOccurrences ↔
    ∃ t ∈ g.triples, t.subject = .blankNode label ∨ t.object = .blankNode label := by
  have hlabel : ∀ x : Term, x.label? = some label ↔ x = .blankNode label := by
    intro x
    cases x <;> simp [Term.label?]
  unfold blankOccurrences
  rw [List.mem_flatMap]
  refine exists_congr fun t => and_congr_right fun _ => ?_
  rw [List.mem_filterMap]
  simp only [List.mem_cons, List.not_mem_nil, or_false, exists_eq_or_imp, exists_eq_left, hlabel]

theorem blanks_spec (g : Graph) : Sorted.Increasing g.blanks ∧
    ∀ label, label ∈ g.blanks ↔ label ∈ g.blankOccurrences := by
  have hfold : ∀ (labels known : List String), Sorted.Increasing known →
      Sorted.Increasing (labels.foldl (fun known label => Sorted.insert label known) known) ∧
        ∀ label, label ∈ labels.foldl (fun known label => Sorted.insert label known) known ↔
          label ∈ known ∨ label ∈ labels := by
    intro labels
    induction labels with
    | nil => exact fun known h => ⟨h, fun label => by simp⟩
    | cons first labels ih =>
      intro known h
      obtain ⟨hinc, hmem⟩ := ih _ (Sorted.pairwise_insert h)
      refine ⟨hinc, fun label => ?_⟩
      rw [List.foldl_cons, hmem, Sorted.mem_insert, List.mem_cons, or_assoc, or_left_comm]
  obtain ⟨hinc, hmem⟩ := hfold g.blankOccurrences [] List.Pairwise.nil
  exact ⟨hinc, fun label => (hmem label).trans (or_iff_right List.not_mem_nil)⟩

theorem mem_blanks : label ∈ g.blanks ↔
    ∃ t ∈ g.triples, t.subject = .blankNode label ∨ t.object = .blankNode label :=
  ((blanks_spec g).2 label).trans mem_blankOccurrences

/-! ## Renamed graphs -/

/-- A one-to-one renaming of blank nodes that takes the triples of one graph to the other's. -/
structure Renames (σ : String → String) (g other : Graph) : Prop where
  injOn : ∀ a ∈ g.blanks, ∀ b ∈ g.blanks, σ a = σ b → a = b
  triples : ∀ t, t ∈ other.triples ↔ ∃ u ∈ g.triples, t = u.rename σ

theorem rename_injOn (h : ∀ a ∈ g.blanks, ∀ b ∈ g.blanks, σ a = σ b → a = b) {x y : Term}
    (hx : ∀ label, x = .blankNode label → label ∈ g.blanks)
    (hy : ∀ label, y = .blankNode label → label ∈ g.blanks) (he : x.rename σ = y.rename σ) :
    x = y := by
  cases x with
  | blankNode a =>
    cases y with
    | blankNode b => rw [h a (hx a rfl) b (hy b rfl) (Term.blankNode.inj he)]
    | iri _ | literal _ => cases he
  | iri _ | literal _ =>
    cases y with
    | blankNode b => cases he
    | iri _ | literal _ => exact he

theorem subject_mem_blanks (ht : t ∈ g.triples) (h : t.subject = .blankNode label) :
    label ∈ g.blanks := mem_blanks.2 ⟨t, ht, Or.inl h⟩

theorem object_mem_blanks (ht : t ∈ g.triples) (h : t.object = .blankNode label) :
    label ∈ g.blanks := mem_blanks.2 ⟨t, ht, Or.inr h⟩

/-- A one-to-one renaming keeps the triples of the graph apart. -/
theorem nodup_rename (hg : g.Stored) (h : ∀ a ∈ g.blanks, ∀ b ∈ g.blanks, σ a = σ b → a = b) :
    (g.triples.map (Triple.rename σ)).Nodup := by
  refine List.Nodup.map_on (fun t ht u hu he => ?_) hg.increasing.nodup
  obtain ⟨hs, hp, ho⟩ := Triple.mk.inj he
  have hs := rename_injOn h (fun _ => subject_mem_blanks ht) (fun _ => subject_mem_blanks hu) hs
  have ho := rename_injOn h (fun _ => object_mem_blanks ht) (fun _ => object_mem_blanks hu) ho
  cases t
  cases u
  cases hs
  cases hp
  cases ho
  rfl

/-- The triples of the other graph are the renamed ones, in some order. -/
theorem triples_perm (hg : g.Stored) (ho : other.Stored) (h : Renames σ g other) :
    other.triples.Perm (g.triples.map (Triple.rename σ)) := by
  refine (List.perm_ext_iff_of_nodup ho.increasing.nodup (nodup_rename hg h.injOn)).2 fun t => ?_
  rw [h.triples, List.mem_map]
  exact exists_congr fun u => and_congr_right fun _ => eq_comm

/-- The blank nodes of the other graph are the renamed ones, as often as they occur. -/
theorem occurrences_perm (hg : g.Stored) (ho : other.Stored) (h : Renames σ g other) :
    other.blankOccurrences.Perm (g.blankOccurrences.map σ) := by
  have hrename : (g.triples.map (Triple.rename σ)).flatMap
      (fun t => [t.subject, t.object].filterMap Term.label?) = g.blankOccurrences.map σ := by
    unfold blankOccurrences
    rw [List.flatMap_map, List.map_flatMap]
    refine List.flatMap_congr fun t _ => ?_
    show [t.subject.rename σ, t.object.rename σ].filterMap Term.label? = _
    cases t.subject <;> cases t.object <;> rfl
  rw [← hrename]
  exact (triples_perm hg ho h).flatMap_right _

theorem blanks_perm (hg : g.Stored) (ho : other.Stored) (h : Renames σ g other) :
    other.blanks.Perm (g.blanks.map σ) := by
  obtain ⟨hinc, hmem⟩ := blanks_spec g
  obtain ⟨hinc', hmem'⟩ := blanks_spec other
  have hnodup : (g.blanks.map σ).Nodup :=
    List.Nodup.map_on (fun a ha b hb => h.injOn a ha b hb) hinc.nodup
  refine (List.perm_ext_iff_of_nodup hinc'.nodup hnodup).2 fun label => ?_
  rw [hmem', (occurrences_perm hg ho h).mem_iff, List.mem_map, List.mem_map]
  exact exists_congr fun a => and_congr_left fun _ => (hmem a).symm

/-- The renaming keeps how often a blank node occurs. -/
theorem degree_rename (hg : g.Stored) (ho : other.Stored) (h : Renames σ g other)
    (hl : label ∈ g.blanks) : other.degree (σ label) = g.degree label := by
  unfold degree
  rw [(occurrences_perm hg ho h).count_eq]
  have hmem := (blanks_spec g).2
  have hcount : ∀ labels : List String, (∀ a ∈ labels, a ∈ g.blanks) →
      (labels.map σ).count (σ label) = labels.count label := by
    intro labels
    induction labels with
    | nil => exact fun _ => rfl
    | cons a labels ih =>
      intro hall
      rw [List.map_cons, List.count_cons, List.count_cons,
        ih fun b hb => hall b (List.mem_cons_of_mem _ hb)]
      have hiff : (σ a == σ label) = (a == label) := by
        rw [Bool.eq_iff_iff, beq_iff_eq, beq_iff_eq]
        exact ⟨h.injOn a (hall a List.mem_cons_self) label hl, congrArg σ⟩
      rw [hiff]
  exact hcount _ fun a ha => (hmem a).2 ha

/-- The triples without blank nodes are the same. -/
theorem ground_eq (hg : g.Stored) (ho : other.Stored) (h : Renames σ g other) :
    g.ground = other.ground := by
  have hblank : ∀ t : Triple, hasBlank (t.rename σ) = hasBlank t := by
    rintro ⟨s, p, o⟩
    cases s <;> cases o <;> rfl
  have hself : ∀ t : Triple, hasBlank t = false → t.rename σ = t := by
    rintro ⟨s, p, o⟩ ht
    cases s <;> cases o <;> first | rfl | cases ht
  refine Sorted.eq_of_mem_iff (List.Pairwise.filter _ hg.increasing)
    (List.Pairwise.filter _ ho.increasing) fun t => ?_
  unfold ground
  rw [List.mem_filter, List.mem_filter, h.triples]
  constructor
  · rintro ⟨ht, hno⟩
    exact ⟨⟨t, ht, (hself t (by simpa using hno)).symm⟩, hno⟩
  · rintro ⟨⟨u, hu, rfl⟩, hno⟩
    rw [hblank] at hno
    rw [hself u (by simpa using hno)]
    exact ⟨hu, hno⟩

/-! ## The search -/

/-- A partial renaming that is part of the given one. -/
def Follows (r : Renaming) (σ : String → String) : Prop :=
  ∀ label image, r.label? label = some image → image = σ label

theorem Follows.cons {r : Renaming} (h : Follows r σ) : Follows ((label, σ label) :: r) σ := by
  intro l image hl
  unfold Renaming.label? at hl
  rw [List.lookup_cons] at hl
  split at hl
  · next he =>
    rw [beq_iff_eq.1 he]
    exact (Option.some.inj hl).symm
  · exact h l image hl

/-- A term that is covered is renamed as by the whole renaming. -/
theorem Follows.term {r : Renaming} (h : Follows r σ) {x : Term} (hx : r.covers x = true) :
    r.term x = x.rename σ := by
  cases x with
  | blankNode label =>
    obtain ⟨image, hi⟩ := Option.isSome_iff_exists.1 hx
    show Term.blankNode ((r.label? label).getD label) = .blankNode (σ label)
    rw [hi, h label image hi]
    rfl
  | iri _ | literal _ => rfl

theorem Follows.triple {r : Renaming} (h : Follows r σ) (ht : r.coversTriple t = true) :
    r.triple t = t.rename σ := by
  obtain ⟨hs, ho⟩ := Bool.and_eq_true_iff.1 ht
  unfold Renaming.triple Triple.rename
  rw [h.term hs, h.term ho]

theorem consistent_of_follows (h : Renames σ g other) {r : Renaming} (hr : Follows r σ) :
    consistent g other r = true := by
  refine List.all_eq_true.2 fun t ht => ?_
  obtain ⟨hmem, hc⟩ := List.mem_filter.1 ht
  rw [contains_iff, hr.triple hc]
  exact (h.triples _).2 ⟨t, hmem, rfl⟩

/-- The search goes through as long as it follows the renaming. -/
theorem extendable_of_rename (hg : g.Stored) (ho : other.Stored) (h : Renames σ g other)
    {r : Renaming} {free todo : List String} (hr : Follows r σ) (hnodup : todo.Nodup)
    (hsub : ∀ a ∈ todo, a ∈ g.blanks) (hfree : ∀ a ∈ todo, σ a ∈ free)
    (hdone : ∀ a ∈ g.blanks, a ∈ todo ∨ (r.label? a).isSome = true) :
    extendable g other r free todo = true := by
  induction todo generalizing r free with
  | nil =>
    -- all blank nodes are covered now
    have hcovers : ∀ x : Term, (∀ label, x = .blankNode label → label ∈ g.blanks) →
        r.covers x = true := by
      intro x hx
      cases x with
      | blankNode label => exact (hdone label (hx label rfl)).resolve_left List.not_mem_nil
      | iri _ | literal _ => rfl
    refine List.all_eq_true.2 fun t ht => ?_
    have hc : r.coversTriple t = true := Bool.and_eq_true_iff.2
      ⟨hcovers _ fun _ => subject_mem_blanks ht, hcovers _ fun _ => object_mem_blanks ht⟩
    rw [contains_iff, hr.triple hc]
    exact (h.triples _).2 ⟨t, ht, rfl⟩
  | cons label todo ih =>
    obtain ⟨hnot, hnodup⟩ := List.nodup_cons.1 hnodup
    have hlabel := hsub label List.mem_cons_self
    refine List.any_eq_true.2 ⟨σ label, hfree label List.mem_cons_self, ?_⟩
    rw [degree_rename hg ho h hlabel, beq_self_eq_true, consistent_of_follows h hr.cons,
      Bool.true_and, Bool.true_and]
    refine ih hr.cons hnodup (fun a ha => hsub a (List.mem_cons_of_mem _ ha)) (fun a ha => ?_)
      fun a ha => ?_
    · -- no other blank node has this image, so those to come are still free
      have hne : σ a ≠ σ label := by
        intro he
        have heq := h.injOn a (hsub a (List.mem_cons_of_mem _ ha)) label hlabel he
        exact hnot (heq ▸ ha)
      exact (List.mem_erase_of_ne hne).2 (hfree a (List.mem_cons_of_mem _ ha))
    · unfold Renaming.label?
      rw [List.lookup_cons]
      rcases hdone a ha with hmem | hsome
      · rcases List.mem_cons.1 hmem with rfl | hmem
        · rw [beq_self_eq_true]
          exact Or.inr rfl
        · exact Or.inl hmem
      · cases he : a == label with
        | true => exact Or.inr rfl
        | false => exact Or.inr hsome

/-- The search for an isomorphism, trying the labels of the other graph in the given order. -/
def isIsomorphicInOrder (g other : Graph) (order : List String) : Bool :=
  g.size == other.size && g.ground == other.ground && g.blanks.length == order.length &&
    extendable g other [] order g.blanks

/-- Whatever the order of the candidates, graphs that a one-to-one renaming takes to each other are
found to be isomorphic. -/
theorem isIsomorphicInOrder_of_rename (hg : g.Stored) (ho : other.Stored)
    (h : Renames σ g other) {order : List String} (horder : order.Perm other.blanks) :
    g.isIsomorphicInOrder other order = true := by
  have hsize : g.size = other.size := by
    unfold size
    rw [(triples_perm hg ho h).length_eq, List.length_map]
  have hblanks : g.blanks.length = order.length := by
    rw [horder.length_eq, (blanks_perm hg ho h).length_eq, List.length_map]
  have hfree : ∀ a ∈ g.blanks, σ a ∈ order := fun a ha =>
    horder.mem_iff.2 ((blanks_perm hg ho h).mem_iff.2 (List.mem_map_of_mem ha))
  have hsearch : extendable g other [] order g.blanks = true :=
    extendable_of_rename hg ho h (fun label image hl => by cases hl) (blanks_spec g).1.nodup
      (fun _ ha => ha) hfree fun _ ha => Or.inl ha
  unfold isIsomorphicInOrder
  rw [hsize, ground_eq hg ho h, hblanks, hsearch, beq_self_eq_true, beq_self_eq_true,
    beq_self_eq_true]
  rfl

/-- Graphs that a one-to-one renaming takes to each other are found to be isomorphic. -/
theorem isIsomorphic_of_rename (hg : g.Stored) (ho : other.Stored) (h : Renames σ g other) :
    g.isIsomorphic other = true :=
  isIsomorphicInOrder_of_rename hg ho h (.refl _)

end Graph

end LinkedShapes
