import Mathlib.Data.List.Perm.Subperm
import Mathlib.Data.Set.Function
import LinkedShapes.Proofs.Graph.Isomorphism

/-!
# Isomorphism is decided

The search for an isomorphism gives up a partial renaming for several reasons, and checks in the end
only that each triple has an image. `Graph.Matches` says what it is to decide: a bijection of blank
nodes that takes the triples of one graph onto those of the other.

* `Graph.exists_of_extendable`: what the search has found maps the blank nodes to different ones.
* `Graph.renames_of_isIsomorphicInOrder`: as the graphs have as many triples, each triple of the
  other graph is an image, too.
* `Graph.isIsomorphic_decides`: the search decides whether there is such a bijection, in whatever
  order it tries the candidates, and so isomorphism is an equivalence.
-/

namespace LinkedShapes

variable {g mid other : Graph} {σ τ : String → String} {label : String} {order : List String}

/-! ## Renaming -/

theorem Term.rename_eq_blankNode {x : Term} (hx : x.rename σ = .blankNode label) :
    ∃ a, x = .blankNode a ∧ σ a = label := by
  cases x with
  | blankNode a => exact ⟨a, rfl, Term.blankNode.inj hx⟩
  | iri _ | literal _ => cases hx

theorem Triple.rename_rename {t : Triple} :
    (t.rename σ).rename τ = t.rename (τ ∘ σ) := by
  obtain ⟨s, p, o⟩ := t
  cases s <;> cases o <;> rfl

/-- A triple whose blank nodes keep their labels stays as it is. -/
theorem Triple.rename_eq_self {t : Triple}
    (hs : ∀ label, t.subject = .blankNode label → σ label = label)
    (ho : ∀ label, t.object = .blankNode label → σ label = label) : t.rename σ = t := by
  have hterm : ∀ x : Term, (∀ label, x = .blankNode label → σ label = label) → x.rename σ = x := by
    rintro x hx
    cases x with
    | blankNode label => exact congrArg Term.blankNode (hx label rfl)
    | iri _ | literal _ => rfl
  obtain ⟨subject, predicate, object⟩ := t
  unfold Triple.rename
  rw [hterm subject hs, hterm object ho]

namespace Graph

/-! ## Bijections of blank nodes -/

/-- The labels of the blank subjects and objects. -/
def blankLabels (g : Graph) : Set String :=
  {label | ∃ t ∈ g.triples, t.subject = .blankNode label ∨ t.object = .blankNode label}

/-- A bijection of blank nodes that takes the triples of one graph onto those of the other. -/
structure Matches (σ : String → String) (g other : Graph) : Prop where
  labels : Set.BijOn σ g.blankLabels other.blankLabels
  triples : Set.image (Triple.rename σ) {t | t ∈ g.triples} = {t | t ∈ other.triples}

/-- Some bijection of blank nodes takes the triples of one graph onto those of the other. -/
def Isomorphic (g other : Graph) : Prop := ∃ σ, Matches σ g other

theorem mem_blankLabels : label ∈ g.blankLabels ↔ label ∈ g.blanks := mem_blanks.symm

theorem Matches.renames (hm : Matches σ g other) : Renames σ g other where
  injOn := fun _ ha _ hb => hm.labels.injOn (mem_blankLabels.2 ha) (mem_blankLabels.2 hb)
  triples := fun t => by
    have ht := Set.ext_iff.1 hm.triples t
    rw [Set.mem_image] at ht
    exact ht.symm.trans (exists_congr fun u => and_congr_right fun _ => eq_comm)

/-- Where the renamed triples are those of the other graph, its blank nodes are renamed ones. -/
theorem Renames.matches (hr : Renames σ g other) : Matches σ g other where
  labels := by
    refine ⟨?_, fun a ha b hb => ?_, ?_⟩
    · rintro a ⟨t, ht, hends⟩
      refine ⟨t.rename σ, (hr.triples _).2 ⟨t, ht, rfl⟩, ?_⟩
      exact hends.imp (congrArg (Term.rename σ)) (congrArg (Term.rename σ))
    · exact hr.injOn a (mem_blankLabels.1 ha) b (mem_blankLabels.1 hb)
    · rintro label ⟨t, ht, hends⟩
      obtain ⟨u, hu, rfl⟩ := (hr.triples t).1 ht
      rcases hends with hs | ho
      · obtain ⟨a, ha, rfl⟩ := Term.rename_eq_blankNode hs
        exact ⟨a, ⟨u, hu, Or.inl ha⟩, rfl⟩
      · obtain ⟨a, ha, rfl⟩ := Term.rename_eq_blankNode ho
        exact ⟨a, ⟨u, hu, Or.inr ha⟩, rfl⟩
  triples := by
    ext t
    rw [Set.mem_image]
    exact (exists_congr fun u => and_congr_right fun _ => eq_comm).trans (hr.triples t).symm

/-! ## Isomorphism as a relation -/

theorem Isomorphic.refl (g : Graph) : Isomorphic g g := by
  refine ⟨id, Set.bijOn_id _, ?_⟩
  have hid : Triple.rename id = id :=
    funext fun t => Triple.rename_eq_self (fun _ _ => rfl) fun _ _ => rfl
  rw [hid, Set.image_id]

theorem Isomorphic.symm (hi : Isomorphic g other) : Isomorphic other g := by
  obtain ⟨σ, hlabels, htriples⟩ := hi
  have hinverse := hlabels.invOn_invFunOn
  refine ⟨Function.invFunOn σ g.blankLabels, hlabels.symm hinverse.symm, ?_⟩
  rw [← htriples, Set.image_image]
  -- there and back again, the blank nodes of the graph have their labels
  have hback : ∀ t ∈ {t | t ∈ g.triples},
      (t.rename σ).rename (Function.invFunOn σ g.blankLabels) = t := by
    intro t ht
    rw [Triple.rename_rename]
    refine Triple.rename_eq_self (fun label hs => ?_) fun label ho => ?_
    · exact hinverse.1 ⟨t, ht, Or.inl hs⟩
    · exact hinverse.1 ⟨t, ht, Or.inr ho⟩
  exact (Set.image_congr hback).trans (Set.image_id' _)

theorem Isomorphic.trans (hi : Isomorphic g mid) (hi' : Isomorphic mid other) :
    Isomorphic g other := by
  obtain ⟨σ, hlabels, htriples⟩ := hi
  obtain ⟨τ, hlabels', htriples'⟩ := hi'
  refine ⟨τ ∘ σ, hlabels'.comp hlabels, ?_⟩
  rw [← htriples', ← htriples, Set.image_image]
  exact Set.image_congr fun t _ => Triple.rename_rename.symm

/-! ## What the search finds -/

/-- What the search has found: images among the free labels, different ones for different blank
nodes, and an image in the other graph for each triple. -/
structure Found (g other : Graph) (r found : Renaming) (free todo : List String) : Prop where
  before : ∀ a, a ∉ todo → found.label? a = r.label? a
  images : ∀ a ∈ todo, ∃ b ∈ free, found.label? a = some b
  distinct : ∀ a ∈ todo, ∀ b ∈ todo, found.label? a = found.label? b → a = b
  triples : ∀ t ∈ g.triples, found.triple t ∈ other.triples

theorem exists_of_extendable {r : Renaming} {free todo : List String} (htodo : todo.Nodup)
    (hfree : free.Nodup) (hx : extendable g other r free todo = true) :
    ∃ found, Found g other r found free todo := by
  induction todo generalizing r free with
  | nil =>
    refine ⟨r, fun _ _ => rfl, fun _ ha => absurd ha List.not_mem_nil,
      fun _ ha => absurd ha List.not_mem_nil, fun t ht => ?_⟩
    exact contains_iff.1 (List.all_eq_true.1 hx t ht)
  | cons label todo ih =>
    obtain ⟨hnot, htodo⟩ := List.nodup_cons.1 htodo
    obtain ⟨candidate, hcandidate, hx⟩ := List.any_eq_true.1 hx
    obtain ⟨-, hx⟩ := Bool.and_eq_true_iff.1 hx
    obtain ⟨found, hbefore, himages, hdistinct, htriples⟩ := ih htodo (hfree.erase candidate) hx
    have hlabel : found.label? label = some candidate := by
      rw [hbefore label hnot, Renaming.label?, List.lookup_cons_self]
    -- the candidate is no longer free behind the label, so no other blank node goes there
    have hother : ∀ a ∈ todo, found.label? a ≠ some candidate := by
      intro a ha he
      obtain ⟨b, hb, hab⟩ := himages a ha
      rw [he] at hab
      cases hab
      exact hfree.not_mem_erase hb
    refine ⟨found, fun a ha => ?_, ?_, ?_, htriples⟩
    · obtain ⟨hne, ha⟩ := not_or.1 (mt List.mem_cons.2 ha)
      have hne : (a == label) = false := beq_false_of_ne hne
      rw [hbefore a ha, Renaming.label?, List.lookup_cons, hne]
      rfl
    · refine List.forall_mem_cons.2 ⟨⟨candidate, hcandidate, hlabel⟩, fun a ha => ?_⟩
      obtain ⟨b, hb, hab⟩ := himages a ha
      exact ⟨b, List.mem_of_mem_erase hb, hab⟩
    · refine List.forall_mem_cons.2 ⟨List.forall_mem_cons.2 ⟨fun _ => rfl, fun b hb he => ?_⟩,
        fun a ha => List.forall_mem_cons.2 ⟨fun he => ?_, hdistinct a ha⟩⟩
      · exact absurd (he.symm.trans hlabel) (hother b hb)
      · exact absurd (he.trans hlabel) (hother a ha)

/-- The search finds renamings only that take the triples of the graph to those of the other. -/
theorem renames_of_isIsomorphicInOrder (hg : g.Stored) (horder : order.Nodup)
    (hi : g.isIsomorphicInOrder other order = true) :
    ∃ σ, Renames σ g other := by
  obtain ⟨hi, hx⟩ := Bool.and_eq_true_iff.1 hi
  obtain ⟨hi, -⟩ := Bool.and_eq_true_iff.1 hi
  obtain ⟨hsize, -⟩ := Bool.and_eq_true_iff.1 hi
  obtain ⟨found, -, himages, hdistinct, htriples⟩ :=
    exists_of_extendable (blanks_spec g).1.nodup horder hx
  have hinj : ∀ a ∈ g.blanks, ∀ b ∈ g.blanks,
      (found.label? a).getD a = (found.label? b).getD b → a = b := by
    intro a ha b hb he
    obtain ⟨x, -, hx⟩ := himages a ha
    obtain ⟨y, -, hy⟩ := himages b hb
    rw [hx, hy] at he
    refine hdistinct a ha b hb ?_
    rw [hx, hy]
    exact congrArg some he
  have htriple : ∀ t : Triple, t.rename (fun a => (found.label? a).getD a) = found.triple t := by
    rintro ⟨s, p, o⟩
    cases s <;> cases o <;> rfl
  -- there are as many triples as renamed ones, so containment is equality
  have hperm : (g.triples.map (Triple.rename fun a => (found.label? a).getD a)).Perm
      other.triples := by
    refine ((nodup_rename hg hinj).subperm fun t ht => ?_).perm_of_length_le ?_
    · obtain ⟨u, hu, rfl⟩ := List.mem_map.1 ht
      exact htriple u ▸ htriples u hu
    · rw [List.length_map]
      exact (beq_iff_eq.1 hsize).ge
  refine ⟨_, hinj, fun t => ?_⟩
  rw [← hperm.mem_iff, List.mem_map]
  exact exists_congr fun u => and_congr_right fun _ => eq_comm

/-- In whatever order the candidates are tried, the search finds out whether the graphs are
isomorphic. -/
theorem isIsomorphicInOrder_iff (hg : g.Stored) (ho : other.Stored)
    (horder : order.Perm other.blanks) :
    g.isIsomorphicInOrder other order = true ↔ Isomorphic g other := by
  constructor
  · intro hi
    have hnodup : order.Nodup := horder.nodup_iff.2 (blanks_spec other).1.nodup
    obtain ⟨σ, hr⟩ := renames_of_isIsomorphicInOrder hg hnodup hi
    exact ⟨σ, hr.matches⟩
  · rintro ⟨σ, hm⟩
    exact isIsomorphicInOrder_of_rename hg ho hm.renames horder

/-- Isomorphism is decided: two graphs are found to be isomorphic exactly if a bijection of their
blank nodes takes the triples of one onto those of the other, and the search comes to the same
answer in whatever order it tries the blank nodes of the other graph. So to be found isomorphic is
an equivalence of graphs. -/
theorem isIsomorphic_decides :
    (∀ g other : Graph, g.Built → other.Built →
      (g.isIsomorphic other = true ↔ Isomorphic g other) ∧
        ∀ order : List String, order.Perm other.blanks →
          g.isIsomorphicInOrder other order = g.isIsomorphic other) ∧
      Equivalence fun g other : {g : Graph // g.Built} => g.1.isIsomorphic other.1 = true := by
  have hiff : ∀ g other : Graph, g.Built → other.Built →
      (g.isIsomorphic other = true ↔ Isomorphic g other) := fun g other hg ho =>
    isIsomorphicInOrder_iff hg.stored ho.stored (.refl _)
  refine ⟨fun g other hg ho => ⟨hiff g other hg ho, fun order horder => ?_⟩, ?_, ?_, ?_⟩
  · rw [Bool.eq_iff_iff, hiff g other hg ho]
    exact isIsomorphicInOrder_iff hg.stored ho.stored horder
  · exact fun g => (hiff g.1 g.1 g.2 g.2).2 (.refl g.1)
  · intro g other hi
    exact (hiff other.1 g.1 other.2 g.2).2 ((hiff g.1 other.1 g.2 other.2).1 hi).symm
  · intro g mid other hi hi'
    exact (hiff g.1 other.1 g.2 other.2).2
      (((hiff g.1 mid.1 g.2 mid.2).1 hi).trans ((hiff mid.1 other.1 mid.2 other.2).1 hi'))

/-- Two blank nodes that know each other and one that knows both, under two sets of labels; and a
path, which has as many triples between as many blank nodes as a star. -/
theorem isIsomorphic_decides_triangle :
    let edge : String → String → Triple := fun a b => ⟨.blankNode a, .iri "urn:p", .blankNode b⟩
    let left : Graph := .ofList [edge "a" "b", edge "b" "a", edge "c" "a", edge "c" "b"]
    let right : Graph := .ofList [edge "x" "y", edge "x" "z", edge "y" "z", edge "z" "y"]
    let star : Graph := .ofList [edge "a" "b", edge "a" "c"]
    let path : Graph := .ofList [edge "a" "b", edge "b" "c"]
    Isomorphic left right ∧ left.isIsomorphicInOrder right ["z", "x", "y"] = true ∧
      ¬ Isomorphic star path := by
  intro edge left right star path
  obtain ⟨hiff, horder⟩ := isIsomorphic_decides.1 left right (.ofList _) (.ofList _)
  have hfound : left.isIsomorphic right = true := by decide +kernel
  have hpath := (isIsomorphic_decides.1 star path (.ofList _) (.ofList _)).1
  refine ⟨hiff.1 hfound, ?_, fun hi => ?_⟩
  · have hperm : ["z", "x", "y"].Perm right.blanks := by decide +kernel
    rw [horder _ hperm]
    exact hfound
  · have hno : star.isIsomorphic path = false := by decide +kernel
    rw [hpath.2 hi] at hno
    cases hno

end Graph

end LinkedShapes
