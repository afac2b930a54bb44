import LinkedShapes.Graph.Basic
import LinkedShapes.Proofs.Sorted

/-!
# The graph store

A graph keeps its triples twice, in their order and by object. `Graph.Stored` says how the two
lists stand to each other, and no operation breaks it.

* `Graph.Stored.add` is the step: one more triple keeps both lists right.
* `Graph.Built.stored` is the run: whatever the operations put together is stored right.
* `Graph.Stored.eq_of_mem_iff`: the list by object is determined by the triples.
* `Graph.Stored.edges_eq_filter`: following edges, forwards and backwards, selects the triples that
  lead from the source, in their order.
-/

namespace LinkedShapes

open Sorted

/-! ## The order of terms and triples -/

/-- The blank node with the empty label is the least of all terms. -/
theorem Term.not_lt_least (x : Term) : compare x (.blankNode "") ≠ .lt := by
  intro h
  have h : Term.order x (.blankNode "") = .lt := h
  cases x with
  | blankNode label =>
    simp only [order, compareLex, compareOn, rank, datatypeKey, language, text,
      Std.ReflCmp.compare_self, Ordering.then] at h
    have hlt : label < "" := compareOfLessAndEq_eq_lt.1 h
    exact absurd (String.lt_iff.1 hlt) (List.not_lt_nil _)
  | iri i => cases h
  | literal l => cases h

namespace Triple

theorem compare_eq (t u : Triple) :
    compare t u = (compare t.subject u.subject).then
      ((compare t.predicate u.predicate).then (compare t.object u.object)) := rfl

/-- Only a predicate without an identifier is mistaken for another, the empty identifier. -/
theorem traverses_iff {t : Triple} {source : Term} {iri : String} {inverse : Bool}
    (h : iri ≠ "" ∨ t.predicate.isIri = true) :
    t.traverses source iri inverse = true ↔
      t.predicate = .iri iri ∧ (if inverse then t.object else t.subject) = source := by
  have hp : t.predicateIri = iri ↔ t.predicate = .iri iri := by
    unfold predicateIri
    cases hc : t.predicate with
    | iri i => simp [Term.iri?]
    | blankNode label =>
      rw [hc] at h
      have hne : "" ≠ iri := (h.resolve_right (by simp [Term.isIri])).symm
      simpa [Term.iri?] using hne
    | literal l =>
      rw [hc] at h
      have hne : "" ≠ iri := (h.resolve_right (by simp [Term.isIri])).symm
      simpa [Term.iri?] using hne
  cases inverse <;> simp [traverses, hp]

/-- The least possible edge from a source through a predicate. -/
abbrev least (source : Term) (iri : String) : Triple := ⟨source, .iri iri, .blankNode ""⟩

theorem not_lt_least {t : Triple} {source : Term} {iri : String} (hs : t.subject = source)
    (hp : t.predicate = .iri iri) : compare t (least source iri) ≠ .lt := by
  rw [compare_eq, hs, hp, Std.compare_self, Std.compare_self]
  exact Term.not_lt_least t.object

/-- Between the least possible edge and an edge there are edges only. -/
theorem edge_of_between {t u : Triple} {source : Term} {iri : String}
    (ht : compare t (least source iri) ≠ .lt) (htu : compare t u = .lt)
    (hs : u.subject = source) (hp : u.predicate = .iri iri) :
    t.subject = source ∧ t.predicate = .iri iri := by
  rw [compare_eq] at ht htu
  rw [hs, hp] at htu
  cases hcs : compare t.subject source with
  | lt => simp [hcs, Ordering.then] at ht
  | gt => simp [hcs, Ordering.then] at htu
  | eq =>
    cases hcp : compare t.predicate (.iri iri) with
    | lt => simp [hcs, hcp, Ordering.then] at ht
    | gt => simp [hcs, hcp, Ordering.then] at htu
    | eq => exact ⟨Std.LawfulEqOrd.eq_of_compare hcs, Std.LawfulEqOrd.eq_of_compare hcp⟩

end Triple

namespace Graph

/-! ## What a store is -/

/-- The two lists of a graph are in order, and the second is the first by object. -/
structure Stored (g : Graph) : Prop where
  increasing : Increasing g.triples
  keys : KeysIncreasing g.incoming
  bucket : ∀ o, (find? o g.incoming).getD [] = g.triples.filter (·.object = o)
  nonempty : ∀ o bucket, (o, bucket) ∈ g.incoming → bucket ≠ []

theorem Stored.empty : Stored empty where
  increasing := List.Pairwise.nil
  keys := List.Pairwise.nil
  bucket := fun _ => rfl
  nonempty := fun _ _ h => nomatch h

variable {g g' : Graph} {t : Triple}

theorem contains_iff : g.contains t = true ↔ t ∈ g.triples := by
  unfold contains
  exact List.contains_iff_mem

theorem mem_add {u : Triple} : u ∈ (g.add t).triples ↔ u = t ∨ u ∈ g.triples := by
  unfold add
  split
  · next h =>
    rw [contains_iff] at h
    exact ⟨Or.inr, fun hu => hu.elim (fun e => e ▸ h) id⟩
  · exact mem_insert

theorem mem_extend {ts : List Triple} {u : Triple} :
    u ∈ (g.extend ts).triples ↔ u ∈ g.triples ∨ u ∈ ts := by
  induction ts generalizing g with
  | nil => simp [extend]
  | cons t ts ih =>
    show u ∈ ((g.add t).extend ts).triples ↔ _
    rw [ih, mem_add, List.mem_cons]
    constructor
    · rintro ((h | h) | h) <;> simp [h]
    · rintro (h | h | h) <;> simp [h]

theorem mem_merge {other : Graph} {u : Triple} :
    u ∈ (g.merge other).triples ↔ u ∈ g.triples ∨ u ∈ other.triples := mem_extend

theorem mem_ofList {ts : List Triple} {u : Triple} : u ∈ (ofList ts).triples ↔ u ∈ ts := by
  unfold ofList
  rw [mem_extend]
  exact ⟨fun h => h.resolve_left List.not_mem_nil, Or.inr⟩

/-! ## Every operation keeps the store -/

/-- One more triple keeps both lists right. -/
theorem Stored.add (h : g.Stored) (t : Triple) : (g.add t).Stored := by
  unfold Graph.add
  split
  · exact h
  · refine ⟨pairwise_insert h.increasing, pairwise_alter h.keys, ?_, ?_⟩
    · intro o
      by_cases ho : t.object = o
      · subst ho
        rw [find?_alter_self h.keys, Option.getD_some, h.bucket]
        exact insert_filter h.increasing (by simp)
      · rw [find?_alter_of_ne (Ne.symm ho), h.bucket]
        exact (filter_insert_of_not h.increasing (by simp [ho])).symm
    · intro o bucket hm
      rcases alter_key_mem hm with ho | hm
      · have hfound := find?_of_mem (pairwise_alter h.keys) hm
        have ho : o = t.object := ho
        rw [ho, find?_alter_self h.keys] at hfound
        rw [← Option.some.inj hfound]
        exact List.ne_nil_of_mem (mem_insert.2 (Or.inl rfl))
      · exact h.nonempty o bucket hm

theorem Stored.extend (h : g.Stored) (ts : List Triple) : (g.extend ts).Stored := by
  induction ts generalizing g with
  | nil => exact h
  | cons t ts ih => exact ih (h.add t)

/-- The graphs that the operations put together from the empty graph, in any order. -/
inductive Built : Graph → Prop
  | empty : Built empty
  | add {g : Graph} : Built g → ∀ t, Built (g.add t)
  | addTriple {g : Graph} : Built g → ∀ s p o, Built (g.addTriple s p o)
  | extend {g : Graph} : Built g → ∀ ts, Built (g.extend ts)
  | merge {g other : Graph} : Built g → Built other → Built (g.merge other)
  | ofList : ∀ ts, Built (ofList ts)

/-- Whatever the operations put together is stored right. -/
theorem Built.stored (h : g.Built) : g.Stored := by
  induction h with
  | empty => exact Stored.empty
  | add _ t ih => exact ih.add t
  | addTriple _ s p o ih => exact ih.add ⟨s, p, o⟩
  | extend _ ts ih => exact ih.extend ts
  | merge _ _ ih _ => exact ih.extend _
  | ofList ts => exact Stored.empty.extend ts

/-! ## Equality -/

namespace Stored

theorem mem_incoming_iff (h : g.Stored) {o : Term} {bucket : List Triple} :
    (o, bucket) ∈ g.incoming ↔ bucket = g.triples.filter (·.object = o) ∧ bucket ≠ [] := by
  constructor
  · intro hm
    refine ⟨?_, h.nonempty o bucket hm⟩
    rw [← h.bucket o, find?_of_mem h.keys hm, Option.getD_some]
  · rintro ⟨hb, hne⟩
    rw [← h.bucket o] at hb
    cases hf : find? o g.incoming with
    | none =>
      rw [hf] at hb
      exact absurd hb hne
    | some known =>
      rw [hf] at hb
      rw [hb]
      exact mem_of_find? hf

/-- A stored graph is determined by its triples. -/
theorem eq_of_mem_iff (h : g.Stored) (h' : g'.Stored)
    (hm : ∀ t, t ∈ g.triples ↔ t ∈ g'.triples) : g = g' := by
  have ht : g.triples = g'.triples := Sorted.eq_of_mem_iff h.increasing h'.increasing hm
  have hi : g.incoming = g'.incoming := by
    refine entries_eq_of_mem_iff h.keys h'.keys ?_
    rintro ⟨o, bucket⟩
    rw [h.mem_incoming_iff, h'.mem_incoming_iff, ht]
  cases g
  cases g'
  cases ht
  cases hi
  rfl

theorem empty_merge (h : g.Stored) : Graph.empty.merge g = g := by
  refine eq_of_mem_iff (Stored.empty.extend _) h fun t => ?_
  rw [mem_merge]
  exact or_iff_right List.not_mem_nil

/-! ## Edges -/

theorem edges_forward (h : g.Stored) {source : Term} {iri : String}
    (hi : iri ≠ "" ∨ ∀ t ∈ g.triples, t.predicate.isIri = true) :
    g.edges source iri false = g.triples.filter (·.traverses source iri false) := by
  have hfrom : (g.triples.dropWhile (compare · (Triple.least source iri) == .lt)) =
      g.triples.filter fun t => !(compare t (Triple.least source iri) == .lt) := by
    refine dropWhile_eq_filter (h.increasing.imp ?_)
    intro t u htu hu
    exact beq_iff_eq.2 (Std.TransCmp.lt_trans htu (beq_iff_eq.1 hu))
  show (g.triples.dropWhile (compare · (Triple.least source iri) == .lt)).takeWhile _ = _
  have edge_iff : ∀ t ∈ g.triples, t.traverses source iri false = true ↔
      t.predicate = .iri iri ∧ t.subject = source := by
    intro t ht
    exact Triple.traverses_iff (hi.imp_right fun hp => hp t ht)
  rw [hfrom, takeWhile_eq_filter, List.filter_filter]
  · refine List.filter_congr ?_
    intro t hm
    cases ht : t.traverses source iri false with
    | false => rfl
    | true =>
      obtain ⟨hp, hs⟩ := (edge_iff t hm).1 ht
      simpa using Triple.not_lt_least hs hp
  · -- past the lower bound, what stands before an edge is an edge
    refine List.pairwise_filter.2 (List.Pairwise.imp_of_mem ?_ h.increasing)
    intro t u hmt hmu htu ht _ hu
    obtain ⟨hp, hs⟩ := (edge_iff u hmu).1 hu
    have ht : compare t (Triple.least source iri) ≠ .lt := by simpa using ht
    obtain ⟨hs', hp'⟩ := Triple.edge_of_between ht htu hs hp
    exact (edge_iff t hmt).2 ⟨hp', hs'⟩

theorem edges_backward (h : g.Stored) {source : Term} {iri : String} :
    g.edges source iri true = g.triples.filter (·.traverses source iri true) := by
  show ((find? source g.incoming).getD []).filter _ = _
  rw [h.bucket, List.filter_filter]
  refine List.filter_congr ?_
  intro t _
  rw [Triple.traverses, if_pos rfl, Bool.beq_eq_decide_eq t.object]

/-- The edges from a source are the triples that lead from it, in their order. -/
theorem edges_eq_filter (h : g.Stored) {source : Term} {iri : String}
    (hi : iri ≠ "" ∨ ∀ t ∈ g.triples, t.predicate.isIri = true) (inverse : Bool) :
    g.edges source iri inverse = g.triples.filter (·.traverses source iri inverse) := by
  cases inverse with
  | false => exact h.edges_forward hi
  | true => exact h.edges_backward

theorem mem_edges_iff (h : g.Stored) {source : Term} {iri : String}
    (hi : iri ≠ "" ∨ ∀ t ∈ g.triples, t.predicate.isIri = true) {inverse : Bool} :
    t ∈ g.edges source iri inverse ↔
      t ∈ g.triples ∧ t.traverses source iri inverse = true := by
  rw [h.edges_eq_filter hi, List.mem_filter]

theorem edges_increasing (h : g.Stored) {source : Term} {iri : String}
    (hi : iri ≠ "" ∨ ∀ t ∈ g.triples, t.predicate.isIri = true) (inverse : Bool) :
    Increasing (g.edges source iri inverse) := by
  rw [h.edges_eq_filter hi]
  exact List.Pairwise.filter _ h.increasing

end Stored

/-! ## The store of a run -/

/-- The store of every run of operations: the list by object holds, under each object, the triples
with that object and nothing else, and no empty bucket; equality, that list included, is having the
same triples; and edges are the triples that lead from the source, each once and in order. -/
theorem built_store (h : g.Built) (h' : g'.Built) :
    (∀ o t, t ∈ (find? o g.incoming).getD [] ↔ t ∈ g.triples ∧ t.object = o) ∧
    (∀ o bucket, (o, bucket) ∈ g.incoming → find? o g.incoming = some bucket ∧ bucket ≠ []) ∧
    (g = g' ↔ ∀ t, t ∈ g.triples ↔ t ∈ g'.triples) ∧
    ∀ source iri inverse, iri ≠ "" →
      (∀ t, t ∈ g.edges source iri inverse ↔
        t ∈ g.triples ∧ t.traverses source iri inverse = true) ∧
      (g.edges source iri inverse).Nodup ∧ Increasing (g.edges source iri inverse) := by
  have hg := h.stored
  refine ⟨?_, ?_, ?_, ?_⟩
  · intro o t
    rw [hg.bucket, List.mem_filter]
    simp
  · intro o bucket hm
    exact ⟨find?_of_mem hg.keys hm, hg.nonempty o bucket hm⟩
  · constructor
    · rintro rfl t
      exact Iff.rfl
    · exact hg.eq_of_mem_iff h'.stored
  · intro source iri inverse hi
    have hinc : Increasing (g.edges source iri inverse) := hg.edges_increasing (.inl hi) inverse
    exact ⟨fun t => hg.mem_edges_iff (.inl hi), hinc.nodup, hinc⟩

/-- Two triples with one object, put together in two orders and with a repetition. -/
theorem built_store_reordered :
    let first : Triple := ⟨.iri "urn:a", .iri "urn:p", .iri "urn:c"⟩
    let second : Triple := ⟨.blankNode "", .iri "urn:p", .iri "urn:c"⟩
    (empty.add first).addTriple (.blankNode "") (.iri "urn:p") (.iri "urn:c") =
        ofList [second, first, second] ∧
      second ∈ (ofList [second, first, second]).edges (.iri "urn:c") "urn:p" true := by
  intro first second
  have hone : ((empty.add first).addTriple (.blankNode "") (.iri "urn:p") (.iri "urn:c")).Built :=
    .addTriple (.add .empty first) _ _ _
  have htwo : (ofList [second, first, second]).Built := .ofList _
  have hmem : ∀ t, t ∈ (ofList [second, first, second]).triples ↔ t = second ∨ t = first := by
    intro t
    rw [mem_ofList]
    simp [or_comm]
  obtain ⟨-, -, heq, -⟩ := built_store hone htwo
  obtain ⟨-, -, -, hedges⟩ := built_store htwo hone
  constructor
  · refine heq.2 fun t => ?_
    rw [hmem, addTriple, mem_add, mem_add]
    exact or_congr_right (or_iff_left List.not_mem_nil)
  · obtain ⟨hiff, -, -⟩ := hedges (.iri "urn:c") "urn:p" true (by decide)
    exact (hiff second).2 ⟨(hmem second).2 (Or.inl rfl), by decide⟩

end Graph

end LinkedShapes
