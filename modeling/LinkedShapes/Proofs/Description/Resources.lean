import LinkedShapes.Proofs.Description.Focus

/-!
# Graphs of named resources

A graph whose subjects and objects are all named may link them in any way, in cycles too: its
description still reads as a part of the graph, with all edges of the focus in it, and the part has
the same description as the whole.

* `resources_read_back` is the result. No blank node is dropped in such a graph, so the simulation
  applies with the renaming that changes nothing.
* `empty_focus_reads_otherwise`: the focus has to have an identifier. The empty one is written as
  an empty text, which reads as a fresh blank node.
-/

namespace LinkedShapes.Description

open Vocabulary

variable {focus : String} {shape : Shape} {k : Keywords} {g : Graph}

/-- Predicates are identifiers, and subjects and objects are identifiers that read back. -/
def NamesReadBack (focus : String) (g : Graph) : Prop :=
  ∀ t ∈ g.triples, ∃ i p j, t = ⟨.iri i, .iri p, .iri j⟩ ∧ ReadsBack focus i ∧ ReadsBack focus j

/-- Every level of the shape has a table, and none of its fields asks for blank nodes. -/
def TablesOfResources (k : Keywords) (shape : Shape) : Prop :=
  ∀ inner, Level k shape inner → ∃ a, Aliases.ofShape inner k = .ok a ∧
    ∀ e ∈ a.entries, e.2.shape.datatype? ≠ some Abstract.bnode

/-- The description of the focus reads as a part of the graph that has all edges of the focus and
the same description. -/
def ReadsAsPart (focus : String) (shape : Shape) (k : Keywords) (g : Graph)
    (embedContext : Bool) (L : Labels) : Prop :=
  ∃ json h, (sourceOf g k focus).focusJson focus shape embedContext = .ok json ∧
    focusTriples (.of focus k) shape json L = .ok (h, L) ∧
    (∀ t ∈ h.triples, t ∈ g.triples) ∧
    (∀ a, Aliases.ofShape shape k = .ok a → ∀ e ∈ a.entries,
      ∀ t ∈ g.edges (.iri (Iri.normalize focus)) e.2.edge.iri e.2.edge.inverse, t ∈ h.triples) ∧
    (sourceOf h k focus).focusJson focus shape embedContext = .ok json

theorem NamesReadBack.namedPredicates (h : NamesReadBack focus g) : NamedPredicates g := by
  intro t ht
  obtain ⟨i, p, j, rfl, -, -⟩ := h t ht
  rfl

/-- The ends of what is visited are identifiers that read back. -/
theorem NamesReadBack.visit (h : NamesReadBack focus g) (hg : g.Stored) {levels : Nat} {r : Term}
    {trail : List Term} {x : Visit} (hx : x ∈ (sourceOf g k focus).visits levels r shape trail) :
    ∃ i, x.value = .iri i ∧ ReadsBack focus i := by
  have hmem : x.triple id ∈ (sourceOf g k focus).graph.triples :=
    triple_mem_of_visits hg h.namedPredicates hx
  obtain ⟨i, p, j, ht, hi, hj⟩ := h _ hmem
  unfold Visit.triple Edge.triple at ht
  split at ht
  · exact ⟨i, congrArg Triple.subject ht, hi⟩
  · exact ⟨j, congrArg Triple.object ht, hj⟩

/-- The fields of what is visited are in a table. -/
theorem field_of_visits {src : Source} {levels : Nat} {r : Term} {trail : List Term} {x : Visit}
    (ht : ∀ inner, Level src.keywords shape inner →
      ∃ a, Aliases.ofShape inner src.keywords = .ok a)
    (hx : x ∈ src.visits levels r shape trail) :
    ∃ inner a name, Level src.keywords shape inner ∧
      Aliases.ofShape inner src.keywords = .ok a ∧ (name, x.field) ∈ a.entries := by
  induction levels generalizing r shape trail with
  | zero => exact absurd hx List.not_mem_nil
  | succ levels ih =>
    obtain ⟨a, ha⟩ := ht shape .top
    obtain ⟨⟨name, f⟩, he, hx⟩ := List.mem_flatMap.1 hx
    rw [Source.table_of_ok ha] at he
    obtain ⟨v, -, hx⟩ := List.mem_flatMap.1 hx
    rcases List.mem_cons.1 hx with rfl | hx
    · exact ⟨shape, a, name, .top, ha, he⟩
    · unfold behind at hx
      split at hx
      · exact absurd hx List.not_mem_nil
      · obtain ⟨inner, b, name', hl, hb, hm⟩ := ih (fun inner hl => ht inner (hl.under ha he)) hx
        exact ⟨inner, b, name', hl.under ha he, hb, hm⟩

/-- Named resources can be described: all that is visited is legible, and no literal is met. -/
theorem describable_of_resources (ht : TablesOfResources k shape) (hg : g.Stored)
    (hn : NamesReadBack focus g) {r : Term} :
    Describable (.of focus k) (sourceOf g k focus) shape.depth r shape [] := by
  have htable : ∀ inner, Level k shape inner → ∃ a, Aliases.ofShape inner k = .ok a :=
    fun inner hl => (ht inner hl).imp fun _ h => h.1
  refine ⟨htable, fun x hx => ?_, fun x hx htagged => ?_, fun x hx _ => ?_⟩
  · obtain ⟨i, hi, hback⟩ := hn.visit hg hx
    obtain ⟨inner, a, name, hl, ha, hm⟩ := field_of_visits htable hx
    obtain ⟨b, hb, hnot⟩ := ht inner hl
    have hab : a = b := Except.ok.inj (ha.symm.trans hb)
    unfold Legible
    rw [hi]
    exact ⟨hback.resolve, fun _ => hnot _ (hab ▸ hm)⟩
  · -- a named resource has no language
    obtain ⟨i, hi, -⟩ := hn.visit hg hx
    have hlanguage := htagged.2 _ (Source.value_mem_follow hx)
    rw [hi] at hlanguage
    cases hlanguage
  · obtain ⟨i, hi, -⟩ := hn.visit hg hx
    rw [hi]
    rfl

/-- The edges of the resource that is described are the first that are visited. -/
theorem visit_of_edge (hg : g.Stored) (hp : NamedPredicates g) {r : Term} {a : Aliases}
    (ha : Aliases.ofShape shape k = .ok a) {e : String × Field} (he : e ∈ a.entries) {t : Triple}
    (ht : t ∈ g.edges r e.2.edge.iri e.2.edge.inverse) :
    ∃ x ∈ (sourceOf g k focus).visits shape.depth r shape [], x.triple id = t := by
  have htriple := (hg.mem_edges_iff (Or.inr hp)).1 ht
  have hend : e.2.edge.triple r (t.target e.2.edge.inverse) = t :=
    (eq_triple_of_traverses (hp t htriple.1) htriple.2).symm
  -- a shape with a field is more than one level deep, so that its fields are followed
  obtain ⟨levels, hlevels⟩ :=
    Nat.exists_eq_add_one.2 (Nat.zero_lt_of_lt (Shape.depth_lt_of_mem ha he))
  refine ⟨visit ((sourceOf g k focus).visits levels) r [r] e.2 (t.target e.2.edge.inverse), ?_,
    hend⟩
  rw [hlevels]
  refine Source.mem_visits_of_follow ?_ (List.mem_map_of_mem ht)
  rw [Source.table_of_ok ha]
  exact he

/-- The description of a focus among named resources reads as a part of their graph that has every
edge of the focus and the same description, however the resources are linked. -/
theorem resources_read_back (embedContext : Bool) (L : Labels) (hf : focus ≠ "")
    (hk : k.check = .ok ()) (ht : TablesOfResources k shape) (hg : g.Built)
    (hn : NamesReadBack focus g) (hself : ReadsBack focus (Iri.normalize focus)) :
    ReadsAsPart focus shape k g embedContext L := by
  have hstored := hg.stored
  obtain ⟨json, hjson, hA⟩ :=
    source_told hf hk hself (describable_of_resources ht hstored hn) embedContext
  -- no blank node is met, so no label is drawn and nothing is renamed
  have hnone : anonymous ((sourceOf g k focus).visits shape.depth (.iri (Iri.normalize focus)) shape
      []) = [] := by
    refine anonymous_eq_nil fun x hx => ?_
    obtain ⟨i, hi, -⟩ := hn.visit hstored hx
    rw [hi]
    rfl
  obtain ⟨h, hread, hstored', hmem⟩ := hA.reads id L
    ⟨fun _ => rfl, fun _ => rfl, fun _ h => h, by rw [hnone]; rfl, fun _ _ _ => rfl⟩
  have hafter : labelsAfter L ((sourceOf g k focus).visits shape.depth
      (.iri (Iri.normalize focus)) shape []) = L := by rw [labelsAfter, hnone]; rfl
  rw [hafter] at hread
  have hsub : ∀ t ∈ h.triples, t ∈ g.triples := by
    intro t ht
    obtain ⟨x, hx, rfl⟩ := (hmem t).1 ht
    have hin : x.triple id ∈ (sourceOf g k focus).graph.triples :=
      triple_mem_of_visits hstored hn.namedPredicates hx
    exact hin
  refine ⟨json, h, hjson, hread, hsub, fun a ha e he t ht => ?_, ?_⟩
  · obtain ⟨x, hx, rfl⟩ := visit_of_edge hstored hn.namedPredicates ha he ht
    exact (hmem _).2 ⟨x, hx, rfl⟩
  · rw [← hjson]
    exact focusJson_congr hstored hstored' hn.namedPredicates hsub
      (fun x hx => (hmem _).2 ⟨x, hx, rfl⟩) embedContext

/-! ## Two graphs -/

/-- A chain of two fields on one edge. -/
def chain (p : String) : Shape := .field ⟨p, false⟩ none (.field ⟨p, false⟩ none (.and []))

theorem tables_chain : TablesOfResources .none (chain "urn:x:p") := by
  have hclosed : tablesClosed .none
      [chain "urn:x:p", .field ⟨"urn:x:p", false⟩ none (.and []), .and []] = true := by
    decide +kernel
  have hprobe : ∀ shape ∈ [chain "urn:x:p", .field ⟨"urn:x:p", false⟩ none (.and []), .and []],
      shape.datatype? ≠ some Abstract.bnode := by decide +kernel
  intro inner hl
  obtain ⟨a, ha, hmem⟩ :=
    tablesClosed_iff.1 hclosed inner (hl.mem_of_closed hclosed List.mem_cons_self)
  exact ⟨a, ha, fun e he => hprobe _ (hmem e he)⟩

/-- Two resources that are linked to each other. -/
def cycle : Graph :=
  .ofList [⟨.iri "urn:x:a", .iri "urn:x:p", .iri "urn:x:b"⟩,
    ⟨.iri "urn:x:b", .iri "urn:x:p", .iri "urn:x:a"⟩]

theorem resources_read_back_cycle :
    ReadsAsPart "urn:x:a" (chain "urn:x:p") .none cycle true default := by
  have hback : ReadsBack "urn:x:a" "urn:x:a" ∧ ReadsBack "urn:x:a" "urn:x:b" := by
    constructor <;> unfold ReadsBack <;> decide +kernel
  have hnormal : Iri.normalize "urn:x:a" = "urn:x:a" := by decide +kernel
  refine resources_read_back true default (by decide) rfl tables_chain (.ofList _)
    (fun t ht => ?_) ?_
  · rw [cycle, Graph.mem_ofList] at ht
    rcases List.mem_cons.1 ht with rfl | ht
    · exact ⟨_, _, _, rfl, hback.1, hback.2⟩
    · rw [List.mem_singleton.1 ht]
      exact ⟨_, _, _, rfl, hback.2, hback.1⟩
  · rw [hnormal]
    exact hback.1

/-- The empty focus linked to itself. -/
def emptyLoop : Graph := .ofList [⟨.iri "", .iri "urn:x:p", .iri ""⟩]

/-- The identifier of the empty focus reads as a fresh blank node, which the graph does not have. -/
theorem empty_focus_reads_otherwise :
    Keywords.none.check = .ok () ∧ TablesOfResources .none (chain "urn:x:p") ∧ emptyLoop.Built ∧
      NamesReadBack "" emptyLoop ∧ ReadsBack "" (Iri.normalize "") ∧
      ¬ ReadsAsPart "" (chain "urn:x:p") .none emptyLoop false default := by
  have hback : ReadsBack "" "" := by unfold ReadsBack; decide +kernel
  have hnormal : Iri.normalize "" = "" := by decide +kernel
  refine ⟨rfl, tables_chain, .ofList _, fun t ht => ?_, hnormal.symm ▸ hback, ?_⟩
  · rw [emptyLoop, Graph.mem_ofList, List.mem_singleton] at ht
    exact ⟨_, _, _, ht, hback, hback⟩
  · rintro ⟨json, h, hjson, hread, hsub, -⟩
    have hwritten : (sourceOf emptyLoop .none "").focusJson "" (chain "urn:x:p") false =
        .ok (.object [("@id", .string ""), ("p", .array [.object [("@id", .string "")]])]) := by
      decide +kernel
    have hje := Except.ok.inj (hjson.symm.trans hwritten)
    subst hje
    let read : Graph := .ofList [⟨.iri "", .iri "urn:x:p", .blankNode (Labels.numeral 0)⟩]
    have hgraph : (focusTriples (.of "" .none) (chain "urn:x:p")
        (.object [("@id", .string ""), ("p", .array [.object [("@id", .string "")]])])
          default).map Prod.fst = .ok read := by
      decide +kernel
    rw [hread] at hgraph
    have hrh : read = h := (Except.ok.inj hgraph).symm
    have hin := hsub ⟨.iri "", .iri "urn:x:p", .blankNode (Labels.numeral 0)⟩
      (hrh ▸ Graph.mem_ofList.2 List.mem_cons_self)
    rw [emptyLoop, Graph.mem_ofList, List.mem_singleton] at hin
    cases hin

end LinkedShapes.Description
