import LinkedShapes.Proofs.Description.Outcomes

/-!
# Descriptions suffice themselves

A scan that accepts a graph returns the triples on its way. Nothing else of the graph matters to it:
what a branch has accepted stays accepted in every part of the graph that still has these triples,
because the same edges are found there. Tests must not look at fields for this, as they contribute
no triples, and the predicates of the edges must tell them apart.

* `scanGroup_of_fieldless`: what looks at no field does not depend on the graph.
* `Scans.kept`: what is accepted of a graph is accepted of a part that has the triples collected.
* `scan_self_sufficient`: the result of a scan, as a graph of its own and with anything around it.
-/

namespace LinkedShapes

variable {g g' : Graph} {t : Triple} {source : Term} {edge : Edge}

/-! ## Edges in parts of a graph -/

/-- The edges of a kind can be told by their predicates in a graph. -/
def Edge.Clear (edge : Edge) (g : Graph) : Prop :=
  edge.inverse = true ∨ edge.iri ≠ "" ∨ ∀ t ∈ g.triples, t.predicate.isIri = true

namespace Graph.Stored

/-- The edges from a source are triples of the graph. -/
theorem mem_of_mem_edges (h : g.Stored) {iri : String} {inverse : Bool}
    (ht : t ∈ g.edges source iri inverse) : t ∈ g.triples := by
  cases inverse with
  | false => exact (List.dropWhile_sublist _).mem ((List.takeWhile_sublist _).mem ht)
  | true =>
    rw [h.edges_backward] at ht
    exact List.mem_of_mem_filter ht

theorem edges_of_clear (h : g.Stored) (hc : edge.Clear g) :
    g.edges source edge.iri edge.inverse =
      g.triples.filter (·.traverses source edge.iri edge.inverse) := by
  rcases hc with hinverse | hc
  · rw [hinverse]
    exact h.edges_backward
  · exact h.edges_eq_filter hc edge.inverse

/-- A part of a graph that has the edges from a source has the same edges, in the same order. -/
theorem edges_of_part (h : g.Stored) (h' : g'.Stored) (hc : edge.Clear g)
    (hsub : g'.triples ⊆ g.triples)
    (hin : g.edges source edge.iri edge.inverse ⊆ g'.triples) :
    g'.edges source edge.iri edge.inverse = g.edges source edge.iri edge.inverse := by
  have hc' : edge.Clear g' := hc.imp_right (Or.imp_right fun hp t ht => hp t (hsub ht))
  rw [h.edges_of_clear hc] at hin ⊢
  rw [h'.edges_of_clear hc']
  refine Sorted.eq_of_mem_iff (h'.increasing.filter _) (h.increasing.filter _) fun t => ?_
  constructor
  · intro ht
    obtain ⟨hm, htr⟩ := List.mem_filter.1 ht
    exact List.mem_filter.2 ⟨hsub hm, htr⟩
  · exact fun ht => List.mem_filter.2 ⟨hin ht, (List.mem_filter.1 ht).2⟩

end Graph.Stored

namespace Description

variable {shape inner : Shape} {shapes : List Shape} {a : Aliases} {s : Setting} {k : Keywords}
variable {terms : List Term} {label : Option String} {report : Report}

/-! ## What a scan looks at -/

theorem scanAll_congr
    (h : ∀ shape ∈ shapes, scanGroup s g a terms shape = scanGroup s g' a terms shape) :
    scanAll s g a terms shapes = scanAll s g' a terms shapes := by
  induction shapes with
  | nil => rfl
  | cons shape shapes ih =>
    obtain ⟨hshape, hshapes⟩ := List.forall_mem_cons.1 h
    rw [scanAll, scanAll, hshape, ih hshapes]

/-- What looks at no field does not depend on the graph. -/
theorem scanGroup_of_fieldless (h : ∀ edge label inner, .field edge label inner ∉ shape.within) :
    scanGroup s g a terms shape = scanGroup s g' a terms shape := by
  induction shape using Shape.induct with
  | and shapes ih =>
    rw [scanGroup, scanGroup, scanAll_congr fun shape hm => ih shape hm fun e l i hf =>
      h e l i ((Shape.ofLevel_and hm).within hf)]
  | or shapes ih =>
    rw [scanGroup, scanGroup, scanAll_congr fun shape hm => ih shape hm fun e l i hf =>
      h e l i ((Shape.ofLevel_or hm).within hf)]
  | when test pass fail iht ihp ihf =>
    obtain ⟨ht, hp, hf⟩ := Shape.ofLevel_when test pass fail
    rw [scanGroup, scanGroup, iht fun e l i hm => h e l i (ht.within hm),
      ihp fun e l i hm => h e l i (hp.within hm), ihf fun e l i hm => h e l i (hf.within hm)]
  | field edge label inner _ => exact absurd (Shape.self_mem_within _) (h edge label inner)
  | link iri inner ih =>
    rw [scanGroup_link, scanGroup_link]
    exact ih fun e l i hm => h e l i (Shape.ofLevel_link.within hm)
  | leaf shape hl => cases shape <;> first | rfl | cases hl

/-- What a scan collects are triples of the graph. -/
theorem mem_of_scanGroup (hg : g.Stored) (h : scanGroup s g a terms shape = .ok report)
    (ht : t ∈ report.triples.triples) : t ∈ g.triples := by
  induction shape using Shape.induct generalizing a terms report with
  | and shapes ih =>
    obtain ⟨inner, hi, other, hinner, ht⟩ :=
      (Collects.and_iff ⟨report, h⟩).1 ((collects_iff h).2 ht)
    exact ih inner hi hinner ht
  | or shapes ih =>
    obtain ⟨inner, hi, -, other, hinner, ht⟩ :=
      (Collects.or_iff ⟨report, h⟩).1 ((collects_iff h).2 ht)
    exact ih inner hi hinner ht
  | when test pass fail _ ihp ihf =>
    rw [scanGroup] at h
    obtain ⟨tested, -, h⟩ := ok_of_bind h
    split at h
    · exact ihp h ht
    · exact ihf h ht
  | field edge label inner ih =>
    obtain ⟨source, -, ht | ⟨table, -, other, hinner, ht⟩⟩ :=
      (Collects.field_iff ⟨report, h⟩).1 ((collects_iff h).2 ht)
    · exact hg.mem_of_mem_edges ht
    · exact ih hinner ht
  | link iri inner ih =>
    rw [scanGroup_link] at h
    exact ih h ht
  | leaf shape hl =>
    obtain ⟨trace, -, rfl⟩ := scanGroup_leaf hl h
    exact absurd ht not_mem_emptyReport

/-! ## Parts of a graph -/

/-- Nothing in a shape makes its scans depend on triples that they do not collect. -/
structure Grounded (k : Keywords) (g : Graph) (a : Aliases) (shape : Shape) : Prop where
  sound : shape.Sound k
  named : shape.Named a
  tests : shape.FieldlessTests
  edges : ∀ edge label inner, .field edge label inner ∈ shape.within → edge.Clear g

theorem Grounded.ofLevel (h : Grounded k g a shape) (hl : inner.OfLevel shape) :
    Grounded k g a inner where
  sound := h.sound.mono hl.within
  named := h.named.mono hl.parts
  tests := h.tests.mono hl.within
  edges := fun edge label s hf => h.edges edge label s (hl.within hf)

/-- A scan by a grounded shape has an outcome, of any graph. -/
theorem Grounded.outcome (h : Grounded s.keywords g a shape) (g' : Graph) :
    ∃ report, scanGroup s g' a terms shape = .ok report :=
  scanGroup_ok h.sound h.named

theorem Grounded.below (h : Grounded k g a (.field edge label inner)) :
    edge.Clear g ∧ ∃ table, Aliases.ofShape inner k = .ok table ∧ Grounded k g table inner := by
  have hmem : Shape.field edge label inner ∈ (Shape.field edge label inner).within :=
    Shape.self_mem_within _
  have hsub : inner.within ⊆ (Shape.field edge label inner).within := List.subset_cons_self _ _
  obtain ⟨table, htable, hnamed⟩ := h.sound.tables _ _ _ hmem
  exact ⟨h.edges _ _ _ hmem, table, htable, h.sound.mono hsub, hnamed, h.tests.mono hsub,
    fun e l s hf => h.edges e l s (hsub hf)⟩

/-- What is accepted of a graph, with all that is collected on the way. -/
def Kept (s : Setting) (g g' : Graph) (a : Aliases) (terms : List Term) (shape : Shape) : Prop :=
  Scans s g' a terms shape true ∧
    ∀ t, Collects s g a terms shape t → Collects s g' a terms shape t

namespace Kept

variable {c : Bool} {test pass fail : Shape} {table : Aliases} {iri : String}

theorem and (hok : ∀ g, ∃ report, scanGroup s g a terms (.and shapes) = .ok report)
    (h : ∀ inner ∈ shapes, Kept s g g' a terms inner) : Kept s g g' a terms (.and shapes) := by
  refine ⟨.and_true (hok g') fun inner hi => (h inner hi).1, fun t ht => ?_⟩
  obtain ⟨inner, hi, ht⟩ := (Collects.and_iff (hok g)).1 ht
  exact (Collects.and_iff (hok g')).2 ⟨inner, hi, (h inner hi).2 t ht⟩

/-- Alternatives that fail may hold in the part, and then only add to what is collected. -/
theorem or (hok : ∀ g, ∃ report, scanGroup s g a terms (.or shapes) = .ok report)
    (hor : Scans s g a terms (.or shapes) true)
    (h : ∀ inner ∈ shapes, Scans s g a terms inner true → Kept s g g' a terms inner) :
    Kept s g g' a terms (.or shapes) := by
  obtain ⟨inner, hi, hclean⟩ := hor.of_or.1 rfl
  refine ⟨.or_true (hok g') hi (h inner hi hclean).1, fun t ht => ?_⟩
  obtain ⟨inner, hi, hclean, ht⟩ := (Collects.or_iff (hok g)).1 ht
  obtain ⟨hclean', hkept⟩ := h inner hi hclean
  exact (Collects.or_iff (hok g')).2 ⟨inner, hi, hclean', hkept t ht⟩

theorem when (htest : Scans s g a terms test c) (htest' : Scans s g' a terms test c)
    (h : Kept s g g' a terms (if c = true then pass else fail)) :
    Kept s g g' a terms (.when test pass fail) :=
  ⟨.when htest' h.1, fun t ht =>
    (Collects.when_iff htest').2 (h.2 t ((Collects.when_iff htest).1 ht))⟩

theorem field (hok : ∀ g, ∃ report, scanGroup s g a terms (.field edge label inner) = .ok report)
    (htable : Aliases.ofShape inner s.keywords = .ok table)
    (hedges : ∀ source ∈ terms,
      g'.edges source edge.iri edge.inverse = g.edges source edge.iri edge.inverse)
    (h : ∀ source ∈ terms, Kept s g g' table (ends g edge source) inner) :
    Kept s g g' a terms (.field edge label inner) := by
  have hends : ∀ source ∈ terms, ends g' edge source = ends g edge source := by
    intro source hsource
    rw [ends, hedges source hsource, ← ends]
  refine ⟨.field_true (hok g') fun source hsource table' htable' => ?_, fun t ht => ?_⟩
  · rw [htable] at htable'
    cases htable'
    rw [hends source hsource]
    exact (h source hsource).1
  · obtain ⟨source, hsource, hmem⟩ := (Collects.field_iff (hok g)).1 ht
    refine (Collects.field_iff (hok g')).2 ⟨source, hsource, ?_⟩
    rw [hedges source hsource, hends source hsource]
    refine hmem.imp_right ?_
    rintro ⟨table', htable', hcollects⟩
    rw [htable] at htable'
    cases htable'
    exact ⟨table, htable, (h source hsource).2 t hcollects⟩

theorem link (h : Kept s g g' a terms inner) : Kept s g g' a terms (.link iri inner) := by
  unfold Kept Scans Collects at *
  simp only [scanGroup_link]
  exact h

end Kept

/-- What is accepted of a graph is accepted of a part that has the triples collected, and these
triples are collected again. -/
theorem Scans.kept (hs : Grounded s.keywords g a shape) (hg : g.Stored) (hg' : g'.Stored)
    (hsub : g'.triples ⊆ g.triples) (h : Scans s g a terms shape true)
    (hin : ∀ t, Collects s g a terms shape t → t ∈ g'.triples) :
    Kept s g g' a terms shape := by
  induction shape using Shape.induct generalizing a terms with
  | and shapes ih =>
    exact .and hs.outcome fun inner hi =>
      ih inner hi (hs.ofLevel (Shape.ofLevel_and hi)) (h.of_and.1 rfl inner hi) fun t ht =>
        hin t ((Collects.and_iff (hs.outcome g)).2 ⟨inner, hi, ht⟩)
  | or shapes ih =>
    exact .or hs.outcome h fun inner hi hclean =>
      ih inner hi (hs.ofLevel (Shape.ofLevel_or hi)) hclean fun t ht =>
        hin t ((Collects.or_iff (hs.outcome g)).2 ⟨inner, hi, hclean, ht⟩)
  | when test pass fail _ ihp ihf =>
    obtain ⟨-, hp, hf⟩ := Shape.ofLevel_when test pass fail
    obtain ⟨c, htest, hbranch⟩ := h.of_when
    -- the test has the same report in the part, as it looks at no field
    have htest' : Scans s g' a terms test c := by
      obtain ⟨report, hreport, hc⟩ := htest
      refine ⟨report, ?_, hc⟩
      rw [← hreport]
      exact scanGroup_of_fieldless (hs.tests _ _ _ (Shape.self_mem_within _))
    have hin' := fun t ht => hin t ((Collects.when_iff htest).2 ht)
    refine .when htest htest' ?_
    cases c with
    | true => exact ihp (hs.ofLevel hp) hbranch hin'
    | false => exact ihf (hs.ofLevel hf) hbranch hin'
  | field edge label inner ih =>
    obtain ⟨hclear, table, htable, hinner⟩ := hs.below
    refine .field hs.outcome htable (fun source hsource => ?_) fun source hsource => ?_
    · exact hg.edges_of_part hg' hclear hsub fun t ht =>
        hin t ((Collects.field_iff (hs.outcome g)).2 ⟨source, hsource, Or.inl ht⟩)
    · obtain ⟨name, -, hall, -⟩ := h.of_field
      obtain ⟨table', htable', hscan⟩ := hall rfl source hsource
      rw [htable] at htable'
      cases htable'
      exact ih hinner hscan fun t ht =>
        hin t ((Collects.field_iff (hs.outcome g)).2 ⟨source, hsource, Or.inr ⟨table, htable, ht⟩⟩)
  | link iri inner ih =>
    refine .link (ih (hs.ofLevel Shape.ofLevel_link) h.of_link fun t ht => hin t ?_)
    unfold Collects
    rw [scanGroup_link]
    exact ht
  | leaf shape hl =>
    have hsame : scanGroup s g a terms shape = scanGroup s g' a terms shape :=
      scanGroup_of_fieldless fun e l i hf => by
        rw [Shape.within_of_isLeaf hl] at hf
        rw [← List.mem_singleton.1 hf] at hl
        cases hl
    unfold Kept Scans Collects at *
    rw [hsame] at h
    exact ⟨h, fun t ht => hsame ▸ ht⟩

/-! ## Results of scans as graphs -/

/-- A shape that scans can follow wherever its fields lead, with tests that look at no field. -/
structure Scannable (k : Keywords) (shape : Shape) : Prop where
  guards : ∀ g, .guard g ∉ shape.within
  patterns : ∀ expression flags, .pattern expression flags ∈ shape.within →
    ∃ p, Pattern.compile expression flags = .ok p
  tests : shape.FieldlessTests
  table : ∃ a, Aliases.ofShape shape k = .ok a
  nested : ∀ edge label inner, .field edge label inner ∈ shape.within →
    ∃ a, Aliases.ofShape inner k = .ok a

theorem Scannable.grounded (h : Scannable k shape) (ha : Aliases.ofShape shape k = .ok a)
    (hc : ∀ edge label inner, .field edge label inner ∈ shape.within → edge.Clear g) :
    Grounded k g a shape where
  sound.guards := h.guards
  sound.patterns := h.patterns
  sound.tables := fun edge label inner hf => by
    obtain ⟨table, htable⟩ := h.nested edge label inner hf
    have hsub : inner.within ⊆ shape.within :=
      List.Subset.trans (List.subset_cons_self _ _) (Shape.within_subset_of_mem hf)
    exact ⟨table, htable, Shape.named_of_fieldless htable (h.tests.mono hsub)⟩
  named := Shape.named_of_fieldless ha h.tests
  tests := h.tests
  edges := hc

/-- The result of a scan is accepted with any triples of the graph around it, and by itself it is
the result again. -/
def SelfSufficient (focus : String) (k : Keywords) (shape : Shape) (g found : Graph) : Prop :=
  (∀ h : Graph, h.Built → found.triples ⊆ h.triples → h.triples ⊆ g.triples →
    ∃ found', scanFocus (.of focus k) h shape = .ok (.ok found') ∧
      found.triples ⊆ found'.triples ∧ found'.triples ⊆ h.triples) ∧
  scanFocus (.of focus k) found shape = .ok (.ok found)

/-- What a scan returns is part of the graph, and suffices itself if the edges of the shape can be
told by their predicates. -/
theorem scan_self_sufficient {focus : String} {found : Graph} (hs : Scannable k shape)
    (hg : g.Built) (h : scanFocus (.of focus k) g shape = .ok (.ok found)) :
    found.triples ⊆ g.triples ∧
      ((∀ edge label inner, .field edge label inner ∈ shape.within → edge.Clear g) →
        SelfSufficient focus k shape g found) := by
  obtain ⟨a, report, ha, hreport, hempty, rfl⟩ := scanFocus_ok_iff.1 h
  have hpart : report.triples.triples ⊆ g.triples :=
    fun t ht => mem_of_scanGroup hg.stored hreport ht
  refine ⟨hpart, fun hc => ?_⟩
  -- any part around what was found is scanned with the same verdict, and finds it again
  have haround : ∀ h : Graph, h.Built → report.triples.triples ⊆ h.triples →
      h.triples ⊆ g.triples → ∃ found', scanFocus (.of focus k) h shape = .ok (.ok found') ∧
        found'.Built ∧ report.triples.triples ⊆ found'.triples ∧
        found'.triples ⊆ h.triples := by
    intro h hh hin hsub
    obtain ⟨⟨report', hreport', hempty'⟩, hkept⟩ :=
      Scans.kept (hs.grounded ha hc) hg.stored hh.stored hsub ⟨report, hreport, hempty⟩
        fun t ht => hin ((collects_iff hreport).1 ht)
    refine ⟨report'.triples, scanFocus_ok_iff.2 ⟨a, report', ha, hreport', hempty', rfl⟩,
      built_scanGroup hreport', fun t ht => ?_, fun t ht => mem_of_scanGroup hh.stored hreport' ht⟩
    exact (collects_iff hreport').1 (hkept t ((collects_iff hreport).2 ht))
  constructor
  · intro h hh hin hsub
    obtain ⟨found', hscan, -, hmore, hless⟩ := haround h hh hin hsub
    exact ⟨found', hscan, hmore, hless⟩
  · have hfound := built_scanGroup hreport
    obtain ⟨found', hscan, hfound', hmore, hless⟩ :=
      haround _ hfound (List.Subset.refl _) hpart
    have hsame : found' = report.triples :=
      hfound'.stored.eq_of_mem_iff hfound.stored fun t => ⟨fun ht => hless ht, fun ht => hmore ht⟩
    rw [hscan, hsame]

/-! ## Two scans -/

/-- Values of two kinds as alternatives, and whatever points to a resource. -/
def alternatives : Shape :=
  .and [.or [.field ⟨"urn:x:p", false⟩ none (.maxCount 1),
      .field ⟨"urn:x:q", false⟩ none (.minCount 1)],
    .when (.minCount 1) (.field ⟨"urn:x:r", true⟩ none (.and [])) (.or [])]

theorem field_of_alternatives (h : .field edge label inner ∈ alternatives.within) :
    edge.iri ≠ "" ∧ inner ∈ [.maxCount 1, .minCount 1, .and []] := by
  simp only [alternatives, Shape.within, Shape.withinAll, List.append_nil, List.cons_append,
    List.nil_append, List.mem_cons, reduceCtorEq, Shape.field.injEq, List.not_mem_nil, or_self,
    or_false, false_or] at h
  rcases h with ⟨rfl, -, rfl⟩ | ⟨rfl, -, rfl⟩ | ⟨rfl, -, rfl⟩ <;> decide

theorem scannable_alternatives : Scannable .none alternatives where
  guards := by simp [alternatives, Shape.within, Shape.withinAll]
  patterns := by simp [alternatives, Shape.within, Shape.withinAll]
  tests := fun test pass fail h edge label inner h' => by
    simp only [alternatives, Shape.within, Shape.withinAll, List.append_nil, List.cons_append,
      List.nil_append, List.mem_cons, reduceCtorEq, Shape.when.injEq, List.not_mem_nil, or_self,
      or_false, false_or] at h
    rw [h.1] at h'
    cases List.mem_singleton.1 h'
  table := by
    have hclosed : tablesClosed .none [alternatives, .maxCount 1, .minCount 1, .and []] = true :=
      rfl
    exact (tablesClosed_iff.1 hclosed _ List.mem_cons_self).imp fun _ ha => ha.1
  nested := fun edge label inner h => by
    have hclosed : tablesClosed .none [.maxCount 1, .minCount 1, .and []] = true := rfl
    exact (tablesClosed_iff.1 hclosed inner (field_of_alternatives h).2).imp fun _ ha => ha.1

/-- One alternative fails for two values, the other holds; with one of the values both hold. -/
theorem scan_self_sufficient_alternatives :
    let first : Triple := ⟨.iri "urn:x:f", .iri "urn:x:p", .iri "urn:x:a"⟩
    let second : Triple := ⟨.iri "urn:x:f", .iri "urn:x:p", .iri "urn:x:b"⟩
    let other : Triple := ⟨.iri "urn:x:f", .iri "urn:x:q", .iri "urn:x:c"⟩
    let back : Triple := ⟨.iri "urn:x:d", .iri "urn:x:r", .iri "urn:x:f"⟩
    let g : Graph := .ofList [first, second, other, back]
    let found : Graph := .ofList [other, back]
    Scannable .none alternatives ∧ g.Built ∧
      scanFocus (.of "urn:x:f" .none) g alternatives = .ok (.ok found) ∧
      SelfSufficient "urn:x:f" .none alternatives g found ∧
      scanFocus (.of "urn:x:f" .none) (.ofList [first, other, back]) alternatives =
        .ok (.ok (.ofList [first, other, back])) := by
  intro first second other back g found
  have hscan : scanFocus (.of "urn:x:f" .none) g alternatives = .ok (.ok found) :=
    accepted_iff.1 (by decide +kernel)
  have hsuffices := (scan_self_sufficient scannable_alternatives (.ofList _) hscan).2
  exact ⟨scannable_alternatives, .ofList _, hscan,
    hsuffices fun _ _ _ h => Or.inr (Or.inl (field_of_alternatives h).1),
    accepted_iff.1 (by decide +kernel)⟩

/-- A field along predicates without an identifier takes predicates that are no identifiers at all
for its own, if no other triple stands between. -/
theorem not_sufficient_of_nameless_predicates :
    let shape : Shape := .field ⟨"", false⟩ (some "x") (.maxCount 1)
    let value : Triple := ⟨.iri "urn:x:f", .iri "", .iri "urn:x:a"⟩
    let between : Triple := ⟨.iri "urn:x:f", .iri "urn:x:p", .iri "urn:x:b"⟩
    let nameless : Triple := ⟨.iri "urn:x:f", .literal ⟨"p", "urn:x:d", none⟩, .iri "urn:x:c"⟩
    let g : Graph := .ofList [value, between, nameless]
    let found : Graph := .ofList [value]
    Scannable .none shape ∧ g.Built ∧
      scanFocus (.of "urn:x:f" .none) g shape = .ok (.ok found) ∧
      ¬ SelfSufficient "urn:x:f" .none shape g found := by
  intro shape value between nameless g found
  have hscannable : Scannable .none shape := by
    have hclosed : tablesClosed .none [shape, .maxCount 1] = true := rfl
    have htables := tablesClosed_iff.1 hclosed
    refine ⟨by simp [shape, Shape.within], by simp [shape, Shape.within], fun _ _ _ h => ?_,
      (htables _ List.mem_cons_self).imp fun _ ha => ha.1, fun edge label inner h => ?_⟩
    · simp [shape, Shape.within] at h
    · simp only [shape, Shape.within, List.mem_cons, Shape.field.injEq, reduceCtorEq,
        List.not_mem_nil, or_self, or_false] at h
      refine (htables inner ?_).imp fun _ ha => ha.1
      rw [h.2.2]
      exact List.mem_cons_of_mem _ List.mem_cons_self
  refine ⟨hscannable, .ofList _, accepted_iff.1 (by decide +kernel), fun h => ?_⟩
  have hpart : (Graph.ofList [value, nameless]).triples ⊆ g.triples := by decide +kernel
  obtain ⟨found', hscan, -⟩ :=
    h.1 (.ofList [value, nameless]) (.ofList _) (by decide +kernel) hpart
  have hrejected : (scanFocus (.of "urn:x:f" .none) (.ofList [value, nameless]) shape).toOption.bind
      Except.toOption = none := by decide +kernel
  rw [accepted_iff.2 hscan] at hrejected
  cases hrejected

end Description

end LinkedShapes
