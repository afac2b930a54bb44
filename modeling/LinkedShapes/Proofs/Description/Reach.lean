import LinkedShapes.Proofs.Alias.Table
import LinkedShapes.Proofs.Description.Sufficiency

/-!
# What a description reads

A description follows the fields of its shape from resource to resource. Fields on one edge are
merged on the way, and resources are met again at other levels and under other shapes, so that the
shapes a description works with are in general no parts of the shape it is given. `MetUnder` does
without all that: it follows single fields of the given shape.

* `Gathered.below`: the fields that a merged shape has for a resource are reached with it.
* `describe_of_part`: by induction on the levels, a description depends on no other edges.
* `encode_of_part`: nor does the result of writing one, be it a description or an error.
-/

namespace LinkedShapes.Description

open Vocabulary

variable {g h : Graph} {driver shape : Shape} {k : Keywords} {root : Option String}
variable {start r v : Term} {a : Aliases} {focus : String}

/-! ## The edges that are met -/

/-- The resources that are met by following the fields of a shape from a start, whatever branch the
fields are in, with the shapes that they are met under. -/
inductive MetUnder (g : Graph) (start : Term) (driver : Shape) : Term → Shape → Prop
  | start : MetUnder g start driver start driver
  | field {r v : Term} {shape : Shape} {f : Field} :
      MetUnder g start driver r shape → f ∈ shape.fields →
      v ∈ g.targets r f.edge.iri f.edge.inverse → v.isLiteral = false →
      MetUnder g start driver v f.shape

/-- The triples on the edges that are met. -/
def MetEdge (g : Graph) (start : Term) (driver : Shape) (t : Triple) : Prop :=
  ∃ r shape f, MetUnder g start driver r shape ∧ f ∈ shape.fields ∧
    t ∈ g.edges r f.edge.iri f.edge.inverse

/-- A part of a graph that has all triples on the edges that are met. -/
structure HoldsMet (g h : Graph) (start : Term) (driver : Shape) : Prop where
  part : h.triples ⊆ g.triples
  met : ∀ t, MetEdge g start driver t → t ∈ h.triples

/-- The edges that are met can be told by their predicates. -/
def ClearlyMet (g : Graph) (start : Term) (driver : Shape) : Prop :=
  ∀ r shape f, MetUnder g start driver r shape → f ∈ shape.fields → f.edge.Clear g

/-! ## Merged shapes -/

/-- The fields of a shape are reached with a resource, if perhaps not all under one shape. -/
def Gathered (g : Graph) (start : Term) (driver : Shape) (r : Term) (shape : Shape) : Prop :=
  ∀ f ∈ shape.fields, ∃ outer, MetUnder g start driver r outer ∧ f ∈ outer.fields

theorem gathered_start : Gathered g start driver start driver :=
  fun _ hf => ⟨driver, .start, hf⟩

/-- The merged field behind a name is on an edge that is met. -/
theorem Gathered.edge (hc : Gathered g start driver r shape)
    (ha : Aliases.ofShape shape k = .ok a) {e : String × Field} (he : e ∈ a.entries) :
    ∃ outer f, MetUnder g start driver r outer ∧ f ∈ outer.fields ∧ f.edge = e.2.edge := by
  obtain ⟨f, hf, hedge⟩ := edge_of_merged (Aliases.mem_mergedFields ha he)
  obtain ⟨outer, hr, hf⟩ := hc f hf
  exact ⟨outer, f, hr, hf, hedge⟩

/-- The fields of a merged field are reached with the resources that it leads to. -/
theorem Gathered.below (hc : Gathered g start driver r shape)
    (ha : Aliases.ofShape shape k = .ok a) {e : String × Field} (he : e ∈ a.entries)
    (hv : v ∈ g.targets r e.2.edge.iri e.2.edge.inverse) (hl : v.isLiteral = false) :
    Gathered g start driver v e.2.shape := by
  intro x hx
  -- the merged field has `x` from one of the fields on its edge, which leads to `v` as well
  obtain ⟨f, hf, hedge, hx⟩ := mem_fields_mergedFields (Aliases.mem_mergedFields ha he) hx
  obtain ⟨outer, hr, hf⟩ := hc f hf
  rw [← hedge] at hv
  exact ⟨f.shape, .field hr hf hv hl, hx⟩

/-! ## Parts of a graph -/

/-- The values of a merged field are the same in a part that has what is met. -/
theorem Gathered.follow_of_part (hc : Gathered g start driver r shape) (hg : g.Stored)
    (hh : h.Stored) (hp : HoldsMet g h start driver) (hclear : ClearlyMet g start driver)
    (ha : Aliases.ofShape shape k = .ok a) {e : String × Field} (he : e ∈ a.entries) :
    Source.follow ⟨h, k, root⟩ r e.2 = Source.follow ⟨g, k, root⟩ r e.2 := by
  obtain ⟨outer, f, hr, hf, hedge⟩ := hc.edge ha he
  have hedges : h.edges r f.edge.iri f.edge.inverse = g.edges r f.edge.iri f.edge.inverse :=
    hg.edges_of_part hh (hclear r outer f hr hf) hp.part fun t ht =>
      hp.met t ⟨r, outer, f, hr, hf, ht⟩
  rw [hedge] at hedges
  exact congrArg (List.map _) hedges

theorem describe_of_part (hg : g.Stored) (hh : h.Stored) (hp : HoldsMet g h start driver)
    (hclear : ClearlyMet g start driver) (levels : Nat) :
    Source.describe ⟨h, k, root⟩ levels start driver [] =
      Source.describe ⟨g, k, root⟩ levels start driver [] := by
  let Reaches (_ : Nat) (r : Term) (shape : Shape) (_ : List Term) : Prop :=
    Gathered g start driver r shape
  refine describe_eq_of_follow (P := Reaches) (fun _ r shape _ a hc ha e he => ?_) gathered_start
  exact ⟨Gathered.follow_of_part hc hg hh hp hclear ha he,
    fun v hv hl _ => Gathered.below hc ha he hv hl⟩

/-- What is written depends on the edges that are met by following the fields of the shape, and on
no other triples, if these edges can be told by their predicates: the result is the same, be it a
description or an error. -/
theorem encode_of_part (hg : g.Built) (hh : h.Built) (focus : String) :
    (∀ (driver : Shape) (k : Keywords) (root : Option String) (embedContext : Bool),
      HoldsMet g h (.iri (Iri.normalize focus)) driver →
      ClearlyMet g (.iri (Iri.normalize focus)) driver →
      Source.focusJson ⟨h, k, root⟩ focus driver embedContext =
        Source.focusJson ⟨g, k, root⟩ focus driver embedContext) ∧
    ∀ (shape : Shape) (options : DescriptionOptions),
      HoldsMet g h (.iri (Iri.normalize focus)) shape.drive →
      ClearlyMet g (.iri (Iri.normalize focus)) shape.drive →
      encode focus shape h options = encode focus shape g options := by
  have hsource : ∀ (driver : Shape) (k : Keywords) (root : Option String) (embedContext : Bool),
      HoldsMet g h (.iri (Iri.normalize focus)) driver →
      ClearlyMet g (.iri (Iri.normalize focus)) driver →
      Source.focusJson ⟨h, k, root⟩ focus driver embedContext =
        Source.focusJson ⟨g, k, root⟩ focus driver embedContext := by
    intro driver k root embedContext hp hclear
    unfold Source.focusJson
    rw [describe_of_part hg.stored hh.stored hp hclear]
    rfl
  refine ⟨hsource, fun shape options hp hclear => ?_⟩
  unfold encode
  cases hd : prepare shape options.keywords with
  | error e => rfl
  | ok driver =>
    obtain ⟨rfl, -⟩ := prepare_ok hd
    exact hsource _ _ _ _ hp hclear

/-! ## Two graphs -/

/-- Are the pairs closed under the fields of their shapes, and the edges of these in a graph? -/
def metClosed (g h : Graph) (pairs : List (Term × Shape)) : Bool :=
  pairs.all fun p => p.2.fields.all fun f =>
    (g.edges p.1 f.edge.iri f.edge.inverse).all h.triples.contains &&
      (g.targets p.1 f.edge.iri f.edge.inverse).all fun v =>
        v.isLiteral || pairs.contains (v, f.shape)

theorem metClosed_iff {pairs : List (Term × Shape)} : metClosed g h pairs = true ↔
    ∀ p ∈ pairs, ∀ f ∈ p.2.fields,
      (∀ t ∈ g.edges p.1 f.edge.iri f.edge.inverse, t ∈ h.triples) ∧
      ∀ v ∈ g.targets p.1 f.edge.iri f.edge.inverse, v.isLiteral = false →
        (v, f.shape) ∈ pairs := by
  simp only [metClosed, List.all_eq_true, Bool.and_eq_true, Bool.or_eq_true,
    List.contains_iff_mem, or_iff_not_imp_left, Bool.not_eq_true]

/-- What is met can be listed. -/
theorem holdsMet_of_closed {pairs : List (Term × Shape)} (hp : h.triples ⊆ g.triples)
    (hs : (start, driver) ∈ pairs) (hc : metClosed g h pairs = true) :
    HoldsMet g h start driver where
  part := hp
  met := by
    have hmem : ∀ r shape, MetUnder g start driver r shape → (r, shape) ∈ pairs := by
      intro r shape hr
      induction hr with
      | start => exact hs
      | field _ hf hv hl ih => exact (metClosed_iff.1 hc _ ih _ hf).2 _ hv hl
    rintro t ⟨r, shape, f, hr, hf, ht⟩
    exact (metClosed_iff.1 hc _ (hmem r shape hr) f hf).1 t ht

/-- Two resources know each other, and one is asked for what it knows under two shapes at once; what
else is told of the two does not matter. -/
theorem encode_of_part_acquaintances :
    let knows : Edge := ⟨"urn:x:knows", false⟩
    let inner : Shape := .and [.field knows none (.and []), .datatype Abstract.resource]
    let name : Shape :=
      .and [.field ⟨"urn:x:name", false⟩ none (.maxCount 1), .datatype Abstract.resource]
    let driver : Shape := .and [.field knows none inner, .field knows none name]
    let told : List Triple := [knows.triple (.iri "urn:x:a") (.iri "urn:x:b"),
      knows.triple (.iri "urn:x:b") (.iri "urn:x:a"),
      ⟨.iri "urn:x:b", .iri "urn:x:name", .string "B"⟩]
    let g : Graph := .ofList (⟨.iri "urn:x:a", .iri "urn:x:name", .string "A"⟩ ::
      knows.triple (.iri "urn:x:c") (.iri "urn:x:a") :: told)
    let h : Graph := .ofList told
    g.Built ∧ h.Built ∧ HoldsMet g h (.iri (Iri.normalize "urn:x:a")) driver ∧
      ClearlyMet g (.iri (Iri.normalize "urn:x:a")) driver ∧
      Source.focusJson ⟨h, .none, none⟩ "urn:x:a" driver true =
        Source.focusJson ⟨g, .none, none⟩ "urn:x:a" driver true ∧
      driver.drive = driver ∧
      encode "urn:x:a" driver h .default = encode "urn:x:a" driver g .default := by
  intro knows inner name driver told g h
  have hnormal : Iri.normalize "urn:x:a" = "urn:x:a" := by decide +kernel
  have hdrive : driver.drive = driver := by decide +kernel
  have hmet : HoldsMet g h (.iri (Iri.normalize "urn:x:a")) driver := by
    rw [hnormal]
    let pairs : List (Term × Shape) := [(.iri "urn:x:a", driver), (.iri "urn:x:b", inner),
      (.iri "urn:x:b", name), (.iri "urn:x:a", .and [])]
    exact holdsMet_of_closed (by decide +kernel) (List.mem_cons_self : _ ∈ pairs)
      (by decide +kernel)
  have hclear : ClearlyMet g (.iri (Iri.normalize "urn:x:a")) driver :=
    fun _ _ _ _ _ => Or.inr (Or.inr (by decide +kernel))
  have hsame := encode_of_part (.ofList _) (.ofList _) "urn:x:a" (g := g) (h := h)
  refine ⟨.ofList _, .ofList _, hmet, hclear, hsame.1 driver .none none true hmet hclear, hdrive,
    hsame.2 driver .default ?_ ?_⟩
  · rw [hdrive]
    exact hmet
  · rw [hdrive]
    exact hclear

/-- A field along predicates without an identifier takes predicates that are no identifiers at all
for its own, if no other triple stands between; that one is not on its edge. -/
theorem not_encode_of_part_nameless :
    let driver : Shape := .field ⟨"", false⟩ (some "x") (.and [])
    let value : Triple := ⟨.iri "urn:x:f", .iri "", .iri "urn:x:a"⟩
    let between : Triple := ⟨.iri "urn:x:f", .iri "urn:x:p", .iri "urn:x:b"⟩
    let nameless : Triple := ⟨.iri "urn:x:f", .literal ⟨"p", "urn:x:d", none⟩, .iri "urn:x:c"⟩
    let g : Graph := .ofList [value, between, nameless]
    let h : Graph := .ofList [value, nameless]
    g.Built ∧ h.Built ∧ driver.checkRedacted = .ok () ∧ Keywords.none.check = .ok () ∧
      HoldsMet g h (.iri (Iri.normalize "urn:x:f")) driver ∧
      Source.focusJson ⟨h, .none, none⟩ "urn:x:f" driver false ≠
        Source.focusJson ⟨g, .none, none⟩ "urn:x:f" driver false ∧
      encode "urn:x:f" driver h .default ≠ encode "urn:x:f" driver g .default := by
  intro driver value between nameless g h
  have hnormal : Iri.normalize "urn:x:f" = "urn:x:f" := by decide +kernel
  have hmet : HoldsMet g h (.iri (Iri.normalize "urn:x:f")) driver := by
    rw [hnormal]
    let pairs : List (Term × Shape) := [(.iri "urn:x:f", driver), (.iri "urn:x:a", .and [])]
    exact holdsMet_of_closed (by decide +kernel) (List.mem_cons_self : _ ∈ pairs)
      (by decide +kernel)
  exact ⟨.ofList _, .ofList _, rfl, rfl, hmet, by decide +kernel, by decide +kernel⟩

end LinkedShapes.Description
