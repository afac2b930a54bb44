import LinkedShapes.Proofs.Alias.Table
import LinkedShapes.Proofs.Description.Alike
import LinkedShapes.Proofs.Iri.Absolute
import LinkedShapes.Proofs.Shape.Probe

/-!
# Graphs that are read hang together

Every triple that reading makes is told of a resource, and reading only comes to a resource from the
focus, along the fields of the shape. So nothing in a graph stands apart from the focus. References
are resolved against the focus, and so no resource goes by a relative identifier.

* `Term.Proper`: what holds of every term that is read under a shape.
* `Met`: the resources that are come to from the focus, level by level.
* `OfMet`: triples on the edges of such resources, and those that tell their types.
* `told_of_fields`: by induction on the depth of the shape, objects tell of what is met only.
* `proper_of_decode`: the graph of a description is well-formed, and all of it is met from the
  focus.
-/

namespace LinkedShapes

open Vocabulary

/-! ## Parts of a shape -/

namespace Shape

variable {shape : Shape} {f : Field} {d : String}

/-- A datatype that a shape declares stands in it. -/
theorem datatype_mem_parts (h : shape.datatype? = some d) : .datatype d ∈ shape.parts := by
  induction shape using induct with
  | and shapes ih =>
    rw [show datatype? (.and shapes) = _ from combines_typeOfValues.and shapes] at h
    obtain ⟨s, hs, hd⟩ := List.mem_filterMap.1 (mem_of_narrowest h)
    exact mem_partsOfAll.2 ⟨s, hs, ih s hs hd⟩
  | or shapes ih =>
    rw [show datatype? (.or shapes) = _ from combines_typeOfValues.or shapes] at h
    obtain ⟨s, hs, hd⟩ := List.mem_filterMap.1 (mem_of_unique h)
    exact mem_partsOfAll.2 ⟨s, hs, ih s hs hd⟩
  | when test pass fail _ ihp ihf =>
    rw [show datatype? (.when test pass fail) = _ from
      combines_typeOfValues.when test pass fail] at h
    obtain ⟨s, hs, hd⟩ := List.mem_filterMap.1 (mem_of_unique h)
    rw [parts, List.append_assoc]
    refine List.mem_append_right _ (List.mem_append.2 ?_)
    rcases List.mem_pair.1 hs with rfl | rfl
    · exact Or.inl (ihp hd)
    · exact Or.inr (ihf hd)
  | field edge label s _ => cases h
  | link iri s ih => exact ih h
  | leaf s hs =>
    cases s with
    | datatype iri =>
      cases h
      exact List.mem_singleton_self _
    | _ => first | cases h | cases hs

/-- A field that a shape has stands in it. -/
theorem field_mem_parts (h : f ∈ shape.fields) : .field f.edge f.label f.shape ∈ shape.parts := by
  induction shape using induct with
  | and shapes ih | or shapes ih =>
    obtain ⟨s, hs, h⟩ := mem_fieldsOfAll.1 h
    exact mem_partsOfAll.2 ⟨s, hs, ih s hs h⟩
  | when test pass fail _ ihp ihf =>
    rw [parts, List.append_assoc]
    exact List.mem_append_right _ (List.mem_append.2 ((List.mem_append.1 h).imp ihp ihf))
  | field edge label s _ =>
    rw [List.mem_singleton.1 h]
    exact List.mem_singleton_self _
  | link iri s ih => exact ih h
  | leaf s hs =>
    rw [fields_of_isLeaf hs] at h
    exact absurd h List.not_mem_nil

/-- Do all fields of a shape, at all levels, have absolute identifiers? -/
def AbsoluteFields (shape : Shape) : Prop :=
  ∀ edge label inner, .field edge label inner ∈ shape.within → Iri.isAbsolute edge.iri = true

/-- What stands at a level stands somewhere in the whole shape, names apart: merging adds some. -/
def DrawnFrom (whole level : Shape) : Prop :=
  ∀ part ∈ level.parts, (∀ name, part ≠ .named name) → part ∈ whole.within

theorem drawnFrom_self (shape : Shape) : DrawnFrom shape shape :=
  fun _ hpart _ => parts_subset_within hpart

variable {whole level : Shape}

theorem DrawnFrom.field (h : DrawnFrom whole level) (hf : f ∈ level.fields) :
    .field f.edge f.label f.shape ∈ whole.within :=
  h _ (field_mem_parts hf) fun _ hname => by cases hname

theorem DrawnFrom.edge (h : DrawnFrom whole level) (hw : whole.AbsoluteFields)
    (hf : f ∈ mergedFields level.fields) : Iri.isAbsolute f.edge.iri = true := by
  obtain ⟨g, hg, hedge⟩ := edge_of_merged hf
  exact hedge ▸ hw _ _ _ (h.field hg)

/-- The next level behind a merged field stands in the whole shape, too. -/
theorem DrawnFrom.merged (h : DrawnFrom whole level) (hf : f ∈ mergedFields level.fields) :
    DrawnFrom whole f.shape := by
  intro part hpart hname
  obtain ⟨g, hg, -, hpart⟩ := mem_probe_mergedFields (fun _ => mem_partsOfAll)
    (fun name hmem => hname name (List.mem_singleton.1 hmem)) hf hpart
  refine within_subset_of_mem (h.field hg) ?_
  exact mem_within_field.2 (Or.inr (parts_subset_within hpart))

end Shape

/-! ## Terms -/

/-- A term that is read under a shape: identifiers are absolute, languages are those of tagged
texts, and the datatypes of literals are absolute unless the shape declares others. -/
structure Term.Proper (shape : Shape) (t : Term) : Prop where
  absolute : ∀ i, t = .iri i → Iri.isAbsolute i = true
  tagged : ∀ l, t = .literal l → l.language.isSome = true → l.datatype = Rdf.langString
  datatype : ∀ l, t = .literal l →
    Iri.isAbsolute l.datatype = true ∨ .datatype l.datatype ∈ shape.parts

namespace Term

variable {shape : Shape} {text datatype lang label i : String}

theorem Proper.iri (h : Iri.isAbsolute i = true) : Proper shape (.iri i) where
  absolute _ heq := by
    cases heq
    exact h
  tagged _ heq := by cases heq
  datatype _ heq := by cases heq

theorem Proper.blankNode : Proper shape (.blankNode label) where
  absolute _ heq := by cases heq
  tagged _ heq := by cases heq
  datatype _ heq := by cases heq

theorem Proper.typed (h : Iri.isAbsolute datatype = true ∨ .datatype datatype ∈ shape.parts) :
    Proper shape (.typed text datatype) where
  absolute _ heq := by cases heq
  tagged _ heq hl := by
    cases heq
    cases hl
  datatype _ heq := by
    cases heq
    exact h

theorem Proper.langString : Proper shape (.langString text lang) where
  absolute _ heq := by cases heq
  tagged _ heq _ := by
    cases heq
    rfl
  datatype _ heq := by
    cases heq
    exact Or.inl (show Iri.isAbsolute Rdf.langString = true by decide)

theorem Proper.string : Proper shape (.string text) := .typed (Or.inl (by decide))

end Term

/-- A triple that is well-formed: a resource, an identifier and a term, the identifiers among them
absolute, and languages on tagged texts only. The clause on datatypes is an addition to that: a
datatype is no term of its own, and one that the shape declares is taken as it stands there. So
the datatypes of the literals are absolute wherever those that the shape declares are. -/
structure Triple.Proper (shape : Shape) (t : Triple) : Prop where
  subject : t.subject.isResource = true
  predicate : t.predicate.isIri = true
  absolute : ∀ i, t.subject = .iri i ∨ t.predicate = .iri i ∨ t.object = .iri i →
    Iri.isAbsolute i = true
  tagged : ∀ l, t.object = .literal l → l.language.isSome = true → l.datatype = Rdf.langString
  datatype : ∀ l, t.object = .literal l →
    Iri.isAbsolute l.datatype = true ∨ .datatype l.datatype ∈ shape.within

/-- An edge between terms as they should be is well-formed. -/
theorem Triple.proper_edge {whole level inner : Shape} {edge : Edge} {x y : Term}
    (hedge : Iri.isAbsolute edge.iri = true) (hx : x.isResource = true) (hxp : x.Proper level)
    (hi : edge.inverse = true → y.isResource = true) (hyp : y.Proper inner)
    (hd : whole.DrawnFrom inner) : (edge.triple x y).Proper whole := by
  have hliteral : ∀ {t : Term} {l : Literal}, t.isResource = true → t ≠ .literal l := by
    rintro t l ht rfl
    cases ht
  have hpredicate : ∀ i, Term.iri edge.iri = .iri i → Iri.isAbsolute i = true := by
    rintro i ⟨⟩
    exact hedge
  unfold Edge.triple
  split
  · next hinverse =>
    refine ⟨hi hinverse, rfl, fun i h => ?_, fun l h => absurd h (hliteral hx),
      fun l h => absurd h (hliteral hx)⟩
    exact h.elim (hyp.absolute i) fun h => h.elim (hpredicate i) (hxp.absolute i)
  · refine ⟨hx, rfl, fun i h => ?_, hyp.tagged, fun l h => ?_⟩
    · exact h.elim (hxp.absolute i) fun h => h.elim (hpredicate i) (hyp.absolute i)
    · exact (hyp.datatype l h).imp_right fun hpart => hd _ hpart fun name hname => by cases hname

namespace Description

variable {s : Setting} {D level shape : Shape} {a : Aliases} {path : String} {L L' : Labels}
variable {json : Json} {members found : List (String × Json)} {r t x y : Term} {g h : Graph}
variable {f : Field} {v : Described} {vs : List Described}

theorem proper_blankOf {id : String} (h : blankOf id L = .ok (t, L')) : t.Proper shape := by
  unfold blankOf at h
  split at h <;> cases h <;> exact .blankNode

theorem proper_resource (hs : Iri.isAbsolute s.focus = true) {id : String}
    (h : resource s id L = .ok (t, L')) : t.Proper shape := by
  unfold resource at h
  split at h
  · exact proper_blankOf h
  · cases h
    exact .iri (Iri.isAbsolute_resolve hs)

theorem proper_namedResource (hs : Iri.isAbsolute s.focus = true)
    (h : namedResource s found L = .ok (t, L')) : t.Proper shape := by
  unfold namedResource at h
  cases hid : Json.lookup Keyword.id found with
  | none =>
    simp only [hid] at h
    cases h
    exact .blankNode
  | some id =>
    simp only [hid] at h
    obtain ⟨text, L₁, -, h⟩ := run_ok_of_bind h
    exact proper_resource hs h

theorem TextReading.proper (hs : Iri.isAbsolute s.focus = true) {text : String}
    {m : Decoding Term} (hm : TextReading s shape text m) (h : m L = .ok (t, L')) :
    t.Proper shape := by
  cases hm with
  | label => exact proper_blankOf h
  | resource => exact proper_resource hs h
  | untagged _ => cases h
  | iri =>
    cases h
    exact .iri (Iri.isAbsolute_resolve hs)
  | tagged _ =>
    cases h
    exact .langString
  | typed hd _ =>
    cases h
    exact .typed (Or.inr (Shape.datatype_mem_parts hd))
  | plain =>
    cases h
    exact .string

theorem proper_numberTerm (n : Json.Number) : (numberTerm shape n).Proper shape := by
  unfold numberTerm
  split
  · next d hd =>
    exact .typed (Or.inr (Shape.datatype_mem_parts (Option.mem_filter_iff.1 hd).1))
  · refine .typed (Or.inl ?_)
    split <;> decide

theorem proper_valueText (text : String) : (valueText shape text).Proper shape := by
  unfold valueText
  split
  · next d hd =>
    exact .typed (Or.inr (Shape.datatype_mem_parts (Option.mem_filter_iff.1 hd).1))
  · exact .string

theorem proper_valueObject (hs : Iri.isAbsolute s.focus = true) {value : Json}
    (h : valueObject s shape members found value path = .ok t) : t.Proper shape := by
  unfold valueObject at h
  cases hf : members.find? fun m => (s.keywords.keyword? m.1).isNone with
  | some m =>
    rw [hf] at h
    cases h
  | none =>
    simp only [hf] at h
    cases value with
    | string _ | bool _ | number _ =>
      obtain ⟨lexical, -, h⟩ := ok_of_bind h
      cases ht : Json.lookup Keyword.type found with
      | some type =>
        simp only [ht] at h
        obtain ⟨text, -, h⟩ := ok_of_bind h
        cases h
        exact .typed (Or.inl (Iri.isAbsolute_resolve hs))
      | none =>
        cases hl : Json.lookup Keyword.language found with
        | some language =>
          simp only [ht, hl] at h
          obtain ⟨text, -, h⟩ := ok_of_bind h
          cases h
          exact .langString
        | none =>
          simp only [ht, hl] at h
          cases h
          first
          | exact .typed (Or.inl (by decide))
          | exact proper_numberTerm _
          | exact proper_valueText _
    | null | array _ | object _ => cases h

theorem proper_taggedTexts {ts : List Term} (h : taggedTexts path members = .ok ts)
    (ht : t ∈ ts) : t.Proper shape := by
  obtain ⟨m, -, us, hus, ht⟩ := ((mem_taggedTexts h).2 t).1 ht
  obtain ⟨texts, -, rfl⟩ := Option.map_eq_some_iff.1 hus
  obtain ⟨text, -, rfl⟩ := List.mem_map.1 ht
  exact .langString

theorem proper_literals (hs : Iri.isAbsolute s.focus = true) {ts : List Term}
    (h : literals s shape members found path = .ok ts) (ht : t ∈ ts) : t.Proper shape := by
  cases hv : Json.lookup Keyword.value found with
  | none =>
    rw [literals_of_tagged hv] at h
    exact proper_taggedTexts h ht
  | some json =>
    rw [literals_of_value hv] at h
    cases ho : valueObject s shape members found json path with
    | error fault =>
      rw [ho] at h
      cases h
    | ok u =>
      rw [ho] at h
      cases h
      rw [List.mem_singleton.1 ht]
      exact proper_valueObject hs ho

/-- Whatever a value stands for is a term as it should be under the shape. -/
theorem proper_of_value (hs : Iri.isAbsolute s.focus = true)
    (h : value s shape path json L = .ok (vs, L')) (hv : v ∈ vs) : v.1.Proper shape := by
  cases json with
  | null =>
    cases h
    exact absurd hv List.not_mem_nil
  | bool b =>
    cases h
    rw [List.mem_singleton.1 hv]
    exact .typed (Or.inl (by decide))
  | number n =>
    cases h
    rw [List.mem_singleton.1 hv]
    exact proper_numberTerm n
  | string text =>
    obtain ⟨t, L₁, ht, h⟩ := run_ok_of_bind h
    cases h
    rw [List.mem_singleton.1 hv]
    exact (textReading s shape text).proper hs ht
  | array xs => cases h
  | object members =>
    obtain ⟨a, found, ha, hd⟩ := declared_of_value h
    rw [value_object ha hd] at h
    split at h
    · obtain ⟨ts, L₁, hts, h⟩ := run_ok_of_bind h
      cases h
      obtain ⟨t, ht, rfl⟩ := List.mem_map.1 hv
      exact proper_literals hs (ok_of_run_lift hts).1 ht
    · obtain ⟨r, L₁, hr, h⟩ := run_ok_of_bind h
      obtain ⟨g, L₂, -, h⟩ := run_ok_of_bind h
      cases h
      rw [List.mem_singleton.1 hv]
      exact proper_namedResource hs hr

/-! ## Resources that are met -/

/-- The resources that are come to from one by the merged fields of a shape, level by level, and the
shapes of the fields that lead there. -/
inductive Met (g : Graph) (r : Term) (shape : Shape) : Term → Shape → Prop
  | start : Met g r shape r shape
  | along {x y : Term} {level : Shape} {f : Field} : Met g r shape x level →
      f ∈ mergedFields level.fields → f.edge.triple x y ∈ g.triples → y.isResource = true →
      Met g r shape y f.shape

/-- The triples that are told of resources that are met: those on the edges of their fields, and
those that tell their types. -/
inductive OfMet (g : Graph) (r : Term) (shape : Shape) : Triple → Prop
  | field {x : Term} {level : Shape} {f : Field} (y : Term) : Met g r shape x level →
      f ∈ mergedFields level.fields → OfMet g r shape (f.edge.triple x y)
  | type {x : Term} {level : Shape} (i : String) : Met g r shape x level →
      OfMet g r shape ⟨x, .iri Rdf.type, .iri i⟩

/-- What is met behind a field is met from the resource that has the field. -/
theorem Met.behind (hsub : h.triples ⊆ g.triples) (hf : f ∈ mergedFields shape.fields)
    (ht : f.edge.triple r y ∈ g.triples) (hy : y.isResource = true)
    (hm : Met h y f.shape x level) : Met g r shape x level := by
  induction hm with
  | start => exact .along .start hf ht hy
  | along _ hf' ht' hx ih => exact .along ih hf' (hsub ht') hx

theorem OfMet.behind {t : Triple} (hsub : h.triples ⊆ g.triples)
    (hf : f ∈ mergedFields shape.fields) (ht : f.edge.triple r y ∈ g.triples)
    (hy : y.isResource = true) (hm : OfMet h y f.shape t) : OfMet g r shape t := by
  cases hm with
  | field z hx hf' => exact .field z (hx.behind hsub hf ht hy) hf'
  | type i hx => exact .type i (hx.behind hsub hf ht hy)

/-! ## What is read -/

/-- Results of a sequence are those of its computations. -/
theorem mem_sequence {α : Type} {ms : List (Decoding α)} {xs : List α} {x : α}
    (h : sequence ms L = .ok (xs, L')) (hx : x ∈ xs) : ∃ m ∈ ms, ∃ L₁ L₂, m L₁ = .ok (x, L₂) := by
  induction ms generalizing L xs with
  | nil =>
    cases h
    exact absurd hx List.not_mem_nil
  | cons m ms ih =>
    obtain ⟨y, L₁, hy, h⟩ := run_ok_of_bind h
    obtain ⟨ys, L₂, hys, h⟩ := run_ok_of_bind h
    cases h
    rcases List.mem_cons.1 hx with rfl | hx
    · exact ⟨m, List.mem_cons_self, L, L₁, hy⟩
    · obtain ⟨m', hm', hrun⟩ := ih hys hx
      exact ⟨m', List.mem_cons_of_mem _ hm', hrun⟩

/-- A member tells of a value of a field, or of a type. -/
theorem statements_cases {m : String × Json} {ws : List Statement} {w : Statement}
    (hm : statements s a path m L = .ok (ws, L')) (hw : w ∈ ws) :
    (∃ f, (m.1, f) ∈ a.entries ∧ w.1 = f.edge ∧ ∃ path json vs L₁ L₂,
        value s f.shape path json L₁ = .ok (vs, L₂) ∧ w.2 ∈ vs) ∨
      ∃ text, w = (⟨Rdf.type, false⟩, .iri (Iri.resolve s.focus text), .empty) := by
  unfold statements at hm
  cases hg : a.get? m.1 with
  | some f =>
    simp only [hg] at hm
    obtain ⟨vs, L₁, hvs, hm⟩ := run_ok_of_bind hm
    cases hm
    obtain ⟨v, hv, rfl⟩ := List.mem_map.1 hw
    obtain ⟨stop, -, us, L₂, hvalue, hv⟩ := (values_readAt hvs).value v hv
    exact Or.inl ⟨f, Aliases.mem_of_get? hg, rfl, _, _, _, _, _, hvalue, hv⟩
  | none =>
    simp only [hg] at hm
    cases hk : s.keywords.keyword? m.1 with
    | none =>
      simp only [hk] at hm
      cases hm
    | some keyword =>
      simp only [hk] at hm
      split at hm
      · obtain ⟨texts, L₁, -, hm⟩ := run_ok_of_bind hm
        cases hm
        obtain ⟨text, -, rfl⟩ := List.mem_map.1 hw
        exact Or.inr ⟨text, rfl⟩
      · cases hm
        exact absurd hw List.not_mem_nil

/-- Only of resources anything is told, by the members of the object that describes them. -/
theorem described_of_value (h : value s shape path json L = .ok (vs, L')) (hv : v ∈ vs) :
    v.2 = .empty ∨ ∃ members a path L₁ L₂, Aliases.ofShape shape s.keywords = .ok a ∧
      v.1.isResource = true ∧ fields s a v.1 path members L₁ = .ok (v.2, L₂) := by
  cases json with
  | object members =>
    rcases value_object_run h with ⟨hliteral, -⟩ | ⟨a, r, g, L₁, ha, rfl, hr, -, hfields⟩
    · exact Or.inl (hliteral v hv).2
    · rw [List.mem_singleton.1 hv]
      exact Or.inr ⟨members, a, path, L₁, L', ha, hr, hfields⟩
  | null =>
    cases h
    exact absurd hv List.not_mem_nil
  | array xs => cases h
  | bool b | number n =>
    cases h
    rw [List.mem_singleton.1 hv]
    exact Or.inl rfl
  | string text =>
    obtain ⟨t, L₁, -, h⟩ := run_ok_of_bind h
    cases h
    rw [List.mem_singleton.1 hv]
    exact Or.inl rfl

/-- The members of an object tell of nothing but what is met from its resource, in triples that are
well-formed. -/
theorem told_of_fields (hs : Iri.isAbsolute s.focus = true) (hD : D.AbsoluteFields)
    (hlevel : D.DrawnFrom level) (ha : Aliases.ofShape level s.keywords = .ok a)
    (hr : r.isResource = true) (hrp : r.Proper level)
    (hfields : fields s a r path members L = .ok (g, L')) :
    ∀ t ∈ g.triples, t.Proper D ∧ OfMet g r level t := by
  -- by the depth of the level, each triple being traced back to the statement that tells it
  induction hdepth : level.depth using Nat.strongRecOn
    generalizing level a r path members L g L' with
  | _ depth ih =>
    obtain ⟨vss, hvss, hgathers⟩ := statements_of_fields hfields
    intro t ht
    obtain ⟨w, hw, ht⟩ := (hgathers.triples t).1 ht
    obtain ⟨ws, hws, hmem⟩ := List.mem_flatten.1 hw
    obtain ⟨m, hm, L₁, L₂, hrun⟩ := mem_sequence hvss hws
    obtain ⟨member, -, rfl⟩ := List.mem_map.1 hm
    rcases statements_cases hrun hmem with ⟨f, hf, hedge, path, json, vs, L₃, L₄, hvalue, hv⟩ |
      ⟨text, rfl⟩
    · have hmerged := Aliases.mem_mergedFields ha hf
      have hinner := hlevel.merged hmerged
      have hproper := proper_of_value hs hvalue hv
      -- the edge itself, or a triple that is told of its other end
      rcases ht with rfl | ht
      · rw [hedge]
        exact ⟨Triple.proper_edge (hlevel.edge hD hmerged) hr hrp
          (hedge ▸ hgathers.resources w hw) hproper hinner, .field _ .start hmerged⟩
      · rcases described_of_value hvalue hv with hnone | ⟨inner, b, path, L₅, L₆, hb, hw', hread⟩
        · rw [hnone] at ht
          exact absurd ht List.not_mem_nil
        · have hlt := Shape.depth_lt_of_mem ha hf
          obtain ⟨htp, hmet⟩ := ih _ (hdepth ▸ hlt) hinner hb hw' hproper hread rfl t ht
          have hsub : w.2.2.triples ⊆ g.triples :=
            fun u hu => (hgathers.triples u).2 ⟨w, hw, Or.inr hu⟩
          have hleads : f.edge.triple r w.2.1 ∈ g.triples :=
            (hgathers.triples _).2 ⟨w, hw, Or.inl (by rw [hedge])⟩
          exact ⟨htp, hmet.behind hsub hmerged hleads hw'⟩
    · rcases ht with rfl | ht
      · refine ⟨Triple.proper_edge (show Iri.isAbsolute Rdf.type = true by decide) hr hrp
          (fun h => by cases h)
          (.iri (Iri.isAbsolute_resolve hs)) (Shape.drawnFrom_self D), .type _ .start⟩
      · exact absurd ht List.not_mem_nil

/-- The graph of a description is well-formed, and all of it is met from the focus by the fields of
the driver. -/
theorem proper_of_decode {focus : String} {k : Keywords} (hfocus : Iri.isAbsolute focus = true)
    (hD : shape.drive.AbsoluteFields) (h : decode focus shape json k L = .ok g) :
    ∀ t ∈ g.triples, t.Proper shape.drive ∧
      OfMet g (.iri (Iri.normalize focus)) shape.drive t := by
  obtain ⟨L', hg⟩ := (decode_ok_iff (prepare_of_decode h)).1 h
  obtain ⟨members, a, hroot, hfields⟩ := focusTriples_ok hg
  have hs : Iri.isAbsolute (Setting.of focus k).focus = true := Iri.isAbsolute_normalize hfocus
  exact told_of_fields hs hD (Shape.drawnFrom_self _) (object_of_root hroot).2 rfl (.iri hs) hfields

/-- Letters that are quoted somewhere and say something in some language. -/
def letters : Shape :=
  .field ⟨"urn:x:p", false⟩ none (.and [.field ⟨"urn:x:q", true⟩ none (.and []),
    .field ⟨"urn:x:r", false⟩ none (.datatype Rdf.langString)])

/-- A letter without a name of its own, with relative references around it. -/
def letter : Json :=
  .object [("@type", .string "urn:x:T"), ("p", .object [("@type", .string ""),
    ("qOf", .object [("@id", .string "a")]), ("r", .object [("de", .string "Wort")])])]

theorem proper_of_decode_letter : ∃ g,
    decode "urn:x:f" letters letter .none default = .ok g ∧ g.size = 5 ∧ ∀ t ∈ g.triples,
      t.Proper letters.drive ∧ OfMet g (.iri (Iri.normalize "urn:x:f")) letters.drive t := by
  have hsize :
      (decode "urn:x:f" letters letter .none default).toOption.map Graph.size = some 5 := by
    decide +kernel
  have hfields : letters.drive.AbsoluteFields := by
    have hall : ∀ part ∈ letters.drive.within,
        part.fields.all (Iri.isAbsolute ·.edge.iri) = true := by decide +kernel
    intro edge label inner hmem
    simpa [Shape.fields] using hall _ hmem
  obtain ⟨g, hg, hfive⟩ := Option.map_eq_some_iff.1 hsize
  have hg := ok_of_toOption hg
  exact ⟨g, hg, hfive, proper_of_decode (by decide +kernel) hfields hg⟩

end Description

end LinkedShapes
