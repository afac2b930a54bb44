import LinkedShapes.Proofs.Description.Numbers
import LinkedShapes.Proofs.Description.Places

/-!
# Abstract datatypes tell kinds of terms apart

The abstract datatypes are those of all identifiers, of all blank nodes, of both, of literals and of
values at large. They are not meant to be datatypes of literals. Reading keeps to this with the
datatypes that shapes declare, but takes over whatever type a value object gives.

* `Term.ByKind`: what abstract datatypes say of a term is what kind of term it is.
* `Term.byKind_iff`: they do for all terms but literals of the datatype of identifiers, or of blank
  nodes.
* `datatype_of_value`: a literal that is read has a concrete datatype, or the type that a value
  object declares for it.
* `values_byKind_iff`: so the terms that are read are of the kinds that abstract datatypes tell,
  exactly if no value object declares such a type.
-/

namespace LinkedShapes

open Vocabulary

/-! ## Kinds -/

namespace Term

/-- The abstract datatypes say what kind of term this is, and a datatype that includes another one
has the term if the other has. No literal is taken for a resource. -/
structure ByKind (v : Term) : Prop where
  iri : v.isOf Abstract.iri = true ↔ v.isIri = true
  bnode : v.isOf Abstract.bnode = true ↔ v.isBlank = true
  subsumes : ∀ general specific, Shape.subsumes general specific = true →
    v.isOf specific = true → v.isOf general = true
  resource : ∀ datatype, Abstract.isResource datatype = true → v.isOf datatype = true →
    v.isLiteral = false

variable {v : Term} {datatype : String}

theorem iri_ne_bnode : Abstract.iri ≠ Abstract.bnode := by decide

theorem isOf_of_ne (hv : datatype ≠ Abstract.value) (hr : datatype ≠ Abstract.resource)
    (hl : datatype ≠ Abstract.literal) :
    v.isOf datatype = true ↔ v.typeOf = datatype ∧ v.isWellFormed = true := by
  rw [isOf, if_neg hv, if_neg hr, if_neg hl, Bool.and_eq_true, beq_iff_eq]

/-- Literals of abstract datatypes have no lexical form that would be wrong. -/
theorem isWellFormed_of_isAbstract (h : Abstract.isAbstract v.typeOf = true) :
    v.isWellFormed = true := by
  cases v with
  | iri _ | blankNode _ => rfl
  | literal l =>
    -- only some concrete datatypes have forms that are checked
    have hne : ∀ d, Abstract.isAbstract d = false → l.datatype ≠ d := by
      rintro d hd hl
      rw [show (Term.literal l).typeOf = l.datatype from rfl, hl, hd] at h
      cases h
    have hinteger : Xsd.isInteger l.datatype ≠ true := by
      intro hi
      have hconcrete := Description.isConcrete_of_isNumeric (Bool.or_eq_true_iff.2 (Or.inl hi))
      rw [Description.isConcrete, show Abstract.isAbstract l.datatype = true from h] at hconcrete
      cases hconcrete
    rw [isWellFormed, if_neg (hne Xsd.boolean (by decide)), if_neg hinteger,
      if_neg (hne Xsd.decimal (by decide)),
      if_neg (not_or.2 ⟨hne Xsd.double (by decide), hne Xsd.float (by decide)⟩)]

theorem isOf_of_isAbstract (ha : Abstract.isAbstract datatype = true)
    (hv : datatype ≠ Abstract.value) (hr : datatype ≠ Abstract.resource)
    (hl : datatype ≠ Abstract.literal) : v.isOf datatype = true ↔ v.typeOf = datatype := by
  rw [isOf_of_ne hv hr hl, and_iff_left_iff_imp]
  exact fun h => isWellFormed_of_isAbstract (h ▸ ha)

theorem isOf_iri_iff : v.isOf Abstract.iri = true ↔ v.typeOf = Abstract.iri :=
  isOf_of_isAbstract (by decide) (by decide) (by decide) (by decide)

theorem isOf_bnode_iff : v.isOf Abstract.bnode = true ↔ v.typeOf = Abstract.bnode :=
  isOf_of_isAbstract (by decide) (by decide) (by decide) (by decide)

/-- What has a concrete datatype is a literal. -/
theorem isLiteral_of_isOf (hc : Abstract.isAbstract datatype = false)
    (h : v.isOf datatype = true) : v.isLiteral = true := by
  have hne : ∀ d, Abstract.isAbstract d = true → datatype ≠ d := by
    rintro d hd rfl
    rw [hc] at hd
    cases hd
  have htype := ((isOf_of_ne (hne _ (by decide)) (hne _ (by decide)) (hne _ (by decide))).1 h).1
  cases v with
  | literal l => rfl
  | iri _ => exact absurd htype.symm (hne Abstract.iri (by decide))
  | blankNode _ => exact absurd htype.symm (hne Abstract.bnode (by decide))

/-- A datatype that includes another one has the term, if the datatypes of resources have resources
only. -/
theorem isOf_of_subsumes {general specific : String}
    (hresource : ∀ datatype, Abstract.isResource datatype = true → v.isOf datatype = true →
      v.isResource = true)
    (hsub : Shape.subsumes general specific = true) (hof : v.isOf specific = true) :
    v.isOf general = true := by
  rw [Shape.subsumes, Bool.and_eq_true] at hsub
  have hsub := hsub.2
  split at hsub
  · next hg =>
    rw [hg]
    rfl
  split at hsub
  · next hg =>
    rw [hg]
    refine hresource specific ?_ hof
    rcases Bool.or_eq_true_iff.1 hsub with h | h <;> simp [Abstract.isResource, h]
  split at hsub
  · next hg =>
    rw [hg]
    exact isLiteral_of_isOf (by simpa using hsub) hof
  · cases hsub

/-- A literal passes for an identifier or for a blank node if that is its datatype, and otherwise
abstract datatypes tell the kinds of all terms. -/
theorem byKind_iff : v.ByKind ↔
    ∀ l, v = .literal l → l.datatype ≠ Abstract.iri ∧ l.datatype ≠ Abstract.bnode := by
  constructor
  · rintro h l rfl
    refine ⟨fun hd => ?_, fun hd => ?_⟩
    · cases h.iri.1 (isOf_iri_iff.2 hd)
    · cases h.bnode.1 (isOf_bnode_iff.2 hd)
  intro hne
  have hiri : v.isOf Abstract.iri = true ↔ v.isIri = true := by
    rw [isOf_iri_iff]
    cases v with
    | iri _ => exact iff_of_true rfl rfl
    | blankNode _ => exact iff_of_false iri_ne_bnode.symm Bool.false_ne_true
    | literal l => exact iff_of_false (hne l rfl).1 Bool.false_ne_true
  have hbnode : v.isOf Abstract.bnode = true ↔ v.isBlank = true := by
    rw [isOf_bnode_iff]
    cases v with
    | iri _ => exact iff_of_false iri_ne_bnode Bool.false_ne_true
    | blankNode _ => exact iff_of_true rfl rfl
    | literal l => exact iff_of_false (hne l rfl).2 Bool.false_ne_true
  -- the datatypes below that of resources are those of one kind of resource
  have hresource : ∀ datatype, Abstract.isResource datatype = true → v.isOf datatype = true →
      v.isResource = true := by
    intro datatype hd hof
    simp only [Abstract.isResource, Bool.or_eq_true, beq_iff_eq] at hd
    rcases hd with (rfl | rfl) | rfl
    · exact hof
    · cases v with
      | literal l => cases hbnode.1 hof
      | _ => rfl
    · cases v with
      | literal l => cases hiri.1 hof
      | _ => rfl
  exact ⟨hiri, hbnode, fun _ _ => isOf_of_subsumes hresource,
    fun datatype hd hof => Bool.not_eq_eq_eq_not.1 (hresource datatype hd hof)⟩

end Term

namespace Description

variable {s : Setting} {shape : Shape} {path : String} {json : Json} {L L' : Labels}
  {vs : List Described} {members found : List (String × Json)} {l : Literal}

/-! ## Datatypes of literals -/

/-- The type that a value object gives to its literal. -/
def givenType? (s : Setting) (shape : Shape) : Json → Option String
  | .object members => do
    let aliases ← (Aliases.ofShape shape s.keywords).toOption
    let found ← (declared s aliases members).toOption
    match Json.lookup Keyword.value found, Json.lookup Keyword.type found with
    | some _, some (.string type) => some (Iri.resolve s.focus type)
    | _, _ => none
  | _ => none

theorem givenType?_object {a : Aliases} {value type : Json}
    (ha : Aliases.ofShape shape s.keywords = .ok a) (hd : declared s a members = .ok found)
    (hvalue : Json.lookup Keyword.value found = some value)
    (htype : Json.lookup Keyword.type found = some type) :
    givenType? s shape (.object members) = type.string?.map (Iri.resolve s.focus) := by
  simp only [givenType?, ha, hd, Except.toOption, bind, Option.bind, hvalue, htype]
  cases type <;> rfl

theorem value_of_givenType? {datatype : String} (h : givenType? s shape json = some datatype) :
    ∃ members a found value type, json = .object members ∧
      Aliases.ofShape shape s.keywords = .ok a ∧ declared s a members = .ok found ∧
      Json.lookup Keyword.value found = some value ∧
      Json.lookup Keyword.type found = some (.string type) ∧
      Iri.resolve s.focus type = datatype := by
  cases json with
  | object members =>
    obtain ⟨a, ha, h⟩ := Option.bind_eq_some_iff.1 h
    obtain ⟨found, hd, h⟩ := Option.bind_eq_some_iff.1 h
    split at h
    · next value type hvalue htype =>
      cases h
      exact ⟨members, a, found, value, type, rfl, ok_of_toOption ha, ok_of_toOption hd, hvalue,
        htype, rfl⟩
    · cases h
  | _ => cases h

theorem isNumeric_iff {datatype : String} :
    isNumeric datatype = true ↔ Xsd.isNumeric datatype = true := by
  simp only [isNumeric, Xsd.isNumeric, Xsd.isDecimal, Bool.or_eq_true]
  tauto

theorem isConcrete_string (text : String) : isConcrete (Term.string text).typeOf = true :=
  show isConcrete Xsd.string = true by decide

theorem isConcrete_boolean (b : Bool) : isConcrete (Term.boolean b).typeOf = true :=
  show isConcrete Xsd.boolean = true by decide

theorem isConcrete_langString (text lang : String) :
    isConcrete (Term.langString text lang).typeOf = true :=
  show isConcrete Rdf.langString = true by decide

theorem isConcrete_numberTerm (n : Json.Number) :
    isConcrete (numberTerm shape n).typeOf = true := by
  unfold numberTerm
  split
  · next d hd =>
    exact isConcrete_of_isNumeric (isNumeric_iff.1 (Option.mem_filter_iff.1 hd).2)
  · show isConcrete (if n.isInteger = true then Xsd.integer else Xsd.decimal) = true
    split <;> decide

theorem isConcrete_valueText (text : String) :
    isConcrete (valueText shape text).typeOf = true := by
  unfold valueText
  split
  · next d hd => exact (Bool.and_eq_true_iff.1 (Option.mem_filter_iff.1 hd).2).1
  · exact isConcrete_string text

/-- What is read of a plain text is a resource, or a literal of a concrete datatype. -/
theorem TextReading.isConcrete {text : String} {m : Decoding Term} {t : Term}
    (hm : TextReading s shape text m) (h : m L = .ok (t, L')) (hl : t.isLiteral = true) :
    isConcrete t.typeOf = true := by
  cases hm with
  | iri =>
    cases h
    cases hl
  | label =>
    unfold blankOf at h
    split at h <;> cases h <;> cases hl
  | resource =>
    have hr := isResource_of_resource h
    rw [Term.isResource, hl] at hr
    cases hr
  | tagged _ =>
    cases h
    exact isConcrete_langString text _
  | untagged _ => cases h
  | typed _ hc =>
    cases h
    exact hc
  | plain =>
    cases h
    exact isConcrete_string text

theorem isConcrete_taggedTexts {ts : List Term} {t : Term} (h : taggedTexts path members = .ok ts)
    (ht : t ∈ ts) : isConcrete t.typeOf = true := by
  obtain ⟨m, -, us, hus, ht⟩ := ((mem_taggedTexts h).2 t).1 ht
  obtain ⟨texts, -, rfl⟩ := Option.map_eq_some_iff.1 hus
  obtain ⟨text, -, rfl⟩ := List.mem_map.1 ht
  exact isConcrete_langString text m.1

/-- The literal of a value object has a concrete datatype, unless the type is given. -/
theorem typeOf_of_valueObject {value : Json} {t : Term}
    (h : valueObject s shape members found value path = .ok t) :
    (∃ type, Json.lookup Keyword.type found = some (.string type) ∧
        t.typeOf = Iri.resolve s.focus type) ∨
      Json.lookup Keyword.type found = none ∧ isConcrete t.typeOf = true := by
  unfold valueObject at h
  cases hf : members.find? fun m => (s.keywords.keyword? m.1).isNone with
  | some m =>
    rw [hf] at h
    cases h
  | none =>
    simp only [hf] at h
    cases value with
    | string _ | bool _ | number _ =>
      obtain ⟨lexical, -, h⟩ := ok_of_bind h
      cases ht : Json.lookup Keyword.type found with
      | some type =>
        simp only [ht] at h
        obtain ⟨text, htext, h⟩ := ok_of_bind h
        cases type with
        | string type =>
          cases htext
          cases h
          exact Or.inl ⟨_, rfl, rfl⟩
        | _ => cases htext
      | none =>
        -- a type is chosen: that of tagged texts, or the one that suits the JSON value
        refine Or.inr ⟨rfl, ?_⟩
        cases hl : Json.lookup Keyword.language found with
        | some language =>
          simp only [ht, hl] at h
          obtain ⟨text, -, h⟩ := ok_of_bind h
          cases h
          exact isConcrete_langString _ _
        | none =>
          simp only [ht, hl] at h
          cases h
          simp only [isConcrete_boolean, isConcrete_numberTerm, isConcrete_valueText]
    | null | array _ | object _ => cases h

/-- The literals of an object have concrete datatypes, or the type that it gives. -/
theorem datatype_of_literals {ts : List Term} {t : Term}
    (ha : Aliases.ofShape shape s.keywords = .ok a) (hd : declared s a members = .ok found)
    (h : literals s shape members found path = .ok ts) (ht : t ∈ ts) :
    isConcrete t.typeOf = true ∨ givenType? s shape (.object members) = some t.typeOf := by
  -- texts by language, or one value that may give its type
  cases hvalue : Json.lookup Keyword.value found with
  | none =>
    rw [literals_of_tagged hvalue] at h
    exact Or.inl (isConcrete_taggedTexts h ht)
  | some json =>
    rw [literals_of_value hvalue] at h
    cases ho : valueObject s shape members found json path with
    | error fault =>
      rw [ho] at h
      cases h
    | ok u =>
      rw [ho] at h
      cases h
      rw [List.mem_singleton.1 ht]
      rcases typeOf_of_valueObject ho with ⟨type, htype, heq⟩ | ⟨-, hconcrete⟩
      · exact Or.inr (by rw [givenType?_object ha hd hvalue htype, heq]; rfl)
      · exact Or.inl hconcrete

/-- A literal that is read has a concrete datatype, or the type that a value object gives. -/
theorem datatype_of_value (h : value s shape path json L = .ok (vs, L')) {v : Described}
    (hv : v ∈ vs) (hl : v.1.isLiteral = true) :
    isConcrete v.1.typeOf = true ∨ givenType? s shape json = some v.1.typeOf := by
  cases json with
  | null =>
    cases h
    exact absurd hv List.not_mem_nil
  | bool b =>
    cases h
    rw [List.mem_singleton.1 hv]
    exact Or.inl (isConcrete_boolean b)
  | number n =>
    cases h
    rw [List.mem_singleton.1 hv]
    exact Or.inl (isConcrete_numberTerm n)
  | string text =>
    obtain ⟨t, L₁, ht, h⟩ := run_ok_of_bind h
    cases h
    rw [List.mem_singleton.1 hv] at hl ⊢
    exact Or.inl ((textReading s shape text).isConcrete ht hl)
  | array xs => cases h
  | object members =>
    obtain ⟨a, found, ha, hd⟩ := declared_of_value h
    rw [value_object ha hd] at h
    split at h
    · obtain ⟨ts, L₁, hts, h⟩ := run_ok_of_bind h
      cases h
      obtain ⟨t, ht, rfl⟩ := List.mem_map.1 hv
      exact datatype_of_literals ha hd (ok_of_run_lift hts).1 ht
    · obtain ⟨r, L₁, hr, h⟩ := run_ok_of_bind h
      obtain ⟨g, L₂, -, h⟩ := run_ok_of_bind h
      cases h
      have hr := isResource_of_namedResource hr
      rw [List.mem_singleton.1 hv] at hl
      rw [Term.isResource, hl] at hr
      cases hr

/-- The type that a value object gives is that of a literal that is read. -/
theorem literal_of_givenType? {datatype : String}
    (h : value s shape path json L = .ok (vs, L')) (hd : givenType? s shape json = some datatype) :
    ∃ v ∈ vs, ∃ l, v.1 = .literal l ∧ l.datatype = datatype := by
  obtain ⟨members, a, found, json, type, rfl, ha, hdeclared, hvalue, htype, rfl⟩ :=
    value_of_givenType? hd
  have hliteral : isLiteralObject shape found = true := by
    rw [isLiteralObject, hvalue]
    rfl
  rw [value_object ha hdeclared, if_pos hliteral] at h
  obtain ⟨ts, L₁, hts, h⟩ := run_ok_of_bind h
  cases h
  have hliterals := (ok_of_run_lift hts).1
  rw [literals_of_value hvalue] at hliterals
  cases ho : valueObject s shape members found json path with
  | error fault =>
    rw [ho] at hliterals
    cases hliterals
  | ok t =>
    rw [ho] at hliterals
    cases hliterals
    rcases typeOf_of_valueObject ho with ⟨type', htype', heq⟩ | ⟨hnone, -⟩
    · rw [htype] at htype'
      cases htype'
      have hl := (valueObject_spec ho).1
      cases t with
      | literal l => exact ⟨_, List.mem_singleton_self _, l, rfl, heq⟩
      | _ => cases hl
    · rw [htype] at hnone
      cases hnone

/-- The terms that are read of a JSON value are of the kinds that abstract datatypes tell, exactly
if no value object among its items gives the datatype of identifiers or of blank nodes to its
literal. -/
theorem values_byKind_iff (h : values s shape path json L = .ok (vs, L')) :
    (∀ v ∈ vs, v.1.ByKind) ↔ ∀ item ∈ listed json, givenType? s shape item ≠ some Abstract.iri ∧
      givenType? s shape item ≠ some Abstract.bnode := by
  have hread := values_readAt h
  constructor
  · intro hkinds item hitem
    obtain ⟨stop, hstop, rfl⟩ := hread.stop item hitem
    obtain ⟨-, -, ws, L₁, hvalue, hsub⟩ := hread.read stop hstop
    have hne : ∀ datatype, givenType? s shape stop.json = some datatype →
        datatype ≠ Abstract.iri ∧ datatype ≠ Abstract.bnode := by
      intro datatype hd
      obtain ⟨v, hv, l, hl, rfl⟩ := literal_of_givenType? hvalue hd
      exact Term.byKind_iff.1 (hkinds v (hsub hv)) l hl
    exact ⟨fun hd => (hne _ hd).1 rfl, fun hd => (hne _ hd).2 rfl⟩
  · intro hgiven v hv
    obtain ⟨stop, hstop, ws, L₁, hvalue, hv⟩ := hread.value v hv
    obtain ⟨hiri, hbnode⟩ := hgiven stop.json (hread.read stop hstop).1
    refine Term.byKind_iff.2 fun l hl => ?_
    have hdatatype := datatype_of_value hvalue hv (by rw [hl]; rfl)
    rw [hl] at hdatatype
    rcases hdatatype with hconcrete | hd
    · have hne : ∀ d, isConcrete d = false → l.datatype ≠ d := by
        rintro d hd rfl
        exact Bool.noConfusion (hconcrete.symm.trans hd)
      exact ⟨hne _ (by decide), hne _ (by decide)⟩
    · exact ⟨fun he => hiri (he ▸ hd), fun he => hbnode (he ▸ hd)⟩

theorem values_byKind_iff_codeAmongBlanks :
    let s : Setting := .of "urn:x:f" .none
    let json : Json := .array [.string "_:b",
      .object [(Keyword.value, .string "1"), (Keyword.type, .string "urn:x:code")]]
    ∃ vs L', values s (.datatype Abstract.resource) "" json default = .ok (vs, L') ∧
      vs.map (·.1) = [.blankNode "b", .typed "1" "urn:x:code"] ∧ ∀ v ∈ vs, v.1.ByKind := by
  intro s json
  have hread : (values s (.datatype Abstract.resource) "" json default).toOption.map
      (fun read => read.1.map (·.1)) = some [.blankNode "b", .typed "1" "urn:x:code"] := by
    decide +kernel
  obtain ⟨⟨vs, L'⟩, hvs, hterms⟩ := Option.map_eq_some_iff.1 hread
  refine ⟨vs, L', ok_of_toOption hvs, hterms, (values_byKind_iff (ok_of_toOption hvs)).2 ?_⟩
  show ∀ item ∈ _, _
  decide +kernel

/-- A value object may give its literal the datatype of identifiers. Then the literal passes for one
where its datatype is checked, although it is no resource. -/
theorem not_byKind_of_givenType :
    let s : Setting := .of "urn:x:f" .none
    let shape : Shape := .datatype Abstract.iri
    let json : Json :=
      .object [(Keyword.value, .string "x"), (Keyword.type, .string Abstract.iri)]
    let v : Term := .typed "x" Abstract.iri
    (values s shape "" json default).toOption.map (fun read => read.1.map (·.1)) = some [v] ∧
      (v.isOf Abstract.iri = true ∧ v.isIri = false) ∧
      (Shape.subsumes Abstract.resource Abstract.iri = true ∧ v.isOf Abstract.resource = false) ∧
      (shape.check s.focus [v]).toOption.any Trace.isEmpty = true ∧ v.isLiteral = true := by
  decide +kernel

end Description

end LinkedShapes
