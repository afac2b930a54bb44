import LinkedShapes.Proofs.Description.Backreferences
import LinkedShapes.Proofs.Description.Redrawn

/-!
# Contexts

A context explains the names in a description to other readers. It stands in front of the other
members and takes nothing away: neither of the description it is put into, nor in the context
itself, where names of keywords and of fields stand side by side.

* `context_explains`: no entry of a context takes the place of another one.
* `written_with_context`: a description is written with a context if it is written without one.
* `focusTriples_context`: for reading, a context might as well not be there.
* `context_transparent`: the two descriptions are told apart by the context only, and reading them
  ends alike.
-/

namespace LinkedShapes.Description

open Vocabulary

variable {s : Setting} {src : Source} {D shape : Shape} {a : Aliases} {k : Keywords}
variable {focus path : String} {r : Term} {context json : Json} {members : List (String × Json)}

/-! ## What a context holds -/

/-- Entries explain other names of keywords, then the fields of a table by the names that stand for
no keyword. No entry takes the place of another one. -/
structure Explains (k : Keywords) (a : Aliases) (entries : List (String × Json)) : Prop where
  entries_eq : entries = k.overrides.map (fun o => (o.2, .string o.1)) ++
    (a.entries.filter fun e => (k.keyword? e.1).isNone).map fun e => (e.1, definition e.2)
  names : (entries.map (·.1)).Nodup
  keywords : ∀ o ∈ k.overrides, Json.lookup o.2 entries = some (.string o.1)
  fields : ∀ e ∈ a.entries, k.keyword? e.1 = none →
    Json.lookup e.1 entries = some (definition e.2)

/-- The entries of a context stand side by side: a name that a field has in it stands for no
keyword, so no override has this name. -/
theorem context_explains (hk : k.check = .ok ()) (ha : Aliases.ofShape shape k = .ok a) :
    ∃ entries, Description.context k a = .object entries ∧ Explains k a entries := by
  let names : List (String × Json) := k.overrides.map fun o => (o.2, .string o.1)
  let fields := (a.entries.filter fun e => (k.keyword? e.1).isNone).map fun e =>
    (e.1, definition e.2)
  have hoverrides : (names.map (·.1)).Nodup := by
    rw [List.map_map]
    exact (Keywords.checkAll_ok hk).2
  have htable : (fields.map (·.1)).Nodup := by
    rw [List.map_map]
    exact (Aliases.ofShape_ok ha).1.sublist (List.filter_sublist.map _)
  -- an override stands for its keyword, and these fields are those whose names stand for none
  have hapart : ∀ name ∈ names.map (·.1), ∀ name' ∈ fields.map (·.1), name ≠ name' := by
    simp only [names, fields, List.map_map, List.mem_map, List.mem_filter]
    rintro _ ⟨o, ho, rfl⟩ _ ⟨e, ⟨-, hnone⟩, rfl⟩ heq
    have heq : o.2 = e.1 := heq
    rw [← heq, Keywords.keyword?_of_mem hk ho] at hnone
    cases hnone
  have hnodup : ((names ++ fields).map (·.1)).Nodup := by
    rw [List.map_append]
    exact List.nodup_append.2 ⟨hoverrides, htable, hapart⟩
  refine ⟨names ++ fields, congrArg Json.object (Json.foldl_put hnodup), rfl, hnodup,
    fun o ho => ?_, fun e he hnone => ?_⟩
  · exact lookup_json_of_mem hnodup (List.mem_append_left _ (List.mem_map_of_mem ho))
  · have hfiltered : e ∈ a.entries.filter fun e => (k.keyword? e.1).isNone :=
      List.mem_filter.2 ⟨he, Option.isNone_iff_eq_none.2 hnone⟩
    exact lookup_json_of_mem hnodup (List.mem_append_right _ (List.mem_map_of_mem hfiltered))

/-! ## Writing with a context -/

/-- A shape by which the focus is described has a table, also if it has no fields. -/
theorem table_of_outline {o : Outline} (h : src.outline shape.depth r shape [] = .ok o) :
    ∃ a, Aliases.ofShape shape src.keywords = .ok a := by
  cases hdepth : shape.depth with
  | zero =>
    refine ⟨⟨[]⟩, Aliases.ofShape_of_no_fields (List.eq_nil_iff_forall_not_mem.2 fun f hf => ?_)⟩
    have hlt := Shape.depth_lt_of_mem_fields hf
    omega
  | succ levels =>
    rw [hdepth] at h
    obtain ⟨a, ha, -⟩ := ok_of_bind h
    exact ⟨a, ha⟩

/-- What is written without a context is also written with one, and the other way around. A name
that stands for contexts is not among the others. -/
theorem written_with_context {embedContext : Bool}
    (hk : src.keywords.check = .ok ()) (h : src.focusJson focus shape embedContext = .ok json) :
    ∃ members a, src.focusJson focus shape false = .ok (.object members) ∧
      src.focusJson focus shape true = .ok (.object
        ((src.keywords.nameOf Keyword.context, Description.context src.keywords a) :: members)) ∧
      (src.keywords.nameOf Keyword.context :: members.map (·.1)).Nodup ∧
      Aliases.ofShape shape src.keywords = .ok a := by
  obtain ⟨o, ho⟩ := outlines_of_focusJson hk h
  obtain ⟨a, ha⟩ := table_of_outline ho.outline
  obtain ⟨members, inner, b, rfl, hb, hn⟩ := outline_object ho.outline
  have hnames := outlineObject_names (r := .iri (Iri.normalize focus)) hb hk hn
  have hdescribe : src.describe shape.depth (.iri (Iri.normalize focus)) shape [] =
      .ok (src.outlineObject (.iri (Iri.normalize focus)) members).written := by
    rw [describe_eq_outline hk, ho.outline]
    rfl
  refine ⟨_, a, ?_, ?_, hnames, ha⟩
  · unfold Source.focusJson
    rw [hdescribe]
    rfl
  · unfold Source.focusJson
    rw [hdescribe, ha]
    exact congrArg (fun members => Except.ok (Json.object members)) (Json.foldl_put hnames)

/-! ## Reading with a context -/

/-- A keyword that is not that of types tells nothing of the resource of its object. -/
theorem fields_behind_keyword (hk : s.keywords.check = .ok ())
    (ha : Aliases.ofShape shape s.keywords = .ok a) {keyword : String}
    (hl : Keywords.looksReserved keyword = true) (ht : keyword ≠ Keyword.type) :
    fields s a r path ((s.keywords.nameOf keyword, json) :: members) =
      fields s a r path members := by
  have hg := Aliases.get?_nameOf hk ha hl ht
  have hname := Keywords.keyword?_nameOf hk hl
  funext L
  cases hf : fields s a r path members L with
  | error fault =>
    rw [fields]
    simp only [hg, hname, if_neg ht, pure_bind]
    exact bind_of_error hf
  | ok x =>
    obtain ⟨g, L'⟩ := x
    rw [fields_keyword hg hname ht hf, (fields_leaves _ hf).2.1.empty_merge]

/-- A context is no keyword that the object is read by. -/
theorem declared_context (hk : s.keywords.check = .ok ())
    (ha : Aliases.ofShape shape s.keywords = .ok a) :
    declared s a ((s.keywords.nameOf Keyword.context, context) :: members) =
      declared s a members :=
  declaredAfter_cons_skip <| objectKeyword?_of_not_mem
    (Aliases.get?_nameOf hk ha (by decide) (by decide))
    (Keywords.keyword?_nameOf hk (by decide)) (by decide)

/-- An object is the description of the focus with a context if it is without one. -/
theorem root_context (hk : s.keywords.check = .ok ()) :
    root s D (.object ((s.keywords.nameOf Keyword.context, context) :: members)) =
      (root s D (.object members)).map fun x =>
        ((s.keywords.nameOf Keyword.context, context) :: x.1, x.2) := by
  unfold root aliasesOf
  cases ha : Aliases.ofShape D s.keywords with
  | error e => rfl
  | ok a =>
    show (declared s a (_ :: members) >>= _) = Except.map _ (declared s a members >>= _)
    rw [declared_context hk ha]
    cases declared s a members with
    | error fault => rfl
    | ok found =>
      dsimp only [bind, Except.bind]
      cases Json.lookup Keyword.id found with
      | none => rfl
      | some id =>
        dsimp only
        cases keywordText Keyword.id id with
        | error fault => rfl
        | ok text =>
          dsimp only
          split <;> rfl

/-- A context in front of the members does not matter to what is read, or to why nothing is. -/
theorem focusTriples_context (hk : s.keywords.check = .ok ()) :
    focusTriples s D (.object ((s.keywords.nameOf Keyword.context, context) :: members)) =
      focusTriples s D (.object members) := by
  unfold focusTriples
  rw [root_context hk]
  cases hr : root s D (.object members) with
  | error fault => rfl
  | ok x =>
    obtain ⟨members', a⟩ := x
    obtain ⟨rfl, ha, -⟩ := root_object_iff.1 hr
    exact fields_behind_keyword hk ha (by decide) (by decide)

/-- Reading a description ends alike with and without a context, whatever labels are drawn that are
not written there. -/
theorem decode_context {L M : Labels} (hL : L.FreshFor (.object members))
    (hM : M.FreshFor (.object ((k.nameOf Keyword.context, context) :: members))) :
    Outcome (fun g h => g.isIsomorphic h = true) (decode focus shape (.object members) k L)
      (decode focus shape (.object ((k.nameOf Keyword.context, context) :: members)) k M) := by
  cases hprepare : prepare shape k with
  | error fault =>
    unfold decode
    rw [hprepare]
    exact .error _
  | ok driver =>
    obtain ⟨rfl, hk⟩ := prepare_ok hprepare
    have hread : focusTriples (.of focus k) shape.drive
        (.object ((k.nameOf Keyword.context, context) :: members)) =
          focusTriples (.of focus k) shape.drive (.object members) := focusTriples_context hk
    rw [decode_eq hprepare, decode_eq hprepare, hread]
    refine (focusTriples_redrawn hL (hM.mono ?_)).map
    rw [Json.strings, Json.strings, Json.memberStrings]
    exact List.subset_append_right _ _

/-! ## Contexts are transparent -/

/-- A description that is written as `members`, and as what `entries` explain if a context is asked
for. -/
structure Explained (focus : String) (shape : Shape) (graph : Graph) (options : DescriptionOptions)
    (members entries : List (String × Json)) : Prop where
  bare : encode focus shape graph { options with embedContext := false } = .ok (.object members)
  /-- The context stands in front of the same members. -/
  framed : encode focus shape graph { options with embedContext := true } =
    .ok (.object ((options.keywords.nameOf Keyword.context, .object entries) :: members))
  /-- No member has the name of the context, or of another member. -/
  names : (options.keywords.nameOf Keyword.context :: members.map (·.1)).Nodup
  explains : ∃ a, Aliases.ofShape shape.drive options.keywords = .ok a ∧
    Explains options.keywords a entries
  /-- For any focus and by any shape, reading the two comes to isomorphic graphs or to the same
  fault, whatever fresh labels either draws. -/
  read : ∀ focus' shape' (L M : Labels), L.FreshFor (.object members) →
    M.FreshFor
      (.object ((options.keywords.nameOf Keyword.context, .object entries) :: members)) →
    Outcome (fun g h => g.isIsomorphic h = true)
      (decode focus' shape' (.object members) options.keywords L)
      (decode focus' shape'
        (.object ((options.keywords.nameOf Keyword.context, .object entries) :: members))
        options.keywords M)

/-- Whatever can be written is written with a context and without one, and the context takes
nothing away. -/
theorem context_transparent {graph : Graph} {options : DescriptionOptions}
    (h : encode focus shape graph options = .ok json) :
    ∃ members entries, Explained focus shape graph options members entries := by
  obtain ⟨driver, hprepare, hjson⟩ := ok_of_bind h
  obtain ⟨rfl, hk⟩ := prepare_ok hprepare
  obtain ⟨members, a, hbare, hframed, hnames, ha⟩ := written_with_context hk hjson
  obtain ⟨entries, hentries, hexplains⟩ := context_explains hk ha
  refine ⟨members, entries, ?_, ?_, hnames, ⟨a, ha, hexplains⟩,
    fun _ _ _ _ => decode_context⟩
  · unfold encode
    rw [hprepare]
    exact hbare
  · unfold encode
    rw [hprepare, ← hentries]
    exact hframed

/-- Someone of a type knows an unnamed resource. Types go by another name of their keyword, so they
have no entry of their own as a field. -/
theorem context_transparent_of_overrides :
    let shape : Shape := .and [.field ⟨Rdf.type, false⟩ none (.and []),
      .field ⟨"urn:x:knows", false⟩ none
        (.field ⟨"urn:x:name", false⟩ none (.datatype Xsd.string))]
    let g : Graph := .ofList [⟨.iri "urn:x:a", .iri Rdf.type, .iri "urn:x:Person"⟩,
      ⟨.iri "urn:x:a", .iri "urn:x:knows", .blankNode "b"⟩,
      ⟨.blankNode "b", .iri "urn:x:name", .string "Bo"⟩]
    let options : DescriptionOptions := ⟨⟨[("@id", "key"), ("@type", "kind")]⟩, true, none⟩
    encode "urn:x:a" shape g options = .ok (.object [
      ("@context", .object [("key", .string "@id"), ("kind", .string "@type"),
        ("knows", .object [("@id", .string "urn:x:knows"), ("@type", .string "@id")])]),
      ("key", .string "urn:x:a"), ("kind", .array [.string "urn:x:Person"]),
      ("knows", .array [.object [("name", .array [.string "Bo"])]])]) ∧
    ∃ members entries, Explained "urn:x:a" shape g options members entries := by
  intro shape g options
  have hencode : encode "urn:x:a" shape g options = .ok (.object [
      ("@context", .object [("key", .string "@id"), ("kind", .string "@type"),
        ("knows", .object [("@id", .string "urn:x:knows"), ("@type", .string "@id")])]),
      ("key", .string "urn:x:a"), ("kind", .array [.string "urn:x:Person"]),
      ("knows", .array [.object [("name", .array [.string "Bo"])]])]) := by decide +kernel
  exact ⟨hencode, context_transparent hencode⟩

end LinkedShapes.Description
