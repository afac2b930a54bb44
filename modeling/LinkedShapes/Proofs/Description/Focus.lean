import LinkedShapes.Proofs.Description.Simulation

/-!
# The description of the focus

The description of the focus has its identifier in it, and a context in front if one is asked for.
`focus_told` extends the simulation to it, and `focusJson_congr` says what a description depends
on: the edges that it follows, and no other triples of the graph.
-/

namespace LinkedShapes.Description

open Vocabulary

variable {s : Setting} {src : Source} {shape : Shape} {a : Aliases} {L : Labels} {focus : String}

/-! ## Reading the focus -/

/-- The description of the focus reads as the triples of its visits. -/
structure FocusTold (s : Setting) (src : Source) (shape : Shape) (xs : List Visit) (json : Json) :
    Prop where
  spelled : Spelled src xs json.strings
  reads : ∀ ρ L, Follows ρ L xs → ∃ g, focusTriples s shape json L = .ok (g, labelsAfter L xs) ∧
    g.Stored ∧ ∀ t, t ∈ g.triples ↔ ∃ x ∈ xs, t = x.triple ρ

/-- The members of a description whose identifier is that of the focus belong to the focus. -/
theorem root_ok {members : List (String × Json)} {id : String}
    (ha : Aliases.ofShape shape s.keywords = .ok a)
    (hd : declared s a members = .ok [(Keyword.id, .string id)])
    (hid : Iri.resolve s.focus id = s.focus) :
    root s shape (.object members) = .ok (members, a) := by
  unfold root
  rw [aliasesOf_of_ok ha]
  show (declared s a members >>= _) = _
  rw [hd]
  show (if Iri.resolve s.focus id ≠ s.focus then _ else _) = _
  rw [if_neg (not_not.2 hid)]
  rfl

theorem focusTriples_of_root {members : List (String × Json)} {json : Json} {g : Graph}
    {L' : Labels} (hr : root s shape json = .ok (members, a))
    (hf : fields s a (.iri s.focus) "" members L = .ok (g, L')) :
    focusTriples s shape json L = .ok (g, L') := by
  unfold focusTriples
  rw [bind_of_ok (lift_of_ok hr)]
  exact hf

/-- A keyword in front of the members of a description changes nothing about its triples. -/
theorem reads_behind_keyword (hk : s.keywords.check = .ok ())
    (ha : Aliases.ofShape shape s.keywords = .ok a) {keyword : String}
    (hl : Keywords.looksReserved keyword = true) (ht : keyword ≠ Keyword.type) {r : Term}
    {members : List (String × Json)} {json : Json} {L' : Labels} {P : Triple → Prop}
    (h : ∃ g, fields s a r "" members L = .ok (g, L') ∧ g.Stored ∧ ∀ t, t ∈ g.triples ↔ P t) :
    ∃ g, fields s a r "" ((s.keywords.nameOf keyword, json) :: members) L = .ok (g, L') ∧
      g.Stored ∧ ∀ t, t ∈ g.triples ↔ P t := by
  obtain ⟨g, hg, -, hmem⟩ := h
  refine ⟨Graph.empty.merge g, ?_, Graph.Stored.empty.extend _, fun t => ?_⟩
  · exact fields_keyword (Aliases.get?_nameOf hk ha hl ht) (Keywords.keyword?_nameOf hk hl) ht hg
  · rw [Graph.mem_merge, hmem]
    exact ⟨fun h => h.resolve_left List.not_mem_nil, Or.inr⟩

/-- The keyword of contexts names nothing about the focus. -/
theorem declared_behind_context (hk : s.keywords.check = .ok ())
    (ha : Aliases.ofShape shape s.keywords = .ok a) {members : List (String × Json)}
    {context : Json} :
    declared s a ((s.keywords.nameOf Keyword.context, context) :: members) =
      declared s a members := by
  have hskip : objectKeyword? s a (s.keywords.nameOf Keyword.context) = none :=
    objectKeyword?_of_not_mem (Aliases.get?_nameOf hk ha (by decide) (by decide))
      (Keywords.keyword?_nameOf hk (by decide)) (by decide)
  unfold declared
  exact declaredAfter_cons_skip hskip

/-- An object that is identified as the focus tells of it what its members are read as. -/
theorem focusTold_of_object {xs : List Visit} {members : List (String × Json)} {id : String}
    (ha : Aliases.ofShape shape s.keywords = .ok a)
    (hd : declared s a members = .ok [(Keyword.id, .string id)])
    (hid : Iri.resolve s.focus id = s.focus) (hs : Spelled src xs (Json.object members).strings)
    (hr : ∀ ρ L, Follows ρ L xs → ∃ g,
      fields s a (.iri s.focus) "" members L = .ok (g, labelsAfter L xs) ∧ g.Stored ∧
        ∀ t, t ∈ g.triples ↔ ∃ x ∈ xs, t = x.triple ρ) :
    FocusTold s src shape xs (.object members) := by
  refine ⟨hs, fun ρ L hρ => ?_⟩
  obtain ⟨g, hg, hstored, hmem⟩ := hr ρ L hρ
  exact ⟨g, focusTriples_of_root (root_ok ha hd hid) hg, hstored, hmem⟩

/-- Writing the description of the focus and reading it go together. -/
theorem focus_told (h : Agree s src) (hn : Iri.normalize focus = s.focus)
    (hid : Iri.resolve s.focus (src.idText (.iri s.focus)) = s.focus)
    (hd : Describable s src shape.depth (.iri s.focus) shape []) (embedContext : Bool) :
    ∃ json, src.focusJson focus shape embedContext = .ok json ∧
      FocusTold s src shape (src.visits shape.depth (.iri s.focus) shape []) json := by
  obtain ⟨a, ha⟩ := hd.table shape .top
  obtain ⟨members, refs, hm, hA⟩ := describe_told h hd ha
  have hsrc : Aliases.ofShape shape src.keywords = .ok a := h.keywords ▸ ha
  -- the object of the focus always has an identifier
  let object : List (String × Json) :=
    (s.keywords.nameOf Keyword.id, .string (src.idText (.iri s.focus))) :: members
  have hobject : src.describedObject (.iri s.focus) members refs =
      (.object object, refs.erase (.iri s.focus)) := by
    have hiri : (Term.iri s.focus).isIri = true := rfl
    rw [describedObject_eq hsrc (h.keywords ▸ h.check) hA.names, if_pos (Or.inl hiri), h.keywords]
    rfl
  have hdeclared : declared s a object =
      .ok [(Keyword.id, .string (src.idText (.iri s.focus)))] := declared_id ha h.check hA.names
  have hreads : ∀ ρ L, Follows ρ L (src.visits shape.depth (.iri s.focus) shape []) → ∃ g,
      fields s a (.iri s.focus) "" object L =
          .ok (g, labelsAfter L (src.visits shape.depth (.iri s.focus) shape [])) ∧ g.Stored ∧
        ∀ t, t ∈ g.triples ↔
          ∃ x ∈ src.visits shape.depth (.iri s.focus) shape [], t = x.triple ρ := by
    intro ρ L hρ
    refine reads_behind_keyword h.check ha (by decide) (by decide) ?_
    have hmembers := hA.reads ρ L "" hρ
    rw [hρ.iri] at hmembers
    exact hmembers
  have hdescribe : src.describe shape.depth (.iri (Iri.normalize focus)) shape [] =
      .ok (.object object, refs.erase (.iri s.focus)) := by rw [hn, hm, hobject]
  unfold Source.focusJson
  rw [hdescribe]
  cases embedContext with
  | false =>
    refine ⟨.object object, rfl, focusTold_of_object ha hdeclared hid ?_ hreads⟩
    exact hA.spelled.mono fun t ht => List.mem_cons_of_mem _ ht
  | true =>
    let context : Json := Description.context src.keywords a
    have hput : object.foldl (fun object m => Json.put m.1 m.2 object)
        [(src.name Keyword.context, context)] =
          (s.keywords.nameOf Keyword.context, context) :: object := by
      rw [Source.name, h.keywords]
      exact Json.foldl_put (nodup_keywords ha h.check hA.names)
    refine ⟨.object ((s.keywords.nameOf Keyword.context, context) :: object), ?_,
      focusTold_of_object ha ((declared_behind_context h.check ha).trans hdeclared) hid ?_
        fun ρ L hρ => ?_⟩
    · rw [← hput, hsrc]
      rfl
    · exact hA.spelled.mono fun t ht => List.mem_append_right _ (List.mem_cons_of_mem _ ht)
    · exact reads_behind_keyword h.check ha (by decide) (by decide) (hreads ρ L hρ)

/-! ## What a description depends on -/

/-- The predicates of the triples are identifiers. -/
def NamedPredicates (g : Graph) : Prop := ∀ t ∈ g.triples, t.predicate.isIri = true

theorem eq_triple_of_traverses {t : Triple} {r : Term} {e : Edge}
    (hp : t.predicate.isIri = true) (h : t.traverses r e.iri e.inverse = true) :
    t = e.triple r (t.target e.inverse) := by
  obtain ⟨hiri, hr⟩ := (Triple.traverses_iff (Or.inr hp)).1 h
  obtain ⟨subject, predicate, object⟩ := t
  have hiri : predicate = .iri e.iri := hiri
  cases hi : e.inverse with
  | false =>
    rw [hi] at hr
    have hr : subject = r := hr
    rw [Edge.triple, hi, hiri, hr]
    rfl
  | true =>
    rw [hi] at hr
    have hr : object = r := hr
    rw [Edge.triple, hi, hiri, hr]
    rfl

theorem traverses_triple {r v : Term} {e : Edge} :
    (e.triple r v).traverses r e.iri e.inverse = true := by
  unfold Edge.triple Triple.traverses Triple.predicateIri
  cases e.inverse <;> simp [Term.iri?]

theorem target_triple {r v : Term} {e : Edge} : (e.triple r v).target e.inverse = v := by
  unfold Edge.triple Triple.target
  cases e.inverse <;> rfl

/-- The values of a field are the ends of its triples. -/
theorem mem_follow_iff (hg : src.graph.Stored) (hp : NamedPredicates src.graph) {r v : Term}
    {f : Field} : v ∈ src.follow r f ↔ f.edge.triple r v ∈ src.graph.triples := by
  unfold Source.follow Graph.targets
  rw [List.mem_map]
  constructor
  · rintro ⟨t, ht, rfl⟩
    obtain ⟨hmem, htr⟩ := (hg.mem_edges_iff (Or.inr hp)).1 ht
    rw [← eq_triple_of_traverses (hp t hmem) htr]
    exact hmem
  · intro hmem
    exact ⟨_, (hg.mem_edges_iff (Or.inr hp)).2 ⟨hmem, traverses_triple⟩, target_triple⟩

/-- What is visited is in the graph. -/
theorem triple_mem_of_visits (hg : src.graph.Stored) (hp : NamedPredicates src.graph)
    {levels : Nat} {r : Term} {trail : List Term} {x : Visit}
    (hx : x ∈ src.visits levels r shape trail) : x.triple id ∈ src.graph.triples := by
  induction levels generalizing r shape trail with
  | zero => exact absurd hx List.not_mem_nil
  | succ levels ih =>
    obtain ⟨e, -, hx⟩ := List.mem_flatMap.1 hx
    obtain ⟨v, hv, hx⟩ := List.mem_flatMap.1 hx
    rcases List.mem_cons.1 hx with rfl | hx
    · exact (mem_follow_iff hg hp).1 hv
    · unfold behind at hx
      split at hx
      · exact absurd hx List.not_mem_nil
      · exact ih hx

/-- A part of a graph that has the values of a field has them in the same order. -/
theorem follow_congr {g h : Graph} {k : Keywords} {root : Option String} (hg : g.Stored)
    (hh : h.Stored) (hp : NamedPredicates g) (hsub : ∀ t ∈ h.triples, t ∈ g.triples) {r : Term}
    {f : Field} (hf : ∀ v ∈ Source.follow ⟨g, k, root⟩ r f, f.edge.triple r v ∈ h.triples) :
    Source.follow ⟨h, k, root⟩ r f = Source.follow ⟨g, k, root⟩ r f := by
  have hp' : NamedPredicates h := fun t ht => hp t (hsub t ht)
  have hedges : h.edges r f.edge.iri f.edge.inverse = g.edges r f.edge.iri f.edge.inverse := by
    refine Sorted.eq_of_mem_iff (hh.edges_increasing (Or.inr hp') _)
      (hg.edges_increasing (Or.inr hp) _) fun t => ?_
    rw [hh.mem_edges_iff (Or.inr hp'), hg.mem_edges_iff (Or.inr hp)]
    constructor
    · exact fun ht => ⟨hsub t ht.1, ht.2⟩
    · rintro ⟨hmem, htr⟩
      have heq := eq_triple_of_traverses (hp t hmem) htr
      refine ⟨?_, htr⟩
      rw [heq]
      refine hf _ ((mem_follow_iff hg hp).2 ?_)
      rw [← heq]
      exact hmem
  exact congrArg (List.map _) hedges

theorem mapM_congr {α β ε : Type} {f f' : α → Except ε β} {xs : List α}
    (h : ∀ x ∈ xs, f x = f' x) : xs.mapM f = xs.mapM f' := by
  induction xs with
  | nil => rfl
  | cons x xs ih =>
    rw [List.mapM_cons, List.mapM_cons, h x List.mem_cons_self,
      ih fun y hy => h y (List.mem_cons_of_mem _ hy)]

theorem fieldMembers_congr {src' : Source}
    {d d' : Term → Shape → List Term → Except ShapeError Written} {r : Term} {trail : List Term}
    {entries : List (String × Field)}
    (hf : ∀ e ∈ entries, src'.follow r e.2 = src.follow r e.2)
    (hv : ∀ e ∈ entries, ∀ v ∈ src.follow r e.2,
      src'.value d' e.2.shape trail v = src.value d e.2.shape trail v) :
    src'.fieldMembers d' r trail entries = src.fieldMembers d r trail entries := by
  induction entries with
  | nil => rfl
  | cons e entries ih =>
    obtain ⟨name, f⟩ := e
    have hrest := ih (fun e he => hf e (List.mem_cons_of_mem _ he))
      fun e he => hv e (List.mem_cons_of_mem _ he)
    have hfield : src'.fieldValue d' trail f (src.follow r f) =
        src.fieldValue d trail f (src.follow r f) := by
      unfold Source.fieldValue
      rw [mapM_congr (hv _ List.mem_cons_self)]
    unfold Source.fieldMembers
    have htargets : src'.graph.targets r f.edge.iri f.edge.inverse = src.follow r f :=
      hf _ List.mem_cons_self
    rw [htargets, show src.graph.targets r f.edge.iri f.edge.inverse = src.follow r f from rfl]
    simp only [hfield, hrest]

/-- Two graphs give the same descriptions where they lead to the same values, from the first
resource and on from all that are described behind it. -/
theorem describe_eq_of_follow {g h : Graph} {k : Keywords} {root : Option String}
    {P : Nat → Term → Shape → List Term → Prop}
    (hstep : ∀ levels r shape trail a, P (levels + 1) r shape trail →
      Aliases.ofShape shape k = .ok a → ∀ e ∈ a.entries,
        Source.follow ⟨h, k, root⟩ r e.2 = Source.follow ⟨g, k, root⟩ r e.2 ∧
        ∀ v ∈ Source.follow ⟨g, k, root⟩ r e.2, v.isLiteral = false → v ∉ r :: trail →
          P levels v e.2.shape (r :: trail))
    {levels : Nat} {r : Term} {trail : List Term} (hp : P levels r shape trail) :
    Source.describe ⟨h, k, root⟩ levels r shape trail =
      Source.describe ⟨g, k, root⟩ levels r shape trail := by
  induction levels generalizing r shape trail with
  | zero => rfl
  | succ levels ih =>
    unfold Source.describe
    cases ha : Aliases.ofShape shape k with
    | error e => rfl
    | ok a =>
      have hmembers : Source.fieldMembers ⟨h, k, root⟩ (Source.describe ⟨h, k, root⟩ levels) r
          (r :: trail) a.entries =
            Source.fieldMembers ⟨g, k, root⟩ (Source.describe ⟨g, k, root⟩ levels) r
              (r :: trail) a.entries := by
        -- a value is described below only if it is a resource off the trail
        refine fieldMembers_congr (fun e he => (hstep _ _ _ _ _ hp ha e he).1) fun e he v hv => ?_
        have hbelow := (hstep _ _ _ _ _ hp ha e he).2 v hv
        cases v with
        | literal l => rfl
        | iri _ | blankNode _ =>
          unfold Source.value
          simp only
          split
          · rfl
          · next hnot =>
            split
            · rfl
            · exact ih (hbelow rfl hnot)
      show (Source.fieldMembers ⟨h, k, root⟩ (Source.describe ⟨h, k, root⟩ levels) r
        (r :: trail) a.entries >>= _) = _
      rw [hmembers]
      rfl

/-- A description depends only on the edges that it follows. -/
theorem describe_congr {g h : Graph} {k : Keywords} {root : Option String} (hg : g.Stored)
    (hh : h.Stored) (hp : NamedPredicates g) (hsub : ∀ t ∈ h.triples, t ∈ g.triples)
    {levels : Nat} {r : Term} {trail : List Term}
    (hx : ∀ x ∈ Source.visits ⟨g, k, root⟩ levels r shape trail, x.triple id ∈ h.triples) :
    Source.describe ⟨h, k, root⟩ levels r shape trail =
      Source.describe ⟨g, k, root⟩ levels r shape trail := by
  let Holds (levels : Nat) (r : Term) (shape : Shape) (trail : List Term) : Prop :=
    ∀ x ∈ Source.visits ⟨g, k, root⟩ levels r shape trail, x.triple id ∈ h.triples
  refine describe_eq_of_follow (P := Holds) (fun levels r shape trail a hx ha e he => ?_) hx
  have htable : Source.table ⟨g, k, root⟩ shape = a.entries := Source.table_of_ok ha
  rw [← htable] at he
  refine ⟨follow_congr hg hh hp hsub fun v hv => hx _ (Source.mem_visits_of_follow he hv),
    fun v hv hl hnot y hy => hx y (Source.mem_visits_of_behind he hv ?_)⟩
  rw [behind, if_neg (by simp [hl, hnot])]
  exact hy

/-- The description of the focus depends only on the edges that it follows. -/
theorem focusJson_congr {g h : Graph} {k : Keywords} {root : Option String} (hg : g.Stored)
    (hh : h.Stored) (hp : NamedPredicates g) (hsub : ∀ t ∈ h.triples, t ∈ g.triples)
    (hx : ∀ x ∈ Source.visits ⟨g, k, root⟩ shape.depth (.iri (Iri.normalize focus)) shape [],
      x.triple id ∈ h.triples) (embedContext : Bool) :
    Source.focusJson ⟨h, k, root⟩ focus shape embedContext =
      Source.focusJson ⟨g, k, root⟩ focus shape embedContext := by
  unfold Source.focusJson
  rw [describe_congr hg hh hp hsub hx]
  rfl

/-! ## The source of a focus -/

section Source

variable {g : Graph} {k : Keywords}

/-- What the description of a focus is written from. -/
def sourceOf (g : Graph) (k : Keywords) (focus : String) : Source := ⟨g, k, Iri.root? focus⟩

/-- An identifier, relative to the root of the focus if it has one. -/
def relativeTo (focus iri : String) : String :=
  match Iri.root? focus with
  | some root => Iri.relativize root iri
  | none => iri

/-- The relative form of an identifier, resolved against the focus, is the identifier. -/
def ReadsBack (focus iri : String) : Prop :=
  Iri.resolve (Iri.normalize focus) (relativeTo focus iri) = iri

theorem idText_sourceOf {i : String} :
    (sourceOf g k focus).idText (.iri i) = relativeTo focus i := by
  unfold sourceOf Source.idText relativeTo
  cases Iri.root? focus <;> rfl

theorem Setting.of_focus : (Setting.of focus k).focus = Iri.normalize focus := rfl

/-- An identifier that reads back is what its written form resolves to. -/
theorem ReadsBack.resolve {i : String} (h : ReadsBack focus i) :
    Iri.resolve (Setting.of focus k).focus ((sourceOf g k focus).idText (.iri i)) = i := by
  rw [Setting.of_focus, idText_sourceOf]
  exact h

/-- Writing the description of a focus and reading it go together, if the focus has an identifier
that reads back. -/
theorem source_told (hf : focus ≠ "") (hk : k.check = .ok ())
    (hself : ReadsBack focus (Iri.normalize focus))
    (hd : Describable (.of focus k) (sourceOf g k focus) shape.depth (.iri (Iri.normalize focus))
      shape []) (embedContext : Bool) :
    ∃ json, (sourceOf g k focus).focusJson focus shape embedContext = .ok json ∧
      FocusTold (.of focus k) (sourceOf g k focus) shape
        ((sourceOf g k focus).visits shape.depth (.iri (Iri.normalize focus)) shape []) json := by
  have hagree : Agree (.of focus k) (sourceOf g k focus) := by
    refine ⟨rfl, hk, ?_⟩
    rw [Setting.of_focus]
    exact fun he => hf (Iri.normalize_eq_empty he)
  have hself := hself.resolve (g := g) (k := k)
  rw [← Setting.of_focus (k := k)] at hself hd ⊢
  exact focus_told hagree Setting.of_focus.symm hself hd embedContext

end Source

end LinkedShapes.Description
