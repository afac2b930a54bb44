import LinkedShapes.Proofs.Description.Scanning
import LinkedShapes.Proofs.Graph.Isomorphism

/-!
# Decoding what was encoded

A graph that a scan accepts as a whole is encoded and decoded again. What comes out is the graph
with other labels, if the graph is `Faithful`: its values fit the shapes of their fields, nothing
is lost at the ends of the description, and a blank node that is described without its label is
met nowhere else.
-/

namespace LinkedShapes.Description

open Vocabulary

variable {src : Source} {shape : Shape} {r : Term} {xs : List Visit} {L : Labels}

/-! ## New labels -/

/-- The label that is drawn for an anonymous node; every other blank node keeps its label. -/
def relabel (L : Labels) (nodes : List Term) (label : String) : String :=
  if .blankNode label ∈ nodes then L.label (nodes.idxOf (.blankNode label))
  else label

theorem relabel_of_mem {nodes : List Term} {label : String} (h : .blankNode label ∈ nodes) :
    relabel L nodes label = L.label (nodes.idxOf (.blankNode label)) := if_pos h

theorem relabel_of_not_mem {nodes : List Term} {label : String} (h : .blankNode label ∉ nodes) :
    relabel L nodes label = label := if_neg h

theorem isBlank_of_mem_anonymous {t : Term} (h : t ∈ anonymous xs) : t.isBlank = true := by
  obtain ⟨x, hx, rfl⟩ := List.mem_map.1 h
  exact (Bool.and_eq_true_iff.1 (List.mem_filter.1 hx).2).1

/-- The new labels are those that reading draws. -/
theorem map_relabel (hnodup : (anonymous xs).Nodup) :
    (anonymous xs).map (Term.rename (relabel L (anonymous xs))) =
      L.drawn (anonymous xs).length := by
  refine List.ext_getElem (by rw [List.length_map, Labels.length_drawn]) fun i hi hi' => ?_
  rw [List.length_map] at hi
  have hmem : (anonymous xs)[i] ∈ anonymous xs := List.getElem_mem hi
  have hblank := isBlank_of_mem_anonymous hmem
  rw [List.getElem_map]
  cases hv : (anonymous xs)[i] with
  | iri _ | literal _ =>
    rw [hv] at hblank
    cases hblank
  | blankNode label =>
    have hidx : (anonymous xs).idxOf (.blankNode label) = i := by
      rw [← hv]
      exact hnodup.idxOf_getElem i hi
    have hdrawn : (L.drawn (anonymous xs).length)[i] = .blankNode (L.label i) := by
      simp [Labels.drawn]
    rw [hv] at hmem
    show Term.blankNode (relabel L (anonymous xs) label) = _
    rw [relabel_of_mem hmem, hidx, hdrawn]

/-- Giving the anonymous nodes new labels is what reading does. -/
theorem follows_relabel (hnodup : (anonymous xs).Nodup)
    (hlabelled : ∀ x ∈ xs, x.isLabelled = true → x.value ∉ anonymous xs) :
    Follows (Term.rename (relabel L (anonymous xs))) L xs where
  iri := fun _ => rfl
  literal := fun _ => rfl
  resource := fun t ht => by
    cases t with
    | literal l => cases ht
    | iri _ | blankNode _ => rfl
  drawn := map_relabel hnodup
  labelled := fun x hx hl => by
    have hno := hlabelled x hx hl
    cases hv : x.value with
    | iri _ | literal _ => rfl
    | blankNode label =>
      rw [hv] at hno
      show Term.blankNode (relabel L (anonymous xs) label) = _
      rw [relabel_of_not_mem hno]

/-- A blank node that is met is anonymous or its label is written. -/
theorem mem_anonymous_or_spelled {json : Json} {x : Visit} {label : String} (hx : x ∈ xs)
    (hv : x.value = .blankNode label) (hs : Spelled src xs json.strings) :
    .blankNode label ∈ anonymous xs ∨ Term.blankText label ∈ json.strings := by
  cases hl : x.isLabelled with
  | true =>
    have hmem := hs x hx hl
    rw [hv] at hmem
    exact Or.inr hmem
  | false =>
    have hanon : x.isAnonymous = true := by
      unfold Visit.isLabelled at hl
      unfold Visit.isAnonymous
      rw [hv] at hl ⊢
      rw [show Term.isBlank (.blankNode label) = true from rfl, Bool.true_and] at hl ⊢
      rw [hl]
      rfl
    refine Or.inl (List.mem_map.2 ⟨x, List.mem_filter.2 ⟨hx, hanon⟩, hv⟩)

/-- No two blank nodes get the same label. -/
theorem relabel_injOn {json : Json} {a b : String} (hL : L.FreshFor json)
    (ha : .blankNode a ∈ anonymous xs ∨ Term.blankText a ∈ json.strings)
    (hb : .blankNode b ∈ anonymous xs ∨ Term.blankText b ∈ json.strings)
    (he : relabel L (anonymous xs) a = relabel L (anonymous xs) b) : a = b := by
  -- a label that is drawn is none of those that are written
  have hdiffer : ∀ label other, .blankNode label ∈ anonymous xs →
      Term.blankText other ∈ json.strings → relabel L (anonymous xs) label ≠ other := by
    rintro label other hmem hspelled rfl
    rw [relabel_of_mem hmem] at hspelled
    exact hL _ ⟨_, hspelled, by rw [stripMark_blankText, L.unmarked]⟩
  by_cases hma : .blankNode a ∈ anonymous xs
  · by_cases hmb : .blankNode b ∈ anonymous xs
    · rw [relabel_of_mem hma, relabel_of_mem hmb] at he
      exact Term.blankNode.inj ((List.idxOf_inj hma).1 (L.distinct he))
    · rw [relabel_of_not_mem hmb] at he
      exact absurd he (hdiffer a b hma (hb.resolve_left hmb))
  · rw [relabel_of_not_mem hma] at he
    by_cases hmb : .blankNode b ∈ anonymous xs
    · exact absurd he.symm (hdiffer b a hmb (ha.resolve_left hma))
    · rw [he, relabel_of_not_mem hmb]

/-! ## Visits of a graph -/

/-- An edge starts from the resource described or from a value that was visited before. -/
theorem source_of_visits {levels : Nat} {trail : List Term} {x : Visit}
    (hx : x ∈ src.visits levels r shape trail) :
    x.source = r ∨ ∃ y ∈ src.visits levels r shape trail, y.value = x.source := by
  induction levels generalizing r shape trail with
  | zero => exact absurd hx List.not_mem_nil
  | succ levels ih =>
    obtain ⟨e, he, hx⟩ := List.mem_flatMap.1 hx
    obtain ⟨v, hv, hx⟩ := List.mem_flatMap.1 hx
    rcases List.mem_cons.1 hx with rfl | hx
    · exact Or.inl rfl
    · have hvisit : visit (src.visits levels) r (r :: trail) e.2 v ∈
          src.visits (levels + 1) r shape trail := Source.mem_visits_of_follow he hv
      have hbehind : ∀ y ∈ behind (src.visits levels) e.2.shape (r :: trail) v,
          y ∈ src.visits (levels + 1) r shape trail :=
        fun y hy => Source.mem_visits_of_behind he hv hy
      unfold behind at hx hbehind
      split at hx
      · exact absurd hx List.not_mem_nil
      · next hend =>
        rw [if_neg hend] at hbehind
        rcases ih hx with hsource | ⟨y, hy, hsource⟩
        · exact Or.inr ⟨_, hvisit, hsource.symm⟩
        · exact Or.inr ⟨y, hbehind y hy, hsource⟩

theorem Visit.triple_rename (σ : String → String) (x : Visit) :
    x.triple (Term.rename σ) = (x.triple id).rename σ := by
  unfold Visit.triple Edge.triple Triple.rename
  split <;> rfl

/-- A blank node of a graph is the value of a visit if the triples of the graph are visited. -/
theorem blank_of_visits {g : Graph} {levels : Nat} {iri label : String} {trail : List Term}
    (hcover : ∀ t ∈ g.triples, ∃ x ∈ src.visits levels (.iri iri) shape trail, t = x.triple id)
    (hl : label ∈ g.blanks) :
    ∃ x ∈ src.visits levels (.iri iri) shape trail, x.value = .blankNode label := by
  obtain ⟨t, ht, hend⟩ := Graph.mem_blanks.1 hl
  obtain ⟨x, hx, rfl⟩ := hcover t ht
  have hends : x.source = .blankNode label ∨ x.value = .blankNode label := by
    unfold Visit.triple Edge.triple at hend
    split at hend
    · exact hend.symm
    · exact hend
  rcases hends with hsource | hvalue
  · rcases source_of_visits hx with hr | ⟨y, hy, hv⟩
    · rw [hr] at hsource
      cases hsource
    · exact ⟨y, hy, hv.trans hsource⟩
  · exact ⟨x, hx, hvalue⟩

/-! ## The round trip -/

section RoundTrip

variable {focus : String} {k : Keywords} {g : Graph} {embedContext : Bool}

/-- The edges that the description of a focus follows. -/
def visitsOf (focus : String) (driver : Shape) (k : Keywords) (g : Graph) : List Visit :=
  (sourceOf g k focus).visits driver.depth (.iri (Iri.normalize focus)) driver []

/-- What keeps a graph in step with its description. -/
structure Faithful (focus : String) (driver : Shape) (k : Keywords) (g : Graph) : Prop where
  /-- Subjects are resources and predicates are identifiers. -/
  resources : ∀ t ∈ g.triples, t.subject.isResource = true ∧ t.predicate.isIri = true
  /-- The shape has a table at every level. -/
  tables : ∀ inner, Level k driver inner → ∃ a, Aliases.ofShape inner k = .ok a
  /-- Every value fits what the shape of its field says about values as they are written. -/
  legible : ∀ x ∈ visitsOf focus driver k g, Legible (.of focus k) (sourceOf g k focus) x
  /-- So do tagged texts that are written together. -/
  texts : ∀ x ∈ visitsOf focus driver k g,
    AreTagged x.field.shape ((sourceOf g k focus).follow x.source x.field) →
      LegibleTexts (.of focus k) x.field.shape ((sourceOf g k focus).follow x.source x.field)
  /-- What lies behind a literal or a resource that is met again is described elsewhere. -/
  ends : Ends (sourceOf g k focus) (visitsOf focus driver k g) fun t =>
    ∃ x ∈ visitsOf focus driver k g, t = x.triple id
  /-- A blank node that is described without its label is described once. -/
  once : (anonymous (visitsOf focus driver k g)).Nodup
  /-- It is not written by its label either. -/
  unlabelled : ∀ x ∈ visitsOf focus driver k g, x.isLabelled = true →
    x.value ∉ anonymous (visitsOf focus driver k g)

theorem Faithful.describable (h : Faithful focus shape k g) (hg : g.Stored) :
    Describable (.of focus k) (sourceOf g k focus) shape.depth (.iri (Iri.normalize focus))
      shape [] := by
  have hp : NamedPredicates (sourceOf g k focus).graph := fun t ht => (h.resources t ht).2
  refine ⟨h.tables, h.legible, h.texts, fun x hx hi => ?_⟩
  have hmem := triple_mem_of_visits hg hp hx
  have hsubject := (h.resources _ hmem).1
  rw [Visit.triple, Edge.triple, if_pos hi] at hsubject
  exact hsubject

/-- Every triple of a graph that a scan accepts as a whole is visited. -/
theorem Faithful.visited (h : Faithful focus shape k g) (hg : g.Stored)
    (hscan : scanFocus (.of focus k) g shape = .ok (.ok g)) :
    ∀ t ∈ g.triples, ∃ x ∈ visitsOf focus shape k g, t = x.triple id := by
  intro t ht
  have hp : NamedPredicates (sourceOf g k focus).graph := fun t ht => (h.resources t ht).2
  have hreached : Reached (sourceOf g k focus) (.iri (Setting.of focus k).focus) shape t :=
    scanFocus_reached hg hp h.tables hscan ht
  rw [Setting.of_focus] at hreached
  exact visited_of_reached (fun x hx => ⟨x, hx, rfl⟩) h.ends (Nat.le_refl _) hreached

/-- Encoding and decoding succeed and give the graph again, with other labels at most, whatever
fresh labels decoding draws. -/
def RoundTrips (focus : String) (shape : Shape) (k : Keywords) (g : Graph) (embedContext : Bool) :
    Prop :=
  ∃ json, encode focus shape g ⟨k, embedContext, none⟩ = .ok json ∧
    ∀ L : Labels, L.FreshFor json →
      ∃ h, decode focus shape json k L = .ok h ∧ g.isIsomorphic h = true

/-- The round trip as a computation, with the labels beyond those that are written. -/
def roundTrips (focus : String) (shape : Shape) (k : Keywords) (g : Graph) (embedContext : Bool) :
    Bool :=
  match encode focus shape g ⟨k, embedContext, none⟩ with
  | .error _ => false
  | .ok json =>
    match decode focus shape json k (.beyondJson json) with
    | .error _ => false
    | .ok h => g.isIsomorphic h

theorem RoundTrips.computed (h : RoundTrips focus shape k g embedContext) :
    roundTrips focus shape k g embedContext = true := by
  obtain ⟨json, hjson, hall⟩ := h
  obtain ⟨other, hread, hiso⟩ := hall _ (Labels.freshFor_beyondJson json)
  unfold roundTrips
  rw [hjson]
  simp only [hread]
  exact hiso

/-- Does a scan accept a graph as a whole? -/
def scansWhole (focus : String) (shape : Shape) (g : Graph) (k : Keywords) : Bool :=
  match scan focus shape g k with
  | .ok (.ok h) => decide (h = g)
  | _ => false

theorem scansWhole_iff : scansWhole focus shape g k = true ↔
    scan focus shape g k = .ok (.ok g) := by
  unfold scansWhole
  constructor
  · intro h
    split at h
    · next hscan =>
      rw [hscan, of_decide_eq_true h]
    · cases h
  · intro h
    rw [h]
    exact decide_eq_true rfl

/-- Reading the description of a graph whose triples are visited gives the graph again, with other
labels at most. -/
theorem Faithful.reads (h : Faithful focus shape k g) (hg : g.Stored) {json : Json}
    (hcover : ∀ t ∈ g.triples, ∃ x ∈ visitsOf focus shape k g, t = x.triple id)
    (hjson : FocusTold (.of focus k) (sourceOf g k focus) shape (visitsOf focus shape k g) json)
    (hL : L.FreshFor json) :
    ∃ other L', focusTriples (.of focus k) shape json L = .ok (other, L') ∧
      g.isIsomorphic other = true := by
  have hp : NamedPredicates (sourceOf g k focus).graph := fun t ht => (h.resources t ht).2
  obtain ⟨other, hread, hstored, hmem⟩ := hjson.reads _ _ (follows_relabel h.once h.unlabelled)
  have hrenames : Graph.Renames (relabel L (anonymous (visitsOf focus shape k g))) g other := by
    refine ⟨?_, fun t => ?_⟩
    · have hmet : ∀ a ∈ g.blanks, .blankNode a ∈ anonymous (visitsOf focus shape k g) ∨
          Term.blankText a ∈ json.strings := by
        intro a ha
        obtain ⟨x, hx, hv⟩ := blank_of_visits hcover ha
        exact mem_anonymous_or_spelled hx hv hjson.spelled
      exact fun a ha b hb he => relabel_injOn hL (hmet a ha) (hmet b hb) he
    · rw [hmem]
      constructor
      · rintro ⟨x, hx, rfl⟩
        exact ⟨x.triple id, triple_mem_of_visits hg hp hx, Visit.triple_rename _ x⟩
      · rintro ⟨u, hu, rfl⟩
        obtain ⟨x, hx, rfl⟩ := hcover u hu
        exact ⟨x, hx, (Visit.triple_rename _ x).symm⟩
  exact ⟨other, _, hread, Graph.isIsomorphic_of_rename hg hstored hrenames⟩

/-- Encoding a graph that a scan accepts as a whole, and decoding the outcome, gives the graph
again, with other labels at most. -/
theorem decode_encode (hf : focus ≠ "") (hself : ReadsBack focus (Iri.normalize focus))
    (hg : g.Built) (hscan : scan focus shape g k = .ok (.ok g))
    (h : Faithful focus shape.drive k g) : RoundTrips focus shape k g embedContext := by
  obtain ⟨driver, hprepare, hscan⟩ := ok_of_bind hscan
  obtain ⟨rfl, hk⟩ := prepare_ok hprepare
  obtain ⟨json, hjson, htold⟩ := source_told hf hk hself (h.describable hg.stored) embedContext
  refine ⟨json, ?_, fun L hL => ?_⟩
  · unfold encode
    rw [hprepare]
    exact hjson
  · obtain ⟨other, L', hread, hiso⟩ := h.reads hg.stored (h.visited hg.stored hscan) htold hL
    refine ⟨other, ?_, hiso⟩
    unfold decode
    rw [hprepare]
    show (focusTriples (.of focus k) shape.drive json L >>= fun p => .ok p.1) = _
    rw [hread]
    rfl

end RoundTrip

/-! ## A graph that is kept, and three that are not -/

/-- A field whose values have a field. -/
def remark (p : String) : Shape :=
  .field ⟨p, false⟩ none (.field ⟨"urn:x:v", false⟩ none (.and []))

/-- A blank node between two resources. -/
def remarks : Graph :=
  .ofList [⟨.iri "urn:x:f", .iri "urn:x:p", .blankNode "b"⟩,
    ⟨.blankNode "b", .iri "urn:x:v", .iri "urn:x:g"⟩]

theorem decode_encode_remarks : RoundTrips "urn:x:f" (remark "urn:x:p") .none remarks true := by
  have hvisits : visitsOf "urn:x:f" (remark "urn:x:p").drive .none remarks =
      [⟨⟨⟨"urn:x:p", false⟩, none, .and [.field ⟨"urn:x:v", false⟩ none (.and []),
          .datatype Abstract.resource]⟩, .iri "urn:x:f", .blankNode "b", [.iri "urn:x:f"], false⟩,
        ⟨⟨⟨"urn:x:v", false⟩, none, .and []⟩, .blankNode "b", .iri "urn:x:g",
          [.blankNode "b", .iri "urn:x:f"], false⟩] := by decide +kernel
  have hclosed : tablesClosed .none [(remark "urn:x:p").drive,
      .and [.field ⟨"urn:x:v", false⟩ none (.and []), .datatype Abstract.resource], .and []] =
        true := by decide +kernel
  have hback : ReadsBack "urn:x:f" (Iri.normalize "urn:x:f") := by
    unfold ReadsBack
    decide +kernel
  refine decode_encode (by decide) hback (.ofList _) (scansWhole_iff.1 (by decide +kernel))
    ⟨by decide +kernel, fun _ hl => hl.table_of_closed hclosed List.mem_cons_self, ?_, ?_, ?_, ?_,
      ?_⟩
  · rw [hvisits]
    refine List.forall_mem_cons.2 ⟨?_, List.forall_mem_singleton.2 ?_⟩
    · exact ⟨fun h => absurd h (by decide +kernel), fun _ => by decide +kernel⟩
    · exact ⟨by decide +kernel, fun _ => by decide +kernel⟩
  · rw [hvisits]
    exact List.forall_mem_cons.2 ⟨fun h => absurd h.1 (by decide +kernel),
      List.forall_mem_singleton.2 fun h => absurd h.1 (by decide +kernel)⟩
  · rw [hvisits]
    exact List.forall_mem_cons.2 ⟨fun h => absurd h (by decide),
      List.forall_mem_singleton.2 fun h => absurd h (by decide)⟩
  · rw [hvisits]
    decide
  · rw [hvisits]
    decide

/-- Is a term one that descriptions are to keep? Identifiers are absolute, in their one written
form, and read back; literals have a language if their datatype is that of tagged texts. -/
def isStandard (focus : String) : Term → Bool
  | .iri i => Iri.isAbsolute i && Iri.normalize i == i &&
      Iri.resolve (Iri.normalize focus) (relativeTo focus i) == i
  | .literal l => l.language.isSome == (l.datatype == Rdf.langString)
  | .blankNode _ => true

/-- The graph is of standard terms and a scan accepts it as a whole, but its description does not
give it back. -/
def IsLost (focus : String) (shape : Shape) (k : Keywords) (g : Graph) : Prop :=
  (Iri.parse? focus).isSome = true ∧ k.check = .ok () ∧ g.Built ∧
    (∀ t ∈ g.triples, ∀ x ∈ [t.subject, t.predicate, t.object], isStandard focus x = true) ∧
    scan focus shape g k = .ok (.ok g) ∧ ∀ embedContext, ¬ RoundTrips focus shape k g embedContext

theorem isLost_of {focus : String} {shape : Shape} {k : Keywords} {ts : List Triple}
    (hf : (Iri.parse? focus).isSome = true) (hk : k.check = .ok ())
    (hs : ∀ t ∈ ts, ∀ x ∈ [t.subject, t.predicate, t.object], isStandard focus x = true)
    (hscan : scansWhole focus shape (.ofList ts) k = true)
    (hno : ∀ embedContext, roundTrips focus shape k (.ofList ts) embedContext = false) :
    IsLost focus shape k (.ofList ts) := by
  refine ⟨hf, hk, .ofList ts, fun t ht => hs t (Graph.mem_ofList.1 ht), scansWhole_iff.1 hscan,
    fun embedContext h => ?_⟩
  exact Bool.noConfusion ((hno embedContext).symm.trans h.computed)

/-- A boolean is written in its short spelling, a blank node in two places becomes two, and what
lies behind a resource that is met again is left out. -/
theorem lost_by_description :
    IsLost "urn:x:f" (.field ⟨"urn:x:p", false⟩ none (.and [])) .none
        (.ofList [⟨.iri "urn:x:f", .iri "urn:x:p", .literal ⟨"1", Xsd.boolean, none⟩⟩]) ∧
      IsLost "urn:x:f" (.and [remark "urn:x:p", remark "urn:x:q"]) .none
        (.ofList [⟨.iri "urn:x:f", .iri "urn:x:p", .blankNode "b"⟩,
          ⟨.iri "urn:x:f", .iri "urn:x:q", .blankNode "b"⟩,
          ⟨.blankNode "b", .iri "urn:x:v", .iri "urn:x:g"⟩]) ∧
      IsLost "urn:x:f" (remark "urn:x:p") .none
        (.ofList [⟨.iri "urn:x:f", .iri "urn:x:p", .iri "urn:x:f"⟩,
          ⟨.iri "urn:x:f", .iri "urn:x:v", .iri "urn:x:g"⟩]) := by
  refine ⟨?_, ?_, ?_⟩
  all_goals
    exact isLost_of (by decide +kernel) rfl (by decide +kernel) (by decide +kernel)
      (by decide +kernel)

end LinkedShapes.Description
