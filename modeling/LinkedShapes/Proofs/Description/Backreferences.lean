import LinkedShapes.Proofs.Description.Outline
import LinkedShapes.Proofs.Description.Scanning

/-!
# References back

A description that meets a resource on its trail does not describe it again but refers back to it.
`Disciplined` says what becomes of that in a whole description: no resource is described inside of
its own description, references stand inside the description of their resource and find its
identifier there, and blank nodes have identifiers for that reason only.

* `outline_trailed`: what one level of writing gives, by induction on the levels.
* `Trailed.of_at`: what is kept of an outline is kept of its parts, with the resources of the
  descriptions around a part for its trail.
* `Trailed.mem_references`: the references that leave an outline are those in it to the trail.
* `references_disciplined`: descriptions of a focus are disciplined.
-/

namespace LinkedShapes.Description

open Vocabulary

namespace Outline

/-! ## Parts of an outline -/

/-- The resource that an outline describes. -/
def resource? : Outline → Option Term
  | .description resource _ => some resource
  | _ => none

/-- The identifier that the object of a description carries. -/
def id? (src : Source) : Outline → Option Json
  | .description _ members => Json.lookup (src.name Keyword.id) (memberJsons members)
  | _ => none

/-- A part of an outline, with the descriptions around it from the inside out. -/
inductive At : Outline → List Outline → Outline → Prop
  | here {o : Outline} : At o [] o
  | item {values path : List Outline} {v part : Outline} :
      v ∈ values → At v path part → At (.items values) path part
  | member {r : Term} {members : List (String × Outline)} {name : String} {v part : Outline}
      {path : List Outline} : (name, v) ∈ members → At v path part →
      At (.description r members) (path ++ [.description r members]) part

/-- The resources that are described around a part. -/
def trailOf (path : List Outline) : List Term := path.filterMap resource?

/-- Is there a reference to the resource somewhere inside? -/
def RefersTo (o : Outline) (r : Term) : Prop := ∃ path json, At o path (.reference r json)

variable {o part d : Outline} {path values : List Outline} {members : List (String × Outline)}
variable {r t : Term} {json : Json}

theorem mem_trailOf : r ∈ trailOf path ↔ ∃ d ∈ path, d.resource? = some r := List.mem_filterMap

theorem not_refersTo_plain : ¬ (plain json).RefersTo t := by
  rintro ⟨path, json', h⟩
  cases h

theorem refersTo_reference : (reference r json).RefersTo t ↔ t = r := by
  constructor
  · rintro ⟨path, json', h⟩
    cases h
    rfl
  · rintro rfl
    exact ⟨[], json, .here⟩

theorem refersTo_items : (items values).RefersTo t ↔ ∃ v ∈ values, v.RefersTo t := by
  constructor
  · rintro ⟨path, json, h⟩
    cases h with
    | item hv h => exact ⟨_, hv, path, json, h⟩
  · rintro ⟨v, hv, path, json, h⟩
    exact ⟨path, json, .item hv h⟩

theorem refersTo_description :
    (description r members).RefersTo t ↔ ∃ m ∈ members, m.2.RefersTo t := by
  constructor
  · rintro ⟨path, json, h⟩
    cases h with
    | member hm h => exact ⟨_, hm, _, json, h⟩
  · rintro ⟨m, hm, path, json, h⟩
    exact ⟨_, json, .member hm h⟩

/-- A part is also a part of every description around it. -/
theorem At.of_mem_path (h : At o path part) (hd : d ∈ path) :
    ∃ inner outer, At d inner part ∧ At o outer d := by
  induction h with
  | here => exact absurd hd List.not_mem_nil
  | item hv _ ih =>
    obtain ⟨inner, outer, hin, hout⟩ := ih hd
    exact ⟨inner, outer, hin, .item hv hout⟩
  | member hm h ih =>
    rcases List.mem_append.1 hd with hd | hd
    · obtain ⟨inner, outer, hin, hout⟩ := ih hd
      exact ⟨inner, _, hin, .member hm hout⟩
    · rw [List.mem_singleton.1 hd]
      exact ⟨_, [], .member hm h, .here⟩

end Outline

open Outline

variable {src : Source} {shape : Shape} {trail : List Term} {r t : Term} {whole part : Outline}
variable {members : List (String × Outline)} {levels : Nat} {path : List Outline}

/-! ## What writing keeps -/

theorem lookup_eq_none {name : String} {entries : List (String × Json)}
    (h : ∀ m ∈ entries, m.1 ≠ name) : Json.lookup name entries = none := by
  induction entries with
  | nil => rfl
  | cons m entries ih =>
    rw [Json.lookup, if_neg (h m List.mem_cons_self)]
    exact ih fun m hm => h m (List.mem_cons_of_mem _ hm)

/-- What neither describes a resource nor refers back to one. -/
inductive Plain (src : Source) : List Term → Json → Prop
  | literal {trail : List Term} {shape : Shape} {l : Literal} :
      Plain src trail (src.literal shape l)
  | texts {trail : List Term} {f : Field} {values : List Term} :
      values.all (·.language.isSome) = true → Plain src trail (taggedValues f values)
  /-- A resource that nothing is told of. -/
  | named {trail : List Term} {r : Term} : r ∉ trail → Plain src trail (.string (src.idText r))
  /-- The identifier of the object around it. -/
  | identifier {trail : List Term} {r : Term} :
      Plain src (r :: trail) (.string (src.idText r))

/-- An outline as it is written where the resources of the trail are being described. -/
inductive Trailed (src : Source) : List Term → Outline → Prop
  | plain {trail : List Term} {json : Json} :
      Plain src trail json → Trailed src trail (.plain json)
  | reference {trail : List Term} {r : Term} {shape : Shape} :
      r ∈ trail → Trailed src trail (.reference r (src.reference shape r))
  | items {trail : List Term} {values : List Outline} :
      (∀ v ∈ values, Trailed src trail v) → Trailed src trail (.items values)
  | description {trail : List Term} {r : Term} {members : List (String × Outline)}
      {levels : Nat} {shape : Shape} :
      r ∉ trail → (∀ m ∈ members, Trailed src (r :: trail) m.2) →
      (Outline.description r members).id? src =
        (if r.isIri ∨ r ∈ memberReferences members then some (.string (src.idText r)) else none) →
      src.outline levels r shape trail = .ok (.description r members) →
      Trailed src trail (.description r members)

/-- What an outline is asked for where resources are described. -/
def TrailedBelow (src : Source) (trail : List Term)
    (outline : Term → Shape → List Term → Except ShapeError Outline) : Prop :=
  ∀ v shape o, v ∉ trail → outline v shape trail = .ok o → Trailed src trail o

section Loops

variable {outline : Term → Shape → List Term → Except ShapeError Outline}

theorem outlineValue_trailed (hb : TrailedBelow src trail outline) {v : Term} {o : Outline}
    (h : src.outlineValue outline shape trail v = .ok o) : Trailed src trail o := by
  cases v with
  | literal l =>
    cases h
    exact .plain .literal
  | iri _ | blankNode _ =>
    unfold Source.outlineValue at h
    simp only at h
    split at h
    · next ht =>
      cases h
      exact .reference ht
    · next ht =>
      split at h
      · cases h
        exact .plain (.named ht)
      · exact hb _ _ _ ht h

theorem compact_trailed {f : Field} {values : List Outline}
    (h : ∀ v ∈ values, Trailed src trail v) :
    Trailed src trail (Outline.compact f values) := by
  unfold Outline.compact
  split
  · split
    · exact h _ List.mem_cons_self
    · exact .items h
  · exact .items h

theorem outlineValues_trailed (hb : TrailedBelow src trail outline) {targets : List Term}
    {values : List Outline}
    (h : targets.mapM (src.outlineValue outline shape trail) = .ok values) :
    ∀ v ∈ values, Trailed src trail v := by
  induction targets generalizing values with
  | nil =>
    cases h
    exact fun v hv => absurd hv List.not_mem_nil
  | cons target targets ih =>
    rw [List.mapM_cons] at h
    obtain ⟨o, ho, h⟩ := ok_of_bind h
    obtain ⟨os, hos, h⟩ := ok_of_bind h
    cases h
    intro v hv
    rcases List.mem_cons.1 hv with rfl | hv
    · exact outlineValue_trailed hb ho
    · exact ih hos v hv

theorem outlineField_trailed (hb : TrailedBelow src trail outline) {f : Field} {targets : List Term}
    {o : Outline} (h : src.outlineField outline trail f targets = .ok o) : Trailed src trail o := by
  unfold Source.outlineField at h
  split at h
  · next ht =>
    cases h
    exact .plain (.texts ht.2)
  · cases hv : targets.mapM (src.outlineValue outline f.shape trail) with
    | error e =>
      rw [hv] at h
      cases h
    | ok values =>
      rw [hv] at h
      cases h
      exact compact_trailed (outlineValues_trailed hb hv)

theorem outlineMembers_trailed (hb : TrailedBelow src trail outline)
    {entries : List (String × Field)}
    (h : src.outlineMembers outline r trail entries = .ok members) :
    ∀ m ∈ members, Trailed src trail m.2 := by
  induction entries generalizing members with
  | nil =>
    cases h
    exact fun m hm => absurd hm List.not_mem_nil
  | cons e entries ih =>
    rcases outlineMembers_cons h with h | ⟨value, rest, hv, hrest, rfl⟩
    · exact ih h
    · intro m hm
      rcases List.mem_cons.1 hm with rfl | hm
      · exact outlineField_trailed hb hv
      · exact ih hrest m hm

end Loops

/-- The identifier of an object is found behind its name, unless the object has none. -/
theorem id?_outlineObject {a : Aliases} (ha : Aliases.ofShape shape src.keywords = .ok a)
    (hk : src.keywords.check = .ok ()) (hn : (members.map (·.1)).Sublist (a.entries.map (·.1))) :
    (src.outlineObject r members).id? src =
      if r.isIri ∨ r ∈ memberReferences members then some (.string (src.idText r)) else none := by
  show Json.lookup (src.name Keyword.id) (memberJsons (src.outlineId r members ++ members)) = _
  unfold Source.outlineId
  by_cases hid : r.isIri = true ∨ r ∈ memberReferences members
  · rw [if_pos hid, if_pos hid]
    exact if_pos rfl
  · rw [if_neg hid, if_neg hid]
    refine lookup_eq_none fun m hm he => ?_
    have hname : src.name Keyword.id ∈ members.map (·.1) := by
      rw [← map_fst_memberJsons, ← he]
      exact List.mem_map_of_mem hm
    exact not_mem_names ha hk (by decide) (by decide) (hn.subset hname)

theorem outlineObject_trailed {a : Aliases} (ha : Aliases.ofShape shape src.keywords = .ok a)
    (hk : src.keywords.check = .ok ()) (hn : (members.map (·.1)).Sublist (a.entries.map (·.1)))
    (hr : r ∉ trail) (hm : ∀ m ∈ members, Trailed src (r :: trail) m.2) {inner : Shape}
    (ho : src.outline levels r inner trail = .ok (src.outlineObject r members)) :
    Trailed src trail (src.outlineObject r members) := by
  refine .description hr (fun m hmem => ?_) ?_ ho
  · rcases List.mem_append.1 hmem with hmem | hmem
    · unfold Source.outlineId at hmem
      split at hmem
      · rw [List.mem_singleton.1 hmem]
        exact .plain .identifier
      · exact absurd hmem List.not_mem_nil
    · exact hm m hmem
  · rw [memberReferences_outlineId]
    exact id?_outlineObject ha hk hn

/-- Writing the description of a resource that is not on the trail keeps the references. -/
theorem outline_trailed (hk : src.keywords.check = .ok ()) {o : Outline} (hr : r ∉ trail)
    (h : src.outline levels r shape trail = .ok o) : Trailed src trail o := by
  have hwhole := h
  induction levels generalizing r shape trail o with
  | zero =>
    have hnone : Aliases.ofShape (.and []) src.keywords = .ok ⟨[]⟩ := rfl
    cases h
    exact outlineObject_trailed hnone hk .slnil hr (fun m hm => absurd hm List.not_mem_nil) hwhole
  | succ levels ih =>
    obtain ⟨a, ha, h⟩ := ok_of_bind h
    obtain ⟨members, hm, h⟩ := ok_of_bind h
    cases h
    refine outlineObject_trailed ha hk (outlineMembers_names hm) hr ?_ hwhole
    exact outlineMembers_trailed (fun v shape o hv ho => ih hv ho ho) hm

/-! ## What is kept of a whole description -/

/-- What is kept of an outline is kept of its parts, where more resources are described. -/
theorem Trailed.of_at (h : Trailed src trail whole) (hp : At whole path part) :
    Trailed src (trailOf path ++ trail) part := by
  -- the way from the whole to the part adds a resource to the trail at each description
  induction hp generalizing trail with
  | here => exact h
  | item hv _ ih =>
    cases h with
    | items h => exact ih (h _ hv)
  | @member r members name v part path hm _ ih =>
    cases h with
    | description _ h _ _ =>
      have hpart := ih (h _ hm)
      have htrail : trailOf (path ++ [.description r members]) ++ trail =
          trailOf path ++ r :: trail := by
        rw [trailOf, List.filterMap_append, List.append_assoc]
        rfl
      rw [htrail]
      exact hpart

/-- The references that leave an outline are those in it to the resources of the trail. -/
theorem Trailed.mem_references (h : Trailed src trail whole) :
    t ∈ whole.references ↔ t ∈ trail ∧ whole.RefersTo t := by
  induction h with
  | plain _ =>
    exact ⟨fun h => absurd h OrderedSet.not_mem_empty, fun h => absurd h.2 not_refersTo_plain⟩
  | @reference trail r shape hr =>
    rw [refersTo_reference]
    constructor
    · intro h
      obtain rfl : t = r := List.mem_singleton.1 h
      exact ⟨hr, rfl⟩
    · rintro ⟨-, rfl⟩
      exact List.mem_cons_self
  | @items trail values _ ih =>
    rw [Outline.references, mem_itemReferences, refersTo_items]
    constructor
    · rintro ⟨v, hv, h⟩
      obtain ⟨ht, hrefers⟩ := (ih v hv).1 h
      exact ⟨ht, v, hv, hrefers⟩
    · rintro ⟨ht, v, hv, hrefers⟩
      exact ⟨v, hv, (ih v hv).2 ⟨ht, hrefers⟩⟩
  | @description trail r members levels shape hr _ _ _ ih =>
    -- members may refer to `r` as well, but these references are at home here
    rw [Outline.references, OrderedSet.mem_erase, mem_memberReferences, refersTo_description]
    constructor
    · rintro ⟨⟨m, hm, h⟩, hne⟩
      obtain ⟨ht, hrefers⟩ := (ih m hm).1 h
      exact ⟨(List.mem_cons.1 ht).resolve_left hne, m, hm, hrefers⟩
    · rintro ⟨ht, m, hm, hrefers⟩
      refine ⟨⟨m, hm, (ih m hm).2 ⟨List.mem_cons_of_mem _ ht, hrefers⟩⟩, ?_⟩
      rintro rfl
      exact hr ht

/-- A description refers to its own resource if one of its members does. -/
theorem Trailed.mem_memberReferences (h : Trailed src trail (.description r members)) :
    r ∈ memberReferences members ↔ (Outline.description r members).RefersTo r := by
  cases h with
  | description _ h _ _ =>
    rw [Outline.mem_memberReferences, refersTo_description]
    refine exists_congr fun m => and_congr_right fun hm => ?_
    rw [(h m hm).mem_references]
    exact and_iff_right List.mem_cons_self

/-- An object has an identifier if its resource is named by one or referred to from inside. -/
theorem Trailed.id?_eq (h : Trailed src trail (.description r members)) :
    (r.isIri = true ∨ (Outline.description r members).RefersTo r →
      (Outline.description r members).id? src = some (.string (src.idText r))) ∧
    (¬ (r.isIri = true ∨ (Outline.description r members).RefersTo r) →
      (Outline.description r members).id? src = none) := by
  rw [← h.mem_memberReferences]
  cases h with
  | description _ _ hid _ =>
    rw [hid]
    exact ⟨fun hc => if_pos hc, fun hc => if_neg hc⟩

/-! ## Descriptions of a focus -/

/-- The references of a description find what they refer to, and are accounted for. -/
structure Disciplined (src : Source) (whole : Outline) : Prop where
  /-- No resource is described inside of its own description. -/
  once : ∀ path r members, At whole path (.description r members) → r ∉ trailOf path
  /-- Whatever is no object, array or reference is no reference back. -/
  plain : ∀ path json, At whole path (.plain json) → Plain src (trailOf path) json
  /-- A reference is written as the identifier of its resource, alone or in an object. -/
  spelled : ∀ path r json, At whole path (.reference r json) →
    ∃ shape, json = src.reference shape r
  /-- A reference stands inside a description of its resource, which carries its identifier. -/
  enclosed : ∀ path r json, At whole path (.reference r json) →
    ∃ d ∈ path, d.resource? = some r ∧ d.id? src = some (.string (src.idText r))
  /-- The description of an identified resource carries its identifier. -/
  identified : ∀ path i members, At whole path (.description (.iri i) members) →
    (Outline.description (.iri i) members).id? src = some (.string (src.idText (.iri i)))
  /-- The description of a blank node carries its label exactly if it is referred to inside. -/
  labelled : ∀ path label members, At whole path (.description (.blankNode label) members) →
    ((Outline.description (.blankNode label) members).RefersTo (.blankNode label) →
      (Outline.description (.blankNode label) members).id? src =
        some (.string (src.idText (.blankNode label)))) ∧
    (¬ (Outline.description (.blankNode label) members).RefersTo (.blankNode label) →
      (Outline.description (.blankNode label) members).id? src = none)
  /-- The references that writing a description returns are those in it to the resources that
  are described around it. -/
  returned : ∀ path r members, At whole path (.description r members) →
    ∃ levels shape references,
      src.describe levels r shape (trailOf path) =
        .ok ((Outline.description r members).json, references) ∧
      ∀ t, t ∈ references ↔
        t ∈ trailOf path ∧ (Outline.description r members).RefersTo t

theorem Trailed.disciplined (hk : src.keywords.check = .ok ()) (h : Trailed src [] whole) :
    Disciplined src whole := by
  have hpart : ∀ {path part}, At whole path part → Trailed src (trailOf path) part := by
    intro path part hp
    have htrailed := h.of_at hp
    rwa [List.append_nil] at htrailed
  exact {
    once := fun path r members hp => by
      cases hpart hp with
      | description hr _ _ _ => exact hr
    plain := fun path json hp => by
      cases hpart hp with
      | plain h => exact h
    spelled := fun path r json hp => by
      cases hpart hp with
      | reference _ => exact ⟨_, rfl⟩
    enclosed := fun path r json hp => by
      have hr : r ∈ trailOf path := by
        cases hpart hp with
        | reference hr => exact hr
      obtain ⟨d, hd, hres⟩ := mem_trailOf.1 hr
      -- the reference is inside the description of its resource, which is therefore identified
      obtain ⟨inner, outer, hin, hout⟩ := hp.of_mem_path hd
      refine ⟨d, hd, hres, ?_⟩
      cases d with
      | description r' members =>
        cases hres
        exact (hpart hout).id?_eq.1 (Or.inr ⟨inner, json, hin⟩)
      | plain _ | reference _ _ | items _ => cases hres
    identified := fun path i members hp => (hpart hp).id?_eq.1 (Or.inl rfl)
    labelled := fun path label members hp => by
      have hnot : (Term.blankNode label).isIri ≠ true := Bool.false_ne_true
      exact ⟨fun hc => (hpart hp).id?_eq.1 (Or.inr hc),
        fun hc => (hpart hp).id?_eq.2 (not_or.2 ⟨hnot, hc⟩)⟩
    returned := fun path r members hp => by
      have htrailed := hpart hp
      have hrefs := fun t => htrailed.mem_references (t := t)
      cases htrailed with
      | @description _ _ _ levels shape _ _ _ ho =>
        refine ⟨levels, shape, (Outline.description r members).references, ?_, hrefs⟩
        rw [describe_eq_outline hk, ho]
        rfl }

/-- The outline that the description of a focus is written from. -/
structure Outlines (src : Source) (focus : String) (shape : Shape) (embedContext : Bool)
    (json : Json) (o : Outline) : Prop where
  outline : src.outline shape.depth (.iri (Iri.normalize focus)) shape [] = .ok o
  bare : embedContext = false → json = o.json
  /-- A context that is asked for stands in front of the members. -/
  explained : embedContext = true → ∃ members a, o.json = .object members ∧
    Aliases.ofShape shape src.keywords = .ok a ∧
    json = .object ((src.name Keyword.context, context src.keywords a) :: members)

/-- The names of an object are distinct, and that of contexts is not among them. -/
theorem outlineObject_names {a : Aliases} (ha : Aliases.ofShape shape src.keywords = .ok a)
    (hk : src.keywords.check = .ok ()) (hn : (members.map (·.1)).Sublist (a.entries.map (·.1))) :
    (src.name Keyword.context ::
      (memberJsons (src.outlineId r members ++ members)).map (·.1)).Nodup := by
  have hnodup := nodup_keywords ha hk hn
  rw [map_fst_memberJsons, List.map_append]
  unfold Source.outlineId
  split
  · exact hnodup
  · exact hnodup.sublist ((List.sublist_cons_self _ _).cons_cons _)

/-- An outline of a description is an object, with members by the names of a table. -/
theorem outline_object {o : Outline} (h : src.outline levels r shape trail = .ok o) :
    ∃ members inner a, o = src.outlineObject r members ∧
      Aliases.ofShape inner src.keywords = .ok a ∧
      (members.map (·.1)).Sublist (a.entries.map (·.1)) := by
  cases levels with
  | zero =>
    cases h
    exact ⟨[], .and [], ⟨[]⟩, rfl, rfl, .slnil⟩
  | succ levels =>
    obtain ⟨a, ha, h⟩ := ok_of_bind h
    obtain ⟨members, hm, h⟩ := ok_of_bind h
    cases h
    exact ⟨members, shape, a, rfl, ha, outlineMembers_names hm⟩

/-- The description of a focus is written from an outline. -/
theorem outlines_of_focusJson {focus : String} {embedContext : Bool} {json : Json}
    (hk : src.keywords.check = .ok ()) (h : src.focusJson focus shape embedContext = .ok json) :
    ∃ o, Outlines src focus shape embedContext json o := by
  obtain ⟨w, hw, h⟩ := ok_of_bind h
  rw [describe_eq_outline hk] at hw
  cases ho : src.outline shape.depth (.iri (Iri.normalize focus)) shape [] with
  | error e =>
    rw [ho] at hw
    cases hw
  | ok o =>
    rw [ho] at hw
    cases hw
    obtain ⟨members, inner, a, rfl, ha, hn⟩ := outline_object ho
    refine ⟨_, ho, fun he => ?_, fun he => ?_⟩
    · subst he
      cases h
      rfl
    · subst he
      obtain ⟨b, hb, h⟩ := ok_of_bind h
      cases h
      exact ⟨_, b, rfl, hb, congrArg Json.object (Json.foldl_put (outlineObject_names ha hk hn))⟩

/-- Descriptions of a focus are written from outlines whose references find what they refer to:
from a source under accepted names for keywords, and by the operation that takes any shape. -/
theorem references_disciplined (focus : String) (shape : Shape) :
    (∀ (src : Source) (embedContext : Bool) (json : Json), src.keywords.check = .ok () →
      src.focusJson focus shape embedContext = .ok json →
      ∃ o, Outlines src focus shape embedContext json o ∧ Disciplined src o) ∧
    ∀ (graph : Graph) (options : DescriptionOptions) (json : Json),
      encode focus shape graph options = .ok json →
      let src : Source := ⟨graph, options.keywords, options.base.or (Iri.root? focus)⟩
      ∃ o, Outlines src focus shape.drive options.embedContext json o ∧ Disciplined src o := by
  have hsource : ∀ (shape : Shape) (src : Source) (embedContext : Bool) (json : Json),
      src.keywords.check = .ok () → src.focusJson focus shape embedContext = .ok json →
      ∃ o, Outlines src focus shape embedContext json o ∧ Disciplined src o := by
    intro shape src embedContext json hk h
    obtain ⟨o, ho⟩ := outlines_of_focusJson hk h
    exact ⟨o, ho, (outline_trailed hk List.not_mem_nil ho.outline).disciplined hk⟩
  refine ⟨hsource shape, fun graph options json h => ?_⟩
  obtain ⟨driver, hdriver, h⟩ := ok_of_bind h
  obtain ⟨rfl, hk⟩ := prepare_ok hdriver
  exact hsource _ _ _ json hk h

/-- A resource knows a blank node, which knows itself: the blank node is described with its label,
and referred to from its own description. -/
theorem references_disciplined_loop :
    let knows : Edge := ⟨"urn:x:knows", false⟩
    let shape : Shape := .field knows none (.and [.maxCount 1, .field knows none (.maxCount 1)])
    let node : Term := .blankNode "x"
    let g : Graph := .ofList [knows.triple (.iri "urn:x:a") node, knows.triple node node]
    let src : Source := ⟨g, .none, none⟩
    let json : Json := .object [("@id", .string "urn:x:a"), ("knows", .object [
      ("@id", .string "_:x"), ("knows", .object [("@id", .string "_:x")])])]
    src.keywords.check = .ok () ∧ src.focusJson "urn:x:a" shape false = .ok json ∧
      encode "urn:x:a" shape g .default = .ok json ∧
      (∃ o, Outlines src "urn:x:a" shape false json o ∧ Disciplined src o) ∧
      ∃ o, Outlines src "urn:x:a" shape.drive false json o ∧ Disciplined src o := by
  intro knows shape node g src json
  have hfocus : src.focusJson "urn:x:a" shape false = .ok json := by decide +kernel
  have hencode : encode "urn:x:a" shape g .default = .ok json := by decide +kernel
  have hroot : Iri.root? "urn:x:a" = none := by decide +kernel
  have hboth := references_disciplined "urn:x:a" shape
  have hoperation := hboth.2 g .default json hencode
  rw [hroot] at hoperation
  exact ⟨rfl, hfocus, hencode, hboth.1 src false json rfl hfocus, hoperation⟩

end LinkedShapes.Description
