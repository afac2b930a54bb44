import LinkedShapes.Proofs.Alias.Table
import LinkedShapes.Proofs.Query.Filtering

/-!
# Links around the steps of a filter

A field may stand below links, and then a filter that leads along it has to be put below the same
links. A step knows one link only: the first one of its level, if that leads to the field. Fields
that stand in the open are therefore followed in the open, and fields below one link are put below
this link if it is the first. Below any other link, or below links within links, the filter loses
what it should be put below.

* `linksAbove`: the links above each field on an edge.
* `mem_linksAbove_of_firstLink?`: what the first link leads to stands below it.
* `splice_iff`: a step is put below the links above its field exactly if there are none, or one that
  is the first of the level.
* `filters_spliced_iff`: the filters of a query, step by step.
-/

namespace LinkedShapes

namespace Shape

variable {shape : Shape} {shapes : List Shape} {f : Field} {edge : Edge} {links : List String}

/-! ## Links above a field -/

mutual

/-- The links above each field on an edge at the level of a shape, from the outermost on. -/
def linksAbove (edge : Edge) : Shape → List (List String)
  | .field e _ _ => if e = edge then [[]] else []
  | .and shapes => linksAboveInAll edge shapes
  | .or shapes => linksAboveInAll edge shapes
  | .when _ pass fail => linksAbove edge pass ++ linksAbove edge fail
  | .link iri shape => (linksAbove edge shape).map (iri :: ·)
  | _ => []

def linksAboveInAll (edge : Edge) : List Shape → List (List String)
  | [] => []
  | s :: shapes => linksAbove edge s ++ linksAboveInAll edge shapes

end

/-- A shape below links, from the outermost on. -/
def underLinks (links : List String) (shape : Shape) : Shape := links.foldr .link shape

theorem mem_linksAboveInAll :
    links ∈ linksAboveInAll edge shapes ↔ ∃ s ∈ shapes, links ∈ linksAbove edge s := by
  induction shapes with
  | nil => simp [linksAboveInAll]
  | cons s shapes ih =>
    rw [linksAboveInAll, List.mem_append, ih]
    simp only [List.mem_cons, exists_eq_or_imp]

/-- A field on an edge stands below some links, be they none. -/
theorem exists_linksAbove (h : f ∈ shape.fields) : ∃ links, links ∈ linksAbove f.edge shape := by
  induction shape using induct with
  | and shapes ih | or shapes ih =>
    obtain ⟨s, hs, h⟩ := mem_fieldsOfAll.1 h
    obtain ⟨links, hlinks⟩ := ih s hs h
    exact ⟨links, mem_linksAboveInAll.2 ⟨s, hs, hlinks⟩⟩
  | when test pass fail _ ihp ihf =>
    rcases List.mem_append.1 h with h | h
    · obtain ⟨links, hlinks⟩ := ihp h
      exact ⟨links, List.mem_append_left _ hlinks⟩
    · obtain ⟨links, hlinks⟩ := ihf h
      exact ⟨links, List.mem_append_right _ hlinks⟩
  | field edge label s _ =>
    rw [List.mem_singleton.1 h, linksAbove, if_pos rfl]
    exact ⟨[], List.mem_singleton_self _⟩
  | link iri s ih =>
    obtain ⟨links, hlinks⟩ := ih h
    exact ⟨iri :: links, List.mem_map_of_mem hlinks⟩
  | leaf s hs =>
    rw [fields_of_isLeaf hs] at h
    exact absurd h List.not_mem_nil

end Shape

namespace Query

open Shape Description

variable {k : Keywords} {level shape inner nested : Shape} {shapes : List Shape} {step : Step}
variable {found : List Step} {iri : String} {f : Field} {edge : Edge} {links : List String}

/-! ## The first link -/

theorem firstLink?_of_isLeaf (h : shape.isLeaf = true) : firstLink? shape = none := by
  cases shape <;> first | rfl | cases h

/-- What the first link of a level leads to stands below it. -/
theorem mem_linksAbove_of_firstLink? (h : firstLink? shape = some (iri, inner))
    (hf : f ∈ inner.fields) : ∃ links, iri :: links ∈ linksAbove f.edge shape := by
  have hall : ∀ shapes : List Shape,
      (∀ s ∈ shapes, firstLink? s = some (iri, inner) →
        ∃ links, iri :: links ∈ linksAbove f.edge s) →
      firstLinkOfAll? shapes = some (iri, inner) →
      ∃ links, iri :: links ∈ linksAboveInAll f.edge shapes := by
    intro shapes ih h
    induction shapes with
    | nil => cases h
    | cons s shapes ihs =>
      obtain ⟨hs, hshapes⟩ := List.forall_mem_cons.1 ih
      rcases Option.or_eq_some_iff.1 h with h | ⟨-, h⟩
      · obtain ⟨links, hlinks⟩ := hs h
        exact ⟨links, List.mem_append_left _ hlinks⟩
      · obtain ⟨links, hlinks⟩ := ihs hshapes h
        exact ⟨links, List.mem_append_right _ hlinks⟩
  induction shape using Shape.induct with
  | and shapes ih | or shapes ih => exact hall shapes ih h
  | when test pass fail _ ihp ihf =>
    rcases Option.or_eq_some_iff.1 h with h | ⟨-, h⟩
    · obtain ⟨links, hlinks⟩ := ihp h
      exact ⟨links, List.mem_append_left _ hlinks⟩
    · obtain ⟨links, hlinks⟩ := ihf h
      exact ⟨links, List.mem_append_right _ hlinks⟩
  | field edge label s _ => cases h
  | link iri' s ih =>
    cases h
    obtain ⟨links, hlinks⟩ := exists_linksAbove hf
    exact ⟨links, List.mem_map_of_mem hlinks⟩
  | leaf s hs =>
    rw [firstLink?_of_isLeaf hs] at h
    cases h

/-- Is the first link of a level this one, and does it lead to a field on the edge? -/
def LeadsFirst (level : Shape) (edge : Edge) (iri : String) : Prop :=
  ∃ inner, firstLink? level = some (iri, inner) ∧ ∃ f ∈ inner.fields, f.edge = edge

theorem linkTo?_eq_some_iff : linkTo? level edge = some iri ↔ LeadsFirst level edge iri := by
  unfold linkTo? LeadsFirst
  simp only [Option.map_eq_some_iff, Option.filter_eq_some_iff, List.any_eq_true, beq_iff_eq]
  constructor
  · rintro ⟨⟨iri, inner⟩, ⟨hfirst, hleads⟩, rfl⟩
    exact ⟨inner, hfirst, hleads⟩
  · rintro ⟨inner, hfirst, hleads⟩
    exact ⟨(iri, inner), ⟨hfirst, hleads⟩, rfl⟩

/-! ## Steps -/

/-- A step of a filter: a shape behind the field of the step. -/
def splice (step : Step) (nested : Shape) : Shape := wrap [step] nested

theorem wrap_eq_foldr (found : List Step) (constraint : Shape) :
    wrap found constraint = found.foldr splice constraint := by
  induction found with
  | nil => rfl
  | cons step found ih => rw [List.foldr_cons, ← ih]; rfl

theorem splice_eq (step : Step) (nested : Shape) :
    splice step nested = underLinks step.link.toList (step.field.withShape nested) := by
  unfold splice wrap
  cases h : step.link <;> simp [h, underLinks]

/-- A field is no link. -/
theorem withShape_ne_link (f : Field) (nested : Shape) : f.withShape nested ≠ .link iri inner := by
  rcases along_cases f.edge f.label nested with ⟨-, heq⟩ | ⟨-, heq⟩ <;>
  · rw [Field.withShape, heq]
    nofun

/-- A field stands below just the links that it is put below. -/
theorem underLinks_withShape_inj {others : List String} :
    underLinks links (f.withShape nested) = underLinks others (f.withShape nested) ↔
      links = others := by
  refine ⟨fun h => ?_, fun h => by rw [h]⟩
  induction links generalizing others with
  | nil =>
    cases others with
    | nil => rfl
    | cons iri others => exact absurd h (withShape_ne_link f nested)
  | cons iri links ih =>
    cases others with
    | nil => exact absurd h.symm (withShape_ne_link f nested)
    | cons iri' others =>
      have hinj := Shape.link.inj h
      rw [hinj.1, ih hinj.2]

/-- The field on an edge stands below just these links, wherever it stands at a level. -/
def OnlyBelow (level : Shape) (edge : Edge) (links : List String) : Prop :=
  ∀ others ∈ linksAbove edge level, others = links

/-- A step is put below the links above its field exactly if there are none, or a single one that
is the first of the level. -/
theorem splice_iff (hlink : step.link = linkTo? level step.field.edge)
    (honly : OnlyBelow level step.field.edge links) (nested : Shape) :
    splice step nested = underLinks links (step.field.withShape nested) ↔
      links = [] ∨ ∃ iri, links = [iri] ∧ LeadsFirst level step.field.edge iri := by
  rw [splice_eq, underLinks_withShape_inj, hlink]
  cases hto : linkTo? level step.field.edge with
  | none =>
    have hnone : ∀ iri, ¬ LeadsFirst level step.field.edge iri := by
      intro iri hleads
      rw [linkTo?_eq_some_iff.2 hleads] at hto
      cases hto
    constructor
    · exact fun h => Or.inl h.symm
    · rintro (rfl | ⟨iri, -, hleads⟩)
      · rfl
      · exact absurd hleads (hnone iri)
  | some iri =>
    have hleads := linkTo?_eq_some_iff.1 hto
    have ⟨inner, hfirst, f, hf, hedge⟩ := hleads
    obtain ⟨rest, habove⟩ := mem_linksAbove_of_firstLink? hfirst hf
    rw [hedge] at habove
    -- the first link is the outermost of the links above the field
    obtain rfl := honly _ habove
    constructor
    · exact fun h => Or.inr ⟨iri, h.symm, hleads⟩
    · rintro (h | ⟨iri', h, -⟩)
      · cases h
      · cases h
        rfl

/-! ## Filters -/

/-- The steps of a path with the levels that they are taken from. -/
def levels : Shape → List Step → List (Shape × Step)
  | _, [] => []
  | level, step :: found => (level, step) :: levels step.field.shape found

/-- A step follows a field of its level, with the link that the level has for it. -/
theorem step_of_levels {words : List (List Char)} (h : stepAll k shape words = .ok found)
    {p : Shape × Step} (hp : p ∈ levels shape found) :
    p.2.field ∈ mergedFields p.1.fields ∧ p.2.link = linkTo? p.1 p.2.field.edge := by
  induction words generalizing shape found with
  | nil =>
    cases h
    exact absurd hp List.not_mem_nil
  | cons word words ih =>
    rw [stepAll] at h
    obtain ⟨first, hfirst, h⟩ := ok_of_bind h
    obtain ⟨rest, hrest, h⟩ := ok_of_bind h
    cases h
    rcases List.mem_cons.1 hp with rfl | hp
    · unfold step at hfirst
      obtain ⟨aliases, haliases, hfirst⟩ := ok_of_bind hfirst
      split at hfirst
      · next field hfield =>
        cases hfirst
        cases htable : Aliases.ofShape shape k with
        | error fault =>
          rw [htable] at haliases
          cases haliases
        | ok a =>
          rw [htable] at haliases
          cases haliases
          exact ⟨Aliases.mem_mergedFields htable (Aliases.mem_of_get? hfield), rfl⟩
      · cases hfirst
    · exact ih hrest hp

/-- The field of a step stands somewhere at its level. -/
theorem exists_linksAbove_of_levels {words : List (List Char)}
    (h : stepAll k shape words = .ok found) {p : Shape × Step} (hp : p ∈ levels shape found) :
    ∃ links, links ∈ linksAbove p.2.field.edge p.1 := by
  obtain ⟨f, hf, hedge⟩ := edge_of_merged (step_of_levels h hp).1
  exact hedge ▸ exists_linksAbove hf

theorem stepAll_of_steps {path : String} (h : steps k shape path = .ok found) :
    ∃ words, stepAll k shape words = .ok found := by
  simp only [steps] at h
  obtain ⟨all, hall, h⟩ := ok_of_bind h
  by_cases hcomplete : (pathWords (Text.trim path.toList)).2 = true
  · rw [if_pos hcomplete] at h
    cases h
    exact ⟨_, hall⟩
  · rw [if_neg hcomplete] at h
    cases h

/-- The shape of the values at the end of a path. -/
def endOf (shape : Shape) (found : List Step) : Shape :=
  match found.getLast? with
  | some step => step.field.shape
  | none => shape

/-- A member of a query that is no reserved one makes a filter of its own, along the steps of its
path, unless its constraint says nothing. -/
theorem filter_of_member {scope : Scope} {members : List (String × Json)} {L L' : Labels}
    {key : String} {json : Json} (h : filters scope members L = .ok (shapes, L'))
    (hm : (key, json) ∈ members) (hkey : isReservedKey key = false) (hjson : json ≠ .null) :
    ∃ found constraint L₁ L₂,
      steps scope.setting.keywords scope.driver (String.ofList (Operator.ofKey key.toList).2) =
        .ok found ∧
      Query.constraint scope.setting (endOf scope.driver found) key json
        (Operator.ofKey key.toList).1 L₁ = .ok (constraint, L₂) ∧
      (constraint.isEmptyAnd = false → wrap found constraint ∈ shapes) := by
  -- each member draws its labels behind those of the members before
  induction members generalizing L shapes with
  | nil => exact absurd hm List.not_mem_nil
  | cons member members ih =>
    obtain ⟨key', json'⟩ := member
    rw [filters] at h
    split at h
    · next hskip =>
      rcases List.mem_cons.1 hm with heq | hm
      · cases heq
        rw [hkey, Bool.false_or, beq_iff_eq] at hskip
        exact absurd hskip hjson
      · exact ih h hm
    · obtain ⟨found, L₁, hfound, h⟩ := run_ok_of_bind h
      obtain ⟨constraint, L₂, hconstraint, h⟩ := run_ok_of_bind h
      obtain ⟨others, L₃, hothers, h⟩ := run_ok_of_bind h
      cases h
      rcases List.mem_cons.1 hm with heq | hm
      · cases heq
        refine ⟨found, constraint, L₁, L₂, (ok_of_run_lift hfound).1, hconstraint, fun hne => ?_⟩
        rw [hne, if_neg Bool.false_ne_true]
        exact List.mem_cons_self
      · obtain ⟨found', constraint', M₁, M₂, hsteps, hrun, hmem⟩ := ih hothers hm
        refine ⟨found', constraint', M₁, M₂, hsteps, hrun, fun hne => ?_⟩
        split
        · exact hmem hne
        · exact List.mem_cons_of_mem _ (hmem hne)

/-- Each filter of a query is made of the steps of its path. A step is put below the links that its
field stands below at its level, if it stands below the same ones everywhere, exactly if there are
none or a single one that is the first of the level. -/
theorem filters_spliced_iff {focus text : String} {base : Shape} {q : Query}
    (h : parse focus text base k L = .ok q) :
    ∃ members shapes, membersOf text = .ok members ∧ q.shape = base.filtered (conj shapes) ∧
      ∀ key json, (key, json) ∈ members → isReservedKey key = false → json ≠ .null →
        ∃ found constraint L₁ L₂,
          steps k base.drive (String.ofList (Operator.ofKey key.toList).2) = .ok found ∧
          Query.constraint (.of focus k) (endOf base.drive found) key json
            (Operator.ofKey key.toList).1 L₁ = .ok (constraint, L₂) ∧
          (constraint.isEmptyAnd = false → found.foldr splice constraint ∈ shapes) ∧
          ∀ p ∈ levels base.drive found, (∃ links, links ∈ linksAbove p.2.field.edge p.1) ∧
            ∀ links, OnlyBelow p.1 p.2.field.edge links → ∀ nested,
              (splice p.2 nested = underLinks links (p.2.field.withShape nested) ↔
                links = [] ∨ ∃ iri, links = [iri] ∧ LeadsFirst p.1 p.2.field.edge iri) := by
  obtain ⟨members, shapes, L', hmembers, hfilters, hshape⟩ := parse_ok h
  refine ⟨members, shapes, hmembers, hshape, fun key json hm hkey hjson => ?_⟩
  obtain ⟨found, constraint, L₁, L₂, hsteps, hconstraint, hmem⟩ :=
    filter_of_member hfilters hm hkey hjson
  obtain ⟨words, hwords⟩ := stepAll_of_steps hsteps
  refine ⟨found, constraint, L₁, L₂, hsteps, hconstraint, fun hne => ?_, fun p hp => ?_⟩
  · rw [← wrap_eq_foldr]
    exact hmem hne
  · refine ⟨exists_linksAbove_of_levels hwords hp, fun links honly nested => ?_⟩
    exact splice_iff (step_of_levels hwords hp).2 honly nested

/-- Resources with a field in the open that leads to one below a link. -/
def linkedBehind : Shape :=
  .field ⟨"urn:x:p", false⟩ none
    (.link "urn:x:a" (.field ⟨"urn:x:q", false⟩ none (.and [])))

theorem filters_spliced_iff_linkedBehind :
    parse "urn:x:f" "p.q=v" linkedBehind .none default = .ok (.all (linkedBehind.filtered
      (.field ⟨"urn:x:p", false⟩ none (.link "urn:x:a"
        (.field ⟨"urn:x:q", false⟩ none (.anyOf [.term (.string "v")])))))) ∧
      ∃ found, steps .none linkedBehind.drive "p.q" = .ok found ∧ found.length = 2 ∧
        ∀ p ∈ levels linkedBehind.drive found, ∀ links, OnlyBelow p.1 p.2.field.edge links →
          ∀ nested, (splice p.2 nested = underLinks links (p.2.field.withShape nested) ↔
            links = [] ∨ ∃ iri, links = [iri] ∧ LeadsFirst p.1 p.2.field.edge iri) := by
  have hparse : parse "urn:x:f" "p.q=v" linkedBehind .none default =
      .ok (.all (linkedBehind.filtered (.field ⟨"urn:x:p", false⟩ none (.link "urn:x:a"
        (.field ⟨"urn:x:q", false⟩ none (.anyOf [.term (.string "v")])))))) := by
    decide +kernel
  have hmembers : membersOf "p.q=v" = .ok [("p.q", .string "v")] := by decide +kernel
  have hlength : (steps .none linkedBehind.drive "p.q").toOption.map List.length = some 2 := by
    decide +kernel
  obtain ⟨members, shapes, hm, -, hall⟩ := filters_spliced_iff hparse
  rw [hmembers] at hm
  cases hm
  obtain ⟨found, -, -, -, hsteps, -, -, hlevels⟩ :=
    hall "p.q" (.string "v") List.mem_cons_self (by decide +kernel) nofun
  have hpath : String.ofList (Operator.ofKey "p.q".toList).2 = "p.q" := by decide +kernel
  rw [hpath] at hsteps
  rw [hsteps] at hlength
  exact ⟨hparse, found, hsteps, Option.some.inj hlength, fun p hp => (hlevels p hp).2⟩

/-- Fields below a second link and below a link within another one: their filters lose links. -/
theorem filters_misplaced :
    let q : Edge := ⟨"urn:x:q", false⟩
    let filter : Shape := .field q none (.anyOf [.term (.string "v")])
    let second : Shape := .and [.link "urn:x:a" (.field ⟨"urn:x:p", false⟩ none (.and [])),
      .link "urn:x:b" (.field q none (.and []))]
    let inner : Shape := .link "urn:x:a" (.link "urn:x:b" (.field q none (.and [])))
    (linksAbove q second.drive = [["urn:x:b"]] ∧
        parse "urn:x:f" "q=v" second .none default = .ok (.all (second.filtered filter)) ∧
        second.filtered filter ≠ second.filtered (underLinks ["urn:x:b"] filter)) ∧
      linksAbove q inner.drive = [["urn:x:a", "urn:x:b"]] ∧
        parse "urn:x:f" "q=v" inner .none default =
          .ok (.all (inner.filtered (underLinks ["urn:x:a"] filter))) ∧
        inner.filtered (underLinks ["urn:x:a"] filter) ≠
          inner.filtered (underLinks ["urn:x:a", "urn:x:b"] filter) := by
  decide +kernel

end Query

end LinkedShapes
