import LinkedShapes.Proofs.Description.Defects
import LinkedShapes.Proofs.Json.Reordered
import LinkedShapes.Proofs.Query.Filtering
import LinkedShapes.Proofs.Shape.Driver

/-!
# Defects that operations bring up

Reading and writing descriptions and reading queries follow a shape by its alias tables only, so the
defects that they bring up are those of names. Validation and scans also check values, which brings
up patterns and guards; but a driver has no guards. `drivers_without_guards` says so of every shape
and every operation.

* `raises_ofShape`: making a table goes wrong for the names of fields only.
* `raises_values`, `raises_describe`, `raises_filters`: so do reading, writing and filters.
* `permits_of_guardFree`: walking over a shape without guards never meets one.
-/

namespace LinkedShapes

open Vocabulary

variable {k : Keywords} {shape inner : Shape} {a : Aliases} {name : String}

/-! ## Names of fields -/

/-- The defects of names. -/
abbrev IsNaming (defect : ShapeError) : Prop := defect.isNaming = true

theorem raises_checkName {edge : Edge} : Raises IsNaming (checkName k edge name) := by
  unfold checkName
  split
  · exact raises_error rfl
  · split
    · exact raises_error rfl
    · exact raises_ok rfl

theorem raises_fieldName {f : Field} : Raises IsNaming (fieldName k f) := by
  unfold fieldName
  split
  · split
    · exact raises_ok rfl
    · split
      · exact raises_checkName
      · exact raises_error rfl
  · exact raises_checkName
  · exact raises_error rfl

/-- Making a table goes wrong for the names of fields only. -/
theorem raises_ofShape : Raises IsNaming (Aliases.ofShape shape k) := by
  have hall : ∀ (fs : List Field) (a : Aliases), Raises IsNaming (Aliases.addAll k a fs) := by
    intro fs
    induction fs with
    | nil => exact fun _ => raises_ok rfl
    | cons f fs ih =>
      intro a
      refine raises_fieldName.bind fun name _ => ?_
      split
      · exact raises_error rfl
      · exact ih _
  exact hall _ _

namespace Description

variable {s : Setting} {a : Aliases} {path : String} {L : Labels} {json : Json}
variable {members : List (String × Json)} {xs : List Json} {subject : Term} {g : Graph}

/-! ## Reading -/

/-- The faults that are defects only of names, if at all. -/
abbrev NamesAtMost (fault : DecodeError) : Prop :=
  ∀ defect, fault = .shape defect → defect.isNaming = true

theorem OwnFault.namesAtMost (fault : DecodeError) (h : OwnFault fault) : NamesAtMost fault := by
  rintro defect rfl
  cases h

theorem raises_aliasesOf : Raises NamesAtMost (aliasesOf s shape) := by
  unfold aliasesOf
  cases h : Aliases.ofShape shape s.keywords with
  | ok a => exact raises_ok rfl
  | error defect =>
    refine raises_error ?_
    rintro _ ⟨⟩
    exact raises_ofShape defect h

theorem raises_typeTriples : Raises OwnFault (typeTriples s subject json) :=
  (raises_mapM fun _ _ => raises_keywordText).bind fun _ _ => raises_ok rfl

theorem raises_fieldTriples {field : Field} {found : List Described} :
    Raises OwnFault (fieldTriples subject field found) := by
  unfold fieldTriples
  split
  · exact raises_ok rfl
  · refine raises_foldlM fun d _ graph => ?_
    dsimp only
    split
    · exact raises_error rfl
    · exact raises_ok rfl

theorem raises_value (h : ∀ path L, Raises NamesAtMost (values s shape path json L)) :
    Raises NamesAtMost (value s shape path json L) := by
  cases json with
  | array xs =>
    rw [value]
    exact raises_error nofun
  | _ => exact h path L

theorem raises_items {index : Nat}
    (h : ∀ x ∈ xs, ∀ path L, Raises NamesAtMost (values s shape path x L)) :
    Raises NamesAtMost (items s shape path index xs L) := by
  induction xs generalizing index L with
  | nil =>
    rw [items]
    exact raises_ok rfl
  | cons x xs ih =>
    obtain ⟨hx, hxs⟩ := List.forall_mem_cons.1 h
    rw [items]
    exact (raises_value hx).run_bind fun _ _ _ => (ih hxs).run_bind fun _ _ _ => raises_ok rfl

theorem raises_fields
    (h : ∀ m ∈ members, ∀ shape path L, Raises NamesAtMost (values s shape path m.2 L)) :
    Raises NamesAtMost (fields s a subject path members L) := by
  induction members generalizing L with
  | nil =>
    rw [fields]
    exact raises_ok rfl
  | cons m members ih =>
    obtain ⟨name, json⟩ := m
    obtain ⟨hm, hmembers⟩ := List.forall_mem_cons.1 h
    rw [fields_cons]
    refine Raises.run_bind ?_ fun graph L' _ =>
      (ih hmembers).run_bind fun _ _ _ => raises_ok rfl
    cases hg : a.get? name with
    | some field =>
      rw [fields_values_alone hg]
      refine (hm _ _ L).run_bind fun found L' _ => ?_
      exact (raises_fieldTriples.mono OwnFault.namesAtMost).run_lift
    | none =>
      cases hk : s.keywords.keyword? name with
      | none =>
        rw [fields_unknown_alone hg hk]
        refine raises_error ?_
        rintro _ ⟨⟩
      | some keyword =>
        rw [fields_keyword_alone hg hk]
        split
        · exact (raises_typeTriples.mono OwnFault.namesAtMost).run_lift
        · exact raises_ok rfl

/-- Reading goes wrong for what is written and for the names of fields only. -/
theorem raises_values (json : Json) :
    ∀ shape path L, Raises NamesAtMost (values s shape path json L) := by
  induction json using Json.induct with
  | array xs ih => exact fun shape path L => raises_items fun x hx => ih x hx shape
  | object members ih =>
    intro shape path L
    show Raises NamesAtMost (value s shape path (.object members) L)
    rw [value]
    refine raises_aliasesOf.run_lift.run_bind fun a L₁ _ => ?_
    refine (raises_declaredAfter.mono OwnFault.namesAtMost).run_lift.run_bind fun found L₂ _ => ?_
    cases Json.lookup Keyword.value found with
    | some json =>
      refine (raises_valueObject.mono OwnFault.namesAtMost).run_lift.run_bind fun _ _ _ => ?_
      exact raises_ok rfl
    | none =>
      dsimp only
      split
      · refine (raises_taggedTexts.mono OwnFault.namesAtMost).run_lift.run_bind fun _ _ _ => ?_
        exact raises_ok rfl
      · refine (raises_namedResource.mono OwnFault.namesAtMost).run_bind fun r L₃ _ => ?_
        exact (raises_fields ih).run_bind fun _ _ _ => raises_ok rfl
  | leaf x harray hobject =>
    intro shape path L
    cases x with
    | array xs => exact absurd rfl (harray xs)
    | object members => exact absurd rfl (hobject members)
    | string text =>
      refine Raises.mono ?_ OwnFault.namesAtMost
      show Raises OwnFault (value s shape path (.string text) L)
      rw [value]
      exact (textReading s shape text).raises.run_bind fun _ _ _ => raises_ok rfl
    | null | bool _ | number _ =>
      show Raises NamesAtMost (value s shape path _ L)
      rw [value]
      exact raises_ok rfl

theorem raises_focusTriples : Raises NamesAtMost (focusTriples s shape json L) := by
  refine (raises_root OwnFault.namesAtMost raises_aliasesOf).run_lift.run_bind fun p L' _ => ?_
  exact raises_fields fun m _ => raises_values m.2

theorem raises_attempt {α : Type} {reading : Decoding α} (h : Raises NamesAtMost (reading L)) :
    Raises IsNaming (attempt reading L) := by
  unfold attempt
  cases hr : reading L with
  | ok p => exact raises_ok rfl
  | error fault =>
    cases fault with
    | shape defect => exact raises_error (h _ hr defect rfl)
    | _ => exact raises_ok rfl

/-! ## Writing -/

theorem raises_fieldMembers {src : Source} {trail : List Term}
    {describe : Term → Shape → List Term → Except ShapeError Written}
    (h : ∀ resource shape trail, Raises IsNaming (describe resource shape trail))
    (entries : List (String × Field)) :
    Raises IsNaming (src.fieldMembers describe subject trail entries) := by
  have hvalue : ∀ shape target, Raises IsNaming (src.value describe shape trail target) := by
    intro shape target
    have hresource : ∀ resource : Term, Raises IsNaming
        (if resource ∈ trail then .ok (src.reference shape resource, .singleton resource)
        else if shape.isInlineable ∧ shape.fields.isEmpty then
          .ok (.string (src.idText resource), .empty)
        else describe resource shape trail) := by
      intro resource
      split
      · exact raises_ok rfl
      · split
        · exact raises_ok rfl
        · exact h _ _ _
    cases target with
    | literal l => exact raises_ok rfl
    | _ => exact hresource _
  induction entries with
  | nil => exact raises_ok rfl
  | cons entry entries ih =>
    obtain ⟨name, field⟩ := entry
    rw [Source.fieldMembers]
    split
    · exact ih
    · refine Raises.bind ?_ fun written _ => ih.bind fun _ _ => raises_ok rfl
      unfold Source.fieldValue
      split
      · exact raises_ok rfl
      · exact (raises_mapM fun target _ => hvalue _ target).bind fun _ _ => raises_ok rfl

/-- Writing goes wrong for the names of fields only. -/
theorem raises_describe {src : Source} (levels : Nat) (resource : Term) (shape : Shape)
    (trail : List Term) : Raises IsNaming (src.describe levels resource shape trail) := by
  induction levels generalizing resource shape trail with
  | zero => exact raises_ok rfl
  | succ levels ih =>
    rw [Source.describe]
    refine raises_ofShape.bind fun a _ => ?_
    exact (raises_fieldMembers ih a.entries).bind fun _ _ => raises_ok rfl

theorem raises_focusJson {src : Source} {focus : String} {embedContext : Bool} :
    Raises IsNaming (src.focusJson focus shape embedContext) := by
  refine (raises_describe _ _ _ _).bind fun written _ => ?_
  dsimp only
  split
  · split
    · exact raises_ofShape.bind fun _ _ => raises_ok rfl
    · exact raises_ok rfl
  · exact raises_ok rfl

/-! ## Validation and scans -/

/-- The defects that are no guards. -/
abbrev NoGuard (defect : ShapeError) : Prop := ∀ guard, defect ≠ .unredactedGuard guard

theorem IsNaming.noGuard (defect : ShapeError) (h : IsNaming defect) : NoGuard defect := by
  rintro guard rfl
  cases h

theorem raises_check_of_ne {focus : String} {terms : List Term} (h : ∀ g, shape ≠ .guard g) :
    Raises NoGuard (shape.check focus terms) := by
  cases shape with
  | guard g => exact absurd rfl (h g)
  | pattern expression flags =>
    unfold Shape.check
    refine Raises.bind ?_ fun _ _ => raises_ok rfl
    cases Pattern.compile expression flags with
    | ok p => exact raises_ok rfl
    | error fault => exact raises_error nofun
  | _ => exact raises_ok rfl

theorem raises_fieldAlias {edge : Edge} : Raises IsNaming (fieldAlias a edge) := by
  unfold fieldAlias
  split
  · exact raises_ok rfl
  · exact raises_error rfl

/-- Walking over a shape without guards never meets one. -/
theorem permits_of_guardFree (h : ∀ g, .guard g ∉ shape.within) : Permits NoGuard s a shape where
  named := fun _ _ _ _ => raises_fieldAlias.mono IsNaming.noGuard
  tables := fun _ _ _ _ => raises_ofShape.mono IsNaming.noGuard
  nested := fun _ _ _ _ _ _ _ _ _ _ => raises_fieldAlias.mono IsNaming.noGuard
  read := fun _ _ _ _ _ _ _ => (raises_attempt
    (raises_termsOfValue OwnFault.namesAtMost raises_aliasesOf)).mono IsNaming.noGuard
  checked := fun _ hm _ _ => raises_check_of_ne fun g hg => h g (hg ▸ hm)

theorem raises_validateFocus_of_guardFree (h : ∀ g, .guard g ∉ shape.within) :
    Raises NoGuard (validateFocus s shape json L) := by
  have hroot : Raises NamesAtMost (root s shape json) :=
    raises_root OwnFault.namesAtMost raises_aliasesOf
  have hrest : ∀ issues : Trace, Raises NoGuard ((do
      let aliases ← Aliases.ofShape shape s.keywords
      let found ← validateGroup s aliases [json] [.iri s.focus] shape
      return (issues.merge found).merge (unexpectedMembers s aliases shape [json]) :
      Validating Trace) L) := by
    intro issues
    refine (raises_ofShape.mono IsNaming.noGuard).run_lift.run_bind fun a L' _ => ?_
    exact (raises_validateGroup (permits_of_guardFree h)).run_bind fun _ _ _ => raises_ok rfl
  unfold validateFocus
  cases hr : root s shape json with
  | ok p => exact hrest _
  | error fault =>
    cases fault with
    | shape defect => exact raises_error (IsNaming.noGuard _ (hroot _ hr defect rfl))
    | _ => exact hrest _

theorem raises_scanFocus_of_guardFree (h : ∀ g, .guard g ∉ shape.within) :
    Raises NoGuard (scanFocus s g shape) := by
  refine (raises_ofShape.mono IsNaming.noGuard).bind fun a _ => ?_
  exact (raises_scanGroup (permits_of_guardFree h)).bind fun _ _ => raises_ok rfl

/-- The driver of a shape is ready unless the names of keywords are wrong. -/
theorem raises_prepare_noGuard : Raises NoGuard (prepare shape k) := by
  have hkeywords : Raises NoGuard k.check := raises_keywords.mono fun defect h => by
    rintro guard rfl
    cases h
  refine hkeywords.bind fun _ _ => ?_
  rw [Shape.checkRedacted_drive]
  exact raises_ok rfl

end Description

/-! ## Queries -/

namespace Query

open Description

variable {scope : Scope} {s : Setting} {key path : String} {json : Json} {L : Labels}
variable {members : List (String × Json)} {operator : Operator}

/-- The faults of queries that are defects only of names, if at all. -/
abbrev NamesAtMost (fault : QueryError) : Prop :=
  ∀ defect, fault = .shape defect → defect.isNaming = true

theorem raises_steps : Raises NamesAtMost (steps k shape path) := by
  have hstep : ∀ shape word, Raises NamesAtMost (step k shape word) := by
    intro shape word
    refine Raises.bind (raises_ofShape.mapError ?_) fun a _ => ?_
    · rintro defect h _ ⟨⟩
      exact h
    · split
      · exact raises_ok rfl
      · refine raises_error ?_
        rintro _ ⟨⟩
  have hall : ∀ words shape, Raises NamesAtMost (stepAll k shape words) := by
    intro words
    induction words with
    | nil => exact fun _ => raises_ok rfl
    | cons word words ih =>
      intro shape
      rw [stepAll]
      exact (hstep shape _).bind fun first _ => (ih _).bind fun _ _ => raises_ok rfl
  unfold steps
  dsimp only
  refine (hall _ shape).bind fun found _ => ?_
  cases (pathWords (Text.trim path.toList)).2 with
  | true => exact raises_ok rfl
  | false =>
    refine raises_error ?_
    rintro _ ⟨⟩

theorem raises_edges : Raises NamesAtMost (edges k shape path) := raises_steps.map

theorem raises_filterTerms : Raises NamesAtMost (filterTerms s shape key json L) := by
  unfold filterTerms
  cases h : values s shape ("/" ++ key) json L with
  | ok p => exact raises_ok rfl
  | error fault =>
    refine raises_error ?_
    have hfault := raises_values json shape _ L fault h
    cases fault with
    | shape defect =>
      rintro _ ⟨⟩
      exact hfault defect rfl
    | _ => exact nofun

theorem raises_filterTerm : Raises NamesAtMost (filterTerm s shape key json L) := by
  refine raises_filterTerms.run_bind fun found L' _ => ?_
  split
  · exact raises_ok rfl
  · exact raises_error nofun

theorem raises_constraint :
    Raises NamesAtMost (constraint s shape key json operator L) := by
  have htext : ∀ what, Raises NamesAtMost (filterText what json) := by
    intro what
    cases json <;> first | exact raises_ok rfl | exact raises_error nofun
  have hnumber : ∀ what, Raises NamesAtMost (filterNumber what json) := by
    intro what
    unfold filterNumber
    cases natural (some json) with
    | ok n => exact raises_ok rfl
    | error text => exact raises_error nofun
  cases operator
  case datatype | clazz | pattern | like | stem =>
    exact (htext _).run_lift.run_bind fun _ _ _ => raises_ok rfl
  case minLength | maxLength | minCount | maxCount =>
    exact (hnumber _).run_lift.run_bind fun _ _ _ => raises_ok rfl
  case range | all | any =>
    exact raises_filterTerms.run_bind fun _ _ _ => raises_ok rfl
  case minInclusive | maxInclusive | minExclusive | maxExclusive =>
    exact raises_filterTerm.run_bind fun _ _ _ => raises_ok rfl

/-- Filters go wrong for what is written and for the names of fields only. -/
theorem raises_filters : Raises NamesAtMost (filters scope members L) := by
  induction members generalizing L with
  | nil => exact raises_ok rfl
  | cons member members ih =>
    obtain ⟨key, json⟩ := member
    rw [filters]
    split
    · exact ih
    · refine raises_steps.run_lift.run_bind fun steps L₁ _ => ?_
      refine raises_constraint.run_bind fun constraint L₂ _ => ?_
      exact ih.run_bind fun _ _ _ => raises_ok rfl

theorem raises_ofMembers : Raises NamesAtMost (ofMembers scope members L) := by
  have hpath : ∀ key, Raises NamesAtMost (pathUnder scope members key) := by
    intro key
    unfold pathUnder
    split
    · exact raises_ok rfl
    · exact raises_ok rfl
    · exact raises_edges.map
    · exact raises_error nofun
  have hcriterion : ∀ text, Raises NamesAtMost (criterion scope text) := by
    intro text
    unfold criterion
    exact raises_edges.map
  have hcriteria : Raises NamesAtMost (criteria scope members) := by
    unfold criteria
    split
    · exact raises_ok rfl
    · exact raises_ok rfl
    · exact (hcriterion _).map
    · refine raises_mapM fun item _ => ?_
      cases item with
      | string text => exact hcriterion text
      | _ => exact raises_error nofun
    · exact raises_error nofun
  have hnatural : ∀ (fault : String → QueryError) (value : Option Json),
      (∀ text, NamesAtMost (fault text)) → Raises NamesAtMost ((natural value).mapError fault) :=
    fun fault value hfault => Raises.mapError (fun _ _ => trivial) fun text _ => hfault text
  have hoffset := hnatural .invalidOffset (Json.lookup offsetKey members) fun _ => nofun
  have hlimit := hnatural .invalidLimit (Json.lookup limitKey members) fun _ => nofun
  have hfilters : Raises NamesAtMost ((filters scope members).run L) := raises_filters
  unfold ofMembers
  refine hfilters.bind fun found _ => ?_
  refine (hpath termsKey).bind fun terms _ => (hpath statsKey).bind fun stats _ => ?_
  exact hcriteria.bind fun criteria _ => hoffset.bind fun offset _ => hlimit.bind fun limit _ =>
    raises_ok rfl

theorem raises_read {text : String} : Raises NamesAtMost (read scope text L) := by
  by_cases hempty : text = ""
  · subst hempty
    exact raises_ok rfl
  · have hjson : ∀ text, Raises NamesAtMost (jsonMembers text) := by
      intro text
      unfold jsonMembers
      split
      · exact raises_ok rfl
      · exact raises_error nofun
      · exact raises_error nofun
    rw [read_eq hempty]
    refine Raises.bind ?_ fun _ _ => raises_ofMembers
    unfold membersOf
    split
    · exact raises_ok rfl
    · split
      · split
        · exact hjson _
        · exact raises_error nofun
      · split
        · exact hjson _
        · exact raises_ok rfl

/-- No query meets a guard. -/
theorem raises_parse {focus text : String} :
    Raises (fun fault => ∀ guard, fault ≠ .shape (.unredactedGuard guard))
      (parse focus text shape k L) := by
  refine Raises.bind (raises_keywords.mapError ?_) fun _ _ => raises_read.mono ?_
  · rintro defect h guard ⟨⟩
    cases h
  · rintro fault h guard rfl
    cases h _ rfl

end Query

/-! ## Drivers -/

namespace Shape

open Description

/-- Drivers have no guards, so that no operation meets one; and in general redaction leaves only
guards of the shape, on axes that the context does not cover. -/
theorem drivers_without_guards (s : Shape) :
    s.drive.checkRedacted = .ok () ∧ (∀ g, .guard g ∉ s.drive.within) ∧
      (∀ focus k guard,
        (∀ json labels,
          decode focus s json k labels ≠ .error (.shape (.unredactedGuard guard))) ∧
        (∀ g options, encode focus s g options ≠ .error (.unredactedGuard guard)) ∧
        (∀ json labels, validate focus s json k labels ≠ .error (.unredactedGuard guard)) ∧
        (∀ g, scan focus s g k ≠ .error (.unredactedGuard guard)) ∧
        ∀ text labels,
          Query.parse focus text s k labels ≠ .error (.shape (.unredactedGuard guard))) ∧
      ∀ c g, .guard g ∈ (s.redact c).within → .guard g ∈ s.within ∧ c.rule g.axis = none := by
  refine ⟨checkRedacted_drive s, guard_not_mem_drive, fun focus k guard => ⟨?_, ?_, ?_, ?_, ?_⟩,
    fun c g => rule_eq_none_of_mem_redact⟩
  · intro json labels h
    refine Raises.bind (P := fun fault => ∀ guard, fault ≠ .shape (.unredactedGuard guard))
      (raises_prepare_noGuard.mapError ?_) (fun driver _ => Raises.bind ?_ ?_) _ h guard rfl
    · rintro defect hd guard ⟨⟩
      exact hd guard rfl
    · refine raises_focusTriples.mono ?_
      rintro fault hfault guard rfl
      cases hfault _ rfl
    · exact fun _ _ => raises_ok rfl
  · intro g options h
    refine Raises.bind raises_prepare_noGuard (fun driver _ => ?_) _ h guard rfl
    exact raises_focusJson.mono IsNaming.noGuard
  · intro json labels h
    refine Raises.bind raises_prepare_noGuard (fun driver hd => ?_) _ h guard rfl
    obtain ⟨rfl, -⟩ := prepare_ok hd
    exact (raises_validateFocus_of_guardFree guard_not_mem_drive).bind fun _ _ => raises_ok rfl
  · intro g h
    refine Raises.bind raises_prepare_noGuard (fun driver hd => ?_) _ h guard rfl
    obtain ⟨rfl, -⟩ := prepare_ok hd
    exact raises_scanFocus_of_guardFree guard_not_mem_drive
  · exact fun text labels h => Query.raises_parse _ h guard rfl

/-- Guards in a test, in a branch, in a nested field and in a link, on three axes. -/
def guardedDraft : Shape :=
  .and [.when (guardOf .role ["admin"]) (guardOf .task ["update"]) (.minCount 1),
    .field ⟨"urn:x:p", false⟩ none (.or [guardOf .task ["delete"], .maxCount 5]),
    .link "urn:x:item" filterMode]

/-- For editors, the roles are answered; tasks and the mode are not. -/
theorem drivers_without_guards_draft :
    let editing := GuardContext.silent.withValues .role ["editor"]
    let deleting : Guard := ⟨.task, .ofList ["delete"]⟩
    guardedDraft.drive.checkRedacted = .ok () ∧
      .guard deleting ∈ (guardedDraft.redact editing).within ∧
      .guard deleting ∈ guardedDraft.within ∧ editing.rule deleting.axis = none := by
  intro editing deleting
  obtain ⟨hdriver, -, -, hleft⟩ := drivers_without_guards guardedDraft
  have hredact : guardedDraft.redact editing = .and [.minCount 1,
      .field ⟨"urn:x:p", false⟩ none (.or [.guard deleting, .maxCount 5]),
      .link "urn:x:item" filterMode] := by decide +kernel
  have hmem : .guard deleting ∈ (guardedDraft.redact editing).within := by
    rw [hredact]
    simp [within, withinAll]
  exact ⟨hdriver, hmem, hleft editing deleting hmem⟩

end Shape

end LinkedShapes
