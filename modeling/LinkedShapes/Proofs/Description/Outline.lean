import LinkedShapes.Proofs.Description.Focus

/-!
# Outlines of descriptions

What is written does not tell objects that describe a resource from objects that refer to one. The
outline of a description is the same tree before it is written, with each part marked as what it
is.

`Source.outline` follows the steps of `Source.describe`, and `describe_eq_outline` shows that a
description is what its outline is written as, together with the references that leave it.
-/

namespace LinkedShapes.Description

open Vocabulary

/-- A description before it is written. -/
inductive Outline where
  /-- A literal, texts by language, or an identifier that nothing is told of. -/
  | plain (json : Json)
  /-- A reference back to a resource that is being described. -/
  | reference (resource : Term) (json : Json)
  /-- The values of a field, in an array. -/
  | items (values : List Outline)
  /-- The object that describes a resource. -/
  | description (resource : Term) (members : List (String × Outline))

namespace Outline

/-! ## What is written of an outline -/

mutual

/-- The JSON value. -/
def json : Outline → Json
  | .plain json => json
  | .reference _ json => json
  | .items values => .array (itemJsons values)
  | .description _ members => .object (memberJsons members)

def itemJsons : List Outline → List Json
  | [] => []
  | v :: values => json v :: itemJsons values

def memberJsons : List (String × Outline) → List (String × Json)
  | [] => []
  | (name, v) :: members => (name, json v) :: memberJsons members

end

mutual

/-- The resources that are referred to, but not described here. -/
def references : Outline → OrderedSet Term
  | .plain _ => .empty
  | .reference resource _ => .singleton resource
  | .items values => itemReferences values
  | .description resource members => (memberReferences members).erase resource

def itemReferences : List Outline → OrderedSet Term
  | [] => .empty
  | v :: values => (references v).union (itemReferences values)

def memberReferences : List (String × Outline) → OrderedSet Term
  | [] => .empty
  | (_, v) :: members => (references v).union (memberReferences members)

end

/-- The JSON value and the references that leave it. -/
def written (o : Outline) : Written := (o.json, o.references)

theorem itemJsons_eq_map (values : List Outline) : itemJsons values = values.map json := by
  induction values with
  | nil => rfl
  | cons v values ih => rw [itemJsons, ih, List.map_cons]

theorem map_fst_memberJsons (members : List (String × Outline)) :
    (memberJsons members).map (·.1) = members.map (·.1) := by
  induction members with
  | nil => rfl
  | cons m members ih => rw [memberJsons, List.map_cons, ih, List.map_cons]

theorem memberJsons_append (first second : List (String × Outline)) :
    memberJsons (first ++ second) = memberJsons first ++ memberJsons second := by
  induction first with
  | nil => rfl
  | cons m first ih => rw [List.cons_append, memberJsons, ih, memberJsons, List.cons_append]

theorem mem_itemReferences {values : List Outline} {t : Term} :
    t ∈ itemReferences values ↔ ∃ v ∈ values, t ∈ v.references := by
  induction values with
  | nil => exact ⟨fun h => absurd h OrderedSet.not_mem_empty, fun ⟨_, hv, _⟩ => nomatch hv⟩
  | cons v values ih =>
    rw [itemReferences, OrderedSet.mem_union, ih]
    simp only [List.mem_cons, exists_eq_or_imp]

theorem mem_memberReferences {members : List (String × Outline)} {t : Term} :
    t ∈ memberReferences members ↔ ∃ m ∈ members, t ∈ m.2.references := by
  induction members with
  | nil => exact ⟨fun h => absurd h OrderedSet.not_mem_empty, fun ⟨_, hm, _⟩ => nomatch hm⟩
  | cons m members ih =>
    rw [memberReferences, OrderedSet.mem_union, ih]
    simp only [List.mem_cons, exists_eq_or_imp]

/-- Values of a field: alone where there can be no other, in an array elsewhere. -/
def compact (field : Field) (values : List Outline) : Outline :=
  match values with
  | [v] => if field.shape.maxCount?.any (· ≤ 1) then v else .items [v]
  | _ => .items values

/-- Values are kept together in the same way before and after they are written. -/
theorem written_compact (field : Field) (values : List Outline) :
    (compact field values).written =
      (Description.compact field ((values.map written).map (·.1)),
        (values.map written).foldl (fun references w => references.union w.2) .empty) := by
  have hjsons : (values.map written).map (·.1) = values.map json := by
    rw [List.map_map]
    rfl
  have hrefs : ∀ t, t ∈ (values.map written).foldl
      (fun (references : OrderedSet Term) w => references.union w.2) .empty ↔
        ∃ v ∈ values, t ∈ v.references := by
    intro t
    rw [mem_foldl_union]
    simp only [List.mem_map, exists_exists_and_eq_and]
    exact ⟨fun h => h.resolve_left OrderedSet.not_mem_empty, Or.inr⟩
  have hitems : (items values).written = (.array (values.map json),
      (values.map written).foldl (fun references w => references.union w.2) .empty) := by
    refine Prod.ext (congrArg Json.array (itemJsons_eq_map values)) ?_
    exact OrderedSet.eq_of_mem_iff fun t => mem_itemReferences.trans (hrefs t).symm
  rw [hjsons]
  unfold compact Description.compact
  rcases values with _ | ⟨v, _ | ⟨w, rest⟩⟩
  · exact hitems
  · by_cases hone : (field.shape.maxCount?.any (· ≤ 1)) = true
    · -- a value that stands alone has the references of an array with this value only
      simp only [List.map_cons, List.map_nil, if_pos hone]
      refine Prod.ext rfl (OrderedSet.eq_of_mem_iff fun t => ?_)
      refine Iff.trans ?_ (hrefs t).symm
      simp [written]
    · simp only [List.map_cons, List.map_nil, if_neg hone]
      exact hitems
  · exact hitems

end Outline

/-! ## The outline of a description -/

namespace Source

variable (src : Source)

/-- The outline of a value, where `outline` gives the descriptions of resources. -/
def outlineValue (outline : Term → Shape → List Term → Except ShapeError Outline)
    (shape : Shape) (trail : List Term) : Term → Except ShapeError Outline
  | .literal l => .ok (.plain (src.literal shape l))
  | resource =>
    if resource ∈ trail then .ok (.reference resource (src.reference shape resource))
    else if shape.isInlineable ∧ shape.fields.isEmpty then
      .ok (.plain (.string (src.idText resource)))
    else outline resource shape trail

/-- The outline of the values of a field. -/
def outlineField (outline : Term → Shape → List Term → Except ShapeError Outline)
    (trail : List Term) (field : Field) (targets : List Term) : Except ShapeError Outline :=
  if field.shape.isTagged ∧ targets.all (·.language.isSome) then
    .ok (.plain (taggedValues field targets))
  else (targets.mapM (src.outlineValue outline field.shape trail)).map (Outline.compact field)

/-- The members of a description for the fields of a table. -/
def outlineMembers (outline : Term → Shape → List Term → Except ShapeError Outline)
    (resource : Term) (trail : List Term) :
    List (String × Field) → Except ShapeError (List (String × Outline))
  | [] => .ok []
  | (name, field) :: entries => do
    let targets := src.follow resource field
    if targets.isEmpty then outlineMembers outline resource trail entries
    else
      let value ← src.outlineField outline trail field targets
      let members ← outlineMembers outline resource trail entries
      return (name, value) :: members

/-- The member for the identifier of an object, if the object needs one. -/
def outlineId (resource : Term) (members : List (String × Outline)) : List (String × Outline) :=
  if resource.isIri ∨ resource ∈ Outline.memberReferences members then
    [(src.name Keyword.id, .plain (.string (src.idText resource)))]
  else []

/-- The outline of an object. -/
def outlineObject (resource : Term) (members : List (String × Outline)) : Outline :=
  .description resource (src.outlineId resource members ++ members)

/-- The outline of a description, down to a number of levels. -/
def outline : Nat → Term → Shape → List Term → Except ShapeError Outline
  | 0, resource, _, _ => .ok (src.outlineObject resource [])
  | levels + 1, resource, shape, trail => do
    let aliases ← Aliases.ofShape shape src.keywords
    let members ←
      src.outlineMembers (outline levels) resource (resource :: trail) aliases.entries
    return src.outlineObject resource members

end Source

/-! ## Descriptions are written outlines -/

variable {src : Source} {shape : Shape} {trail : List Term} {r : Term}
variable {d : Term → Shape → List Term → Except ShapeError Written}
variable {o : Term → Shape → List Term → Except ShapeError Outline}

theorem mapM_map {α β γ ε : Type} {f : α → Except ε β} {g : β → γ} {xs : List α} :
    xs.mapM (fun x => (f x).map g) = (xs.mapM f).map (List.map g) := by
  induction xs with
  | nil => rfl
  | cons x xs ih =>
    rw [List.mapM_cons, List.mapM_cons, ih]
    cases f x with
    | error e => rfl
    | ok y => cases xs.mapM f <;> rfl

theorem value_eq_outline (h : ∀ v, d v shape trail = (o v shape trail).map Outline.written)
    (v : Term) :
    src.value d shape trail v = (src.outlineValue o shape trail v).map Outline.written := by
  cases v with
  | literal l => rfl
  | iri _ | blankNode _ =>
    unfold Source.value Source.outlineValue
    simp only
    split
    · rfl
    · split
      · rfl
      · exact h _

theorem fieldValue_eq_outline
    (h : ∀ v shape, d v shape trail = (o v shape trail).map Outline.written) (f : Field)
    (targets : List Term) :
    src.fieldValue d trail f targets =
      (src.outlineField o trail f targets).map Outline.written := by
  unfold Source.fieldValue Source.outlineField
  split
  · rfl
  · have hvalues : targets.mapM (src.value d f.shape trail) =
        (targets.mapM (src.outlineValue o f.shape trail)).map (List.map Outline.written) := by
      rw [← mapM_map]
      exact mapM_congr fun v _ => value_eq_outline (fun v => h v f.shape) v
    rw [hvalues]
    cases targets.mapM (src.outlineValue o f.shape trail) with
    | error e => rfl
    | ok values => exact congrArg Except.ok (Outline.written_compact f values).symm

theorem fieldMembers_eq_outline
    (h : ∀ v shape, d v shape trail = (o v shape trail).map Outline.written)
    (entries : List (String × Field)) :
    src.fieldMembers d r trail entries = (src.outlineMembers o r trail entries).map
      fun members => (Outline.memberJsons members, Outline.memberReferences members) := by
  induction entries with
  | nil => rfl
  | cons e entries ih =>
    obtain ⟨name, f⟩ := e
    unfold Source.fieldMembers Source.outlineMembers
    change (if (src.follow r f).isEmpty = true then _ else _) = _
    by_cases hempty : (src.follow r f).isEmpty = true
    · simp only [if_pos hempty]
      exact ih
    · simp only [if_neg hempty]
      show (src.fieldValue d trail f (src.follow r f) >>= _) = _
      rw [fieldValue_eq_outline h, ih]
      cases src.outlineField o trail f (src.follow r f) with
      | error e => rfl
      | ok value => cases src.outlineMembers o r trail entries <;> rfl

/-- A field of the table has no values and no member, or a member for all of its values. -/
theorem outlineMembers_cons {name : String} {f : Field} {entries : List (String × Field)}
    {members : List (String × Outline)}
    (h : src.outlineMembers o r trail ((name, f) :: entries) = .ok members) :
    src.outlineMembers o r trail entries = .ok members ∨
      ∃ value rest, src.outlineField o trail f (src.follow r f) = .ok value ∧
        src.outlineMembers o r trail entries = .ok rest ∧ members = (name, value) :: rest := by
  unfold Source.outlineMembers at h
  simp only at h
  split at h
  · exact Or.inl h
  · obtain ⟨value, hv, h⟩ := ok_of_bind h
    obtain ⟨rest, hrest, h⟩ := ok_of_bind h
    cases h
    exact Or.inr ⟨value, rest, hv, hrest, rfl⟩

/-- The members of an outline have names of the table, in its order. -/
theorem outlineMembers_names {entries : List (String × Field)}
    {members : List (String × Outline)} (h : src.outlineMembers o r trail entries = .ok members) :
    (members.map (·.1)).Sublist (entries.map (·.1)) := by
  induction entries generalizing members with
  | nil =>
    cases h
    exact .slnil
  | cons e entries ih =>
    rcases outlineMembers_cons h with h | ⟨value, rest, -, hrest, rfl⟩
    · exact (ih h).cons _
    · exact (ih hrest).cons_cons _

/-- An identifier refers to nothing. -/
theorem memberReferences_outlineId {members : List (String × Outline)} :
    Outline.memberReferences (src.outlineId r members ++ members) =
      Outline.memberReferences members := by
  refine OrderedSet.eq_of_mem_iff fun t => ?_
  rw [Outline.mem_memberReferences, Outline.mem_memberReferences]
  constructor
  · rintro ⟨m, hm, ht⟩
    rcases List.mem_append.1 hm with hm | hm
    · unfold Source.outlineId at hm
      split at hm
      · rw [List.mem_singleton.1 hm] at ht
        exact absurd ht OrderedSet.not_mem_empty
      · exact absurd hm List.not_mem_nil
    · exact ⟨m, hm, ht⟩
  · rintro ⟨m, hm, ht⟩
    exact ⟨m, List.mem_append_right _ hm, ht⟩

/-- An object is what its outline is written as. -/
theorem describedObject_eq_outline {a : Aliases} {members : List (String × Outline)}
    (ha : Aliases.ofShape shape src.keywords = .ok a) (hk : src.keywords.check = .ok ())
    (hn : (members.map (·.1)).Sublist (a.entries.map (·.1))) :
    src.describedObject r (Outline.memberJsons members) (Outline.memberReferences members) =
      (src.outlineObject r members).written := by
  rw [← Outline.map_fst_memberJsons] at hn
  rw [describedObject_eq ha hk hn]
  refine Prod.ext (congrArg Json.object ?_) ?_
  · rw [Outline.memberJsons_append]
    unfold Source.outlineId
    split <;> rfl
  · exact congrArg (OrderedSet.erase · r) memberReferences_outlineId.symm

/-- A description is what its outline is written as, together with the references that leave
it. -/
theorem describe_eq_outline (hk : src.keywords.check = .ok ()) (levels : Nat) (r : Term)
    (shape : Shape) (trail : List Term) :
    src.describe levels r shape trail =
      (src.outline levels r shape trail).map Outline.written := by
  induction levels generalizing r shape trail with
  | zero =>
    -- nothing is followed at the last level, so the table of a shape without fields will do
    have hnone : Aliases.ofShape (.and []) src.keywords = .ok ⟨[]⟩ := rfl
    have hnames : (([] : List (String × Outline)).map (·.1)).Sublist [] := .slnil
    exact congrArg Except.ok (describedObject_eq_outline hnone hk hnames)
  | succ levels ih =>
    unfold Source.describe Source.outline
    cases ha : Aliases.ofShape shape src.keywords with
    | error e => rfl
    | ok a =>
      show (src.fieldMembers (src.describe levels) r (r :: trail) a.entries >>= _) =
        (src.outlineMembers (src.outline levels) r (r :: trail) a.entries >>= _).map _
      rw [fieldMembers_eq_outline fun v shape => ih v shape (r :: trail)]
      cases hm : src.outlineMembers (src.outline levels) r (r :: trail) a.entries with
      | error e => rfl
      | ok members =>
        exact congrArg Except.ok (describedObject_eq_outline ha hk (outlineMembers_names hm))

end LinkedShapes.Description
