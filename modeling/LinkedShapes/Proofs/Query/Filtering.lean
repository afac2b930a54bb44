import LinkedShapes.Description.Operations
import LinkedShapes.Proofs.Description.Terms
import LinkedShapes.Proofs.Shape.Redaction
import LinkedShapes.Query.Parser

/-!
# What the filters of a query change

The filters of a query join its base shape behind a guard. Where descriptions are read and
written, the guard fails and the filters are gone; where resources are looked for, it holds and
the filters are there.

* `Shape.redact_filtered_conveying`, `Shape.redact_filtered_filtering`: both of this for any
  base shape and any filter.
* `Query.filters_plain`: filters are in normal form, have no guards and can be satisfied.
* `Query.parse_ok`: the shape of a query is its base with its filters.
* `Query.filters_only_filter`: all of it together.
-/

namespace LinkedShapes

open Vocabulary

/-- The context in which resources are looked for: any role, task and area, filtering. -/
def GuardContext.filtering : GuardContext :=
  (((silent.withStatus .role true).withStatus .task true).withStatus .area true).withValues
    .mode [Mode.filter]

/-! ## Filters behind their guard -/

namespace Shape

variable {s base filter test pass fail : Shape} {c : GuardContext}

theorem conj_nothing (h : Normal s) : conj [s, .and []] = s :=
  Connective.build_nothing_right (c := .all) h

theorem cond_pass : cond (.and []) pass fail = pass := rfl

theorem cond_nothing : cond (.or []) pass (.and []) = .and [] := by
  rcases cond_cases (.or []) pass (.and []) with ⟨h | h, heq⟩ | ⟨-, heq⟩ | ⟨⟨-, h, -⟩, -⟩
  · cases h
  · rw [heq, h]
  · exact heq
  · exact absurd rfl h

/-- A redacted filter, still behind the guard of filters. -/
theorem redact_implies_filter : redact c (implies filterMode [filter]) =
    cond (redact c filterMode) (redact c filter) (.and []) := by
  have hone : conj [redact c filter] = redact c filter :=
    Connective.build_singleton (c := .all) (normal_redact c filter)
  rw [implies, redact_cond, redact_conj, redact_conj, List.map_singleton, hone]
  rfl

/-- Descriptions do not know of filters. -/
theorem redact_filtered_conveying :
    redact .conveying (base.filtered filter) = redact .conveying base := by
  have hguard : redact .conveying filterMode = .or [] := by decide
  unfold filtered
  split
  · rfl
  · rw [redact_conj, List.map_cons, List.map_singleton, redact_implies_filter, hguard, cond_nothing,
      conj_nothing (normal_redact _ _)]

/-- Where resources are looked for, filters are there. -/
theorem redact_filtered_filtering : redact .filtering (base.filtered filter) =
    conj [redact .filtering base, redact .filtering filter] := by
  have hguard : redact .filtering filterMode = .and [] := by decide
  unfold filtered
  split
  · next h =>
    rw [isEmptyAnd_iff.1 h]
    exact (conj_nothing (normal_redact _ _)).symm
  · rw [redact_conj, List.map_cons, List.map_singleton, redact_implies_filter, hguard, cond_pass]

theorem drive_filtered : (base.filtered filter).drive = base.drive := by
  rw [drive, redact_filtered_conveying, drive]

end Shape

/-! ## Operations on descriptions -/

namespace Description

/-- Two shapes have the same descriptions: no operation tells one from the other, whatever labels
are drawn. -/
structure SameDescriptions (shape other : Shape) : Prop where
  decode : ∀ focus json k labels,
    decode focus shape json k labels = decode focus other json k labels
  encode : ∀ focus g options, encode focus shape g options = encode focus other g options
  validate : ∀ focus json k labels,
    validate focus shape json k labels = validate focus other json k labels
  scan : ∀ focus g k, scan focus shape g k = scan focus other g k

theorem sameDescriptions_of_drive {shape other : Shape} (h : shape.drive = other.drive) :
    SameDescriptions shape other := by
  have hprepare : ∀ k, prepare shape k = prepare other k := fun k => by
    unfold prepare
    rw [h]
  constructor
  · intro focus json k labels
    unfold Description.decode
    rw [hprepare]
  · intro focus g options
    unfold Description.encode
    rw [hprepare]
  · intro focus json k labels
    unfold Description.validate
    rw [hprepare]
  · intro focus g k
    unfold Description.scan
    rw [hprepare]

end Description

namespace Query

open Description Text

variable {s : Setting} {scope : Scope} {shape : Shape} {key text : String} {json : Json}
variable {operator : Operator} {L L' : Labels} {members : List (String × Json)} {q : Query}
variable {constraint : Shape} {found : List Shape}

/-! ## The filters of a query -/

/-- The members of the object that a text stands for. -/
def jsonMembers (text : String) : Except QueryError (List (String × Json)) :=
  match Json.parse? text with
  | some (.object members) => .ok members
  | some _ => .error (.malformed .notAnObject)
  | none => .error .json

/-- The members that a query stands for; the empty query has none. -/
def membersOf (text : String) : Except QueryError (List (String × Json)) :=
  if text = "" then .ok []
  else if startsEncoded text.toList then
    match Utf8.decode (Percent.decode text.toList) with
    | .ok decoded => jsonMembers (String.ofList decoded)
    | .error fault => .error (.malformed (.encoding fault))
  else if text.toList.head? = some '\x7b' then jsonMembers text
  else .ok (ofForm text.toList)

/-- What a query filters by: all of its filters together. -/
def filterOf (scope : Scope) (text : String) (labels : Labels) : Except QueryError Shape := do
  let members ← membersOf text
  let (found, _) ← (filters scope members).run labels
  return Shape.conj found

/-- The query of members has the base shape, with the filters among the members. -/
theorem ofMembers_ok (h : ofMembers scope members L = .ok q) :
    ∃ found L', filters scope members L = .ok (found, L') ∧
      q.shape = scope.base.filtered (Shape.conj found) := by
  obtain ⟨⟨found, L'⟩, hfound, h⟩ := ok_of_bind h
  obtain ⟨terms, -, h⟩ := ok_of_bind h
  obtain ⟨stats, -, h⟩ := ok_of_bind h
  obtain ⟨criteria, -, h⟩ := ok_of_bind h
  obtain ⟨offset, -, h⟩ := ok_of_bind h
  obtain ⟨limit, -, h⟩ := ok_of_bind h
  cases h
  exact ⟨found, L', hfound, rfl⟩

theorem ofJsonText_eq :
    ofJsonText scope text L = jsonMembers text >>= (ofMembers scope · L) := by
  unfold ofJsonText jsonMembers
  cases Json.parse? text with
  | none => rfl
  | some json => cases json <;> rfl

/-- A query is read from the members that it stands for. -/
theorem read_eq (hne : text ≠ "") :
    read scope text L = membersOf text >>= (ofMembers scope · L) := by
  unfold read membersOf
  rw [if_neg hne, if_neg hne]
  by_cases hencoded : startsEncoded text.toList = true
  · rw [if_pos hencoded, if_pos hencoded]
    cases Utf8.decode (Percent.decode text.toList) with
    | ok decoded => exact ofJsonText_eq
    | error fault => rfl
  · rw [if_neg hencoded, if_neg hencoded]
    by_cases hbrace : text.toList.head? = some '\x7b'
    · rw [if_pos hbrace, if_pos hbrace]
      exact ofJsonText_eq
    · rw [if_neg hbrace, if_neg hbrace]
      rfl

/-- The shape of a query is the base shape with what the query filters by. -/
theorem parse_ok {focus : String} {base : Shape} {k : Keywords}
    (h : parse focus text base k L = .ok q) :
    ∃ members found L', membersOf text = .ok members ∧
      filters (.of focus base k) members L = .ok (found, L') ∧
      q.shape = base.filtered (Shape.conj found) := by
  obtain ⟨-, -, h⟩ := ok_of_bind h
  by_cases hempty : text = ""
  · subst hempty
    cases h
    exact ⟨[], [], L, rfl, rfl, rfl⟩
  · rw [read_eq hempty] at h
    obtain ⟨members, hmembers, h⟩ := ok_of_bind h
    obtain ⟨found, L', hfound, hshape⟩ := ofMembers_ok h
    exact ⟨members, found, L', hmembers, hfound, hshape⟩

/-! ## Filters are plain -/

/-- A shape in normal form without guards that something satisfies. -/
structure Plain (s : Shape) : Prop where
  normal : s.Normal
  guardFree : ∀ g, .guard g ∉ s.within
  possible : s ≠ .or []

theorem plain_of_isLeaf (hl : shape.isLeaf = true) (hg : ∀ g, shape ≠ .guard g) : Plain shape where
  normal := .leaf hl
  guardFree := fun g hmem => by
    rw [Shape.within_of_isLeaf hl, List.mem_singleton] at hmem
    exact hg g hmem.symm
  possible := by
    rintro rfl
    cases hl

/-- The constraint of a filter looks at values, or it is left out. -/
theorem constraint_plain (h : Query.constraint s shape key json operator L = .ok (constraint, L')) :
    constraint.isEmptyAnd = true ∨ Plain constraint := by
  have htext : ∀ (make : String → Shape) (text : String),
      (∀ text, Plain (make text)) → (textConstraint make text).isEmptyAnd = true ∨
        Plain (textConstraint make text) := by
    intro make text hmake
    unfold textConstraint
    split
    · exact Or.inl rfl
    · exact Or.inr (hmake text)
  cases operator
  case pattern | like | stem =>
    obtain ⟨text, L₁, -, h⟩ := run_ok_of_bind h
    cases h
    exact htext _ text fun _ => plain_of_isLeaf rfl nofun
  all_goals
    obtain ⟨value, L₁, -, h⟩ := run_ok_of_bind h
    cases h
    exact Or.inr (plain_of_isLeaf rfl nofun)

/-- The steps to the values of a filter keep it plain. -/
theorem wrap_plain (steps : List Step) (h : Plain constraint) : Plain (wrap steps constraint) := by
  induction steps with
  | nil => exact h
  | cons step steps ih =>
    -- a constraint that something can satisfy does not close the field it stands behind
    have hfield : step.field.withShape (wrap steps constraint) =
        .field step.field.edge step.field.label (wrap steps constraint) := by
      rcases Shape.along_cases step.field.edge step.field.label (wrap steps constraint) with
        ⟨hnone, -⟩ | ⟨-, heq⟩
      · exact absurd hnone ih.possible
      · exact heq
    have hplain : Plain (step.field.withShape (wrap steps constraint)) := by
      rw [hfield]
      refine ⟨.field ih.possible ih.normal, fun g hmem => ?_, nofun⟩
      exact ih.guardFree g ((Shape.mem_within_field.1 hmem).resolve_left nofun)
    cases hlink : step.link with
    | none =>
      have hwrap : wrap (step :: steps) constraint =
          step.field.withShape (wrap steps constraint) := by
        rw [wrap, List.foldr_cons, hlink]
        rfl
      rw [hwrap]
      exact hplain
    | some iri =>
      have hwrap : wrap (step :: steps) constraint =
          .link iri (step.field.withShape (wrap steps constraint)) := by
        rw [wrap, List.foldr_cons, hlink]
        rfl
      rw [hwrap]
      refine ⟨.link hplain.normal, fun g hmem => ?_, nofun⟩
      exact hplain.guardFree g ((Shape.mem_within_link.1 hmem).resolve_left nofun)

/-- Filters are in normal form, have no guards and can be satisfied. -/
theorem filters_plain (h : filters scope members L = .ok (found, L')) :
    ∀ filter ∈ found, Plain filter := by
  induction members generalizing L found with
  | nil =>
    cases h
    exact fun _ hm => absurd hm List.not_mem_nil
  | cons member members ih =>
    obtain ⟨key, json⟩ := member
    rw [filters] at h
    split at h
    · exact ih h
    · obtain ⟨steps, L₁, -, h⟩ := run_ok_of_bind h
      obtain ⟨constraint, L₂, hconstraint, h⟩ := run_ok_of_bind h
      obtain ⟨others, L₃, hothers, h⟩ := run_ok_of_bind h
      cases h
      rcases constraint_plain hconstraint with hempty | hplain
      · rw [if_pos hempty]
        exact ih hothers
      · split
        · exact ih hothers
        · exact List.forall_mem_cons.2 ⟨wrap_plain _ hplain, ih hothers⟩

/-- Filters have nothing that redaction could take away. -/
theorem redact_filters {c : GuardContext} (h : ∀ filter ∈ found, Plain filter) :
    (Shape.conj found).redact c = Shape.conj found := by
  refine Shape.redact_of_normal (Shape.normal_build (c := .all) fun s hs => (h s hs).normal)
    fun g hmem => ?_
  obtain ⟨s, hs, hmem⟩ := Shape.mem_within_build (c := .all) rfl hmem
  exact absurd hmem ((h s hs).guardFree g)

/-- The filters of a query do not show in descriptions and are not lost where resources are looked
for. -/
theorem filters_only_filter {focus : String} {base : Shape} {k : Keywords}
    (h : parse focus text base k L = .ok q) :
    ∃ filter, filterOf (.of focus base k) text L = .ok filter ∧
      q.shape.drive = base.drive ∧ SameDescriptions q.shape base ∧
      q.shape.redact .filtering = Shape.conj [base.redact .filtering, filter] := by
  obtain ⟨members, found, L', hmembers, hfound, hshape⟩ := parse_ok h
  have hdrive : q.shape.drive = base.drive := by rw [hshape, Shape.drive_filtered]
  refine ⟨Shape.conj found, ?_, hdrive, sameDescriptions_of_drive hdrive, ?_⟩
  · show (membersOf text >>= fun members => filters (.of focus base k) members L >>=
      fun p => .ok (Shape.conj p.1)) = _
    rw [hmembers]
    show (filters (.of focus base k) members L >>= _) = _
    rw [hfound]
    rfl
  · rw [hshape, Shape.redact_filtered_filtering, redact_filters (filters_plain hfound)]

/-- A query over a base shape that is conditional on the guard of filters itself. -/
theorem filters_only_filter_alice :
    let base : Shape := .and [.field ⟨"urn:x:p", false⟩ none (.and []),
      .when Shape.filterMode (.minCount 1) (.maxCount 5)]
    let filter : Shape := .field ⟨"urn:x:p", false⟩ none (.like "alice" true)
    parse "urn:x:f" "~p=alice" base .none default = .ok (.all (base.filtered filter)) ∧
      (base.filtered filter).drive = .and [.field ⟨"urn:x:p", false⟩ none (.and []), .maxCount 5] ∧
      SameDescriptions (base.filtered filter) base ∧
      (base.filtered filter).redact .filtering =
        .and [.field ⟨"urn:x:p", false⟩ none (.and []), .minCount 1, filter] := by
  intro base filter
  have hparse : parse "urn:x:f" "~p=alice" base .none default =
      .ok (.all (base.filtered filter)) := by
    decide +kernel
  obtain ⟨found, hfound, hdrive, hsame, hredact⟩ := filters_only_filter hparse
  have hfilter : filterOf (.of "urn:x:f" base .none) "~p=alice" default = .ok filter := by
    decide +kernel
  rw [hfilter] at hfound
  cases hfound
  refine ⟨hparse, ?_, hsame, ?_⟩
  · exact hdrive.trans (by decide +kernel)
  · exact hredact.trans (by decide +kernel)

end Query

end LinkedShapes
