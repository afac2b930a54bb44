import LinkedShapes.Proofs.Description.Runs

/-!
# Verdicts of validation and of scans

What a run of validation or of a scan says about a group of values, part by part of the shape. A
proof about verdicts needs no more of either than the lemmas of this module: labels, traces and
messages stay behind them.

* `Validates.of_and`, `Validates.of_or`, `Validates.of_when`, `Validates.of_field`,
  `Validates.of_leaf`: validation, one lemma for each form of shapes.
* `Scans.of_and`, `Scans.of_or`, `Scans.of_when`, `Scans.of_field`, `Scans.of_leaf`: the same for
  scans.
-/

namespace LinkedShapes.Description

variable {s : Setting} {a : Aliases} {values : List Json} {terms found : List Term}
variable {shape inner : Shape} {shapes : List Shape} {name : String} {json : Json}
variable {L L' : Labels} {trace x : Trace} {edge : Edge} {label : Option String} {b : Bool}
variable {root : Json}

/-! ## Validation -/

/-- A run of validation with a verdict: is nothing wrong? The labels that are drawn are not written
in the description. -/
def Validates (s : Setting) (root : Json) (a : Aliases) (values : List Json) (terms : List Term)
    (shape : Shape) (verdict : Bool) : Prop :=
  ∃ L x L', L.FreshFor root ∧ validateGroup s a values terms shape L = .ok (x, L') ∧
    x.isEmpty = verdict

/-- A run of validation over what is written for a field at one of the values. -/
inductive ValidatesMember (s : Setting) (root : Json) (name : String) (shape : Shape) :
    Json → Bool → Prop
  | null : ValidatesMember s root name shape .null true
  | unstructured {json : Json} {issue : Trace} : json ≠ .null →
      memberValues name json = .error issue → ValidatesMember s root name shape json false
  | values {json : Json} {nested : List Json} {found : List Term} {issues : Trace} {a : Aliases}
      {L L' : Labels} {verdict : Bool} : json ≠ .null → memberValues name json = .ok nested →
      L.FreshFor root →
      termsOfGroup s shape ("/" ++ name) 0 [] [] nested L = .ok ((found, issues), L') →
      Aliases.ofShape shape s.keywords = .ok a → Validates s root a nested found shape verdict →
      ValidatesMember s root name shape json
        (issues.isEmpty && verdict && (unexpectedMembers s a shape nested).isEmpty)

/-- What validation makes of the values at a structured value. -/
theorem ValidatesMember.of_values {nested : List Json}
    (h : ValidatesMember s root name shape json b) (hnull : json ≠ .null)
    (hvalues : memberValues name json = .ok nested) :
    ∃ found issues a verdict L L', L.FreshFor root ∧
      termsOfGroup s shape ("/" ++ name) 0 [] [] nested L = .ok ((found, issues), L') ∧
      Aliases.ofShape shape s.keywords = .ok a ∧ Validates s root a nested found shape verdict ∧
      b = (issues.isEmpty && verdict && (unexpectedMembers s a shape nested).isEmpty) := by
  cases h with
  | null => exact absurd rfl hnull
  | unstructured _ herror =>
    rw [hvalues] at herror
    cases herror
  | values _ hvalues' hfresh hgroup ha hinner =>
    rw [hvalues] at hvalues'
    cases hvalues'
    exact ⟨_, _, _, _, _, _, hfresh, hgroup, ha, hinner, rfl⟩

/-- Nothing is wrong with null. -/
theorem ValidatesMember.eq_true (h : ValidatesMember s root name shape .null b) : b = true := by
  cases h with
  | null => rfl
  | unstructured hnull _ | values hnull _ _ _ _ _ => exact absurd rfl hnull

/-- The step of validation along a field, at one of the values. -/
def memberStep (s : Setting) (name : String) (shape : Shape) (trace : Trace) (json : Json) :
    Validating Trace :=
  match json with
  | .null => pure trace
  | _ =>
    match memberValues name json with
    | .error issue => pure (trace.merge issue)
    | .ok nested => do
      let (found, issues) ← termsOfGroup s shape ("/" ++ name) 0 [] [] nested
      let aliases ← Aliases.ofShape shape s.keywords
      let inner ← validateGroup s aliases nested found shape
      let inner := (issues.merge inner).merge (unexpectedMembers s aliases shape nested)
      return trace.merge (.field name inner)

/-- At a value that is not null, the step goes on with what is written for the field. -/
theorem memberStep_of_ne_null (h : json ≠ .null) : memberStep s name shape trace json =
    match memberValues name json with
    | .error issue => pure (trace.merge issue)
    | .ok nested => do
      let (found, issues) ← termsOfGroup s shape ("/" ++ name) 0 [] [] nested
      let aliases ← Aliases.ofShape shape s.keywords
      let inner ← validateGroup s aliases nested found shape
      let inner := (issues.merge inner).merge (unexpectedMembers s aliases shape nested)
      return trace.merge (.field name inner) := by
  cases json <;> first | rfl | exact absurd rfl h

theorem validateGroup_field_eq : validateGroup s a values terms (.field edge label shape) =
    (liftM (fieldAlias a edge) : Validating String) >>= fun name =>
      values.foldlM (memberStep s name shape) .empty := by
  rw [validateGroup]
  rfl

theorem validateGroup_leaf_eq (hl : shape.isLeaf = true) :
    validateGroup s a values terms shape = liftM (shape.check s.focus terms) := by
  cases shape <;> first | rfl | cases hl

theorem validateGroup_field
    (h : validateGroup s a values terms (.field edge label shape) L = .ok (x, L')) :
    ∃ name, fieldAlias a edge = .ok name ∧
      values.foldlM (memberStep s name shape) .empty L = .ok (x, L') := by
  rw [validateGroup_field_eq] at h
  obtain ⟨name, L₁, hname, hfold⟩ := run_ok_of_bind h
  obtain ⟨halias, rfl⟩ := ok_of_run_lift hname
  exact ⟨name, halias, hfold⟩

theorem validateGroup_leaf (hl : shape.isLeaf = true)
    (h : validateGroup s a values terms shape L = .ok (x, L')) :
    shape.check s.focus terms = .ok x ∧ L' = L := by
  rw [validateGroup_leaf_eq hl] at h
  exact ok_of_run_lift h

theorem memberValues_error {issue : Trace} (h : memberValues name json = .error issue) :
    issue.Tidy ∧ issue.isEmpty = false := by
  unfold memberValues at h
  split at h
  · split at h <;> cases h
  · cases h
  · cases h
    exact ⟨Trace.tidy_ofIssues, Trace.isEmpty_issue⟩

/-- Verdicts over several traces that are merged into one. -/
structure Merged {α : Type} (start x : Trace) (xs : List α) (verdict : α → Bool → Prop) :
    Prop where
  tidy : x.Tidy
  clean : x.isEmpty = true → start.isEmpty = true ∧ ∀ y ∈ xs, verdict y true
  faulty : x.isEmpty = false → start.isEmpty = false ∨ ∃ y ∈ xs, verdict y false

theorem Merged.nil {α : Type} {verdict : α → Bool → Prop} (h : x.Tidy) :
    Merged x x [] verdict where
  tidy := h
  clean := fun hx => ⟨hx, fun _ hy => absurd hy List.not_mem_nil⟩
  faulty := Or.inl

/-- A trace merged in, in front of others. -/
theorem Merged.cons {α : Type} {verdict : α → Bool → Prop} {start next : Trace} {y : α}
    {ys : List α} {b : Bool} (hy : verdict y b)
    (hnext : next.isEmpty = true ↔ start.isEmpty = true ∧ b = true) (h : Merged next x ys verdict) :
    Merged start x (y :: ys) verdict where
  tidy := h.tidy
  clean := fun hx => by
    obtain ⟨hclean, hall⟩ := h.clean hx
    obtain ⟨hstart, rfl⟩ := hnext.1 hclean
    exact ⟨hstart, List.forall_mem_cons.2 ⟨hy, hall⟩⟩
  faulty := fun hx => by
    rcases h.faulty hx with hfault | ⟨z, hz, hv⟩
    · cases hstart : start.isEmpty with
      | false => exact Or.inl rfl
      | true =>
        cases b with
        | false => exact Or.inr ⟨y, List.mem_cons_self, hy⟩
        | true =>
          rw [hnext.2 ⟨hstart, rfl⟩] at hfault
          cases hfault
    · exact Or.inr ⟨z, List.mem_cons_of_mem _ hz, hv⟩

/-- Validation by a shape builds tidy traces, and labels are drawn forwards. -/
def Proper (s : Setting) (shape : Shape) : Prop :=
  ∀ a values terms L x L', validateGroup s a values terms shape L = .ok (x, L') →
    x.Tidy ∧ L.Leaves L'

theorem validateAll_merged (hs : trace.Tidy) (hfresh : L.FreshFor root)
    (hproper : ∀ shape ∈ shapes, Proper s shape)
    (h : validateAll s a values terms trace shapes L = .ok (x, L')) :
    Merged trace x shapes (Validates s root a values terms) ∧ L.Leaves L' := by
  induction shapes generalizing trace L with
  | nil =>
    rw [validateAll] at h
    cases h
    exact ⟨.nil hs, .refl _⟩
  | cons shape shapes ih =>
    rw [validateAll] at h
    obtain ⟨y, L₁, hy, h⟩ := run_ok_of_bind h
    rw [List.forall_mem_cons] at hproper
    obtain ⟨htidy, hle⟩ := hproper.1 _ _ _ _ _ _ hy
    obtain ⟨hmerged, hle'⟩ := ih (Trace.tidy_merge hs htidy) (hfresh.leaves hle) hproper.2 h
    exact ⟨.cons ⟨L, y, L₁, hfresh, hy, rfl⟩ (Trace.isEmpty_merge hs htidy) hmerged,
      hle.trans hle'⟩

/-- A step along a field, at a value whose values for the field are read and validated. -/
theorem memberStep_values {nested : List Json} {issues : Trace} {L₁ : Labels} (hs : trace.Tidy)
    (hnull : json ≠ .null) (hvalues : memberValues name json = .ok nested)
    (hfound : termsOfGroup s shape ("/" ++ name) 0 [] [] nested L = .ok ((found, issues), L₁))
    (ha : Aliases.ofShape shape s.keywords = .ok a)
    (hinner : validateGroup s a nested found shape L₁ = .ok (x, L')) (hx : x.Tidy) :
    ∃ t, memberStep s name shape trace json L = .ok (t, L') ∧ t.Tidy ∧
      (t.isEmpty = true ↔ trace.isEmpty = true ∧
        (issues.isEmpty && x.isEmpty && (unexpectedMembers s a shape nested).isEmpty) = true) := by
  have hissues : issues.Tidy := by
    obtain ⟨more, rfl, -⟩ := termsOfGroup_ok hfound
    exact Trace.tidy_ofIssues
  have hunexpected : (unexpectedMembers s a shape nested).Tidy := tidy_unexpectedMembers
  have hboth := Trace.tidy_merge hissues hx
  have hall : (Trace.field name
      ((issues.merge x).merge (unexpectedMembers s a shape nested))).Tidy :=
    Trace.tidy_field (Trace.tidy_merge hboth hunexpected)
  refine ⟨trace.merge (.field name ((issues.merge x).merge (unexpectedMembers s a shape nested))),
    ?_, Trace.tidy_merge hs hall, ?_⟩
  · rw [memberStep_of_ne_null hnull, hvalues]
    dsimp only
    rw [bind_of_ok hfound, bind_of_ok (lift_of_ok ha), bind_of_ok hinner]
    rfl
  · rw [Trace.isEmpty_merge hs hall, Trace.isEmpty_field, Trace.isEmpty_merge hboth hunexpected,
      Trace.isEmpty_merge hissues hx, Bool.and_eq_true, Bool.and_eq_true]

/-- A step along a field adds a verdict. -/
theorem memberStep_ok (hs : trace.Tidy) (hfresh : L.FreshFor root) (hproper : Proper s shape)
    (h : memberStep s name shape trace json L = .ok (x, L')) :
    ∃ b, ValidatesMember s root name shape json b ∧ x.Tidy ∧ L.Leaves L' ∧
      (x.isEmpty = true ↔ trace.isEmpty = true ∧ b = true) := by
  by_cases hnull : json = .null
  · subst hnull
    cases h
    exact ⟨true, .null, hs, .refl _, (and_iff_left rfl).symm⟩
  cases hvalues : memberValues name json with
  | error issue =>
    rw [memberStep_of_ne_null hnull, hvalues] at h
    cases h
    obtain ⟨htidy, hfault⟩ := memberValues_error hvalues
    refine ⟨false, .unstructured hnull hvalues, Trace.tidy_merge hs htidy, .refl _, ?_⟩
    rw [Trace.isEmpty_merge hs htidy, hfault]
  | ok nested =>
    have hrun := h
    simp only [memberStep_of_ne_null hnull, hvalues] at hrun
    obtain ⟨⟨found, issues⟩, L₁, hfound, hrun⟩ := run_ok_of_bind hrun
    obtain ⟨a, L₂, ha, hrun⟩ := run_ok_of_bind hrun
    obtain ⟨inner, L₃, hinner, hrun⟩ := run_ok_of_bind hrun
    cases hrun
    obtain ⟨htable, rfl⟩ := ok_of_run_lift ha
    have hgroup := leaves_of_group hfound
    obtain ⟨htidy, hle⟩ := hproper _ _ _ _ _ _ hinner
    -- the step is what its parts make of it, and there is only one outcome
    obtain ⟨t, ht, hall, hempty⟩ := memberStep_values hs hnull hvalues hfound htable hinner htidy
    rw [h] at ht
    cases ht
    exact ⟨_, .values hnull hvalues hfresh hfound htable
      ⟨_, _, _, hfresh.leaves hgroup, hinner, rfl⟩, hall, hgroup.trans hle, hempty⟩

theorem foldlM_memberStep (hs : trace.Tidy) (hfresh : L.FreshFor root) (hproper : Proper s shape)
    (h : values.foldlM (memberStep s name shape) trace L = .ok (x, L')) :
    Merged trace x values (ValidatesMember s root name shape) ∧ L.Leaves L' := by
  induction values generalizing trace L with
  | nil =>
    cases h
    exact ⟨.nil hs, .refl _⟩
  | cons json values ih =>
    rw [List.foldlM_cons] at h
    obtain ⟨next, L₁, hnext, h⟩ := run_ok_of_bind h
    obtain ⟨b, hverdict, htidy, hle, hempty⟩ := memberStep_ok hs hfresh hproper hnext
    obtain ⟨hmerged, hle'⟩ := ih htidy (hfresh.leaves hle) h
    exact ⟨.cons hverdict hempty hmerged, hle.trans hle'⟩

/-- Verdicts over several parts: without fault if none has one. -/
def AllOf {α : Type} (xs : List α) (verdict : α → Bool → Prop) (b : Bool) : Prop :=
  (b = true → ∀ x ∈ xs, verdict x true) ∧ (b = false → ∃ x ∈ xs, verdict x false)

/-- Verdicts over several parts: without fault if one is. -/
def AnyOf {α : Type} (xs : List α) (verdict : α → Bool → Prop) (b : Bool) : Prop :=
  (b = true → ∃ x ∈ xs, verdict x true) ∧ (b = false → ∀ x ∈ xs, verdict x false)

theorem Merged.allOf {α : Type} {xs : List α} {verdict : α → Bool → Prop}
    (h : Merged .empty x xs verdict) (hb : x.isEmpty = b) : AllOf xs verdict b := by
  subst hb
  exact ⟨fun hx => (h.clean hx).2, fun hx => (h.faulty hx).resolve_left nofun⟩

theorem validateAny_ok (hfresh : L.FreshFor root) (hproper : ∀ shape ∈ shapes, Proper s shape)
    (h : validateAny s a values terms shapes L = .ok (x, L')) :
    x.Tidy ∧ L.Leaves L' ∧ AnyOf shapes (Validates s root a values terms) x.isEmpty := by
  induction shapes generalizing L with
  | nil =>
    rw [validateAny] at h
    cases h
    refine ⟨Trace.tidy_ofIssues, .refl _, fun hx => ?_,
      fun _ _ hm => absurd hm List.not_mem_nil⟩
    rw [Trace.isEmpty_issue] at hx
    cases hx
  | cons shape shapes ih =>
    rw [validateAny] at h
    obtain ⟨y, L₁, hy, h⟩ := run_ok_of_bind h
    rw [List.forall_mem_cons] at hproper
    have hle := (hproper.1 _ _ _ _ _ _ hy).2
    cases hempty : y.isEmpty with
    | true =>
      rw [hempty, if_pos rfl] at h
      cases h
      refine ⟨Trace.tidy_empty, hle, fun _ => ?_, fun hx => nomatch hx⟩
      exact ⟨shape, List.mem_cons_self, L, y, _, hfresh, hy, hempty⟩
    | false =>
      rw [hempty, if_neg Bool.false_ne_true] at h
      obtain ⟨hx, hle', hsome, hnone⟩ := ih (hfresh.leaves hle) hproper.2 h
      refine ⟨hx, hle.trans hle', fun hclean => ?_, fun hfault => ?_⟩
      · obtain ⟨other, ho, hv⟩ := hsome hclean
        exact ⟨other, List.mem_cons_of_mem _ ho, hv⟩
      · exact List.forall_mem_cons.2 ⟨⟨L, y, L₁, hfresh, hy, hempty⟩, hnone hfault⟩

/-- Validation builds tidy traces and draws labels forwards. -/
theorem proper (shape : Shape) : Proper s shape := by
  intro a values terms L x L' h
  induction shape using Shape.induct generalizing a values terms L x L' with
  | and shapes ih =>
    rw [validateGroup] at h
    obtain ⟨hmerged, hle⟩ := validateAll_merged Trace.tidy_empty (Labels.freshFor_null _) ih h
    exact ⟨hmerged.tidy, hle⟩
  | or shapes ih =>
    rw [validateGroup] at h
    obtain ⟨htidy, hle, -⟩ := validateAny_ok (Labels.freshFor_null _) ih h
    exact ⟨htidy, hle⟩
  | when test pass fail iht ihp ihf =>
    rw [validateGroup] at h
    obtain ⟨y, L₁, hy, h⟩ := run_ok_of_bind h
    have hle := (iht _ _ _ _ _ _ hy).2
    split at h
    · obtain ⟨htidy, hle'⟩ := ihp _ _ _ _ _ _ h
      exact ⟨htidy, hle.trans hle'⟩
    · obtain ⟨htidy, hle'⟩ := ihf _ _ _ _ _ _ h
      exact ⟨htidy, hle.trans hle'⟩
  | field edge label inner ih =>
    obtain ⟨name, -, h⟩ := validateGroup_field h
    obtain ⟨hmerged, hle⟩ := foldlM_memberStep Trace.tidy_empty (Labels.freshFor_null _) ih h
    exact ⟨hmerged.tidy, hle⟩
  | link iri inner ih =>
    rw [validateGroup_link] at h
    exact ih _ _ _ _ _ _ h
  | leaf shape hl =>
    obtain ⟨hcheck, rfl⟩ := validateGroup_leaf hl h
    exact ⟨Shape.tidy_check hcheck, .refl _⟩

theorem nameOf?_of_fieldAlias (h : fieldAlias a edge = .ok name) : a.nameOf? edge = some name := by
  unfold fieldAlias at h
  split at h
  · next hname =>
    cases h
    exact hname
  · cases h

namespace Validates

theorem of_and (h : Validates s root a values terms (.and shapes) b) :
    AllOf shapes (Validates s root a values terms) b := by
  obtain ⟨L, x, L', hfresh, h, hb⟩ := h
  rw [validateGroup] at h
  exact (validateAll_merged Trace.tidy_empty hfresh (fun shape _ => proper shape) h).1.allOf hb

theorem of_or (h : Validates s root a values terms (.or shapes) b) :
    AnyOf shapes (Validates s root a values terms) b := by
  obtain ⟨L, x, L', hfresh, h, rfl⟩ := h
  rw [validateGroup] at h
  exact (validateAny_ok hfresh (fun shape _ => proper shape) h).2.2

theorem of_when {test pass fail : Shape}
    (h : Validates s root a values terms (.when test pass fail) b) :
    ∃ c, Validates s root a values terms test c ∧
      Validates s root a values terms (if c = true then pass else fail) b := by
  obtain ⟨L, x, L', hfresh, h, hb⟩ := h
  rw [validateGroup] at h
  obtain ⟨y, L₁, hy, h⟩ := run_ok_of_bind h
  have hle := (proper test _ _ _ _ _ _ hy).2
  refine ⟨y.isEmpty, ⟨L, y, L₁, hfresh, hy, rfl⟩, L₁, x, L', hfresh.leaves hle, ?_, hb⟩
  split at h
  · next hc => rwa [if_pos hc]
  · next hc => rwa [if_neg hc]

theorem of_link {iri : String} (h : Validates s root a values terms (.link iri shape) b) :
    Validates s root a values terms shape b := by
  obtain ⟨L, x, L', hfresh, h, hb⟩ := h
  rw [validateGroup_link] at h
  exact ⟨L, x, L', hfresh, h, hb⟩

theorem of_field (h : Validates s root a values terms (.field edge label shape) b) :
    ∃ name, fieldAlias a edge = .ok name ∧ AllOf values (ValidatesMember s root name shape) b := by
  obtain ⟨L, x, L', hfresh, h, hb⟩ := h
  obtain ⟨name, hname, h⟩ := validateGroup_field h
  exact ⟨name, hname, (foldlM_memberStep Trace.tidy_empty hfresh (proper shape) h).1.allOf hb⟩

theorem of_leaf (hl : shape.isLeaf = true) (h : Validates s root a values terms shape b) :
    ∃ x, shape.check s.focus terms = .ok x ∧ x.isEmpty = b := by
  obtain ⟨L, x, L', -, h, hb⟩ := h
  exact ⟨x, (validateGroup_leaf hl h).1, hb⟩

/-- What holds of a level holds of all that it demands. -/
theorem of_demanded {part : Shape} (h : Validates s root a values terms shape true)
    (hp : part ∈ shape.demanded) : Validates s root a values terms part true := by
  induction shape using Shape.induct with
  | and shapes ih =>
    obtain ⟨inner, hi, hp⟩ := Shape.mem_demandedOfAll.1 hp
    exact ih inner hi (h.of_and.1 rfl inner hi) hp
  | or _ _ | when _ _ _ _ _ _ => exact absurd hp List.not_mem_nil
  | field edge label inner _ =>
    rw [List.mem_singleton.1 hp]
    exact h
  | link iri inner ih => exact ih h.of_link hp
  | leaf inner hl =>
    rw [Shape.demanded_of_isLeaf hl] at hp
    rw [List.mem_singleton.1 hp]
    exact h

end Validates

/-! ## Scans -/

section Scans

variable {g : Graph} {report : Report} {reports : List Report}

/-- A scan with a verdict: is nothing wrong? -/
def Scans (s : Setting) (g : Graph) (a : Aliases) (terms : List Term) (shape : Shape)
    (verdict : Bool) : Prop :=
  ∃ report, scanGroup s g a terms shape = .ok report ∧ report.trace.isEmpty = verdict

/-- The ends of the edges of a kind that start from a term. -/
def ends (g : Graph) (edge : Edge) (t : Term) : List Term :=
  ((g.edges t edge.iri edge.inverse).map (·.target edge.inverse)).eraseDups

/-- A scan along a field, from one of the terms. -/
def ScansMember (s : Setting) (g : Graph) (edge : Edge) (shape : Shape) (t : Term)
    (verdict : Bool) : Prop :=
  ∃ a, Aliases.ofShape shape s.keywords = .ok a ∧ Scans s g a (ends g edge t) shape verdict

/-- The step of a scan along a field: the edges of a term, and what the scan of their ends finds. -/
def fieldStep (s : Setting) (g : Graph) (name : String) (edge : Edge) (shape : Shape)
    (report : Report) (source : Term) : Except ShapeError Report := do
  let edges := g.edges source edge.iri edge.inverse
  let targets := (edges.map (·.target edge.inverse)).eraseDups
  let nested ← scanGroup s g (← Aliases.ofShape shape s.keywords) targets shape
  return report.merge ⟨.field name nested.trace, (Graph.ofList edges).merge nested.triples⟩

/-- A step scans the ends of the edges of a term, under the table of the level behind them. -/
theorem fieldStep_ok {start next : Report} {t : Term}
    (h : fieldStep s g name edge shape start t = .ok next) :
    ∃ a nested, Aliases.ofShape shape s.keywords = .ok a ∧
      scanGroup s g a (ends g edge t) shape = .ok nested ∧
      next = start.merge ⟨.field name nested.trace,
        (Graph.ofList (g.edges t edge.iri edge.inverse)).merge nested.triples⟩ := by
  unfold fieldStep at h
  obtain ⟨a, ha, h⟩ := ok_of_bind h
  obtain ⟨nested, hnested, h⟩ := ok_of_bind h
  cases h
  exact ⟨a, nested, ha, hnested, rfl⟩

theorem scanGroup_field (h : scanGroup s g a terms (.field edge label shape) = .ok report) :
    ∃ name, fieldAlias a edge = .ok name ∧
      terms.foldlM (fieldStep s g name edge shape) .empty = .ok report := by
  rw [scanGroup] at h
  exact ok_of_bind h

/-- The reports on a list of shapes are those on each of them. -/
theorem scanAll_mem (h : scanAll s g a terms shapes = .ok reports) (hr : report ∈ reports) :
    ∃ inner ∈ shapes, scanGroup s g a terms inner = .ok report := by
  induction shapes generalizing reports with
  | nil =>
    rw [scanAll] at h
    cases h
    exact absurd hr List.not_mem_nil
  | cons inner shapes ih =>
    rw [scanAll] at h
    obtain ⟨first, hfirst, h⟩ := ok_of_bind h
    obtain ⟨rest, hrest, h⟩ := ok_of_bind h
    cases h
    rcases List.mem_cons.1 hr with rfl | hr
    · exact ⟨inner, List.mem_cons_self, hfirst⟩
    · obtain ⟨other, ho, hscan⟩ := ih hrest hr
      exact ⟨other, List.mem_cons_of_mem _ ho, hscan⟩

/-- There is a report on each shape of a list. -/
theorem scanAll_of_mem (h : scanAll s g a terms shapes = .ok reports) (hs : shape ∈ shapes) :
    ∃ report ∈ reports, scanGroup s g a terms shape = .ok report := by
  induction shapes generalizing reports with
  | nil => exact absurd hs List.not_mem_nil
  | cons first shapes ih =>
    rw [scanAll] at h
    obtain ⟨report, hfirst, h⟩ := ok_of_bind h
    obtain ⟨rest, hrest, h⟩ := ok_of_bind h
    cases h
    rcases List.mem_cons.1 hs with rfl | hs
    · exact ⟨report, List.mem_cons_self, hfirst⟩
    · obtain ⟨other, ho, hscan⟩ := ih hrest hs
      exact ⟨other, List.mem_cons_of_mem _ ho, hscan⟩

theorem scanGroup_leaf (hl : shape.isLeaf = true)
    (h : scanGroup s g a terms shape = .ok report) :
    ∃ trace, shape.check s.focus terms = .ok trace ∧ report = ⟨trace, .empty⟩ := by
  have hcheck : ∀ m : Except ShapeError Trace,
      (do return ⟨← m, .empty⟩ : Except ShapeError Report) = .ok report →
        ∃ trace, m = .ok trace ∧ report = ⟨trace, .empty⟩ := by
    intro m hm
    obtain ⟨trace, htrace, hm⟩ := ok_of_bind hm
    cases hm
    exact ⟨trace, htrace, rfl⟩
  cases shape <;> first | exact hcheck _ h | cases hl

theorem trace_foldl_merge {start : Report} : (reports.foldl .merge start).trace =
    (reports.map (·.trace)).foldl Trace.merge start.trace := by
  induction reports generalizing start with
  | nil => rfl
  | cons report reports ih =>
    rw [List.foldl_cons, ih]
    rfl

/-- The trace of an alternative is empty if one of the traces is. -/
theorem isEmpty_anyOf : (Report.anyOf reports).trace.Tidy ∧
    ((Report.anyOf reports).trace.isEmpty = true ↔
      ∃ report ∈ reports, report.trace.isEmpty = true) := by
  unfold Report.anyOf
  cases hm : reports.filter (·.trace.isEmpty) with
  | nil =>
    refine ⟨Trace.tidy_ofIssues, iff_of_false ?_ ?_⟩
    · show ¬ (Trace.issue _).isEmpty = true
      rw [Trace.isEmpty_issue]
      exact Bool.false_ne_true
    · rintro ⟨report, hr, hempty⟩
      exact List.filter_eq_nil_iff.1 hm report hr hempty
  | cons report rest =>
    have hr : report ∈ reports.filter (·.trace.isEmpty) := hm ▸ List.mem_cons_self
    exact ⟨Trace.tidy_empty, iff_of_true rfl ⟨report, List.mem_filter.1 hr⟩⟩

theorem foldlM_fieldStep {start : Report} (hs : start.trace.Tidy)
    (htidy : ∀ a terms report, scanGroup s g a terms shape = .ok report → report.trace.Tidy)
    (h : terms.foldlM (fieldStep s g name edge shape) start = .ok report) :
    Merged start.trace report.trace terms (ScansMember s g edge shape) := by
  induction terms generalizing start with
  | nil =>
    cases h
    exact .nil hs
  | cons t terms ih =>
    rw [List.foldlM_cons] at h
    obtain ⟨next, hnext, h⟩ := ok_of_bind h
    obtain ⟨a, nested, ha, hnested, rfl⟩ := fieldStep_ok hnext
    have hfield : (Trace.field name nested.trace).Tidy := Trace.tidy_field (htidy _ _ _ hnested)
    refine .cons ⟨a, ha, nested, hnested, rfl⟩ ?_ (ih (Trace.tidy_merge hs hfield) h)
    show (start.trace.merge (.field name nested.trace)).isEmpty = true ↔ _
    rw [Trace.isEmpty_merge hs hfield, Trace.isEmpty_field]

/-- The traces of scans are tidy. -/
theorem tidy_scanGroup (h : scanGroup s g a terms shape = .ok report) : report.trace.Tidy := by
  induction shape using Shape.induct generalizing a terms report with
  | and shapes ih =>
    rw [scanGroup] at h
    obtain ⟨reports, hr, h⟩ := ok_of_bind h
    cases h
    rw [trace_foldl_merge]
    refine (Trace.foldl_merge_spec Trace.tidy_empty fun trace ht => ?_).1
    obtain ⟨report, hmem, rfl⟩ := List.mem_map.1 ht
    obtain ⟨inner, hi, hscan⟩ := scanAll_mem hr hmem
    exact ih inner hi hscan
  | or shapes ih =>
    rw [scanGroup] at h
    obtain ⟨reports, hr, h⟩ := ok_of_bind h
    cases h
    exact isEmpty_anyOf.1
  | when test pass fail _ ihp ihf =>
    rw [scanGroup] at h
    obtain ⟨tested, -, h⟩ := ok_of_bind h
    split at h
    · exact ihp h
    · exact ihf h
  | field edge label inner ih =>
    obtain ⟨name, -, h⟩ := scanGroup_field h
    exact (foldlM_fieldStep Trace.tidy_empty (fun _ _ _ => ih) h).tidy
  | link iri inner ih =>
    rw [scanGroup_link] at h
    exact ih h
  | leaf shape hl =>
    obtain ⟨trace, hcheck, rfl⟩ := scanGroup_leaf hl h
    exact Shape.tidy_check hcheck

theorem tidy_scanAll (h : scanAll s g a terms shapes = .ok reports) :
    ∀ trace ∈ reports.map (·.trace), trace.Tidy := by
  intro trace ht
  obtain ⟨report, hmem, rfl⟩ := List.mem_map.1 ht
  obtain ⟨inner, -, hscan⟩ := scanAll_mem h hmem
  exact tidy_scanGroup hscan

namespace Scans

theorem of_and (h : Scans s g a terms (.and shapes) b) : AllOf shapes (Scans s g a terms) b := by
  obtain ⟨report, h, rfl⟩ := h
  rw [scanGroup] at h
  obtain ⟨reports, hr, h⟩ := ok_of_bind h
  cases h
  have hempty := (Trace.foldl_merge_spec Trace.tidy_empty (tidy_scanAll hr)).2
  rw [trace_foldl_merge]
  constructor
  · intro hclean inner hi
    obtain ⟨report, hmem, hscan⟩ := scanAll_of_mem hr hi
    exact ⟨report, hscan, (hempty.1 hclean).2 _ (List.mem_map_of_mem hmem)⟩
  · intro hfault
    by_contra hnone
    have hall : ∀ trace ∈ reports.map (·.trace), trace.isEmpty = true := by
      intro trace ht
      obtain ⟨report, hmem, rfl⟩ := List.mem_map.1 ht
      obtain ⟨inner, hi, hscan⟩ := scanAll_mem hr hmem
      by_contra hne
      exact hnone ⟨inner, hi, report, hscan, by simpa using hne⟩
    have hclean := hempty.2 ⟨rfl, hall⟩
    exact Bool.false_ne_true (hfault.symm.trans hclean)

theorem of_or (h : Scans s g a terms (.or shapes) b) : AnyOf shapes (Scans s g a terms) b := by
  obtain ⟨report, h, rfl⟩ := h
  rw [scanGroup] at h
  obtain ⟨reports, hr, h⟩ := ok_of_bind h
  cases h
  constructor
  · intro hclean
    obtain ⟨report, hmem, hempty⟩ := isEmpty_anyOf.2.1 hclean
    obtain ⟨inner, hi, hscan⟩ := scanAll_mem hr hmem
    exact ⟨inner, hi, report, hscan, hempty⟩
  · intro hfault inner hi
    obtain ⟨report, hmem, hscan⟩ := scanAll_of_mem hr hi
    refine ⟨report, hscan, ?_⟩
    by_contra hne
    have hclean := isEmpty_anyOf.2.2 ⟨report, hmem, by simpa using hne⟩
    exact Bool.false_ne_true (hfault.symm.trans hclean)

theorem of_when {test pass fail : Shape} (h : Scans s g a terms (.when test pass fail) b) :
    ∃ c, Scans s g a terms test c ∧ Scans s g a terms (if c = true then pass else fail) b := by
  obtain ⟨report, h, hb⟩ := h
  rw [scanGroup] at h
  obtain ⟨tested, htest, h⟩ := ok_of_bind h
  refine ⟨tested.trace.isEmpty, ⟨tested, htest, rfl⟩, report, ?_, hb⟩
  split at h
  · next hc => rwa [if_pos hc]
  · next hc => rwa [if_neg hc]

theorem of_link {iri : String} (h : Scans s g a terms (.link iri shape) b) :
    Scans s g a terms shape b := by
  obtain ⟨report, h, hb⟩ := h
  rw [scanGroup_link] at h
  exact ⟨report, h, hb⟩

theorem of_field (h : Scans s g a terms (.field edge label shape) b) :
    ∃ name, fieldAlias a edge = .ok name ∧ AllOf terms (ScansMember s g edge shape) b := by
  obtain ⟨report, h, hb⟩ := h
  obtain ⟨name, hname, h⟩ := scanGroup_field h
  exact ⟨name, hname,
    (foldlM_fieldStep Trace.tidy_empty (fun _ _ _ => tidy_scanGroup) h).allOf hb⟩

theorem of_leaf (hl : shape.isLeaf = true) (h : Scans s g a terms shape b) :
    ∃ x, shape.check s.focus terms = .ok x ∧ x.isEmpty = b := by
  obtain ⟨report, h, hb⟩ := h
  obtain ⟨trace, hcheck, rfl⟩ := scanGroup_leaf hl h
  exact ⟨trace, hcheck, hb⟩

/-- What holds of a level holds of all that it demands. -/
theorem of_demanded {part : Shape} (h : Scans s g a terms shape true)
    (hp : part ∈ shape.demanded) : Scans s g a terms part true := by
  induction shape using Shape.induct with
  | and shapes ih =>
    obtain ⟨inner, hi, hp⟩ := Shape.mem_demandedOfAll.1 hp
    exact ih inner hi (h.of_and.1 rfl inner hi) hp
  | or _ _ | when _ _ _ _ _ _ => exact absurd hp List.not_mem_nil
  | field edge label inner _ =>
    rw [List.mem_singleton.1 hp]
    exact h
  | link iri inner ih => exact ih h.of_link hp
  | leaf inner hl =>
    rw [Shape.demanded_of_isLeaf hl] at hp
    rw [List.mem_singleton.1 hp]
    exact h

end Scans

end Scans

end LinkedShapes.Description
