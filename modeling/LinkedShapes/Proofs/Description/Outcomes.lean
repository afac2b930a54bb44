import LinkedShapes.Proofs.Description.Scanning

/-!
# Outcomes of scans

A scan has an outcome if the shape has no defect: no guard is left, the patterns compile, and at
every level there is a table with a name for each field. The outcome is then told part by part,
the triples that are collected as well as the verdict.

* `scanGroup_ok`: a scan by a shape without defects has an outcome.
* `Scans.unique`: it has one verdict only.
* `Collects.and_iff`, `Collects.or_iff`, `Collects.when_iff`, `Collects.field_iff`: the triples that
  are collected, one lemma for each form of shapes.
* `built_scanGroup`: what is collected is a graph put together by the operations on graphs.
-/

namespace LinkedShapes

/-! ## Shapes without defects -/

namespace Shape

variable {shape inner : Shape} {k : Keywords} {a : Aliases}

/-- The table has a name for each field of a level, those in tests included. -/
def Named (a : Aliases) (shape : Shape) : Prop :=
  ∀ edge label inner, .field edge label inner ∈ shape.parts → ∃ name, a.nameOf? edge = some name

/-- Nothing in a shape keeps scans from their outcome, the names of its own level aside. -/
structure Sound (k : Keywords) (shape : Shape) : Prop where
  guards : ∀ g, .guard g ∉ shape.within
  patterns : ∀ expression flags, .pattern expression flags ∈ shape.within →
    ∃ p, Pattern.compile expression flags = .ok p
  tables : ∀ edge label inner, .field edge label inner ∈ shape.within →
    ∃ a, Aliases.ofShape inner k = .ok a ∧ Named a inner

theorem Named.mono (h : Named a shape) (hsub : inner.parts ⊆ shape.parts) : Named a inner :=
  fun edge label s hf => h edge label s (hsub hf)

theorem Sound.mono (h : Sound k shape) (hsub : inner.within ⊆ shape.within) : Sound k inner where
  guards := fun g hg => h.guards g (hsub hg)
  patterns := fun expression flags hp => h.patterns expression flags (hsub hp)
  tables := fun edge label s hf => h.tables edge label s (hsub hf)

/-- A table names all fields of a level if its tests look at none. -/
theorem named_of_fieldless (ha : Aliases.ofShape shape k = .ok a) (h : FieldlessTests shape) :
    Named a shape :=
  fun _ _ _ hf => Aliases.nameOf?_of_mem_fields ha (h.mem_fields hf)

/-- The constraints of a shape without defects have a verdict. -/
theorem Sound.check (h : Sound k shape) (focus : String) (terms : List Term) :
    ∃ trace, shape.check focus terms = .ok trace := by
  cases shape with
  | guard g => exact absurd (self_mem_within _) (h.guards g)
  | pattern expression flags =>
    obtain ⟨p, hp⟩ := h.patterns expression flags (self_mem_within _)
    exact ⟨_, by rw [Shape.check, hp]; rfl⟩
  | _ => exact ⟨_, rfl⟩

end Shape

namespace Description

variable {shape inner test pass fail : Shape} {shapes : List Shape} {a : Aliases}
variable {s : Setting} {g : Graph} {terms : List Term} {t : Triple} {report : Report}
variable {reports : List Report} {edge : Edge} {label : Option String} {b c : Bool}

/-! ## Scans have outcomes -/

theorem foldlM_ok {ε α β : Type} {f : β → α → Except ε β} {xs : List α} {start : β}
    (h : ∀ x ∈ xs, ∀ y, ∃ z, f y x = .ok z) : ∃ z, xs.foldlM f start = .ok z := by
  induction xs generalizing start with
  | nil => exact ⟨start, rfl⟩
  | cons x xs ih =>
    obtain ⟨hx, hxs⟩ := List.forall_mem_cons.1 h
    obtain ⟨next, hnext⟩ := hx start
    rw [List.foldlM_cons, hnext]
    exact ih hxs

theorem scanAll_ok (h : ∀ shape ∈ shapes, ∃ report, scanGroup s g a terms shape = .ok report) :
    ∃ reports, scanAll s g a terms shapes = .ok reports := by
  induction shapes with
  | nil => exact ⟨[], rfl⟩
  | cons shape shapes ih =>
    obtain ⟨hshape, hshapes⟩ := List.forall_mem_cons.1 h
    obtain ⟨report, hreport⟩ := hshape
    obtain ⟨reports, hreports⟩ := ih hshapes
    exact ⟨report :: reports, by rw [scanAll, hreport, hreports]; rfl⟩

theorem fieldStep_eq {name : String} {source : Term} {nested : Report}
    (ha : Aliases.ofShape inner s.keywords = .ok a)
    (h : scanGroup s g a (ends g edge source) inner = .ok nested) :
    fieldStep s g name edge inner report source = .ok (report.merge
      ⟨.field name nested.trace,
        (Graph.ofList (g.edges source edge.iri edge.inverse)).merge nested.triples⟩) := by
  unfold fieldStep
  unfold ends at h
  rw [ha]
  dsimp only [bind, Except.bind]
  rw [h]
  rfl

/-- A scan by a shape without defects has an outcome. -/
theorem scanGroup_ok (hs : shape.Sound s.keywords) (hn : shape.Named a) :
    ∃ report, scanGroup s g a terms shape = .ok report := by
  induction shape using Shape.induct generalizing a terms with
  | and shapes ih =>
    have hall : ∀ shape ∈ shapes, ∃ report, scanGroup s g a terms shape = .ok report :=
      fun shape hm => ih shape hm (hs.mono (Shape.ofLevel_and hm).within)
        (hn.mono (Shape.ofLevel_and hm).parts)
    obtain ⟨reports, hreports⟩ := scanAll_ok hall
    exact ⟨_, by rw [scanGroup, hreports]; rfl⟩
  | or shapes ih =>
    have hall : ∀ shape ∈ shapes, ∃ report, scanGroup s g a terms shape = .ok report :=
      fun shape hm => ih shape hm (hs.mono (Shape.ofLevel_or hm).within)
        (hn.mono (Shape.ofLevel_or hm).parts)
    obtain ⟨reports, hreports⟩ := scanAll_ok hall
    exact ⟨_, by rw [scanGroup, hreports]; rfl⟩
  | when test pass fail iht ihp ihf =>
    obtain ⟨ht, hp, hf⟩ := Shape.ofLevel_when test pass fail
    have htest : ∃ tested, scanGroup s g a terms test = .ok tested :=
      iht (hs.mono ht.within) (hn.mono ht.parts)
    obtain ⟨tested, htested⟩ := htest
    rw [scanGroup, htested]
    dsimp only [bind, Except.bind]
    split
    · exact ihp (hs.mono hp.within) (hn.mono hp.parts)
    · exact ihf (hs.mono hf.within) (hn.mono hf.parts)
  | field edge label inner ih =>
    obtain ⟨name, hname⟩ := hn edge label inner (List.mem_singleton_self _)
    -- the level below has a table of its own, whatever the edges lead to
    obtain ⟨table, htable, hnamed⟩ := hs.tables edge label inner (Shape.self_mem_within _)
    have hinner : inner.Sound s.keywords := hs.mono (List.subset_cons_self _ _)
    have hstep : ∀ source ∈ terms, ∀ report, ∃ next,
        fieldStep s g name edge inner report source = .ok next := by
      intro source _ report
      have hscan : ∃ nested, scanGroup s g table (ends g edge source) inner = .ok nested :=
        ih hinner hnamed
      obtain ⟨nested, hnested⟩ := hscan
      exact ⟨_, fieldStep_eq htable hnested⟩
    obtain ⟨report, hreport⟩ := foldlM_ok hstep
    refine ⟨report, ?_⟩
    rw [scanGroup, fieldAlias, hname]
    exact hreport
  | link iri inner ih =>
    rw [scanGroup_link]
    exact ih (hs.mono Shape.ofLevel_link.within) (hn.mono Shape.ofLevel_link.parts)
  | leaf shape hl =>
    obtain ⟨trace, htrace⟩ := hs.check s.focus terms
    refine ⟨⟨trace, .empty⟩, ?_⟩
    have hcheck : (do return ⟨← shape.check s.focus terms, .empty⟩ : Except ShapeError Report) =
        .ok ⟨trace, .empty⟩ := by
      rw [htrace]
      rfl
    cases shape <;> first | exact hcheck | cases hl

/-- A scan has one verdict only. -/
theorem Scans.unique (h : Scans s g a terms shape b) (h' : Scans s g a terms shape c) :
    b = c := by
  obtain ⟨report, hreport, rfl⟩ := h
  obtain ⟨other, hother, rfl⟩ := h'
  rw [hreport] at hother
  cases hother
  rfl

/-! ## Verdicts from those of the parts -/

namespace Scans

variable {d : Bool}

/-- A scan that has an outcome finds no fault unless it does so somewhere. -/
theorem of_ok (hok : ∃ report, scanGroup s g a terms shape = .ok report)
    (h : ¬ Scans s g a terms shape false) : Scans s g a terms shape true := by
  obtain ⟨report, hreport⟩ := hok
  refine ⟨report, hreport, ?_⟩
  by_contra hne
  exact h ⟨report, hreport, Bool.eq_false_iff.2 hne⟩

theorem and_true (hok : ∃ report, scanGroup s g a terms (.and shapes) = .ok report)
    (h : ∀ inner ∈ shapes, Scans s g a terms inner true) :
    Scans s g a terms (.and shapes) true := by
  refine of_ok hok fun hfault => ?_
  obtain ⟨inner, hi, hinner⟩ := hfault.of_and.2 rfl
  cases hinner.unique (h inner hi)

theorem or_true (hok : ∃ report, scanGroup s g a terms (.or shapes) = .ok report)
    (hi : inner ∈ shapes) (h : Scans s g a terms inner true) :
    Scans s g a terms (.or shapes) true := by
  refine of_ok hok fun hfault => ?_
  cases (hfault.of_or.2 rfl inner hi).unique h

theorem when (ht : Scans s g a terms test c)
    (h : Scans s g a terms (if c = true then pass else fail) b) :
    Scans s g a terms (.when test pass fail) b := by
  obtain ⟨tested, htest, rfl⟩ := ht
  obtain ⟨report, hreport, rfl⟩ := h
  refine ⟨report, ?_, rfl⟩
  rw [scanGroup, htest, ← hreport]
  dsimp only [bind, Except.bind]
  split <;> rfl

theorem field_true (hok : ∃ report, scanGroup s g a terms (.field edge label inner) = .ok report)
    (h : ∀ source ∈ terms, ∀ table, Aliases.ofShape inner s.keywords = .ok table →
      Scans s g table (ends g edge source) inner true) :
    Scans s g a terms (.field edge label inner) true := by
  refine of_ok hok fun hfault => ?_
  obtain ⟨name, -, -, hany⟩ := hfault.of_field
  obtain ⟨source, hs, table, htable, hinner⟩ := hany rfl
  cases hinner.unique (h source hs table htable)

end Scans

/-! ## Triples collected -/

/-- A triple that the scan of a group collects. -/
def Collects (s : Setting) (g : Graph) (a : Aliases) (terms : List Term) (shape : Shape)
    (t : Triple) : Prop :=
  ∃ report, scanGroup s g a terms shape = .ok report ∧ t ∈ report.triples.triples

theorem collects_iff (h : scanGroup s g a terms shape = .ok report) :
    Collects s g a terms shape t ↔ t ∈ report.triples.triples := by
  constructor
  · rintro ⟨other, hother, ht⟩
    rw [h] at hother
    cases hother
    exact ht
  · exact fun ht => ⟨report, h, ht⟩

theorem not_mem_emptyReport : t ∉ Report.empty.triples.triples := List.not_mem_nil

namespace Collects

theorem and_iff (hok : ∃ report, scanGroup s g a terms (.and shapes) = .ok report) :
    Collects s g a terms (.and shapes) t ↔
      ∃ inner ∈ shapes, Collects s g a terms inner t := by
  obtain ⟨report, h⟩ := hok
  rw [collects_iff h]
  rw [scanGroup] at h
  obtain ⟨reports, hr, h⟩ := ok_of_bind h
  cases h
  rw [mem_foldl_merge, or_iff_right not_mem_emptyReport]
  constructor
  · rintro ⟨report, hm, ht⟩
    obtain ⟨inner, hi, hinner⟩ := scanAll_mem hr hm
    exact ⟨inner, hi, report, hinner, ht⟩
  · rintro ⟨inner, hi, hinner⟩
    obtain ⟨report, hm, hreport⟩ := scanAll_of_mem hr hi
    exact ⟨report, hm, (collects_iff hreport).1 hinner⟩

theorem or_iff (hok : ∃ report, scanGroup s g a terms (.or shapes) = .ok report) :
    Collects s g a terms (.or shapes) t ↔
      ∃ inner ∈ shapes, Scans s g a terms inner true ∧ Collects s g a terms inner t := by
  obtain ⟨report, h⟩ := hok
  rw [collects_iff h]
  rw [scanGroup] at h
  obtain ⟨reports, hr, h⟩ := ok_of_bind h
  cases h
  rw [mem_anyOf]
  constructor
  · rintro ⟨report, hm, hempty, ht⟩
    obtain ⟨inner, hi, hinner⟩ := scanAll_mem hr hm
    exact ⟨inner, hi, ⟨report, hinner, hempty⟩, report, hinner, ht⟩
  · rintro ⟨inner, hi, hclean, hinner⟩
    obtain ⟨report, hm, hreport⟩ := scanAll_of_mem hr hi
    exact ⟨report, hm, Scans.unique ⟨report, hreport, rfl⟩ hclean,
      (collects_iff hreport).1 hinner⟩

theorem when_iff (ht : Scans s g a terms test c) :
    Collects s g a terms (.when test pass fail) t ↔
      Collects s g a terms (if c = true then pass else fail) t := by
  obtain ⟨tested, htest, rfl⟩ := ht
  have hbranch : scanGroup s g a terms (.when test pass fail) =
      scanGroup s g a terms (if tested.trace.isEmpty = true then pass else fail) := by
    rw [scanGroup, htest]
    dsimp only [bind, Except.bind]
    split <;> rfl
  unfold Collects
  rw [hbranch]

theorem field_iff (hok : ∃ report, scanGroup s g a terms (.field edge label inner) = .ok report) :
    Collects s g a terms (.field edge label inner) t ↔
      ∃ source ∈ terms, t ∈ g.edges source edge.iri edge.inverse ∨ ∃ table,
        Aliases.ofShape inner s.keywords = .ok table ∧
        Collects s g table (ends g edge source) inner t := by
  obtain ⟨report, h⟩ := hok
  rw [collects_iff h]
  obtain ⟨name, -, h⟩ := scanGroup_field h
  rw [mem_fieldSteps h, or_iff_right not_mem_emptyReport]
  simp only [Collects, exists_and_left]

end Collects

theorem built_merged {start : Report} (hs : start.triples.Built)
    (h : ∀ report ∈ reports, report.triples.Built) :
    (reports.foldl .merge start).triples.Built := by
  induction reports generalizing start with
  | nil => exact hs
  | cons report reports ih =>
    obtain ⟨hreport, hreports⟩ := List.forall_mem_cons.1 h
    exact ih (.merge hs hreport) hreports

theorem built_anyOf (h : ∀ report ∈ reports, report.triples.Built) :
    (Report.anyOf reports).triples.Built := by
  have hmatched : ∀ report ∈ reports.filter (·.trace.isEmpty), report.triples.Built :=
    fun report hm => h report (List.mem_of_mem_filter hm)
  simp only [Report.anyOf]
  split
  · exact .empty
  · exact List.foldlRecOn _ _ .empty fun graph hgraph report hm =>
      .merge hgraph (hmatched report hm)

theorem built_fieldSteps {name : String} {start : Report} (hs : start.triples.Built)
    (hinner : ∀ a terms report, scanGroup s g a terms inner = .ok report → report.triples.Built)
    (h : terms.foldlM (fieldStep s g name edge inner) start = .ok report) :
    report.triples.Built := by
  induction terms generalizing start with
  | nil =>
    cases h
    exact hs
  | cons source terms ih =>
    rw [List.foldlM_cons] at h
    obtain ⟨next, hnext, h⟩ := ok_of_bind h
    obtain ⟨table, nested, -, hnested, rfl⟩ := fieldStep_ok hnext
    exact ih (.merge hs (.merge (.ofList _) (hinner _ _ _ hnested))) h

theorem built_scanAll
    (h : ∀ inner ∈ shapes, ∀ report, scanGroup s g a terms inner = .ok report →
      report.triples.Built)
    (hr : scanAll s g a terms shapes = .ok reports) : ∀ report ∈ reports, report.triples.Built := by
  intro report hm
  obtain ⟨inner, hi, hinner⟩ := scanAll_mem hr hm
  exact h inner hi report hinner

/-- What a scan collects is put together by the operations on graphs. -/
theorem built_scanGroup (h : scanGroup s g a terms shape = .ok report) :
    report.triples.Built := by
  induction shape using Shape.induct generalizing a terms report with
  | and shapes ih =>
    rw [scanGroup] at h
    obtain ⟨reports, hr, h⟩ := ok_of_bind h
    cases h
    exact built_merged .empty (built_scanAll (fun inner hi _ => ih inner hi) hr)
  | or shapes ih =>
    rw [scanGroup] at h
    obtain ⟨reports, hr, h⟩ := ok_of_bind h
    cases h
    exact built_anyOf (built_scanAll (fun inner hi _ => ih inner hi) hr)
  | when test pass fail _ ihp ihf =>
    rw [scanGroup] at h
    obtain ⟨tested, -, h⟩ := ok_of_bind h
    split at h
    · exact ihp h
    · exact ihf h
  | field edge label inner ih =>
    obtain ⟨name, -, h⟩ := scanGroup_field h
    exact built_fieldSteps .empty (fun _ _ _ => ih) h
  | link iri inner ih =>
    rw [scanGroup_link] at h
    exact ih h
  | leaf shape hl =>
    obtain ⟨trace, -, rfl⟩ := scanGroup_leaf hl h
    exact .empty

end Description

end LinkedShapes
