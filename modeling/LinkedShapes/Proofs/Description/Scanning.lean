import LinkedShapes.Description.Operations
import LinkedShapes.Proofs.Description.Focus
import LinkedShapes.Proofs.Description.Verdicts

/-!
# What scans and descriptions have in common

A scan goes down a shape as it stands, part by part, and does not look at the trail; a description
goes down the merged fields of its tables and ends where a resource is met again. `Reached` is
between the two: it follows the tables, but does not end.

* `scanFocus_reached`: what a scan collects is reached.
* `visited_of_reached`: what is reached is visited, but for what lies behind the ends of the visits.
-/

namespace LinkedShapes.Description

variable {s : Setting} {g : Graph} {src : Source} {aliases : Aliases} {shape inner : Shape}
variable {terms : List Term} {r : Term} {t : Triple}

/-- A triple that the fields of a shape lead to from a term. -/
inductive Reached (src : Source) : Term → Shape → Triple → Prop
  | edge {r v : Term} {shape : Shape} {e : String × Field} :
      e ∈ src.table shape → v ∈ src.follow r e.2 → Reached src r shape (e.2.edge.triple r v)
  | behind {r v : Term} {shape : Shape} {e : String × Field} {t : Triple} :
      e ∈ src.table shape → v ∈ src.follow r e.2 → Reached src v e.2.shape t →
      Reached src r shape t

/-! ## Results of scans -/

theorem mem_mergeReport {report other : Report} :
    t ∈ (report.merge other).triples.triples ↔
      t ∈ report.triples.triples ∨ t ∈ other.triples.triples := by
  show t ∈ (report.triples.merge other.triples).triples ↔ _
  rw [Graph.mem_merge]

/-- The triples of merged reports are those of the reports. -/
theorem mem_foldl_merge {reports : List Report} {start : Report} :
    t ∈ (reports.foldl .merge start).triples.triples ↔
      t ∈ start.triples.triples ∨ ∃ report ∈ reports, t ∈ report.triples.triples := by
  induction reports generalizing start with
  | nil => simp
  | cons report reports ih =>
    rw [List.foldl_cons, ih, mem_mergeReport]
    simp only [List.mem_cons, exists_eq_or_imp, or_assoc]

/-- The triples of an alternative are those of the reports without issues. -/
theorem mem_anyOf {reports : List Report} : t ∈ (Report.anyOf reports).triples.triples ↔
    ∃ report ∈ reports, report.trace.isEmpty = true ∧ t ∈ report.triples.triples := by
  have hfold : ∀ (reports : List Report) (start : Graph),
      t ∈ (reports.foldl (fun graph r => graph.merge r.triples) start).triples ↔
        t ∈ start.triples ∨ ∃ report ∈ reports, t ∈ report.triples.triples := by
    intro reports
    induction reports with
    | nil => simp
    | cons report reports ih =>
      intro start
      rw [List.foldl_cons, ih, Graph.mem_merge]
      simp only [List.mem_cons, exists_eq_or_imp, or_assoc]
  have hmatched : t ∈ (Report.anyOf reports).triples.triples ↔
      ∃ report ∈ reports.filter (·.trace.isEmpty), t ∈ report.triples.triples := by
    unfold Report.anyOf
    cases reports.filter (·.trace.isEmpty) with
    | nil => exact iff_of_false List.not_mem_nil (by simp)
    | cons report matched =>
      exact (hfold (report :: matched) .empty).trans (or_iff_right List.not_mem_nil)
  rw [hmatched]
  simp only [List.mem_filter, and_assoc]

/-- What the scan along a field collects: the edges of the terms, and what is collected from the
ends of these edges. -/
theorem mem_fieldSteps {name : String} {edge : Edge} {start report : Report}
    (h : terms.foldlM (fieldStep s g name edge shape) start = .ok report) :
    t ∈ report.triples.triples ↔ t ∈ start.triples.triples ∨ ∃ source ∈ terms,
      t ∈ g.edges source edge.iri edge.inverse ∨ ∃ a nested,
        Aliases.ofShape shape s.keywords = .ok a ∧
        scanGroup s g a (ends g edge source) shape = .ok nested ∧ t ∈ nested.triples.triples := by
  induction terms generalizing start with
  | nil =>
    cases h
    exact (or_iff_left (by simp)).symm
  | cons source terms ih =>
    rw [List.foldlM_cons] at h
    obtain ⟨next, hnext, h⟩ := ok_of_bind h
    obtain ⟨a, nested, ha, hnested, rfl⟩ := fieldStep_ok hnext
    -- a source has one table and one report behind it, so that any of them is the one found
    have hbehind : t ∈ nested.triples.triples ↔ ∃ a nested,
        Aliases.ofShape shape s.keywords = .ok a ∧
        scanGroup s g a (ends g edge source) shape = .ok nested ∧
        t ∈ nested.triples.triples := by
      constructor
      · exact fun ht => ⟨a, nested, ha, hnested, ht⟩
      · rintro ⟨b, other, hb, hother, ht⟩
        rw [ha] at hb
        cases hb
        rw [hnested] at hother
        cases hother
        exact ht
    rw [ih h, mem_mergeReport, Graph.mem_merge, Graph.mem_ofList, hbehind]
    simp only [List.mem_cons, exists_eq_or_imp, or_assoc]

/-- The table of a shape has a field on the edge of each of its fields, with all that is below. -/
theorem absorbs_table {f : Field} (ha : Aliases.ofShape shape src.keywords = .ok aliases)
    (hf : f ∈ shape.fields) : ∃ e ∈ src.table shape, e.2.edge = f.edge ∧
      f.shape.fields ⊆ e.2.shape.fields := by
  obtain ⟨h, hm, hedge, hsub⟩ := absorbs_mergedFields hf
  rw [← Aliases.ofShape_fields ha] at hm
  obtain ⟨e, he, rfl⟩ := List.mem_map.1 hm
  exact ⟨e, Source.table_of_ok ha ▸ he, hedge, hsub⟩

/-- What a scan collects is reached through the fields of a shape that has those of the scan. -/
theorem scanGroup_reached (hg : src.graph.Stored) (hp : NamedPredicates src.graph) {report : Report}
    (htable : ∀ l, Level src.keywords shape l → ∃ a, Aliases.ofShape l src.keywords = .ok a)
    (hsub : inner.fields ⊆ shape.fields)
    (h : scanGroup s src.graph aliases terms inner = .ok report)
    (ht : t ∈ report.triples.triples) : ∃ r ∈ terms, Reached src r shape t := by
  -- connectives stay at the level, whose fields include those of its parts; a field starts the next
  -- level, and only there the shape whose fields are followed changes
  induction inner using Shape.induct generalizing aliases terms shape report with
  | and shapes ih =>
    rw [scanGroup] at h
    obtain ⟨reports, hr, h⟩ := ok_of_bind h
    cases h
    obtain ⟨report, hmem, ht⟩ := (mem_foldl_merge.1 ht).resolve_left List.not_mem_nil
    obtain ⟨inner, hi, hr⟩ := scanAll_mem hr hmem
    exact ih inner hi htable (fun f hf => hsub (Shape.mem_fieldsOfAll.2 ⟨inner, hi, hf⟩)) hr ht
  | or shapes ih =>
    rw [scanGroup] at h
    obtain ⟨reports, hr, h⟩ := ok_of_bind h
    cases h
    obtain ⟨report, hmem, -, ht⟩ := mem_anyOf.1 ht
    obtain ⟨inner, hi, hr⟩ := scanAll_mem hr hmem
    exact ih inner hi htable (fun f hf => hsub (Shape.mem_fieldsOfAll.2 ⟨inner, hi, hf⟩)) hr ht
  | when test pass fail _ ihp ihf =>
    rw [scanGroup] at h
    obtain ⟨tested, -, h⟩ := ok_of_bind h
    split at h
    · exact ihp htable (fun f hf => hsub (List.mem_append_left _ hf)) h ht
    · exact ihf htable (fun f hf => hsub (List.mem_append_right _ hf)) h ht
  | link iri inner ih =>
    rw [scanGroup_link] at h
    exact ih htable hsub h ht
  | leaf inner hl =>
    obtain ⟨trace, -, rfl⟩ := scanGroup_leaf hl h
    exact absurd ht List.not_mem_nil
  | field edge label inner ih =>
    obtain ⟨name, -, h⟩ := scanGroup_field h
    obtain ⟨source, hs, ht⟩ := ((mem_fieldSteps h).1 ht).resolve_left List.not_mem_nil
    obtain ⟨a, ha⟩ := htable shape .top
    obtain ⟨e, he, hedge, hfields⟩ := absorbs_table ha (hsub List.mem_cons_self)
    have hedge : e.2.edge = edge := hedge
    have hfollow : ∀ v, v ∈ ends src.graph edge source → v ∈ src.follow source e.2 := by
      intro v hv
      rw [Source.follow, Graph.targets, hedge]
      exact List.mem_eraseDups.1 hv
    refine ⟨source, hs, ?_⟩
    rcases ht with ht | ⟨b, nested, hb, hn, ht⟩
    · obtain ⟨hmem, htr⟩ := (hg.mem_edges_iff (Or.inr hp)).1 ht
      rw [eq_triple_of_traverses (hp t hmem) htr, ← hedge]
      refine .edge he (hfollow _ (List.mem_eraseDups.2 ?_))
      rw [hedge]
      exact List.mem_map_of_mem ht
    · obtain ⟨v, hv, hreach⟩ := ih (fun l hl => htable l (hl.under ha (Source.table_of_ok ha ▸ he)))
        hfields hn ht
      exact .behind he (hfollow v hv) hreach

/-- The scan of the focus accepts a graph if it finds no issue; its result is what it collects. -/
theorem scanFocus_ok_iff {found : Graph} : scanFocus s g shape = .ok (.ok found) ↔
    ∃ a report, Aliases.ofShape shape s.keywords = .ok a ∧
      scanGroup s g a [.iri s.focus] shape = .ok report ∧ report.trace.isEmpty = true ∧
      report.triples = found := by
  constructor
  · intro h
    obtain ⟨a, ha, h⟩ := ok_of_bind h
    obtain ⟨report, hr, h⟩ := ok_of_bind h
    cases hempty : report.trace.isEmpty with
    | false =>
      rw [hempty] at h
      cases h
    | true =>
      rw [hempty] at h
      cases h
      exact ⟨a, report, ha, hr, hempty, rfl⟩
  · rintro ⟨a, report, ha, hr, hempty, rfl⟩
    rw [scanFocus, ha]
    dsimp only [bind, Except.bind]
    rw [hr]
    dsimp only
    rw [hempty]
    rfl

theorem prepare_ok {k : Keywords} {driver : Shape} (h : prepare shape k = .ok driver) :
    driver = shape.drive ∧ k.check = .ok () := by
  obtain ⟨u, hk, h⟩ := ok_of_bind h
  obtain ⟨v, -, h⟩ := ok_of_bind h
  cases h
  exact ⟨rfl, hk⟩

section Decoding

variable {focus : String} {json : Json} {k : Keywords} {L : Labels}

/-- A description is read by the driver of the shape. -/
theorem decode_eq (h : prepare shape k = .ok shape.drive) : decode focus shape json k L =
    (focusTriples (.of focus k) shape.drive json L).map (·.1) := by
  unfold decode
  rw [h]
  show (focusTriples (.of focus k) shape.drive json L >>= fun p => .ok p.1) = _
  cases focusTriples (.of focus k) shape.drive json L with
  | error fault => rfl
  | ok p => rfl

theorem decode_ok_iff (h : prepare shape k = .ok shape.drive) :
    decode focus shape json k L = .ok g ↔ ∃ L',
      focusTriples (.of focus k) shape.drive json L = .ok (g, L') := by
  rw [decode_eq h]
  cases focusTriples (.of focus k) shape.drive json L with
  | error fault => simp [Except.map]
  | ok p => simp [Except.map, Prod.ext_iff]

theorem prepare_of_decode (h : decode focus shape json k L = .ok g) :
    prepare shape k = .ok shape.drive := by
  obtain ⟨driver, hdriver, -⟩ := ok_of_bind h
  cases hp : prepare shape k with
  | error defect =>
    rw [hp] at hdriver
    cases hdriver
  | ok driver' => rw [(prepare_ok hp).1]

end Decoding

/-- The scan of the focus accepts a graph if it has no fault to find. -/
theorem scans_of_scanFocus {result : Except Trace Graph} (h : scanFocus s g shape = .ok result) :
    ∃ a, Aliases.ofShape shape s.keywords = .ok a ∧
      Scans s g a [.iri s.focus] shape result.isOk := by
  obtain ⟨a, ha, h⟩ := ok_of_bind h
  obtain ⟨report, hr, h⟩ := ok_of_bind h
  refine ⟨a, ha, report, hr, ?_⟩
  cases hempty : report.trace.isEmpty with
  | false =>
    rw [hempty] at h
    cases h
    rfl
  | true =>
    rw [hempty] at h
    cases h
    rfl

/-- The results of scans that accept can be computed. -/
theorem accepted_iff {result : Except ShapeError (Except Trace Graph)} :
    result.toOption.bind Except.toOption = some g ↔ result = .ok (.ok g) := by
  rcases result with e | trace | found
  · exact iff_of_false nofun nofun
  · exact iff_of_false nofun nofun
  · simp [Except.toOption]

/-- What the scan of the focus collects is reached from the focus. -/
theorem scanFocus_reached (hg : src.graph.Stored) (hp : NamedPredicates src.graph)
    (htable : ∀ l, Level src.keywords shape l → ∃ a, Aliases.ofShape l src.keywords = .ok a)
    (h : scanFocus s src.graph shape = .ok (.ok g)) (ht : t ∈ g.triples) :
    Reached src (.iri s.focus) shape t := by
  obtain ⟨a, report, -, hr, -, rfl⟩ := scanFocus_ok_iff.1 h
  obtain ⟨r, hmem, hreach⟩ := scanGroup_reached hg hp htable (List.Subset.refl _) hr ht
  rw [List.mem_singleton.1 hmem] at hreach
  exact hreach

/-! ## What is visited -/

/-- The triples behind the ends of visits: behind literals, and resources that are met again. -/
def Ends (src : Source) (xs : List Visit) (P : Triple → Prop) : Prop :=
  ∀ x ∈ xs, x.value.isLiteral = true ∨ x.value ∈ x.trail →
    ∀ t, Reached src x.value x.field.shape t → P t

/-- What is reached is visited, but for what lies behind the ends of the visits. -/
theorem visited_of_reached {levels : Nat} {trail : List Term} {P : Triple → Prop}
    (hvisit : ∀ x ∈ src.visits levels r shape trail, P (x.triple id))
    (hends : Ends src (src.visits levels r shape trail) P) (hdepth : shape.depth ≤ levels)
    (h : Reached src r shape t) : P t := by
  induction h generalizing levels trail with
  | @edge r v shape e he hv =>
    obtain ⟨a, ha, hmem⟩ := Source.ok_of_mem_table he
    obtain ⟨levels, rfl⟩ := Nat.exists_eq_add_one.2
      (Nat.lt_of_lt_of_le (Nat.zero_lt_of_lt (Shape.depth_lt_of_mem ha hmem)) hdepth)
    exact hvisit _ (Source.mem_visits_of_follow he hv)
  | @behind r v shape e t he hv h ih =>
    obtain ⟨a, ha, hmem⟩ := Source.ok_of_mem_table he
    have hlt := Nat.lt_of_lt_of_le (Shape.depth_lt_of_mem ha hmem) hdepth
    obtain ⟨levels, rfl⟩ := Nat.exists_eq_add_one.2 (Nat.zero_lt_of_lt hlt)
    by_cases hend : v.isLiteral = true ∨ v ∈ r :: trail
    · exact hends _ (Source.mem_visits_of_follow he hv) hend t h
    · have hbehind : ∀ y ∈ src.visits levels v e.2.shape (r :: trail),
          y ∈ src.visits (levels + 1) r shape trail := by
        intro y hy
        refine Source.mem_visits_of_behind he hv ?_
        rw [behind, if_neg hend]
        exact hy
      refine ih (fun y hy => hvisit y (hbehind y hy)) (fun y hy => ?_) (Nat.le_of_lt_succ hlt)
      exact hends y (hbehind y hy)

end LinkedShapes.Description
