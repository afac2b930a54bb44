import LinkedShapes.Proofs.Description.Verdicts
import LinkedShapes.Proofs.Trace.Canonical

/-!
# The laws of merging traces

Canonical traces are a monoid under merging. Nothing is added by what is merged in twice, and the
order of the parts shows in the order of the messages only.

* `Canonical.merge_assoc`, `Canonical.merge_self`, `Canonical.empty_merge`: the laws one by one.
* `Canonical.descend_merge_comm`: what is found behind a path when the parts are swapped.
* `conjunction_of_scan`, `conjunction_of_validation`: a conjunction collects the traces of its
  branches.
* `laws_of_built`: all of it, for the traces that are put together from messages.
-/

namespace LinkedShapes.Trace

variable {t u v : Trace} {path : List String}

namespace Canonical

/-- The grouping of the parts does not matter. -/
theorem merge_assoc (ht : Canonical t) (hu : Canonical u) (hv : Canonical v) :
    (t.merge u).merge v = t.merge (u.merge v) := by
  induction v, hv using induct generalizing t u with
  | step v hv ih =>
    have htu := ht.merge hu
    have huv := hu.merge hv
    refine ext (htu.merge hv) (ht.merge huv) ?_ fun name => ?_
    · have hself : ∀ xs : List String, xs.eraseDups.eraseDups = xs.eraseDups :=
        fun xs => eraseDups_eq_self (nodup_eraseDups xs)
      rw [issues_merge htu, issues_merge ht, issues_merge ht, issues_merge hu,
        eraseDups_append_congr (hself _) rfl, eraseDups_append_congr rfl (hself _),
        List.append_assoc]
    · rw [get?_merge htu hv, get?_merge ht hu, get?_merge ht huv, get?_merge hu hv]
      -- the grouping can be seen only where all three have the field
      cases hgt : t.get? name <;> cases hgu : u.get? name <;> cases hgv : v.get? name <;>
        try rfl
      exact congrArg some (ih name _ hgv (ht.inner hgt) (hu.inner hgu))

/-- Nothing is added by merging a trace in twice. -/
theorem merge_self (ht : Canonical t) : t.merge t = t := by
  induction t, ht using induct with
  | step t ht ih =>
    refine ext (ht.merge ht) ht ?_ fun name => ?_
    · rw [issues_merge ht, eraseDups_append_self, eraseDups_eq_self ht.nodup]
    · rw [get?_merge ht ht]
      cases hget : t.get? name with
      | none => rfl
      | some child => exact congrArg some (ih name child hget)

theorem merge_empty (ht : Canonical t) : t.merge empty = t := by
  refine ext (ht.merge canonical_empty) ht ?_ fun name => ?_
  · rw [issues_merge ht]
    exact (congrArg _ (List.append_nil _)).trans (eraseDups_eq_self ht.nodup)
  · rw [get?_merge ht canonical_empty]
    exact Option.merge_none_right

theorem empty_merge (ht : Canonical t) : empty.merge t = t := by
  refine ext (canonical_empty.merge ht) ht ?_ fun name => ?_
  · rw [issues_merge canonical_empty]
    exact eraseDups_eq_self ht.nodup
  · rw [get?_merge canonical_empty ht]
    exact Option.merge_none_left

/-- The same messages are reported whichever trace is merged into the other. -/
theorem issues_merge_comm (ht : Canonical t) (hu : Canonical u) :
    (t.merge u).issues.Perm (u.merge t).issues := by
  refine (List.perm_ext_iff_of_nodup (ht.merge hu).nodup (hu.merge ht).nodup).2 fun message => ?_
  rw [issues_merge ht, issues_merge hu, List.mem_eraseDups, List.mem_eraseDups, List.mem_append,
    List.mem_append, or_comm]

/-- Behind each path the order of the parts shows in the order of the messages only. -/
theorem descend_merge_comm (ht : Canonical t) (hu : Canonical u) :
    Option.Rel (fun x y : Trace => x.issues.Perm y.issues) ((t.merge u).descend path)
      ((u.merge t).descend path) := by
  rw [descend_merge ht hu, descend_merge hu ht]
  cases hdt : t.descend path <;> cases hdu : u.descend path
  · exact .none
  · exact .some (List.Perm.refl _)
  · exact .some (List.Perm.refl _)
  · exact .some (issues_merge_comm (ht.descend hdt) (hu.descend hdu))

end Canonical

/-- The laws of merging, for three traces. -/
structure MergeLaws (t u v : Trace) : Prop where
  assoc : (t.merge u).merge v = t.merge (u.merge v)
  idem : t.merge t = t
  empty_merge : empty.merge t = t
  merge_empty : t.merge empty = t
  /-- Each message stands where it is first reported. -/
  issues : (t.merge u).issues = (t.issues ++ u.issues).eraseDups
  by_name : ∀ path, (t.merge u).descend path = Option.merge merge (t.descend path) (u.descend path)
  comm : ∀ path, Option.Rel (fun x y : Trace => x.issues.Perm y.issues)
    ((t.merge u).descend path) ((u.merge t).descend path)
  canonical : Canonical (t.merge u)
  isEmpty_iff : (t.merge u).isEmpty = true ↔ t.isEmpty = true ∧ u.isEmpty = true

theorem Canonical.mergeLaws (ht : Canonical t) (hu : Canonical u) (hv : Canonical v) :
    MergeLaws t u v where
  assoc := merge_assoc ht hu hv
  idem := merge_self ht
  empty_merge := ht.empty_merge
  merge_empty := ht.merge_empty
  issues := issues_merge ht
  by_name := fun _ => descend_merge ht hu
  comm := fun _ => descend_merge_comm ht hu
  canonical := ht.merge hu
  isEmpty_iff := isEmpty_merge ht.tidy hu.tidy

end LinkedShapes.Trace

namespace LinkedShapes.Description

variable {s : Setting} {g : Graph} {a : Aliases} {values : List Json} {terms : List Term}
variable {shapes : List Shape} {trace x : Trace} {L L' : Labels} {report : Report}
variable {traces : List Trace}

/-! ## Conjunctions -/

theorem scanAll_eq_mapM : scanAll s g a terms shapes = shapes.mapM (scanGroup s g a terms) := by
  induction shapes with
  | nil => rw [scanAll, List.mapM_nil]; rfl
  | cons shape shapes ih => rw [scanAll, List.mapM_cons, ih]

theorem validateAll_eq_mapM : validateAll s a values terms trace shapes =
    (do return (← shapes.mapM (validateGroup s a values terms)).foldl .merge trace) := by
  induction shapes generalizing trace with
  | nil => simp [validateAll]
  | cons shape shapes ih => simp [validateAll, ih]

theorem tidy_mapM_validateGroup
    (h : shapes.mapM (validateGroup s a values terms) L = .ok (traces, L')) :
    ∀ t ∈ traces, t.Tidy := by
  induction shapes generalizing traces L with
  | nil =>
    cases h
    nofun
  | cons shape shapes ih =>
    rw [List.mapM_cons] at h
    obtain ⟨first, L₁, hfirst, h⟩ := run_ok_of_bind h
    obtain ⟨rest, L₂, hrest, h⟩ := run_ok_of_bind h
    cases h
    exact List.forall_mem_cons.2 ⟨(proper shape _ _ _ _ _ _ hfirst).1, ih hrest⟩

/-- The scan of a conjunction collects the traces of the scans of its branches. -/
theorem conjunction_of_scan (h : scanGroup s g a terms (.and shapes) = .ok report) :
    ∃ reports, shapes.mapM (scanGroup s g a terms) = .ok reports ∧
      report.trace = .collect (reports.map (·.trace)) ∧
      (report.trace.isEmpty = true ↔ ∀ r ∈ reports, r.trace.isEmpty = true) := by
  rw [scanGroup] at h
  obtain ⟨reports, hr, h⟩ := ok_of_bind h
  cases h
  have hcollect : (reports.foldl Report.merge .empty).trace = .collect (reports.map (·.trace)) :=
    trace_foldl_merge
  refine ⟨reports, by rw [← scanAll_eq_mapM, hr], hcollect, ?_⟩
  rw [hcollect, Trace.isEmpty_collect (tidy_scanAll hr), List.forall_mem_map]

/-- Validation by a conjunction collects the traces of its branches. -/
theorem conjunction_of_validation
    (h : validateGroup s a values terms (.and shapes) L = .ok (x, L')) :
    ∃ traces, shapes.mapM (validateGroup s a values terms) L = .ok (traces, L') ∧
      x = .collect traces ∧ (x.isEmpty = true ↔ ∀ t ∈ traces, t.isEmpty = true) := by
  rw [validateGroup, validateAll_eq_mapM] at h
  obtain ⟨traces, L₁, htraces, h⟩ := run_ok_of_bind h
  cases h
  exact ⟨traces, htraces, rfl, Trace.isEmpty_collect (tidy_mapM_validateGroup htraces)⟩

end LinkedShapes.Description

namespace LinkedShapes.Trace

variable {t u v : Trace} {traces : List Trace}

/--
Traces that are put together from messages repeat no message and keep no empty field, at any
depth, and obey the laws of merging. What is collected of them is empty only if each of them is,
so that a conjunction reports nothing only if none of its branches does.
-/
theorem laws_of_built (ht : Built t) (hu : Built u) (hv : Built v)
    (hall : ∀ other ∈ traces, Built other) :
    Canonical t ∧ MergeLaws t u v ∧ Canonical (collect traces) ∧
      ((collect traces).isEmpty = true ↔ ∀ other ∈ traces, other.isEmpty = true) ∧
      (∀ s g a terms shapes report,
        Description.scanGroup s g a terms (.and shapes) = .ok report →
        ∃ reports, shapes.mapM (Description.scanGroup s g a terms) = .ok reports ∧
          report.trace = .collect (reports.map (·.trace)) ∧
          (report.trace.isEmpty = true ↔ ∀ r ∈ reports, r.trace.isEmpty = true)) ∧
      ∀ s a values terms shapes L x L',
        Description.validateGroup s a values terms (.and shapes) L = .ok (x, L') →
        ∃ found, shapes.mapM (Description.validateGroup s a values terms) L = .ok (found, L') ∧
          x = .collect found ∧ (x.isEmpty = true ↔ ∀ other ∈ found, other.isEmpty = true) := by
  refine ⟨ht.canonical, ht.canonical.mergeLaws hu.canonical hv.canonical,
    (Built.collect traces hall).canonical,
    isEmpty_collect fun other ho => (hall other ho).canonical.tidy, ?_, ?_⟩
  · intro s g a terms shapes report h
    exact Description.conjunction_of_scan h
  · intro s a values terms shapes L x L' h
    exact Description.conjunction_of_validation h

/-- Two traces with a message in common, and one that has nothing in common with them. -/
theorem laws_of_shared_messages :
    let t := (issue "a").merge (field "value" (issue "b"))
    let u := (issue "a").merge (field "value" (issue "c"))
    let v := field "name" (ofIssues ["d", "d"])
    MergeLaws t u v ∧ Canonical (collect [t, u, v]) ∧
      t.merge u = mk ["a"] [("value", mk ["b", "c"] [])] := by
  intro t u v
  have ht : Built t := .merge (.issue "a") (.field "value" (.issue "b"))
  have hu : Built u := .merge (.issue "a") (.field "value" (.issue "c"))
  have hv : Built v := .field "name" (.ofIssues ["d", "d"])
  have hall : ∀ other ∈ [t, u, v], Built other := by
    intro other ho
    simp only [List.mem_cons, List.not_mem_nil, or_false] at ho
    obtain rfl | rfl | rfl := ho
    · exact ht
    · exact hu
    · exact hv
  obtain ⟨-, hlaws, hcollect, -⟩ := laws_of_built ht hu hv hall
  exact ⟨hlaws, hcollect, rfl⟩

end LinkedShapes.Trace
