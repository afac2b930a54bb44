import LinkedShapes.Proofs.Sorted
import LinkedShapes.Trace

/-!
# Traces without issues

The traces that checks build never keep the trace of a field without issues. Of such traces it can
be told part by part whether they report anything.

* `Trace.isEmpty_merge`: a merged trace is without issues if both of its parts are.
* `Trace.isEmpty_collect`: the same for a list of traces.
-/

namespace LinkedShapes.Trace

variable {t other child : Trace} {name : String} {messages : List String}
variable {known fields : List (String × Trace)} {traces : List Trace}

/-- Every field that is kept has issues, at all levels. -/
inductive Tidy : Trace → Prop
  | mk {issues : List String} {fields : List (String × Trace)} :
      (∀ f ∈ fields, f.2.isEmpty = false) → (∀ f ∈ fields, Tidy f.2) → Tidy (.mk issues fields)

/-- Fields with issues, each of them tidy. -/
def TidyFields (fields : List (String × Trace)) : Prop :=
  ∀ f ∈ fields, f.2.isEmpty = false ∧ Tidy f.2

theorem tidy_mk {issues : List String} : Tidy (.mk issues fields) ↔ TidyFields fields := by
  constructor
  · rintro ⟨hissues, htidy⟩
    exact fun f hf => ⟨hissues f hf, htidy f hf⟩
  · exact fun h => .mk (fun f hf => (h f hf).1) fun f hf => (h f hf).2

theorem areEmpty_iff (h : TidyFields fields) : areEmpty fields = true ↔ fields = [] := by
  cases fields with
  | nil => simp [areEmpty]
  | cons f fields =>
    have hf := (h f List.mem_cons_self).1
    simp [areEmpty, hf]

/-- A tidy trace is without issues if nothing is in it. -/
theorem isEmpty_mk {issues : List String} (h : TidyFields fields) :
    (mk issues fields).isEmpty = true ↔ issues = [] ∧ fields = [] := by
  rw [isEmpty, Bool.and_eq_true, List.isEmpty_iff, areEmpty_iff h]

/-! ## Building traces -/

theorem tidy_ofIssues : Tidy (ofIssues messages) :=
  tidy_mk.2 fun _ hf => absurd hf List.not_mem_nil

theorem tidy_empty : Tidy empty := by
  show Tidy (ofIssues [])
  exact tidy_ofIssues

theorem addIssue_eq_nil {issues : List String} {message : String} :
    addIssue issues message ≠ [] := by
  unfold addIssue
  split
  · next h => exact List.ne_nil_of_mem h
  · exact List.append_ne_nil_of_right_ne_nil _ (List.cons_ne_nil _ _)

/-- Issues are never lost when more of them are added. -/
theorem foldl_addIssue_eq_nil {issues : List String} :
    messages.foldl addIssue issues = [] ↔ issues = [] ∧ messages = [] := by
  induction messages generalizing issues with
  | nil => simp
  | cons message messages ih =>
    rw [List.foldl_cons, ih]
    simp [addIssue_eq_nil]

theorem isEmpty_ofIssues : (ofIssues messages).isEmpty = true ↔ messages = [] := by
  unfold ofIssues
  rw [isEmpty_mk fun _ hf => absurd hf List.not_mem_nil, foldl_addIssue_eq_nil]
  simp

theorem isEmpty_issue {message : String} : (issue message).isEmpty = false := by
  rw [Bool.eq_false_iff, Ne, issue, isEmpty_ofIssues]
  exact List.cons_ne_nil _ _

theorem isEmpty_field : (field name child).isEmpty = child.isEmpty := by
  unfold field
  cases h : child.isEmpty with
  | true => rfl
  | false => simp [isEmpty, areEmpty, h]

theorem tidy_field (h : Tidy child) : Tidy (field name child) := by
  unfold field
  split
  · exact tidy_empty
  · next hne =>
    refine tidy_mk.2 fun f hf => ?_
    rw [List.mem_singleton.1 hf]
    exact ⟨Bool.eq_false_iff.2 hne, h⟩

/-! ## Merging traces -/

theorem TidyFields.set (hk : TidyFields known) (hempty : child.isEmpty = false) (ht : Tidy child) :
    TidyFields (Sorted.set name child (Sorted.remove name known)) := by
  intro f hf
  rcases Sorted.mem_set hf with heq | hmem
  · rw [heq]
    exact ⟨hempty, ht⟩
  · exact hk f (List.mem_filter.1 hmem).1

mutual

theorem merge_spec : ∀ (other : Trace) {t : Trace}, Tidy t → Tidy other →
    Tidy (t.merge other) ∧
      ((t.merge other).isEmpty = true ↔ t.isEmpty = true ∧ other.isEmpty = true)
  | .mk issues fields, .mk known others, ht, ho => by
    rw [tidy_mk] at ht ho
    obtain ⟨htidy, hnil⟩ := mergeFields_spec fields ht ho
    refine ⟨tidy_mk.2 htidy, ?_⟩
    show (mk (issues.foldl addIssue known) (mergeFields others fields)).isEmpty = true ↔ _
    rw [isEmpty_mk htidy, isEmpty_mk ht, isEmpty_mk ho, foldl_addIssue_eq_nil, hnil]
    exact and_and_and_comm

theorem mergeFields_spec : ∀ (fields : List (String × Trace)) {known : List (String × Trace)},
    TidyFields known → TidyFields fields →
      TidyFields (mergeFields known fields) ∧
        (mergeFields known fields = [] ↔ known = [] ∧ fields = [])
  | [], known, hk, _ => by simpa [mergeFields] using hk
  | (name, child) :: fields, known, hk, hf => by
    obtain ⟨hchild, hrest⟩ := List.forall_mem_cons.1 hf
    -- whether the field is known or not, something with issues is set
    have hset : ∀ merged : Trace, merged.isEmpty = false → Tidy merged →
        TidyFields (mergeFields (Sorted.set name merged (Sorted.remove name known)) fields) ∧
          (mergeFields (Sorted.set name merged (Sorted.remove name known)) fields = [] ↔
            known = [] ∧ (name, child) :: fields = []) := by
      intro merged hempty htidy
      obtain ⟨hspec, hnil⟩ := mergeFields_spec fields (hk.set hempty htidy) hrest
      refine ⟨hspec, ?_⟩
      rw [hnil]
      simp [Sorted.set_ne_nil]
    cases hfind : Sorted.find? name known with
    | none =>
      simp only [mergeFields, hfind, hchild.1, Bool.false_eq_true, if_false]
      exact hset child hchild.1 hchild.2
    | some existing =>
      have hexisting := hk _ (Sorted.mem_of_find? hfind)
      obtain ⟨htidy, hempty⟩ := merge_spec child hexisting.2 hchild.2
      have hfalse : (merge existing child).isEmpty = false := by
        rw [Bool.eq_false_iff, Ne, hempty]
        intro h
        rw [hchild.1] at h
        exact Bool.false_ne_true h.2
      simp only [mergeFields, hfind, hfalse, Bool.false_eq_true, if_false]
      exact hset _ hfalse htidy

end

theorem tidy_merge (ht : Tidy t) (ho : Tidy other) : Tidy (t.merge other) :=
  (merge_spec other ht ho).1

/-- A merged trace is without issues if both of its parts are. -/
theorem isEmpty_merge (ht : Tidy t) (ho : Tidy other) :
    (t.merge other).isEmpty = true ↔ t.isEmpty = true ∧ other.isEmpty = true :=
  (merge_spec other ht ho).2

/-- The trace of a field when another one is merged into what is known of the field. -/
def joined (existing : Option Trace) (child : Trace) : Trace := existing.elim child (merge · child)

theorem joined_spec (name : String) (hk : TidyFields known) (hempty : child.isEmpty = false)
    (ht : Tidy child) :
    (joined (Sorted.find? name known) child).isEmpty = false ∧
      Tidy (joined (Sorted.find? name known) child) := by
  cases hfind : Sorted.find? name known with
  | none => exact ⟨hempty, ht⟩
  | some existing =>
    have hexisting := (hk _ (Sorted.mem_of_find? hfind)).2
    refine ⟨?_, tidy_merge hexisting ht⟩
    rw [Bool.eq_false_iff, Ne, joined, Option.elim_some, isEmpty_merge hexisting ht, hempty]
    simp

/-- Of fields with issues, none is dropped when they are merged. -/
theorem mergeFields_cons (hk : TidyFields known) (hempty : child.isEmpty = false)
    (ht : Tidy child) : mergeFields known ((name, child) :: fields) =
      mergeFields (Sorted.set name (joined (Sorted.find? name known) child)
        (Sorted.remove name known)) fields := by
  have hjoined := (joined_spec name hk hempty ht).1
  unfold joined at hjoined ⊢
  cases hfind : Sorted.find? name known <;> simp_all [mergeFields]

theorem foldl_merge_spec (ht : Tidy t) (h : ∀ other ∈ traces, Tidy other) :
    Tidy (traces.foldl merge t) ∧ ((traces.foldl merge t).isEmpty = true ↔
      t.isEmpty = true ∧ ∀ other ∈ traces, other.isEmpty = true) := by
  induction traces generalizing t with
  | nil => simpa using ht
  | cons other traces ih =>
    obtain ⟨ho, hrest⟩ := List.forall_mem_cons.1 h
    obtain ⟨htidy, hempty⟩ := ih (tidy_merge ht ho) hrest
    refine ⟨htidy, ?_⟩
    rw [List.foldl_cons, hempty, isEmpty_merge ht ho, List.forall_mem_cons, and_assoc]

theorem tidy_collect (h : ∀ other ∈ traces, Tidy other) : Tidy (collect traces) :=
  (foldl_merge_spec tidy_empty h).1

/-- Collected traces are without issues if all of them are. -/
theorem isEmpty_collect (h : ∀ other ∈ traces, Tidy other) :
    (collect traces).isEmpty = true ↔ ∀ other ∈ traces, other.isEmpty = true := by
  rw [collect, (foldl_merge_spec tidy_empty h).2]
  exact and_iff_right rfl

end LinkedShapes.Trace
