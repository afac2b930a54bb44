import LinkedShapes.Proofs.Distinct
import LinkedShapes.Proofs.Trace

/-!
# Canonical traces

A canonical trace repeats no message and keeps no field without issues, at any depth. Such a trace
is determined by its messages and by what is found under each name.

* `Canonical.ext`: canonical traces with the same messages and the same fields are equal.
* `Canonical.get?_merge`, `Canonical.descend_merge`: merging goes name by name, at every depth.
* `Canonical.merge`: a merge of canonical traces is canonical.
* `Built.canonical`: traces that are put together from messages are canonical.
-/

namespace LinkedShapes.Trace

open Sorted

variable {t u child : Trace} {name message : String} {messages issues : List String}
variable {known fields : List (String × Trace)} {traces : List Trace} {path : List String}

/-! ## Messages -/

theorem addIssue_eq_eraseDups (h : issues.Nodup) :
    addIssue issues message = (issues ++ [message]).eraseDups := by
  unfold addIssue
  rw [List.eraseDups_append, eraseDups_eq_self h]
  by_cases hm : message ∈ issues
  · simp [hm, List.removeAll]
  · simp [hm, List.removeAll, List.eraseDups_cons]

/-- Messages are added behind the others, each of them once. -/
theorem foldl_addIssue (h : issues.Nodup) :
    messages.foldl addIssue issues = (issues ++ messages).eraseDups := by
  induction messages generalizing issues with
  | nil => rw [List.append_nil, eraseDups_eq_self h, List.foldl_nil]
  | cons message messages ih =>
    rw [List.foldl_cons, addIssue_eq_eraseDups h, ih (nodup_eraseDups _),
      eraseDups_append_congr (eraseDups_eq_self (nodup_eraseDups _)) rfl, List.append_assoc,
      List.singleton_append]

/-! ## Canonical traces -/

/-- No message is repeated, and every field that is kept has issues, at any depth. -/
inductive Canonical : Trace → Prop
  | mk {issues : List String} {fields : List (String × Trace)} (nodup : issues.Nodup)
      (increasing : KeysIncreasing fields) (kept : ∀ f ∈ fields, f.2.isEmpty = false)
      (inner : ∀ f ∈ fields, Canonical f.2) : Canonical (.mk issues fields)

/-- The trace behind fields within fields. -/
def descend : Trace → List String → Option Trace
  | t, [] => some t
  | t, name :: path => (t.get? name).bind (descend · path)

namespace Canonical

theorem nodup (h : Canonical t) : t.issues.Nodup := by
  cases h
  assumption

theorem increasing (h : Canonical t) : KeysIncreasing t.fields := by
  cases h
  assumption

theorem kept (h : Canonical t) (hget : t.get? name = some child) : child.isEmpty = false := by
  obtain ⟨-, -, hkept, -⟩ := h
  exact hkept _ (mem_of_find? hget)

theorem inner (h : Canonical t) (hget : t.get? name = some child) : Canonical child := by
  obtain ⟨-, -, -, hinner⟩ := h
  exact hinner _ (mem_of_find? hget)

/-- A trace is canonical if what is found under each of its names is. -/
theorem of_get? (hnodup : t.issues.Nodup) (hincreasing : KeysIncreasing t.fields)
    (h : ∀ name child, t.get? name = some child → child.isEmpty = false ∧ Canonical child) :
    Canonical t := by
  obtain ⟨issues, fields⟩ := t
  have hfields : ∀ f ∈ fields, f.2.isEmpty = false ∧ Canonical f.2 :=
    fun f hf => h f.1 f.2 (find?_of_mem hincreasing hf)
  exact .mk hnodup hincreasing (fun f hf => (hfields f hf).1) fun f hf => (hfields f hf).2

theorem tidy (h : Canonical t) : Tidy t := by
  induction h with
  | mk _ _ hkept _ ih => exact .mk hkept ih

theorem tidyFields (h : Canonical t) : TidyFields t.fields := by
  obtain ⟨issues, fields⟩ := t
  exact tidy_mk.1 h.tidy

/-- Induction from the traces under the names of a canonical trace to the trace. -/
theorem induct {P : ∀ t, Canonical t → Prop}
    (step : ∀ t (h : Canonical t), (∀ name child (hget : t.get? name = some child),
      P child (h.inner hget)) → P t h) (t : Trace) (h : Canonical t) : P t h := by
  induction h with
  | mk hnodup hincreasing hkept hinner ih =>
    exact step _ (.mk hnodup hincreasing hkept hinner) fun name child hget =>
      ih (name, child) (mem_of_find? hget)

/-- Canonical traces are determined by their messages and by what is found under each name. -/
theorem ext (ht : Canonical t) (hu : Canonical u) (hissues : t.issues = u.issues)
    (hget : ∀ name, t.get? name = u.get? name) : t = u := by
  have hfields := entries_eq_of_find? ht.increasing hu.increasing hget
  obtain ⟨issues, fields⟩ := t
  obtain ⟨issues', fields'⟩ := u
  exact congrArg₂ Trace.mk hissues hfields

theorem descend (h : Canonical t) (hd : t.descend path = some child) : Canonical child := by
  induction path generalizing t with
  | nil =>
    cases hd
    exact h
  | cons name path ih =>
    obtain ⟨inner, hget, hd⟩ := Option.bind_eq_some_iff.1 hd
    exact ih (h.inner hget) hd

/-! ## Merging -/

@[simp] theorem issues_merge (ht : Canonical t) :
    (t.merge u).issues = (t.issues ++ u.issues).eraseDups := by
  obtain ⟨issues, fields⟩ := u
  exact foldl_addIssue ht.nodup

theorem mergeFields_spec (hk : TidyFields known) (hki : KeysIncreasing known)
    (hf : TidyFields fields) (hfi : KeysIncreasing fields) :
    KeysIncreasing (mergeFields known fields) ∧
      ∀ name, Sorted.find? name (mergeFields known fields) =
        Option.merge Trace.merge (Sorted.find? name known) (Sorted.find? name fields) := by
  induction fields generalizing known with
  | nil => exact ⟨hki, fun name => by simp [mergeFields, Sorted.find?]⟩
  | cons f fields ih =>
    obtain ⟨key, child⟩ := f
    obtain ⟨⟨hempty, ht⟩, hf⟩ := List.forall_mem_cons.1 hf
    obtain ⟨hlt, hfi⟩ := List.pairwise_cons.1 hfi
    obtain ⟨hj, hjt⟩ := joined_spec key hk hempty ht
    have hki' : KeysIncreasing (remove key known) := hki.remove
    rw [mergeFields_cons hk hempty ht]
    obtain ⟨hincreasing, hfind⟩ := ih (hk.set hj hjt) (pairwise_alter hki') hf hfi
    refine ⟨hincreasing, fun name => ?_⟩
    rw [hfind]
    by_cases hne : name = key
    · -- the key does not come again
      rw [hne, find?_of_lt hlt, Sorted.set, find?_alter_self hki', Sorted.find?,
        if_pos Std.ReflCmp.compare_self, joined]
      cases Sorted.find? key known <;> rfl
    · have hcmp : compare name key ≠ .eq := fun he => hne (Std.LawfulEqOrd.eq_of_compare he)
      rw [Sorted.set, find?_alter_of_ne hne, find?_remove_of_ne hne, Sorted.find?, if_neg hcmp]

/-- Merging goes name by name. -/
theorem get?_merge (ht : Canonical t) (hu : Canonical u) :
    (t.merge u).get? name = Option.merge Trace.merge (t.get? name) (u.get? name) := by
  obtain ⟨issues, fields⟩ := u
  exact (mergeFields_spec ht.tidyFields ht.increasing hu.tidyFields hu.increasing).2 name

/-- A merge of canonical traces is canonical. -/
theorem merge (ht : Canonical t) (hu : Canonical u) : Canonical (t.merge u) := by
  induction u, hu using induct generalizing t with
  | step u hu ih =>
    refine of_get? ?_ ?_ fun name child hget => ?_
    · rw [issues_merge ht]
      exact nodup_eraseDups _
    · obtain ⟨issues, fields⟩ := u
      exact (mergeFields_spec ht.tidyFields ht.increasing hu.tidyFields hu.increasing).1
    · rw [get?_merge ht hu] at hget
      cases hgt : t.get? name with
      | none =>
        rw [hgt, Option.merge_none_left] at hget
        exact ⟨hu.kept hget, hu.inner hget⟩
      | some known =>
        cases hgu : u.get? name with
        | none =>
          rw [hgu, Option.merge_none_right] at hget
          exact ⟨ht.kept hget, ht.inner hget⟩
        | some other =>
          rw [hgt, hgu] at hget
          cases hget
          have hknown := ht.inner hgt
          refine ⟨?_, ih name other hgu hknown⟩
          rw [Bool.eq_false_iff, Ne, isEmpty_merge hknown.tidy (hu.inner hgu).tidy, ht.kept hgt]
          simp

/-- What is found behind a path in a merge is the merge of what is found behind it. -/
theorem descend_merge (ht : Canonical t) (hu : Canonical u) :
    (t.merge u).descend path =
      Option.merge Trace.merge (t.descend path) (u.descend path) := by
  induction path generalizing t u with
  | nil => rfl
  | cons name path ih =>
    simp only [Trace.descend, get?_merge ht hu]
    cases hgt : t.get? name with
    | none => simp
    | some child =>
      cases hgu : u.get? name with
      | none => simp
      | some other => exact ih (ht.inner hgt) (hu.inner hgu)

end Canonical

/-! ## Traces put together from messages -/

/-- The traces that are put together from messages. -/
inductive Built : Trace → Prop
  | empty : Built .empty
  | issue (message : String) : Built (.issue message)
  | ofIssues (messages : List String) : Built (.ofIssues messages)
  | field (name : String) {child : Trace} : Built child → Built (.field name child)
  | merge {t other : Trace} : Built t → Built other → Built (t.merge other)
  | collect (traces : List Trace) : (∀ t ∈ traces, Built t) → Built (.collect traces)

theorem canonical_ofIssues (messages : List String) : Canonical (ofIssues messages) := by
  refine .of_get? ?_ List.Pairwise.nil nofun
  show (messages.foldl addIssue []).Nodup
  rw [foldl_addIssue List.nodup_nil]
  exact nodup_eraseDups _

theorem canonical_empty : Canonical empty := canonical_ofIssues []

theorem canonical_field (h : Canonical child) : Canonical (field name child) := by
  unfold field
  split
  · exact canonical_empty
  · next hempty =>
    refine .mk List.nodup_nil (List.pairwise_singleton ..) ?_ ?_ <;>
      · intro f hf
        rw [List.mem_singleton.1 hf]
        first | exact Bool.eq_false_iff.2 hempty | exact h

theorem canonical_foldl_merge (ht : Canonical t) (h : ∀ other ∈ traces, Canonical other) :
    Canonical (traces.foldl merge t) := by
  induction traces generalizing t with
  | nil => exact ht
  | cons other traces ih =>
    obtain ⟨ho, h⟩ := List.forall_mem_cons.1 h
    exact ih (ht.merge ho) h

theorem Built.canonical (h : Built t) : Canonical t := by
  induction h with
  | empty => exact canonical_empty
  | issue message => exact canonical_ofIssues [message]
  | ofIssues messages => exact canonical_ofIssues messages
  | field name _ ih => exact canonical_field ih
  | merge _ _ ht hu => exact ht.merge hu
  | collect traces _ ih => exact canonical_foldl_merge canonical_empty ih

end LinkedShapes.Trace
