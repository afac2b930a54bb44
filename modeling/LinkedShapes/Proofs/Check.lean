import Mathlib.Data.List.Count
import Mathlib.Data.List.Nodup
import LinkedShapes.Proofs.Shape
import LinkedShapes.Proofs.Trace
import LinkedShapes.Shape.Check

/-!
# What checks depend on

A check does not depend on the order of the values. Few constraints tell the labels of blank nodes
apart: those on the text of values, and those with a blank node among their operands. For all
others, any blank node is as good as another.

* `Shape.check_like`: values that are alike for a level pass or fail its constraints together.
-/

namespace LinkedShapes

variable {focus : String} {found terms : List Term} {t e : Term} {σ : Term → Term}

/-- A computation that succeeds does so step by step. -/
theorem ok_of_bind {ε α β : Type} {m : Except ε α} {f : α → Except ε β} {b : β}
    (h : m >>= f = .ok b) : ∃ a, m = .ok a ∧ f a = .ok b := by
  cases m with
  | error e => cases h
  | ok a => exact ⟨a, rfl, h⟩

theorem ok_of_toOption {ε α : Type} {e : Except ε α} {x : α} (h : e.toOption = some x) :
    e = .ok x := by
  cases e with
  | error _ => cases h
  | ok _ =>
    cases h
    rfl

/-! ## Labels -/

theorem Term.eq_blankNode (h : t.isBlank = true) : ∃ label, t = .blankNode label := by
  cases t with
  | blankNode label => exact ⟨label, rfl⟩
  | iri i => cases h
  | literal l => cases h

/-- Is the operand a blank node? -/
def Operand.isBlank : Operand → Bool
  | .term t => t.isBlank
  | .focus _ => false

theorem Operand.isBlank_resolve {operand : Operand} :
    (operand.resolve focus).isBlank = operand.isBlank := by
  cases operand <;> rfl

theorem Term.compareValues?_blank (ht : t.isBlank = true) (he : e.isBlank = false) :
    t.compareValues? e = none := by
  obtain ⟨label, rfl⟩ := eq_blankNode ht
  cases e with
  | blankNode other => cases he
  | iri i => rfl
  | literal l => rfl

theorem Term.sameValue_blank (ht : t.isBlank = true) (he : e.isBlank = false) :
    t.sameValue e = false := by
  have hne : t ≠ e := by
    rintro rfl
    rw [ht] at he
    cases he
  simp [sameValue, hne, compareValues?_blank ht he]

namespace Shape

variable {shape part : Shape} {x y : Trace}

/-- Does a constraint look at the labels of blank nodes? -/
def looksAtLabels : Shape → Bool
  | .range operands | .all operands | .any operands => operands.toList.any Operand.isBlank
  | .minExclusive limit | .maxExclusive limit | .minInclusive limit | .maxInclusive limit =>
    limit.isBlank
  | .minLength _ | .maxLength _ | .pattern .. | .like .. | .stem _ => true
  | _ => false

/-- Terms are alike for a level if they are the same up to labels that it does not look at. -/
def Alike (shape : Shape) (found terms : List Term) : Prop :=
  ∃ σ : Term → Term, terms.Perm (found.map σ) ∧ ∀ t ∈ found, σ t = t ∨
    shape.parts.any looksAtLabels = false ∧ t.isBlank = true ∧ (σ t).isBlank = true

theorem Alike.refl : Alike shape terms terms :=
  ⟨id, by rw [List.map_id], fun _ _ => Or.inl rfl⟩

/-! ## Tests of values -/

theorem isEmpty_each {test : Term → Bool} {message : Term → String} :
    (each terms test message).isEmpty = true ↔ ∀ t ∈ terms, test t = true := by
  unfold each
  rw [Trace.isEmpty_ofIssues, List.map_eq_nil_iff, List.filter_eq_nil_iff]
  simp

theorem isEmpty_issueUnless {c : Prop} [Decidable c] {message : String} :
    (if c then .empty else Trace.issue message).isEmpty = true ↔ c := by
  by_cases hc : c
  · rw [if_pos hc]
    exact iff_of_true rfl hc
  · rw [if_neg hc, Trace.isEmpty_issue]
    exact iff_of_false Bool.false_ne_true hc

theorem isEmpty_issueIf {c : Prop} [Decidable c] {message : String} :
    (if c then Trace.issue message else .empty).isEmpty = true ↔ ¬c := by
  rw [← ite_not, isEmpty_issueUnless]

/-- A test that cannot tell the values apart passes all or fails for one of each. -/
theorem each_like {test : Term → Bool} {message : Term → String} (hp : terms.Perm (found.map σ))
    (ht : ∀ t ∈ found, test (σ t) = test t) :
    (each found test message).isEmpty = true ↔ (each terms test message).isEmpty = true := by
  rw [isEmpty_each, isEmpty_each]
  constructor
  · intro h u hu
    obtain ⟨t, hm, rfl⟩ := List.mem_map.1 (hp.mem_iff.1 hu)
    rw [ht t hm, h t hm]
  · intro h t hm
    rw [← ht t hm]
    exact h _ (hp.mem_iff.2 (List.mem_map_of_mem hm))

theorem isPresent_like (hp : terms.Perm (found.map σ))
    (ht : ∀ t ∈ found, (σ t).sameValue e = t.sameValue e) :
    isPresent terms e = isPresent found e := by
  unfold isPresent
  rw [Bool.eq_iff_iff, List.any_eq_true, List.any_eq_true]
  constructor
  · rintro ⟨u, hu, h⟩
    obtain ⟨t, hm, rfl⟩ := List.mem_map.1 (hp.mem_iff.1 hu)
    exact ⟨t, hm, ht t hm ▸ h⟩
  · rintro ⟨t, hm, h⟩
    exact ⟨σ t, hp.mem_iff.2 (List.mem_map_of_mem hm), (ht t hm).symm ▸ h⟩

/-! ## Languages -/

/-- Counting goes on from the counts so far. -/
theorem foldl_counts {tags : List String} {counts : List (String × Nat)}
    (h : Sorted.KeysIncreasing counts) :
    Sorted.KeysIncreasing (tags.foldl
        (fun counts tag => Sorted.alter tag (fun n => n.getD 0 + 1) counts) counts) ∧
      ∀ tag, (Sorted.find? tag (tags.foldl
        (fun counts tag => Sorted.alter tag (fun n => n.getD 0 + 1) counts) counts)).getD 0 =
          (Sorted.find? tag counts).getD 0 + tags.count tag := by
  induction tags generalizing counts with
  | nil => exact ⟨h, fun tag => by simp⟩
  | cons first tags ih =>
    obtain ⟨hkeys, hcount⟩ := ih (Sorted.pairwise_alter h
      (k := first) (f := fun n : Option Nat => n.getD 0 + 1))
    refine ⟨hkeys, fun tag => ?_⟩
    rw [List.foldl_cons, hcount, List.count_cons]
    by_cases htag : first = tag
    · subst htag
      rw [Sorted.find?_alter_self h]
      simp
      omega
    · rw [Sorted.find?_alter_of_ne (Ne.symm htag)]
      simp [htag]

/-- The number of values under each language. -/
theorem languageCounts_spec : Sorted.KeysIncreasing (languageCounts terms) ∧
    ∀ tag, (Sorted.find? tag (languageCounts terms)).getD 0 =
      (terms.filterMap Term.language).count tag := by
  obtain ⟨hkeys, hcount⟩ := @foldl_counts (terms.filterMap Term.language) [] List.Pairwise.nil
  refine ⟨hkeys, fun tag => ?_⟩
  have hstart : (Sorted.find? tag ([] : List (String × Nat))).getD 0 = 0 := rfl
  rw [languageCounts, hcount, hstart, Nat.zero_add]

/-- No language has several values if the tags of the values differ. -/
theorem localized_iff : (languageCounts terms).filter (fun count => 1 < count.2) = [] ↔
    (terms.filterMap Term.language).Nodup := by
  obtain ⟨hkeys, hcount⟩ := @languageCounts_spec terms
  rw [List.filter_eq_nil_iff, List.nodup_iff_count_le_one]
  constructor
  · intro h tag
    rw [← hcount tag]
    cases hf : Sorted.find? tag (languageCounts terms) with
    | none => exact Nat.zero_le 1
    | some n =>
      have hle := h _ (Sorted.mem_of_find? hf)
      rw [decide_eq_true_iff] at hle
      exact Nat.le_of_not_lt hle
  · intro h count hm
    have hle := h count.1
    rw [← hcount count.1, Sorted.find?_of_mem hkeys hm] at hle
    rw [decide_eq_true_iff]
    exact Nat.not_lt_of_le hle

/-! ## Tests of values that are alike -/

/-- A test of values that are alike for a level, if labels matter to it only where they may. -/
theorem each_alike {test : Term → Bool} {message : Term → String} (h : Alike shape found terms)
    (hp : part ∈ shape.parts) (ht : part.looksAtLabels = false → ∀ t u : Term,
      t.isBlank = true → u.isBlank = true → test t = test u) :
    (each found test message).isEmpty = true ↔ (each terms test message).isEmpty = true := by
  obtain ⟨σ, hperm, hσ⟩ := h
  refine each_like hperm fun t hm => ?_
  rcases hσ t hm with heq | ⟨hlabels, hblank, hblank'⟩
  · rw [heq]
  · have hpart := Bool.eq_false_iff.2 (List.any_eq_false.1 hlabels part hp)
    exact ht hpart _ _ hblank' hblank

theorem isPresent_alike (h : Alike shape found terms) (hp : part ∈ shape.parts)
    (he : part.looksAtLabels = false → e.isBlank = false) :
    isPresent terms e = isPresent found e := by
  obtain ⟨σ, hperm, hσ⟩ := h
  refine isPresent_like hperm fun t hm => ?_
  rcases hσ t hm with heq | ⟨hlabels, hblank, hblank'⟩
  · rw [heq]
  · have hpart := Bool.eq_false_iff.2 (List.any_eq_false.1 hlabels part hp)
    rw [Term.sameValue_blank hblank (he hpart), Term.sameValue_blank hblank' (he hpart)]

theorem language_alike (h : Alike shape found terms) :
    (terms.filterMap Term.language).Perm (found.filterMap Term.language) := by
  obtain ⟨σ, hperm, hσ⟩ := h
  refine (hperm.filterMap Term.language).trans (List.Perm.of_eq ?_)
  rw [List.filterMap_map]
  refine List.filterMap_congr fun t hm => ?_
  rcases hσ t hm with heq | ⟨-, hblank, hblank'⟩
  · exact congrArg Term.language heq
  · obtain ⟨label, rfl⟩ := Term.eq_blankNode hblank
    obtain ⟨label', hlabel⟩ := Term.eq_blankNode hblank'
    rw [Function.comp_apply, hlabel]
    rfl

/-! ## Checks -/

/-- The operands of a constraint that looks at no labels are no blank nodes. -/
theorem isBlank_resolve {operands : OrderedSet Operand} (he : e ∈ operands.resolve focus)
    (h : operands.toList.any Operand.isBlank = false) : e.isBlank = false := by
  obtain ⟨operand, ho, rfl⟩ := List.mem_map.1 he
  rw [Operand.isBlank_resolve]
  exact Bool.eq_false_iff.2 (List.any_eq_false.1 h operand ho)

theorem Alike.length_eq (h : Alike shape found terms) : terms.length = found.length := by
  obtain ⟨σ, hperm, -⟩ := h
  rw [hperm.length_eq, List.length_map]

theorem bounded_alike {limit : Operand} {orders : List Ordering} {relation : String}
    (h : Alike shape found terms) (hp : part ∈ shape.parts)
    (hlimit : part.looksAtLabels = false → limit.isBlank = false) :
    (bounded found (limit.resolve focus) orders relation).isEmpty = true ↔
      (bounded terms (limit.resolve focus) orders relation).isEmpty = true := by
  refine each_alike h hp fun hlabels t u ht hu => ?_
  have hblank : (limit.resolve focus).isBlank = false :=
    Operand.isBlank_resolve.trans (hlimit hlabels)
  rw [Term.compareValues?_blank ht hblank, Term.compareValues?_blank hu hblank]

/-- No blank node is among operands that are none. -/
theorem isAmong_blank {operands : OrderedSet Operand} (ht : t.isBlank = true)
    (h : operands.toList.any Operand.isBlank = false) :
    isAmong (operands.resolve focus) t = false := by
  refine List.any_eq_false.2 fun e he => ?_
  rw [Term.sameValue_blank ht (isBlank_resolve he h)]
  exact Bool.false_ne_true

/-- All or some of the operands are present in both groups or in neither. -/
theorem present_alike {operands : OrderedSet Operand} (h : Alike shape found terms)
    (hp : part ∈ shape.parts)
    (hblank : part.looksAtLabels = false → operands.toList.any Operand.isBlank = false) :
    (operands.resolve focus).all (isPresent terms) =
        (operands.resolve focus).all (isPresent found) ∧
      (operands.resolve focus).any (isPresent terms) =
        (operands.resolve focus).any (isPresent found) := by
  have hpresent : ∀ e ∈ operands.resolve focus, isPresent terms e = isPresent found e :=
    fun e he => isPresent_alike h hp fun hlabels => isBlank_resolve he (hblank hlabels)
  constructor
  · rw [Bool.eq_iff_iff, List.all_eq_true, List.all_eq_true]
    exact forall₂_congr fun e he => by rw [hpresent e he]
  · rw [Bool.eq_iff_iff, List.any_eq_true, List.any_eq_true]
    exact exists_congr fun e => and_congr_right fun he => by rw [hpresent e he]

/-- What a check reports is at one level. -/
theorem tidy_check (h : part.check focus terms = .ok x) : x.Tidy := by
  cases part with
  | guard _ => cases h
  | pattern expression flags =>
    obtain ⟨pattern, -, h⟩ := ok_of_bind h
    cases h
    exact Trace.tidy_ofIssues
  | minCount _ | maxCount _ | all _ | any _ =>
    cases h
    split <;> first | exact Trace.tidy_empty | exact Trace.tidy_ofIssues
  | _ =>
    cases h
    first | exact Trace.tidy_empty | exact Trace.tidy_ofIssues

/-- Whether a check has an outcome does not depend on the values. -/
theorem check_ok (h : part.check focus found = .ok x) (terms : List Term) :
    ∃ y, part.check focus terms = .ok y := by
  cases part with
  | guard _ => cases h
  | pattern expression flags =>
    obtain ⟨p, hp, -⟩ := ok_of_bind h
    exact ⟨_, by rw [check, hp]; rfl⟩
  | _ => exact ⟨_, rfl⟩

/-- Values that are alike for a level pass or fail its constraints together. -/
theorem check_like (h : Alike shape found terms) (hp : part ∈ shape.parts)
    (hx : part.check focus found = .ok x) (hy : part.check focus terms = .ok y) :
    x.isEmpty = true ↔ y.isEmpty = true := by
  -- what is asked of each value alone goes through `each_alike`, the rest through what a
  -- permutation keeps: lengths, presence and languages
  cases part with
  | and _ | or _ | when _ _ _ | field _ _ _ | link _ _ | clazz _ | note _ _ =>
    cases hx
    cases hy
    exact Iff.rfl
  | guard _ => cases hx
  | datatype _ | lang _ =>
    cases hx
    cases hy
    refine each_alike h hp fun _ t u ht hu => ?_
    obtain ⟨label, rfl⟩ := Term.eq_blankNode ht
    obtain ⟨label', rfl⟩ := Term.eq_blankNode hu
    rfl
  | range operands =>
    cases hx
    cases hy
    refine each_alike h hp fun hlabels t u ht hu => ?_
    rw [isAmong_blank ht hlabels, isAmong_blank hu hlabels]
  | minExclusive limit | maxExclusive limit | minInclusive limit | maxInclusive limit =>
    cases hx
    cases hy
    exact bounded_alike h hp id
  | minLength _ | maxLength _ | like _ _ | stem _ =>
    cases hx
    cases hy
    exact each_alike h hp fun hlabels => nomatch hlabels
  | pattern expression flags =>
    obtain ⟨pattern, hc, hx⟩ := ok_of_bind hx
    obtain ⟨pattern', hc', hy⟩ := ok_of_bind hy
    rw [hc] at hc'
    cases hc'
    cases hx
    cases hy
    exact each_alike h hp fun hlabels => nomatch hlabels
  | minCount limit | maxCount limit =>
    cases hx
    cases hy
    rw [h.length_eq]
  | all operands =>
    cases hx
    cases hy
    rw [(present_alike h hp id).1]
  | any operands =>
    cases hx
    cases hy
    rw [(present_alike h hp id).2]
  | localized =>
    cases hx
    cases hy
    rw [Trace.isEmpty_ofIssues, Trace.isEmpty_ofIssues, List.map_eq_nil_iff, List.map_eq_nil_iff,
      localized_iff, localized_iff]
    exact (language_alike h).nodup_iff.symm

end Shape

end LinkedShapes
