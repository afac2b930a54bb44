import Mathlib.Data.List.Nodup
import LinkedShapes.Keywords
import LinkedShapes.Proofs.Sorted

/-!
# Names of keywords that pass the check

* `Keywords.keyword?_nameOf`: the name a keyword goes by stands for that keyword, so keywords that
  differ go by names that differ.
* `Keywords.reserved_of_nameOf`: a name that a keyword goes by is no name for a field.
-/

namespace LinkedShapes

open Vocabulary

namespace Keywords

variable {k : Keywords} {keyword name : String}

/-! ## Words and keywords -/

theorem not_looksReserved_of_isWord (h : Text.isWord name = true) : looksReserved name = false := by
  unfold Text.isWord at h
  unfold looksReserved
  cases hl : name.toList with
  | nil => rfl
  | cons c cs =>
    rw [hl, Bool.and_eq_true, List.all_cons, Bool.and_eq_true] at h
    obtain ⟨-, hc, -⟩ := h
    have hne : c ≠ '@' := by
      rintro rfl
      exact absurd hc (by decide)
    simpa using hne

/-! ## What the check finds -/

theorem checkAll_ok {seen overrides : List (String × String)}
    (h : checkAll seen overrides = .ok ()) :
    (∀ o ∈ overrides, o.1 ∈ Keyword.aliasable ∧ Text.isWord o.2 = true ∧ seen.lookup o.2 = .none) ∧
      (overrides.map (·.2)).Nodup := by
  induction overrides generalizing seen with
  | nil => exact ⟨fun _ ho => absurd ho List.not_mem_nil, List.nodup_nil⟩
  | cons o overrides ih =>
    obtain ⟨keyword, name⟩ := o
    unfold checkAll at h
    split at h
    · cases h
    · next hk =>
      split at h
      · cases h
      · next hw =>
        split at h
        · cases h
        · next hs =>
          obtain ⟨hrest, hpair⟩ := ih h
          -- the rest was checked with this name among those seen, so no later name is the same
          have hne : ∀ o ∈ overrides, o.2 ≠ name ∧ seen.lookup o.2 = .none := by
            intro o ho
            have hl := (hrest o ho).2.2
            rw [List.lookup_cons] at hl
            split at hl
            · cases hl
            · next hb => exact ⟨by simpa using hb, hl⟩
          constructor
          · intro o ho
            rcases List.mem_cons.1 ho with rfl | ho
            · exact ⟨by simpa using hk, by simpa using hw, hs⟩
            · exact ⟨(hrest o ho).1, (hrest o ho).2.1, (hne o ho).2⟩
          · rw [List.map_cons, List.nodup_cons]
            refine ⟨fun hmem => ?_, hpair⟩
            obtain ⟨o, ho, heq⟩ := List.mem_map.1 hmem
            exact (hne o ho).1 heq

theorem not_looksReserved_of_mem (h : k.check = .ok ()) {o : String × String}
    (ho : o ∈ k.overrides) : looksReserved o.2 = false :=
  not_looksReserved_of_isWord ((checkAll_ok h).1 o ho).2.1

/-! ## Names -/

/-- A keyword goes by a name of its own, or else by itself. -/
theorem nameOf_cases (k : Keywords) (keyword : String) :
    (keyword, k.nameOf keyword) ∈ k.overrides ∨ k.nameOf keyword = keyword := by
  unfold nameOf
  cases hf : Sorted.find? keyword k.overrides with
  | none => exact Or.inr rfl
  | some name =>
    exact Or.inl (Sorted.mem_of_find? hf)

/-- Another name of a keyword stands for that keyword. -/
theorem keyword?_of_mem (h : k.check = .ok ()) {o : String × String} (ho : o ∈ k.overrides) :
    k.keyword? o.2 = some o.1 := by
  unfold keyword?
  cases hf : k.overrides.find? (·.2 == o.2) with
  | none => exact absurd (beq_self_eq_true _) (List.find?_eq_none.1 hf _ ho)
  | some o' =>
    have hname : o'.2 = o.2 := by simpa using List.find?_some hf
    have hmem := List.mem_of_find?_eq_some hf
    obtain rfl : o' = o := List.inj_on_of_nodup_map (checkAll_ok h).2 hmem ho hname
    rfl

/-- The name a keyword goes by stands for that keyword. -/
theorem keyword?_nameOf (h : k.check = .ok ()) (hk : looksReserved keyword = true) :
    k.keyword? (k.nameOf keyword) = some keyword := by
  rcases nameOf_cases k keyword with hmem | he
  · exact keyword?_of_mem h hmem
  · rw [he]
    unfold keyword?
    cases hf : k.overrides.find? (·.2 == keyword) with
    | none => exact if_pos hk
    | some o =>
      have hname : o.2 = keyword := by simpa using List.find?_some hf
      have hno := not_looksReserved_of_mem h (List.mem_of_find?_eq_some hf)
      rw [hname, hk] at hno
      cases hno

theorem nameOf_injective (h : k.check = .ok ()) {keyword keyword' : String}
    (hk : looksReserved keyword = true) (hk' : looksReserved keyword' = true)
    (he : k.nameOf keyword = k.nameOf keyword') : keyword = keyword' := by
  have h₁ := keyword?_nameOf h hk
  rw [he, keyword?_nameOf h hk'] at h₁
  exact (Option.some.inj h₁).symm

/-- A name that a keyword goes by is taken. -/
theorem reserved_of_nameOf (hk : looksReserved keyword = true) :
    looksReserved (k.nameOf keyword) = true ∨ k.isReserved (k.nameOf keyword) = true := by
  rcases nameOf_cases k keyword with hmem | he
  · exact Or.inr (List.any_eq_true.2 ⟨_, hmem, beq_self_eq_true _⟩)
  · rw [he]
    exact Or.inl hk

/-- A name that is not taken stands for no keyword. -/
theorem keyword?_eq_none (hl : looksReserved name = false) (hr : k.isReserved name = false) :
    k.keyword? name = .none := by
  unfold keyword?
  cases hf : k.overrides.find? (·.2 == name) with
  | none => simp [hl]
  | some o =>
    have hname := List.find?_some hf
    have hany : k.isReserved name = true :=
      List.any_eq_true.2 ⟨o, List.mem_of_find?_eq_some hf, hname⟩
    rw [hr] at hany
    cases hany

end Keywords

end LinkedShapes
