import Mathlib.Data.List.Nodup

/-!
# First occurrences

What is left of a list when every element but its first occurrence is dropped:

* `nodup_eraseDups`, `eraseDups_eq_self`: nothing repeats, and nothing else is dropped.
* `eraseDups_append_congr`, `eraseDups_flatMap_congr`: parts may be replaced by others with the
  same first occurrences.
* `eraseDups_flatMap_eraseDups`: repetitions may be dropped before the elements are replaced by
  lists.
-/

namespace LinkedShapes

variable {α β : Type _} [DecidableEq α] {xs ys xs' ys' : List α}

/-- Induction that goes on with what is left of the tail once the head is dropped from it. -/
theorem firstsInduction {P : List α → Prop} (nil : P [])
    (cons : ∀ x xs, P (xs.filter fun y => !y == x) → P (x :: xs)) (xs : List α) : P xs := by
  induction h : xs.length using Nat.strongRecOn generalizing xs with
  | _ n ih =>
    cases xs with
    | nil => exact nil
    | cons x xs =>
      refine cons x xs (ih _ ?_ _ rfl)
      rw [← h]
      exact Nat.lt_succ_of_le (List.length_filter_le _ _)

theorem nodup_eraseDups (xs : List α) : xs.eraseDups.Nodup := by
  induction xs using firstsInduction with
  | nil => exact List.nodup_nil
  | cons x xs ih =>
    rw [List.eraseDups_cons, List.nodup_cons]
    refine ⟨fun hmem => ?_, ih⟩
    have hmem := List.mem_filter.1 (List.mem_eraseDups.1 hmem)
    simp at hmem

theorem eraseDups_eq_self (h : xs.Nodup) : xs.eraseDups = xs := by
  induction xs with
  | nil => rfl
  | cons x xs ih =>
    obtain ⟨hx, hxs⟩ := List.nodup_cons.1 h
    have hall : (xs.filter fun y => !y == x) = xs := by
      refine List.filter_eq_self.2 fun y hy => ?_
      have hne : y ≠ x := fun he => hx (he ▸ hy)
      simpa using hne
    rw [List.eraseDups_cons, hall, ih hxs]

theorem eraseDups_filter (p : α → Bool) (xs : List α) :
    (xs.filter p).eraseDups = xs.eraseDups.filter p := by
  induction xs using firstsInduction with
  | nil => rfl
  | cons x xs ih =>
    have hswap : ∀ ys : List α, ((ys.filter p).filter fun y => !y == x) =
        (ys.filter fun y => !y == x).filter p := fun ys => by
      rw [List.filter_filter, List.filter_filter]
      simp only [Bool.and_comm]
    cases hp : p x with
    | true =>
      rw [List.filter_cons_of_pos hp, List.eraseDups_cons, List.eraseDups_cons,
        List.filter_cons_of_pos hp, hswap, ih]
    | false =>
      have hnone : ((xs.filter p).filter fun y => !y == x) = xs.filter p := by
        refine List.filter_eq_self.2 fun y hy => ?_
        have hne : y ≠ x := by
          rintro rfl
          rw [(List.mem_filter.1 hy).2] at hp
          cases hp
        simpa using hne
      have hx : ¬ p x = true := Bool.eq_false_iff.1 hp
      rw [List.filter_cons_of_neg hx, List.eraseDups_cons, List.filter_cons_of_neg hx, ← ih,
        ← hswap, hnone]

theorem removeAll_congr (h : ∀ x, x ∈ xs ↔ x ∈ xs') : ys.removeAll xs = ys.removeAll xs' := by
  refine List.filter_congr fun y _ => ?_
  rw [Bool.eq_iff_iff]
  simp [h y]

/-- Parts may be replaced by others with the same first occurrences. -/
theorem eraseDups_append_congr (hx : xs.eraseDups = xs'.eraseDups)
    (hy : ys.eraseDups = ys'.eraseDups) : (xs ++ ys).eraseDups = (xs' ++ ys').eraseDups := by
  have hmem : ∀ x, x ∈ xs ↔ x ∈ xs' := fun x => by
    rw [← List.mem_eraseDups, hx, List.mem_eraseDups]
  rw [List.eraseDups_append, List.eraseDups_append, hx, removeAll_congr hmem]
  congr 1
  calc (ys.removeAll xs').eraseDups = ys.eraseDups.removeAll xs' := eraseDups_filter _ _
    _ = ys'.eraseDups.removeAll xs' := by rw [hy]
    _ = (ys'.removeAll xs').eraseDups := (eraseDups_filter _ _).symm

theorem eraseDups_append_self (xs : List α) : (xs ++ xs).eraseDups = xs.eraseDups := by
  have hnone : xs.removeAll xs = [] := List.filter_eq_nil_iff.2 (by simp)
  rw [List.eraseDups_append, hnone, List.eraseDups_nil, List.append_nil]

theorem eraseDups_flatMap_congr {xs : List β} {f g : β → List α}
    (h : ∀ x ∈ xs, (f x).eraseDups = (g x).eraseDups) :
    (xs.flatMap f).eraseDups = (xs.flatMap g).eraseDups := by
  induction xs with
  | nil => rfl
  | cons x xs ih =>
    obtain ⟨hx, hxs⟩ := List.forall_mem_cons.1 h
    rw [List.flatMap_cons, List.flatMap_cons]
    exact eraseDups_append_congr hx (ih hxs)

variable [DecidableEq β]

/-- What an element is replaced by counts where the element stands first. -/
theorem eraseDups_append_flatMap_filter (x : β) (xs : List β) (f : β → List α) :
    (f x ++ (xs.filter fun y => !y == x).flatMap f).eraseDups =
      (f x ++ xs.flatMap f).eraseDups := by
  have hsame : ((xs.filter fun y => !y == x).flatMap f).removeAll (f x) =
      (xs.flatMap f).removeAll (f x) := by
    induction xs with
    | nil => rfl
    | cons y xs ih =>
      have happend : ∀ as bs : List α,
          (as ++ bs).removeAll (f x) = as.removeAll (f x) ++ bs.removeAll (f x) :=
        fun as bs => List.filter_append as bs
      rw [List.flatMap_cons, happend, ← ih]
      by_cases hy : y = x
      · have hnone : (f y).removeAll (f x) = [] := by
          rw [hy]
          exact List.filter_eq_nil_iff.2 fun z hz => by simp [hz]
        rw [hnone, List.filter_cons_of_neg (by simp [hy]), List.nil_append]
      · rw [List.filter_cons_of_pos (by simp [hy]), List.flatMap_cons, happend]
  rw [List.eraseDups_append, List.eraseDups_append, hsame]

/-- Repetitions may be dropped before the elements are replaced by lists. -/
theorem eraseDups_flatMap_eraseDups (xs : List β) (f : β → List α) :
    (xs.eraseDups.flatMap f).eraseDups = (xs.flatMap f).eraseDups := by
  induction xs using firstsInduction with
  | nil => rfl
  | cons x xs ih =>
    rw [List.eraseDups_cons, List.flatMap_cons, List.flatMap_cons,
      eraseDups_append_congr rfl ih, eraseDups_append_flatMap_filter]

end LinkedShapes
