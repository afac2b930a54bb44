/-!
# Sorted lists

Sets and maps are kept as lists in increasing order. This module holds the operations on such
lists; an element or key that is already there is found by comparison.
-/

namespace LinkedShapes.Sorted

variable {α β κ : Type _}

/-- Insert an element into an increasing list, unless it is there already. -/
def insert [Ord α] (x : α) : List α → List α
  | [] => [x]
  | y :: ys =>
    match compare x y with
    | .lt => x :: y :: ys
    | .eq => y :: ys
    | .gt => y :: insert x ys

/-- The value under a key. -/
def find? [Ord κ] (k : κ) : List (κ × β) → Option β
  | [] => none
  | (l, v) :: entries => if compare k l = .eq then some v else find? k entries

/-- Set the value under a key, given the value that was there before. -/
def alter [Ord κ] (k : κ) (f : Option β → β) : List (κ × β) → List (κ × β)
  | [] => [(k, f none)]
  | (l, v) :: entries =>
    match compare k l with
    | .lt => (k, f none) :: (l, v) :: entries
    | .eq => (l, f (some v)) :: entries
    | .gt => (l, v) :: alter k f entries

/-- Set the value under a key. -/
def set [Ord κ] (k : κ) (v : β) (entries : List (κ × β)) : List (κ × β) :=
  alter k (fun _ => v) entries

/-- Remove a key. -/
def remove [Ord κ] (k : κ) (entries : List (κ × β)) : List (κ × β) :=
  entries.filter fun entry => compare k entry.1 != .eq

theorem mem_insert [Ord α] [Std.LawfulEqOrd α] {x y : α} {xs : List α} :
    y ∈ insert x xs ↔ y = x ∨ y ∈ xs := by
  induction xs with
  | nil => simp [insert]
  | cons z zs ih =>
    unfold insert
    split
    · simp
    · next h =>
      have e := Std.LawfulEqOrd.eq_of_compare h
      simp [e]
    · simp only [List.mem_cons, ih]
      constructor
      · rintro (h | h | h) <;> simp [h]
      · rintro (h | h | h) <;> simp [h]

theorem pairwise_insert [Ord α] [Std.TransOrd α] [Std.LawfulEqOrd α] {x : α} {xs : List α}
    (h : xs.Pairwise fun a b => compare a b = .lt) :
    (insert x xs).Pairwise fun a b => compare a b = .lt := by
  induction xs with
  | nil => simp [insert]
  | cons y ys ih =>
    have hy := List.pairwise_cons.1 h
    unfold insert
    split
    · next hlt =>
      refine List.pairwise_cons.2 ⟨fun z hz => ?_, h⟩
      rcases List.mem_cons.1 hz with rfl | hz
      · exact hlt
      · exact Std.TransCmp.lt_trans hlt (hy.1 z hz)
    · exact h
    · next hgt =>
      refine List.pairwise_cons.2 ⟨fun z hz => ?_, ih hy.2⟩
      rcases mem_insert.1 hz with rfl | hz
      · exact Std.OrientedCmp.gt_iff_lt.1 hgt
      · exact hy.1 z hz

end LinkedShapes.Sorted
