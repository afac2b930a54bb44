import LinkedShapes.OrderedSet

/-!
# Increasing lists

What the operations on increasing lists do to their members:

* `eq_of_mem_iff`: increasing lists with the same members are equal.
* `insert_filter`: inserting into a selection.
* `find?_alter_self`, `find?_alter_of_ne`, `pairwise_alter`: the values under the keys after a
  change, and the order of keys.
* `entries_eq_of_find?`: entries in the order of their keys are what is found under each key.
* `takeWhile_eq_filter`, `dropWhile_eq_filter`: cutting a list where a property ends selects by
  the property, if it never starts again.
-/

namespace LinkedShapes.Sorted

variable {α β κ : Type _}

/-- The list is strictly increasing. -/
def Increasing [Ord α] (xs : List α) : Prop := xs.Pairwise fun x y => compare x y = .lt

/-- The keys of the entries are strictly increasing. -/
def KeysIncreasing [Ord κ] (entries : List (κ × β)) : Prop :=
  entries.Pairwise fun x y => compare x.1 y.1 = .lt

/-! ## Members -/

section Members

variable {xs ys : List α} {x : α}

theorem eq_of_pairwise {r : α → α → Prop} (asymm : ∀ x y, r x y → ¬ r y x) (hx : xs.Pairwise r)
    (hy : ys.Pairwise r) (h : ∀ x, x ∈ xs ↔ x ∈ ys) : xs = ys := by
  have ne_of_rel : ∀ x y, r x y → x ≠ y := by
    rintro x y hxy rfl
    exact asymm x x hxy hxy
  have hx' : xs.Nodup := hx.imp fun {a b} => ne_of_rel a b
  have hy' : ys.Nodup := hy.imp fun {a b} => ne_of_rel a b
  refine List.Perm.eq_of_pairwise ?_ hx hy ((List.perm_ext_iff_of_nodup hx' hy').mpr h)
  intro a b _ _ hab hba
  exact absurd hba (asymm a b hab)

variable [Ord α] [Std.TransOrd α]

theorem Increasing.nodup (h : Increasing xs) : xs.Nodup := by
  refine h.imp ?_
  intro a b hab he
  rw [he, Std.compare_self] at hab
  cases hab

/-- An increasing list is determined by its members. -/
theorem eq_of_mem_iff (hx : Increasing xs) (hy : Increasing ys) (h : ∀ x, x ∈ xs ↔ x ∈ ys) :
    xs = ys :=
  eq_of_pairwise (fun _ _ => Std.OrientedCmp.not_lt_of_lt) hx hy h

variable [Std.LawfulEqOrd α]

/-- Inserting commutes with selecting, for an element that the selection keeps. -/
theorem insert_filter {p : α → Bool} (h : Increasing xs) (hp : p x = true) :
    insert x (xs.filter p) = (insert x xs).filter p := by
  refine eq_of_mem_iff (pairwise_insert (List.Pairwise.filter p h))
    (List.Pairwise.filter p (pairwise_insert h)) ?_
  intro y
  simp only [mem_insert, List.mem_filter]
  constructor
  · rintro (rfl | ⟨hy, hpy⟩)
    · exact ⟨Or.inl rfl, hp⟩
    · exact ⟨Or.inr hy, hpy⟩
  · rintro ⟨hy | hy, hpy⟩
    · exact Or.inl hy
    · exact Or.inr ⟨hy, hpy⟩

theorem filter_insert_of_not {p : α → Bool} (h : Increasing xs) (hp : p x = false) :
    (insert x xs).filter p = xs.filter p := by
  refine eq_of_mem_iff (List.Pairwise.filter p (pairwise_insert h)) (List.Pairwise.filter p h) ?_
  intro y
  simp only [mem_insert, List.mem_filter]
  constructor
  · rintro ⟨rfl | hy, hpy⟩
    · rw [hp] at hpy
      cases hpy
    · exact ⟨hy, hpy⟩
  · rintro ⟨hy, hpy⟩
    exact ⟨Or.inr hy, hpy⟩

end Members

/-! ## Keys -/

section Keys

variable [Ord κ] {entries : List (κ × β)} {k l : κ} {v : β} {f : Option β → β}

theorem mem_of_find? [Std.LawfulEqOrd κ] (h : find? k entries = some v) : (k, v) ∈ entries := by
  induction entries with
  | nil => cases h
  | cons entry entries ih =>
    unfold find? at h
    split at h
    · next he =>
      cases h
      rw [Std.LawfulEqOrd.eq_of_compare he]
      exact List.mem_cons_self
    · exact List.mem_cons_of_mem _ (ih h)

theorem find?_of_lt (h : ∀ entry ∈ entries, compare k entry.1 = .lt) : find? k entries = none := by
  induction entries with
  | nil => rfl
  | cons entry entries ih =>
    have hlt := h entry List.mem_cons_self
    unfold find?
    rw [if_neg (by rw [hlt]; decide)]
    exact ih fun e he => h e (List.mem_cons_of_mem _ he)

theorem alter_key_mem [Std.LawfulEqOrd κ] {entry : κ × β} (h : entry ∈ alter k f entries) :
    entry.1 = k ∨ entry ∈ entries := by
  induction entries with
  | nil =>
    rw [alter, List.mem_singleton] at h
    exact Or.inl (congrArg Prod.fst h)
  | cons first entries ih =>
    unfold alter at h
    split at h
    · rcases List.mem_cons.1 h with rfl | h
      · exact Or.inl rfl
      · exact Or.inr h
    · next he =>
      rcases List.mem_cons.1 h with rfl | h
      · exact Or.inl (Std.LawfulEqOrd.eq_of_compare he).symm
      · exact Or.inr (List.mem_cons_of_mem _ h)
    · rcases List.mem_cons.1 h with rfl | h
      · exact Or.inr List.mem_cons_self
      · exact (ih h).imp_right (List.mem_cons_of_mem _)

theorem mem_set {entry : κ × β} (h : entry ∈ set k v entries) : entry.2 = v ∨ entry ∈ entries := by
  induction entries with
  | nil =>
    rw [set, alter, List.mem_singleton] at h
    exact Or.inl (congrArg Prod.snd h)
  | cons first entries ih =>
    unfold set alter at h
    split at h
    · rcases List.mem_cons.1 h with rfl | h
      · exact Or.inl rfl
      · exact Or.inr h
    · rcases List.mem_cons.1 h with rfl | h
      · exact Or.inl rfl
      · exact Or.inr (List.mem_cons_of_mem _ h)
    · rcases List.mem_cons.1 h with rfl | h
      · exact Or.inr List.mem_cons_self
      · exact (ih h).imp_right (List.mem_cons_of_mem _)

theorem set_ne_nil : set k v entries ≠ [] := by
  unfold set
  cases entries with
  | nil => simp [alter]
  | cons first entries =>
    unfold alter
    split <;> simp

theorem find?_remove_of_ne [Std.LawfulEqOrd κ] (hne : k ≠ l) :
    find? k (remove l entries) = find? k entries := by
  have hcmp : compare k l ≠ .eq := fun he => hne (Std.LawfulEqOrd.eq_of_compare he)
  induction entries with
  | nil => rfl
  | cons entry entries ih =>
    unfold remove at ih ⊢
    by_cases hl : compare l entry.1 = .eq
    · -- the removed entry is not the one that is looked for
      rw [List.filter_cons_of_neg (by simp [hl]), ih, find?, if_neg]
      rwa [← Std.LawfulEqOrd.eq_of_compare hl]
    · rw [List.filter_cons_of_pos (by simpa using hl), find?, find?, ih]

theorem KeysIncreasing.remove (h : KeysIncreasing entries) : KeysIncreasing (remove k entries) :=
  List.Pairwise.filter _ h

/-- The other keys keep their values. -/
theorem find?_alter_of_ne [Std.LawfulEqOrd κ] (hne : k ≠ l) :
    find? k (alter l f entries) = find? k entries := by
  have hcmp : compare k l ≠ .eq := fun he => hne (Std.LawfulEqOrd.eq_of_compare he)
  induction entries with
  | nil => simp [alter, find?, hcmp]
  | cons first entries ih =>
    unfold alter
    split
    · rw [find?, if_neg hcmp]
    · next he =>
      have hkf : compare k first.1 ≠ .eq := by
        rw [← Std.LawfulEqOrd.eq_of_compare he]
        exact hcmp
      simp only [find?, hkf, if_false]
    · simp only [find?]
      rw [ih]

variable [Std.TransOrd κ]

/-- Entries with increasing keys are determined by their members. -/
theorem entries_eq_of_mem_iff {others : List (κ × β)} (h : KeysIncreasing entries)
    (h' : KeysIncreasing others) (hm : ∀ entry, entry ∈ entries ↔ entry ∈ others) :
    entries = others :=
  eq_of_pairwise (fun _ _ => Std.OrientedCmp.not_lt_of_lt) h h' hm

/-- Every entry is found under its key. -/
theorem find?_of_mem (h : KeysIncreasing entries) (hm : (k, v) ∈ entries) :
    find? k entries = some v := by
  induction entries with
  | nil => cases hm
  | cons entry entries ih =>
    have hlt := (List.pairwise_cons.1 h).1
    unfold find?
    rcases List.mem_cons.1 hm with rfl | hm
    · rw [if_pos Std.ReflCmp.compare_self]
    · have hgt := Std.OrientedCmp.gt_iff_lt.2 (hlt _ hm)
      rw [if_neg (by rw [hgt]; decide)]
      exact ih (List.pairwise_cons.1 h).2 hm

variable [Std.LawfulEqOrd κ]

/-- Entries with increasing keys are determined by what is found under each key. -/
theorem entries_eq_of_find? {others : List (κ × β)} (h : KeysIncreasing entries)
    (h' : KeysIncreasing others) (hfind : ∀ k, find? k entries = find? k others) :
    entries = others := by
  refine entries_eq_of_mem_iff h h' fun entry => ⟨fun hm => ?_, fun hm => ?_⟩
  · exact mem_of_find? (by rw [← hfind, find?_of_mem h hm])
  · exact mem_of_find? (by rw [hfind, find?_of_mem h' hm])

theorem pairwise_alter (h : KeysIncreasing entries) : KeysIncreasing (alter k f entries) := by
  induction entries with
  | nil => exact List.pairwise_singleton ..
  | cons first entries ih =>
    have hf := List.pairwise_cons.1 h
    unfold alter
    split
    · next hlt =>
      refine List.pairwise_cons.2 ⟨fun entry he => ?_, h⟩
      rcases List.mem_cons.1 he with rfl | he
      · exact hlt
      · exact Std.TransCmp.lt_trans hlt (hf.1 entry he)
    · exact List.pairwise_cons.2 hf
    · next hgt =>
      refine List.pairwise_cons.2 ⟨fun entry he => ?_, ih hf.2⟩
      rcases alter_key_mem he with rfl | he
      · exact Std.OrientedCmp.gt_iff_lt.1 hgt
      · exact hf.1 entry he

/-- A changed key has its new value. -/
theorem find?_alter_self (h : KeysIncreasing entries) :
    find? k (alter k f entries) = some (f (find? k entries)) := by
  induction entries with
  | nil => simp [alter, find?, Std.ReflCmp.compare_self]
  | cons first entries ih =>
    have hf := List.pairwise_cons.1 h
    unfold alter
    split
    · next hlt =>
      have hnone : find? k (first :: entries) = none := by
        refine find?_of_lt fun entry he => ?_
        rcases List.mem_cons.1 he with rfl | he
        · exact hlt
        · exact Std.TransCmp.lt_trans hlt (hf.1 entry he)
      rw [show (first.1, first.2) :: entries = first :: entries from rfl, hnone, find?,
        if_pos Std.ReflCmp.compare_self]
    · next he => simp only [find?, he, if_true]
    · next hgt =>
      simp only [find?, hgt, reduceCtorEq, if_false]
      exact ih hf.2

end Keys

/-! ## Cutting -/

section Cutting

variable {p : α → Bool} {xs : List α}

/-- Taking elements up to where a property ends takes all elements that have it. -/
theorem takeWhile_eq_filter (h : xs.Pairwise fun x y => p y = true → p x = true) :
    xs.takeWhile p = xs.filter p := by
  induction xs with
  | nil => rfl
  | cons x xs ih =>
    have hx := List.pairwise_cons.1 h
    by_cases hp : p x = true
    · rw [List.takeWhile_cons_of_pos hp, List.filter_cons_of_pos hp, ih hx.2]
    · rw [List.takeWhile_cons_of_neg hp, List.filter_cons_of_neg hp]
      refine (List.filter_eq_nil_iff.2 ?_).symm
      intro y hy hpy
      exact hp (hx.1 y hy hpy)

/-- Dropping elements up to where a property ends drops all elements that have it. -/
theorem dropWhile_eq_filter (h : xs.Pairwise fun x y => p y = true → p x = true) :
    xs.dropWhile p = xs.filter (! p ·) := by
  induction xs with
  | nil => rfl
  | cons x xs ih =>
    have hx := List.pairwise_cons.1 h
    by_cases hp : p x = true
    · rw [List.dropWhile_cons_of_pos hp, List.filter_cons_of_neg (by simp [hp]), ih hx.2]
    · rw [List.dropWhile_cons_of_neg hp]
      refine (List.filter_eq_self.2 ?_).symm
      intro y hy
      rcases List.mem_cons.1 hy with rfl | hy
      · simp [hp]
      · simpa using fun hpy => hp (hx.1 y hy hpy)

end Cutting

end LinkedShapes.Sorted

namespace LinkedShapes.OrderedSet

variable {α : Type _} [Ord α] [Std.TransOrd α] {s t : OrderedSet α} {xs ys : List α}

theorem nodup_toList (s : OrderedSet α) : s.toList.Nodup := Sorted.Increasing.nodup s.increasing

/-- A set has no more to it than its elements. -/
theorem eq_of_mem_iff (h : ∀ x, x ∈ s ↔ x ∈ t) : s = t :=
  ext_toList (Sorted.eq_of_mem_iff s.increasing t.increasing h)

theorem ofList_congr [Std.LawfulEqOrd α] (h : ∀ x, x ∈ xs ↔ x ∈ ys) : ofList xs = ofList ys :=
  eq_of_mem_iff fun x => by rw [mem_ofList, mem_ofList, h]

end LinkedShapes.OrderedSet
