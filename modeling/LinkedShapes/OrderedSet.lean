import LinkedShapes.Sorted

/-!
# Ordered sets

A finite set is the list of its elements in strictly increasing order. Two sets with the same
elements are equal, and listing a set never depends on how it was built.
-/

namespace LinkedShapes

/-- A finite set, as its elements in strictly increasing order. -/
structure OrderedSet (α : Type u) [Ord α] where
  toList : List α
  increasing : toList.Pairwise fun x y => compare x y = .lt

namespace OrderedSet

variable {α : Type u} [Ord α]

theorem ext_toList {s t : OrderedSet α} (h : s.toList = t.toList) : s = t := by
  cases s; cases t; cases h; rfl

instance [DecidableEq α] : DecidableEq (OrderedSet α) := fun s t =>
  if h : s.toList = t.toList then isTrue (ext_toList h)
  else isFalse fun e => h (congrArg toList e)

/-- The set without elements. -/
def empty : OrderedSet α := ⟨[], .nil⟩

instance : Inhabited (OrderedSet α) := ⟨empty⟩

/-- The set with the single element `x`. -/
def singleton (x : α) : OrderedSet α := ⟨[x], List.pairwise_singleton ..⟩

instance : Membership α (OrderedSet α) := ⟨fun s x => x ∈ s.toList⟩

theorem mem_toList {s : OrderedSet α} {x : α} : x ∈ s.toList ↔ x ∈ s := Iff.rfl

instance [DecidableEq α] (x : α) (s : OrderedSet α) : Decidable (x ∈ s) :=
  inferInstanceAs (Decidable (x ∈ s.toList))

/-- The number of elements. -/
def size (s : OrderedSet α) : Nat := s.toList.length

def isEmpty (s : OrderedSet α) : Bool := s.toList.isEmpty

/-- The only element, if there is exactly one. -/
def single? (s : OrderedSet α) : Option α :=
  match s.toList with
  | [x] => some x
  | _ => none

/-- The elements with a property. -/
def filter (p : α → Bool) (s : OrderedSet α) : OrderedSet α :=
  ⟨s.toList.filter p, s.increasing.filter p⟩

/-- The set without an element. -/
def erase [DecidableEq α] (s : OrderedSet α) (x : α) : OrderedSet α := s.filter (· != x)

/-- The elements of both sets. -/
def inter [DecidableEq α] (s t : OrderedSet α) : OrderedSet α := s.filter (· ∈ t)

/-- Do the sets share no element? -/
def disjoint [DecidableEq α] (s t : OrderedSet α) : Bool := s.toList.all (· ∉ t)

section

variable [Std.TransOrd α] [Std.LawfulEqOrd α]

/-- The set with one more element. -/
def insert (s : OrderedSet α) (x : α) : OrderedSet α :=
  ⟨Sorted.insert x s.toList, Sorted.pairwise_insert s.increasing⟩

/-- The set of the elements of a list. -/
def ofList (xs : List α) : OrderedSet α := xs.foldl insert empty

/-- The elements of either set. -/
def union (s t : OrderedSet α) : OrderedSet α := t.toList.foldl insert s

theorem mem_insert {s : OrderedSet α} {x y : α} : y ∈ s.insert x ↔ y = x ∨ y ∈ s :=
  Sorted.mem_insert

theorem mem_foldl_insert {xs : List α} {s : OrderedSet α} {y : α} :
    y ∈ xs.foldl insert s ↔ y ∈ s ∨ y ∈ xs := by
  induction xs generalizing s with
  | nil => simp
  | cons x xs ih =>
    rw [List.foldl_cons, ih, mem_insert, List.mem_cons]
    constructor
    · rintro ((h | h) | h) <;> simp [h]
    · rintro (h | h | h) <;> simp [h]

theorem mem_ofList {xs : List α} {y : α} : y ∈ ofList xs ↔ y ∈ xs := by
  rw [ofList, mem_foldl_insert]
  exact ⟨fun h => h.resolve_left (List.not_mem_nil), .inr⟩

theorem mem_union {s t : OrderedSet α} {y : α} : y ∈ s.union t ↔ y ∈ s ∨ y ∈ t :=
  mem_foldl_insert

end

end OrderedSet

end LinkedShapes
