/-!
# Sets of code points

A set of code points is kept as the increasing list of points where membership flips: the set
starts out empty at zero, everything from the first point on belongs to it, everything from the
second point on does not, and so forth. Complements and intervals are cheap in this form, and
a character is looked up by walking the list until it is passed.

## Packed rows

The tables of the Unicode properties hold many points. They are written as rows of eight
points, each in six hexadecimal digits, so that a row is a single number that still reads from
left to right. A row that ends early is filled up with `0x110000`, a point beyond every code
point.
-/

namespace LinkedShapes.Unicode

/-- The eight numbers of a row. -/
def rowPoints (row : Nat) : List Nat :=
  [7, 6, 5, 4, 3, 2, 1, 0].map fun i => (row >>> (24 * i)) % 0x1000000

/-- The numbers packed into rows. -/
def unpackRows (rows : List Nat) : List Nat := rows.flatMap rowPoints

/-- A set of code points, given by the points where membership flips. -/
structure CodePoints where
  flips : List Nat
deriving DecidableEq, Repr

namespace CodePoints

/-- Membership of `n`, where `status` holds for everything below the first flip. -/
def statusAt (status : Bool) : List Nat → Nat → Bool
  | [], _ => status
  | f :: fs, n => if n < f then status else statusAt (!status) fs n

/-- A code point belongs to the set when an odd number of flips does not exceed it. -/
def containsPoint (s : CodePoints) (n : Nat) : Bool := statusAt false s.flips n

/-- Membership of a character. -/
def contains (s : CodePoints) (c : Char) : Bool := s.containsPoint c.toNat

/-- The set of the points from `first` to `last`, both included. -/
def interval (first last : Nat) : CodePoints := ⟨[first, last + 1]⟩

/-- The set whose flips are packed into rows. -/
def ofRows (rows : List Nat) : CodePoints := ⟨unpackRows rows⟩

/-- An interval holds exactly the points between its ends; it is empty if they are swapped. -/
theorem containsPoint_interval (first last n : Nat) :
    (interval first last).containsPoint n = (decide (first ≤ n) && decide (n ≤ last)) := by
  simp only [interval, containsPoint, statusAt, Bool.not_false, Bool.not_true]
  split
  · rw [decide_eq_false (by omega : ¬ first ≤ n), Bool.false_and]
  · split
    · rw [decide_eq_true (by omega : first ≤ n), decide_eq_true (by omega : n ≤ last)]; rfl
    · rw [decide_eq_false (by omega : ¬ n ≤ last), Bool.and_false]

end CodePoints

end LinkedShapes.Unicode
