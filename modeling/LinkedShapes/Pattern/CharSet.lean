import LinkedShapes.Unicode.CaseRun
import LinkedShapes.Unicode.CodePoints

/-!
# Sets of characters in patterns

A set is built from tables and intervals by the operations of set algebra. Whether letters of
different case count as the same is not a matter of the set but of the search: a character
belongs to a set when one of its case variants does. The variants of a character are those of
each of its variants, so the operations keep their meaning whatever the case rule is.
-/

namespace LinkedShapes

open Unicode

/-- Which characters count as the same. -/
inductive CaseRule where
  | exact
  /-- The letters of ASCII count in either case. -/
  | ascii
  /-- Characters with the same simple case folding count as one. -/
  | folding
deriving DecidableEq, Repr

namespace CaseRule

/-- The simple case folding of a code point. -/
def fold (n : Nat) : Nat := (foldingRuns.findSome? (·.map? n)).getD n

/-- The code points that count as the same as `n`, with `n` among them. -/
def variants : CaseRule → Nat → List Nat
  | exact, n => [n]
  | ascii, n =>
    if 0x41 ≤ n ∧ n ≤ 0x5A then [n, n + 32]
    else if 0x61 ≤ n ∧ n ≤ 0x7A then [n, n - 32]
    else [n]
  | folding, n => fold n :: foldingRuns.filterMap (·.preimage? (fold n))

end CaseRule

/-- A set of characters. -/
inductive CharSet where
  | points (s : CodePoints)
  | complement (s : CharSet)
  | union (s t : CharSet)
  | intersection (s t : CharSet)
deriving DecidableEq, Repr

namespace CharSet

/-- The set without members. -/
def empty : CharSet := points ⟨[]⟩

/-- The set of all characters. -/
def all : CharSet := empty.complement

/-- The set of the characters from `first` to `last`. -/
def range (first last : Char) : CharSet := points (.interval first.toNat last.toNat)

/-- The set of one character. -/
def only (c : Char) : CharSet := range c c

/-- The members of `s` that are not in `t`. -/
def difference (s t : CharSet) : CharSet := s.intersection t.complement

/-- The characters in exactly one of two sets. -/
def symmetricDifference (s t : CharSet) : CharSet := (s.difference t).union (t.difference s)

/-- The union of several sets. -/
def unions : List CharSet → CharSet
  | [] => empty
  | [s] => s
  | s :: ss => s.union (unions ss)

/-- Membership of a character whose case variants are `variants`. -/
def meets (variants : List Nat) : CharSet → Bool
  | points s => variants.any s.containsPoint
  | complement s => !s.meets variants
  | union s t => s.meets variants || t.meets variants
  | intersection s t => s.meets variants && t.meets variants

/-- Membership of a character. -/
def contains (s : CharSet) (rule : CaseRule) (c : Char) : Bool := s.meets (rule.variants c.toNat)

theorem meets_difference (vs : List Nat) (s t : CharSet) :
    (s.difference t).meets vs = (s.meets vs && !t.meets vs) := rfl

theorem meets_symmetricDifference (vs : List Nat) (s t : CharSet) :
    (s.symmetricDifference t).meets vs = (s.meets vs ^^ t.meets vs) := by
  simp only [symmetricDifference, meets, meets_difference]
  cases s.meets vs <;> cases t.meets vs <;> rfl

theorem meets_unions (vs : List Nat) (ss : List CharSet) :
    (unions ss).meets vs = ss.any (·.meets vs) := by
  induction ss with
  | nil => simp [unions, empty, meets, CodePoints.containsPoint, CodePoints.statusAt]
  | cons s rest ih =>
    cases rest with
    | nil => simp [unions]
    | cons t ts => simp only [unions, meets, ih, List.any_cons]

/-- Without a case rule an interval holds what lies between its ends. -/
theorem contains_range (first last c : Char) :
    (range first last).contains .exact c = (decide (first ≤ c) && decide (c ≤ last)) := by
  simp only [contains, range, meets, CaseRule.variants, List.any_cons, List.any_nil, Bool.or_false,
    CodePoints.containsPoint_interval, Char.le_def, UInt32.le_iff_toNat_le]
  rfl

end CharSet

end LinkedShapes
