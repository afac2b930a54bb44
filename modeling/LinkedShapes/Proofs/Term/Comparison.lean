import Mathlib.Tactic.NormNum
import LinkedShapes.Proofs.Number.Decimal
import LinkedShapes.Term.Value

/-!
# Numbers compare exactly

Literals of numeric datatypes compare by the numbers that they spell, however long they are and
whatever their datatypes. Doubles, which are rounded, are only looked at where one of the literals
spells no decimal.

* `compareNumbers?_of_spells`: numbers that are spelled out compare as rational numbers do.
* `numbers_compare_exactly`: so literals that spell numbers are in a total preorder, and those that
  are the same as values in an equivalence.
-/

namespace LinkedShapes.Term

open Vocabulary

variable {lexical x y : String} {a b : ℚ}

/-! ## Lexical forms -/

theorem isSome_decimal?_iff :
    (decimal? lexical).isSome = true ↔ ∃ v, Decimal.Spells lexical.toList v := by
  simp only [Decimal.spells_iff, Option.isSome_iff_exists, decimal?]
  constructor
  · rintro ⟨d, hd⟩
    exact ⟨_, d, hd, rfl⟩
  · rintro ⟨-, d, hd, -⟩
    exact ⟨d, hd⟩

theorem isSome_integer?_iff :
    (integer? lexical).isSome = true ↔ Decimal.IsInteger lexical.toList :=
  Decimal.isInteger_iff.symm

/-- Integers are decimals, so that nothing depends on which of the two is tried first. -/
theorem rational?_eq (lexical : String) : rational? lexical = decimal? lexical := by
  unfold rational?
  cases h : integer? lexical with
  | none => rfl
  | some d => exact (Decimal.ofDecimal?_of_ofInteger? h).symm

/-! ## Comparison -/

/-- Numbers that are spelled out compare as rational numbers do. -/
theorem compareNumbers?_of_spells (hx : Decimal.Spells x.toList a)
    (hy : Decimal.Spells y.toList b) : compareNumbers? x y = some (compare a b) := by
  obtain ⟨d, hd, rfl⟩ := Decimal.spells_iff.1 hx
  obtain ⟨e, he, rfl⟩ := Decimal.spells_iff.1 hy
  unfold compareNumbers?
  rw [rational?_eq, rational?_eq, decimal?, decimal?, hd, he]
  exact congrArg some (Decimal.order_eq_compare d e)

/-- Literals of numeric datatypes compare by the numbers that they spell. -/
theorem compareValues?_of_spells {x y : Literal} (hx : Xsd.isNumeric x.datatype = true)
    (hy : Xsd.isNumeric y.datatype = true) (ha : Decimal.Spells x.lexical.toList a)
    (hb : Decimal.Spells y.lexical.toList b) :
    compareValues? (.literal x) (.literal y) = some (compare a b) := by
  rw [compareValues?, compareLiterals?, hx, hy, Bool.and_self, if_pos rfl]
  exact compareNumbers?_of_spells ha hb

/-- A literal of a numeric datatype that spells a number. -/
structure Number where
  literal : Literal
  isNumeric : Xsd.isNumeric literal.datatype = true
  spells : ∃ v, Decimal.Spells literal.lexical.toList v

namespace Number

variable {m n p : Number}

/-- The literal as a term. -/
def term (m : Number) : Term := .literal m.literal

/-- The literal spells this number. -/
def Spells (m : Number) (v : ℚ) : Prop := Decimal.Spells m.literal.lexical.toList v

/-- Does a number come before another one, or together with it? -/
def AtMost (m n : Number) : Prop := ∃ o, compareValues? m.term n.term = some o ∧ o.isLE = true

/-- Are two numbers the same as values? -/
def Same (m n : Number) : Prop := sameValue m.term n.term = true

theorem compare_of_spells (ha : m.Spells a) (hb : n.Spells b) :
    compareValues? m.term n.term = some (compare a b) :=
  compareValues?_of_spells m.isNumeric n.isNumeric ha hb

theorem compare_swap (m n : Number) :
    compareValues? n.term m.term = (compareValues? m.term n.term).map .swap := by
  obtain ⟨a, ha⟩ := m.spells
  obtain ⟨b, hb⟩ := n.spells
  rw [compare_of_spells ha hb, compare_of_spells hb ha, Option.map_some,
    ← Std.OrientedOrd.eq_swap]

theorem atMost_iff (ha : m.Spells a) (hb : n.Spells b) : AtMost m n ↔ a ≤ b := by
  simp only [AtMost, compare_of_spells ha hb, Option.some.injEq, exists_eq_left',
    ← compare_le_iff_le, Ordering.ne_gt_iff_isLE]

theorem same_iff (ha : m.Spells a) (hb : n.Spells b) : Same m n ↔ a = b := by
  rw [Same, sameValue, compare_of_spells ha hb, Bool.or_eq_true, beq_iff_eq, beq_iff_eq,
    Option.some.injEq, compare_eq_iff_eq, or_iff_right_iff_imp]
  intro heq
  have hliteral : m.literal = n.literal := Term.literal.inj heq
  rw [Spells, hliteral] at ha
  exact ha.unique hb

theorem equivalence_same : Equivalence Same where
  refl m := by
    obtain ⟨a, ha⟩ := m.spells
    exact (same_iff ha ha).2 rfl
  symm {m n} h := by
    obtain ⟨a, ha⟩ := m.spells
    obtain ⟨b, hb⟩ := n.spells
    exact (same_iff hb ha).2 ((same_iff ha hb).1 h).symm
  trans {m n p} h h' := by
    obtain ⟨a, ha⟩ := m.spells
    obtain ⟨b, hb⟩ := n.spells
    obtain ⟨c, hc⟩ := p.spells
    exact (same_iff ha hc).2 (((same_iff ha hb).1 h).trans ((same_iff hb hc).1 h'))

theorem atMost_trans (h : AtMost m n) (h' : AtMost n p) : AtMost m p := by
  obtain ⟨a, ha⟩ := m.spells
  obtain ⟨b, hb⟩ := n.spells
  obtain ⟨c, hc⟩ := p.spells
  exact (atMost_iff ha hc).2 (((atMost_iff ha hb).1 h).trans ((atMost_iff hb hc).1 h'))

theorem atMost_total (m n : Number) : AtMost m n ∨ AtMost n m := by
  obtain ⟨a, ha⟩ := m.spells
  obtain ⟨b, hb⟩ := n.spells
  rw [atMost_iff ha hb, atMost_iff hb ha]
  exact le_total a b

/-- Just the lexical forms of decimals and of integers are read, and numbers in these forms compare
exactly, whatever their datatypes: by the rational numbers that they spell. So they are in a total
preorder, turned round where the two change places, and are the same in an equivalence. -/
theorem numbers_compare_exactly :
    (∀ lexical : String,
      (decimal? lexical).isSome = true ↔ ∃ v, Decimal.Spells lexical.toList v) ∧
    (∀ lexical : String, (integer? lexical).isSome = true ↔ Decimal.IsInteger lexical.toList) ∧
    (∀ (m n : Number) (a b : ℚ), m.Spells a → n.Spells b →
      compareValues? m.term n.term = some (compare a b)) ∧
    (∀ m n : Number, compareValues? n.term m.term = (compareValues? m.term n.term).map .swap) ∧
    (∀ m : Number, AtMost m m) ∧
    (∀ m n p : Number, AtMost m n → AtMost n p → AtMost m p) ∧
    (∀ m n : Number, AtMost m n ∨ AtMost n m) ∧
    Equivalence Same :=
  ⟨fun _ => isSome_decimal?_iff, fun _ => isSome_integer?_iff,
    fun _ _ _ _ => compare_of_spells, compare_swap, fun m => or_self_iff.1 (atMost_total m m),
    fun _ _ _ => atMost_trans, atMost_total, equivalence_same⟩

/-- The least integer that no double stands for. -/
def unrounded : Number where
  literal := ⟨"+9007199254740993", Xsd.integer, none⟩
  isNumeric := by decide +kernel
  spells := isSome_decimal?_iff.1 (by decide +kernel)

/-- The integer before it, as a double. -/
def rounded : Number where
  literal := ⟨"9007199254740992.", Xsd.double, none⟩
  isNumeric := by decide +kernel
  spells := isSome_decimal?_iff.1 (by decide +kernel)

theorem numbers_compare_exactly_neighbours :
    compareValues? rounded.term unrounded.term = some .lt ∧
      compareValues? unrounded.term rounded.term = some .gt := by
  obtain ⟨-, -, hcompare, hswap, -⟩ := numbers_compare_exactly
  have hr : rounded.Spells (Decimal.toRat ⟨9007199254740992, 0⟩) :=
    Decimal.spells_iff.2 ⟨_, by decide +kernel, rfl⟩
  have hu : unrounded.Spells (Decimal.toRat ⟨9007199254740993, 0⟩) :=
    Decimal.spells_iff.2 ⟨_, by decide +kernel, rfl⟩
  have hlt : compareValues? rounded.term unrounded.term = some .lt := by
    rw [hcompare _ _ _ _ hr hu, compare_lt_iff_lt.2 (by norm_num [Decimal.toRat])]
  exact ⟨hlt, by rw [hswap rounded unrounded, hlt]; rfl⟩

end Number

end LinkedShapes.Term
