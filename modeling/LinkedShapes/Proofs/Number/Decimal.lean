import Mathlib.Algebra.Order.Field.Rat
import Mathlib.Data.List.Induction
import Mathlib.Data.List.TakeWhile
import Mathlib.Data.Rat.Cast.Order
import Mathlib.Order.Compare
import Mathlib.Tactic.FieldSimp
import Mathlib.Tactic.Positivity
import Mathlib.Tactic.Ring
import LinkedShapes.Number.Decimal

/-!
# What decimals stand for

The grammar of decimals is told apart from how they are read: by `Spells`, with the rational number
that each of them stands for, digit by digit. Reading finds just these forms, and the order of what
is read is the order of the numbers.

* `spells_iff`: a text is read as a decimal if and only if it spells a number, and as that number.
* `isInteger_iff`: a text is read as an integer if and only if it has no point.
* `order_eq_compare`: decimals are in the order of the numbers they stand for.
-/

namespace LinkedShapes.Decimal

open Text

variable {text u w f ds : List Char} {v : ℚ} {c : Char} {d x y : Decimal}

/-! ## The grammar -/

/-- Are these decimal digits? -/
def AreDigits (ds : List Char) : Prop := ∀ c ∈ ds, isAsciiDigit c = true

/-- What digits before the point are worth. -/
def wholeValue : List Char → ℚ
  | [] => 0
  | c :: cs => digitValue c * 10 ^ cs.length + wholeValue cs

/-- What digits behind the point are worth. -/
def fractionValue : List Char → ℚ
  | [] => 0
  | c :: cs => (digitValue c + fractionValue cs) / 10

/-- A sign, which may be left out. -/
inductive IsSign : List Char → ℚ → Prop
  | none : IsSign [] 1
  | plus : IsSign ['+'] 1
  | minus : IsSign ['-'] (-1)

/-- A number without a sign: digits, perhaps with a point behind or among them, or digits behind a
point. -/
inductive IsUnsigned : List Char → ℚ → Prop
  | whole {ds : List Char} : ds ≠ [] → AreDigits ds → IsUnsigned ds (wholeValue ds)
  | point {ds fs : List Char} : ds ≠ [] → AreDigits ds → AreDigits fs →
      IsUnsigned (ds ++ '.' :: fs) (wholeValue ds + fractionValue fs)
  | fraction {fs : List Char} : fs ≠ [] → AreDigits fs →
      IsUnsigned ('.' :: fs) (fractionValue fs)

/-- The text spells a number: a sign if need be, and a number without a sign. -/
inductive Spells : List Char → ℚ → Prop
  | intro {s u : List Char} {sign v : ℚ} : IsSign s sign → IsUnsigned u v →
      Spells (s ++ u) (sign * v)

/-- The text spells an integer: a sign if need be, and digits. -/
inductive IsInteger : List Char → Prop
  | intro {s ds : List Char} {sign : ℚ} : IsSign s sign → ds ≠ [] → AreDigits ds →
      IsInteger (s ++ ds)

/-! ## Values of digits -/

theorem wholeValue_append (ds es : List Char) :
    wholeValue (ds ++ es) = wholeValue ds * 10 ^ es.length + wholeValue es := by
  induction ds with
  | nil => simp [wholeValue]
  | cons c ds ih =>
    rw [List.cons_append, wholeValue, wholeValue, ih, List.length_append, pow_add]
    ring

theorem digitsValue_eq (ds : List Char) : (digitsValue ds : ℚ) = wholeValue ds := by
  induction ds using List.reverseRecOn with
  | nil => rfl
  | append_singleton ds c ih =>
    have hstep : digitsValue (ds ++ [c]) = 10 * digitsValue ds + digitValue c := by
      rw [digitsValue, List.foldl_append]
      rfl
    rw [hstep, wholeValue_append, ← ih]
    push_cast
    simp [wholeValue]
    ring

theorem fractionValue_eq (fs : List Char) : fractionValue fs = wholeValue fs / 10 ^ fs.length := by
  induction fs with
  | nil => simp [fractionValue, wholeValue]
  | cons c fs ih =>
    rw [fractionValue, wholeValue, ih, List.length_cons, pow_succ]
    field_simp

/-- What digits are worth that have a point among them. -/
theorem digitsValue_append (ds fs : List Char) :
    (digitsValue (ds ++ fs) : ℚ) / 10 ^ fs.length = wholeValue ds + fractionValue fs := by
  rw [digitsValue_eq, wholeValue_append, fractionValue_eq]
  field_simp

/-! ## Reading -/

/-- The number that a decimal stands for. -/
def toRat (d : Decimal) : ℚ := d.coefficient / 10 ^ d.scale

theorem ne_point_of_isAsciiDigit (h : isAsciiDigit c = true) : c ≠ '.' := by
  rintro rfl
  exact absurd h (by decide)

theorem splitPoint_digits (h : AreDigits ds) : splitPoint ds = (ds, []) := by
  have hpass : ∀ c ∈ ds, (c != '.') = true := fun c hc =>
    bne_iff_ne.2 (ne_point_of_isAsciiDigit (h c hc))
  rw [splitPoint, List.takeWhile_eq_self_iff.2 hpass, List.dropWhile_eq_nil_iff.2 hpass]
  rfl

theorem splitPoint_append (h : AreDigits ds) (fs : List Char) :
    splitPoint (ds ++ '.' :: fs) = (ds, fs) := by
  have hpass : ∀ c ∈ ds, (c != '.') = true := fun c hc =>
    bne_iff_ne.2 (ne_point_of_isAsciiDigit (h c hc))
  simp [splitPoint, List.takeWhile_append_of_pos hpass, List.dropWhile_append_of_pos hpass]

/-- What stands before the point and behind it makes up the text. -/
theorem splitPoint_cases (text : List Char) :
    splitPoint text = (text, []) ∨
      text = (splitPoint text).1 ++ '.' :: (splitPoint text).2 := by
  have heq := List.takeWhile_append_dropWhile (p := (· != '.')) (l := text)
  cases hd : text.dropWhile (· != '.') with
  | nil =>
    rw [hd, List.append_nil] at heq
    rw [splitPoint, hd, heq]
    exact Or.inl rfl
  | cons c rest =>
    have hc : c = '.' := by
      have := List.head?_dropWhile_not (· != '.') text
      rw [hd] at this
      simpa using this
    rw [hd, hc] at heq
    refine Or.inr ?_
    rw [splitPoint, hd]
    exact heq.symm

/-- A number without a sign is found in its two parts. -/
theorem isUnsigned_iff : IsUnsigned u v ↔
    ((splitPoint u).1 ≠ [] ∨ (splitPoint u).2 ≠ []) ∧ AreDigits (splitPoint u).1 ∧
      AreDigits (splitPoint u).2 ∧
      v = wholeValue (splitPoint u).1 + fractionValue (splitPoint u).2 := by
  have hnone : AreDigits [] := fun _ hc => absurd hc List.not_mem_nil
  constructor
  · intro h
    cases h with
    | whole hne hds =>
      rw [splitPoint_digits hds]
      exact ⟨Or.inl hne, hds, hnone, (add_zero _).symm⟩
    | point hne hds hfs =>
      rw [splitPoint_append hds]
      exact ⟨Or.inl hne, hds, hfs, rfl⟩
    | @fraction fs hne hfs =>
      rw [← List.nil_append ('.' :: fs), splitPoint_append hnone]
      exact ⟨Or.inr hne, hnone, hfs, (zero_add _).symm⟩
  · rintro ⟨hne, hds, hfs, rfl⟩
    rcases splitPoint_cases u with heq | heq
    · rw [heq] at hne hds ⊢
      have h := IsUnsigned.whole (hne.resolve_right fun h => h rfl) hds
      rwa [fractionValue, add_zero]
    · generalize splitPoint u = parts at *
      obtain ⟨ds, fs⟩ := parts
      subst heq
      cases ds with
      | nil =>
        have h := IsUnsigned.fraction (hne.resolve_left fun h => h rfl) hfs
        rwa [wholeValue, zero_add]
      | cons c ds => exact .point (List.cons_ne_nil _ _) hds hfs

theorem splitSign_of_isUnsigned (h : IsUnsigned u v) : splitSign u = (false, u) := by
  have hdigits : ∀ {ds rest : List Char}, ds ≠ [] → AreDigits ds →
      splitSign (ds ++ rest) = (false, ds ++ rest) := by
    intro ds rest hne hds
    cases ds with
    | nil => exact absurd rfl hne
    | cons c ds =>
      have hc := hds c List.mem_cons_self
      rw [List.cons_append, splitSign]
      all_goals
        intro _ heq
        cases heq
        exact absurd hc (by decide)
  cases h with
  | whole hne hds =>
    rw [← List.append_nil u]
    exact hdigits hne hds
  | point hne hds hfs => exact hdigits hne hds
  | fraction hne hfs => rfl

/-- The sign is split off. -/
theorem splitSign_cases (text : List Char) : ∃ s sign, IsSign s sign ∧
    text = s ++ (splitSign text).2 ∧ sign = if (splitSign text).1 then -1 else 1 := by
  unfold splitSign
  split
  · exact ⟨_, _, .plus, rfl, rfl⟩
  · exact ⟨_, _, .minus, rfl, rfl⟩
  · exact ⟨_, _, .none, rfl, rfl⟩

theorem splitSign_append {s : List Char} {sign : ℚ} (hs : IsSign s sign) (hu : IsUnsigned u v) :
    (splitSign (s ++ u)).2 = u ∧ sign = if (splitSign (s ++ u)).1 then -1 else 1 := by
  cases hs with
  | none =>
    rw [List.nil_append, splitSign_of_isUnsigned hu]
    exact ⟨rfl, rfl⟩
  | plus | minus => exact ⟨rfl, rfl⟩

theorem spells_iff_splitSign : Spells text v ↔ ∃ w, IsUnsigned (splitSign text).2 w ∧
    v = (if (splitSign text).1 then -1 else 1) * w := by
  constructor
  · rintro ⟨hs, hu⟩
    obtain ⟨heq, hsign⟩ := splitSign_append hs hu
    exact ⟨_, heq.symm ▸ hu, by rw [hsign]⟩
  · rintro ⟨w, hw, rfl⟩
    obtain ⟨s, sign, hs, heq, hsign⟩ := splitSign_cases text
    have h := Spells.intro hs hw
    rwa [← heq, hsign] at h

theorem isInteger_iff_splitSign : IsInteger text ↔
    (splitSign text).2 ≠ [] ∧ AreDigits (splitSign text).2 := by
  constructor
  · rintro ⟨hs, hne, hds⟩
    rw [(splitSign_append hs (.whole hne hds)).1]
    exact ⟨hne, hds⟩
  · rintro ⟨hne, hds⟩
    obtain ⟨s, sign, hs, heq, -⟩ := splitSign_cases text
    rw [heq]
    exact .intro hs hne hds

theorem toRat_signed (negative : Bool) (n k : Nat) :
    toRat ⟨signed negative n, k⟩ = (if negative then -1 else 1) * (n / 10 ^ k) := by
  cases negative with
  | false => simp [toRat, signed]
  | true => simp [toRat, signed, neg_div]

/-- A text is read as a decimal if and only if it spells a number, and as that number. -/
theorem spells_iff : Spells text v ↔ ∃ d, ofDecimal? text = some d ∧ d.toRat = v := by
  rw [spells_iff_splitSign]
  unfold ofDecimal?
  generalize splitSign text = parts
  obtain ⟨negative, u⟩ := parts
  simp only [isUnsigned_iff]
  generalize splitPoint u = parts
  obtain ⟨ds, fs⟩ := parts
  have hcheck : (!(ds.isEmpty && fs.isEmpty) && ds.all isAsciiDigit && fs.all isAsciiDigit) = true ↔
      (ds ≠ [] ∨ fs ≠ []) ∧ AreDigits ds ∧ AreDigits fs := by
    simp only [Bool.and_eq_true, Bool.not_eq_true', Bool.and_eq_false_iff, List.all_eq_true,
      List.isEmpty_eq_false_iff, and_assoc, AreDigits]
  by_cases h : (!(ds.isEmpty && fs.isEmpty) && ds.all isAsciiDigit && fs.all isAsciiDigit) = true
  · rw [if_pos h]
    obtain ⟨hne, hds, hfs⟩ := hcheck.1 h
    constructor
    · rintro ⟨w, ⟨-, -, -, rfl⟩, rfl⟩
      exact ⟨_, rfl, by rw [toRat_signed, digitsValue_append]⟩
    · rintro ⟨d, hd, rfl⟩
      cases hd
      exact ⟨_, ⟨hne, hds, hfs, rfl⟩, by rw [toRat_signed, digitsValue_append]⟩
  · rw [if_neg h]
    refine iff_of_false ?_ ?_
    · rintro ⟨w, ⟨hne, hds, hfs, -⟩, -⟩
      exact h (hcheck.2 ⟨hne, hds, hfs⟩)
    · rintro ⟨d, hd, -⟩
      cases hd

/-- A text spells one number only. -/
theorem Spells.unique {w : ℚ} (h : Spells text v) (h' : Spells text w) : v = w := by
  obtain ⟨d, hd, rfl⟩ := spells_iff.1 h
  obtain ⟨e, he, rfl⟩ := spells_iff.1 h'
  rw [hd] at he
  rw [Option.some.inj he]

/-- A text is read as an integer if and only if it spells one. -/
theorem isInteger_iff : IsInteger text ↔ (ofInteger? text).isSome = true := by
  rw [isInteger_iff_splitSign]
  unfold ofInteger?
  generalize splitSign text = parts
  obtain ⟨negative, ds⟩ := parts
  simp only [Bool.and_eq_true, Bool.not_eq_true', List.isEmpty_eq_false_iff, List.all_eq_true]
  split
  · next h => exact iff_of_true h rfl
  · next h => exact iff_of_false h Bool.false_ne_true

/-- Integers are read as the same decimals. -/
theorem ofDecimal?_of_ofInteger? (h : ofInteger? text = some d) : ofDecimal? text = some d := by
  unfold ofInteger? at h
  unfold ofDecimal?
  generalize splitSign text = parts at *
  obtain ⟨negative, ds⟩ := parts
  simp only at h ⊢
  split at h
  · next hds =>
    cases h
    rw [Bool.and_eq_true] at hds
    rw [splitPoint_digits (List.all_eq_true.1 hds.2), List.append_nil]
    simp [hds]
  · cases h

/-! ## Order -/

theorem toRat_mul (x y : Decimal) :
    ((x.coefficient * Nat.pow 10 y.scale : ℤ) : ℚ) = x.toRat * (10 ^ x.scale * 10 ^ y.scale) := by
  have hpow : ((Nat.pow 10 y.scale : ℕ) : ℚ) = 10 ^ y.scale := Nat.cast_pow 10 y.scale
  rw [toRat, Int.cast_mul, Int.cast_natCast, hpow]
  field_simp

/-- Decimals are in the order of the numbers they stand for. -/
theorem order_eq_compare (x y : Decimal) : x.order y = compare x.toRat y.toRat := by
  have hpos : (0 : ℚ) < 10 ^ x.scale * 10 ^ y.scale := by positivity
  calc x.order y = cmp (x.coefficient * Nat.pow 10 y.scale : ℤ) (y.coefficient * Nat.pow 10 x.scale)
      := (cmp_eq_compare _ _).symm
    _ = cmp ((x.coefficient * Nat.pow 10 y.scale : ℤ) : ℚ)
          ((y.coefficient * Nat.pow 10 x.scale : ℤ) : ℚ) :=
        (Int.cast_strictMono.cmp_map_eq _ _).symm
    _ = cmp (x.toRat * (10 ^ x.scale * 10 ^ y.scale))
          (y.toRat * (10 ^ x.scale * 10 ^ y.scale)) := by
        rw [toRat_mul, toRat_mul, mul_comm (10 ^ y.scale)]
    _ = cmp x.toRat y.toRat := cmp_mul_pos_right hpos _ _
    _ = compare x.toRat y.toRat := cmp_eq_compare _ _

end LinkedShapes.Decimal
