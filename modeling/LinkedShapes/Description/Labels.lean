import LinkedShapes.Json.Basic
import LinkedShapes.Term.Basic
import LinkedShapes.Text.Character

/-!
# Fresh labels

A description may speak of resources without naming them. Such resources become blank nodes with
labels that nothing else has. Where these labels come from is left open: a supply is any sequence
of distinct labels, from which one after the other is drawn. It is fresh for a description if none
of its labels is written there.

`Labels.beyond` is a supply that is fresh for given texts: hexadecimal numerals of at least 32
digits, from beyond all those that occur in the texts.
-/

namespace LinkedShapes

open Text

/-- A supply of labels in the order in which they are drawn. All of them are different, and none
carries the mark of blank nodes. -/
structure Labels where
  label : Nat → String
  distinct : ∀ {m n : Nat}, label m = label n → m = n
  unmarked : ∀ n, Term.stripMark (label n) = label n

namespace Labels

theorem ext {L M : Labels} (h : ∀ n, L.label n = M.label n) : L = M := by
  cases L
  cases M
  cases funext h
  rfl

/-- What is left of a supply when a number of labels have been drawn. -/
def after (L : Labels) (count : Nat) : Labels where
  label n := L.label (n + count)
  distinct h := Nat.add_right_cancel (L.distinct h)
  unmarked n := L.unmarked (n + count)

theorem after_zero (L : Labels) : L.after 0 = L := rfl

theorem after_after (L : Labels) (m n : Nat) : (L.after m).after n = L.after (m + n) :=
  ext fun i => congrArg L.label (by rw [Nat.add_assoc, Nat.add_comm n])

/-- Drawing a label leaves another supply. -/
theorem after_succ_ne (L : Labels) (n : Nat) : L.after (n + 1) ≠ L := by
  intro h
  have hlabel : L.label (0 + (n + 1)) = L.label 0 := congrArg (·.label 0) h
  exact nomatch L.distinct hlabel

/-- Drawing some labels from a supply leaves another. -/
def Leaves (L L' : Labels) : Prop := ∃ count, L' = L.after count

theorem Leaves.refl (L : Labels) : L.Leaves L := ⟨0, rfl⟩

theorem Leaves.one (L : Labels) : L.Leaves (L.after 1) := ⟨1, rfl⟩

theorem Leaves.trans {L L₁ L₂ : Labels} (h : L.Leaves L₁) (h' : L₁.Leaves L₂) : L.Leaves L₂ := by
  obtain ⟨m, rfl⟩ := h
  obtain ⟨n, rfl⟩ := h'
  exact ⟨m + n, after_after L m n⟩

/-- Is a label drawn between a supply and what is left of it? -/
def Between (L L' : Labels) (label : String) : Prop :=
  ∃ count n, L' = L.after count ∧ n < count ∧ label = L.label n

theorem between_one (L : Labels) : L.Between (L.after 1) (L.label 0) :=
  ⟨1, 0, rfl, Nat.zero_lt_one, rfl⟩

theorem Between.leaves {L L₁ L₂ : Labels} {label : String} (h : L.Between L₁ label)
    (hl : L₁.Leaves L₂) : L.Between L₂ label := by
  obtain ⟨count, n, rfl, hn, rfl⟩ := h
  obtain ⟨more, rfl⟩ := hl
  exact ⟨count + more, n, after_after L count more, by omega, rfl⟩

theorem Leaves.between {L L₁ L₂ : Labels} {label : String} (hl : L.Leaves L₁)
    (h : L₁.Between L₂ label) : L.Between L₂ label := by
  obtain ⟨before, rfl⟩ := hl
  obtain ⟨count, n, rfl, hn, rfl⟩ := h
  exact ⟨before + count, n + before, after_after L before count, by omega, rfl⟩

/-- What is drawn first is not drawn later. -/
theorem Between.ne {L L₁ L₂ L₃ : Labels} {a b : String} (h : L.Between L₁ a) (hl : L₁.Leaves L₂)
    (h' : L₂.Between L₃ b) : a ≠ b := by
  obtain ⟨count, m, rfl, hm, rfl⟩ := h
  obtain ⟨between, rfl⟩ := hl
  obtain ⟨-, n, -, -, rfl⟩ := h'
  intro heq
  have hmn : m = n + between + count := L.distinct heq
  omega

/-! ## Labels in texts -/

/-- One of the texts spells a label. The mark of blank nodes is dropped twice, where a text is read
and where a node is made of it. -/
def Spells (texts : List String) (label : String) : Prop :=
  ∃ text ∈ texts, Term.stripMark (Term.stripMark text) = label

theorem Spells.mono {texts texts' : List String} {label : String} (h : Spells texts label)
    (hsub : texts ⊆ texts') : Spells texts' label := by
  obtain ⟨text, htext, heq⟩ := h
  exact ⟨text, hsub htext, heq⟩

/-- Is no label of a supply written in a description? -/
def FreshFor (L : Labels) (json : Json) : Prop := ∀ n, ¬ Spells json.strings (L.label n)

/-- Every supply is fresh for what has no texts. -/
theorem freshFor_null (L : Labels) : L.FreshFor .null := fun _ ⟨_, ht, _⟩ => nomatch ht

theorem FreshFor.after {L : Labels} {json : Json} (h : L.FreshFor json) (count : Nat) :
    (L.after count).FreshFor json := fun n => h (n + count)

theorem FreshFor.leaves {L L' : Labels} {json : Json} (h : L.FreshFor json) (hl : L.Leaves L') :
    L'.FreshFor json := by
  obtain ⟨count, rfl⟩ := hl
  exact h.after count

/-- What is drawn from a fresh supply is not written. -/
theorem FreshFor.between {L L' : Labels} {json : Json} {label : String} (h : L.FreshFor json)
    (hl : L.Between L' label) : ¬ Spells json.strings label := by
  obtain ⟨-, n, -, -, rfl⟩ := hl
  exact h n

/-- A supply that is fresh for a description is fresh for all that has no other texts. -/
theorem FreshFor.mono {L : Labels} {json json' : Json} (h : L.FreshFor json)
    (hsub : json'.strings ⊆ json.strings) : L.FreshFor json' := fun n hn => h n (hn.mono hsub)

/-! ## Numerals -/

/-- The number of digits of a numeral, unless it takes more. -/
def width : Nat := 32

/-- The digits of a number, with zeros in front. -/
def numeralDigits (n : Nat) : List Char :=
  let digits := Nat.toDigits 16 n
  List.replicate (width - digits.length) '0' ++ digits

/-- The numeral of a number. -/
def numeral (n : Nat) : String := String.ofList (numeralDigits n)

/-- The number that a list of hexadecimal digits spells. -/
def valueOf (digits : List Char) : Nat :=
  digits.foldl (fun n c => 16 * n + (hexValue? c).getD 0) 0

/-- Is a character a hexadecimal digit, in lower case if it is a letter? -/
def isDigit (c : Char) : Bool := (hexValue? c).isSome && asciiLower c == c

/-- The number of a label that may be a numeral. -/
def number? (label : String) : Option Nat :=
  let digits := label.toList
  if digits.length < width ∨ ¬ digits.all isDigit then none else some (valueOf digits)

theorem digitChar_spec {d : Nat} (h : d < 16) :
    hexValue? d.digitChar = some d ∧ isDigit d.digitChar = true := by
  have hall : ∀ d < 16, hexValue? d.digitChar = some d ∧ isDigit d.digitChar = true := by decide
  exact hall d h

/-- The digits of a number are digits, and spell the number. -/
theorem toDigits_spec (n : Nat) :
    (Nat.toDigits 16 n).all isDigit = true ∧ valueOf (Nat.toDigits 16 n) = n := by
  induction n using Nat.strongRecOn with
  | _ n ih =>
    rw [Nat.toDigits_eq_if (by decide)]
    by_cases hn : n < 16
    · obtain ⟨hvalue, hdigit⟩ := digitChar_spec hn
      rw [if_pos hn]
      simp [valueOf, hvalue, hdigit]
    · obtain ⟨hvalue, hdigit⟩ := digitChar_spec (Nat.mod_lt n (by decide : 0 < 16))
      obtain ⟨hall, hspell⟩ := ih (n / 16) (by omega)
      rw [if_neg hn]
      constructor
      · rw [List.all_append, hall]
        simp [hdigit]
      · unfold valueOf at hspell ⊢
        rw [List.foldl_append, hspell]
        simp only [List.foldl_cons, List.foldl_nil, hvalue, Option.getD_some]
        omega

/-- Zeros in front change nothing about the number. -/
theorem valueOf_zeros (k : Nat) (digits : List Char) :
    valueOf (List.replicate k '0' ++ digits) = valueOf digits := by
  induction k with
  | zero => rfl
  | succ k ih =>
    rw [List.replicate_succ, List.cons_append]
    exact ih

theorem all_isDigit (n : Nat) : (numeralDigits n).all isDigit = true := by
  rw [numeralDigits, List.all_append, (toDigits_spec n).1, Bool.and_true, List.all_eq_true]
  intro c hc
  rw [List.eq_of_mem_replicate hc]
  rfl

/-- A numeral does not begin with the mark of blank nodes. -/
theorem stripMark_numeral (n : Nat) : Term.stripMark (numeral n) = numeral n := by
  unfold Term.stripMark
  split
  · next rest hmarked =>
    rw [numeral, String.toList_ofList] at hmarked
    have hdigits := all_isDigit n
    rw [hmarked] at hdigits
    cases hdigits
  · rfl

/-- The number of a numeral is the number it was made of. -/
theorem number?_numeral (n : Nat) : number? (numeral n) = some n := by
  have hspell := (toDigits_spec n).2
  have hlength : width ≤ (numeralDigits n).length := by
    rw [numeralDigits, List.length_append, List.length_replicate]
    omega
  have hdigits := all_isDigit n
  have hnumeral : ¬ ((numeralDigits n).length < width ∨ ¬ (numeralDigits n).all isDigit) := by
    rintro (hshort | hnot)
    · exact Nat.not_lt_of_le hlength hshort
    · exact hnot hdigits
  rw [number?, numeral, String.toList_ofList, if_neg hnumeral, numeralDigits, valueOf_zeros,
    hspell]

theorem numeral_injective {m n : Nat} (h : numeral m = numeral n) : m = n := by
  have hm := number?_numeral m
  rw [h, number?_numeral] at hm
  exact (Option.some.inj hm).symm

/-- The numerals from a number on. -/
def numerals (start : Nat) : Labels where
  label n := numeral (n + start)
  distinct h := Nat.add_right_cancel (numeral_injective h)
  unmarked n := stripMark_numeral (n + start)

instance : Inhabited Labels := ⟨numerals 0⟩

/-! ## Numerals beyond texts -/

/-- The number of the numeral that a text spells. -/
def spelled? (text : String) : Option Nat := number? (Term.stripMark (Term.stripMark text))

/-- The supply of the numerals beyond those that the given texts spell. -/
def beyond (texts : List String) : Labels :=
  numerals ((texts.filterMap spelled?).foldl (fun n m => max n (m + 1)) 0)

/-- The numerals beyond those that are written in a description. -/
def beyondJson (json : Json) : Labels := beyond json.strings

theorem lt_foldl_max {numbers : List Nat} {n : Nat} (h : n ∈ numbers) (start : Nat) :
    n < numbers.foldl (fun n m => max n (m + 1)) start := by
  have hle : ∀ (numbers : List Nat) (start : Nat),
      start ≤ numbers.foldl (fun n m => max n (m + 1)) start := by
    intro numbers
    induction numbers with
    | nil => exact fun start => Nat.le_refl start
    | cons m numbers ih => exact fun start => Nat.le_trans (Nat.le_max_left _ _) (ih _)
  induction numbers generalizing start with
  | nil => exact absurd h List.not_mem_nil
  | cons m numbers ih =>
    rcases List.mem_cons.1 h with rfl | h
    · exact Nat.lt_of_lt_of_le (Nat.lt_succ_self n) (Nat.le_trans (Nat.le_max_right _ _) (hle _ _))
    · exact ih h _

/-- The numerals beyond those of a description are fresh for it. -/
theorem freshFor_beyondJson (json : Json) : (beyondJson json).FreshFor json := by
  rintro n ⟨text, htext, heq⟩
  have hnumber : spelled? text = some _ := (congrArg number? heq).trans (number?_numeral _)
  have hlt := lt_foldl_max (List.mem_filterMap.2 ⟨text, htext, hnumber⟩) 0
  exact Nat.not_lt_of_le (Nat.le_add_left _ n) hlt

end Labels

end LinkedShapes
