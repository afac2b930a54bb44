import LinkedShapes.Text.Character

/-!
# White space and digits

* `eq_of_hexValue?`: a hexadecimal digit is one of two characters at most.
* `trim_eq_self`: nothing is taken from a text without white space.
* `not_isWhiteSpace_of_isAsciiDigit`, `not_isWhiteSpace_of_isWordChar`: neither numbers nor words
  have white space.
-/

namespace LinkedShapes.Text

variable {c : Char} {n : Nat} {text : List Char}

/-- A digit is one of two characters at most. -/
theorem eq_of_hexValue? (h : hexValue? c = some n) :
    n < 10 ∧ c = Char.ofNat (n + 0x30) ∨
      10 ≤ n ∧ (c = Char.ofNat (n + 0x57) ∨ c = Char.ofNat (n + 0x37)) := by
  rw [← Char.ofNat_toNat c]
  unfold hexValue? at h
  grind

theorem dropWhile_isWhiteSpace (h : ∀ c ∈ text, isWhiteSpace c = false) :
    text.dropWhile isWhiteSpace = text := by
  cases text with
  | nil => rfl
  | cons c cs =>
    rw [List.dropWhile_cons, if_neg (by rw [h c List.mem_cons_self]; exact Bool.false_ne_true)]

theorem trim_eq_self (h : ∀ c ∈ text, isWhiteSpace c = false) : trim text = text := by
  rw [trim, dropWhile_isWhiteSpace h,
    dropWhile_isWhiteSpace fun c hc => h c (List.mem_reverse.1 hc), List.reverse_reverse]

theorem not_isWhiteSpace_of_isAsciiDigit (h : isAsciiDigit c = true) : isWhiteSpace c = false := by
  simp only [isAsciiDigit, Bool.and_eq_true, decide_eq_true_eq] at h
  have hlow : 0x30 ≤ c.toNat := h.1
  have hhigh : c.toNat ≤ 0x39 := h.2
  simp only [isWhiteSpace, Bool.or_eq_false_iff, Bool.and_eq_false_iff, decide_eq_false_iff_not,
    beq_eq_false_iff_ne, ne_eq]
  omega

/-- No white space is among the code points of words. -/
theorem not_isWhiteSpace_of_isWordChar (h : isWordChar c = true) : isWhiteSpace c = false := by
  have hcontrol : ∀ i < 5, Unicode.wordPoints.containsPoint (0x09 + i) = false := by
    decide +kernel
  have hspaces : ∀ i < 11, Unicode.wordPoints.containsPoint (0x2000 + i) = false := by
    decide +kernel
  have hothers : ∀ n ∈ [0x20, 0x85, 0xA0, 0x1680, 0x2028, 0x2029, 0x202F, 0x205F, 0x3000],
      Unicode.wordPoints.containsPoint n = false := by
    decide +kernel
  have hword : Unicode.wordPoints.containsPoint c.toNat = true := h
  have hne : ∀ n, Unicode.wordPoints.containsPoint n = false → c.toNat ≠ n := by
    rintro n hn rfl
    rw [hn] at hword
    cases hword
  have hnotControl : ¬ (0x09 ≤ c.toNat ∧ c.toNat ≤ 0x0D) := fun ⟨hlow, hhigh⟩ =>
    hne _ (hcontrol (c.toNat - 0x09) (by omega)) (by omega)
  have hnotSpaces : ¬ (0x2000 ≤ c.toNat ∧ c.toNat ≤ 0x200A) := fun ⟨hlow, hhigh⟩ =>
    hne _ (hspaces (c.toNat - 0x2000) (by omega)) (by omega)
  have hnotOthers : ∀ n ∈ [0x20, 0x85, 0xA0, 0x1680, 0x2028, 0x2029, 0x202F, 0x205F, 0x3000],
      c.toNat ≠ n := fun n hn => hne n (hothers n hn)
  simp only [List.forall_mem_cons, List.not_mem_nil, false_implies, implies_true, and_true]
    at hnotOthers
  simp only [isWhiteSpace, Bool.or_eq_false_iff, Bool.and_eq_false_iff, decide_eq_false_iff_not,
    beq_eq_false_iff_ne, ne_eq]
  omega

end LinkedShapes.Text
