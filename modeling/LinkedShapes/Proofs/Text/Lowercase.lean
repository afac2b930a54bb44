import Mathlib.Data.List.TakeWhile
import LinkedShapes.Text.Lowercase

/-!
# The start of a word in lower case

The lower-case form of a text begins with that of its start, but for one character: a capital sigma
at the end of the start is written as a final sigma there, and as an inner one where the text goes
on behind it.

* `FinalSigmaTurns`: a sigma is final in the start of a text and not in the text.
* `FinalSigmaTurns.mem_start`: only starts with a capital sigma are concerned.
* `lowerAfter_isPrefix_iff`, `lowercase_isPrefix_iff`: this alone tells the two forms apart.
-/

namespace LinkedShapes.Text

open Unicode

variable {c : Char} {before start passed rest text : List Char}

/-- Case ignores all characters of the text. -/
def PassedOver (text : List Char) : Prop := ∀ c ∈ text, caseIgnorable.contains c = true

/--
The last sigma of `start` is final where the text ends with `start`, and no longer so where `rest`
follows: a cased character stands before it, only characters that case ignores stand between it and
the end of `start`, and `rest` brings a cased character. The characters `before`, nearest first,
stand in front of `start`.
-/
def FinalSigmaTurns (before start rest : List Char) : Prop :=
  ∃ front passed, start = front ++ 'Σ' :: passed ∧ startsCased (front.reverse ++ before) = true ∧
    PassedOver passed ∧ startsCased rest = true

/-! ## Cased characters behind a start -/

theorem startsCased_of_passedOver (h : PassedOver passed) : startsCased passed = false := by
  unfold startsCased
  rw [List.dropWhile_eq_nil_iff.2 h]

theorem startsCased_append_of_passedOver (h : PassedOver passed) :
    startsCased (passed ++ rest) = startsCased rest := by
  unfold startsCased
  rw [List.dropWhile_append_of_pos h]

theorem startsCased_append_of_not (h : ¬PassedOver start) :
    startsCased (start ++ rest) = startsCased start := by
  have hstop : start.dropWhile caseIgnorable.contains ≠ [] :=
    fun hnil => h (List.dropWhile_eq_nil_iff.1 hnil)
  obtain ⟨c, cs, hc⟩ := List.exists_cons_of_ne_nil hstop
  unfold startsCased
  rw [List.dropWhile_append, hc]
  rfl

/-- What follows shows only through characters that case ignores. -/
theorem startsCased_append_eq_iff :
    startsCased (start ++ rest) = startsCased start ↔
      ¬(PassedOver start ∧ startsCased rest = true) := by
  by_cases h : PassedOver start
  · rw [startsCased_append_of_passedOver h, startsCased_of_passedOver h, and_iff_right h,
      Bool.not_eq_true]
  · exact iff_of_true (startsCased_append_of_not h) fun hboth => h hboth.1

/-! ## One character -/

/-- The lower-case form of a character between others. -/
def lowerAt (before : List Char) (c : Char) (behind : List Char) : List Char :=
  if c = 'Σ' then [if startsCased before && !startsCased behind then 'ς' else 'σ'] else lowerChar c

theorem lowerAfter_cons :
    lowerAfter before (c :: text) = lowerAt before c text ++ lowerAfter (c :: before) text := rfl

theorem length_lowerAt_eq (behind behind' : List Char) :
    (lowerAt before c behind).length = (lowerAt before c behind').length := by
  unfold lowerAt
  split <;> rfl

/-- What follows changes the form of a sigma only. -/
theorem lowerAt_append_eq_iff :
    lowerAt before c start = lowerAt before c (start ++ rest) ↔
      ¬(c = 'Σ' ∧ startsCased before = true ∧ PassedOver start ∧ startsCased rest = true) := by
  by_cases hc : c = 'Σ'
  · rw [and_iff_right hc, not_and, ← startsCased_append_eq_iff]
    unfold lowerAt
    rw [if_pos hc, if_pos hc]
    cases startsCased before <;> cases startsCased start <;> cases startsCased (start ++ rest) <;>
      decide
  · refine iff_of_true ?_ fun h => hc h.1
    unfold lowerAt
    rw [if_neg hc, if_neg hc]

/-! ## The start of a text -/

/-- Without a capital sigma there is none that turns. -/
theorem FinalSigmaTurns.mem_start (h : FinalSigmaTurns before start rest) : 'Σ' ∈ start := by
  obtain ⟨front, passed, rfl, -⟩ := h
  exact List.mem_append_right front List.mem_cons_self

theorem not_finalSigmaTurns_nil : ¬FinalSigmaTurns before [] rest := by
  rintro ⟨front, passed, h, -⟩
  cases front <;> cases h

/-- The sigma that turns is the first character or a later one. -/
theorem finalSigmaTurns_cons_iff :
    FinalSigmaTurns before (c :: start) rest ↔
      (c = 'Σ' ∧ startsCased before = true ∧ PassedOver start ∧ startsCased rest = true) ∨
        FinalSigmaTurns (c :: before) start rest := by
  constructor
  · rintro ⟨front, passed, h, hfront, hpassed, hrest⟩
    cases front with
    | nil =>
      cases h
      exact Or.inl ⟨rfl, hfront, hpassed, hrest⟩
    | cons d front =>
      cases h
      rw [List.reverse_cons, List.append_assoc, List.singleton_append] at hfront
      exact Or.inr ⟨front, passed, rfl, hfront, hpassed, hrest⟩
  · rintro (⟨rfl, hbefore, hpassed, hrest⟩ | ⟨front, passed, rfl, hfront, hpassed, hrest⟩)
    · exact ⟨[], start, rfl, hbefore, hpassed, hrest⟩
    · refine ⟨c :: front, passed, rfl, ?_, hpassed, hrest⟩
      rw [List.reverse_cons, List.append_assoc, List.singleton_append]
      exact hfront

/-- Texts whose first parts have one length begin alike if both parts do. -/
theorem append_isPrefix_append_iff {α : Type} {first first' later later' : List α}
    (h : first.length = first'.length) :
    first ++ later <+: first' ++ later' ↔ first = first' ∧ later <+: later' := by
  constructor
  · rintro ⟨tail, ht⟩
    rw [List.append_assoc] at ht
    obtain ⟨hfirst, hlater⟩ := List.append_inj ht h
    exact ⟨hfirst, tail, hlater⟩
  · rintro ⟨rfl, hlater⟩
    exact (List.prefix_append_right_inj first).2 hlater

/-- The lower-case form goes on as it began, unless the last sigma so far turns. -/
theorem lowerAfter_isPrefix_iff :
    lowerAfter before start <+: lowerAfter before (start ++ rest) ↔
      ¬FinalSigmaTurns before start rest := by
  induction start generalizing before with
  | nil => exact iff_of_true List.nil_prefix not_finalSigmaTurns_nil
  | cons c start ih =>
    -- a character has forms of one length wherever it stands, so that places are compared in turn
    rw [List.cons_append, lowerAfter_cons, lowerAfter_cons,
      append_isPrefix_append_iff (length_lowerAt_eq _ _), lowerAt_append_eq_iff, ih,
      finalSigmaTurns_cons_iff, not_or]

/-- A text in lower case begins with its start in lower case, unless a final sigma turns. -/
theorem lowercase_isPrefix_iff :
    lowercase start <+: lowercase (start ++ rest) ↔ ¬FinalSigmaTurns [] start rest :=
  lowerAfter_isPrefix_iff

example : lowercase "ΟΔΟΣ".toList = "οδος".toList ∧
    lowercase "ΟΔΟΣΤΡΩΜΑ".toList = "οδοστρωμα".toList := by
  decide +kernel

end LinkedShapes.Text
