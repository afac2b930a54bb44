import LinkedShapes.Proofs.Pattern.Anchors
import LinkedShapes.Proofs.Pattern.Matching

/-!
# What patterns are matched with

A pattern is meant for the whole of a text. The anchors are added to the text of its expression,
and an expression that is well formed on its own cannot get out of them: what is compiled is the
expression between the places the anchors stand for. These are the ends of the text only without
the flag for lines. With it they are the ends of lines, and a pattern matches as soon as its
expression matches some lines of a text, whatever the others may be.

* `BeginsLine`, `EndsLine`: where lines begin and end.
* `compile_expression`: what an expression is compiled to.
* `isMatch_iff_between`: it has to match from a place for the start to a place for the end.
* `isMatch_iff_whole`: the whole text has to match, or some of its lines where the flag asks for it.
* `isMatch_iff_of_line`: a text that is a single line has to match as a whole with any flags.
-/

namespace LinkedShapes

variable {f : Flags} {x : Expression} {p : Pattern} {expression flags : String} {text : List Char}
  {i j : Nat}

/-! ## Places -/

/-- A line of the text begins at a place. -/
def BeginsLine (text : List Char) (i : Nat) : Prop := i = 0 ∨ charBefore text i = some '\n'

/-- A line of the text ends at a place. -/
def EndsLine (text : List Char) (j : Nat) : Prop := j = text.length ∨ text[j]? = some '\n'

theorem charBefore_eq_none_iff (hi : i ≤ text.length) : charBefore text i = none ↔ i = 0 := by
  cases i with
  | zero => exact iff_of_true rfl rfl
  | succ i => simp [charBefore, Nat.lt_of_succ_le hi]

theorem BeginsLine.le_length (h : BeginsLine text i) : i ≤ text.length := by
  rcases h with rfl | h
  · exact Nat.zero_le _
  · cases i with
    | zero => exact Nat.zero_le _
    | succ i => exact (List.getElem?_eq_some_iff.1 h).1

namespace Expression

/-- Without the flag for lines only the start of the text begins it. -/
theorem holdsAt_startPlace (hf : f.carriage = false) (hi : i ≤ text.length) :
    (startPlace f).HoldsAt text i ↔ if f.multiLine then BeginsLine text i else i = 0 := by
  unfold startPlace Place.HoldsAt BeginsLine
  rw [hf, ← charBefore_eq_none_iff hi]
  split <;> simp [Place.holds]

theorem holdsAt_endPlace (hf : f.carriage = false) (hj : j ≤ text.length) :
    (endPlace f).HoldsAt text j ↔ if f.multiLine then EndsLine text j else j = text.length := by
  have hend : text[j]? = none ↔ j = text.length := by
    rw [List.getElem?_eq_none_iff]
    omega
  unfold endPlace Place.HoldsAt EndsLine
  rw [hf, ← hend]
  split <;> simp [Place.holds]

end Expression

namespace Pattern

/-! ## Flags -/

/-- Sets the flag of a letter if patterns may have it. -/
def setFlag (f : Flags) (c : Char) : Except PatternFault Flags :=
  match if "imsx".contains c then f.set? c true else none with
  | some f => .ok f
  | none => .error (.unknownFlag c)

theorem flags_eq (letters : List Char) : Pattern.flags letters = letters.foldlM setFlag {} := rfl

/-- The flag for carriage returns cannot be given, and the one for lines is there if it is given. -/
theorem setFlag_lines {f f' : Flags} {c : Char} (h : setFlag f c = .ok f') :
    f'.carriage = f.carriage ∧ f'.multiLine = (f.multiLine || c == 'm') := by
  unfold setFlag at h
  split at h
  · next f₁ hset =>
    cases h
    split at hset
    · next hc =>
      have hc : c = 'i' ∨ c = 'm' ∨ c = 's' ∨ c = 'x' := by simpa using hc
      rcases hc with rfl | rfl | rfl | rfl
      all_goals
        cases hset
        simp
    · cases hset
  · cases h

/-- What the letters set between them, from flags that may have been set before. -/
theorem foldlM_setFlag_lines {letters : List Char} {g : Flags}
    (h : letters.foldlM setFlag g = .ok f) :
    f.carriage = g.carriage ∧ (f.multiLine = true ↔ g.multiLine = true ∨ 'm' ∈ letters) := by
  induction letters generalizing g with
  | nil =>
    cases h
    simp
  | cons c letters ih =>
    rw [List.foldlM_cons] at h
    cases hset : setFlag g c with
    | error fault =>
      rw [hset] at h
      cases h
    | ok g' =>
      rw [hset] at h
      obtain ⟨hcarriage, hlines⟩ := setFlag_lines hset
      obtain ⟨hcarriage', hlines'⟩ := ih h
      refine ⟨hcarriage'.trans hcarriage, hlines'.trans ?_⟩
      rw [hlines, Bool.or_eq_true, beq_iff_eq, List.mem_cons, or_assoc, eq_comm (a := c)]

theorem flags_lines {letters : List Char} (h : Pattern.flags letters = .ok f) :
    f.carriage = false ∧ (f.multiLine = true ↔ 'm' ∈ letters) := by
  obtain ⟨hcarriage, hlines⟩ := foldlM_setFlag_lines (flags_eq letters ▸ h)
  exact ⟨hcarriage, hlines.trans (or_iff_right (by decide))⟩

/-! ## Matching -/

/-- What an expression is compiled to is the expression itself, between the anchors' places. -/
theorem compile_expression (hf : Pattern.flags flags.toList = .ok f)
    (hx : Expression.parse? f expression.toList = some x) (hp : compile expression flags = .ok p) :
    p.expression = x.between f := by
  unfold compile at hp
  rw [hf] at hp
  simp only [bind, Except.bind] at hp
  split at hp
  · next w hw =>
    split at hp
    · cases hp
      exact Expression.parse?_anchored hx hw
    · cases hp
  · cases hp

/-- The expression has to match from a place that the first anchor stands for to a place that the
last one stands for. -/
theorem isMatch_iff_between (hp : p.expression = x.between f) (text : String) :
    p.isMatch text = true ↔ ∃ i j, i ≤ text.toList.length ∧
      (Expression.startPlace f).HoldsAt text.toList i ∧ x.Matches text.toList i j ∧
        (Expression.endPlace f).HoldsAt text.toList j := by
  unfold isMatch
  rw [Expression.matchesIn_iff, hp]
  refine exists_congr fun i => ?_
  constructor
  · rintro ⟨-, hi, k, ⟨rfl, hstart⟩, j, hx, -, hend⟩
    exact ⟨j, hi, hstart, hx, hend⟩
  · rintro ⟨j, hi, hstart, hx, hend⟩
    exact ⟨j, hi, i, ⟨rfl, hstart⟩, j, hx, rfl, hend⟩

/-- Where the part of a text that the expression matches has to begin and to end. -/
theorem isMatch_iff_lines (hf : Pattern.flags flags.toList = .ok f)
    (hx : Expression.parse? f expression.toList = some x) (hp : compile expression flags = .ok p)
    (text : String) : p.isMatch text = true ↔ ∃ i j,
      (if 'm' ∈ flags.toList then BeginsLine text.toList i else i = 0) ∧
        x.Matches text.toList i j ∧
          if 'm' ∈ flags.toList then EndsLine text.toList j else j = text.toList.length := by
  obtain ⟨hcarriage, hlines⟩ := flags_lines hf
  have hstart (i : Nat) (hi : i ≤ text.toList.length) := Expression.holdsAt_startPlace hcarriage hi
  have hend (j : Nat) (hj : j ≤ text.toList.length) := Expression.holdsAt_endPlace hcarriage hj
  simp only [hlines] at hstart hend
  rw [isMatch_iff_between (compile_expression hf hx hp)]
  refine exists_congr fun i => exists_congr fun j => ?_
  constructor
  · rintro ⟨hi, hs, hx, he⟩
    exact ⟨(hstart i hi).1 hs, hx, (hend j (hx.le_length hi)).1 he⟩
  · rintro ⟨hs, hx, he⟩
    have hi : i ≤ text.toList.length := by
      split at hs
      · exact hs.le_length
      · exact hs ▸ Nat.zero_le _
    exact ⟨hi, (hstart i hi).2 hs, hx, (hend j (hx.le_length hi)).2 he⟩

/-- Without the flag for lines a pattern matches a text if its expression matches the whole of it.
With the flag it matches if its expression matches some whole lines of the text. -/
theorem isMatch_iff_whole (hf : Pattern.flags flags.toList = .ok f)
    (hx : Expression.parse? f expression.toList = some x) (hp : compile expression flags = .ok p)
    (text : String) : p.isMatch text = true ↔
      if 'm' ∈ flags.toList then
        ∃ i j, BeginsLine text.toList i ∧ x.Matches text.toList i j ∧ EndsLine text.toList j
      else x.Matches text.toList 0 text.toList.length := by
  rw [isMatch_iff_lines hf hx hp]
  split
  · rfl
  · constructor
    · rintro ⟨i, j, rfl, hx, rfl⟩
      exact hx
    · exact fun hx => ⟨0, _, rfl, hx, rfl⟩

/-- The flag for lines on its own. -/
def linesOnly : Flags := { multiLine := true }

/-- The expression of a single letter. -/
def letterA : Expression := .one .exact (.only 'a')

theorem flags_linesOnly : Pattern.flags "m".toList = .ok linesOnly := by
  simp [Pattern.flags, Flags.set?, linesOnly]

theorem parse?_letterA : Expression.parse? linesOnly "a".toList = some letterA := rfl

theorem size_letterA : letterA.size = Expression.stateSize := by
  -- sorting does not reduce, so that it is done by hand where the set begins and ends
  have hranges : (CharSet.only 'a').ranges = [(97, 97)] := by
    change (CharSet.only 'a').pairs ((([97, 98] : List Nat).mergeSort).eraseReps ++ [0x110000]) = _
    rw [List.mergeSort_of_pairwise (by decide)]
    rfl
  change Expression.charSize (.only 'a') = _
  unfold Expression.charSize
  rw [hranges]
  rfl

theorem compile_letterA : compile "a" "m" = .ok ⟨letterA.between linesOnly⟩ := by
  have hsize : (letterA.between linesOnly).size ≤ Expression.maxSize := by
    change Expression.stateSize + (letterA.size + Expression.stateSize) ≤ _
    rw [size_letterA]
    decide
  have hparse : Expression.parse? linesOnly (anchored "a") = some (letterA.between linesOnly) := rfl
  unfold compile
  rw [flags_linesOnly]
  simp only [bind, Except.bind, hparse, if_pos hsize]
  rfl

theorem isMatch_iff_whole_letterA :
    Pattern.flags "m".toList = .ok linesOnly ∧
    Expression.parse? linesOnly "a".toList = some letterA ∧
    ∃ p, compile "a" "m" = .ok p ∧ (p.isMatch "x\na" = true ↔
      if 'm' ∈ "m".toList then
        ∃ i j, BeginsLine "x\na".toList i ∧ letterA.Matches "x\na".toList i j ∧
          EndsLine "x\na".toList j
      else letterA.Matches "x\na".toList 0 "x\na".toList.length) :=
  ⟨flags_linesOnly, parse?_letterA, _, compile_letterA,
    isMatch_iff_whole flags_linesOnly parse?_letterA compile_letterA "x\na"⟩

/-- The flag for lines lets a text through of which only the last line matches. -/
theorem isMatch_last_line : ∃ f x p, Pattern.flags "m".toList = .ok f ∧
    Expression.parse? f "a".toList = some x ∧ compile "a" "m" = .ok p ∧
      ¬(p.isMatch "x\na" = true ↔ x.Matches "x\na".toList 0 "x\na".toList.length) := by
  refine ⟨linesOnly, letterA, _, flags_linesOnly, parse?_letterA, compile_letterA, fun h => ?_⟩
  have hmatch : (Pattern.mk (letterA.between linesOnly)).isMatch "x\na" = true := by decide
  obtain ⟨hlength, -⟩ := h.1 hmatch
  exact absurd hlength (by decide)

/-- A text that is a single line has to match as a whole, with any flags. -/
theorem isMatch_iff_of_line (hf : Pattern.flags flags.toList = .ok f)
    (hx : Expression.parse? f expression.toList = some x) (hp : compile expression flags = .ok p)
    {text : String} (hline : '\n' ∉ text.toList) :
    p.isMatch text = true ↔ x.Matches text.toList 0 text.toList.length := by
  have hfeed (i : Nat) : text.toList[i]? ≠ some '\n' := fun h => hline (List.mem_of_getElem? h)
  have hbegins (i : Nat) : BeginsLine text.toList i ↔ i = 0 := by
    refine or_iff_left fun h => ?_
    cases i with
    | zero => cases h
    | succ i => exact hfeed i h
  have hends (j : Nat) : EndsLine text.toList j ↔ j = text.toList.length :=
    or_iff_left (hfeed j)
  rw [isMatch_iff_lines hf hx hp]
  simp only [hbegins, hends, ite_self]
  constructor
  · rintro ⟨i, j, rfl, hx, rfl⟩
    exact hx
  · exact fun hx => ⟨0, _, rfl, hx, rfl⟩

end Pattern

end LinkedShapes
