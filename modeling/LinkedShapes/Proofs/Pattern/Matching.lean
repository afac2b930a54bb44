import Mathlib.Data.List.Basic
import Mathlib.Logic.Function.Iterate
import LinkedShapes.Pattern.Matching

/-!
# What expressions match

An expression matches parts of a text, from one place to another. `Expression.Matches` says which,
by the structure of the expression and without any procedure; `Expression.ends` finds just these
parts, for all the places at once where they may begin.

* `Times`: going a number of rounds, each by a relation.
* `Times.without_idle`: rounds that go nowhere can be left out, so that an unbounded repetition
  needs no more rounds than there are places.
* `realizes_ends`: the places that are found are those where the expression matches up to.
* `matchesIn_iff`: an expression matches in a text if it matches some part of it.
-/

namespace LinkedShapes

variable {text : List Char} {m n : Marks} {i j k : Nat} {R : Nat → Nat → Prop}

/-! ## Rounds -/

/-- One place leads to another in so many rounds. -/
def Times (R : Nat → Nat → Prop) : Nat → Nat → Nat → Prop
  | 0, i, j => i = j
  | n + 1, i, k => ∃ j, R i j ∧ Times R n j k

theorem Times.add {a b : Nat} : Times R (a + b) i k ↔ ∃ j, Times R a i j ∧ Times R b j k := by
  induction a generalizing i with
  | zero => simp [Times]
  | succ a ih =>
    rw [Nat.succ_add, Times]
    simp only [ih, Times]
    constructor
    · rintro ⟨x, hx, j, hj, hk⟩
      exact ⟨j, ⟨x, hx, hj⟩, hk⟩
    · rintro ⟨j, ⟨x, hx, hj⟩, hk⟩
      exact ⟨x, hx, j, hj, hk⟩

theorem Times.succ_last {a : Nat} : Times R (a + 1) i k ↔ ∃ j, Times R a i j ∧ R j k := by
  rw [Times.add]
  simp [Times]

theorem Times.le {a : Nat} (hR : ∀ i j, R i j → i ≤ j) (h : Times R a i j) : i ≤ j := by
  induction a generalizing i with
  | zero => exact Nat.le_of_eq h
  | succ a ih =>
    obtain ⟨x, hx, h⟩ := h
    exact Nat.le_trans (hR i x hx) (ih h)

theorem Times.keeps {a : Nat} {P : Nat → Prop} (hR : ∀ i j, P i → R i j → P j)
    (h : Times R a i j) (hi : P i) : P j := by
  induction a generalizing i with
  | zero => exact h ▸ hi
  | succ a ih =>
    obtain ⟨x, hx, h⟩ := h
    exact ih h (hR i x hi hx)

/-- Rounds that may also stay where they are make up rounds that do not, and fewer of them. -/
theorem times_or_stay : Times (fun i j => i = j ∨ R i j) k i j ↔ ∃ a ≤ k, Times R a i j := by
  induction k generalizing i with
  | zero => simp [Times]
  | succ k ih =>
    simp only [Times, ih]
    constructor
    · rintro ⟨x, rfl | hx, a, ha, hj⟩
      · exact ⟨a, by omega, hj⟩
      · exact ⟨a + 1, by omega, x, hx, hj⟩
    · rintro ⟨a, ha, hj⟩
      cases a with
      | zero => exact ⟨i, Or.inl rfl, 0, Nat.zero_le _, hj⟩
      | succ a =>
        obtain ⟨x, hx, hj⟩ := hj
        exact ⟨x, Or.inr hx, a, by omega, hj⟩

/-- Rounds that go nowhere can be left out; all others go on by a place at least. -/
theorem Times.without_idle {a : Nat} (hR : ∀ i j, R i j → i ≤ j) (h : Times R a i j) :
    ∃ b, b ≤ j - i ∧ Times R b i j := by
  induction a generalizing i with
  | zero => exact ⟨0, Nat.zero_le _, h⟩
  | succ a ih =>
    obtain ⟨x, hx, h⟩ := h
    obtain ⟨b, hb, h⟩ := ih h
    rcases Nat.eq_or_lt_of_le (hR i x hx) with rfl | hlt
    · exact ⟨b, hb, h⟩
    · have hle := h.le hR
      exact ⟨b + 1, by omega, x, hx, h⟩

/-! ## Parts of a text -/

/-- The character before a place. -/
def charBefore (text : List Char) : Nat → Option Char
  | 0 => none
  | i + 1 => text[i]?

/-- Does the condition hold at a place of a text? -/
def Place.HoldsAt (p : Place) (text : List Char) (i : Nat) : Prop :=
  p.holds (charBefore text i) text[i]? = true

namespace Expression

/-- The expression matches the part of the text between two places. A bound on repetitions that is
below the number of times that is asked for adds nothing to it. -/
def Matches (text : List Char) : Expression → Nat → Nat → Prop
  | empty, i, j => i = j
  | place p, i, j => i = j ∧ p.HoldsAt text i
  | one rule s, i, j => j = i + 1 ∧ ∃ c, text[i]? = some c ∧ s.contains rule c = true
  | sequence e f, i, k => ∃ j, e.Matches text i j ∧ f.Matches text j k
  | choice e f, i, j => e.Matches text i j ∨ f.Matches text i j
  | group e, i, j => e.Matches text i j
  | repetition least most e, i, j => ∃ n, least ≤ n ∧
      (∀ bound, most = some bound → n ≤ bound ∨ n = least) ∧ Times (e.Matches text) n i j

theorem Matches.le {e : Expression} (h : e.Matches text i j) : i ≤ j := by
  induction e generalizing i j with
  | empty => exact Nat.le_of_eq h
  | place p => exact Nat.le_of_eq h.1
  | one rule s =>
    rw [h.1]
    exact Nat.le_succ i
  | sequence e f ihe ihf =>
    obtain ⟨x, he, hf⟩ := h
    exact Nat.le_trans (ihe he) (ihf hf)
  | choice e f ihe ihf => exact h.elim ihe ihf
  | group e ih => exact ih h
  | repetition least most e ih =>
    obtain ⟨n, -, -, h⟩ := h
    exact h.le fun _ _ => ih

/-- What an expression matches ends in the text if it begins there. -/
theorem Matches.le_length {e : Expression} (h : e.Matches text i j) (hi : i ≤ text.length) :
    j ≤ text.length := by
  induction e generalizing i j with
  | empty => exact Nat.le_trans (Nat.le_of_eq h.symm) hi
  | place p => exact h.1 ▸ hi
  | one rule s =>
    obtain ⟨rfl, c, hc, -⟩ := h
    exact (List.getElem?_eq_some_iff.1 hc).1
  | sequence e f ihe ihf =>
    obtain ⟨x, he, hf⟩ := h
    exact ihf hf (ihe he hi)
  | choice e f ihe ihf => exact h.elim (ihe · hi) (ihf · hi)
  | group e ih => exact ih h hi
  | repetition least most e ih =>
    obtain ⟨n, -, -, h⟩ := h
    exact h.keeps (P := (· ≤ text.length)) (fun _ _ hx h => ih h hx) hi

end Expression

/-! ## Sets of places -/

namespace Marks

/-- Is a place in the set? -/
def Has (m : Marks) (i : Nat) : Prop := m[i]? = some true

theorem Has.lt (h : m.Has i) : i < m.length := (List.getElem?_eq_some_iff.1 h).1

/-- Marks that are kept where a condition holds. -/
theorem has_zipWith {α : Type} {xs : List α} {f : α → Bool} :
    Marks.Has (List.zipWith (fun x marked => marked && f x) xs m) i ↔
      ∃ x, xs[i]? = some x ∧ m.Has i ∧ f x = true := by
  unfold Has
  rw [List.getElem?_zipWith]
  cases xs[i]? <;> cases m[i]? <;> simp

theorem has_join (h : m.length = n.length) : (m.join n).Has i ↔ m.Has i ∨ n.Has i := by
  unfold Has join
  rw [List.getElem?_zipWith]
  by_cases hi : i < m.length
  · rw [List.getElem?_eq_getElem hi, List.getElem?_eq_getElem (h ▸ hi)]
    simp
  · rw [List.getElem?_eq_none (by omega), List.getElem?_eq_none (by omega)]
    simp

theorem iterate_eq (step : Marks → Marks) (k : Nat) (m : Marks) :
    iterate step k m = step^[k] m := by
  induction k generalizing m with
  | zero => rfl
  | succ k ih => rw [iterate_succ, ih, Function.iterate_succ_apply]

/-- Reaching is stepping on while keeping the places that one has. -/
theorem reach_eq (step : Marks → Marks) (k : Nat) (m : Marks) :
    reach step k m = (fun m => m.join (step m))^[k] m := by
  have h : ∀ k m, reach step k m = iterate (fun m => m.join (step m)) k m := by
    intro k
    induction k with
    | zero => exact fun _ => rfl
    | succ k ih =>
      intro m
      simp only [reach, iterate, ih]
  rw [h, iterate_eq]

/-- For a text of `size` characters, a step takes places to those that a relation leads to. -/
structure Realizes (size : Nat) (step : Marks → Marks) (R : Nat → Nat → Prop) : Prop where
  length : ∀ m : Marks, m.length = size + 1 → (step m).length = size + 1
  has : ∀ m : Marks, m.length = size + 1 → ∀ j, (step m).Has j ↔ ∃ i, m.Has i ∧ R i j

namespace Realizes

variable {size : Nat} {step next : Marks → Marks} {S : Nat → Nat → Prop}

theorem congr (h : Realizes size step R) (hRS : ∀ i j, i ≤ size → (R i j ↔ S i j)) :
    Realizes size step S where
  length := h.length
  has m hm j := by
    rw [h.has m hm]
    refine exists_congr fun i => and_congr_right fun hi => hRS i j ?_
    have := hi.lt
    omega

theorem comp (h : Realizes size step R) (h' : Realizes size next S) :
    Realizes size (fun m => next (step m)) fun i k => ∃ j, R i j ∧ S j k where
  length m hm := h'.length _ (h.length m hm)
  has m hm k := by
    rw [h'.has _ (h.length m hm)]
    simp only [h.has m hm]
    constructor
    · rintro ⟨j, ⟨i, hi, hij⟩, hjk⟩
      exact ⟨i, hi, j, hij, hjk⟩
    · rintro ⟨i, hi, j, hij, hjk⟩
      exact ⟨j, ⟨i, hi, hij⟩, hjk⟩

theorem join (h : Realizes size step R) (h' : Realizes size next S) :
    Realizes size (fun m => (step m).join (next m)) fun i j => R i j ∨ S i j where
  length m hm := by simp [Marks.join, h.length m hm, h'.length m hm]
  has m hm j := by
    rw [has_join (by rw [h.length m hm, h'.length m hm]), h.has m hm, h'.has m hm]
    simp only [and_or_left, exists_or]

theorem id : Realizes size (fun m => m) Eq where
  length _ hm := hm
  has _ _ _ := by simp

theorem iterate (h : Realizes size step R) (k : Nat) : Realizes size step^[k] (Times R k) := by
  induction k with
  | zero => exact id
  | succ k ih =>
    have hlast := ih.comp h
    simp only [← Times.succ_last] at hlast
    rw [show step^[k + 1] = fun m => step (step^[k] m) from
      funext fun m => Function.iterate_succ_apply' step k m]
    exact hlast

/-- Keeping the places one has lets rounds be left out. -/
theorem reach (h : Realizes size step R) (k : Nat) :
    Realizes size (Marks.reach step k) fun i j => ∃ a ≤ k, Times R a i j := by
  rw [show Marks.reach step k = (fun m => m.join (step m))^[k] from funext (reach_eq step k)]
  exact (iterate (id.join h) k).congr fun i j _ => times_or_stay

end Realizes

end Marks

/-! ## What is found -/

theorem Place.surroundings_eq (hi : i ≤ text.length) :
    (Place.surroundings text)[i]? = some (charBefore text i, text[i]?) := by
  unfold surroundings
  rw [List.getElem?_zip_eq_some]
  constructor
  · cases i with
    | zero => rfl
    | succ i =>
      have hlt : i < text.length := hi
      simp [charBefore, List.getElem?_eq_getElem hlt]
  · rcases Nat.eq_or_lt_of_le hi with rfl | hlt
    · simp
    · rw [List.getElem?_append_left (by simpa using hlt)]
      simp [List.getElem?_eq_getElem hlt]

namespace Expression

open Marks

theorem realizes_place (p : Place) :
    Realizes text.length ((place p).ends text) ((place p).Matches text) where
  length m hm := by simp [ends, Place.surroundings, hm]
  has m hm j := by
    have hfound : Marks.Has ((place p).ends text m) j ↔
        ∃ x, (Place.surroundings text)[j]? = some x ∧ m.Has j ∧ p.holds x.1 x.2 = true :=
      has_zipWith (f := fun x : Option Char × Option Char => p.holds x.1 x.2)
    rw [hfound]
    constructor
    · rintro ⟨x, hx, hj, hp⟩
      have hlt := hj.lt
      rw [Place.surroundings_eq (by omega)] at hx
      cases hx
      exact ⟨j, hj, rfl, hp⟩
    · rintro ⟨i, hi, rfl, hp⟩
      have hlt := hi.lt
      exact ⟨_, Place.surroundings_eq (by omega), hi, hp⟩

theorem realizes_one (rule : CaseRule) (s : CharSet) :
    Realizes text.length ((one rule s).ends text) ((one rule s).Matches text) where
  length m hm := by simp [ends, hm]
  has m hm j := by
    cases j with
    | zero =>
      refine iff_of_false (fun h => ?_) ?_
      · cases h
      · rintro ⟨i, -, hj, -⟩
        cases hj
    | succ j =>
      have hfound : Marks.Has ((one rule s).ends text m) (j + 1) ↔
          ∃ c, text[j]? = some c ∧ m.Has j ∧ s.contains rule c = true := has_zipWith
      rw [hfound]
      constructor
      · rintro ⟨c, hc, hj, hs⟩
        exact ⟨j, hj, rfl, c, hc, hs⟩
      · rintro ⟨i, hi, hj, c, hc, hs⟩
        obtain rfl := Nat.succ.inj hj
        exact ⟨c, hc, hi, hs⟩

/-- So many rounds, and then as many more as are wanted. -/
theorem realizes_rounds {e : Expression} (least rounds : Nat)
    (h : Realizes text.length (e.ends text) (e.Matches text)) :
    Realizes text.length
      (fun m => Marks.reach (e.ends text) rounds (Marks.iterate (e.ends text) least m)) fun i j =>
        ∃ x, Times (e.Matches text) least i x ∧
          ∃ a ≤ rounds, Times (e.Matches text) a x j := by
  simp only [iterate_eq]
  exact (h.iterate least).comp (h.reach rounds)

theorem realizes_bounded {e : Expression} (least bound : Nat)
    (h : Realizes text.length (e.ends text) (e.Matches text)) :
    Realizes text.length ((repetition least (some bound) e).ends text)
      ((repetition least (some bound) e).Matches text) := by
  refine (realizes_rounds least (bound - least) h).congr fun i j _ => ?_
  constructor
  · rintro ⟨x, hx, a, ha, hj⟩
    refine ⟨least + a, by omega, ?_, Times.add.2 ⟨x, hx, hj⟩⟩
    intro _ heq
    cases heq
    omega
  · rintro ⟨n, hn, hbound, hj⟩
    obtain ⟨a, rfl⟩ := Nat.exists_eq_add_of_le hn
    obtain ⟨x, hx, hj⟩ := Times.add.1 hj
    have hle := hbound bound rfl
    exact ⟨x, hx, a, by omega, hj⟩

/-- No more rounds are needed than there are places, since those that go nowhere can be left out. -/
theorem realizes_unbounded {e : Expression} (least : Nat)
    (h : Realizes text.length (e.ends text) (e.Matches text)) :
    Realizes text.length ((repetition least none e).ends text)
      ((repetition least none e).Matches text) := by
  refine (realizes_rounds least (text.length + 1) h).congr fun i j hi => ?_
  constructor
  · rintro ⟨x, hx, a, -, hj⟩
    exact ⟨least + a, by omega, nofun, Times.add.2 ⟨x, hx, hj⟩⟩
  · rintro ⟨n, hn, -, hj⟩
    obtain ⟨a, rfl⟩ := Nat.exists_eq_add_of_le hn
    obtain ⟨x, hx, hj⟩ := Times.add.1 hj
    obtain ⟨b, hb, hj⟩ := hj.without_idle fun _ _ => Matches.le
    have hmatches : (repetition least none e).Matches text i j :=
      ⟨least + b, by omega, nofun, Times.add.2 ⟨x, hx, hj⟩⟩
    have hend := hmatches.le_length hi
    exact ⟨x, hx, b, by omega, hj⟩

/-- The places that are found are those where the expression matches up to. -/
theorem realizes_ends (text : List Char) (e : Expression) :
    Realizes text.length (e.ends text) (e.Matches text) := by
  induction e with
  | empty => exact .id
  | place p => exact realizes_place p
  | one rule s => exact realizes_one rule s
  | sequence e f ihe ihf => exact ihe.comp ihf
  | choice e f ihe ihf => exact ihe.join ihf
  | group e ih => exact ih
  | repetition least most e ih =>
    cases most with
    | none => exact realizes_unbounded least ih
    | some bound => exact realizes_bounded least bound ih

/-- An expression matches in a text if it matches some part of it. -/
theorem matchesIn_iff (e : Expression) (text : List Char) :
    e.matchesIn text = true ↔ ∃ i j, i ≤ text.length ∧ e.Matches text i j := by
  have hall : ∀ i, Marks.Has (List.replicate (text.length + 1) true) i ↔ i ≤ text.length := by
    intro i
    simp only [Marks.Has, List.getElem?_replicate]
    split
    · exact iff_of_true rfl (by omega)
    · exact iff_of_false nofun (by omega)
  have hany : e.matchesIn text = true ↔
      ∃ j, (e.ends text (List.replicate (text.length + 1) true)).Has j := by
    simp only [matchesIn, List.any_eq_true, id, exists_eq_right, Marks.Has, List.mem_iff_getElem?]
  rw [hany, exists_comm]
  refine exists_congr fun j => ?_
  rw [(realizes_ends text e).has _ List.length_replicate]
  simp only [hall]

end Expression

end LinkedShapes
