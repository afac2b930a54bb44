import LinkedShapes.Pattern.Basic
import LinkedShapes.Proofs.Pattern.Bracket

/-!
# Reading an expression between anchors

An expression that can be read on its own is read in the same way between the anchors: the
parenthesis that follows closes the group that the anchors have opened, unless it is lost in a
comment, and then nothing closes it.

* `ReadState.under`: the same state inside of a further group.
* `persists_step`, `step_under`: a step is the same before the closing part and inside of a group.
* `run_under`: reading to the end.
* `parse?_anchored`: an expression and the same expression between anchors.
-/

namespace LinkedShapes

open Text

variable {r r' t t' : List Char} {c : Char} {f : Flags}

theorem Flags.skip_nil (f : Flags) : f.skip [] = [] := by
  unfold skip
  split <;> rfl

/-- What is neither white space nor the sign of a comment is not skipped. -/
theorem Flags.skip_cons (f : Flags) (hc : isWhiteSpace c = false) (hne : c ≠ '#')
    (rest : List Char) : f.skip (c :: rest) = c :: rest := by
  unfold skip
  split
  · simp [skipBlank, hc, hne]
  · rfl

namespace Expression

namespace ReadState

/-! ## Repetitions -/

theorem continues_skipReluctance (h : Continues t t') :
    Continues (skipReluctance t) (skipReluctance t') := by
  unfold skipReluctance
  split
  · obtain ⟨rest, rfl, hrest⟩ := h.of_cons
    exact hrest
  · next hne =>
    split
    · obtain ⟨before, rfl, -⟩ := h.exists_of_cons (by decide) rfl
      exact (hne before rfl).elim
    · exact h

theorem readDigits_eq (f : Flags) (t : List Char) : some (readDigits f t) = match t with
    | [] => some ([], [])
    | c :: rest =>
      if isAsciiDigit c then
        some (readDigits f (f.skip rest)) >>= fun p => some (c :: p.1, p.2)
      else some ([], c :: rest) := by
  cases t with
  | nil => rw [readDigits]
  | cons c rest =>
    rw [readDigits]
    simp only
    split <;> rfl

theorem persists_readDigits (f : Flags) : Persists fun t => some (readDigits f t) := by
  intro t
  induction hn : t.length using Nat.strongRecOn generalizing t with
  | _ n ih =>
    intro v r h
    simp only [readDigits_eq f t, readDigits_eq f (t ++ closing)] at h ⊢
    cases t with
    | nil =>
      cases h
      exact ⟨closing, rfl, Or.inl rfl⟩
    | cons c rest =>
      simp only [List.cons_append] at h ⊢
      by_cases hc : isAsciiDigit c = true
      · rw [if_pos hc] at h ⊢
        have hle := f.length_skip_le rest
        rw [List.length_cons] at hn
        have hinner := ih (f.skip rest).length (by omega) _ rfl
        exact (hinner.bind fun digits => persists_some (c :: digits)).apply
          (continues_skip f rest) h
      · rw [if_neg hc] at h ⊢
        cases h
        exact ⟨_, rfl, Or.inl rfl⟩

theorem persists_readCount (f : Flags) : Persists (readCount f) := by
  intro t v r h
  have hcont := (continues_append t).dropWhile (p := isWhiteSpace) (by decide)
  obtain ⟨after, hafter, hcont⟩ := (persists_readDigits f).apply hcont rfl
  simp only [Option.some.injEq] at hafter
  unfold readCount at h ⊢
  rw [hafter]
  simp only at h ⊢
  split at h
  · cases h
  · next hc =>
    rw [if_neg hc]
    cases h
    exact ⟨_, rfl, (hcont.dropWhile (by decide)).skip f⟩

/-- Reads the upper bound of a repetition, if there is one, behind the lower bound's comma. -/
def readMost (f : Flags) (least : Nat) (text : List Char) : Option (Nat × Option Nat × List Char) :=
  match f.skip text with
  | '}' :: rest => some (least, none, rest)
  | rest => do
    let (most, rest) ← readCount f rest
    match rest with
    | '}' :: rest => if least ≤ most then return (least, some most, rest) else none
    | _ => none

theorem continues_readMost (f : Flags) {n least : Nat} {most : Option Nat} (ht : Continues t t')
    (h : readMost f n t = some (least, most, r)) :
    ∃ r', readMost f n t' = some (least, most, r') ∧ Continues r r' := by
  have hcont := ht.skip f
  unfold readMost at h ⊢
  generalize f.skip t' = u' at *
  generalize f.skip t = u at *
  split at h
  · obtain ⟨rest', rfl, hrest⟩ := hcont.of_cons
    cases h
    exact ⟨rest', rfl, hrest⟩
  · next hne =>
    obtain ⟨⟨bound, t₁⟩, hbound, h⟩ := Option.bind_eq_some_iff.1 h
    obtain ⟨t₁', hbound', hcont₁⟩ := (persists_readCount f).apply hcont hbound
    split
    · obtain ⟨before, rfl, -⟩ := hcont.exists_of_cons (by decide) rfl
      exact (hne before rfl).elim
    · rw [hbound']
      simp only [Option.bind_eq_bind, Option.bind_some] at h ⊢
      split at h
      · obtain ⟨rest', rfl, hrest⟩ := hcont₁.of_cons
        split at h
        · next hle =>
          cases h
          exact ⟨rest', if_pos hle, hrest⟩
        · cases h
      · cases h

theorem continues_readBounds (f : Flags) {least : Nat} {most : Option Nat} (ht : Continues t t')
    (h : readBounds f t = some (least, most, r)) :
    ∃ r', readBounds f t' = some (least, most, r') ∧ Continues r r' := by
  obtain ⟨⟨n, t₁⟩, hn, h⟩ := Option.bind_eq_some_iff.1 h
  obtain ⟨t₁', hn', hcont⟩ := (persists_readCount f).apply (ht.skip f) hn
  unfold readBounds
  rw [hn']
  simp only [Option.bind_eq_bind, Option.bind_some] at h ⊢
  split at h
  · obtain ⟨rest', rfl, hrest⟩ := hcont.of_cons
    cases h
    exact ⟨rest', rfl, hrest⟩
  · obtain ⟨rest', rfl, hrest⟩ := hcont.of_cons
    exact continues_readMost f hrest h
  · cases h

/-! ## Groups -/

theorem persists_readName (first : Bool) : Persists (readName first) := by
  intro t
  induction t generalizing first with
  | nil =>
    intro v r h
    cases h
  | cons c cs ih =>
    intro v r h
    simp only [List.cons_append, readName] at h ⊢
    split at h
    · next hc =>
      rw [if_pos hc]
      exact persists_ite persists_none (persists_some []) cs v r h
    · next hc =>
      rw [if_neg hc]
      split at h
      · next hname =>
        rw [if_pos hname]
        exact (ih false).map (c :: ·) v r h
      · cases h

theorem persists_openNamed? (s : ReadState) : Persists s.openNamed? :=
  (persists_readName true).bind fun name => persists_ite (p := name ∈ s.names) persists_none
    (persists_some (({ s with names := name :: s.names } : ReadState).openGroup s.flags true))

theorem continues_readLetters {f' : Flags} {mark : Char} (ht : Continues t t') (seen : List Char)
    (h : f.readLetters seen t = some (f', mark, r)) :
    ∃ r', f.readLetters seen t' = some (f', mark, r') ∧ Continues r r' := by
  induction t generalizing f seen t' with
  | nil => cases h
  | cons c cs ih =>
    obtain ⟨cs', rfl, hcs⟩ := ht.of_cons
    simp only [Flags.readLetters] at h ⊢
    split at h
    · next hc =>
      rw [if_pos hc]
      split at h
      · cases h
      · next hseen =>
        cases h
        exact ⟨cs', if_neg hseen, hcs⟩
    · next hc =>
      rw [if_neg hc]
      split at h
      · cases h
      · next hseen =>
        rw [if_neg hseen]
        split at h
        · next hhyphen =>
          rw [if_pos hhyphen]
          exact ih hcs _ h
        · next hhyphen =>
          rw [if_neg hhyphen]
          obtain ⟨f₁, hset, h⟩ := Option.bind_eq_some_iff.1 h
          rw [hset]
          exact ih hcs _ h

/-- Reads letters of flags, and opens a group or sets the flags as the mark behind them says. -/
def readFlags (s : ReadState) (text : List Char) : Option (ReadState × List Char) := do
  let (flags, mark, rest) ← s.flags.readLetters [] text
  if mark = ':' then return (s.openGroup flags false, rest)
  else return ({ s with flags, branch := none :: s.branch }, rest)

/-- Reads the opening of a group behind its question mark. -/
def readMarked (s : ReadState) : List Char → Option (ReadState × List Char)
  | [] => none
  | c :: rest =>
    if c = '=' ∨ c = '!' ∨ c = ')' then none
    else if c = '<' then
      if rest.head? = some '=' ∨ rest.head? = some '!' then none else s.openNamed? rest
    else if c = 'P' ∧ rest.head? = some '<' then s.openNamed? rest.tail
    else s.readFlags (c :: rest)

theorem readGroup_eq (s : ReadState) (t : List Char) : s.readGroup t =
    if (s.flags.skip t).head? = some '?' then s.readMarked (s.flags.skip t).tail
    else some (s.openGroup s.flags true, s.flags.skip t) := by
  have hhead {c : Char} {rest : List Char} (hne : ∀ tail, rest = c :: tail → False) :
      rest.head? ≠ some c := fun h =>
    let ⟨tail, htail⟩ := List.head?_eq_some_iff.1 h
    hne tail htail
  unfold readGroup
  generalize s.flags.skip t = u
  split
  · rfl
  · rfl
  · rfl
  · rfl
  · rfl
  · next rest heq hno =>
    exact (if_neg (not_or.2 ⟨hhead heq, hhead hno⟩)).symm
  · rfl
  · next rest h₁ h₂ h₃ h₄ h₅ h₆ h₇ =>
    rw [List.head?_cons, if_pos rfl, List.tail_cons]
    cases rest with
    | nil => rfl
    | cons c rest =>
      -- none of the marks comes first that stand for something else
      have hc : ¬(c = '=' ∨ c = '!' ∨ c = ')') := by
        rintro (rfl | rfl | rfl)
        exacts [h₁ rest rfl, h₂ rest rfl, h₇ rest rfl]
      have hangle : c ≠ '<' := fun h => h₆ rest (by rw [h])
      have hname : ¬(c = 'P' ∧ rest.head? = some '<') := by
        rintro ⟨rfl, hrest⟩
        obtain ⟨tail, rfl⟩ := List.head?_eq_some_iff.1 hrest
        exact h₅ tail rfl
      rw [readMarked, if_neg hc, if_neg hangle, if_neg hname]
      rfl
  · next hne => exact (if_neg (hhead hne)).symm

theorem persists_readFlags (s : ReadState) : Persists s.readFlags := by
  intro t v r h
  obtain ⟨⟨flags, mark, t₁⟩, hletters, h⟩ := Option.bind_eq_some_iff.1 h
  obtain ⟨t₁', hletters', hcont⟩ := continues_readLetters (continues_append t) [] hletters
  unfold readFlags
  rw [hletters']
  exact (persists_ite (p := mark = ':') (persists_some (s.openGroup flags false))
    (persists_some { s with flags, branch := none :: s.branch })).apply hcont h

theorem persists_readMarked (s : ReadState) : Persists s.readMarked := by
  intro t v r h
  cases t with
  | nil => cases h
  | cons c cs =>
    have hhead {d : Char} (hd : d ≠ ')') : (cs ++ closing).head? = some d ↔ cs.head? = some d :=
      (continues_append cs).head?_iff hd
    simp only [List.cons_append, readMarked, hhead (show '=' ≠ ')' by decide),
      hhead (show '!' ≠ ')' by decide), hhead (show '<' ≠ ')' by decide)] at h ⊢
    split at h
    · cases h
    · next hc =>
      rw [if_neg hc]
      split at h
      · next hc =>
        rw [if_pos hc]
        exact persists_ite persists_none (persists_openNamed? s) cs v r h
      · next hc =>
        rw [if_neg hc]
        split at h
        · next hname =>
          rw [if_pos hname]
          obtain ⟨rest, rfl⟩ := List.head?_eq_some_iff.1 hname.2
          exact persists_openNamed? s rest v r h
        · next hname =>
          rw [if_neg hname]
          exact persists_readFlags s (c :: cs) v r h

theorem persists_readGroup (s : ReadState) : Persists s.readGroup := by
  intro t v r h
  have hcont := continues_skip s.flags t
  simp only [readGroup_eq, hcont.head?_iff (show '?' ≠ ')' by decide)] at h ⊢
  generalize s.flags.skip (t ++ closing) = u' at *
  generalize s.flags.skip t = u at *
  split at h
  · next hmark =>
    rw [if_pos hmark]
    obtain ⟨rest, rfl⟩ := List.head?_eq_some_iff.1 hmark
    obtain ⟨rest', rfl, hrest⟩ := hcont.of_cons
    exact (persists_readMarked s).apply hrest h
  · next hmark =>
    rw [if_neg hmark]
    exact (persists_some _).apply hcont h

/-! ## Steps -/

theorem persists_step (s : ReadState) (c : Char) : Persists (s.step c) := by
  intro t v r h
  unfold step at h ⊢
  split at h
  · exact persists_readGroup s t v r h
  · exact persists_map s.closeGroup? id t v r h
  · exact persists_some _ t v r h
  · exact ((Bracket.persists_read s.flags).bind fun set =>
      persists_some (s.push (.one s.flags.caseRule set.value) set.depth)) t v r h
  · exact (persists_map (s.repeatLast? 0 (some 1)) id).apply
      (continues_skipReluctance (continues_append t)) h
  · exact (persists_map (s.repeatLast? 0 none) id).apply
      (continues_skipReluctance (continues_append t)) h
  · exact (persists_map (s.repeatLast? 1 none) id).apply
      (continues_skipReluctance (continues_append t)) h
  · obtain ⟨⟨least, most, t₁⟩, hbounds, h⟩ := Option.bind_eq_some_iff.1 h
    obtain ⟨t₁', hbounds', hcont⟩ := continues_readBounds s.flags (continues_append t) hbounds
    simp only at h ⊢
    rw [hbounds']
    exact (persists_bind (s.repeatLast? least most) persists_some).apply
      (continues_skipReluctance (hcont.skip s.flags)) h
  · exact (persists_bind (dotSet? s.flags) fun set =>
      persists_some (s.push (.one s.flags.caseRule set) 0)) t v r h
  · exact persists_some _ t v r h
  · exact persists_some _ t v r h
  · exact ((Atom.persists_readEscape s.flags).bind fun atom =>
      persists_some (s.pushAtom atom)) t v r h
  · exact persists_some _ t v r h

/-! ## Inside of a group -/

/-- The same state inside of a further group. -/
def under (s : ReadState) (outer : OpenGroup) : ReadState :=
  { s with groups := s.groups ++ [outer] }

theorem closeGroup?_under {s s' : ReadState} (outer : OpenGroup) (h : s.closeGroup? = some s') :
    (s.under outer).closeGroup? = some (s'.under outer) := by
  obtain ⟨flags, branch, branches, groups, names⟩ := s
  cases groups with
  | nil => cases h
  | cons g groups =>
    cases h
    rfl

theorem repeatLast?_under {s s' : ReadState} (outer : OpenGroup) {least : Nat} {most : Option Nat}
    (h : s.repeatLast? least most = some s') :
    (s.under outer).repeatLast? least most = some (s'.under outer) := by
  obtain ⟨flags, branch, branches, groups, names⟩ := s
  cases branch with
  | nil => cases h
  | cons piece rest =>
    cases piece with
    | none => cases h
    | some piece =>
      cases h
      rfl

theorem openNamed?_under {s s' : ReadState} (outer : OpenGroup)
    (h : s.openNamed? t = some (s', r)) :
    (s.under outer).openNamed? t = some (s'.under outer, r) := by
  obtain ⟨⟨name, t₁⟩, hname, h⟩ := Option.bind_eq_some_iff.1 h
  refine Option.bind_eq_some_iff.2 ⟨_, hname, ?_⟩
  simp only at h ⊢
  split at h
  · cases h
  · next hnew =>
    cases h
    exact if_neg hnew

theorem readFlags_under {s s' : ReadState} (outer : OpenGroup) (h : s.readFlags t = some (s', r)) :
    (s.under outer).readFlags t = some (s'.under outer, r) := by
  obtain ⟨⟨flags, mark, t₁⟩, hletters, h⟩ := Option.bind_eq_some_iff.1 h
  refine Option.bind_eq_some_iff.2 ⟨_, hletters, ?_⟩
  simp only at h ⊢
  split at h
  · next hmark =>
    cases h
    exact if_pos hmark
  · next hmark =>
    cases h
    exact if_neg hmark

theorem readMarked_under {s s' : ReadState} (outer : OpenGroup)
    (h : s.readMarked t = some (s', r)) :
    (s.under outer).readMarked t = some (s'.under outer, r) := by
  cases t with
  | nil => cases h
  | cons c cs =>
    simp only [readMarked] at h ⊢
    split at h
    · cases h
    · next hc =>
      rw [if_neg hc]
      split at h
      · next hc =>
        rw [if_pos hc]
        split at h
        · cases h
        · next hlook =>
          rw [if_neg hlook]
          exact openNamed?_under outer h
      · next hc =>
        rw [if_neg hc]
        split at h
        · next hname =>
          rw [if_pos hname]
          exact openNamed?_under outer h
        · next hname =>
          rw [if_neg hname]
          exact readFlags_under outer h

theorem readGroup_under {s s' : ReadState} (outer : OpenGroup) (h : s.readGroup t = some (s', r)) :
    (s.under outer).readGroup t = some (s'.under outer, r) := by
  rw [readGroup_eq] at h ⊢
  change (if (s.flags.skip t).head? = some '?' then (s.under outer).readMarked (s.flags.skip t).tail
    else some ((s.under outer).openGroup s.flags true, s.flags.skip t)) = _
  split at h
  · next hmark =>
    rw [if_pos hmark]
    exact readMarked_under outer h
  · next hmark =>
    rw [if_neg hmark]
    cases h
    rfl

theorem map_under {s' : ReadState} {o o' : Option ReadState} (outer : OpenGroup)
    (ho : ∀ s, o = some s → o' = some (s.under outer))
    (h : o.map (fun s => (s, t)) = some (s', r)) :
    o'.map (fun s => (s, t)) = some (s'.under outer, r) := by
  obtain ⟨s, hs, hs'⟩ := Option.map_eq_some_iff.1 h
  cases hs'
  rw [ho _ hs, Option.map_some]

/-- What a step does to a state does not depend on the groups around it. -/
theorem step_under {s s' : ReadState} (outer : OpenGroup) (h : s.step c t = some (s', r)) :
    (s.under outer).step c t = some (s'.under outer, r) := by
  unfold step at h ⊢
  split at h
  · exact readGroup_under outer h
  · exact map_under outer (fun _ => closeGroup?_under outer) h
  · cases h
    rfl
  · obtain ⟨set, hset, h⟩ := Option.bind_eq_some_iff.1 h
    cases h
    exact Option.bind_eq_some_iff.2 ⟨set, hset, rfl⟩
  · exact map_under outer (fun _ => repeatLast?_under outer) h
  · exact map_under outer (fun _ => repeatLast?_under outer) h
  · exact map_under outer (fun _ => repeatLast?_under outer) h
  · obtain ⟨bounds, hbounds, h⟩ := Option.bind_eq_some_iff.1 h
    obtain ⟨s₁, hs₁, h⟩ := Option.bind_eq_some_iff.1 h
    cases h
    exact Option.bind_eq_some_iff.2
      ⟨bounds, hbounds, Option.bind_eq_some_iff.2 ⟨_, repeatLast?_under outer hs₁, rfl⟩⟩
  · obtain ⟨set, hset, h⟩ := Option.bind_eq_some_iff.1 h
    cases h
    exact Option.bind_eq_some_iff.2 ⟨set, hset, rfl⟩
  · cases h
    rfl
  · cases h
    rfl
  · obtain ⟨⟨atom, rest⟩, hatom, h⟩ := Option.bind_eq_some_iff.1 h
    cases h
    refine Option.bind_eq_some_iff.2 ⟨_, hatom, ?_⟩
    cases atom <;> rfl
  · cases h
    rfl

/-! ## Whole expressions -/

end ReadState

/-- The place that a circumflex stands for. -/
def startPlace (f : Flags) : Place := if f.multiLine then .lineStart f.carriage else .textStart

/-- The place that a dollar sign stands for. -/
def endPlace (f : Flags) : Place := if f.multiLine then .lineEnd f.carriage else .textEnd

/-- An expression between the places that the anchors stand for. -/
def between (f : Flags) (e : Expression) : Expression :=
  .sequence (.place (startPlace f)) (.sequence e (.place (endPlace f)))

namespace ReadState

theorem run_nil {s : ReadState} (n : Nat) (ht : s.flags.skip t = []) :
    run n s t = if s.groups.isEmpty then some s.joinBranches else none := by
  unfold run
  rw [ht]

/-- Each step takes a character, and where one is left there has to be a step left for it. -/
theorem run_cons {s : ReadState} {rest : List Char} {n : Nat} {x : Nested Expression}
    (ht : s.flags.skip t = c :: rest) (h : run n s t = some x) :
    ∃ m p, n = m + 1 ∧ s.step c rest = some p ∧ run m p.1 p.2 = some x := by
  unfold run at h
  rw [ht] at h
  cases n with
  | zero => cases h
  | succ m =>
    obtain ⟨p, hp, h⟩ := Option.bind_eq_some_iff.1 h
    exact ⟨m, p, rfl, hp, h⟩

/-- The group that the anchors open. -/
def anchorGroup (f : Flags) : OpenGroup where
  branch := [some ⟨.place (startPlace f), 0⟩]
  branches := []
  flags := f
  remembered := false

/-- Where an expression is complete, the closing part ends the text. -/
theorem run_closing {s : ReadState} {m : Nat} {y : Nested Expression} (hgroups : s.groups = [])
    (ht : s.flags.skip t = closing) (h : run m (s.under (anchorGroup f)) t = some y) :
    y.value = s.joinBranches.value.between f := by
  obtain ⟨flags, branch, branches, groups, names⟩ := s
  obtain rfl : groups = [] := hgroups
  have ht : (under ⟨flags, branch, branches, [], names⟩ (anchorGroup f)).flags.skip t = closing :=
    ht
  obtain ⟨m, p, rfl, hp, h⟩ := run_cons ht h
  cases hp
  obtain ⟨m, p, rfl, hp, h⟩ := run_cons (f.skip_cons (by decide) (by decide) []) h
  cases hp
  exact (congrArg Nested.value (Option.some.inj ((run_nil m f.skip_nil).symm.trans h))).symm

/-- Where nothing is left of an expression, it is complete, and the closing part is not lost. -/
theorem run_under_nil {s : ReadState} {n m : Nat} {x y : Nested Expression} (ht : Continues t t')
    (hnil : s.flags.skip t = []) (hx : run n s t = some x)
    (hy : run m (s.under (anchorGroup f)) t' = some y) : y.value = x.value.between f := by
  rw [run_nil n hnil] at hx
  split at hx
  · next hgroups =>
    cases hx
    have hcont := ht.skip s.flags
    rw [hnil] at hcont
    rcases hcont.of_nil with hclosing | hlost
    · exact run_closing (List.isEmpty_iff.1 hgroups) hclosing hy
    · rw [run_nil (s := s.under (anchorGroup f)) m hlost, if_neg (by simp [under])] at hy
      cases hy
  · cases hx

/-- An expression that is read on its own is read in the same way inside of the anchors' group. -/
theorem run_under {s : ReadState} {n m : Nat} {x y : Nested Expression} (ht : Continues t t')
    (hx : run n s t = some x) (hy : run m (s.under (anchorGroup f)) t' = some y) :
    y.value = x.value.between f := by
  -- by the steps without the anchors, with which the steps inside of their group keep pace
  induction n using Nat.strongRecOn generalizing s t t' m with
  | _ n ih =>
    have hcont := ht.skip s.flags
    cases hu : s.flags.skip t with
    | nil => exact run_under_nil ht hu hx hy
    | cons c rest =>
      rw [hu] at hcont
      obtain ⟨rest', hu', hrest⟩ := hcont.of_cons
      obtain ⟨n, ⟨s₁, r⟩, rfl, hstep, hx⟩ := run_cons hu hx
      obtain ⟨r', hstep', hr⟩ := (persists_step s c).apply hrest hstep
      obtain ⟨m, p, rfl, hp, hy⟩ := run_cons (s := s.under (anchorGroup f)) hu' hy
      rw [step_under (anchorGroup f) hstep'] at hp
      cases hp
      exact ih n (Nat.lt_succ_self n) hr hx hy

/-- The anchors open a group inside of which the expression is read. -/
theorem run_anchored {m : Nat} {y : Nested Expression}
    (h : run m { flags := f } ('^' :: '(' :: '?' :: ':' :: t) = some y) :
    ∃ k, run k (under { flags := f } (anchorGroup f)) t = some y := by
  obtain ⟨m, p, rfl, hp, h⟩ := run_cons (f.skip_cons (by decide) (by decide) _) h
  cases hp
  obtain ⟨m, p, rfl, hp, h⟩ := run_cons (f.skip_cons (by decide) (by decide) _) h
  have hgroup : ReadState.readGroup (push { flags := f } (.place (startPlace f)) 0)
      ('?' :: ':' :: t) = some (under { flags := f } (anchorGroup f), t) := by
    have hskip := f.skip_cons (c := '?') (by decide) (by decide) (':' :: t)
    rw [readGroup_eq]
    change (if (f.skip ('?' :: ':' :: t)).head? = some '?' then
      readMarked _ (f.skip ('?' :: ':' :: t)).tail else _) = _
    rw [hskip]
    rfl
  cases hgroup.symm.trans hp
  exact ⟨m, h⟩

end ReadState

theorem run_of_parse? {x : Expression} (h : parse? f t = some x) :
    ∃ y, ReadState.run t.length { flags := f } t = some y ∧ y.value = x := by
  obtain ⟨y, hy, h⟩ := Option.bind_eq_some_iff.1 h
  split at h
  · exact ⟨y, hy, Option.some.inj h⟩
  · cases h

/-- An expression between anchors is read as what it is on its own, between the anchors' places. -/
theorem parse?_anchored {e : String} {x w : Expression} (hx : parse? f e.toList = some x)
    (hw : parse? f (Pattern.anchored e) = some w) : w = x.between f := by
  obtain ⟨inner, hinner, rfl⟩ := run_of_parse? hx
  obtain ⟨outer, houter, rfl⟩ := run_of_parse? hw
  obtain ⟨k, houter⟩ := ReadState.run_anchored (t := e.toList ++ closing) houter
  exact ReadState.run_under (continues_append _) hinner houter

end Expression

end LinkedShapes
