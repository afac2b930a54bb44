import LinkedShapes.Proofs.Pattern.Continuation

/-!
# Bracketed classes before the anchors

A class in brackets that is complete is read in the same way when the closing part of the anchors
follows. The parenthesis is no hyphen, no bracket and no colon, so that looking ahead at it makes
no difference.

* `Flags.peek_iff`: looking ahead.
* `readAsciiClass_append`: the classes of ASCII are there or not, whatever follows.
* `persists_step`, `persists_read`: a step of reading, and the whole class.
-/

namespace LinkedShapes

open Text

variable {r r' t t' : List Char} {c : Char} {f : Flags}

theorem Continues.head?_iff (h : Continues r r') (hc : c ≠ ')') :
    r'.head? = some c ↔ r.head? = some c := by
  rcases h with rfl | rfl
  · cases r with
    | nil => simpa [closing] using hc.symm
    | cons d r => rfl
  · rfl

theorem Flags.peek_iff (f : Flags) (h : Continues r r') (hc : c ≠ ')') :
    f.peek r' = some c ↔ f.peek r = some c := by
  have hblank {t t' : List Char} (h : Continues t t') :
      Continues (t.dropWhile isWhiteSpace) (t'.dropWhile isWhiteSpace) := h.dropWhile (by decide)
  have hcont := hblank h
  unfold peek
  split
  · generalize r'.dropWhile isWhiteSpace = u' at *
    generalize r.dropWhile isWhiteSpace = u at *
    split
    · obtain ⟨before, rfl, hbefore⟩ := hcont.exists_of_cons (by decide) rfl
      exact (hblank hbefore).head?_iff hc
    · next hne =>
      split
      · obtain ⟨after, rfl, -⟩ := hcont.of_cons
        exact absurd rfl (hne after)
      · exact hcont.head?_iff hc
  · exact h.head?_iff hc

namespace Bracket

theorem persists_readAtom (f : Flags) : Persists (readAtom f) := by
  intro t v r h
  cases t with
  | nil => cases h
  | cons c cs =>
    rw [List.cons_append]
    by_cases hc : c = '\\'
    · subst hc
      exact Atom.persists_readEscape f cs v r h
    · have hchar (cs : List Char) : readAtom f (c :: cs) = some (.char c, cs) := by
        simp [readAtom]
      rw [hchar] at h ⊢
      exact persists_some (Atom.char c) cs v r h

/-- Reads the end of a range, whose hyphen has been read. -/
def readRange (f : Flags) (first : Atom) (text : List Char) : Option (CharSet × List Char) := do
  match first, ← readAtom f (f.skip text) with
  | .char a, (.char b, rest) =>
    if a ≤ b ∧ (f.unicode ∨ b.toNat < 0x80) then return (.range a b, rest) else none
  | _, _ => none

theorem persists_readRange (f : Flags) (first : Atom) : Persists (readRange f first) := by
  intro t v r h
  obtain ⟨⟨second, t₁⟩, hsecond, h⟩ := Option.bind_eq_some_iff.1 h
  obtain ⟨t₁', hsecond', hcont⟩ := (persists_readAtom f).apply (continues_skip f t) hsecond
  unfold readRange
  rw [hsecond']
  cases first with
  | char a =>
    cases second with
    | char b =>
      exact (persists_ite (p := a ≤ b ∧ (f.unicode = true ∨ b.toNat < 0x80))
        (persists_some (CharSet.range a b)) persists_none).apply hcont h
    | set s => cases h
    | place p => cases h
  | set s => cases h
  | place p => cases h

theorem persists_readItem (f : Flags) : Persists (readItem f) := by
  intro t v r h
  unfold readItem at h ⊢
  obtain ⟨⟨first, t₁⟩, hfirst, h⟩ := Option.bind_eq_some_iff.1 h
  obtain ⟨t₁', hfirst', hcont⟩ := persists_readAtom f t first t₁ hfirst
  rw [hfirst']
  simp only [Option.bind_eq_bind, Option.bind_some] at h ⊢
  replace hcont := hcont.skip f
  generalize f.skip t₁' = u' at *
  generalize f.skip t₁ = u at *
  split at h
  · cases h
  · next rest =>
    obtain ⟨rest', rfl, hrest⟩ := hcont.of_cons
    -- the parenthesis behind is neither the bracket nor the hyphen that is looked for
    simp only [f.peek_iff hrest (show ']' ≠ ')' by decide),
      f.peek_iff hrest (show '-' ≠ ')' by decide)] at h ⊢
    split at h
    · next hhyphen =>
      rw [if_pos hhyphen]
      exact (persists_bind (itemSet? f first) persists_some).apply (hrest.cons '-') h
    · next hrange =>
      rw [if_neg hrange]
      exact (persists_readRange f first).apply hrest h
  · next hnil hne =>
    cases u with
    | nil => exact absurd rfl hnil
    | cons c rest =>
      obtain ⟨rest', rfl, hrest⟩ := hcont.of_cons
      split
      · next heq => cases heq
      · next heq =>
        cases heq
        exact absurd rfl (hne rest)
      · exact (persists_bind (itemSet? f first) persists_some).apply hcont h

/-- Whether a circumflex comes first, and what comes then. -/
theorem sign_eq (cs : List Char) : (match cs with | '^' :: cs => (true, cs) | cs => (false, cs)) =
    if cs.head? = some '^' then (true, cs.tail) else (false, cs) := by
  split
  · rfl
  · next hne =>
    refine (if_neg fun hhead => ?_).symm
    obtain ⟨rest, rfl⟩ := List.head?_eq_some_iff.1 hhead
    exact hne rest rfl

/-- A class of ASCII from its name on. -/
def namedClass? (negate : Bool) (text : List Char) : Option (CharSet × Bool × List Char) :=
  match text.dropWhile (· ≠ ':') with
  | ':' :: ']' :: rest =>
    return (← asciiClass? (String.ofList (text.takeWhile (· ≠ ':'))), negate, rest)
  | _ => none

theorem readAsciiClass_colon (cs : List Char) : readAsciiClass (':' :: cs) =
    if cs.head? = some '^' then namedClass? true cs.tail else namedClass? false cs := by
  refine (congrArg (fun p => namedClass? p.1 p.2) (sign_eq cs)).trans ?_
  split <;> rfl

theorem namedClass?_append (negate : Bool) (t : List Char) : namedClass? negate (t ++ closing) =
    (namedClass? negate t).map fun (s, negate, rest) => (s, negate, rest ++ closing) := by
  unfold namedClass?
  by_cases ht : t.dropWhile (· ≠ ':') = []
  · have hclosing : closing.dropWhile (· ≠ ':') = [] := by decide
    rw [List.dropWhile_append, if_pos (List.isEmpty_iff.2 ht), hclosing, ht]
    rfl
  · have htake : (t ++ closing).takeWhile (· ≠ ':') = t.takeWhile (· ≠ ':') := by
      rw [List.takeWhile_append, if_neg fun hlength => ht ?_]
      have hsplit :=
        congrArg List.length (List.takeWhile_append_dropWhile (p := (· ≠ ':')) (l := t))
      rw [List.length_append, hlength] at hsplit
      exact List.length_eq_zero_iff.1 (by omega)
    rw [List.dropWhile_append, if_neg (mt List.isEmpty_iff.1 ht), htake]
    generalize t.dropWhile (· ≠ ':') = u at *
    split
    · next rest heq =>
      obtain ⟨after, rfl, hafter⟩ := (continues_append _).exists_of_cons (by decide) heq
      obtain ⟨after, rfl, -⟩ := hafter.exists_of_cons (by decide) rfl
      cases heq
      cases asciiClass? (String.ofList (t.takeWhile (· ≠ ':'))) <;> rfl
    · next hne =>
      split
      · exact absurd rfl (hne _)
      · rfl

theorem readAsciiClass_append (t : List Char) : readAsciiClass (t ++ closing) =
    (readAsciiClass t).map fun (s, negate, rest) => (s, negate, rest ++ closing) := by
  cases t with
  | nil => rfl
  | cons c cs =>
    rw [List.cons_append]
    by_cases hc : c = ':'
    · subst hc
      have hhead : (cs ++ closing).head? = some '^' ↔ cs.head? = some '^' :=
        (continues_append _).head?_iff (by decide)
      rw [readAsciiClass_colon, readAsciiClass_colon]
      simp only [hhead]
      split
      · next hsign =>
        obtain ⟨cs, rfl⟩ := List.head?_eq_some_iff.1 hsign
        exact namedClass?_append true cs
      · exact namedClass?_append false cs
    · have hnone (cs : List Char) : readAsciiClass (c :: cs) = none := by
        unfold readAsciiClass
        split
        · next heq => exact absurd (List.cons.inj heq).1 hc
        · rfl
      rw [hnone, hnone, Option.map_none]

theorem readHyphens_eq (f : Flags) (t : List Char) : some (readHyphens f t) = match f.skip t with
    | [] => some ([], [])
    | c :: rest =>
      if c = '-' then some (readHyphens f rest) >>= fun p => some (⟨.only '-', 0⟩ :: p.1, p.2)
      else some ([], c :: rest) := by
  rw [readHyphens]
  split
  · next h => rw [h]
  · next c rest h =>
    rw [h]
    simp only
    split <;> rfl

/-- Hyphens are read up to another character, and the closing part begins with one. -/
theorem persists_readHyphens (f : Flags) : Persists fun t => some (readHyphens f t) := by
  intro t
  induction hn : t.length using Nat.strongRecOn generalizing t with
  | _ n ih =>
    intro v r h
    have hcont := continues_skip f t
    have hle := f.length_skip_le t
    simp only [readHyphens_eq f t, readHyphens_eq f (t ++ closing)] at h ⊢
    generalize f.skip (t ++ closing) = u' at *
    generalize f.skip t = u at *
    cases u with
    | nil =>
      cases h
      rcases hcont.of_nil with rfl | rfl
      · exact ⟨closing, rfl, Or.inl rfl⟩
      · exact ⟨[], rfl, Or.inr rfl⟩
    | cons c rest =>
      obtain ⟨rest', rfl, hrest⟩ := hcont.of_cons
      simp only at h ⊢
      by_cases hc : c = '-'
      · rw [if_pos hc] at h ⊢
        rw [List.length_cons] at hle
        have hinner := ih rest.length (by omega) rest rfl
        exact (hinner.bind fun items => persists_some (⟨.only '-', 0⟩ :: items)).apply hrest h
      · rw [if_neg hc] at h ⊢
        cases h
        exact ⟨_, rfl, hcont⟩

/-- An opening bracket from the hyphens on. -/
def openingBehind (f : Flags) (s : State) (negate : Bool) (text : List Char) :
    Option (State × List Char) :=
  if negate && !f.unicode then none
  else
    let frames := .opened s.items negate :: s.frames
    match readHyphens f text with
    | (_, []) => none
    | ([], ']' :: rest) => some (⟨[⟨.only ']', 0⟩], frames⟩, rest)
    | (items, rest) => some (⟨items, frames⟩, rest)

theorem opening_eq (f : Flags) (s : State) (t : List Char) : opening f s t =
    if (f.skip t).head? = some '^' then openingBehind f s true (f.skip t).tail
    else openingBehind f s false (f.skip t) := by
  refine (congrArg (fun p => openingBehind f s p.1 p.2) (sign_eq (f.skip t))).trans ?_
  split <;> rfl

theorem persists_openingBehind (f : Flags) (s : State) (negate : Bool) :
    Persists (openingBehind f s negate) := by
  intro t v r h
  unfold openingBehind at h ⊢
  by_cases hu : (negate && !f.unicode) = true
  · rw [if_pos hu] at h
    cases h
  rw [if_neg hu] at h ⊢
  obtain ⟨after, hafter, hcont⟩ := persists_readHyphens f t _ _ rfl
  simp only [Option.some.injEq] at hafter
  rw [hafter]
  generalize readHyphens f t = p at *
  obtain ⟨items, rest⟩ := p
  split at h
  · cases h
  · next heq =>
    cases heq
    obtain ⟨rest', rfl, hrest⟩ := hcont.of_cons
    exact (persists_some _).apply hrest h
  · next hnil hne heq =>
    cases heq
    simp only at hcont ⊢
    -- the rest is neither empty nor starts with a bracket, and so it is with the anchors behind it
    split
    · next heq =>
      cases heq
      exact (hnil (List.length_eq_zero_iff.1 (Nat.le_zero.1 hcont.length_le))).elim
    · next heq =>
      cases heq
      obtain ⟨before, rfl, -⟩ := hcont.exists_of_cons (by decide) rfl
      exact (hne before rfl rfl).elim
    · next heq =>
      cases heq
      exact (persists_some _).apply hcont h

theorem persists_opening (f : Flags) (s : State) : Persists (opening f s) := by
  intro t v r h
  have hcont := continues_skip f t
  simp only [opening_eq, hcont.head?_iff (show '^' ≠ ')' by decide)] at h ⊢
  split at h
  · next hsign =>
    rw [if_pos hsign]
    obtain ⟨cs, hcs⟩ := List.head?_eq_some_iff.1 hsign
    rw [hcs] at h hcont
    obtain ⟨cs', hcs', hcont⟩ := hcont.of_cons
    rw [hcs']
    exact (persists_openingBehind f s true).apply hcont h
  · next hsign =>
    rw [if_neg hsign]
    exact (persists_openingBehind f s false).apply hcont h

/-! ## The whole class -/

theorem persists_step (f : Flags) (s : State) : Persists (step f s) := by
  intro t v r h
  unfold step at h ⊢
  split at h
  · next rest =>
    simp only [List.cons_append, readAsciiClass_append]
    cases hclass : readAsciiClass rest with
    | none =>
      rw [hclass] at h
      exact (persists_opening f s rest).map Sum.inl v r h
    | some p =>
      obtain ⟨set, negate, after⟩ := p
      rw [hclass] at h
      exact (persists_ite (p := (negate && !f.unicode) = true) persists_none
        (persists_some (Sum.inl { s with items := ⟨Atom.negated negate set, 0⟩ :: s.items }))).apply
          (Or.inl rfl) h
  · next rest => exact persists_map s.close? id rest v r h
  · next rest => exact persists_some _ rest v r h
  · next rest => exact persists_some _ rest v r h
  · next rest => exact persists_some _ rest v r h
  · next h₁ h₂ h₃ h₄ h₅ =>
    -- no bracket and no operation comes first, whatever follows
    have hcont := continues_append t
    split
    · next heq =>
      obtain ⟨before, ht, -⟩ := hcont.exists_of_cons (by decide) heq
      exact (h₁ before ht).elim
    · next heq =>
      obtain ⟨before, ht, -⟩ := hcont.exists_of_cons (by decide) heq
      exact (h₂ before ht).elim
    · next heq =>
      obtain ⟨before, ht⟩ := hcont.exists_of_cons_cons (by decide) heq
      exact (h₃ before ht).elim
    · next heq =>
      obtain ⟨before, ht⟩ := hcont.exists_of_cons_cons (by decide) heq
      exact (h₄ before ht).elim
    · next heq =>
      obtain ⟨before, ht⟩ := hcont.exists_of_cons_cons (by decide) heq
      exact (h₅ before ht).elim
    · exact ((persists_readItem f).bind fun set =>
        persists_some (Sum.inl { s with items := ⟨set, 0⟩ :: s.items })) t v r h

/-- As many steps as are enough without the closing part are enough with it. -/
theorem persists_run (f : Flags) {n m : Nat} (hn : n ≤ m) {s : State} {v : Nested CharSet}
    (ht : Continues t t') (h : run f n s t = some (v, r)) :
    ∃ r', run f m s t' = some (v, r') ∧ Continues r r' := by
  induction n generalizing m s t t' with
  | zero => cases h
  | succ n ih =>
    obtain ⟨m, rfl⟩ := Nat.exists_eq_add_of_lt hn
    obtain ⟨⟨progress, t₁⟩, hstep, h⟩ := Option.bind_eq_some_iff.1 h
    obtain ⟨t₁', hstep', hcont⟩ := (persists_step f s).apply (ht.skip f) hstep
    rw [run, hstep']
    cases progress with
    | inl s₁ => exact ih (by omega) hcont h
    | inr whole =>
      cases h
      exact ⟨t₁', rfl, hcont⟩

theorem persists_read (f : Flags) : Persists (read f) := by
  intro t v r h
  obtain ⟨⟨s, t₁⟩, hopening, h⟩ := Option.bind_eq_some_iff.1 h
  obtain ⟨t₁', hopening', hcont⟩ := persists_opening f ⟨[], []⟩ t s t₁ hopening
  unfold read
  rw [hopening']
  exact persists_run f (Nat.succ_le_succ hcont.length_le) hcont h

end Bracket

end LinkedShapes
