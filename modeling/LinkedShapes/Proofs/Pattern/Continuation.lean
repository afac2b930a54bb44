import Mathlib.Data.List.TakeWhile
import LinkedShapes.Pattern.Parser

/-!
# Reading on into the anchors

Whatever is read of an expression is read in the same way when the closing part of the anchors
follows. A reader that succeeds has seen all that it looks for, and the parenthesis that comes next
neither belongs to anything that is open nor is skipped. It can only be lost in a comment, together
with all that is left of the text.

* `Continues`: a rest of the text, with the anchors behind it or without them if they are lost.
* `Persists`: readers that succeed go on to succeed.
* `persists_readEscape`, `persists_read`: escapes and bracketed classes.
-/

namespace LinkedShapes

open Text

variable {α β : Type} {t t' r r' : List Char} {c : Char} {f : Flags}

/-- The closing part of the anchors. -/
def closing : List Char := [')', '$']

/-- The same rest of a text, with the closing part of the anchors behind it, or without it where it
is lost. -/
def Continues (r r' : List Char) : Prop := r' = r ++ closing ∨ r' = r

theorem continues_append (t : List Char) : Continues t (t ++ closing) := Or.inl rfl

theorem Continues.cons (h : Continues r r') (c : Char) : Continues (c :: r) (c :: r') :=
  h.imp (fun h => by rw [h, List.cons_append]) fun h => by rw [h]

theorem Continues.of_cons (h : Continues (c :: r) r') :
    ∃ rest, r' = c :: rest ∧ Continues r rest := by
  rcases h with rfl | rfl
  · exact ⟨r ++ closing, rfl, Or.inl rfl⟩
  · exact ⟨r, rfl, Or.inr rfl⟩

/-- Nothing is left, or the closing part. -/
theorem Continues.of_nil (h : Continues [] r') : r' = closing ∨ r' = [] := h

theorem Continues.length_le (h : Continues r r') : r.length ≤ r'.length := by
  rcases h with rfl | rfl
  · rw [List.length_append]
    omega
  · exact Nat.le_refl _

/-- Another character begins the text only if it has begun it before. -/
theorem Continues.exists_of_cons (h : Continues r r') {rest : List Char} (hc : c ≠ ')')
    (heq : r' = c :: rest) : ∃ before, r = c :: before ∧ Continues before rest := by
  cases r with
  | nil =>
    rcases h.of_nil with rfl | rfl
    · cases heq
      exact absurd rfl hc
    · cases heq
  | cons d r =>
    obtain ⟨rest', rfl, hcont⟩ := h.of_cons
    cases heq
    exact ⟨r, rfl, hcont⟩

theorem Continues.exists_of_cons_cons (h : Continues r r') {rest : List Char} (hc : c ≠ ')')
    (heq : r' = c :: c :: rest) : ∃ before, r = c :: c :: before := by
  obtain ⟨before, hr, hcont⟩ := h.exists_of_cons hc heq
  obtain ⟨before, rfl, -⟩ := hcont.exists_of_cons hc rfl
  exact ⟨before, hr⟩

/-! ## Skipping -/

theorem continues_skipBlank (comment : Bool) (t : List Char) :
    Continues (Flags.skipBlank comment t) (Flags.skipBlank comment (t ++ closing)) := by
  induction t generalizing comment with
  | nil =>
    cases comment with
    | false => exact Or.inl (by decide)
    | true => exact Or.inr (by decide)
  | cons c t ih =>
    rw [List.cons_append, Flags.skipBlank, Flags.skipBlank]
    split
    · exact ih _
    · split
      · exact ih _
      · split
        · exact ih _
        · exact Or.inl rfl

theorem continues_skip (f : Flags) (t : List Char) :
    Continues (f.skip t) (f.skip (t ++ closing)) := by
  unfold Flags.skip
  split
  · exact continues_skipBlank false t
  · exact Or.inl rfl

theorem Continues.skip (h : Continues t t') (f : Flags) : Continues (f.skip t) (f.skip t') := by
  rcases h with rfl | rfl
  · exact continues_skip f t
  · exact Or.inr rfl

theorem Continues.dropWhile (h : Continues t t') {p : Char → Bool} (hp : p ')' = false) :
    Continues (t.dropWhile p) (t'.dropWhile p) := by
  have hclosing : closing.dropWhile p = closing :=
    List.dropWhile_cons_of_neg (Bool.eq_false_iff.1 hp)
  rcases h with rfl | rfl
  · rw [List.dropWhile_append, hclosing]
    split
    · next hempty => exact Or.inl (by rw [List.isEmpty_iff.1 hempty, List.nil_append])
    · exact Or.inl rfl
  · exact Or.inr rfl

/-! ## Readers -/

/-- What a reader makes of a text, it makes of the text with the closing part behind it. -/
def PersistsAt (read : List Char → Option (α × List Char)) (t : List Char) : Prop :=
  ∀ v r, read t = some (v, r) → ∃ r', read (t ++ closing) = some (v, r') ∧ Continues r r'

/-- A reader goes on to read all that it reads when the closing part follows. -/
def Persists (read : List Char → Option (α × List Char)) : Prop := ∀ t, PersistsAt read t

section Readers

variable {read : List Char → Option (α × List Char)} {next : α → List Char → Option (β × List Char)}

theorem PersistsAt.apply (h : PersistsAt read t) (ht : Continues t t') {v : α}
    (hr : read t = some (v, r)) : ∃ r', read t' = some (v, r') ∧ Continues r r' := by
  rcases ht with rfl | rfl
  · exact h _ _ hr
  · exact ⟨r, hr, Or.inr rfl⟩

theorem PersistsAt.bind (h : PersistsAt read t) (hnext : ∀ v, Persists (next v)) :
    PersistsAt (fun t => read t >>= fun p => next p.1 p.2) t := by
  intro w r hr
  obtain ⟨⟨v, r₁⟩, hv, hr⟩ := Option.bind_eq_some_iff.1 hr
  obtain ⟨r₁', hv', hcont⟩ := h v r₁ hv
  obtain ⟨r', hr', hcont⟩ := (hnext v r₁).apply hcont hr
  exact ⟨r', Option.bind_eq_some_iff.2 ⟨_, hv', hr'⟩, hcont⟩

theorem PersistsAt.map (h : PersistsAt read t) (g : α → β) :
    PersistsAt (fun t => (read t).map fun p => (g p.1, p.2)) t := by
  intro w r hr
  obtain ⟨⟨v, r⟩, hv, hw⟩ := Option.map_eq_some_iff.1 hr
  obtain ⟨r', hv', hcont⟩ := h v r hv
  cases hw
  exact ⟨r', Option.map_eq_some_iff.2 ⟨_, hv', rfl⟩, hcont⟩

theorem Persists.apply (h : Persists read) (ht : Continues t t') {v : α}
    (hr : read t = some (v, r)) : ∃ r', read t' = some (v, r') ∧ Continues r r' :=
  (h t).apply ht hr

theorem Persists.bind (h : Persists read) (hnext : ∀ v, Persists (next v)) :
    Persists fun t => read t >>= fun p => next p.1 p.2 :=
  fun t => (h t).bind hnext

theorem persists_some (v : α) : Persists fun t => some (v, t) := by
  rintro t v r h
  cases h
  exact ⟨t ++ closing, rfl, Or.inl rfl⟩

theorem persists_none : Persists fun _ => (none : Option (α × List Char)) := by
  intro t v r h
  cases h

/-- What is read may depend on something that is made of what has been read. -/
theorem persists_bind (o : Option β) {read : β → List Char → Option (α × List Char)}
    (h : ∀ v, Persists (read v)) : Persists fun t => o >>= fun v => read v t := by
  intro t w r hr
  obtain ⟨v, rfl, hr⟩ := Option.bind_eq_some_iff.1 hr
  exact h v t w r hr

theorem persists_map (o : Option β) (g : β → α) : Persists fun t => o.map fun v => (g v, t) := by
  cases o with
  | none => exact persists_none
  | some v => exact persists_some (g v)

theorem persists_ite {p : Prop} [Decidable p] {other : List Char → Option (α × List Char)}
    (h : Persists read) (h' : Persists other) :
    Persists fun t => if p then read t else other t := by
  by_cases hp : p
  · simpa only [if_pos hp] using h
  · simpa only [if_neg hp] using h'

end Readers

/-! ## Escapes -/

namespace Atom

theorem readBraced_eq (f : Flags) (t : List Char) : readBraced f t = match f.skip t with
    | [] => none
    | c :: rest =>
      if c = '}' then some ([], rest)
      else readBraced f rest >>= fun p => some (c :: p.1, p.2) := by
  rw [readBraced]
  split
  · next h => rw [h]
  · next c rest h =>
    rw [h]
    rfl

theorem persists_readBraced (f : Flags) : Persists (readBraced f) := by
  intro t
  -- by the length of what is left: what does not count is skipped before each character
  induction hn : t.length using Nat.strongRecOn generalizing t with
  | _ n ih =>
    intro v r h
    have hcont := continues_skip f t
    have hle := f.length_skip_le t
    rw [readBraced_eq] at h ⊢
    generalize f.skip (t ++ closing) = u' at *
    generalize f.skip t = u at *
    cases u with
    | nil => cases h
    | cons c rest =>
      obtain ⟨rest', rfl, hrest⟩ := hcont.of_cons
      simp only at h ⊢
      split at h
      · next hc =>
        cases h
        exact ⟨rest', if_pos hc, hrest⟩
      · next hc =>
        rw [if_neg hc]
        rw [List.length_cons] at hle
        have hinner := ih rest.length (by omega) rest rfl
        exact (hinner.bind fun inner => persists_some (c :: inner)).apply hrest h

theorem persists_readCount (f : Flags) (n : Nat) : Persists (readCount f n) := by
  induction n with
  | zero => exact persists_some []
  | succ n ih =>
    intro t v r h
    have hcont := continues_skip f t
    unfold readCount at h ⊢
    generalize f.skip (t ++ closing) = u' at *
    generalize f.skip t = u at *
    cases u with
    | nil => cases h
    | cons c rest =>
      obtain ⟨rest', rfl, hrest⟩ := hcont.of_cons
      exact (ih.bind fun inner => persists_some (c :: inner)).apply hrest h

theorem persists_readNumbered (f : Flags) (length : Nat) : Persists (readNumbered f length) := by
  intro t v r h
  have hcont := continues_skip f t
  unfold readNumbered at h ⊢
  generalize f.skip (t ++ closing) = u' at *
  generalize f.skip t = u at *
  split at h
  · obtain ⟨rest', rfl, hrest⟩ := hcont.of_cons
    exact ((persists_readBraced f).bind fun digits =>
      persists_bind (ofHex? digits) fun c => persists_some (char c)).apply hrest h
  · next hne =>
    split
    · obtain ⟨before, hu, -⟩ := hcont.exists_of_cons (by decide) rfl
      exact absurd hu (hne before)
    · exact ((persists_readCount f length).bind fun digits =>
        persists_bind (ofHex? digits) fun c =>
          persists_ite (p := (length = 2 && !f.unicode && 0x80 ≤ c.toNat) = true) persists_none
            (persists_some (char c))).apply hcont h

theorem persists_readProperty (f : Flags) (negate : Bool) : Persists (readProperty f negate) := by
  intro t v r h
  have hcont := continues_skip f t
  unfold readProperty at h ⊢
  generalize f.skip (t ++ closing) = u' at *
  generalize f.skip t = u at *
  split at h
  · obtain ⟨rest', rfl, hrest⟩ := hcont.of_cons
    exact ((persists_readBraced f).bind fun name =>
      persists_bind (propertySet? name) fun s => persists_some (set (negated negate s))).apply
        hrest h
  · next c rest hne =>
    obtain ⟨rest', rfl, hrest⟩ := hcont.of_cons
    split
    · next heq =>
      cases heq
      exact absurd rfl hne
    · next heq =>
      cases heq
      exact (persists_ite (p := c = '\\') persists_none
        (persists_bind (CharSet.ofPropertyName? [c]) fun s =>
          persists_some (set (negated negate s)))).apply hrest h
    · next heq => cases heq
  · cases h

theorem persists_readWordPlace (f : Flags) : Persists (readWordPlace f) := by
  intro t v r h
  unfold readWordPlace at h ⊢
  split at h
  · next rest =>
    have hcont := continues_skip f rest
    simp only [List.cons_append]
    generalize f.skip (rest ++ closing) = u' at *
    generalize f.skip rest = u at *
    cases u with
    | nil => cases h
    | cons c after =>
      obtain ⟨after', rfl, hafter⟩ := hcont.of_cons
      simp only at h ⊢
      split at h
      · next hc =>
        rw [if_pos hc]
        exact ((persists_readBraced f).bind fun name => persists_bind (wordPlace? name) fun w =>
          persists_some (place (.word w (wordSet f)))).apply (hafter.cons c) h
      · next hc =>
        rw [if_neg hc]
        cases h
        exact ⟨_, rfl, Or.inl rfl⟩
  · next hne =>
    cases h
    split
    · next rest heq =>
      obtain ⟨before, hu, -⟩ := (continues_append _).exists_of_cons (by decide) heq
      exact absurd hu (hne before)
    · exact ⟨_, rfl, Or.inl rfl⟩

theorem persists_readEscape (f : Flags) : Persists (readEscape f) := by
  intro t v r h
  cases t with
  | nil => cases h
  | cons c cs =>
    rw [List.cons_append]
    simp only [readEscape] at h ⊢
    by_cases hc : isEscapable c = true
    · rw [if_pos hc] at h ⊢
      exact persists_some (char c) cs v r h
    · rw [if_neg hc] at h ⊢
      split at h
      · exact persists_readNumbered f 2 cs v r h
      · exact persists_readNumbered f 4 cs v r h
      · exact persists_readNumbered f 8 cs v r h
      · exact persists_ite (persists_readProperty f false) persists_none cs v r h
      · exact persists_ite (persists_readProperty f true) persists_none cs v r h
      · exact persists_map _ _ cs v r h
      · exact persists_map _ _ cs v r h
      · exact persists_map _ _ cs v r h
      · exact persists_ite (persists_map _ _) persists_none cs v r h
      · exact persists_ite (persists_map _ _) persists_none cs v r h
      · exact persists_ite (persists_map _ _) persists_none cs v r h
      all_goals first
        | exact persists_some _ cs v r h
        | exact persists_readWordPlace f cs v r h
        | cases h

end Atom
end LinkedShapes
