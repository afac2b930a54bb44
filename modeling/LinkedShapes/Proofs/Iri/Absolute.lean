import LinkedShapes.Proofs.Iri.Parts

/-!
# What is resolved is absolute

Whatever is read as an identifier has a scheme, and so has whatever is read against one. Where
nothing can be read, the text is kept or appended to its base, and neither touches the scheme that
is there already.

* `isAbsolute_iff`: an absolute text has a scheme before its first colon.
* `isAbsolute_normalize`: the one form of an absolute text is absolute.
* `isAbsolute_resolve`: every reference resolves to an absolute identifier against an absolute
  base.
-/

namespace LinkedShapes.Iri

open Text

variable {base text reference : String} {name rest x : List Char} {i b : Iri}

/-! ## Texts with a scheme -/

/-- A scheme, in upper or lower case. -/
def IsSchemeName (name : List Char) : Prop :=
  StartsWithLetter name ∧ ∀ c ∈ name, isSchemeChar c = true

theorem IsScheme.isSchemeName (h : IsScheme name) : IsSchemeName name :=
  ⟨h.1, fun c hc => (h.2 c hc).1⟩

theorem scheme?_isSome_append (h : IsSchemeName name) :
    (scheme? (name ++ ':' :: x)).isSome = true := by
  obtain ⟨⟨first, chars, rfl, hfirst⟩, hpass⟩ := h
  have hcolon : ¬ isSchemeChar ':' = true := by decide
  unfold scheme?
  rw [List.span_eq_takeWhile_dropWhile, List.takeWhile_append_of_pos hpass,
    List.dropWhile_append_of_pos hpass, List.takeWhile_cons_of_neg hcolon,
    List.dropWhile_cons_of_neg hcolon, List.append_nil]
  simp only [hfirst, if_true, Option.isSome_some]

/-- An absolute text has a scheme before its first colon. -/
theorem isAbsolute_iff : isAbsolute text = true ↔
    ∃ name rest, IsSchemeName name ∧ text.toList = name ++ ':' :: rest := by
  constructor
  · intro h
    unfold isAbsolute scheme? at h
    rw [List.span_eq_takeWhile_dropWhile] at h
    simp only at h
    split at h
    · next first chars rest htake hdrop =>
      split at h
      · next hfirst =>
        refine ⟨first :: chars, rest, ⟨⟨first, chars, rfl, hfirst⟩, fun c hc => ?_⟩, ?_⟩
        · rw [← htake] at hc
          exact List.mem_takeWhile_imp hc
        · rw [← htake, ← hdrop, List.takeWhile_append_dropWhile]
      · cases h
    · cases h
  · rintro ⟨name, rest, hname, htext⟩
    rw [isAbsolute, htext]
    exact scheme?_isSome_append hname

theorem isAbsolute_text (h : IsScheme i.scheme) : isAbsolute i.text = true := by
  refine isAbsolute_iff.2
    ⟨i.scheme, i.hierarchy ++ marked '?' i.query ++ marked '#' i.fragment, h.isSchemeName, ?_⟩
  rw [Iri.text, String.toList_ofList, chars]
  simp

/-! ## Identifiers that are read -/

theorem isScheme_of_parse? (h : parse? text = some i) : IsScheme i.scheme :=
  (legible_of_parse? h).scheme

theorem isScheme_of_join? (hb : IsScheme b.scheme) (h : join? b reference = some i) :
    IsScheme i.scheme := by
  rcases scheme_of_join? h with heq | ⟨rest, hs⟩
  · exact heq ▸ hb
  · exact isScheme_of_scheme? hs

/-! ## References -/

/-- The one form of an absolute text is absolute. -/
theorem isAbsolute_normalize (h : isAbsolute text = true) : isAbsolute (normalize text) = true := by
  unfold normalize
  split
  · next i hp => exact isAbsolute_text (isScheme_of_parse? hp)
  · exact h

/-- What is appended to an absolute text leaves its scheme alone. -/
theorem isAbsolute_append (h : isAbsolute base = true) :
    isAbsolute (append base reference) = true := by
  obtain ⟨name, rest, hname, hbase⟩ := isAbsolute_iff.1 h
  have hbehind : ∀ more : String, isAbsolute (base ++ more) = true := fun more =>
    isAbsolute_iff.2 ⟨name, rest ++ more.toList, hname, by simp [hbase]⟩
  unfold append
  split
  · -- the number signs at the end stand behind the colon of the scheme
    refine isAbsolute_iff.2 ⟨name,
      (rest.reverse.dropWhile (· == '#')).reverse ++ reference.toList, hname, ?_⟩
    have hcolon : (':' :: name.reverse).dropWhile (· == '#') = ':' :: name.reverse := rfl
    rw [String.toList_append, String.toList_ofList, hbase, List.reverse_append,
      List.reverse_cons, List.append_assoc, List.singleton_append, List.dropWhile_append, hcolon]
    split
    · next hempty => simp [List.isEmpty_iff.1 hempty]
    · simp
  · split
    · exact hbehind reference
    · exact hbehind reference
    · rw [String.append_assoc]
      exact hbehind _

/-- Against an absolute base, every reference resolves to an absolute identifier. -/
theorem isAbsolute_resolve (h : isAbsolute base = true) :
    isAbsolute (resolve base reference) = true := by
  unfold resolve
  split
  · exact isAbsolute_normalize h
  · split
    · next hr => exact isAbsolute_normalize hr
    · split
      · next i hj =>
        obtain ⟨b, hp, hj⟩ := Option.bind_eq_some_iff.1 hj
        exact isAbsolute_text (isScheme_of_join? (isScheme_of_parse? hp) hj)
      · exact isAbsolute_append h

end LinkedShapes.Iri
