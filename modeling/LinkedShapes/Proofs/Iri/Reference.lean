import LinkedShapes.Iri.Reference

/-!
# References that resolve to what they are

A reference that begins with the mark of blank nodes never resolves to itself, and only the empty
identifier is written as the empty reference. Both rest on one fact about reading identifiers:
whatever is read has a scheme, and a scheme begins with a letter.

* `Iri.resolve_ne_of_mark`: no marked label resolves to itself.
* `Iri.relativize_eq_empty`: only the empty identifier has an empty relative form.
* `Iri.normalize_eq_empty`: only the empty text is brought into the empty form.
-/

namespace LinkedShapes.Iri

open Text

/-! ## Schemes -/

/-- The text begins with a letter, as schemes do. -/
def StartsWithLetter (text : List Char) : Prop := ∃ c cs, text = c :: cs ∧ isAsciiAlpha c = true

theorem isAsciiAlpha_asciiLower {c : Char} (h : isAsciiAlpha c = true) :
    isAsciiAlpha (asciiLower c) = true := by
  unfold asciiLower
  split
  · next hc =>
    simp only [Bool.and_eq_true, decide_eq_true_eq] at hc
    have hv : (c.toNat + 32).isValidChar := Or.inl (by have : 'Z'.toNat = 90 := rfl; omega)
    have ht : (Char.ofNat (c.toNat + 32)).toNat = c.toNat + 32 := by
      rw [Char.ofNat, dif_pos hv]
      rfl
    have hA : 'A'.toNat = 65 := rfl
    have hZ : 'Z'.toNat = 90 := rfl
    have ha : 'a'.toNat = 97 := rfl
    have hz : 'z'.toNat = 122 := rfl
    simp only [isAsciiAlpha, ht, Bool.or_eq_true, Bool.and_eq_true, decide_eq_true_eq]
    omega
  · exact h

theorem scheme?_startsWithLetter {text scheme rest : List Char}
    (h : scheme? text = some (scheme, rest)) : StartsWithLetter scheme := by
  unfold scheme? at h
  generalize text.span isSchemeChar = parts at h
  obtain ⟨name, tail⟩ := parts
  simp only at h
  split at h
  · split at h
    · next hc =>
      cases h
      exact ⟨_, _, rfl, isAsciiAlpha_asciiLower hc⟩
    · cases h
  · cases h

theorem withAuthority?_scheme {scheme text : List Char} {i : Iri}
    (h : withAuthority? scheme text = some i) : i.scheme = scheme := by
  unfold withAuthority? at h
  cases ha : authority? scheme text with
  | none =>
    rw [ha] at h
    cases h
  | some found =>
    rw [ha] at h
    cases h
    rfl

theorem fileWithHost?_scheme {scheme text : List Char} {i : Iri}
    (h : fileWithHost? scheme text = some i) : i.scheme = scheme := by
  unfold fileWithHost? at h
  generalize text.span _ = parts at h
  obtain ⟨name, rest⟩ := parts
  simp only at h
  split at h
  · cases h
    rfl
  · split at h
    · rw [Option.bind_eq_bind, Option.bind_some] at h
      split at h <;> cases h <;> rfl
    · obtain ⟨host, -, h⟩ := Option.bind_eq_some_iff.1 h
      split at h <;> cases h <;> rfl

theorem file?_scheme {scheme text : List Char} {base? : Option Iri} {i : Iri}
    (hb : ∀ base, base? = some base → base.scheme = scheme)
    (h : file? scheme base? text = some i) : i.scheme = scheme := by
  unfold file? at h
  split at h
  · split at h
    · split at h
      · exact fileWithHost?_scheme h
      · split at h <;> cases h <;> rfl
    · split at h
      · next base =>
        have hbase := hb base rfl
        split at h
        · cases h
          exact hbase
        · split at h
          · cases h
            exact hbase
          · split at h <;> cases h <;> rfl
      · cases h
        rfl
  · next base =>
    cases h
    exact hb base rfl
  · cases h
    rfl

theorem afterScheme?_scheme {scheme text : List Char} {i : Iri}
    (h : afterScheme? scheme text = some i) : i.scheme = scheme := by
  unfold afterScheme? at h
  split at h
  · exact file?_scheme (fun _ hb => by cases hb) h
  · exact withAuthority?_scheme h
  · split at h
    · exact withAuthority?_scheme h
    · cases h
      rfl
    · cases h
      rfl

theorem relative?_scheme {base i : Iri} {text : List Char} (h : relative? base text = some i) :
    i.scheme = base.scheme := by
  unfold relative? at h
  split at h
  · cases h
    rfl
  · cases h
    rfl
  · cases h
    rfl
  · split at h
    · split at h
      · exact withAuthority?_scheme h
      · split at h
        · exact withAuthority?_scheme h
        · cases h
          rfl
    · cases h
      rfl

/-- Whatever is read as an identifier has a scheme. -/
theorem parse?_scheme {text : String} {i : Iri} (h : parse? text = some i) :
    StartsWithLetter i.scheme := by
  unfold parse? at h
  rw [Option.bind_eq_bind, Option.bind_eq_some_iff] at h
  obtain ⟨⟨scheme, rest⟩, hs, h⟩ := h
  rw [afterScheme?_scheme h]
  exact scheme?_startsWithLetter hs

/-- What is read against an identifier has its scheme, or brings one. -/
theorem scheme_of_join? {base i : Iri} {reference : String} (h : join? base reference = some i) :
    i.scheme = base.scheme ∨ ∃ rest, scheme? (clean reference) = some (i.scheme, rest) := by
  unfold join? at h
  simp only at h
  split at h
  · next scheme rest hs =>
    split at h
    · next he =>
      rw [file?_scheme (fun b hb => by cases hb; exact he.1.symm) h]
      exact Or.inr ⟨rest, hs⟩
    · split at h
      · exact Or.inl (relative?_scheme h)
      · rw [afterScheme?_scheme h]
        exact Or.inr ⟨rest, hs⟩
  · split at h
    · cases h
      exact Or.inl rfl
    · split at h
      · cases h
      · split at h
        · exact Or.inl (file?_scheme (fun b hb => by cases hb; rfl) h)
        · exact Or.inl (relative?_scheme h)

/-- Whatever is read against an identifier has a scheme. -/
theorem join?_scheme {base i : Iri} {reference : String} (hb : StartsWithLetter base.scheme)
    (h : join? base reference = some i) : StartsWithLetter i.scheme := by
  rcases scheme_of_join? h with heq | ⟨rest, hs⟩
  · exact heq ▸ hb
  · exact scheme?_startsWithLetter hs

theorem text_startsWithLetter {i : Iri} (h : StartsWithLetter i.scheme) :
    StartsWithLetter i.text.toList := by
  obtain ⟨c, cs, hs, hc⟩ := h
  refine ⟨c, cs ++ ':' :: i.hierarchy ++ marked '?' i.query ++ marked '#' i.fragment, ?_, hc⟩
  rw [text, String.toList_ofList, chars, hs]
  simp

/-! ## Normalization and resolution -/

/-- Only the empty text is brought into the empty form. -/
theorem normalize_eq_empty {text : String} (h : normalize text = "") : text = "" := by
  unfold normalize at h
  split at h
  · next i hp =>
    obtain ⟨c, cs, ht, -⟩ := text_startsWithLetter (parse?_scheme hp)
    rw [h] at ht
    cases ht
  · exact h

/-- Appending to a base never gives the reference back, marked labels at least. -/
theorem append_ne_of_mark {base reference : String} {cs : List Char}
    (h : reference.toList = '_' :: cs) : append base reference ≠ reference := by
  intro he
  -- nothing but an empty base can be written in front of a text without a change
  have hbase : base ++ reference = reference → base.toList = [] := by
    intro heq
    have hlen := congrArg String.length heq
    rw [String.length_append] at hlen
    exact List.length_eq_zero_iff.1 (by rw [String.length_toList]; omega)
  unfold append at he
  rw [h] at he
  split at he
  · next hmark =>
    cases hmark
  split at he
  · next hl =>
    rw [hbase he] at hl
    cases hl
  · next hl =>
    rw [hbase he] at hl
    cases hl
  · have hlen := congrArg String.length he
    rw [String.length_append, String.length_append] at hlen
    have hone : "/".length = 1 := rfl
    omega

/-- No text with the mark of blank nodes resolves to itself. -/
theorem resolve_ne_of_mark {base reference : String} {cs : List Char}
    (h : reference.toList = '_' :: cs) : resolve base reference ≠ reference := by
  have hne : reference ≠ "" := by
    rintro rfl
    cases h
  have habs : isAbsolute reference = false := by
    unfold isAbsolute scheme?
    rw [h]
    rfl
  unfold resolve
  rw [if_neg hne, habs, if_neg (by decide)]
  split
  · next i hj =>
    obtain ⟨b, hp, hj⟩ := Option.bind_eq_some_iff.1 hj
    obtain ⟨c, ds, ht, hc⟩ := text_startsWithLetter (join?_scheme (parse?_scheme hp) hj)
    intro he
    rw [he, h] at ht
    cases ht
    exact absurd hc (by decide)
  · exact append_ne_of_mark h

/-! ## Relative forms -/

/-- A relative form is the identifier itself, or begins with the slash that ends the root. -/
theorem relativize_cases (root text : String) :
    relativize root text = text ∨ ∃ cs, (relativize root text).toList = '/' :: cs := by
  unfold relativize
  split
  · next h =>
    obtain ⟨hroot, hlast⟩ := h
    right
    obtain ⟨rest, hrest⟩ := List.isPrefixOf_iff_prefix.1 hroot
    obtain ⟨init, hinit⟩ := List.getLast?_eq_some_iff.1 hlast
    refine ⟨rest, ?_⟩
    rw [String.toList_ofList, ← hrest, hinit]
    simp
  · exact Or.inl rfl

/-- Only the empty identifier has an empty relative form. -/
theorem relativize_eq_empty {root text : String} (h : relativize root text = "") : text = "" := by
  rcases relativize_cases root text with he | ⟨cs, hcs⟩
  · rw [← he, h]
  · rw [h] at hcs
    cases hcs

/-- A relative form with the mark of blank nodes is the identifier itself. -/
theorem relativize_of_mark {root text : String} {cs : List Char}
    (h : (relativize root text).toList = '_' :: cs) : relativize root text = text := by
  rcases relativize_cases root text with he | ⟨ds, hds⟩
  · exact he
  · rw [h] at hds
    cases hds

end LinkedShapes.Iri
