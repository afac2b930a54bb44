import LinkedShapes.Proofs.Description.Reading
import LinkedShapes.Proofs.Description.Visits
import LinkedShapes.Proofs.Iri.Reference

/-!
# Values that read as themselves

A value is written in a form that depends on the shape of its field, and the same shape tells how
the form is read. `Legible` and `LegibleTexts` collect what keeps the two in step: each condition
stands with the form that needs it, so that nothing is asked of values that are written in another
one.

* `literalForm`: the forms in which literals are written.
* `Legible.resource`: the identifier of a legible resource reads as the resource.
* `Legible.textTerm`: so does a plain text, where a resource is written as one.
-/

namespace LinkedShapes.Description

open Vocabulary

variable {s : Setting} {src : Source} {shape : Shape} {L : Labels} {l : Literal} {x : Visit}

/-! ## Forms of literals -/

/-- The forms in which a literal is written under a shape. -/
inductive LiteralForm (src : Source) (shape : Shape) (l : Literal) : Json → Prop
  /-- With its language. -/
  | tagged {tag : String} : l.language = some tag → LiteralForm src shape l (src.taggedObject l tag)
  /-- A string as a plain text. -/
  | plain : l.language = none → l.datatype = Xsd.string →
      LiteralForm src shape l (.string l.lexical)
  | boolean {b : Bool} : l.language = none → l.datatype = Xsd.boolean →
      Term.boolean? l.lexical = some b → LiteralForm src shape l (.bool b)
  | number {n : Json.Number} : l.language = none →
      l.datatype = Xsd.integer ∨ l.datatype = Xsd.decimal →
      readsAsNumber shape.datatype? l = true → exactNumber? l.lexical = some n →
      LiteralForm src shape l (.number n)
  /-- As a plain text, where the shape declares its datatype. -/
  | declared : l.language = none → shape.datatype? = some l.datatype →
      LiteralForm src shape l (.string l.lexical)
  /-- With its datatype. -/
  | typed : l.language = none → LiteralForm src shape l (src.typedObject l)

theorem literalForm (src : Source) (shape : Shape) (l : Literal) :
    LiteralForm src shape l (src.literal shape l) := by
  unfold Source.literal
  cases hlang : l.language with
  | some tag => exact .tagged hlang
  | none =>
    -- the forms in the order in which they are tried
    simp only
    split
    · next hstring => exact .plain hlang hstring
    · split
      · next hboolean =>
        cases hb : Term.boolean? l.lexical with
        | none => exact .typed hlang
        | some b => exact .boolean hlang hboolean hb
      · split
        · next hnumber =>
          cases hn : exactNumber? l.lexical with
          | none => exact .typed hlang
          | some n => exact .number hlang hnumber.1 hnumber.2 hn
        · split
          · next hdeclared => exact .declared hlang hdeclared.1
          · exact .typed hlang

/-! ## Legible values -/

/-- A literal that reads as itself where it is written under a shape. -/
structure LegibleLiteral (s : Setting) (src : Source) (shape : Shape) (l : Literal) : Prop where
  /-- Tagged literals, and no others, have a language. -/
  tagged_iff : l.language.isSome = true ↔ l.datatype = Rdf.langString
  /-- A plain string stands under a shape that makes nothing else of texts. -/
  plain : l.datatype = Xsd.string → (shape.datatype? = none → shape.isTagged = false) ∧
    ∀ d, shape.datatype? = some d → (Term.literal l).isOf d = true
  /-- A boolean has its short spelling. -/
  boolean : l.datatype = Xsd.boolean → ∀ b, Term.boolean? l.lexical = some b →
    l.lexical = if b then "true" else "false"
  /-- Where no datatype of numbers is declared, an integer that is spelled like a number is spelled
  like an integer. -/
  integer : l.datatype = Xsd.integer → shape.datatype?.filter isNumeric = none →
    ∀ n, exactNumber? l.lexical = some n → n.isInteger = true
  /-- A datatype that the shape pins down is one that literals carry. -/
  concrete : shape.datatype? = some l.datatype → isConcrete l.datatype = true
  /-- Where the datatype is written, it is written as it is, and no field takes the name that it is
  written under. -/
  typed : l.language = none → src.literal shape l = src.typedObject l →
    Iri.resolve s.focus l.datatype = l.datatype ∧
      ∀ a, Aliases.ofShape shape s.keywords = .ok a →
        a.get? (s.keywords.nameOf Keyword.type) = none

/-- A value that reads as itself as it is written at a visit. -/
def Legible (s : Setting) (src : Source) (x : Visit) : Prop :=
  match x.value with
  | .iri i => Iri.resolve s.focus (src.idText (.iri i)) = i ∧
      (x.isText = true → x.field.shape.datatype? ≠ some Abstract.bnode)
  | .blankNode label =>
      (x.isLabelled = true → label ≠ "" ∧ hasMark label = false ∧
        (x.isText = true → x.field.shape.datatype? ≠ some Abstract.iri)) ∧
      (x.isLabelled = false → x.field.shape.isTagged = false)
  | .literal l => LegibleLiteral s src x.field.shape l

/-- The values of a field are tagged texts, which are written together. -/
def AreTagged (shape : Shape) (vs : List Term) : Prop :=
  shape.isTagged = true ∧ ∀ v ∈ vs, v.language.isSome = true

/-- The texts have no language but the only one that a shape admits. -/
def Pinned (shape : Shape) (vs : List Term) : Prop :=
  ∃ tag, shape.lang? = some tag ∧ ∀ v ∈ vs, v.language = some tag

/-- Tagged texts that read as themselves where they are written together: as plain texts under the
only language that is admitted, or by language, and then no language is taken for a keyword. -/
structure LegibleTexts (s : Setting) (shape : Shape) (vs : List Term) : Prop where
  plain : Pinned shape vs → shape.datatype? = none ∨ shape.datatype? = some Rdf.langString
  byLanguage : ¬ Pinned shape vs → ∀ a, Aliases.ofShape shape s.keywords = .ok a →
    ∀ v ∈ vs, ∀ tag, v.language = some tag → objectKeyword? s a tag = none

/-! ## Labels -/

theorem hasMark_iff {text : String} :
    hasMark text = true ↔ ∃ cs, text.toList = '_' :: ':' :: cs := by
  unfold hasMark
  rw [List.isPrefixOf_iff_prefix]
  constructor
  · rintro ⟨cs, h⟩
    exact ⟨cs, h.symm⟩
  · rintro ⟨cs, h⟩
    exact ⟨cs, h.symm⟩

theorem stripMark_blankText (label : String) : Term.stripMark (Term.blankText label) = label := by
  unfold Term.stripMark Term.blankText
  rw [String.toList_append]
  exact String.ofList_toList

theorem stripMark_of_not_hasMark {label : String} (h : hasMark label = false) :
    Term.stripMark label = label := by
  unfold Term.stripMark
  split
  · next cs hl =>
    rw [hasMark_iff.2 ⟨cs, hl⟩] at h
    cases h
  · rfl

theorem hasMark_blankText (label : String) : hasMark (Term.blankText label) = true := by
  refine hasMark_iff.2 ⟨label.toList, ?_⟩
  unfold Term.blankText
  rw [String.toList_append]
  rfl

/-! ## Resources -/

theorem blankOf_blankText {label : String} (hl : label ≠ "") (hm : hasMark label = false) :
    blankOf (Term.blankText label) L = .ok (.blankNode label, L) := by
  unfold blankOf
  rw [stripMark_blankText, if_neg hl, Term.blank, stripMark_of_not_hasMark hm]
  rfl

theorem idText_iri_cases (src : Source) (i : String) :
    src.idText (.iri i) = i ∨ ∃ root, src.idText (.iri i) = Iri.relativize root i := by
  cases hr : src.root with
  | none => exact Or.inl (by simp [Source.idText, hr])
  | some root => exact Or.inr ⟨root, by simp [Source.idText, hr]⟩

/-- An identifier that resolves to itself is neither empty nor marked. -/
theorem idText_of_resolve {i : String} (hf : s.focus ≠ "")
    (h : Iri.resolve s.focus (src.idText (.iri i)) = i) :
    src.idText (.iri i) ≠ "" ∧ hasMark (src.idText (.iri i)) = false := by
  constructor
  · intro he
    have hi : i = "" := by
      rcases idText_iri_cases src i with hid | ⟨root, hid⟩
      · rw [← hid, he]
      · exact Iri.relativize_eq_empty (hid ▸ he)
    rw [he, Iri.resolve, if_pos rfl, hi] at h
    exact hf (Iri.normalize_eq_empty h)
  · rw [Bool.eq_false_iff]
    intro hm
    obtain ⟨cs, hcs⟩ := hasMark_iff.1 hm
    have hi : src.idText (.iri i) = i := by
      rcases idText_iri_cases src i with hid | ⟨root, hid⟩
      · exact hid
      · rw [hid] at hcs ⊢
        exact Iri.relativize_of_mark hcs
    rw [hi] at h hcs
    exact Iri.resolve_ne_of_mark hcs h

namespace Legible

theorem of_iri {i : String} (h : Legible s src x) (hx : x.value = .iri i) :
    Iri.resolve s.focus (src.idText (.iri i)) = i ∧
      (x.isText = true → x.field.shape.datatype? ≠ some Abstract.bnode) := by
  unfold Legible at h
  rw [hx] at h
  exact h

theorem of_blank {label : String} (h : Legible s src x) (hx : x.value = .blankNode label) :
    (x.isLabelled = true → label ≠ "" ∧ hasMark label = false ∧
      (x.isText = true → x.field.shape.datatype? ≠ some Abstract.iri)) ∧
    (x.isLabelled = false → x.field.shape.isTagged = false) := by
  unfold Legible at h
  rw [hx] at h
  exact h

theorem of_literal (h : Legible s src x) (hx : x.value = .literal l) :
    LegibleLiteral s src x.field.shape l := by
  unfold Legible at h
  rw [hx] at h
  exact h

/-- The identifier of a legible resource reads as the resource, unless its label is not written. -/
theorem resource (h : Legible s src x) (hr : x.value.isResource = true)
    (hkeep : x.value.isBlank = true → x.isLabelled = true) (hf : s.focus ≠ "") :
    Description.resource s (src.idText x.value) L = .ok (x.value, L) := by
  unfold Description.resource
  cases hx : x.value with
  | iri i =>
    obtain ⟨hback, -⟩ := h.of_iri hx
    obtain ⟨hne, hm⟩ := idText_of_resolve hf hback
    rw [if_neg (by simp [hne, hm]), hback]
    rfl
  | blankNode label =>
    obtain ⟨hne, hm, -⟩ := (h.of_blank hx).1 (hkeep (by rw [hx]; rfl))
    have hid : src.idText (.blankNode label) = Term.blankText label := rfl
    rw [hid, if_pos (Or.inr (hasMark_blankText label))]
    exact blankOf_blankText hne hm
  | literal l =>
    rw [hx] at hr
    cases hr

/-- Where a legible resource is written as a plain text, the text reads as it. -/
theorem textTerm (h : Legible s src x) (hr : x.value.isResource = true) (hf : s.focus ≠ "")
    (ht : x.isText = true) :
    Description.textTerm s x.field.shape (src.idText x.value) L = .ok (x.value, L) := by
  have hkeep : x.value.isBlank = true → x.isLabelled = true := fun hb =>
    Visit.isLabelled_of_isText hb ht
  have hresource : Description.resource s (src.idText x.value) L = .ok (x.value, L) :=
    h.resource hr hkeep hf
  obtain ⟨hi, -⟩ := Bool.and_eq_true_iff.1 ht
  unfold Shape.isInlineable at hi
  unfold Description.textTerm
  cases hd : x.field.shape.datatype? with
  | none =>
    rw [hd] at hi
    cases hi
  | some d =>
    rw [hd, Option.any_some, Abstract.isResource] at hi
    simp only [Bool.or_eq_true, beq_iff_eq] at hi
    rcases hi with (rfl | rfl) | rfl
    · exact hresource
    · cases hx : x.value with
      | iri i => exact absurd hd ((h.of_iri hx).2 ht)
      | blankNode label =>
        obtain ⟨hne, hm, -⟩ := (h.of_blank hx).1 (hkeep (by rw [hx]; rfl))
        exact blankOf_blankText hne hm
      | literal l =>
        rw [hx] at hr
        cases hr
    · cases hx : x.value with
      | iri i =>
        show Except.ok (Term.iri (Iri.resolve s.focus (src.idText (.iri i))), L) = _
        rw [(h.of_iri hx).1]
      | blankNode label =>
        obtain ⟨-, -, hnot⟩ := (h.of_blank hx).1 (hkeep (by rw [hx]; rfl))
        exact absurd hd (hnot ht)
      | literal l =>
        rw [hx] at hr
        cases hr

end Legible

end LinkedShapes.Description
