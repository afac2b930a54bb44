import LinkedShapes.Proofs.Description.Literals
import LinkedShapes.Proofs.Description.Terms

/-!
# Texts by language read back

Tagged texts are written in one of four forms: as plain texts where the only language is known, one
alone or several in an array, and elsewhere as an object from languages to texts, each language with
one text or with an array of them. The reader tells such an object from those of resources and of
literals by what it has not: none of its members is a keyword. A language may have the name that a
keyword goes by, so that this is where the forms can be mistaken.

* `values_taggedValues_iff`: the texts are read back, each once, exactly if there is no such object,
  or none of its languages stands for a keyword of objects.
* `not_values_taggedValues_of_keyword`: Indonesian texts where identifiers go by the name `id`.
-/

namespace LinkedShapes.Description

open Vocabulary

variable {s : Setting} {f : Field} {path : String} {L L' : Labels} {vs : List Term}
variable {a : Aliases} {found members : List (String × Json)} {shape : Shape} {ts : List Term}

/-! ## Keywords among the members -/

/-- Keywords that were found are not forgotten. -/
theorem found_subset_of_declaredAfter {before : List (String × Json)}
    (h : declaredAfter s a before members = .ok found) : before ⊆ found := by
  induction members generalizing before with
  | nil =>
    cases h
    exact List.Subset.refl _
  | cons m members ih =>
    obtain ⟨name, json⟩ := m
    rw [declaredAfter] at h
    split at h
    · exact ih h
    · split at h
      · exact List.Subset.trans (List.subset_append_left _ _) (ih h)
      · split at h
        · exact ih h
        · cases h

/-- A member that stands for a keyword makes an object have keywords. -/
theorem declaredAfter_ne_nil {before : List (String × Json)}
    (h : declaredAfter s a before members = .ok found) {m : String × Json} (hm : m ∈ members)
    (hk : objectKeyword? s a m.1 ≠ none) : found ≠ [] := by
  induction members generalizing before with
  | nil => exact absurd hm List.not_mem_nil
  | cons first members ih =>
    obtain ⟨name, json⟩ := first
    rw [declaredAfter] at h
    rcases List.mem_cons.1 hm with rfl | hm
    · split at h
      · next hnone => exact absurd hnone hk
      · split at h
        · exact List.ne_nil_of_mem
            (found_subset_of_declaredAfter h (List.mem_append_right _ (List.mem_singleton_self _)))
        · next first hfirst =>
          split at h
          · exact List.ne_nil_of_mem (found_subset_of_declaredAfter h (mem_of_lookup_json hfirst))
          · cases h
    · split at h
      · exact ih h hm
      · split at h
        · exact ih h hm
        · split at h
          · exact ih h hm
          · cases h

/-- An object with keywords stands for one value. -/
theorem singleton_of_value {described : List Described}
    (ha : Aliases.ofShape shape s.keywords = .ok a)
    (hd : declared s a members = .ok found) (hne : found ≠ [])
    (h : value s shape path (.object members) L = .ok (described, L')) :
    ∃ d, described = [d] := by
  rw [value_object ha hd] at h
  split at h
  · next hl =>
    obtain ⟨ts, L₁, hts, h⟩ := run_ok_of_bind h
    cases h
    have hvalue : (Json.lookup Keyword.value found).isSome = true := by
      rw [isLiteralObject, List.isEmpty_eq_false_iff.2 hne, Bool.false_and, Bool.or_false] at hl
      exact hl
    obtain ⟨json, hjson⟩ := Option.isSome_iff_exists.1 hvalue
    have hliterals := (ok_of_run_lift hts).1
    rw [literals_of_value hjson] at hliterals
    cases ho : valueObject s shape members found json path with
    | error fault =>
      rw [ho] at hliterals
      cases hliterals
    | ok t =>
      rw [ho] at hliterals
      cases hliterals
      exact ⟨(t, .empty), rfl⟩
  · obtain ⟨r, L₁, -, h⟩ := run_ok_of_bind h
    obtain ⟨g, L₂, -, h⟩ := run_ok_of_bind h
    cases h
    exact ⟨(r, g), rfl⟩

/-- A value object that tells no language is read as a literal without one. -/
theorem language_of_valueObject {value : Json} {t : Term}
    (hl : Json.lookup Keyword.language found = none)
    (h : valueObject s shape members found value path = .ok t) : t.language = none := by
  unfold valueObject at h
  cases hf : members.find? fun m => (s.keywords.keyword? m.1).isNone with
  | some m =>
    rw [hf] at h
    cases h
  | none =>
    simp only [hf, hl] at h
    cases value with
    | string _ | bool _ | number _ =>
      obtain ⟨lexical, -, h⟩ := ok_of_bind h
      cases ht : Json.lookup Keyword.type found with
      | some type =>
        simp only [ht] at h
        obtain ⟨text, -, h⟩ := ok_of_bind h
        cases h
        rfl
      | none =>
        simp only [ht] at h
        cases h
        first | rfl | (unfold numberTerm; split <;> rfl) | (unfold valueText; split <;> rfl)
    | null | array _ | object _ => cases h

/-- Where there are no fields, a name stands for a keyword unless it is none of those that objects
are read by. -/
theorem objectKeyword?_eq_none_iff {name : String} : objectKeyword? s ⟨[]⟩ name = none ↔
    ∀ keyword ∈ objectKeywords, s.keywords.keyword? name ≠ some keyword := by
  have hnot : ¬ Aliases.contains ⟨[]⟩ name = true := Bool.false_ne_true
  unfold objectKeyword?
  rw [if_neg hnot, Option.filter_eq_none_iff]
  constructor
  · exact fun h keyword ho hk => h keyword hk (List.contains_iff_mem.2 ho)
  · exact fun h keyword hk ho => h keyword (List.contains_iff_mem.1 ho) hk

/-- A text under a name that stands for a keyword is not read as a text of that language. -/
theorem not_langString_of_keyword {text tag keyword : String} {json : Json} {g : Graph}
    (hf : shape.fields = []) (hk : s.keywords.keyword? tag = some keyword)
    (ho : keyword ∈ objectKeywords) :
    value s shape path (.object [(tag, json)]) L ≠ .ok ([(.langString text tag, g)], L') := by
  have hd : declared s ⟨[]⟩ [(tag, json)] = .ok [(keyword, json)] := by
    rw [declared, declaredAfter_cons_new (objectKeyword?_of_keyword? rfl hk ho) rfl]
    rfl
  rw [value_object (Aliases.ofShape_of_no_fields hf) hd]
  intro h
  -- a value stands for a literal without a language, and any other keyword for a resource
  by_cases hvalue : keyword = Keyword.value
  · subst hvalue
    have hl : isLiteralObject shape [(Keyword.value, json)] = true := rfl
    rw [if_pos hl] at h
    obtain ⟨ts, L₁, hts, h⟩ := run_ok_of_bind h
    have hliterals := (ok_of_run_lift hts).1
    rw [literals_of_value rfl] at hliterals
    cases ho : valueObject s shape [(tag, json)] [(Keyword.value, json)] json path with
    | error fault =>
      rw [ho] at hliterals
      cases hliterals
    | ok t =>
      rw [ho] at hliterals
      cases hliterals
      have hnone : t.language = none := language_of_valueObject rfl ho
      cases h
      cases hnone
  · have hl : isLiteralObject shape [(keyword, json)] = false := by
      simp [isLiteralObject, Json.lookup, hvalue]
    rw [hl, if_neg Bool.false_ne_true] at h
    obtain ⟨r, L₁, hr, h⟩ := run_ok_of_bind h
    obtain ⟨g, L₂, -, h⟩ := run_ok_of_bind h
    have hresource := isResource_of_namedResource hr
    cases h
    cases hresource

/-- Tagged texts of a field without fields of its own are read back, each once, exactly if they have
no language but the only one that is admitted, or no language stands for a keyword of objects. -/
theorem values_taggedValues_iff (ht : f.shape.isTagged = true) (hf : f.shape.fields = [])
    (hd : f.shape.datatype? = none ∨ f.shape.datatype? = some Rdf.langString)
    (hv : ∀ v ∈ vs, ∃ text tag, v = .langString text tag) :
    (∃ ts : List Term, ts.Perm vs ∧
        values s f.shape path (taggedValues f vs) L = .ok (ts.map (·, .empty), L)) ↔
      (∃ tag, f.shape.lang? = some tag ∧ ∀ v ∈ vs, v.language = some tag) ∨
      ∀ v ∈ vs, ∀ tag, v.language = some tag →
        ∀ keyword ∈ objectKeywords, s.keywords.keyword? tag ≠ some keyword := by
  have ha := Aliases.ofShape_of_no_fields (k := s.keywords) hf
  constructor
  · rintro ⟨ts, hperm, hts⟩
    rw [or_iff_not_imp_left]
    intro hp v hm tag htag keyword ho hk
    rw [taggedValues_of_not_pinned hp] at hts
    obtain ⟨text, tag', rfl⟩ := hv v hm
    cases htag
    obtain ⟨e, he, htexts⟩ := List.mem_flatMap.1 ((byLanguage_spec hv).2.mem_iff.2 hm)
    obtain ⟨text', -, heq⟩ := List.mem_map.1 htexts
    have htag : e.1 = tag := Option.some.inj (congrArg Term.language heq)
    obtain ⟨a, found, ha', hdeclared⟩ := declared_of_value hts
    obtain rfl : ⟨[]⟩ = a := Except.ok.inj (ha.symm.trans ha')
    -- the keyword makes the object stand for one value, so that there was one text
    have hne : found ≠ [] := by
      refine declaredAfter_ne_nil hdeclared (List.mem_map_of_mem he) ?_
      rw [htag, objectKeyword?_of_keyword? (a := ⟨[]⟩) rfl hk ho]
      exact Option.some_ne_none _
    obtain ⟨d, hone⟩ := singleton_of_value ha hdeclared hne hts
    obtain ⟨t, rfl, -⟩ := List.map_eq_singleton_iff.1 hone
    obtain rfl := List.perm_singleton.1 hperm.symm
    obtain rfl := List.mem_singleton.1 hm
    exact not_langString_of_keyword hf hk ho hts
  · intro h
    have hlegible : LegibleTexts s f.shape vs := by
      refine ⟨fun _ => hd, fun hp b hb v hm tag htag => ?_⟩
      obtain rfl := Except.ok.inj (ha.symm.trans hb)
      exact objectKeyword?_eq_none_iff.2 (h.resolve_left hp v hm tag htag)
    obtain ⟨ts, hts, hperm⟩ := hlegible.values ht hv ha
    exact ⟨ts, hperm, hts⟩

/-- Texts of two languages, and Indonesian texts where no other language is admitted. -/
theorem values_taggedValues_iff_named :
    let s : Setting := .of "https://example.com/people/alice" (.ofList [(Keyword.id, "id")])
    let f : Field := ⟨⟨"urn:x:greeting", false⟩, none, .lang .empty⟩
    let g : Field := ⟨⟨"urn:x:greeting", false⟩, none, .lang (.singleton "id")⟩
    let hello := [Term.langString "ciao" "it", Term.langString "hello" "en"]
    let halo := [Term.langString "halo" "id", Term.langString "hai" "id"]
    (∃ ts : List Term, ts.Perm hello ∧
        values s f.shape "" (taggedValues f hello) default = .ok (ts.map (·, .empty), default)) ∧
      ∃ ts : List Term, ts.Perm halo ∧
        values s g.shape "" (taggedValues g halo) default = .ok (ts.map (·, .empty), default) := by
  intro s f g hello halo
  have hhello : ∀ v ∈ hello, ∃ text tag, v = .langString text tag := by
    rintro v hv
    rcases List.mem_pair.1 hv with rfl | rfl <;> exact ⟨_, _, rfl⟩
  have hhalo : ∀ v ∈ halo, ∃ text tag, v = .langString text tag := by
    rintro v hv
    rcases List.mem_pair.1 hv with rfl | rfl <;> exact ⟨_, _, rfl⟩
  refine ⟨(values_taggedValues_iff rfl rfl (.inl rfl) hhello).2 (.inr ?_),
    (values_taggedValues_iff rfl rfl (.inl rfl) hhalo).2 (.inl ⟨"id", rfl, ?_⟩)⟩
  · decide +kernel
  · decide +kernel

/-- Identifiers go by the name that is also the tag of Indonesian: the object of the texts is taken
for that of a resource with an identifier. -/
theorem not_values_taggedValues_of_keyword :
    let k : Keywords := .ofList [(Keyword.id, "id")]
    let f : Field := ⟨⟨"urn:x:greeting", false⟩, none, .lang .empty⟩
    k.check = .ok () ∧ f.shape.isTagged = true ∧ f.shape.fields = [] ∧ f.shape.datatype? = none ∧
      values (.of "https://example.com/people/alice" k) f.shape ""
          (taggedValues f [.langString "halo" "id"]) default =
        .error (.malformedKeyword Keyword.id) := by
  refine ⟨by decide +kernel, rfl, rfl, rfl, ?_⟩
  rfl

end LinkedShapes.Description
