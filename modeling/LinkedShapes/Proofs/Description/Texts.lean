import LinkedShapes.Proofs.Check
import LinkedShapes.Proofs.Description.Reading

/-!
# Texts by language

An object from languages to texts is read member by member, each member for itself: where it is
written does not matter to its literals.

* `taggedTexts_some`: a member is read to the literals of its texts.
* `mem_taggedTexts`, `taggedTexts_of_terms`: the texts of all members are read, or none are.
* `taggedTexts_spec`: texts by language are literals, the same wherever they are written.
-/

namespace LinkedShapes.Description

variable {path : String} {m : String × Json} {members : List (String × Json)} {xs : List Json}
variable {lang : String} {texts : List String} {ts us : List Term}

/-- The texts of a language. -/
def textsOf? : Json → Option (List String)
  | .string text => some [text]
  | .array items => items.mapM Json.string?
  | .null => some []
  | _ => none

/-- The literals of a member of an object from languages to texts. -/
def taggedTerms? (m : String × Json) : Option (List Term) :=
  (textsOf? m.2).map fun texts => texts.map (Term.langString · m.1)

theorem mapM_string?_iff : xs.mapM Json.string? = some texts ↔ xs = texts.map .string := by
  induction xs generalizing texts with
  | nil => cases texts <;> simp
  | cons x xs ih =>
    rw [List.mapM_cons]
    cases x with
    | string text =>
      cases texts with
      | nil => simp [Json.string?, Option.bind_eq_some_iff]
      | cons text' texts => simp [Json.string?, Option.bind_eq_some_iff, ih, and_comm]
    | _ => cases texts <;> simp [Json.string?]

theorem mapM_of_texts {f : Json → Except DecodeError Term}
    (hf : ∀ text, f (.string text) = .ok (.langString text lang)) :
    (texts.map Json.string).mapM f = .ok (texts.map (Term.langString · lang)) := by
  induction texts with
  | nil => rfl
  | cons text texts ih =>
    rw [List.map_cons, List.mapM_cons, hf, ih]
    rfl

/-- Items that are read as texts are texts. -/
theorem texts_of_mapM {β : Type} {f : Json → Except DecodeError β} {ys : List β}
    (hf : ∀ x y, f x = .ok y → ∃ text, x = .string text) (h : xs.mapM f = .ok ys) :
    ∃ texts : List String, xs = texts.map .string := by
  induction xs generalizing ys with
  | nil => exact ⟨[], rfl⟩
  | cons x xs ih =>
    rw [List.mapM_cons] at h
    obtain ⟨y, hx, h⟩ := ok_of_bind h
    obtain ⟨rest, hxs, -⟩ := ok_of_bind h
    obtain ⟨text, rfl⟩ := hf x y hx
    obtain ⟨texts, rfl⟩ := ih hxs
    exact ⟨text :: texts, rfl⟩

/-- A member with texts is read, and then the others. -/
theorem taggedTexts_some (h : taggedTerms? m = some us) :
    taggedTexts path (m :: members) = (taggedTexts path members).map (us ++ ·) := by
  obtain ⟨lang, json⟩ := m
  obtain ⟨texts, htexts, rfl⟩ := Option.map_eq_some_iff.1 h
  cases json with
  | null | string text =>
    cases htexts
    rw [taggedTexts]
    cases taggedTexts path members <;> rfl
  | array xs =>
    obtain rfl := mapM_string?_iff.1 htexts
    rw [taggedTexts, mapM_of_texts fun _ => rfl]
    cases taggedTexts path members <;> rfl
  | bool _ | number _ | object _ => cases htexts

theorem taggedTerms?_of_ok (h : taggedTexts path (m :: members) = .ok ts) :
    ∃ us, taggedTerms? m = some us := by
  obtain ⟨lang, json⟩ := m
  have hof : (∃ texts, textsOf? json = some texts) →
      ∃ us, taggedTerms? (lang, json) = some us := by
    rintro ⟨texts, ht⟩
    exact ⟨_, Option.map_eq_some_iff.2 ⟨texts, ht, rfl⟩⟩
  cases json with
  | null | string text => exact hof ⟨_, rfl⟩
  | array xs =>
    rw [taggedTexts] at h
    obtain ⟨terms, hterms, -⟩ := ok_of_bind h
    obtain ⟨texts, rfl⟩ := texts_of_mapM (fun x t hx => by
      cases x with
      | string text => exact ⟨text, rfl⟩
      | _ => cases hx) hterms
    exact hof ⟨texts, mapM_string?_iff.2 rfl⟩
  | bool _ | number _ | object _ =>
    rw [taggedTexts] at h
    · cases h
    all_goals
      intros
      contradiction

/-- Texts by language are read if all of them are texts, and their literals are those of the
members. -/
theorem mem_taggedTexts (h : taggedTexts path members = .ok ts) :
    (∀ m ∈ members, ∃ us, taggedTerms? m = some us) ∧
      ∀ t, t ∈ ts ↔ ∃ m ∈ members, ∃ us, taggedTerms? m = some us ∧ t ∈ us := by
  induction members generalizing ts with
  | nil =>
    cases h
    simp
  | cons m members ih =>
    obtain ⟨us, hm⟩ := taggedTerms?_of_ok h
    rw [taggedTexts_some hm] at h
    cases hrest : taggedTexts path members with
    | error fault =>
      rw [hrest] at h
      cases h
    | ok rest =>
      rw [hrest] at h
      cases h
      obtain ⟨hall, hmem⟩ := ih hrest
      refine ⟨List.forall_mem_cons.2 ⟨⟨us, hm⟩, hall⟩, fun t => ?_⟩
      simp [hm, hmem]

theorem taggedTexts_of_terms (h : ∀ m ∈ members, ∃ us, taggedTerms? m = some us) :
    ∃ ts, taggedTexts path members = .ok ts := by
  induction members with
  | nil => exact ⟨[], rfl⟩
  | cons m members ih =>
    obtain ⟨⟨us, hm⟩, hrest⟩ := List.forall_mem_cons.1 h
    obtain ⟨ts, hts⟩ := ih hrest
    exact ⟨us ++ ts, by rw [taggedTexts_some hm, hts]; rfl⟩

/-- Texts by language are literals, and it does not matter to them where they are written. -/
theorem taggedTexts_spec (h : taggedTexts path members = .ok ts) :
    (∀ t ∈ ts, t.isLiteral = true) ∧ ∀ path', taggedTexts path' members = .ok ts := by
  induction members generalizing ts with
  | nil =>
    cases h
    exact ⟨fun _ ht => absurd ht List.not_mem_nil, fun _ => rfl⟩
  | cons m members ih =>
    obtain ⟨us, hm⟩ := taggedTerms?_of_ok h
    rw [taggedTexts_some hm] at h
    cases hrest : taggedTexts path members with
    | error fault =>
      rw [hrest] at h
      cases h
    | ok rest =>
      rw [hrest] at h
      cases h
      obtain ⟨hall, hpath⟩ := ih hrest
      refine ⟨List.forall_mem_append.2 ⟨fun t ht => ?_, hall⟩, fun path' => ?_⟩
      · obtain ⟨texts, -, rfl⟩ := Option.map_eq_some_iff.1 hm
        obtain ⟨text, -, rfl⟩ := List.mem_map.1 ht
        rfl
      · rw [taggedTexts_some hm, hpath]
        rfl

end LinkedShapes.Description
