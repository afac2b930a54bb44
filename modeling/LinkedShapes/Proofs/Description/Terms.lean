import LinkedShapes.Description.Validation
import LinkedShapes.Proofs.Description.Texts

/-!
# The terms of values

Validation reads values like reading does, but not what the objects among them tell. This module
relates the two, and says what the terms of a value depend on.

* `value_object`, `termsOfValue_object`: an object stands for literals or describes a resource.
* `textReading`: the ways in which a plain text is read.
* `termsOfValue_steady`: neither the place of a value nor the labels drawn before matter to its
  terms, a label that is drawn for it apart.
* `terms_object`: what the members of an object are if it stands for literals.
-/

namespace LinkedShapes.Description

open Vocabulary
open Labels (Spells)

variable {s : Setting} {shape : Shape} {a : Aliases} {path name : String} {L L' L'' : Labels}
variable {json item : Json} {members found : List (String × Json)} {r : Term} {g : Graph}

/-! ## Computations that succeed -/

section Computations

variable {ε σ α β : Type} {m : StateT σ (Except ε) α} {x : α} {y : β} {S S' : σ}

/-- A computation with a state succeeds step by step. -/
theorem run_ok_of_bind {f : α → StateT σ (Except ε) β} (h : (m >>= f) S = .ok (y, S')) :
    ∃ x S₁, m S = .ok (x, S₁) ∧ f x S₁ = .ok (y, S') := by
  obtain ⟨⟨x, S₁⟩, hm, hf⟩ := ok_of_bind (m := m S) (f := fun p => f p.1 p.2) h
  exact ⟨x, S₁, hm, hf⟩

theorem ok_of_run_lift {e : Except ε α} (h : (liftM e : StateT σ (Except ε) α) S = .ok (x, S')) :
    e = .ok x ∧ S' = S := by
  obtain ⟨x', he, h⟩ := ok_of_bind (m := e) (f := fun x => .ok (x, S)) h
  cases h
  exact ⟨he, rfl⟩

end Computations

theorem ok_of_aliasesOf (h : aliasesOf s shape = .ok a) :
    Aliases.ofShape shape s.keywords = .ok a := by
  unfold aliasesOf at h
  cases ha : Aliases.ofShape shape s.keywords with
  | error e =>
    rw [ha] at h
    cases h
  | ok b =>
    rw [ha] at h
    cases h
    rfl

/-! ## Texts of a description -/

theorem mem_of_lookup_json (h : Json.lookup name members = some json) : (name, json) ∈ members := by
  induction members with
  | nil => cases h
  | cons m members ih =>
    obtain ⟨n, v⟩ := m
    rw [Json.lookup] at h
    split at h
    · next hn =>
      cases h
      rw [hn]
      exact List.mem_cons_self
    · exact List.mem_cons_of_mem _ (ih h)

/-- The values of keywords are values of members. -/
theorem mem_of_declared {found before : List (String × Json)} {keyword : String}
    (h : declaredAfter s a before members = .ok found) (hm : (keyword, json) ∈ found) :
    (keyword, json) ∈ before ∨ ∃ name, (name, json) ∈ members := by
  induction members generalizing before with
  | nil =>
    cases h
    exact Or.inl hm
  | cons m members ih =>
    obtain ⟨name, value⟩ := m
    have hrest : ∀ before', declaredAfter s a before' members = .ok found →
        ((keyword, json) ∈ before' → (keyword, json) ∈ before ∨ json = value) →
        (keyword, json) ∈ before ∨ ∃ name', (name', json) ∈ (name, value) :: members := by
      intro before' h hbefore
      rcases ih h with hmem | ⟨name', hmem⟩
      · refine (hbefore hmem).imp id ?_
        rintro rfl
        exact ⟨name, List.mem_cons_self⟩
      · exact Or.inr ⟨name', List.mem_cons_of_mem _ hmem⟩
    rw [declaredAfter] at h
    split at h
    · exact hrest _ h Or.inl
    · split at h
      · refine hrest _ h fun hmem => ?_
        refine (List.mem_append.1 hmem).imp id fun hlast => ?_
        exact congrArg Prod.snd (List.mem_singleton.1 hlast)
      · split at h
        · exact hrest _ h Or.inl
        · cases h

theorem strings_of_member (h : (name, json) ∈ members) :
    json.strings ⊆ Json.memberStrings members := by
  induction members with
  | nil => exact absurd h List.not_mem_nil
  | cons m members ih =>
    obtain ⟨n, v⟩ := m
    rw [Json.memberStrings]
    rcases List.mem_cons.1 h with heq | h
    · cases heq
      exact List.subset_append_left _ _
    · exact List.subset_append_of_subset_right _ (ih h)

theorem strings_of_item {xs : List Json} (h : item ∈ xs) :
    item.strings ⊆ Json.itemStrings xs := by
  induction xs with
  | nil => exact absurd h List.not_mem_nil
  | cons y xs ih =>
    rw [Json.itemStrings]
    rcases List.mem_cons.1 h with rfl | h
    · exact List.subset_append_left _ _
    · exact List.subset_append_of_subset_right _ (ih h)

/-! ## Terms and fresh labels -/

/-- A term is told at once, with a label that is written if it is a blank node, or a blank node is
drawn for it. -/
def Steady (texts : List String) (m : Decoding Term) : Prop :=
  (∃ t, m = pure t ∧ ∀ label, t = .blankNode label → Spells texts label) ∨ m = freshBlank

theorem steady_pure {texts : List String} {t : Term} (h : t.isBlank = false) :
    Steady texts (pure t) := by
  refine Or.inl ⟨t, rfl, fun label ht => ?_⟩
  rw [ht] at h
  cases h

theorem Steady.mono {texts texts' : List String} {m : Decoding Term} (h : Steady texts m)
    (hsub : texts ⊆ texts') : Steady texts' m := by
  rcases h with ⟨t, ht, hlabel⟩ | hfresh
  · exact Or.inl ⟨t, ht, fun label hl => (hlabel label hl).mono hsub⟩
  · exact Or.inr hfresh

theorem steady_blankOf {id : String} : Steady [id] (blankOf id) := by
  unfold blankOf
  split
  · exact Or.inr rfl
  · refine Or.inl ⟨_, rfl, fun label ht => ⟨id, List.mem_singleton_self id, ?_⟩⟩
    exact Term.blankNode.inj ht

theorem steady_resource {id : String} : Steady [id] (resource s id) := by
  unfold resource
  split
  · exact steady_blankOf
  · exact steady_pure rfl

/-- The ways in which a plain text is read under a shape. -/
inductive TextReading (s : Setting) (shape : Shape) (text : String) : Decoding Term → Prop where
  | iri : TextReading s shape text (pure (.iri (Iri.resolve s.focus text)))
  | label : TextReading s shape text (blankOf text)
  | resource : TextReading s shape text (resource s text)
  | tagged {lang : String} (h : shape.lang? = some lang) :
      TextReading s shape text (pure (.langString text lang))
  | untagged (h : shape.lang? = none) : TextReading s shape text (throw (.unknownLanguage text))
  | typed {datatype : String} (hd : shape.datatype? = some datatype)
      (hc : isConcrete datatype = true) : TextReading s shape text (pure (.typed text datatype))
  | plain : TextReading s shape text (pure (.string text))

theorem textReading (s : Setting) (shape : Shape) (text : String) :
    TextReading s shape text (textTerm s shape text) := by
  unfold textTerm
  cases hd : shape.datatype? with
  | none =>
    dsimp only
    split
    · split
      · next hl => exact .tagged hl
      · next hl => exact .untagged hl
    · exact .plain
  | some datatype =>
    dsimp only
    split
    · exact .iri
    split
    · exact .label
    split
    · exact .resource
    split
    · split
      · next hl => exact .tagged hl
      · next hl => exact .untagged hl
    split
    · next hc => exact .typed hd hc
    · exact .plain

theorem TextReading.steady {text : String} {m : Decoding Term} (hm : TextReading s shape text m)
    (h : m L = .ok (r, L')) : Steady [text] m := by
  cases hm with
  | label => exact steady_blankOf
  | resource => exact steady_resource
  | untagged _ => cases h
  | iri | tagged _ | typed _ _ | plain => exact steady_pure rfl

theorem steady_textTerm {text : String} (h : textTerm s shape text L = .ok (r, L')) :
    Steady [text] (textTerm s shape text) :=
  (textReading s shape text).steady h

theorem steady_namedResource {texts : List String}
    (h : namedResource s found L = .ok (r, L'))
    (hid : ∀ id, Json.lookup Keyword.id found = some id → id.strings ⊆ texts) :
    Steady texts (namedResource s found) := by
  unfold namedResource at h ⊢
  cases hlookup : Json.lookup Keyword.id found with
  | none => exact Or.inr rfl
  | some id =>
    simp only [hlookup] at h ⊢
    obtain ⟨text, L₁, htext, -⟩ := run_ok_of_bind h
    obtain ⟨htext, -⟩ := ok_of_run_lift htext
    have hstrings : id.strings = [text] := by
      cases id with
      | string written =>
        cases htext
        rw [Json.strings]
      | _ => cases htext
    rw [htext]
    exact steady_resource.mono (hstrings ▸ hid id hlookup)

theorem isResource_of_resource {id : String} (h : resource s id L = .ok (r, L')) :
    r.isResource = true := by
  unfold resource blankOf at h
  split at h
  · split at h
    · cases h
      rfl
    · cases h
      rfl
  · cases h
    rfl

/-- The resource that keywords name is no literal. -/
theorem isResource_of_namedResource (h : namedResource s found L = .ok (r, L')) :
    r.isResource = true := by
  unfold namedResource at h
  cases hid : Json.lookup Keyword.id found with
  | none =>
    simp only [hid] at h
    cases h
    rfl
  | some id =>
    simp only [hid] at h
    obtain ⟨text, L₁, -, h⟩ := run_ok_of_bind h
    exact isResource_of_resource h

/-! ## Objects -/

/-- The literals that an object stands for if it describes no resource. -/
def literals (s : Setting) (shape : Shape) (members found : List (String × Json)) (path : String) :
    Except DecodeError (List Term) :=
  match Json.lookup Keyword.value found with
  | some json => (valueObject s shape members found json path).map fun t => [t]
  | none => taggedTexts path members

theorem literals_of_value {value : Json} (h : Json.lookup Keyword.value found = some value) :
    literals s shape members found path =
      (valueObject s shape members found value path).map fun t => [t] := by
  unfold literals
  rw [h]

theorem literals_of_tagged (h : Json.lookup Keyword.value found = none) :
    literals s shape members found path = taggedTexts path members := by
  unfold literals
  rw [h]

/-- An object stands for literals, or describes a resource. -/
theorem value_object (ha : Aliases.ofShape shape s.keywords = .ok a)
    (hd : declared s a members = .ok found) : value s shape path (.object members) =
      if isLiteralObject shape found = true then
        liftM (literals s shape members found path) >>= fun ts => pure (ts.map (·, .empty))
      else namedResource s found >>= fun r =>
        fields s a r path members >>= fun g => pure [(r, g)] := by
  funext L
  rw [value, bind_of_ok (lift_of_ok (aliasesOf_of_ok ha)), bind_of_ok (lift_of_ok hd)]
  cases hv : Json.lookup Keyword.value found with
  | some json =>
    have hl : isLiteralObject shape found = true := by
      unfold isLiteralObject
      rw [hv]
      rfl
    simp only [hl, if_true, literals_of_value hv]
    cases valueObject s shape members found json path <;> rfl
  | none => rw [literals_of_tagged hv]

theorem subject?_object (ha : Aliases.ofShape shape s.keywords = .ok a)
    (hd : declared s a members = .ok found) : subject? s shape members =
      if isLiteralObject shape found = true then pure none
      else namedResource s found >>= fun r => pure (some r) := by
  funext L
  unfold subject?
  rw [bind_of_ok (lift_of_ok (aliasesOf_of_ok ha)), bind_of_ok (lift_of_ok hd)]

/-- The terms of an object, in the same two cases. -/
theorem termsOfValue_object (ha : Aliases.ofShape shape s.keywords = .ok a)
    (hd : declared s a members = .ok found) : termsOfValue s shape path (.object members) =
      if isLiteralObject shape found = true then liftM (literals s shape members found path)
      else namedResource s found >>= fun r => pure [r] := by
  unfold termsOfValue
  simp only [subject?_object ha hd, value_object ha hd]
  by_cases hl : isLiteralObject shape found = true
  · simp only [hl, if_true]
    funext L
    cases literals s shape members found path with
    | error e => rfl
    | ok ts =>
      show Except.ok ((ts.map fun t => (t, Graph.empty)).map (·.1), L) = .ok (ts, L)
      have hmap : (fun p : Described => p.1) ∘ (fun t => (t, Graph.empty)) = id := rfl
      rw [List.map_map, hmap, List.map_id]
  · simp only [hl, Bool.false_eq_true, if_false, bind_assoc, pure_bind]

/-- An object whose terms can be read has keywords that agree. -/
theorem declared_of_terms {ts : List Term}
    (h : termsOfValue s shape path (.object members) L = .ok (ts, L')) :
    ∃ a found, Aliases.ofShape shape s.keywords = .ok a ∧ declared s a members = .ok found := by
  unfold termsOfValue at h
  obtain ⟨x, L₁, h, -⟩ := run_ok_of_bind h
  unfold subject? at h
  obtain ⟨a, L₂, ha, h⟩ := run_ok_of_bind h
  obtain ⟨found, L₃, hd, -⟩ := run_ok_of_bind h
  exact ⟨a, found, ok_of_aliasesOf (ok_of_run_lift ha).1, (ok_of_run_lift hd).1⟩

theorem declared_of_value {vs : List Described}
    (h : value s shape path (.object members) L = .ok (vs, L')) :
    ∃ a found, Aliases.ofShape shape s.keywords = .ok a ∧ declared s a members = .ok found := by
  rw [value] at h
  obtain ⟨a, L₂, ha, h⟩ := run_ok_of_bind h
  obtain ⟨found, L₃, hd, -⟩ := run_ok_of_bind h
  exact ⟨a, found, ok_of_aliasesOf (ok_of_run_lift ha).1, (ok_of_run_lift hd).1⟩

/-! ## Literals -/

theorem isLiteral_numberTerm {n : Json.Number} : (numberTerm shape n).isLiteral = true := by
  unfold numberTerm
  split <;> rfl

theorem isLiteral_valueText {text : String} : (valueText shape text).isLiteral = true := by
  unfold valueText
  split <;> rfl

/-- A value object stands for a literal, has no fields, and it does not matter where it is. -/
theorem valueObject_spec {value : Json} {t : Term}
    (h : valueObject s shape members found value path = .ok t) :
    t.isLiteral = true ∧ (∀ m ∈ members, (s.keywords.keyword? m.1).isSome = true) ∧
      ∀ path', valueObject s shape members found value path' = .ok t := by
  unfold valueObject at h ⊢
  cases hf : members.find? fun m => (s.keywords.keyword? m.1).isNone with
  | some m =>
    rw [hf] at h
    cases h
  | none =>
    have hknown : ∀ m ∈ members, (s.keywords.keyword? m.1).isSome = true := by
      intro m hm
      have hnot := List.find?_eq_none.1 hf m hm
      rw [Option.isNone_iff_eq_none, ← ne_eq, ← Option.isSome_iff_ne_none] at hnot
      exact hnot
    simp only [hf] at h ⊢
    cases value with
    | string _ | bool _ | number _ =>
      refine ⟨?_, hknown, fun _ => h⟩
      obtain ⟨lexical, -, h⟩ := ok_of_bind h
      cases ht : Json.lookup Keyword.type found with
      | some type =>
        simp only [ht] at h
        obtain ⟨text, -, h⟩ := ok_of_bind h
        cases h
        rfl
      | none =>
        cases hl : Json.lookup Keyword.language found with
        | some language =>
          simp only [ht, hl] at h
          obtain ⟨text, -, h⟩ := ok_of_bind h
          cases h
          rfl
        | none =>
          simp only [ht, hl] at h
          cases h
          first | rfl | exact isLiteral_numberTerm | exact isLiteral_valueText
    | null | array _ | object _ => cases h

theorem literals_spec {ts : List Term} (h : literals s shape members found path = .ok ts) :
    (∀ t ∈ ts, t.isLiteral = true) ∧ ∀ path', literals s shape members found path' = .ok ts := by
  cases hv : Json.lookup Keyword.value found with
  | none =>
    rw [literals_of_tagged hv] at h
    obtain ⟨hlit, hpath⟩ := taggedTexts_spec h
    refine ⟨hlit, fun path' => ?_⟩
    rw [literals_of_tagged hv, hpath path']
  | some value =>
    rw [literals_of_value hv] at h
    cases ho : valueObject s shape members found value path with
    | error e =>
      rw [ho] at h
      cases h
    | ok t =>
      rw [ho] at h
      cases h
      obtain ⟨hlit, -, hpath⟩ := valueObject_spec ho
      refine ⟨List.forall_mem_singleton.2 hlit, fun path' => ?_⟩
      rw [literals_of_value hv, hpath path']
      rfl

/-! ## Terms of a value -/

/-- The terms of a value are told at once, wherever it stands, with labels that are written, or a
blank node is drawn for it. -/
def SteadyTerms (s : Setting) (shape : Shape) (json : Json) : Prop :=
  (∃ ts, (∀ path, termsOfValue s shape path json = pure ts) ∧
      ∀ label, .blankNode label ∈ ts → Spells json.strings label) ∨
    ∀ path, termsOfValue s shape path json = freshBlank >>= fun t => pure [t]

/-- A value that stands for one term is as steady as the term. -/
theorem Steady.terms {m : Decoding Term} (h : Steady json.strings m)
    (hm : ∀ path, termsOfValue s shape path json = m >>= fun t => pure [t]) :
    SteadyTerms s shape json := by
  rcases h with ⟨t, rfl, hlabel⟩ | rfl
  · exact Or.inl ⟨[t], hm, fun label ht => hlabel label (List.mem_singleton.1 ht).symm⟩
  · exact Or.inr hm

/-- An object stands for literals, or for the one resource that it names. -/
theorem steadyTerms_object {ts : List Term}
    (h : termsOfValue s shape path (.object members) L = .ok (ts, L')) :
    SteadyTerms s shape (.object members) := by
  obtain ⟨a, found, ha, hd⟩ := declared_of_terms h
  rw [termsOfValue_object ha hd] at h
  by_cases hl : isLiteralObject shape found = true
  · rw [if_pos hl] at h
    obtain ⟨hts, -⟩ := ok_of_run_lift h
    refine Or.inl ⟨ts, fun path' => ?_, fun label ht => ?_⟩
    · rw [termsOfValue_object ha hd, if_pos hl, (literals_spec hts).2 path']
      rfl
    · have hlit := (literals_spec hts).1 _ ht
      cases hlit
  · rw [if_neg hl] at h
    obtain ⟨r, L₁, hr, -⟩ := run_ok_of_bind h
    -- the identifier is the value of a member, so its text is one of the object
    refine (steady_namedResource hr fun id hid => ?_).terms fun path' => ?_
    · obtain ⟨name, hm⟩ := (mem_of_declared hd (mem_of_lookup_json hid)).resolve_left
        List.not_mem_nil
      rw [Json.strings]
      exact strings_of_member hm
    · rw [termsOfValue_object ha hd, if_neg hl]

theorem termsOfValue_string {text : String} : termsOfValue s shape path (.string text) =
    textTerm s shape text >>= fun t => pure [t] := by
  show value s shape path (.string text) >>= (fun vs => pure (vs.map (·.1))) = _
  rw [value]
  simp only [bind_assoc, pure_bind, List.map_cons, List.map_nil]

/-- Neither the place of a value nor the labels drawn before matter to its terms, a label that is
drawn for it apart. -/
theorem termsOfValue_steady {ts : List Term}
    (h : termsOfValue s shape path json L = .ok (ts, L')) :
    SteadyTerms s shape json := by
  cases json with
  | object members => exact steadyTerms_object h
  | string text =>
    rw [termsOfValue_string] at h
    obtain ⟨t, L₁, ht, -⟩ := run_ok_of_bind h
    refine Steady.terms ?_ fun _ => termsOfValue_string
    rw [Json.strings]
    exact steady_textTerm ht
  | null => exact Or.inl ⟨_, fun _ => rfl, fun _ ht => absurd ht List.not_mem_nil⟩
  | bool _ =>
    refine Or.inl ⟨_, fun _ => rfl, fun label ht => ?_⟩
    cases List.mem_singleton.1 ht
  | number n =>
    refine Or.inl ⟨_, fun _ => rfl, fun label ht => ?_⟩
    have hlit : (numberTerm shape n).isLiteral = true := isLiteral_numberTerm
    have heq : .blankNode label = numberTerm shape n := List.mem_singleton.1 ht
    rw [← heq] at hlit
    cases hlit
  | array _ => cases h

/-- A value whose terms can be read somewhere can be read anywhere. -/
theorem termsOfValue_anywhere {ts : List Term}
    (h : termsOfValue s shape path json L = .ok (ts, L')) (path' : String) (L'' : Labels) :
    ∃ ts L₁, termsOfValue s shape path' json L'' = .ok (ts, L₁) := by
  rcases termsOfValue_steady h with ⟨ts, hts, -⟩ | hfresh
  · exact ⟨ts, L'', by rw [hts]; rfl⟩
  · exact ⟨_, _, by rw [hfresh]; rfl⟩

/-- An object describes one resource, or stands for literals and has no fields. -/
theorem terms_object {ts : List Term}
    (h : termsOfValue s shape path (.object members) L = .ok (ts, L')) :
    (∃ r, ts = [r] ∧ r.isResource = true) ∨ (∀ t ∈ ts, t.isLiteral = true) ∧
      (shape.isTagged = true ∨ ∀ m ∈ members, (s.keywords.keyword? m.1).isSome = true) := by
  obtain ⟨a, found, ha, hd⟩ := declared_of_terms h
  rw [termsOfValue_object ha hd] at h
  by_cases hl : isLiteralObject shape found = true
  · rw [if_pos hl] at h
    obtain ⟨hts, -⟩ := ok_of_run_lift h
    refine Or.inr ⟨(literals_spec hts).1, ?_⟩
    cases hv : Json.lookup Keyword.value found with
    | none =>
      unfold isLiteralObject at hl
      rw [hv] at hl
      simp only [Option.isSome_none, Bool.false_or, Bool.and_eq_true] at hl
      exact Or.inl hl.2
    | some value =>
      rw [literals_of_value hv] at hts
      cases ho : valueObject s shape members found value path with
      | error e =>
        rw [ho] at hts
        cases hts
      | ok t => exact Or.inr (valueObject_spec ho).2.1
  · rw [if_neg hl] at h
    obtain ⟨r, L₁, hr, h⟩ := run_ok_of_bind h
    cases h
    exact Or.inl ⟨r, rfl, isResource_of_namedResource hr⟩

end LinkedShapes.Description
