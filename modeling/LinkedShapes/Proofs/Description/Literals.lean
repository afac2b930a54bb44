import Mathlib.Data.Set.List
import LinkedShapes.Proofs.Description.Legible
import LinkedShapes.Proofs.Description.Texts

/-!
# Literals read as themselves

A literal is written in one of five forms: as a plain text, as a boolean, as a number, and as an
object with its datatype or with its language. `LegibleLiteral.value` goes through the forms and
shows that each reads as the literal it was written for. Texts that are tagged with a language may
be written together, and `LegibleTexts.values` shows that together they read as the same texts, in
another order.
-/

namespace LinkedShapes.Description

open Vocabulary

variable {s : Setting} {src : Source} {shape : Shape} {L : Labels} {path : String} {l : Literal}
variable {a : Aliases}

/-! ## Plain texts -/

theorem textTerm_concrete {text d : String} (hd : shape.datatype? = some d)
    (hc : isConcrete d = true) (hl : d ≠ Rdf.langString) :
    textTerm s shape text L = .ok (.typed text d, L) := by
  have hne : ∀ e, isConcrete e = false → d ≠ e := by
    rintro e he rfl
    rw [he] at hc
    cases hc
  unfold textTerm
  simp only [hd]
  rw [if_neg (hne Abstract.iri (by decide)), if_neg (hne Abstract.bnode (by decide)),
    if_neg (hne Abstract.resource (by decide)), if_neg hl, if_pos hc]
  rfl

/-- A text that its shape does not make anything else of is a plain string. -/
theorem textTerm_string {text : String} (ht : shape.datatype? = none → shape.isTagged = false)
    (hp : ∀ d, shape.datatype? = some d → (Term.string text).isOf d = true) :
    textTerm s shape text L = .ok (.string text, L) := by
  cases hd : shape.datatype? with
  | none =>
    unfold textTerm
    simp only [hd]
    rw [ht hd, if_neg (by decide)]
    rfl
  | some d =>
    have hof := hp d hd
    unfold Term.isOf at hof
    split at hof
    · next he =>
      unfold textTerm
      simp only [hd, he]
      rfl
    · split at hof
      · cases hof
      · split at hof
        · next he =>
          unfold textTerm
          simp only [hd, he]
          rfl
        · have he : Xsd.string = d := beq_iff_eq.1 (Bool.and_eq_true_iff.1 hof).1
          subst he
          exact textTerm_concrete hd (by decide) (by decide)

/-! ## Numbers -/

theorem ofInteger?_of_mem_point {text : List Char} (h : '.' ∈ text) :
    Decimal.ofInteger? text = none := by
  have hdigits : '.' ∈ (Decimal.splitSign text).2 := by
    unfold Decimal.splitSign
    split
    · exact (List.mem_cons.1 h).resolve_left (by decide)
    · exact (List.mem_cons.1 h).resolve_left (by decide)
    · exact h
  unfold Decimal.ofInteger?
  generalize Decimal.splitSign text = parts at hdigits
  obtain ⟨negative, digits⟩ := parts
  have hall : digits.all Text.isAsciiDigit = false := by
    rw [List.all_eq_false]
    exact ⟨'.', hdigits, by decide⟩
  simp only [hall, Bool.and_false, Bool.false_eq_true, if_false]

/-- A number is spelled like its text, and it is an integer if the text is one. -/
theorem exactNumber?_some {text : String} {n : Json.Number} (h : exactNumber? text = some n) :
    n.text = text ∧ n.isInteger = (Decimal.ofInteger? text.toList).isSome := by
  unfold exactNumber? at h
  obtain ⟨hn, ht⟩ := Option.filter_eq_some_iff.1 h
  refine ⟨by simpa using ht, ?_⟩
  cases hi : Decimal.ofInteger? text.toList with
  | some d =>
    simp only [hi] at hn
    split at hn
    · cases hn
      rfl
    · cases hn
  | none =>
    simp only [hi] at hn
    obtain ⟨d, -, hd⟩ := Option.map_eq_some_iff.1 hn
    rw [← hd]
    rfl

/-- A number that may stand for a literal reads as the literal. -/
theorem LegibleLiteral.number (h : LegibleLiteral s src shape l) (hn : l.language = none)
    (hd : l.datatype = Xsd.integer ∨ l.datatype = Xsd.decimal)
    (hr : readsAsNumber shape.datatype? l = true) {n : Json.Number}
    (he : exactNumber? l.lexical = some n) : numberTerm shape n = .literal l := by
  obtain ⟨htext, hint⟩ := exactNumber?_some he
  have hl : l = ⟨n.text, l.datatype, none⟩ := by
    rw [htext, ← hn]
  unfold readsAsNumber at hr
  unfold numberTerm
  cases hf : shape.datatype?.filter isNumeric with
  | some d =>
    rw [hf] at hr
    have hd : d = l.datatype := by simpa using hr
    rw [hl, hd]
    rfl
  | none =>
    rw [hf] at hr
    simp only [Bool.or_eq_true, beq_iff_eq] at hr
    rcases hd with hi | hc
    · rw [hl, hi, h.integer hi hf n he]
      rfl
    · have hpoint : '.' ∈ l.lexical.toList := by
        rcases hr with hr | hr
        · rw [hc] at hr
          exact absurd hr (by decide)
        · simpa using hr
      have hnone : n.isInteger = false := by
        rw [hint, ofInteger?_of_mem_point hpoint]
        rfl
      rw [hl, hc, hnone]
      rfl

/-! ## Value objects -/

theorem put_two {first second : String} {x y : Json} (h : first ≠ second) :
    Json.put second y [(first, x)] = [(first, x), (second, y)] := by
  simp [Json.put, h]

/-- The keywords of an object with a value and one more keyword. -/
theorem declared_value (hk : s.keywords.check = .ok ())
    (ha : Aliases.ofShape shape s.keywords = .ok a)
    {keyword : String} (ho : keyword ∈ objectKeywords) (hv : keyword ≠ Keyword.value)
    (hg : a.get? (s.keywords.nameOf keyword) = none) {x y : Json} :
    declared s a [(s.keywords.nameOf Keyword.value, x), (s.keywords.nameOf keyword, y)] =
      .ok [(Keyword.value, x), (keyword, y)] := by
  have hr : Keywords.looksReserved keyword = true := by
    have hall : ∀ kw ∈ objectKeywords, Keywords.looksReserved kw = true := by decide
    exact hall keyword ho
  have hvalue : objectKeyword? s a (s.keywords.nameOf Keyword.value) = some Keyword.value :=
    objectKeyword?_of_keyword? (Aliases.get?_nameOf hk ha (by decide) (by decide))
      (Keywords.keyword?_nameOf hk (by decide)) (by decide)
  have hother : objectKeyword? s a (s.keywords.nameOf keyword) = some keyword :=
    objectKeyword?_of_keyword? hg (Keywords.keyword?_nameOf hk hr) ho
  unfold declared
  rw [declaredAfter_cons_new hvalue rfl, declaredAfter_cons_new hother]
  · rfl
  · simp [Json.lookup, hv.symm]

theorem find?_unknown (hk : s.keywords.check = .ok ()) {first second : String}
    (hf : Keywords.looksReserved first = true) (hs : Keywords.looksReserved second = true)
    {x y : Json} :
    [(s.keywords.nameOf first, x), (s.keywords.nameOf second, y)].find?
      (fun m => (s.keywords.keyword? m.1).isNone) = none := by
  simp [Keywords.keyword?_nameOf hk hf, Keywords.keyword?_nameOf hk hs]

/-- An object with a datatype reads as its literal. -/
theorem LegibleLiteral.typedObject (h : LegibleLiteral s src shape l)
    (hk : s.keywords.check = .ok ()) (hsrc : src.keywords = s.keywords)
    (ha : Aliases.ofShape shape s.keywords = .ok a)
    (hn : l.language = none) (hform : src.literal shape l = src.typedObject l) :
    value s shape path (src.typedObject l) L = .ok ([(.literal l, .empty)], L) := by
  obtain ⟨hresolve, hname⟩ := h.typed hn hform
  have hne : s.keywords.nameOf Keyword.value ≠ s.keywords.nameOf Keyword.type := by
    intro he
    exact absurd (Keywords.nameOf_injective hk (by decide) (by decide) he) (by decide)
  unfold Source.typedObject Source.name
  rw [hsrc, put_two hne]
  refine value_literal ha
    (declared_value hk ha (by decide) (by decide) (hname a ha)) rfl ?_
  unfold valueObject
  rw [find?_unknown hk (by decide) (by decide)]
  show Except.ok (Term.typed l.lexical (Iri.resolve s.focus l.datatype)) = _
  rw [hresolve, Term.typed, ← hn]

/-- An object with a language reads as its literal. -/
theorem LegibleLiteral.taggedObject (h : LegibleLiteral s src shape l)
    (hk : s.keywords.check = .ok ()) (hsrc : src.keywords = s.keywords)
    (ha : Aliases.ofShape shape s.keywords = .ok a)
    {tag : String} (ht : l.language = some tag) :
    value s shape path (src.taggedObject l tag) L = .ok ([(.literal l, .empty)], L) := by
  have hne : s.keywords.nameOf Keyword.value ≠ s.keywords.nameOf Keyword.language := by
    intro he
    exact absurd (Keywords.nameOf_injective hk (by decide) (by decide) he) (by decide)
  have hg := Aliases.get?_nameOf hk ha
    (show Keywords.looksReserved Keyword.language = true by decide) (by decide)
  unfold Source.taggedObject Source.name
  rw [hsrc, put_two hne]
  refine value_literal ha (declared_value hk ha (by decide) (by decide) hg) rfl ?_
  unfold valueObject
  rw [find?_unknown hk (by decide) (by decide)]
  have hd : l.datatype = Rdf.langString := h.tagged_iff.1 (by rw [ht]; rfl)
  show Except.ok (Term.langString l.lexical tag) = _
  rw [Term.langString, ← hd, ← ht]

/-! ## All forms -/

/-- The written form of a legible literal reads as the literal. -/
theorem LegibleLiteral.value (h : LegibleLiteral s src shape l) (hk : s.keywords.check = .ok ())
    (hsrc : src.keywords = s.keywords) (ha : Aliases.ofShape shape s.keywords = .ok a) :
    value s shape path (src.literal shape l) L = .ok ([(.literal l, .empty)], L) := by
  have hlit : ∀ {d}, l.language = none → l.datatype = d → Term.typed l.lexical d = .literal l := by
    rintro d hlang rfl
    rw [Term.typed, ← hlang]
  have hform := literalForm src shape l
  generalize hw : src.literal shape l = w at hform
  cases hform with
  | tagged hlang => exact h.taggedObject hk hsrc ha hlang
  | plain hlang hs =>
    have hstring : Term.string l.lexical = .literal l := hlit hlang hs
    obtain ⟨hut, hprobe⟩ := h.plain hs
    rw [value_string (textTerm_string hut fun d hd => hstring ▸ hprobe d hd), hstring]
  | @boolean b hlang hb hbool =>
    have hterm : Term.boolean b = .literal l := by
      rw [Term.boolean, ← h.boolean hb b hbool]
      exact hlit hlang hb
    show Except.ok ([(Term.boolean b, Graph.empty)], L) = _
    rw [hterm]
  | @number n hlang hd hr he =>
    show Except.ok ([(numberTerm shape n, Graph.empty)], L) = _
    rw [h.number hlang hd hr he]
  | declared hlang hd =>
    have hld : l.datatype ≠ Rdf.langString := by
      intro he
      have hsome := h.tagged_iff.2 he
      rw [hlang] at hsome
      cases hsome
    rw [value_string (textTerm_concrete hd (h.concrete hd) hld), hlit hlang rfl]
  | typed hlang => exact h.typedObject hk hsrc ha hlang hw

/-! ## Texts by language -/

/-- The texts that a table by language holds, as tagged literals. -/
def spoken (entries : List (String × List Json)) : List Term :=
  entries.flatMap fun e => (e.2.filterMap Json.string?).map (Term.langString · e.1)

theorem spoken_cons {e : String × List Json} {entries : List (String × List Json)} :
    spoken (e :: entries) =
      (e.2.filterMap Json.string?).map (Term.langString · e.1) ++ spoken entries :=
  List.flatMap_cons

/-- One more text under its language. -/
def addText (text : String) (texts : Option (List Json)) : List Json :=
  texts.getD [] ++ [.string text]

theorem spoken_alter {tag text : String} {entries : List (String × List Json)} :
    (spoken (Sorted.alter tag (addText text) entries)).Perm
      (spoken entries ++ [.langString text tag]) := by
  induction entries with
  | nil => exact .refl _
  | cons e entries ih =>
    obtain ⟨tag', texts⟩ := e
    unfold Sorted.alter
    split
    · exact (List.perm_append_singleton (Term.langString text tag) _).symm
    · next he =>
      obtain rfl := Std.LawfulEqOrd.eq_of_compare he
      have hadd : (addText text (some texts)).filterMap Json.string? =
          texts.filterMap Json.string? ++ [text] := List.filterMap_append
      rw [spoken_cons, spoken_cons, hadd, List.map_append, List.append_assoc, List.append_assoc]
      exact List.perm_append_comm.append_left _
    · rw [spoken_cons, spoken_cons, List.append_assoc]
      exact ih.append_left _

/-- The entries are texts, under languages that are among the given ones. -/
def TextsOf (tags : List String) (entries : List (String × List Json)) : Prop :=
  ∀ e ∈ entries, e.1 ∈ tags ∧ ∀ j ∈ e.2, ∃ text, j = Json.string text

theorem TextsOf.alter {tags : List String} {tag text : String}
    {entries : List (String × List Json)} (h : TextsOf tags entries) (ht : tag ∈ tags) :
    TextsOf tags (Sorted.alter tag (addText text) entries) := by
  induction entries with
  | nil =>
    intro e he
    rw [Sorted.alter, List.mem_singleton] at he
    subst he
    refine ⟨ht, fun j hj => ⟨text, ?_⟩⟩
    simpa [addText] using hj
  | cons first entries ih =>
    have hfirst := h first List.mem_cons_self
    have hrest : TextsOf tags entries := fun e he => h e (List.mem_cons_of_mem _ he)
    unfold Sorted.alter
    split
    · intro e he
      rcases List.mem_cons.1 he with rfl | he
      · refine ⟨ht, fun j hj => ⟨text, ?_⟩⟩
        simpa [addText] using hj
      · exact h e he
    · intro e he
      rcases List.mem_cons.1 he with rfl | he
      · refine ⟨hfirst.1, fun j hj => ?_⟩
        rcases List.mem_append.1 hj with hj | hj
        · exact hfirst.2 j hj
        · exact ⟨text, List.mem_singleton.1 hj⟩
      · exact hrest e he
    · intro e he
      rcases List.mem_cons.1 he with rfl | he
      · exact hfirst
      · exact ih hrest e he

/-- The literal has a language, and the datatype of tagged texts with it. -/
def IsTaggedText (t : Term) : Prop := ∃ text tag, t = .langString text tag

theorem foldl_byLanguage {vs : List Term} (tags : List String)
    {known : List (String × List Json)} (hv : ∀ v ∈ vs, IsTaggedText v)
    (ht : ∀ v ∈ vs, ∀ tag, v.language = some tag → tag ∈ tags) (hk : TextsOf tags known) :
    let entries := vs.foldl (fun known v =>
      match v.language with
      | some tag => Sorted.alter tag (fun texts => texts.getD [] ++ [.string v.text]) known
      | none => known) known
    TextsOf tags entries ∧ (spoken entries).Perm (spoken known ++ vs) := by
  induction vs generalizing known with
  | nil => exact ⟨hk, by simp⟩
  | cons v vs ih =>
    obtain ⟨text, tag, rfl⟩ := hv v List.mem_cons_self
    have htag : tag ∈ tags := ht _ List.mem_cons_self tag rfl
    obtain ⟨htexts, hspoken⟩ := ih (fun v h => hv v (List.mem_cons_of_mem _ h))
      (fun v h => ht v (List.mem_cons_of_mem _ h)) (hk.alter htag)
    refine ⟨htexts, hspoken.trans ((spoken_alter.append_right vs).trans (.of_eq ?_))⟩
    rw [List.append_assoc]
    rfl

/-- The table by language holds each of the texts once. -/
theorem byLanguage_spec {vs : List Term} (hv : ∀ v ∈ vs, IsTaggedText v) :
    TextsOf (vs.filterMap Term.language) (byLanguage vs) ∧ (spoken (byLanguage vs)).Perm vs :=
  foldl_byLanguage _ hv (fun v hm _ h => List.mem_filterMap.2 ⟨v, hm, h⟩)
    fun _ he => absurd he List.not_mem_nil

/-! ## Reading texts by language -/

/-- Texts of a language are written as an array, or a single one as a plain text. -/
theorem textsOf?_languageTexts {localized : Bool} {texts : List Json}
    (h : ∀ j ∈ texts, ∃ text, j = Json.string text) :
    textsOf? (languageTexts localized texts) = some (texts.filterMap Json.string?) := by
  obtain ⟨words, rfl⟩ : texts ∈ Set.range (List.map Json.string) := by
    rw [Set.range_list_map]
    exact fun j hj => (h j hj).imp fun _ => Eq.symm
  have hwords : (words.map Json.string).filterMap Json.string? = words := by
    rw [List.filterMap_map]
    exact List.filterMap_some
  have harray : textsOf? (.array (words.map .string)) = some words := mapM_string?_iff.2 rfl
  rw [hwords]
  cases localized with
  | true =>
    rcases words with _ | ⟨word, _ | _⟩
    · rfl
    · rfl
    · exact harray
  | false =>
    rcases words with _ | ⟨word, _ | _⟩ <;> exact harray

/-- The texts by language, written as the members of an object, read as the same texts. -/
theorem taggedTexts_ok (path : String) (localized : Bool) {tags : List String}
    {entries : List (String × List Json)} (h : TextsOf tags entries) :
    taggedTexts path (entries.map fun e => (e.1, languageTexts localized e.2)) =
      .ok (spoken entries) := by
  induction entries with
  | nil => rfl
  | cons e entries ih =>
    have hterms : taggedTerms? (e.1, languageTexts localized e.2) =
        some ((e.2.filterMap Json.string?).map (Term.langString · e.1)) :=
      congrArg (Option.map _) (textsOf?_languageTexts (h e List.mem_cons_self).2)
    rw [List.map_cons, taggedTexts_some hterms, ih fun e he => h e (List.mem_cons_of_mem _ he),
      spoken_cons]
    rfl

theorem items_strings {index : Nat} {texts : List String} {f : String → Term}
    (h : ∀ text ∈ texts, textTerm s shape text L = .ok (f text, L)) :
    items s shape path index (texts.map .string) L = .ok (texts.map (f · , .empty), L) := by
  induction texts generalizing index with
  | nil => exact items_nil
  | cons text texts ih =>
    exact items_cons (value_string (h text List.mem_cons_self))
      (ih fun text ht => h text (List.mem_cons_of_mem _ ht))

theorem textTerm_tagged {text tag : String} (ht : shape.isTagged = true)
    (hd : shape.datatype? = none ∨ shape.datatype? = some Rdf.langString)
    (hl : shape.lang? = some tag) : textTerm s shape text L = .ok (.langString text tag, L) := by
  unfold textTerm
  rcases hd with hd | hd
  · simp only [hd, hl, ht, if_true]
    rfl
  · simp only [hd, hl]
    rfl

/-- Texts of one language, written plain, read as themselves. -/
theorem values_plain {f : Field} {vs : List Term} {tag : String} (ht : f.shape.isTagged = true)
    (hd : f.shape.datatype? = none ∨ f.shape.datatype? = some Rdf.langString)
    (hl : f.shape.lang? = some tag) (hv : ∀ v ∈ vs, ∃ text, v = .langString text tag) :
    values s f.shape path (compact f (vs.map fun v => .string v.text)) L =
      .ok (vs.map (·, .empty), L) := by
  have hread : ∀ text, textTerm s f.shape text L = .ok (.langString text tag, L) :=
    fun text => textTerm_tagged ht hd hl
  have hitems : items s f.shape path 0 (vs.map fun v => .string v.text) L =
      .ok (vs.map (·, .empty), L) := by
    have h : items s f.shape path 0 ((vs.map Term.text).map .string) L = .ok
        ((vs.map Term.text).map fun text => (Term.langString text tag, Graph.empty), L) :=
      items_strings fun text _ => hread text
    rw [List.map_map, List.map_map] at h
    refine h.trans (congrArg (fun vs => Except.ok (vs, L)) (List.map_congr_left fun v hm => ?_))
    obtain ⟨text, rfl⟩ := hv v hm
    rfl
  unfold compact
  split
  · next j hj =>
    split
    · obtain ⟨v, rfl, rfl⟩ := List.map_eq_singleton_iff.1 hj
      obtain ⟨text, rfl⟩ := hv v List.mem_cons_self
      have hone : value s f.shape path (.string text) L =
        .ok ([(.langString text tag, .empty)], L) := value_string (hread text)
      exact hone
    · rw [← hj]
      exact hitems
  · exact hitems

/-- A legible literal with a language is a tagged text. -/
theorem LegibleLiteral.taggedText (h : LegibleLiteral s src shape l)
    (hl : l.language.isSome = true) : IsTaggedText (.literal l) := by
  obtain ⟨tag, htag⟩ := Option.isSome_iff_exists.1 hl
  refine ⟨l.lexical, tag, ?_⟩
  rw [Term.langString, ← h.tagged_iff.1 hl, ← htag]

/-- Texts by language read as themselves, in another order. -/
theorem value_languageObject {f : Field} {vs : List Term} (ht : f.shape.isTagged = true)
    (hv : ∀ v ∈ vs, IsTaggedText v)
    (hk : ∀ v ∈ vs, ∀ tag, v.language = some tag → objectKeyword? s a tag = none)
    (ha : Aliases.ofShape f.shape s.keywords = .ok a) :
    ∃ ts : List Term, values s f.shape path (languageObject f vs) L = .ok (ts.map (·, .empty), L) ∧
      ts.Perm vs := by
  obtain ⟨htexts, hspoken⟩ := byLanguage_spec hv
  refine ⟨spoken (byLanguage vs), ?_, hspoken⟩
  refine value_tagged ha (declaredAfter_skip fun m hm => ?_) ht
    (taggedTexts_ok path f.shape.isLocalized htexts)
  obtain ⟨⟨tag, texts⟩, he, rfl⟩ := List.mem_map.1 hm
  obtain ⟨v, hvm, htag⟩ := List.mem_filterMap.1 (htexts _ he).1
  -- a member name is the tag of a value, and those are no keywords
  exact hk v hvm tag htag

theorem taggedValues_of_not_pinned {f : Field} {vs : List Term} (h : ¬ Pinned f.shape vs) :
    taggedValues f vs = languageObject f vs := by
  unfold taggedValues
  cases hlang : f.shape.lang? with
  | none => rfl
  | some tag =>
    refine if_neg fun hall => h ⟨tag, hlang, fun v hm => ?_⟩
    exact beq_iff_eq.1 (List.all_eq_true.1 hall v hm)

/-- Tagged texts of a field read as themselves, in another order. -/
theorem LegibleTexts.values {f : Field} {vs : List Term} (h : LegibleTexts s f.shape vs)
    (ht : f.shape.isTagged = true) (hv : ∀ v ∈ vs, IsTaggedText v)
    (ha : Aliases.ofShape f.shape s.keywords = .ok a) :
    ∃ ts : List Term, values s f.shape path (taggedValues f vs) L = .ok (ts.map (·, .empty), L) ∧
      ts.Perm vs := by
  by_cases hp : Pinned f.shape vs
  · have hdatatype := h.plain hp
    obtain ⟨tag, hlang, hall⟩ := hp
    have hplain : taggedValues f vs = compact f (vs.map fun v => .string v.text) := by
      unfold taggedValues
      rw [hlang]
      exact if_pos (List.all_eq_true.2 fun v hm => beq_iff_eq.2 (hall v hm))
    rw [hplain]
    refine ⟨vs, values_plain ht hdatatype hlang fun v hm => ?_, .refl vs⟩
    obtain ⟨text, tag', rfl⟩ := hv v hm
    cases hall _ hm
    exact ⟨text, rfl⟩
  · rw [taggedValues_of_not_pinned hp]
    exact value_languageObject ht hv (h.byLanguage hp a ha) ha

end LinkedShapes.Description
