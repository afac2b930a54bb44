import LinkedShapes.Proofs.Description.Alike

/-!
# Reading members in another order

The members of a description may be written in any order. Objects may spell a keyword twice, if
both values agree; reading then goes by the first of them. Values agree if they resolve to the same
identifier or are equal numbers, but this is not all that reading looks at: a text with the mark of
blank nodes is no identifier where a resource is named, and equal numbers may be written
differently. Where no such values meet, the order of members does not matter.

* `declared_iff`: the keywords of an object are found if any two members for one of them agree.
* `exists_lookup`: what is found for a keyword in another order agrees with what was found.
* `decode_shuffled`: members in another order make isomorphic graphs.
* `decode_shuffled_apart`: values that agree and are read as different literals.
-/

namespace LinkedShapes.Description

open Vocabulary

variable {s : Setting} {shape : Shape} {a : Aliases} {path path' keyword : String}
variable {x y z x' : Json} {members others found found' : List (String × Json)}

/-! ## Values that agree -/

/-- Two values of a keyword agree, the order of members in them aside. -/
def Coincide (s : Setting) (keyword : String) (x y : Json) : Prop :=
  (∃ text text', x = .string text ∧ y = .string text' ∧ (text = text' ∨
    (keyword = Keyword.id ∨ keyword = Keyword.type) ∧
      Iri.resolve s.focus text = Iri.resolve s.focus text')) ∨
  Json.Reordered (fun m n => m.same n = true) x y

theorem sameKeywordValue_iff (hx : x.HasDistinctNames) (hy : y.HasDistinctNames) :
    sameKeywordValue s keyword x y = true ↔ Coincide s keyword x y := by
  unfold sameKeywordValue Coincide
  split
  · next text text' =>
    have hstrings : Json.Reordered (fun m n => m.same n = true) (.string text) (.string text') →
        text = text' := by
      rintro (_ | _)
      rfl
    simp only [Bool.or_eq_true, beq_iff_eq, Bool.and_eq_true, Json.string.injEq]
    constructor
    · exact fun h => Or.inl ⟨text, text', rfl, rfl, h⟩
    · rintro (⟨_, _, rfl, rfl, h⟩ | h)
      · exact h
      · exact Or.inl (hstrings h)
  · next hne =>
    rw [Json.same_iff hx hy]
    refine (or_iff_right ?_).symm
    rintro ⟨text, text', rfl, rfl, -⟩
    exact hne text text' rfl rfl

theorem Coincide.symm (h : Coincide s keyword x y) : Coincide s keyword y x := by
  rcases h with ⟨text, text', rfl, rfl, h⟩ | h
  · exact Or.inl ⟨text', text, rfl, rfl, h.imp Eq.symm (And.imp_right Eq.symm)⟩
  · exact Or.inr (h.symm fun _ _ => Json.Number.same_symm)

theorem Coincide.trans (h : Coincide s keyword x y) (h' : Coincide s keyword y z) :
    Coincide s keyword x z := by
  rcases h with ⟨text, text', rfl, rfl, h⟩ | h
  · rcases h' with ⟨text₂, text₃, heq, rfl, h'⟩ | h'
    · cases heq
      refine Or.inl ⟨text, text₃, rfl, rfl, ?_⟩
      rcases h with rfl | ⟨hk, h⟩
      · exact h'
      · rcases h' with rfl | ⟨-, h'⟩
        · exact Or.inr ⟨hk, h⟩
        · exact Or.inr ⟨hk, h.trans h'⟩
    · cases h'
      exact Or.inl ⟨text, text', rfl, rfl, h⟩
  · rcases h' with ⟨text, text', rfl, rfl, h'⟩ | h'
    · cases h
      exact Or.inl ⟨text, text', rfl, rfl, h'⟩
    · exact Or.inr ((h.comp h').mono fun m n ⟨_, h, h'⟩ => Json.Number.same_trans h h')

/-- Whether values agree does not depend on the order of members in them. -/
theorem Coincide.shuffled (h : Coincide s keyword x y) (hx : x.Shuffled x') :
    Coincide s keyword x' y := by
  rcases h with ⟨text, text', rfl, rfl, h⟩ | h
  · cases hx
    exact Or.inl ⟨text, text', rfl, rfl, h⟩
  · refine Or.inr (((hx.symm fun _ _ => Eq.symm).comp h).mono ?_)
    rintro m n ⟨_, rfl, h⟩
    exact h

/-! ## Keywords of an object -/

/-- The members of an object that are for keywords, under the keywords. -/
def keyed (s : Setting) (a : Aliases) (members : List (String × Json)) : List (String × Json) :=
  members.filterMap fun m => (objectKeyword? s a m.1).map (·, m.2)

/-- Members of one keyword have values that agree. -/
def CoincideIfSame (s : Setting) (m n : String × Json) : Prop := m.1 = n.1 → Coincide s m.1 m.2 n.2

theorem coincideIfSame_symm {m n : String × Json} (h : CoincideIfSame s m n) :
    CoincideIfSame s n m :=
  fun heq => heq ▸ (h heq.symm).symm

/-- Values of keywords agree with those found before, and with one another. -/
structure AllCoincide (s : Setting) (found members : List (String × Json)) : Prop where
  before : ∀ keyword first, Json.lookup keyword found = some first →
    ∀ y, (keyword, y) ∈ members → Coincide s keyword first y
  pairs : members.Pairwise (CoincideIfSame s)

theorem lookup_append {name : String} : Json.lookup name (found ++ members) =
    (Json.lookup name found).or (Json.lookup name members) := by
  induction found with
  | nil => rfl
  | cons m found ih =>
    obtain ⟨n, v⟩ := m
    rw [List.cons_append, Json.lookup, Json.lookup]
    by_cases hn : n = name
    · simp only [hn, if_true, Option.some_or]
    · simp only [hn, if_false, ih]

theorem lookup_singleton {name name' : String} : Json.lookup name [(name', x)] =
    if name' = name then some x else none := rfl

theorem allCoincide_cons_new (hf : Json.lookup keyword found = none) :
    AllCoincide s found ((keyword, x) :: members) ↔
      AllCoincide s (found ++ [(keyword, x)]) members := by
  constructor
  · rintro ⟨hbefore, hpairs⟩
    obtain ⟨hfirst, hpairs⟩ := List.pairwise_cons.1 hpairs
    refine ⟨fun keyword' first hl y hy => ?_, hpairs⟩
    rw [lookup_append, Option.or_eq_some_iff] at hl
    rcases hl with hl | ⟨-, hl⟩
    · exact hbefore keyword' first hl y (List.mem_cons_of_mem _ hy)
    · rw [lookup_singleton] at hl
      split at hl
      · next heq =>
        cases heq
        cases hl
        exact hfirst _ hy rfl
      · cases hl
  · rintro ⟨hbefore, hpairs⟩
    refine ⟨fun keyword' first hl y hy => ?_, List.pairwise_cons.2 ⟨fun m hm heq => ?_, hpairs⟩⟩
    · rcases List.mem_cons.1 hy with heq | hy
      · cases heq
        rw [hf] at hl
        cases hl
      · exact hbefore keyword' first (by rw [lookup_append, hl]; rfl) y hy
    · obtain ⟨keyword', y⟩ := m
      obtain rfl : keyword = keyword' := heq
      refine hbefore keyword x ?_ y hm
      rw [lookup_append, hf, lookup_singleton, if_pos rfl]
      rfl

theorem allCoincide_cons_old {first : Json} (hf : Json.lookup keyword found = some first)
    (hx : Coincide s keyword first x) :
    AllCoincide s found ((keyword, x) :: members) ↔ AllCoincide s found members := by
  constructor
  · rintro ⟨hbefore, hpairs⟩
    exact ⟨fun keyword' first hl y hy => hbefore keyword' first hl y (List.mem_cons_of_mem _ hy),
      (List.pairwise_cons.1 hpairs).2⟩
  · rintro ⟨hbefore, hpairs⟩
    refine ⟨fun keyword' first' hl y hy => ?_, List.pairwise_cons.2 ⟨fun m hm heq => ?_, hpairs⟩⟩
    · rcases List.mem_cons.1 hy with heq | hy
      · cases heq
        rw [hf] at hl
        cases hl
        exact hx
      · exact hbefore keyword' first' hl y hy
    · obtain ⟨keyword', y⟩ := m
      obtain rfl : keyword = keyword' := heq
      exact hx.symm.trans (hbefore keyword first hf y hm)

theorem keyed_cons : keyed s a ((keyword, x) :: members) =
    ((objectKeyword? s a keyword).map (·, x)).toList ++ keyed s a members := by
  unfold keyed
  rw [List.filterMap_cons]
  cases objectKeyword? s a keyword <;> rfl

/-- The keywords of an object are found if all values for one of them agree. -/
theorem declaredAfter_iff (hf : ∀ m ∈ found, m.2.HasDistinctNames)
    (hm : ∀ m ∈ members, m.2.HasDistinctNames) :
    (∃ found', declaredAfter s a found members = .ok found') ↔
      AllCoincide s found (keyed s a members) := by
  induction members generalizing found with
  | nil =>
    refine iff_of_true ⟨found, rfl⟩ ⟨fun _ _ _ _ hy => absurd hy List.not_mem_nil, .nil⟩
  | cons m members ih =>
    obtain ⟨name, x⟩ := m
    obtain ⟨hx, hm⟩ := List.forall_mem_cons.1 hm
    rw [declaredAfter, keyed_cons]
    cases hk : objectKeyword? s a name with
    | none => exact ih hf hm
    | some keyword =>
      rw [Option.map_some, Option.toList_some, List.singleton_append]
      -- the first value for a keyword is kept, and each later one is compared with it
      cases hl : Json.lookup keyword found with
      | none =>
        simp only [hl]
        rw [allCoincide_cons_new hl]
        exact ih (List.forall_mem_append.2 ⟨hf, List.forall_mem_singleton.2 hx⟩) hm
      | some first =>
        simp only [hl]
        have hiff : sameKeywordValue s keyword first x = true ↔ Coincide s keyword first x :=
          sameKeywordValue_iff (hf _ (mem_of_lookup_json hl)) hx
        by_cases hs : sameKeywordValue s keyword first x = true
        · rw [if_pos hs, allCoincide_cons_old hl (hiff.1 hs)]
          exact ih hf hm
        · rw [if_neg hs]
          refine iff_of_false (by rintro ⟨_, ⟨⟩⟩) fun h => hs (hiff.2 ?_)
          exact h.before keyword first hl x List.mem_cons_self

/-- What is found for a keyword is the value of the first of its members. -/
theorem lookup_of_declaredAfter (h : declaredAfter s a found members = .ok found') :
    Json.lookup keyword found' =
      (Json.lookup keyword found).or (Json.lookup keyword (keyed s a members)) := by
  induction members generalizing found with
  | nil =>
    cases h
    exact Option.or_none.symm
  | cons m members ih =>
    obtain ⟨name, x⟩ := m
    rw [declaredAfter] at h
    rw [keyed_cons, lookup_append]
    cases hk : objectKeyword? s a name with
    | none =>
      simp only [hk] at h
      exact ih h
    | some keyword' =>
      simp only [hk] at h
      rw [Option.map_some, Option.toList_some, lookup_singleton]
      cases hl : Json.lookup keyword' found with
      | none =>
        simp only [hl] at h
        rw [ih h, lookup_append, lookup_singleton, Option.or_assoc]
      | some first =>
        simp only [hl] at h
        split at h
        · rw [ih h]
          by_cases heq : keyword' = keyword
          · rw [← heq, hl]
            rfl
          · rw [if_neg heq, Option.none_or]
        · cases h

theorem declared_iff (hm : ∀ m ∈ members, m.2.HasDistinctNames) :
    (∃ found, declared s a members = .ok found) ↔
      (keyed s a members).Pairwise (CoincideIfSame s) := by
  unfold declared
  rw [declaredAfter_iff (fun _ hm => absurd hm List.not_mem_nil) hm]
  exact ⟨AllCoincide.pairs, fun h => ⟨nofun, h⟩⟩

theorem lookup_of_declared (h : declared s a members = .ok found) :
    Json.lookup keyword found = Json.lookup keyword (keyed s a members) :=
  lookup_of_declaredAfter h

theorem mem_keyed : (keyword, x) ∈ keyed s a members ↔
    ∃ name, (name, x) ∈ members ∧ objectKeyword? s a name = some keyword := by
  unfold keyed
  rw [List.mem_filterMap]
  constructor
  · rintro ⟨⟨name, y⟩, hm, heq⟩
    obtain ⟨keyword', hk, heq⟩ := Option.map_eq_some_iff.1 heq
    cases heq
    exact ⟨name, hm, hk⟩
  · rintro ⟨name, hm, hk⟩
    exact ⟨(name, x), hm, by rw [hk]; rfl⟩

theorem exists_lookup_of_mem (h : (keyword, x) ∈ members) :
    ∃ y, Json.lookup keyword members = some y := by
  induction members with
  | nil => exact absurd h List.not_mem_nil
  | cons m members ih =>
    obtain ⟨name, y⟩ := m
    rw [Json.lookup]
    split
    · exact ⟨y, rfl⟩
    · next hne =>
      rcases List.mem_cons.1 h with heq | h
      · cases heq
        exact absurd rfl hne
      · exact ih h

/-! ## Keywords in another order -/

theorem pairwise_of_forall₂ {α β : Type} {R : α → β → Prop} {P : α → α → Prop} {Q : β → β → Prop}
    {xs : List α} {ys : List β} (hr : ∀ x y x' y', R x x' → R y y' → P x y → Q x' y')
    (h : List.Forall₂ R xs ys) (hp : xs.Pairwise P) : ys.Pairwise Q := by
  induction h with
  | nil => exact .nil
  | cons hxy hxs ih =>
    obtain ⟨hfirst, hrest⟩ := List.pairwise_cons.1 hp
    refine List.pairwise_cons.2 ⟨fun y' hy' => ?_, ih hrest⟩
    obtain ⟨x', hx', hxy'⟩ := (Json.exists_of_forall₂ hxs).2 y' hy'
    exact hr _ _ _ _ hxy hxy' (hfirst x' hx')

/-- The values that are found for a keyword on either side: none, or one each, where the second
one is that of a member which agrees with the first. -/
inductive FoundAlike (s : Setting) (keyed : List (String × Json)) (keyword : String) :
    Option Json → Option Json → Prop
  | missing : FoundAlike s keyed keyword none none
  | found {x y z : Json} : (keyword, x) ∈ keyed → (keyword, y) ∈ keyed →
      (y = x ∨ Coincide s keyword x y) → y.Shuffled z → FoundAlike s keyed keyword (some x) (some z)

section Shuffled

variable {mid : List (String × Json)}

theorem keyed_shuffled (h : List.Forall₂ (Json.Named Json.Shuffled) mid others) :
    List.Forall₂ (Json.Named Json.Shuffled) (keyed s a mid) (keyed s a others) := by
  induction h with
  | nil => exact .nil
  | @cons m n mid others hmn _ ih =>
    obtain ⟨name, x⟩ := m
    obtain ⟨name', y⟩ := n
    obtain rfl : name' = name := hmn.name_eq
    rw [keyed_cons, keyed_cons]
    cases objectKeyword? s a name' with
    | none => exact ih
    | some keyword => exact .cons (.mk hmn.value) ih

theorem exists_keyed (hp : members.Perm mid)
    (h : List.Forall₂ (Json.Named Json.Shuffled) mid others) :
    (∀ keyword x, (keyword, x) ∈ keyed s a members →
        ∃ y, (keyword, y) ∈ keyed s a others ∧ x.Shuffled y) ∧
      ∀ keyword y, (keyword, y) ∈ keyed s a others →
        ∃ x, (keyword, x) ∈ keyed s a members ∧ x.Shuffled y := by
  have hperm : (keyed s a members).Perm (keyed s a mid) := hp.filterMap _
  obtain ⟨hleft, hright⟩ := Json.exists_of_forall₂ (keyed_shuffled (s := s) (a := a) h)
  refine ⟨fun keyword x hx => ?_, fun keyword y hy => ?_⟩
  · obtain ⟨⟨keyword', y⟩, hy, hxy⟩ := hleft _ (hperm.mem_iff.1 hx)
    obtain rfl : keyword' = keyword := hxy.name_eq
    exact ⟨y, hy, hxy.value⟩
  · obtain ⟨⟨keyword', x⟩, hx, hxy⟩ := hright _ hy
    obtain rfl : keyword = keyword' := hxy.name_eq
    exact ⟨x, hperm.mem_iff.2 hx, hxy.value⟩

/-- Keywords of members in another order are found if they are found in one order. -/
theorem declared_shuffled (hm : ∀ m ∈ members, m.2.HasDistinctNames) (hp : members.Perm mid)
    (h : List.Forall₂ (Json.Named Json.Shuffled) mid others)
    (hd : declared s a members = .ok found) : ∃ found', declared s a others = .ok found' := by
  have hmid : ∀ m ∈ mid, m.2.HasDistinctNames := fun m hmem => hm m (hp.mem_iff.2 hmem)
  have hothers : ∀ m ∈ others, m.2.HasDistinctNames := by
    intro n hn
    obtain ⟨m, hmem, hmn⟩ := (Json.exists_of_forall₂ h).2 n hn
    exact (hmid m hmem).reordered hmn.value
  have hpairs := (declared_iff hm).1 ⟨found, hd⟩
  have hperm : (keyed s a members).Perm (keyed s a mid) := hp.filterMap _
  rw [hperm.pairwise_iff coincideIfSame_symm] at hpairs
  refine (declared_iff hothers).2 ?_
  refine pairwise_of_forall₂ (fun m n m' n' hmm hnn hmn heq => ?_) (keyed_shuffled h) hpairs
  rw [hmm.name_eq, hnn.name_eq] at heq
  rw [hmm.name_eq]
  exact ((hmn heq).shuffled hmm.value).symm.shuffled hnn.value |>.symm

/-- What is found for a keyword in another order agrees with what was found. -/
theorem exists_lookup (hm : ∀ m ∈ members, m.2.HasDistinctNames) (hp : members.Perm mid)
    (h : List.Forall₂ (Json.Named Json.Shuffled) mid others)
    (hd : declared s a members = .ok found) (hd' : declared s a others = .ok found')
    (keyword : String) : FoundAlike s (keyed s a members) keyword (Json.lookup keyword found)
      (Json.lookup keyword found') := by
  rw [lookup_of_declared hd, lookup_of_declared hd']
  obtain ⟨hleft, hright⟩ := exists_keyed (s := s) (a := a) hp h
  cases hl : Json.lookup keyword (keyed s a members) with
  | none =>
    cases hl' : Json.lookup keyword (keyed s a others) with
    | none => exact .missing
    | some z =>
      obtain ⟨y, hy, -⟩ := hright keyword z (mem_of_lookup_json hl')
      obtain ⟨x, hx⟩ := exists_lookup_of_mem hy
      rw [hl] at hx
      cases hx
  | some x =>
    have hx := mem_of_lookup_json hl
    obtain ⟨y, hy, -⟩ := hleft keyword x hx
    obtain ⟨z, hz⟩ := exists_lookup_of_mem hy
    obtain ⟨y, hy, hyz⟩ := hright keyword z (mem_of_lookup_json hz)
    rw [hz]
    refine .found hx hy ?_ hyz
    by_cases heq : (keyword, y) = (keyword, x)
    · exact Or.inl (Prod.ext_iff.1 heq).2
    · have hsymm : Std.Symm (CoincideIfSame s) := ⟨fun _ _ => coincideIfSame_symm⟩
      exact Or.inr (((declared_iff hm).1 ⟨found, hd⟩).forall hx hy (Ne.symm heq) rfl)

end Shuffled

/-! ## Objects in another order -/

/-- Is a text that names a resource read as an identifier? -/
def IsAddress (text : String) : Prop := text ≠ "" ∧ hasMark text = false

theorem resource_of_isAddress {text : String} (h : IsAddress text) :
    resource s text = pure (.iri (Iri.resolve s.focus text)) := by
  refine if_neg ?_
  rintro (he | hm)
  · exact h.1 he
  · rw [h.2] at hm
    cases hm

/-- Two values of a keyword that agree are read alike: texts for one identifier are the same, or
both identifiers, and equal numbers are the same. -/
def ReadSame (s : Setting) (keyword? : Option String) : Json → Json → Prop
  | .string text, .string text' => keyword? = some Keyword.id →
    Iri.resolve s.focus text = Iri.resolve s.focus text' →
      text = text' ∨ IsAddress text ∧ IsAddress text'
  | .number m, .number n => keyword? = some Keyword.value → m.same n = true → m = n
  | _, _ => True

/-- Where an object spells a keyword twice, values that agree are read alike. -/
def Settled (s : Setting) (members : List (String × Json)) : Prop :=
  ∀ m ∈ members, ∀ n ∈ members, s.keywords.keyword? m.1 = s.keywords.keyword? n.1 →
    ReadSame s (s.keywords.keyword? m.1) m.2 n.2

instance {text : String} : Decidable (IsAddress text) := inferInstanceAs (Decidable (_ ∧ _))

instance {keyword? : Option String} : Decidable (ReadSame s keyword? x y) := by
  unfold ReadSame
  split <;> infer_instance

instance : Decidable (Settled s members) :=
  inferInstanceAs (Decidable (∀ m ∈ members, ∀ n ∈ members, _ → _))

theorem keyword?_of_objectKeyword? {name : String} (h : objectKeyword? s a name = some keyword) :
    s.keywords.keyword? name = some keyword := by
  unfold objectKeyword? at h
  split at h
  · cases h
  · exact (Option.filter_eq_some_iff.1 h).1

theorem Settled.keyed (h : Settled s members) (hx : (keyword, x) ∈ keyed s a members)
    (hy : (keyword, y) ∈ keyed s a members) : ReadSame s (some keyword) x y := by
  obtain ⟨name, hm, hk⟩ := mem_keyed.1 hx
  obtain ⟨name', hn, hk'⟩ := mem_keyed.1 hy
  have hk := keyword?_of_objectKeyword? hk
  have hk' := keyword?_of_objectKeyword? hk'
  have hread := h _ hm _ hn (hk.trans hk'.symm)
  rwa [hk] at hread

section FoundAlike

variable {pairs : List (String × Json)} {text : String} {o o' : Option Json}

/-- Where a text was found, a text that agrees is found. -/
theorem FoundAlike.exists_text (h : FoundAlike s pairs keyword (some (.string text)) o') :
    (keyword, .string text) ∈ pairs ∧ ∃ text', o' = some (.string text') ∧
      (keyword, .string text') ∈ pairs ∧ (text = text' ∨
        (keyword = Keyword.id ∨ keyword = Keyword.type) ∧
          Iri.resolve s.focus text = Iri.resolve s.focus text') := by
  cases h with
  | @found _ y z hx hy hxy hyz =>
    refine ⟨hx, ?_⟩
    rcases hxy with rfl | ⟨text₁, text', heq, rfl, hxy⟩ | hxy
    · cases hyz
      exact ⟨text, rfl, hx, Or.inl rfl⟩
    · cases heq
      cases hyz
      exact ⟨text', rfl, hy, hxy⟩
    · cases hxy
      cases hyz
      exact ⟨text, rfl, hx, Or.inl rfl⟩

/-- Where something else than a text was found, something else is found. -/
theorem FoundAlike.not_text (h : FoundAlike s pairs keyword (some x) o')
    (hx : ∀ text, x ≠ .string text) : ∃ z, o' = some z ∧ ∀ text, z ≠ .string text := by
  cases h with
  | @found _ y z _ _ hxy hyz =>
    refine ⟨z, rfl, ?_⟩
    rintro text rfl
    cases hyz
    rcases hxy with rfl | ⟨text₁, _, rfl, -⟩ | hxy
    · exact hx text rfl
    · exact hx text₁ rfl
    · cases hxy
      exact hx text rfl

theorem FoundAlike.isSome_eq (h : FoundAlike s pairs keyword o o') : o'.isSome = o.isSome := by
  cases h <;> rfl

theorem keywordText_error (hx : ∀ text, x ≠ .string text) :
    keywordText keyword x = .error (.malformedKeyword keyword) := by
  cases x with
  | string text => exact absurd rfl (hx text)
  | _ => rfl

/-- A text for a keyword but for identifiers and types is found again. -/
theorem FoundAlike.exists_keywordText (h : FoundAlike s pairs keyword (some x) o')
    (ht : keywordText keyword x = .ok text) : ∃ z text', o' = some z ∧
      keywordText keyword z = .ok text' ∧ (text = text' ∨
        (keyword = Keyword.id ∨ keyword = Keyword.type) ∧
          Iri.resolve s.focus text = Iri.resolve s.focus text') := by
  cases x with
  | string _ =>
    cases ht
    obtain ⟨-, text', rfl, -, hor⟩ := h.exists_text
    exact ⟨_, text', rfl, rfl, hor⟩
  | _ => cases ht

end FoundAlike

section Objects

variable {mid : List (String × Json)} {ts : List Term} {t : Term}

/-- The resource that an object names does not depend on the order of its members. -/
theorem namedResource_alike (hs : Settled s members)
    (h : FoundAlike s (keyed s a members) Keyword.id (Json.lookup Keyword.id found)
      (Json.lookup Keyword.id found')) : namedResource s found' = namedResource s found := by
  unfold namedResource
  cases hl : Json.lookup Keyword.id found with
  | none =>
    rw [hl] at h
    generalize Json.lookup Keyword.id found' = o' at h
    cases h
    rfl
  | some x =>
    rw [hl] at h
    by_cases hx : ∃ text, x = .string text
    · obtain ⟨text, rfl⟩ := hx
      obtain ⟨hmem, text', hl', hmem', hor⟩ := h.exists_text
      rw [hl']
      show resource s text' = resource s text
      have hsame : text = text' ∨ Iri.resolve s.focus text = Iri.resolve s.focus text' :=
        hor.imp id And.right
      rcases hsame with rfl | he
      · rfl
      · rcases hs.keyed hmem hmem' rfl he with rfl | ⟨ha, ha'⟩
        · rfl
        · rw [resource_of_isAddress ha, resource_of_isAddress ha', he]
    · obtain ⟨z, hl', hz⟩ := h.not_text (fun text heq => hx ⟨text, heq⟩)
      rw [hl']
      dsimp only
      rw [keywordText_error hz, keywordText_error fun text heq => hx ⟨text, heq⟩]

/-- The value of a value object is found again. -/
theorem value_found (hs : Settled s members)
    (h : FoundAlike s (keyed s a members) Keyword.value (some x) (Json.lookup Keyword.value found'))
    (hx : ∀ xs, x ≠ .array xs) (hx' : ∀ members, x ≠ .object members) :
    Json.lookup Keyword.value found' = some x := by
  generalize Json.lookup Keyword.value found' = o' at h
  cases h with
  | @found _ y z hmem hmem' hxy hyz =>
    have heq : y = x := by
      rcases hxy with rfl | ⟨text, text', rfl, rfl, rfl | ⟨hk | hk, -⟩⟩ | hxy
      · rfl
      · rfl
      · exact absurd hk (by decide)
      · exact absurd hk (by decide)
      · cases hxy with
        | null | bool | string => rfl
        | number hmn => rw [hs.keyed hmem hmem' rfl hmn]
        | array => exact absurd rfl (hx _)
        | object => exact absurd rfl (hx' _)
    subst heq
    cases hyz with
    | number hmn => rw [hmn]
    | null | bool | string => rfl
    | array => exact absurd rfl (hx _)
    | object => exact absurd rfl (hx' _)

theorem find?_isNone_keyword? (h : ∀ m ∈ members, (s.keywords.keyword? m.1).isSome = true) :
    (members.find? fun m => (s.keywords.keyword? m.1).isNone) = none := by
  refine List.find?_eq_none.2 fun m hm => ?_
  rw [Option.isNone_iff_eq_none, ← ne_eq, ← Option.isSome_iff_ne_none]
  exact h m hm

/-- The literal that a value and its text stand for, given what is found for type and language. -/
def literalOf (s : Setting) (shape : Shape) (value : Json) (lexical : String)
    (type? language? : Option Json) : Except DecodeError Term :=
  match type? with
  | some type => do return .typed lexical (Iri.resolve s.focus (← keywordText Keyword.type type))
  | none =>
    match language? with
    | some language => do return .langString lexical (← keywordText Keyword.language language)
    | none => .ok <| match value with
      | .bool b => .boolean b
      | .number n => numberTerm shape n
      | _ => valueText shape lexical

theorem valueObject_eq (h : ∀ m ∈ members, (s.keywords.keyword? m.1).isSome = true) :
    valueObject s shape members found x path =
      (match x with
        | .string text => .ok text
        | .bool _ | .number _ => .ok x.text
        | _ => .error (unexpected path x)) >>= fun lexical =>
          literalOf s shape x lexical (Json.lookup Keyword.type found)
            (Json.lookup Keyword.language found) := by
  unfold valueObject literalOf
  simp only [find?_isNone_keyword? h]
  cases x <;> cases Json.lookup Keyword.type found <;>
    cases Json.lookup Keyword.language found <;> rfl

/-- What is found for type and language matters up to resolution of the type. -/
theorem literalOf_alike {pairs : List (String × Json)} {lexical : String}
    {type? type?' language? language?' : Option Json}
    (hty : FoundAlike s pairs Keyword.type type? type?')
    (hla : FoundAlike s pairs Keyword.language language? language?')
    (ht : literalOf s shape x lexical type? language? = .ok t) :
    literalOf s shape x lexical type?' language?' = .ok t := by
  unfold literalOf at ht ⊢
  cases type? with
  | some type =>
    obtain ⟨text, hkt, ht⟩ := ok_of_bind ht
    cases ht
    obtain ⟨z, text', rfl, hz, hor⟩ := hty.exists_keywordText hkt
    have he : Iri.resolve s.focus text' = Iri.resolve s.focus text := by
      rcases hor with rfl | ⟨-, he⟩
      · rfl
      · exact he.symm
    dsimp only
    rw [hz, ← he]
    rfl
  | none =>
    cases hty
    cases language? with
    | some language =>
      obtain ⟨text, hkl, ht⟩ := ok_of_bind ht
      cases ht
      obtain ⟨z, text', rfl, hz, hor⟩ := hla.exists_keywordText hkl
      obtain rfl : text = text' := hor.resolve_right fun ⟨hk, _⟩ => by
        revert hk
        decide
      dsimp only
      rw [hz]
      rfl
    | none =>
      cases hla
      exact ht

/-- The literal of a value object does not depend on the order of its members. -/
theorem valueObject_alike (hs : Settled s members) (hp : members.Perm mid)
    (hall : List.Forall₂ (Json.Named Json.Shuffled) mid others)
    (h : ∀ keyword, FoundAlike s (keyed s a members) keyword (Json.lookup keyword found)
      (Json.lookup keyword found')) (hl : Json.lookup Keyword.value found = some x)
    (ht : valueObject s shape members found x path = .ok t) :
    Json.lookup Keyword.value found' = some x ∧
      valueObject s shape others found' x path' = .ok t := by
  have hknown := (valueObject_spec ht).2.1
  have hknown' : ∀ m ∈ others, (s.keywords.keyword? m.1).isSome = true := by
    intro n hn
    obtain ⟨m, hm, hmn⟩ := (Json.exists_of_forall₂ hall).2 n hn
    rw [hmn.name_eq]
    exact hknown m (hp.mem_iff.2 hm)
  have hfound := value_found hs (hl ▸ h Keyword.value)
  rw [valueObject_eq hknown] at ht
  rw [valueObject_eq hknown']
  obtain ⟨lexical, hlexical, ht⟩ := ok_of_bind ht
  have ht' := literalOf_alike (h Keyword.type) (h Keyword.language) ht
  cases x with
  | string _ | bool _ | number _ =>
    cases hlexical
    exact ⟨hfound nofun nofun, ht'⟩
  | null | array _ | object _ => cases hlexical

theorem textsOf?_shuffled {texts : List String} (h : textsOf? x = some texts) (hxy : x.Shuffled y) :
    y = x := by
  cases hxy with
  | array hxs =>
    obtain rfl := mapM_string?_iff.1 h
    rw [List.forall₂_map_left_iff] at hxs
    refine congrArg Json.array (List.forall₂_eq_eq_eq ▸ ?_)
    rw [List.forall₂_map_right_iff]
    refine List.Forall₂.flip (hxs.imp fun text y hy => ?_)
    cases hy
    rfl
  | string => rfl
  | null => rfl
  | bool | number _ | object _ _ => cases h

theorem typeTexts_shuffled {texts : List String} (h : typeTexts x = .ok texts)
    (hxy : x.Shuffled y) : y = x := by
  have htext : ∀ x text, keywordText Keyword.type x = .ok text → ∃ text, x = .string text := by
    intro x text hx
    cases x with
    | string text => exact ⟨text, rfl⟩
    | _ => cases hx
  obtain ⟨texts, ht⟩ := texts_of_mapM htext h
  cases hxy with
  | array hxs =>
    exact textsOf?_shuffled (x := .array _) (mapM_string?_iff.2 ht) (.array hxs)
  | string => rfl
  | null => rfl
  | bool | number _ | object _ _ =>
    cases texts <;> cases ht

/-- Literals of an object do not depend on the order of its members. -/
theorem literals_alike (hs : Settled s members) (hp : members.Perm mid)
    (hall : List.Forall₂ (Json.Named Json.Shuffled) mid others)
    (h : ∀ keyword, FoundAlike s (keyed s a members) keyword (Json.lookup keyword found)
      (Json.lookup keyword found')) (hts : literals s shape members found path = .ok ts) :
    ∃ us, literals s shape others found' path' = .ok us ∧ ∀ t, t ∈ us ↔ t ∈ ts := by
  cases hl : Json.lookup Keyword.value found with
  | some x =>
    rw [literals_of_value hl] at hts
    cases ht : valueObject s shape members found x path with
    | error fault =>
      rw [ht] at hts
      cases hts
    | ok t =>
      rw [ht] at hts
      cases hts
      have halike : Json.lookup Keyword.value found' = some x ∧
          valueObject s shape others found' x path' = .ok t := valueObject_alike hs hp hall h hl ht
      obtain ⟨hl', ht'⟩ := halike
      refine ⟨[t], ?_, fun _ => Iff.rfl⟩
      rw [literals_of_value hl', ht']
      rfl
  | none =>
    have hl' := h Keyword.value
    rw [hl] at hl'
    generalize hval : Json.lookup Keyword.value found' = o' at hl'
    cases hl'
    rw [literals_of_tagged hl] at hts
    rw [literals_of_tagged hval]
    refine taggedTexts_alike hp (hall.imp fun m m' hmm us hus => ?_) hts
    obtain ⟨texts, htexts, -⟩ := Option.map_eq_some_iff.1 hus
    have heq : m' = m := Prod.ext hmm.name_eq (textsOf?_shuffled htexts hmm.value)
    exact ⟨us, heq ▸ hus, fun _ => Iff.rfl⟩

/-! ## Descriptions in another order -/

theorem isEmpty_congr (h : ∀ keyword, (Json.lookup keyword found').isSome =
    (Json.lookup keyword found).isSome) : found'.isEmpty = found.isEmpty := by
  have hsome : ∀ m : String × Json, ∀ ms, (Json.lookup m.1 (m :: ms)).isSome = true := by
    intro m ms
    rw [Json.lookup, if_pos rfl]
    rfl
  cases found with
  | nil =>
    cases found' with
    | nil => rfl
    | cons m ms =>
      have hm := h m.1
      rw [hsome] at hm
      cases hm
  | cons m ms =>
    cases found' with
    | nil =>
      have hm := h m.1
      rw [hsome] at hm
      cases hm
    | cons _ _ => rfl

/-- Values that differ in the order of members, which does not matter. -/
def ShuffledSettled (s : Setting) (x y : Json) : Prop :=
  x.Shuffled y ∧ x.HasDistinctNames ∧ ∀ members ∈ x.objects, Settled s members

theorem ShuffledSettled.item {xs : List Json} (hxy : x.Shuffled y) (hx : x ∈ xs)
    (h : Json.HasDistinctNames (.array xs))
    (hs : ∀ members ∈ Json.objects (.array xs), Settled s members) : ShuffledSettled s x y := by
  refine ⟨hxy, h.item hx, fun members hm => hs members ?_⟩
  rw [Json.objects]
  exact Json.mem_itemObjects.2 ⟨x, hx, hm⟩

/-- Members in another order are alike. -/
theorem memberAlike_shuffled {m m' : String × Json} (h : Json.Named Json.Shuffled m m')
    (hd : m.2.HasDistinctNames) (hs : ∀ members ∈ m.2.objects, Settled s members) :
    MemberAlike s (fun _ => ShuffledSettled s) a m m' where
  name := h.name_eq
  values f _ := by
    have hxy := h.value
    generalize m.2 = x at hxy hd hs
    generalize m'.2 = y at hxy
    cases hxy with
    | @array xs ys hxs =>
      refine .array (.refl _) (Json.forall₂_imp_of_mem (fun x hx y _ hxy => ?_) hxs)
      exact .item hxy hx hd hs
    | null => exact .alone nofun nofun ⟨.null, hd, hs⟩
    | bool => exact .alone nofun nofun ⟨.bool, hd, hs⟩
    | number hmn => exact .alone nofun nofun ⟨.number hmn, hd, hs⟩
    | string => exact .alone nofun nofun ⟨.string, hd, hs⟩
    | object hp hms => exact .alone nofun nofun ⟨.object hp hms, hd, hs⟩
  types _ _ texts ht := by
    rw [typeTexts_shuffled ht h.value]
    exact ht

theorem membersAlike_shuffled (hd : ∀ m ∈ members, m.2.HasDistinctNames)
    (hs : ∀ m ∈ members, ∀ inner ∈ m.2.objects, Settled s inner) (hp : members.Perm mid)
    (hall : List.Forall₂ (Json.Named Json.Shuffled) mid others) :
    MembersAlike s (fun _ => ShuffledSettled s) a members others := by
  refine ⟨mid, hp, Json.forall₂_imp_of_mem (fun m hm m' _ hmm => ?_) hall⟩
  have hm := hp.mem_iff.2 hm
  exact memberAlike_shuffled hmm (hd m hm) (hs m hm)

/-- Values that differ in the order of members are read alike. -/
theorem readsAlike_shuffled : ReadsAlike s (fun _ => ShuffledSettled s) where
  refl := fun ⟨_, hd, hs⟩ => ⟨.refl _, hd, hs⟩
  leaf := by
    rintro shape x y ⟨hxy, -, -⟩ ha ho
    exact hxy.eq_of_leaf ha ho
  object := by
    rintro shape members y ⟨_ | _ | _ | _ | _ | ⟨hp, hall⟩, hdistinct, hs⟩
    refine ⟨_, rfl, fun a found ha hd => ?_⟩
    have hmembers : ∀ m ∈ members, m.2.HasDistinctNames := fun m hm => hdistinct.member hm
    rw [Json.objects] at hs
    obtain ⟨hsettled, hs⟩ := List.forall_mem_cons.1 hs
    have hinner : ∀ m ∈ members, ∀ inner ∈ m.2.objects, Settled s inner :=
      fun m hm inner hi => hs inner (Json.mem_memberObjects.2 ⟨m, hm, hi⟩)
    obtain ⟨found', hd'⟩ := declared_shuffled hmembers hp hall hd
    have hfound := exists_lookup hmembers hp hall hd hd'
    refine ⟨found', hd', ?_, ?_, ?_, ?_⟩
    · unfold isLiteralObject
      rw [(hfound Keyword.value).isSome_eq, isEmpty_congr fun keyword => (hfound keyword).isSome_eq]
    · exact fun _ path path' ts hts => literals_alike hsettled hp hall hfound hts
    · exact fun _ => namedResource_alike hsettled (hfound Keyword.id)
    · exact fun _ => membersAlike_shuffled hmembers hinner hp hall

end Objects

section Decode

variable {focus : String} {k : Keywords} {J J' : Json} {g g' : Graph} {L M : Labels}

/-- The root of a description is right in any order of its members. -/
theorem root_shuffled {mid : List (String × Json)} (hm : ∀ m ∈ members, m.2.HasDistinctNames)
    (hp : members.Perm mid) (hall : List.Forall₂ (Json.Named Json.Shuffled) mid others)
    (hr : root s shape (.object members) = .ok (members, a)) :
    root s shape (.object others) = .ok (others, a) := by
  obtain ⟨-, ha, found, hd, hid⟩ := root_object_iff.1 hr
  obtain ⟨found', hd'⟩ := declared_shuffled hm hp hall hd
  refine root_object_iff.2 ⟨rfl, ha, found', hd', fun id' hl' => ?_⟩
  have hfound := exists_lookup hm hp hall hd hd' Keyword.id
  cases hl : Json.lookup Keyword.id found with
  | none =>
    rw [hl, hl'] at hfound
    cases hfound
  | some id =>
    obtain ⟨text, ht, heq⟩ := hid id hl
    rw [hl] at hfound
    obtain ⟨z, text', hz, hztext, hor⟩ := hfound.exists_keywordText ht
    rw [hl'] at hz
    cases hz
    refine ⟨text', hztext, ?_⟩
    rcases hor with rfl | ⟨-, he⟩
    · exact heq
    · rw [← he, heq]

theorem decode_of_shuffled (h : J.Shuffled J') (hd : J.HasDistinctNames)
    (hs : ∀ members ∈ J.innerObjects, Settled (.of focus k) members) (hL : L.FreshFor J)
    (hM : M.FreshFor J') (hg : decode focus shape J k L = .ok g) :
    ∃ g', decode focus shape J' k M = .ok g' ∧ g.isIsomorphic g' = true := by
  have hstrings : J.strings ⊆ J'.strings := (h.symm fun _ _ => Eq.symm).strings
  refine decode_alike readsAlike_shuffled (fun members a hJ hr => ?_) hL (hM.mono hstrings) hg
  subst hJ
  cases h with
  | object hp hall =>
    have hmembers : ∀ m ∈ members, m.2.HasDistinctNames := fun m hm => hd.member hm
    refine ⟨_, root_shuffled hmembers hp hall hr, ?_⟩
    exact membersAlike_shuffled hmembers
      (fun m hm inner hi => hs inner (Json.mem_memberObjects.2 ⟨m, hm, hi⟩)) hp hall

theorem Settled.shuffled {mid : List (String × Json)} (h : Settled s members)
    (hp : members.Perm mid) (hall : List.Forall₂ (Json.Named Json.Shuffled) mid others) :
    Settled s others := by
  have hback : ∀ n ∈ others, (∀ xs, n.2 ≠ .array xs) → (∀ members, n.2 ≠ .object members) →
      n ∈ members := by
    intro n hn ha ho
    obtain ⟨m, hm, hmn⟩ := (Json.exists_of_forall₂ hall).2 n hn
    have heq := (hmn.value.symm fun _ _ => Eq.symm).eq_of_leaf ha ho
    exact Prod.ext hmn.name_eq.symm heq ▸ hp.mem_iff.2 hm
  rintro ⟨name, x⟩ hm ⟨name', y⟩ hn hk
  cases x with
  | string text =>
    cases y with
    | string text' => exact h _ (hback _ hm nofun nofun) _ (hback _ hn nofun nofun) hk
    | _ => trivial
  | number x =>
    cases y with
    | number y => exact h _ (hback _ hm nofun nofun) _ (hback _ hn nofun nofun) hk
    | _ => trivial
  | _ => cases y <;> trivial

/-- Descriptions that differ in the order of members are read alike, if no object spells a keyword
twice with values that agree but are read apart: one can be read if the other can, and their graphs
are isomorphic. -/
theorem decode_shuffled (h : J.Shuffled J') (hd : J.HasDistinctNames)
    (hs : ∀ members ∈ J.innerObjects, Settled (.of focus k) members) (hL : L.FreshFor J)
    (hM : M.FreshFor J') :
    ((∃ g, decode focus shape J k L = .ok g) ↔ ∃ g', decode focus shape J' k M = .ok g') ∧
      ∀ g g', decode focus shape J k L = .ok g → decode focus shape J' k M = .ok g' →
        g.isIsomorphic g' = true := by
  have hs' : ∀ members ∈ J'.innerObjects, Settled (.of focus k) members := by
    intro others ho
    cases h with
    | object hp hall =>
      obtain ⟨n, hn, ho⟩ := Json.mem_memberObjects.1 ho
      obtain ⟨m, hm, hmn⟩ := (Json.exists_of_forall₂ hall).2 n hn
      obtain ⟨members, hmem, mid, hp', hall'⟩ := hmn.value.exists_object ho
      exact (hs members (Json.mem_memberObjects.2 ⟨m, hp.mem_iff.2 hm, hmem⟩)).shuffled hp' hall'
    | null | bool | string | number _ | array _ => cases ho
  exact decode_iff_of_alike (fun g => decode_of_shuffled h hd hs hL hM)
    fun g' => decode_of_shuffled (h.symm fun _ _ => Eq.symm) (hd.reordered h) hs' hM hL

/-- Fields that lead to named and unnamed resources. -/
def linked : Shape :=
  .field ⟨"urn:x:p", false⟩ none
    (.and [.field ⟨"urn:x:q", false⟩ none (.and []), .field ⟨"urn:x:r", false⟩ none (.and [])])

/-- Two resources, one of which is named by a text and by its override. -/
def twiceNamed : Json :=
  .object [("p", .array [
    .object [("@id", .string "urn:x:a"), ("q", .bool true), ("id", .string "urn:x:a")],
    .object [("q", .object []), ("r", .object [])]])]

/-- The same resources with their members in another order. -/
def twiceNamedBackwards : Json :=
  .object [("p", .array [
    .object [("id", .string "urn:x:a"), ("q", .bool true), ("@id", .string "urn:x:a")],
    .object [("r", .object []), ("q", .object [])]])]

theorem decode_shuffled_twiceNamed : ∃ g g',
    decode "urn:x:f" linked twiceNamed ⟨[("@id", "id")]⟩ (.beyondJson twiceNamed) = .ok g ∧
      decode "urn:x:f" linked twiceNamedBackwards ⟨[("@id", "id")]⟩
        (.beyondJson twiceNamedBackwards) = .ok g' ∧
      g.size = 5 ∧ g.isIsomorphic g' = true := by
  have hsize : (decode "urn:x:f" linked twiceNamed ⟨[("@id", "id")]⟩
      (.beyondJson twiceNamed)).toOption.map Graph.size = some 5 := by decide +kernel
  obtain ⟨g, hg, hfive⟩ := Option.map_eq_some_iff.1 hsize
  have hg := ok_of_toOption hg
  have hshuffled : twiceNamed.Shuffled twiceNamedBackwards := by
    refine .object (.refl _) (.cons (.mk (.array (.cons ?_ (.cons ?_ .nil)))) .nil)
    · exact .object (List.reverse_perm _).symm (.cons (.mk (.refl _)) (.cons (.mk (.refl _))
        (.cons (.mk (.refl _)) .nil)))
    · exact .object (.swap _ _ _) (.cons (.mk (.refl _)) (.cons (.mk (.refl _)) .nil))
  have hsettled : ∀ members ∈ twiceNamed.innerObjects,
      Settled (.of "urn:x:f" ⟨[("@id", "id")]⟩) members := by decide +kernel
  obtain ⟨hread, hiso⟩ := decode_shuffled hshuffled (by decide) hsettled
    (Labels.freshFor_beyondJson twiceNamed) (Labels.freshFor_beyondJson twiceNamedBackwards)
  obtain ⟨g', hg'⟩ := hread.1 ⟨g, hg⟩
  exact ⟨g, g', hg, hg', hfive, hiso g g' hg hg'⟩

/-- Zeros of either sign, by a keyword and by its override. -/
def zeros : List (String × Json) :=
  [("@value", .number (.double (.zero false))), ("value", .number (.double (.zero true)))]

/-- Zeros of either sign agree, but they are written differently. -/
theorem decode_shuffled_apart : ∃ g g',
    (Json.object [("p", .object zeros)]).Shuffled (.object [("p", .object zeros.reverse)]) ∧
      (Json.object [("p", .object zeros)]).HasDistinctNames ∧
      decode "urn:x:f" (.field ⟨"urn:x:p", false⟩ none (.and [])) (.object [("p", .object zeros)])
        ⟨[("@value", "value")]⟩ default = .ok g ∧
      decode "urn:x:f" (.field ⟨"urn:x:p", false⟩ none (.and []))
        (.object [("p", .object zeros.reverse)]) ⟨[("@value", "value")]⟩ default = .ok g' ∧
      g.isIsomorphic g' = false := by
  have hshuffled : (Json.object [("p", .object zeros)]).Shuffled
      (.object [("p", .object zeros.reverse)]) := by
    refine .object (.refl _) (.cons (.mk (.object zeros.reverse_perm.symm ?_)) .nil)
    exact .cons (.mk (.refl _)) (.cons (.mk (.refl _)) .nil)
  have happart : (do
      let g ← (decode "urn:x:f" (.field ⟨"urn:x:p", false⟩ none (.and []))
        (.object [("p", .object zeros)]) ⟨[("@value", "value")]⟩ default).toOption
      let g' ← (decode "urn:x:f" (.field ⟨"urn:x:p", false⟩ none (.and []))
        (.object [("p", .object zeros.reverse)]) ⟨[("@value", "value")]⟩ default).toOption
      return g.isIsomorphic g' : Option Bool) = some false := by decide +kernel
  obtain ⟨g, hg, happart⟩ := Option.bind_eq_some_iff.1 happart
  obtain ⟨g', hg', happart⟩ := Option.bind_eq_some_iff.1 happart
  exact ⟨g, g', hshuffled, by decide, ok_of_toOption hg, ok_of_toOption hg',
    Option.some.inj happart⟩

end Decode

end LinkedShapes.Description
