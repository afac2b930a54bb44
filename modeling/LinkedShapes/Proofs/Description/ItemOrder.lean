import LinkedShapes.Proofs.Description.MemberOrder

/-!
# Reading items in another order

The items of an array stand side by side: those of a field describe several values, those of a
language are several texts. In another order they are read alike. Arrays for keywords are left as
they are, since two spellings of a keyword agree only if their items come in one order.

* `Rearranged`: the items of arrays are in another order, the names of members telling which may
  be. `Permuted` asks for the arrays to stand for fields at the levels of a shape, or for what is no
  keyword.
* `declaredAfter_rearranged`: keywords have the same values, those for types up to the order of
  items.
* `literals_rearranged`: literals are the same.
* `decode_permuted`: items in another order make isomorphic graphs.
-/

namespace LinkedShapes.Description

open Vocabulary

variable {s : Setting} {D shape : Shape} {a : Aliases} {path path' name keyword : String}
variable {x y z : Json} {xs mid ys : List Json} {m m' : String × Json}
variable {members others found found' : List (String × Json)} {ts : List Term}

/-! ## Items in another order -/

/-- Members of one name, with the same value or with related ones. If both values are arrays, their
items are related in some order. -/
inductive MemberRearranged (movable : String → Prop) (R : Json → Json → Prop) :
    String × Json → String × Json → Prop
  | same {m : String × Json} : MemberRearranged movable R m m
  | one {name : String} {x y : Json} : movable name → R x y →
      MemberRearranged movable R (name, x) (name, y)
  | items {name : String} {xs mid ys : List Json} : movable name → xs.Perm mid →
      List.Forall₂ R mid ys → MemberRearranged movable R (name, .array xs) (name, .array ys)

/-- Values that differ in the order of items, in arrays under names that may be moved. -/
inductive Rearranged (movable : String → Prop) : Json → Json → Prop
  | same {x : Json} : Rearranged movable x x
  | object {members others : List (String × Json)} :
      List.Forall₂ (MemberRearranged movable (Rearranged movable)) members others →
      Rearranged movable (.object members) (.object others)

/-- Does a name not stand for an identifier, a value or a language? -/
def IsMovable (s : Setting) (name : String) : Prop :=
  ∀ keyword ∈ [Keyword.id, Keyword.value, Keyword.language], s.keywords.keyword? name ≠ some keyword

mutual

/-- Descriptions under a shape that differ in the order of items, in arrays for no keyword. -/
inductive Permuted (s : Setting) : Shape → Json → Json → Prop
  | same {D : Shape} {x : Json} : Permuted s D x x
  | object {D : Shape} {a : Aliases} {members others : List (String × Json)} :
      Aliases.ofShape D s.keywords = .ok a → MembersPermuted s a members others →
      Permuted s D (.object members) (.object others)
  /-- A level without a table, where no name stands for a field. -/
  | untold {D : Shape} {x y : Json} : (∀ a, Aliases.ofShape D s.keywords ≠ .ok a) →
      Rearranged (IsMovable s) x y → Permuted s D x y

/-- The members of descriptions that differ in this way, for a table of fields. -/
inductive MembersPermuted (s : Setting) :
    Aliases → List (String × Json) → List (String × Json) → Prop
  | nil {a : Aliases} : MembersPermuted s a [] []
  | same {a : Aliases} {m : String × Json} {members others : List (String × Json)} :
      MembersPermuted s a members others → MembersPermuted s a (m :: members) (m :: others)
  /-- The value of a field. -/
  | field {a : Aliases} {name : String} {f : Field} {x y : Json}
      {members others : List (String × Json)} : a.get? name = some f → Permuted s f.shape x y →
      MembersPermuted s a members others →
      MembersPermuted s a ((name, x) :: members) ((name, y) :: others)
  /-- The values of a field. -/
  | fields {a : Aliases} {name : String} {f : Field} {xs mid ys : List Json}
      {members others : List (String × Json)} : a.get? name = some f → xs.Perm mid →
      ItemsPermuted s f.shape mid ys → MembersPermuted s a members others →
      MembersPermuted s a ((name, .array xs) :: members) ((name, .array ys) :: others)
  /-- The texts of a language, or values for a name that is not known here. -/
  | other {a : Aliases} {m m' : String × Json} {members others : List (String × Json)} :
      a.get? m.1 = none → objectKeyword? s a m.1 = none →
      MemberRearranged (fun _ => True) (Rearranged (IsMovable s)) m m' →
      MembersPermuted s a members others → MembersPermuted s a (m :: members) (m' :: others)

/-- Items that differ in this way, one by one. -/
inductive ItemsPermuted (s : Setting) : Shape → List Json → List Json → Prop
  | nil {D : Shape} : ItemsPermuted s D [] []
  | cons {D : Shape} {x y : Json} {xs ys : List Json} : Permuted s D x y →
      ItemsPermuted s D xs ys → ItemsPermuted s D (x :: xs) (y :: ys)

end

/-- Members that differ in this way. -/
inductive MemberPermuted (s : Setting) (a : Aliases) : String × Json → String × Json → Prop
  | same {m : String × Json} : MemberPermuted s a m m
  | field {m m' : String × Json} {f : Field} : a.get? m.1 = some f →
      MemberRearranged (fun _ => True) (Permuted s f.shape) m m' → MemberPermuted s a m m'
  | other {m m' : String × Json} : a.get? m.1 = none → objectKeyword? s a m.1 = none →
      MemberRearranged (fun _ => True) (Rearranged (IsMovable s)) m m' → MemberPermuted s a m m'

theorem itemsPermuted_iff : ItemsPermuted s D xs ys ↔ List.Forall₂ (Permuted s D) xs ys := by
  constructor
  · intro h
    induction xs generalizing ys with
    | nil =>
      cases h
      exact .nil
    | cons x xs ih =>
      cases h with
      | cons hx hxs => exact .cons hx (ih hxs)
  · intro h
    induction h with
    | nil => exact .nil
    | cons hx _ ih => exact .cons hx ih

theorem itemsPermuted_self : ItemsPermuted s D xs xs :=
  itemsPermuted_iff.2 (List.forall₂_same.2 fun _ _ => .same)

theorem membersPermuted_iff :
    MembersPermuted s a members others ↔ List.Forall₂ (MemberPermuted s a) members others := by
  constructor
  · intro h
    induction members generalizing others with
    | nil =>
      cases h
      exact .nil
    | cons m members ih =>
      cases h with
      | same h => exact .cons .same (ih h)
      | field hf hx h => exact .cons (.field hf (.one trivial hx)) (ih h)
      | fields hf hp hxs h =>
        exact .cons (.field hf (.items trivial hp (itemsPermuted_iff.1 hxs))) (ih h)
      | other hf hk hm h => exact .cons (.other hf hk hm) (ih h)
  · intro h
    induction h with
    | nil => exact .nil
    | cons hm _ ih =>
      cases hm with
      | same => exact .same ih
      | field hf hm =>
        cases hm with
        | same => exact .same ih
        | one _ hx => exact .field hf hx ih
        | items _ hp hxs => exact .fields hf hp (itemsPermuted_iff.2 hxs) ih
      | other hf hk hm => exact .other hf hk hm ih

/-! ## Values and their parts -/

/-- Induction over values, down to the values of members and the items of these. -/
@[elab_as_elim]
theorem induct_listed {P : Json → Prop}
    (object : ∀ members, (∀ m ∈ members, ∀ x ∈ m.2 :: listed m.2, P x) → P (.object members))
    (other : ∀ x, (∀ members, x ≠ .object members) → P x) (x : Json) : P x := by
  -- the items of an array belong to the member that holds it, so that they are carried along
  have hboth : P x ∧ ∀ y ∈ listed x, P y := by
    induction x using Json.induct with
    | array xs ih => exact ⟨other _ nofun, fun y hy => (ih y hy).1⟩
    | object members ih =>
      have hobject : P (.object members) := object members fun m hm =>
        List.forall_mem_cons.2 (ih m hm)
      exact ⟨hobject, List.forall_mem_singleton.2 hobject⟩
    | leaf x ha ho =>
      have hx := other x ho
      refine ⟨hx, fun y hy => ?_⟩
      cases x with
      | null => exact absurd hy List.not_mem_nil
      | array xs => exact absurd rfl (ha xs)
      | _ =>
        rw [List.mem_singleton.1 hy]
        exact hx
  exact hboth.1

/-- Lists with related elements in some order. -/
def Regrouped (R : Json → Json → Prop) (xs ys : List Json) : Prop :=
  ∃ mid, xs.Perm mid ∧ List.Forall₂ R mid ys

/-- Values are the same, or both are objects. -/
def SameOrObjects (x y : Json) : Prop :=
  y = x ∨ ∃ members others, x = .object members ∧ y = .object others

theorem SameOrObjects.eq_of_ne_object (h : SameOrObjects x y)
    (ho : ∀ members, x ≠ .object members) : y = x :=
  h.resolve_right fun ⟨members, _, hx, _⟩ => ho members hx

/-- Is a value an array or an object? -/
def isCompound : Json → Bool
  | .array _ | .object _ => true
  | _ => false

section Members

variable {movable movable' : String → Prop} {R S : Json → Json → Prop}

theorem regrouped_self (hr : ∀ x ∈ xs, R x x) : Regrouped R xs xs :=
  ⟨xs, .refl xs, List.forall₂_same.2 hr⟩

namespace MemberRearranged

theorem name_eq (h : MemberRearranged movable R m m') : m'.1 = m.1 := by
  cases h <;> rfl

theorem mono (h : MemberRearranged movable R m m') (hname : movable m.1 → movable' m.1)
    (hr : ∀ x ∈ m.2 :: listed m.2, ∀ y, R x y → S x y) : MemberRearranged movable' S m m' := by
  cases h with
  | same => exact .same
  | one hm hx => exact .one (hname hm) (hr _ List.mem_cons_self _ hx)
  | items hm hp hxs =>
    refine .items (hname hm) hp (Json.forall₂_imp_of_mem (fun x hx y _ => ?_) hxs)
    exact hr x (List.mem_cons_of_mem _ (hp.mem_iff.2 hx)) y

theorem symm (h : MemberRearranged movable R m m')
    (hr : ∀ x ∈ m.2 :: listed m.2, ∀ y, R x y → S y x) : MemberRearranged movable S m' m := by
  cases h with
  | same => exact .same
  | one hm hx => exact .one hm (hr _ List.mem_cons_self _ hx)
  | items hm hp hxs =>
    obtain ⟨zs, hzs, hall⟩ := Json.perm_forall₂_symm
      (fun x hx => hr x (List.mem_cons_of_mem _ hx)) hp hxs
    exact .items hm hzs hall

theorem strings (h : MemberRearranged movable R m m')
    (hr : ∀ x ∈ m.2 :: listed m.2, ∀ y, R x y → y.strings ⊆ x.strings) :
    m'.2.strings ⊆ m.2.strings := by
  cases h with
  | same => exact List.Subset.refl _
  | one _ hx => exact hr _ List.mem_cons_self _ hx
  | items _ hp hxs =>
    rw [Json.strings, Json.strings]
    intro text ht
    obtain ⟨y, hy, ht⟩ := Json.mem_itemStrings.1 ht
    obtain ⟨x, hx, hxy⟩ := (Json.exists_of_forall₂ hxs).2 y hy
    have hx := hp.mem_iff.2 hx
    exact Json.mem_itemStrings.2 ⟨x, hx, hr x (List.mem_cons_of_mem _ hx) y hxy ht⟩

theorem same_or_compound (h : MemberRearranged movable SameOrObjects m m') :
    m'.2 = m.2 ∨ movable m.1 ∧ isCompound m.2 = true ∧ isCompound m'.2 = true := by
  cases h with
  | same => exact Or.inl rfl
  | one hm hx =>
    rcases hx with heq | ⟨members, others, rfl, rfl⟩
    · exact Or.inl heq
    · exact Or.inr ⟨hm, rfl, rfl⟩
  | items hm _ _ => exact Or.inr ⟨hm, rfl, rfl⟩

theorem valuesAlike (hself : ∀ x, R x x) (hr : ∀ x y, R x y → SameOrObjects x y)
    (h : MemberRearranged movable R m m') : ValuesAlike R m.2 m'.2 := by
  have hsame : ∀ x, ValuesAlike R x x := by
    intro x
    cases x with
    | array xs => exact .array (.refl xs) (List.forall₂_same.2 fun x _ => hself x)
    | _ => exact .alone nofun nofun (hself _)
  cases h with
  | same => exact hsame _
  | one _ hx =>
    rcases hr _ _ hx with heq | ⟨members, others, rfl, rfl⟩
    · rw [heq]
      exact hsame _
    · exact .alone nofun nofun hx
  | items _ hp hxs => exact .array hp hxs

theorem regrouped (hself : ∀ x, R x x) (hr : ∀ x y, R x y → SameOrObjects x y)
    (h : MemberRearranged movable R m m') : Regrouped R (listed m.2) (listed m'.2) := by
  cases h with
  | same => exact regrouped_self fun x _ => hself x
  | one _ hx =>
    rcases hr _ _ hx with heq | ⟨members, others, rfl, rfl⟩
    · rw [heq]
      exact regrouped_self fun x _ => hself x
    · exact ⟨_, .refl _, .cons hx .nil⟩
  | items _ hp hxs => exact ⟨_, hp, hxs⟩

end MemberRearranged

theorem Rearranged.sameOrObjects (h : Rearranged movable x y) : SameOrObjects x y := by
  cases h with
  | same => exact Or.inl rfl
  | object _ => exact Or.inr ⟨_, _, rfl, rfl⟩

theorem Permuted.sameOrObjects (h : Permuted s D x y) : SameOrObjects x y := by
  cases h with
  | same => exact Or.inl rfl
  | object _ _ => exact Or.inr ⟨_, _, rfl, rfl⟩
  | untold _ h => exact h.sameOrObjects

theorem Rearranged.symm (h : Rearranged movable x y) : Rearranged movable y x := by
  induction x using induct_listed generalizing y with
  | object members ih =>
    cases h with
    | same => exact .same
    | object hall =>
      exact .object (Json.forall₂_imp_of_mem (fun m hm m' _ hmm =>
        hmm.symm fun x hx y hxy => ih m hm x hx hxy) hall).flip
  | other x ho =>
    rw [h.sameOrObjects.eq_of_ne_object ho]
    exact .same

theorem Rearranged.strings (h : Rearranged movable x y) : y.strings ⊆ x.strings := by
  induction x using induct_listed generalizing y with
  | object members ih =>
    cases h with
    | same => exact List.Subset.refl _
    | object hall =>
      rw [Json.strings, Json.strings]
      intro text ht
      obtain ⟨m', hm', ht⟩ := Json.mem_memberStrings.1 ht
      obtain ⟨m, hm, hmm⟩ := (Json.exists_of_forall₂ hall).2 m' hm'
      exact Json.mem_memberStrings.2
        ⟨m, hm, hmm.strings (fun x hx y hxy => ih m hm x hx hxy) ht⟩
  | other x ho =>
    rw [h.sameOrObjects.eq_of_ne_object ho]
    exact List.Subset.refl _

theorem MemberPermuted.name_eq (h : MemberPermuted s a m m') : m'.1 = m.1 := by
  cases h with
  | same => rfl
  | field _ h | other _ _ h => exact h.name_eq

theorem Permuted.symm (h : Permuted s D x y) : Permuted s D y x := by
  induction x using induct_listed generalizing D y with
  | object members ih =>
    cases h with
    | same => exact .same
    | untold hnone h => exact .untold hnone h.symm
    | object ha hall =>
      refine .object ha (membersPermuted_iff.2 (Json.forall₂_imp_of_mem (fun m hm m' _ hmm => ?_)
        (membersPermuted_iff.1 hall)).flip)
      have hname := hmm.name_eq
      cases hmm with
      | same => exact .same
      | field hf h =>
        exact .field (hname ▸ hf) (h.symm fun x hx y hxy => ih m hm x hx hxy)
      | other hf hk h =>
        exact .other (hname ▸ hf) (hname ▸ hk) (h.symm fun x _ y => Rearranged.symm)
  | other x ho =>
    rw [h.sameOrObjects.eq_of_ne_object ho]
    exact .same

theorem isMovable_of_objectKeyword? (hf : a.get? name = none)
    (hk : objectKeyword? s a name = none) : IsMovable s name := by
  intro keyword hmem hkeyword
  have hall : ∀ keyword ∈ [Keyword.id, Keyword.value, Keyword.language],
      objectKeywords.contains keyword = true := by decide
  unfold objectKeyword? Aliases.contains at hk
  rw [hf, hkeyword, Option.filter_some, if_pos (hall keyword hmem)] at hk
  cases hk

/-- Fields go by names that stand for no keyword, or for that of types. -/
theorem isMovable_of_field (hcheck : s.keywords.check = .ok ())
    (ha : Aliases.ofShape D s.keywords = .ok a) {f : Field} (hf : a.get? name = some f) :
    IsMovable s name := by
  intro keyword hmem hkeyword
  rcases fieldName_ok ((Aliases.ofShape_ok ha).2 _ (Aliases.mem_of_get? hf)) with
    ⟨-, hlooks, hreserved⟩ | ⟨hname, -⟩
  · rw [Keywords.keyword?_eq_none hlooks hreserved] at hkeyword
    cases hkeyword
  · -- the only name of a keyword that is left to fields
    have htype : s.keywords.keyword? name = some Keyword.type :=
      (congrArg s.keywords.keyword? hname).trans (Keywords.keyword?_nameOf hcheck (by decide))
    rw [htype] at hkeyword
    cases hkeyword
    revert hmem
    decide

theorem Permuted.rearranged (hcheck : s.keywords.check = .ok ()) (h : Permuted s D x y) :
    Rearranged (IsMovable s) x y := by
  induction x using induct_listed generalizing D y with
  | object members ih =>
    cases h with
    | same => exact .same
    | untold _ h => exact h
    | @object _ a _ _ ha hall =>
      refine .object (Json.forall₂_imp_of_mem (fun m hm m' _ hmm => ?_)
        (membersPermuted_iff.1 hall))
      cases hmm with
      | same => exact .same
      | field hf h =>
        exact h.mono (fun _ => isMovable_of_field hcheck ha hf) fun x hx y hxy => ih m hm x hx hxy
      | other hf hk h =>
        exact h.mono (fun _ => isMovable_of_objectKeyword? hf hk) fun _ _ _ => id
  | other x ho =>
    rw [h.sameOrObjects.eq_of_ne_object ho]
    exact .same

end Members

/-! ## Keywords and literals -/

/-- Values for one keyword: the same, or arrays and objects for types. -/
structure Held (m m' : String × Json) : Prop where
  name : m'.1 = m.1
  value : m'.2 = m.2 ∨ m.1 = Keyword.type ∧ isCompound m.2 = true ∧ isCompound m'.2 = true

/-- Not both of two values stand for types and are arrays or objects. -/
def TypesApart (m n : String × Json) : Prop :=
  m.1 = Keyword.type → n.1 = Keyword.type → isCompound m.2 = false ∨ isCompound n.2 = false

theorem held_self : List.Forall₂ Held found found :=
  List.forall₂_same.2 fun _ _ => ⟨rfl, Or.inl rfl⟩

theorem Held.lookup (keyword : String) (h : List.Forall₂ Held found found') :
    Json.lookup keyword found = none ∧ Json.lookup keyword found' = none ∨
      ∃ x y, Json.lookup keyword found = some x ∧ Json.lookup keyword found' = some y ∧
        Held (keyword, x) (keyword, y) := by
  induction h with
  | nil => exact Or.inl ⟨rfl, rfl⟩
  | @cons m m' found found' hm _ ih =>
    obtain ⟨keyword', x⟩ := m
    obtain ⟨keyword'', y⟩ := m'
    obtain rfl : keyword'' = keyword' := hm.name
    rw [Json.lookup, Json.lookup]
    by_cases heq : keyword'' = keyword
    · subst heq
      exact Or.inr ⟨x, y, if_pos rfl, if_pos rfl, hm⟩
    · rw [if_neg heq, if_neg heq]
      exact ih

/-- What is found for a keyword other than that of types is the same. -/
theorem Held.lookup_eq (h : List.Forall₂ Held found found') (hk : keyword ≠ Keyword.type) :
    Json.lookup keyword found' = Json.lookup keyword found := by
  rcases Held.lookup keyword h with ⟨hl, hl'⟩ | ⟨x, y, hl, hl', hheld⟩
  · rw [hl, hl']
  · rw [hl, hl']
    exact congrArg some (hheld.value.resolve_right fun h => hk h.1)

/-- Values that agree are both compound, or neither is. -/
theorem isCompound_of_same (h : sameKeywordValue s keyword x y = true) :
    isCompound x = isCompound y := by
  cases x <;> cases y <;> first | rfl | cases h

/-- Values for one keyword that agree are left as they are: those for types that agree are no arrays
or objects, since not both are. -/
theorem eq_of_held {first first' : Json} (hfirst : Held (keyword, first) (keyword, first'))
    (hx : Held (keyword, x) (keyword, y)) (hapart : TypesApart (keyword, first) (keyword, x))
    (hsame : sameKeywordValue s keyword first x = true) : first' = first ∧ y = x := by
  have hplain : keyword = Keyword.type → isCompound first = false ∧ isCompound x = false :=
    fun hty => (hapart hty hty).elim
      (fun hf => ⟨hf, (isCompound_of_same hsame).symm.trans hf⟩)
      fun hx => ⟨(isCompound_of_same hsame).trans hx, hx⟩
  constructor
  · refine hfirst.value.resolve_right ?_
    rintro ⟨hty, hf, -⟩
    rw [(hplain hty).1] at hf
    cases hf
  · refine hx.value.resolve_right ?_
    rintro ⟨hty, hx, -⟩
    rw [(hplain hty).2] at hx
    cases hx

/-- Keywords have the same values, those for types up to the order of items. -/
theorem declaredAfter_rearranged {movable : String → Prop}
    (hname : ∀ name keyword, movable name → objectKeyword? s a name = some keyword →
      keyword = Keyword.type)
    (hall : List.Forall₂ (MemberRearranged movable SameOrObjects) members others)
    (hfound : List.Forall₂ Held found found')
    (hapart : (found ++ keyed s a members).Pairwise TypesApart)
    {held : List (String × Json)} (h : declaredAfter s a found members = .ok held) :
    ∃ held', declaredAfter s a found' others = .ok held' ∧ List.Forall₂ Held held held' := by
  -- the keywords found so far go along on both sides, as each value is compared with the first one
  -- found for its keyword
  induction hall generalizing found found' with
  | nil =>
    cases h
    exact ⟨found', rfl, hfound⟩
  | @cons m m' members others hm _ ih =>
    have hvalue := hm.same_or_compound
    have hmname := hm.name_eq
    obtain ⟨name, x⟩ := m
    obtain ⟨name', y⟩ := m'
    obtain rfl : name' = name := hmname
    rw [declaredAfter] at h ⊢
    rw [keyed_cons] at hapart
    cases hk : objectKeyword? s a name' with
    | none =>
      simp only [hk] at h ⊢
      rw [hk] at hapart
      exact ih hfound hapart h
    | some keyword =>
      simp only [hk] at h ⊢
      rw [hk, Option.map_some, Option.toList_some] at hapart
      have hheld : Held (keyword, x) (keyword, y) :=
        ⟨rfl, hvalue.imp id (And.imp_left fun hm => hname name' keyword hm hk)⟩
      rcases Held.lookup keyword hfound with ⟨hl, hl'⟩ |
        ⟨first, first', hl, hl', hfirst⟩
      · simp only [hl, hl'] at h ⊢
        rw [← List.append_assoc] at hapart
        exact ih (List.rel_append hfound (.cons hheld .nil)) hapart h
      · simp only [hl, hl'] at h ⊢
        split at h
        · next hsame =>
          have hapart' : TypesApart (keyword, first) (keyword, x) :=
            (List.pairwise_append.1 hapart).2.2 _ (mem_of_lookup_json hl) _ List.mem_cons_self
          -- two values that agree are the same on the other side, where not both are compound types
          obtain ⟨hf, hx⟩ := eq_of_held hfirst hheld hapart' hsame
          rw [hx, hf, if_pos hsame]
          refine ih hfound (hapart.sublist ?_) h
          exact List.Sublist.append (.refl _) (List.sublist_append_right _ _)
        · cases h

/-- Keywords whose members are left as they are have the same values. -/
theorem declaredAfter_congr (h : List.Forall₂ (fun m m' : String × Json =>
      m'.1 = m.1 ∧ (objectKeyword? s a m.1 = none ∨ m'.2 = m.2)) members others) :
    declaredAfter s a found others = declaredAfter s a found members := by
  induction h generalizing found with
  | nil => rfl
  | @cons m m' members others hm _ ih =>
    obtain ⟨name, x⟩ := m
    obtain ⟨name', y⟩ := m'
    obtain ⟨rfl, hor⟩ : name' = name ∧ (objectKeyword? s a name = none ∨ y = x) := hm
    rw [declaredAfter, declaredAfter]
    rcases hor with hk | rfl
    · simp only [hk]
      exact ih
    · simp only [ih]

/-- Texts of a language in another order stand for the same literals. -/
theorem taggedTerms?_rearranged {movable : String → Prop} {us : List Term}
    (h : MemberRearranged movable SameOrObjects m m') (hus : taggedTerms? m = some us) :
    ∃ us', taggedTerms? m' = some us' ∧ ∀ t, t ∈ us' ↔ t ∈ us := by
  cases h with
  | same => exact ⟨us, hus, fun _ => Iff.rfl⟩
  | one _ hx =>
    rcases hx with rfl | ⟨members, others, rfl, rfl⟩
    · exact ⟨us, hus, fun _ => Iff.rfl⟩
    · cases hus
  | @items lang _ _ ys _ hp hxs =>
    obtain ⟨texts, htexts, rfl⟩ := Option.map_eq_some_iff.1 hus
    obtain rfl := mapM_string?_iff.1 htexts
    -- texts are no objects, so that the items are the same texts in another order
    have hself : List.Forall₂ (fun text x => x = Json.string text) texts (texts.map .string) := by
      rw [List.forall₂_map_right_iff]
      exact List.forall₂_same.2 fun _ _ => rfl
    obtain ⟨texts', hp', hmid⟩ := Json.exists_perm_of_forall₂ hself hp
    have hys : List.Forall₂ (fun y text => y = Json.string text) ys texts' := by
      refine (Json.forall₂_comp (fun text _ x y hx hxy => ?_) hmid hxs).flip
      subst hx
      rcases hxy with heq | ⟨members, -, hobject, -⟩
      · exact heq
      · cases hobject
    rw [← List.forall₂_map_right_iff (f := Json.string), List.forall₂_eq_eq_eq] at hys
    subst hys
    refine ⟨texts'.map (Term.langString · lang), ?_, fun t => (hp'.map _).symm.mem_iff⟩
    exact Option.map_eq_some_iff.2 ⟨texts', mapM_string?_iff.2 rfl, rfl⟩

/-- The literal of a value object does not depend on the order of items. -/
theorem valueObject_rearranged {movable : String → Prop} {t : Term}
    (hall : List.Forall₂ (MemberRearranged movable SameOrObjects) members others)
    (hheld : List.Forall₂ Held found found')
    (ht : valueObject s shape members found x path = .ok t) :
    valueObject s shape others found' x path' = .ok t := by
  have hknown := (valueObject_spec ht).2.1
  have hknown' : ∀ m ∈ others, (s.keywords.keyword? m.1).isSome = true := by
    intro m' hm'
    obtain ⟨m, hm, hmm⟩ := (Json.exists_of_forall₂ hall).2 m' hm'
    rw [hmm.name_eq]
    exact hknown m hm
  rw [valueObject_eq hknown] at ht
  have hlanguage : Json.lookup Keyword.language found' = Json.lookup Keyword.language found :=
    Held.lookup_eq hheld (by decide)
  rw [valueObject_eq hknown', hlanguage]
  obtain ⟨lexical, hlexical, ht⟩ := ok_of_bind ht
  have hliteral : literalOf s shape x lexical (Json.lookup Keyword.type found')
      (Json.lookup Keyword.language found) = .ok t := by
    rcases Held.lookup Keyword.type hheld with ⟨hl, hl'⟩ | ⟨type, type', hl, hl', h⟩
    · rwa [hl', ← hl]
    · rcases h.value with heq | ⟨-, hcompound, -⟩
      · obtain rfl : type' = type := heq
        rwa [hl', ← hl]
      · -- a type is a text
        rw [hl] at ht
        obtain ⟨text, htext, -⟩ := ok_of_bind ht
        cases type with
        | string _ => cases hcompound
        | _ => cases htext
  cases x with
  | string _ | bool _ | number _ =>
    cases hlexical
    exact hliteral
  | null | array _ | object _ => cases hlexical

/-- Literals are the same, in some order. -/
theorem literals_rearranged {movable : String → Prop}
    (hall : List.Forall₂ (MemberRearranged movable SameOrObjects) members others)
    (hheld : List.Forall₂ Held found found') (hts : literals s shape members found path = .ok ts) :
    ∃ us, literals s shape others found' path' = .ok us ∧ ∀ t, t ∈ us ↔ t ∈ ts := by
  have hvalue : Json.lookup Keyword.value found' = Json.lookup Keyword.value found :=
    Held.lookup_eq hheld (by decide)
  cases hl : Json.lookup Keyword.value found with
  | some x =>
    rw [literals_of_value hl] at hts
    cases ht : valueObject s shape members found x path with
    | error fault =>
      rw [ht] at hts
      cases hts
    | ok t =>
      rw [ht] at hts
      cases hts
      refine ⟨[t], ?_, fun _ => Iff.rfl⟩
      rw [literals_of_value (hvalue.trans hl), valueObject_rearranged hall hheld ht]
      rfl
  | none =>
    rw [literals_of_tagged hl] at hts
    rw [literals_of_tagged (hvalue.trans hl)]
    exact taggedTexts_alike (.refl _) (hall.imp fun m m' hmm us => taggedTerms?_rearranged hmm) hts

/-! ## Descriptions -/

theorem MemberPermuted.sameOrObjects (h : MemberPermuted s a m m') :
    MemberRearranged (fun name => objectKeyword? s a name = none) SameOrObjects m m' := by
  cases h with
  | same => exact .same
  | field hf h =>
    refine h.mono (fun _ => ?_) fun _ _ _ => Permuted.sameOrObjects
    unfold objectKeyword? Aliases.contains
    rw [hf]
    rfl
  | other _ hk h => exact h.mono (fun _ => hk) fun _ _ _ => Rearranged.sameOrObjects

theorem declared_permuted (h : List.Forall₂ (MemberPermuted s a) members others) :
    declared s a others = declared s a members := by
  refine declaredAfter_congr (h.imp fun m m' hmm => ⟨hmm.name_eq, ?_⟩)
  exact hmm.sameOrObjects.same_or_compound.symm.imp And.left id

theorem MemberPermuted.alike (h : MemberPermuted s a m m') :
    MemberAlike s (Permuted s) a m m' where
  name := h.name_eq
  values f hf := by
    cases h with
    | same =>
      have hsame : MemberRearranged (fun _ => True) (Permuted s f.shape) m m := .same
      exact hsame.valuesAlike (fun _ => .same) fun _ _ => Permuted.sameOrObjects
    | field hf' h =>
      rw [hf] at hf'
      cases hf'
      exact h.valuesAlike (fun _ => .same) fun _ _ => Permuted.sameOrObjects
    | other hf' _ _ =>
      rw [hf] at hf'
      cases hf'
  types hf hk texts ht := by
    cases h with
    | same => exact ht
    | field hf' _ =>
      rw [hf] at hf'
      cases hf'
    | other _ hk' _ =>
      unfold objectKeyword? Aliases.contains at hk'
      rw [hf, hk] at hk'
      cases hk'

theorem Permuted.exists_members (h : Permuted s D (.object members) y) :
    ∃ others, y = .object others ∧ ∀ a, Aliases.ofShape D s.keywords = .ok a →
      List.Forall₂ (MemberPermuted s a) members others := by
  cases h with
  | same => exact ⟨members, rfl, fun a _ => List.forall₂_same.2 fun _ _ => .same⟩
  | object ha hall =>
    refine ⟨_, rfl, fun b hb => ?_⟩
    rw [ha] at hb
    cases hb
    exact membersPermuted_iff.1 hall
  | untold hnone h =>
    rcases h.sameOrObjects with rfl | ⟨_, others, -, rfl⟩
    · exact ⟨members, rfl, fun a ha => absurd ha (hnone a)⟩
    · exact ⟨others, rfl, fun a ha => absurd ha (hnone a)⟩

theorem membersAlike_permuted (h : List.Forall₂ (MemberPermuted s a) members others) :
    MembersAlike s (Permuted s) a members others :=
  ⟨members, .refl _, h.imp fun _ _ h => h.alike⟩

/-- Descriptions that differ in the order of items are read alike. -/
theorem readsAlike_permuted : ReadsAlike s (Permuted s) where
  refl := fun _ => .same
  leaf := by
    intro shape x y h _ ho
    exact h.sameOrObjects.eq_of_ne_object ho
  object := by
    intro shape members y h
    obtain ⟨others, rfl, hmembers⟩ := h.exists_members
    refine ⟨others, rfl, fun a found ha hd => ?_⟩
    have hall := hmembers a ha
    refine ⟨found, (declared_permuted hall).trans hd, rfl, ?_, fun _ => rfl, fun _ => ?_⟩
    · exact fun _ path path' ts hts =>
        literals_rearranged (hall.imp fun _ _ h => h.sameOrObjects) held_self hts
    · exact membersAlike_permuted hall

/-- The root of a description is right in any order of items. -/
theorem root_permuted (h : Permuted s D x y) (hr : root s D x = .ok (members, a)) :
    ∃ others, root s D y = .ok (others, a) ∧ List.Forall₂ (MemberPermuted s a) members others := by
  obtain ⟨rfl, -⟩ := object_of_root hr
  obtain ⟨others, rfl, hmembers⟩ := h.exists_members
  obtain ⟨-, ha, found, hd, hid⟩ := root_object_iff.1 hr
  have hall := hmembers a ha
  exact ⟨others, root_object_iff.2 ⟨rfl, ha, found, (declared_permuted hall).trans hd, hid⟩, hall⟩

section Decode

variable {focus : String} {k : Keywords} {J J' : Json} {g g' : Graph} {L M : Labels}

/-- What is fresh for a description is fresh for it with items in another order. -/
theorem Permuted.fresh (hcheck : s.keywords.check = .ok ()) (h : Permuted s D x y)
    (hL : L.FreshFor x) : L.FreshFor y :=
  hL.mono (h.rearranged hcheck).strings

theorem decode_of_permuted (h : Permuted (.of focus k) shape.drive J J') (hL : L.FreshFor J)
    (hM : M.FreshFor J') (hg : decode focus shape J k L = .ok g) :
    ∃ g', decode focus shape J' k M = .ok g' ∧ g.isIsomorphic g' = true := by
  have hcheck := (prepare_ok (prepare_of_decode hg)).2
  refine decode_alike readsAlike_permuted (fun members a _ hr => ?_) hL (h.symm.fresh hcheck hM) hg
  obtain ⟨others, hr', hall⟩ := root_permuted h hr
  exact ⟨others, hr', membersAlike_permuted hall⟩

/-- Items in another order are read alike: one description can be read if the other can, and their
graphs are isomorphic. -/
theorem decode_permuted (h : Permuted (.of focus k) shape.drive J J') (hL : L.FreshFor J)
    (hM : M.FreshFor J') :
    ((∃ g, decode focus shape J k L = .ok g) ↔ ∃ g', decode focus shape J' k M = .ok g') ∧
      ∀ g g', decode focus shape J k L = .ok g → decode focus shape J' k M = .ok g' →
        g.isIsomorphic g' = true :=
  decode_iff_of_alike (fun _ => decode_of_permuted h hL hM) fun _ =>
    decode_of_permuted h.symm hM hL

end Decode

end LinkedShapes.Description
