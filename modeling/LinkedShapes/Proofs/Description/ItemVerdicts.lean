import LinkedShapes.Proofs.Description.Agreement
import LinkedShapes.Proofs.Description.Defects
import LinkedShapes.Proofs.Description.ItemOrder

/-!
# Validating items in another order

Validation looks at the items of an array as a group. In another order it comes to the same verdict,
part by part of the shape: the terms that it finds are alike, and so are the groups that fields lead
to.

* `terms_rearranged`: values that differ in the order of items stand for the same terms.
* `terms_of_group_rearranged`: the terms of a group are alike for its shape.
* `part_follows`: every part of a level has the same verdict, by induction on the shape. A field
  hands groups in another order to the level below.
-/

namespace LinkedShapes.Description

open Vocabulary

variable {s : Setting} {V W shape inner : Shape} {a : Aliases} {path path' name keyword : String}
variable {x y z root : Json} {xs mid ys values others nested : List Json} {L L' L₁ L₂ : Labels}
variable {members members' found found' : List (String × Json)} {ts us terms terms' : List Term}
variable {trace trace' t : Trace} {b : Bool}

/-! ## Terms -/

/-- No two members stand for types and have arrays or objects for them. -/
def TypesOnce (s : Setting) (V : Shape) (x : Json) : Prop :=
  ∀ members a, x = .object members → Aliases.ofShape V s.keywords = .ok a →
    (keyed s a members).Pairwise TypesApart

theorem eq_type_of_movable (h : IsMovable s name) (hk : objectKeyword? s a name = some keyword) :
    keyword = Keyword.type := by
  unfold objectKeyword? at hk
  split at hk
  · cases hk
  · obtain ⟨hkeyword, hobject⟩ := Option.filter_eq_some_iff.1 hk
    have hall : ∀ keyword ∈ objectKeywords, keyword = Keyword.type ∨
        keyword ∈ [Keyword.id, Keyword.value, Keyword.language] := by decide
    rcases hall keyword (List.contains_iff_mem.1 hobject) with heq | hmem
    · exact heq
    · exact absurd hkeyword (h keyword hmem)

theorem Rearranged.exists_members (h : Rearranged (IsMovable s) (.object members) y) :
    ∃ members', y = .object members' ∧ List.Forall₂ (MemberRearranged (IsMovable s)
      (Rearranged (IsMovable s))) members members' := by
  cases h with
  | same => exact ⟨members, rfl, List.forall₂_same.2 fun _ _ => .same⟩
  | object hall => exact ⟨_, rfl, hall⟩

/-- Values that differ in the order of items stand for the same terms. -/
theorem terms_rearranged (path' : String) (h : Rearranged (IsMovable s) x y)
    (ht : TypesOnce s V x) (hts : termsOfValue s V path x L = .ok (ts, L')) :
    ∃ us, termsOfValue s V path' y L = .ok (us, L') ∧ ∀ t, t ∈ us ↔ t ∈ ts := by
  rcases h.sameOrObjects with rfl | ⟨members, -, rfl, -⟩
  · refine ⟨ts, ?_, fun _ => Iff.rfl⟩
    rcases termsOfValue_draws hts with ⟨rfl, htold, -⟩ | ⟨rfl, rfl, hdrawn⟩
    · exact htold path' L'
    · exact hdrawn path' L
  obtain ⟨members', rfl, hall⟩ := h.exists_members
  obtain ⟨a, found, ha, hd⟩ := declared_of_terms hts
  have hobjects := hall.imp fun _ _ hm => hm.mono id fun _ _ _ => Rearranged.sameOrObjects
  obtain ⟨found', hd', hheld⟩ := declaredAfter_rearranged
    (fun _ _ => eq_type_of_movable) hobjects .nil (ht members a rfl ha) hd
  have hvalue : Json.lookup Keyword.value found' = Json.lookup Keyword.value found :=
    Held.lookup_eq hheld (by decide)
  have hid : Json.lookup Keyword.id found' = Json.lookup Keyword.id found :=
    Held.lookup_eq hheld (by decide)
  have hempty : found'.isEmpty = found.isEmpty := by cases hheld <;> rfl
  have hliteral : isLiteralObject V found' = isLiteralObject V found := by
    unfold isLiteralObject
    rw [hvalue, hempty]
  rw [termsOfValue_object ha hd] at hts
  rw [termsOfValue_object ha hd', hliteral]
  by_cases hl : isLiteralObject V found = true
  · rw [if_pos hl] at hts ⊢
    obtain ⟨hok, rfl⟩ := ok_of_run_lift hts
    obtain ⟨us, hus, hmem⟩ := literals_rearranged hobjects hheld hok
    exact ⟨us, lift_of_ok hus, hmem⟩
  · rw [if_neg hl] at hts ⊢
    have hresource : namedResource s found' = namedResource s found := by
      unfold namedResource
      rw [hid]
    rw [hresource]
    exact ⟨ts, hts, fun _ => Iff.rfl⟩

theorem keyed_rearranged {movable : String → Prop}
    (h : List.Forall₂ (MemberRearranged movable SameOrObjects) members members') :
    List.Forall₂ (fun m m' : String × Json => m'.1 = m.1 ∧ isCompound m'.2 = isCompound m.2)
      (keyed s a members) (keyed s a members') := by
  induction h with
  | nil => exact .nil
  | @cons m m' members members' hm _ ih =>
    have hvalue := hm.same_or_compound
    have hmname := hm.name_eq
    obtain ⟨name, x⟩ := m
    obtain ⟨name', y⟩ := m'
    obtain rfl : name' = name := hmname
    rw [keyed_cons, keyed_cons]
    cases objectKeyword? s a name' with
    | none => exact ih
    | some keyword =>
      refine .cons ⟨rfl, ?_⟩ ih
      rcases hvalue with heq | ⟨-, hx, hy⟩
      · exact congrArg isCompound heq
      · exact hy.trans hx.symm

theorem TypesOnce.rearranged (h : Rearranged (IsMovable s) x y) (ht : TypesOnce s V x) :
    TypesOnce s V y := by
  intro members' a hy ha
  rcases h.sameOrObjects with rfl | ⟨members, -, rfl, -⟩
  · exact ht members' a hy ha
  obtain ⟨_, rfl, hall⟩ := h.exists_members
  cases hy
  have hobjects := hall.imp fun _ _ hm => hm.mono id fun _ _ _ => Rearranged.sameOrObjects
  refine pairwise_of_forall₂ (fun m n m' n' hm hn hapart hm' hn' => ?_) (keyed_rearranged hobjects)
    (ht members a rfl ha)
  rw [hm.2, hn.2]
  exact hapart (hm.1 ▸ hm') (hn.1 ▸ hn')

theorem IsReadable.rearranged (h : Rearranged (IsMovable s) x y) (ht : TypesOnce s V x)
    (hx : IsReadable s V x) : IsReadable s V y := by
  obtain ⟨path, L, ts, L', hts⟩ := hx
  obtain ⟨us, hus, -⟩ := terms_rearranged path h ht hts
  exact ⟨path, L, us, L', hus⟩

theorem StandsFor.rearranged (h : Rearranged (IsMovable s) x y) (ht : TypesOnce s V x)
    (hx : StandsFor s V x ts) : ∃ us, StandsFor s V y us ∧ ∀ t, t ∈ us ↔ t ∈ ts := by
  obtain ⟨us, hus, hmem⟩ := terms_rearranged "" h ht (hx "" default)
  rcases termsOfValue_draws hus with ⟨-, htold, -⟩ | ⟨-, heq, -⟩
  · exact ⟨us, htold, hmem⟩
  · exact absurd heq.symm (Labels.after_succ_ne default 0)

theorem Draws.rearranged (h : Rearranged (IsMovable s) x y) (ht : TypesOnce s V x)
    (hx : Draws s V x) : Draws s V y := by
  obtain ⟨us, hus, -⟩ := terms_rearranged "" h ht (hx "" default)
  rcases termsOfValue_draws hus with ⟨heq, -⟩ | ⟨-, -, hdrawn⟩
  · exact absurd heq (Labels.after_succ_ne default 0)
  · exact hdrawn

/-! ## Groups of values -/

/-- Values in another order, the items in them as well. -/
abbrev Moved (s : Setting) : List Json → List Json → Prop := Regrouped (Rearranged (IsMovable s))

theorem Moved.symm (h : Moved s xs ys) : Moved s ys xs := by
  obtain ⟨mid, hp, hall⟩ := h
  exact Json.perm_forall₂_symm (fun _ _ _ hxy => hxy.symm) hp hall

theorem Moved.exists_left (h : Moved s xs ys) (hy : y ∈ ys) :
    ∃ x ∈ xs, Rearranged (IsMovable s) x y := by
  obtain ⟨mid, hp, hall⟩ := h
  obtain ⟨x, hx, hxy⟩ := (Json.exists_of_forall₂ hall).2 y hy
  exact ⟨x, hp.mem_iff.2 hx, hxy⟩

theorem Moved.exists_right (h : Moved s xs ys) (hx : x ∈ xs) :
    ∃ y ∈ ys, Rearranged (IsMovable s) x y := by
  obtain ⟨y, hy, hyx⟩ := h.symm.exists_left hx
  exact ⟨y, hy, hyx.symm⟩

theorem Moved.typesOnce (h : Moved s xs ys) (ht : ∀ x ∈ xs, TypesOnce s V x) :
    ∀ y ∈ ys, TypesOnce s V y := by
  intro y hy
  obtain ⟨x, hx, hxy⟩ := h.exists_left hy
  exact (ht x hx).rearranged hxy

theorem Moved.canBeRead (h : Moved s xs ys) (ht : ∀ x ∈ xs, TypesOnce s V x)
    (hread : CanBeRead s V xs) : CanBeRead s V ys := by
  intro y hy
  obtain ⟨x, hx, hxy⟩ := h.exists_left hy
  exact IsReadable.rearranged hxy (ht x hx) (hread x hx)

theorem Moved.strings (h : Moved s xs ys) (hx : ∀ x ∈ xs, x.strings ⊆ root.strings) :
    ∀ y ∈ ys, y.strings ⊆ root.strings := by
  intro y hy
  obtain ⟨x, hmem, hxy⟩ := h.exists_left hy
  exact List.Subset.trans hxy.strings (hx x hmem)

theorem Moved.stands (h : Moved s xs ys) (ht : ∀ x ∈ xs, TypesOnce s V x) {u : Term}
    (hu : ∃ x ∈ xs, ∃ ts, StandsFor s V x ts ∧ u ∈ ts) :
    ∃ y ∈ ys, ∃ ts, StandsFor s V y ts ∧ u ∈ ts := by
  obtain ⟨x, hx, ts, hts, hu⟩ := hu
  obtain ⟨y, hy, hxy⟩ := h.exists_right hx
  obtain ⟨us, hus, hmem⟩ := hts.rearranged hxy (ht x hx)
  exact ⟨y, hy, us, hus, (hmem u).2 hu⟩

open Classical in
theorem countP_of_forall₂ {α β : Type} {R : α → β → Prop} {P : α → Prop} {Q : β → Prop}
    {xs : List α} {ys : List β} (hr : ∀ x y, R x y → (P x ↔ Q y)) (h : List.Forall₂ R xs ys) :
    xs.countP (P ·) = ys.countP (Q ·) := by
  induction h with
  | nil => rfl
  | cons hxy _ ih =>
    rw [List.countP_cons, List.countP_cons, ih, decide_eq_decide.2 (hr _ _ hxy)]

open Classical in
/-- A label is drawn for as many values in either order. -/
theorem Moved.count_draws (h : Moved s xs ys) (ht : ∀ x ∈ xs, TypesOnce s V x) :
    xs.countP (Draws s V ·) = ys.countP (Draws s V ·) := by
  obtain ⟨mid, hp, hall⟩ := h
  have hall : List.Forall₂ (fun x y => TypesOnce s V x ∧ Rearranged (IsMovable s) x y) mid ys :=
    Json.forall₂_imp_of_mem (fun x hx y _ hxy => ⟨ht x (hp.mem_iff.2 hx), hxy⟩) hall
  rw [hp.countP_eq]
  exact countP_of_forall₂ (fun x y ⟨hx, hxy⟩ => ⟨fun hd => hd.rearranged hxy hx,
    fun hd => hd.rearranged hxy.symm (hx.rearranged hxy)⟩) hall

theorem isReadable_of_stands (h : StandsFor s V x ts) : IsReadable s V x :=
  ⟨"", default, ts, _, h _ _⟩

theorem isReadable_of_draws (h : Draws s V x) : IsReadable s V x := ⟨"", default, _, _, h _ _⟩

open Classical in
/-- Values that stand for terms can be read. -/
theorem stands_filter {u : Term} :
    (∃ x ∈ xs.filter (IsReadable s V ·), ∃ ts, StandsFor s V x ts ∧ u ∈ ts) ↔
      ∃ x ∈ xs, ∃ ts, StandsFor s V x ts ∧ u ∈ ts := by
  refine exists_congr fun x => ⟨fun ⟨hx, hu⟩ => ⟨(List.mem_filter.1 hx).1, hu⟩, ?_⟩
  rintro ⟨hx, ts, hts, hu⟩
  exact ⟨List.mem_filter.2 ⟨hx, decide_eq_true (isReadable_of_stands hts)⟩, ts, hts, hu⟩

open Classical in
/-- Values that labels are drawn for can be read. -/
theorem countP_draws_filter :
    (xs.filter (IsReadable s V ·)).countP (Draws s V ·) = xs.countP (Draws s V ·) := by
  rw [List.countP_filter]
  refine List.countP_congr fun x _ => ?_
  simpa using fun hd => isReadable_of_draws hd

/-- The terms that are found for values in another order are alike. -/
theorem terms_of_group_rearranged {issues issues' : Trace} (h : Moved s xs ys)
    (ht : ∀ x ∈ xs, TypesOnce s V x)
    (hlabels : ∀ x ∈ xs, Draws s V x → V.parts.any Shape.looksAtLabels = false)
    (hstrings : ∀ x ∈ xs, x.strings ⊆ root.strings)
    (hL : L.FreshFor root) (hL' : L'.FreshFor root)
    (hfound : termsOfGroup s V path 0 [] [] xs L = .ok ((terms, issues), L₁))
    (hfound' : termsOfGroup s V path' 0 [] [] ys L' = .ok ((terms', issues'), L₂)) :
    V.Alike terms terms' := by
  classical
  obtain ⟨us, hlisting, hnodup, hmem⟩ := listing_of_readable hfound
  obtain ⟨us', hlisting', hnodup', hmem'⟩ := listing_of_readable hfound'
  have hoff : KeepsOff s V root xs := keepsOff_of_strings hstrings
  have hoff' : KeepsOff s V root ys :=
    keepsOff_of_strings (h.strings hstrings)
  refine hlisting.alike_of_counts hlisting' (fun x hx => hoff x (List.mem_filter.1 hx).1)
    (fun x hx => hoff' x (List.mem_filter.1 hx).1) hL hL' (fun u => ?_) ?_
    (fun x hx => hlabels x (List.mem_filter.1 hx).1) (hnodup .nil) (fun u => ?_) (hnodup' .nil)
    fun u => ?_
  · rw [stands_filter, stands_filter]
    exact ⟨h.stands ht, h.symm.stands (h.typesOnce ht)⟩
  · -- the labels differ, but there are as many
    rw [countP_draws_filter, countP_draws_filter]
    exact h.count_draws ht
  · exact (hmem u).trans (or_iff_right List.not_mem_nil)
  · exact (hmem' u).trans (or_iff_right List.not_mem_nil)

/-- Values can be read in another order. -/
theorem issues_of_group_rearranged {issues issues' : Trace} (h : Moved s xs ys)
    (ht : ∀ x ∈ xs, TypesOnce s V x)
    (hfound : termsOfGroup s V path 0 [] [] xs L = .ok ((terms, issues), L₁))
    (hfound' : termsOfGroup s V path' 0 [] [] ys L' = .ok ((terms', issues'), L₂)) :
    issues'.isEmpty = issues.isEmpty := by
  rw [Bool.eq_iff_iff, isEmpty_termsOfGroup hfound, isEmpty_termsOfGroup hfound']
  exact ⟨h.symm.canBeRead (h.typesOnce ht), h.canBeRead ht⟩

/-! ## Values met below -/

/-- The values that validation meets below a value, with the shapes of the fields that they stand
in. -/
inductive Meets (s : Setting) : Shape → Json → Shape → Json → Prop
  | value {V V' : Shape} {x y : Json} {a : Aliases} {edge : Edge} {label : Option String}
      {name : String} {nested : List Json} : Aliases.ofShape V s.keywords = .ok a →
      .field edge label V' ∈ V.parts → a.nameOf? edge = some name →
      memberValues name x = .ok nested → y ∈ nested → Meets s V x V' y
  | inside {V V' W : Shape} {x y z : Json} : Meets s V x V' y → Meets s V' y W z → Meets s V x W z

/-- The order of items does not matter where a value is validated by `V`. -/
structure Orderless (s : Setting) (V : Shape) (x : Json) : Prop where
  /-- Labels are not looked at if one is drawn for the value. -/
  labels : Draws s V x → V.parts.any Shape.looksAtLabels = false
  types : TypesOnce s V x

theorem memberValues_rearranged (h : Rearranged (IsMovable s) x y)
    (hx : memberValues name x = .ok nested) :
    ∃ others, memberValues name y = .ok others ∧ Moved s nested others := by
  rcases h.sameOrObjects with rfl | ⟨members, -, rfl, -⟩
  · exact ⟨nested, hx, regrouped_self fun _ _ => .same⟩
  obtain ⟨members', rfl, hall⟩ := h.exists_members
  rw [memberValues_object] at hx ⊢
  cases hx
  refine ⟨_, rfl, ?_⟩
  clear h
  induction hall with
  | nil => exact regrouped_self nofun
  | @cons m m' members members' hm _ ih =>
    have hgrouped := hm.regrouped (fun _ => .same) fun _ _ => Rearranged.sameOrObjects
    have hmname := hm.name_eq
    obtain ⟨name', x⟩ := m
    obtain ⟨name'', y⟩ := m'
    obtain rfl : name'' = name' := hmname
    rw [Json.lookup, Json.lookup]
    by_cases heq : name'' = name
    · rw [if_pos heq, if_pos heq]
      exact hgrouped
    · rw [if_neg heq, if_neg heq]
      exact ih

theorem Meets.rearranged (hm : Meets s V y W z) (h : Rearranged (IsMovable s) x y) :
    ∃ w, Meets s V x W w ∧ Rearranged (IsMovable s) w z := by
  induction hm generalizing x with
  | value ha hpart hname hvalues hz =>
    obtain ⟨nested, hnested, hmoved⟩ := memberValues_rearranged h.symm hvalues
    obtain ⟨w, hw, hwz⟩ := hmoved.exists_right hz
    exact ⟨w, .value ha hpart hname hnested hw, hwz.symm⟩
  | inside _ _ ih ih' =>
    obtain ⟨v, hv, hvy⟩ := ih h
    obtain ⟨w, hw, hwz⟩ := ih' hvy
    exact ⟨w, .inside hv hw, hwz⟩

theorem Orderless.rearranged (h : Rearranged (IsMovable s) x y) (ho : Orderless s V x) :
    Orderless s V y where
  labels hd := ho.labels (hd.rearranged h.symm (ho.types.rearranged h))
  types := ho.types.rearranged h

theorem orderless_rearranged (h : Rearranged (IsMovable s) x y)
    (ho : ∀ W w, Meets s V x W w → Orderless s W w) : ∀ W z, Meets s V y W z → Orderless s W z := by
  intro W z hz
  obtain ⟨w, hw, hwz⟩ := hz.rearranged h
  exact (ho W w hw).rearranged hwz

/-! ## Verdicts -/

/-- Wherever one computation comes to a verdict, so does the other, and to the same. -/
def SameVerdict (root : Json) (m m' : Validating Trace) : Prop :=
  ∀ L L' t L₁, L.FreshFor root → L'.FreshFor root → m L = .ok (t, L₁) →
    ∃ t' L₂, m' L' = .ok (t', L₂) ∧ t'.isEmpty = t.isEmpty

theorem isEmpty_merge_congr (ht : trace.Tidy) (ht' : trace'.Tidy) {other other' : Trace}
    (ho : other.Tidy) (ho' : other'.Tidy) (h : trace'.isEmpty = trace.isEmpty)
    (hother : other'.isEmpty = other.isEmpty) :
    (trace'.merge other').isEmpty = (trace.merge other).isEmpty := by
  rw [Bool.eq_iff_iff, Trace.isEmpty_merge ht' ho', Trace.isEmpty_merge ht ho, h, hother]

section Connectives

variable {shapes : List Shape}

theorem validateAll_follows (h : ∀ shape ∈ shapes, SameVerdict root
      (validateGroup s a values terms shape) (validateGroup s a others terms' shape))
    (ht : trace.Tidy) (ht' : trace'.Tidy) (hempty : trace'.isEmpty = trace.isEmpty) :
    SameVerdict root (validateAll s a values terms trace shapes)
      (validateAll s a others terms' trace' shapes) := by
  intro L L' t L₁ hL hL' hrun
  induction shapes generalizing trace trace' L L' with
  | nil =>
    rw [validateAll] at hrun
    cases hrun
    exact ⟨trace', L', by rw [validateAll]; rfl, hempty⟩
  | cons shape shapes ih =>
    obtain ⟨hshape, hshapes⟩ := List.forall_mem_cons.1 h
    rw [validateAll] at hrun ⊢
    obtain ⟨y, L₂, hy, hrun⟩ := run_ok_of_bind hrun
    obtain ⟨y', L₃, hy', hsame⟩ := hshape L L' y L₂ hL hL' hy
    obtain ⟨htidy, hle⟩ := proper shape _ _ _ _ _ _ hy
    obtain ⟨htidy', hle'⟩ := proper shape _ _ _ _ _ _ hy'
    rw [bind_of_ok hy']
    exact ih hshapes (Trace.tidy_merge ht htidy) (Trace.tidy_merge ht' htidy')
      (isEmpty_merge_congr ht ht' htidy htidy' hempty hsame) L₂ L₃ (hL.leaves hle)
      (hL'.leaves hle') hrun

theorem validateAny_follows (h : ∀ shape ∈ shapes, SameVerdict root
      (validateGroup s a values terms shape) (validateGroup s a others terms' shape)) :
    SameVerdict root (validateAny s a values terms shapes)
      (validateAny s a others terms' shapes) := by
  intro L L' t L₁ hL hL' hrun
  induction shapes generalizing L L' with
  | nil =>
    rw [validateAny] at hrun
    cases hrun
    exact ⟨_, L', by rw [validateAny]; rfl, rfl⟩
  | cons shape shapes ih =>
    obtain ⟨hshape, hshapes⟩ := List.forall_mem_cons.1 h
    rw [validateAny] at hrun ⊢
    obtain ⟨y, L₂, hy, hrun⟩ := run_ok_of_bind hrun
    obtain ⟨y', L₃, hy', hsame⟩ := hshape L L' y L₂ hL hL' hy
    have hle := (proper shape _ _ _ _ _ _ hy).2
    have hle' := (proper shape _ _ _ _ _ _ hy').2
    rw [bind_of_ok hy']
    cases hempty : y.isEmpty with
    | true =>
      rw [hempty, if_pos rfl] at hrun
      cases hrun
      refine ⟨.empty, L₃, ?_, rfl⟩
      rw [hsame, hempty, if_pos rfl]
      rfl
    | false =>
      rw [hempty, if_neg Bool.false_ne_true] at hrun
      rw [hsame, hempty, if_neg Bool.false_ne_true]
      exact ih hshapes L₂ L₃ (hL.leaves hle) (hL'.leaves hle') hrun

end Connectives

/-! ## Along fields -/

/-- The step along a field, at a value, that comes to a verdict in any case. -/
def StepsTo (s : Setting) (root : Json) (name : String) (shape : Shape) (json : Json) (b : Bool) :
    Prop :=
  ∀ trace L, Trace.Tidy trace → L.FreshFor root → ∃ t L', memberStep s name shape trace json L =
    .ok (t, L') ∧ t.Tidy ∧ L.Leaves L' ∧ (t.isEmpty = true ↔ trace.isEmpty = true ∧ b = true)

theorem StepsTo.unique {c : Bool} (h : StepsTo s root name shape x b)
    (h' : StepsTo s root name shape x c) : b = c := by
  obtain ⟨t, L, ht, -, -, hempty⟩ := h .empty _ Trace.tidy_empty (Labels.freshFor_beyondJson root)
  obtain ⟨t', L', ht', -, -, hempty'⟩ :=
    h' .empty _ Trace.tidy_empty (Labels.freshFor_beyondJson root)
  rw [ht] at ht'
  cases ht'
  have hstart : Trace.empty.isEmpty = true := rfl
  rw [Bool.eq_iff_iff]
  exact ((and_iff_right hstart).symm.trans hempty.symm).trans
    (hempty'.trans (and_iff_right hstart))

/-- Steps that come to a verdict each do so together. -/
theorem foldlM_steps (h : ∀ x ∈ values, ∃ b, StepsTo s root name shape x b) (ht : trace.Tidy)
    (hL : L.FreshFor root) : ∃ t L', values.foldlM (memberStep s name shape) trace L = .ok (t, L') ∧
      Merged trace t values (StepsTo s root name shape) := by
  induction values generalizing trace L with
  | nil => exact ⟨trace, L, rfl, .nil ht⟩
  | cons x values ih =>
    obtain ⟨⟨b, hx⟩, hvalues⟩ := List.forall_mem_cons.1 h
    obtain ⟨next, L₁, hnext, htidy, hle, hempty⟩ := hx trace L ht hL
    obtain ⟨t, L', hrun, hmerged⟩ := ih hvalues htidy (hL.leaves hle)
    exact ⟨t, L', by rw [List.foldlM_cons, bind_of_ok hnext]; exact hrun, .cons hx hempty hmerged⟩

/-- All runs along a field come to a verdict at each of the values. -/
theorem exists_verdict (ht : trace.Tidy) (hL : L.FreshFor root)
    (h : values.foldlM (memberStep s name shape) trace L = .ok (t, L')) :
    ∀ x ∈ values, ∃ b, ValidatesMember s root name shape x b := by
  induction values generalizing trace L with
  | nil => exact fun x hx => absurd hx List.not_mem_nil
  | cons x values ih =>
    rw [List.foldlM_cons] at h
    obtain ⟨next, L₁, hnext, h⟩ := run_ok_of_bind h
    obtain ⟨b, hverdict, htidy, hle, -⟩ := memberStep_ok ht hL (proper shape) hnext
    exact List.forall_mem_cons.2 ⟨⟨b, hverdict⟩, ih htidy (hL.leaves hle) h⟩

/-- Values at a name are listed in a member of an object. -/
theorem mem_of_memberValues (h : memberValues name x = .ok nested) (hy : y ∈ nested) :
    ∃ members json, x = .object members ∧ (name, json) ∈ members ∧ y ∈ listed json := by
  cases x with
  | object members =>
    rw [memberValues_object] at h
    cases h
    cases hl : Json.lookup name members with
    | none =>
      rw [hl] at hy
      exact absurd hy List.not_mem_nil
    | some json =>
      rw [hl] at hy
      exact ⟨members, json, rfl, mem_of_lookup_json hl, hy⟩
  | string _ =>
    cases h
    exact absurd hy List.not_mem_nil
  | _ => cases h

theorem strings_of_memberValues (h : memberValues name x = .ok nested) :
    ∀ y ∈ nested, y.strings ⊆ x.strings := by
  intro y hy
  obtain ⟨members, json, rfl, hmem, hlisted⟩ := mem_of_memberValues h hy
  rw [Json.strings]
  exact List.Subset.trans (strings_of_listed hlisted) (strings_of_member hmem)

theorem expected_rearranged (h : Moved s xs ys)
    (hx : (unexpectedMembers s a V xs).isEmpty = true) :
    (unexpectedMembers s a V ys).isEmpty = true := by
  rw [isEmpty_unexpectedMembers] at hx ⊢
  refine hx.imp id fun hall members' hmem m' hm' => ?_
  obtain ⟨x, hx, hxy⟩ := h.exists_left hmem
  obtain ⟨members, rfl, hmembers⟩ := hxy.symm.exists_members
  obtain ⟨m, hm, hmm⟩ := (Json.exists_of_forall₂ hmembers).1 m' hm'
  rw [← hmm.name_eq]
  exact hall members hx m hm

/-! ## Parts of a level -/

/-- Values in another order, and terms for them that are alike for a level. -/
structure Counterparts (s : Setting) (root : Json) (V : Shape) (values others : List Json)
    (terms terms' : List Term) : Prop where
  moved : Moved s values others
  alike : V.Alike terms terms'
  strings : ∀ x ∈ values, x.strings ⊆ root.strings
  orderless : ∀ x ∈ values, ∀ W y, Meets s V x W y → Orderless s W y

/-- A part of a level comes to the same verdict for values in another order. -/
def PartFollows (s : Setting) (root : Json) (part : Shape) : Prop :=
  ∀ V a values others terms terms', part.parts ⊆ V.parts → Aliases.ofShape V s.keywords = .ok a →
    Counterparts s root V values others terms terms' →
    SameVerdict root (validateGroup s a values terms part)
      (validateGroup s a others terms' part)

/-- The values of a field come to the same verdict in another order. -/
theorem steps_of_values {issues : Trace} (hinner : PartFollows s root inner)
    (ha : Aliases.ofShape inner s.keywords = .ok a) (hmoved : Moved s nested others)
    (hstrings : ∀ z ∈ nested, z.strings ⊆ root.strings) (ho : ∀ z ∈ nested, Orderless s inner z)
    (hbelow : ∀ z ∈ nested, ∀ W w, Meets s inner z W w → Orderless s W w)
    (hfresh : L₁.FreshFor root)
    (hgroup : termsOfGroup s inner ("/" ++ name) 0 [] [] nested L₁ = .ok ((terms, issues), L₂))
    (hv : Validates s root a nested terms inner b) (hnull : y ≠ .null)
    (hvalues : memberValues name y = .ok others) :
    StepsTo s root name inner y
      (issues.isEmpty && b && (unexpectedMembers s a inner nested).isEmpty) := by
  intro trace L ht hL
  obtain ⟨⟨terms', issues'⟩, L', hgroup'⟩ : ∃ p L', termsOfGroup s inner ("/" ++ name) 0 [] []
      others L = .ok (p, L') := termsOfGroup_total ha
  have htypes : ∀ z ∈ nested, TypesOnce s inner z := fun z hz => (ho z hz).types
  have halike := terms_of_group_rearranged hmoved htypes (fun z hz => (ho z hz).labels) hstrings
    hfresh hL hgroup hgroup'
  have hissues := issues_of_group_rearranged hmoved htypes hgroup hgroup'
  -- the verdict was reached from some supply; the other order is validated from its own
  obtain ⟨L₃, t, L₄, hL₃, hrun, rfl⟩ := hv
  obtain ⟨t', L₅, hrun', hsame⟩ := hinner inner a nested others terms terms' (List.Subset.refl _) ha
    ⟨hmoved, halike, hstrings, hbelow⟩ L₃ L' t L₄ hL₃
    (hL.leaves (leaves_of_group hgroup')) hrun
  have hexpected : (unexpectedMembers s a inner others).isEmpty =
      (unexpectedMembers s a inner nested).isEmpty := by
    rw [Bool.eq_iff_iff]
    exact ⟨expected_rearranged hmoved.symm, expected_rearranged hmoved⟩
  obtain ⟨htidy, hle⟩ := proper inner _ _ _ _ _ _ hrun'
  obtain ⟨next, hnext, hnextTidy, hempty⟩ :=
    memberStep_values ht hnull hvalues hgroup' ha hrun' htidy
  rw [hissues, hsame, hexpected] at hempty
  exact ⟨next, L₅, hnext, hnextTidy, (leaves_of_group hgroup').trans hle, hempty⟩

/-- A value in another order comes to the same verdict along a field. -/
theorem steps_of_validates {edge : Edge} {label : Option String}
    (hinner : PartFollows s root inner) (ha : Aliases.ofShape V s.keywords = .ok a)
    (hpart : .field edge label inner ∈ V.parts) (hname : a.nameOf? edge = some name)
    (h : Rearranged (IsMovable s) x y) (hstrings : x.strings ⊆ root.strings)
    (ho : ∀ W z, Meets s V x W z → Orderless s W z)
    (hv : ValidatesMember s root name inner x b) :
    StepsTo s root name inner y b := by
  cases hv with
  | null =>
    rw [h.sameOrObjects.eq_of_ne_object nofun]
    exact fun trace L ht _ => ⟨trace, L, rfl, ht, .refl _, (and_iff_left rfl).symm⟩
  | unstructured hnull herror =>
    rw [h.sameOrObjects.eq_of_ne_object fun members hx => by
      rw [hx, memberValues_object] at herror
      cases herror]
    obtain ⟨htidy, hfault⟩ := memberValues_error herror
    refine fun trace L ht _ => ⟨_, L, ?_, Trace.tidy_merge ht htidy, .refl _, ?_⟩
    · rw [memberStep_of_ne_null hnull, herror]
      rfl
    · rw [Trace.isEmpty_merge ht htidy, hfault]
  | @values _ nested _ _ _ _ _ _ hnull hvalues hfresh hgroup hc hverdict =>
    -- only the values of a field move, and each of them is in another order itself
    obtain ⟨others, hvalues', hmoved⟩ := memberValues_rearranged h hvalues
    have hnull' : y ≠ .null := by
      rcases h.sameOrObjects with rfl | ⟨_, _, -, rfl⟩
      · exact hnull
      · rintro ⟨⟩
    have hmeets : ∀ z ∈ nested, Meets s V x inner z := fun z hz => .value ha hpart hname hvalues hz
    have hnested : ∀ z ∈ nested, z.strings ⊆ root.strings := fun z hz =>
      List.Subset.trans (strings_of_memberValues hvalues z hz) hstrings
    exact steps_of_values hinner hc hmoved hnested (fun z hz => ho _ _ (hmeets z hz))
      (fun z hz W w hw => ho W w (.inside (hmeets z hz) hw)) hfresh hgroup hverdict hnull' hvalues'

namespace PartFollows

variable {shapes : List Shape} {test pass fail part : Shape} {iri : String} {edge : Edge}
variable {label : Option String}

theorem and (h : ∀ shape ∈ shapes, PartFollows s root shape) :
    PartFollows s root (.and shapes) := by
  intro V a values others terms terms' hsub ha hc
  rw [validateGroup, validateGroup]
  refine validateAll_follows (fun shape hshape => ?_) Trace.tidy_empty Trace.tidy_empty rfl
  exact h shape hshape V a values others terms terms'
    (fun p hp => hsub (Shape.mem_partsOfAll.2 ⟨shape, hshape, hp⟩)) ha hc

theorem or (h : ∀ shape ∈ shapes, PartFollows s root shape) :
    PartFollows s root (.or shapes) := by
  intro V a values others terms terms' hsub ha hc
  rw [validateGroup, validateGroup]
  refine validateAny_follows fun shape hshape => ?_
  exact h shape hshape V a values others terms terms'
    (fun p hp => hsub (Shape.mem_partsOfAll.2 ⟨shape, hshape, hp⟩)) ha hc

/-- The tests come to the same verdict, so that both turn to the same branch. -/
theorem when (ht : PartFollows s root test) (hp : PartFollows s root pass)
    (hf : PartFollows s root fail) : PartFollows s root (.when test pass fail) := by
  intro V a values others terms terms' hsub ha hc L L' t L₁ hL hL' hrun
  obtain ⟨htest, hpass, hfail⟩ := Shape.ofLevel_when test pass fail
  have htest : test.parts ⊆ V.parts := List.Subset.trans htest.parts hsub
  have hpass : pass.parts ⊆ V.parts := List.Subset.trans hpass.parts hsub
  have hfail : fail.parts ⊆ V.parts := List.Subset.trans hfail.parts hsub
  rw [validateGroup] at hrun ⊢
  obtain ⟨y, L₂, hy, hrun⟩ := run_ok_of_bind hrun
  obtain ⟨y', L₃, hy', hsame⟩ := ht V a values others terms terms' htest ha hc L L' y L₂ hL hL' hy
  have hL₂ := hL.leaves (proper test _ _ _ _ _ _ hy).2
  have hL₃ := hL'.leaves (proper test _ _ _ _ _ _ hy').2
  rw [bind_of_ok hy', hsame]
  cases hempty : y.isEmpty with
  | true =>
    rw [hempty] at hrun
    exact hp V a values others terms terms' hpass ha hc L₂ L₃ t L₁ hL₂ hL₃ hrun
  | false =>
    rw [hempty] at hrun
    exact hf V a values others terms terms' hfail ha hc L₂ L₃ t L₁ hL₂ hL₃ hrun

theorem link (h : PartFollows s root inner) : PartFollows s root (.link iri inner) := by
  intro V a values others terms terms' hsub ha hc
  rw [validateGroup_link, validateGroup_link]
  exact h V a values others terms terms' hsub ha hc

theorem leaf (hl : part.isLeaf = true) : PartFollows s root part := by
  intro V a values others terms terms' hsub ha hc L L' t L₁ hL hL' hrun
  obtain ⟨hcheck, -⟩ := validateGroup_leaf hl hrun
  obtain ⟨t', hcheck'⟩ := Shape.check_ok hcheck terms'
  rw [Shape.parts_of_isLeaf hl] at hsub
  refine ⟨t', L', ?_, ?_⟩
  · rw [validateGroup_leaf_eq hl]
    exact lift_of_ok hcheck'
  · exact (Bool.eq_iff_iff.2
      (Shape.check_like hc.alike (hsub (List.mem_singleton_self _)) hcheck hcheck')).symm

/-- A field is at fault for one of the values if it is for one of the others. -/
theorem field (h : PartFollows s root inner) : PartFollows s root (.field edge label inner) := by
  intro V a values others terms terms' hsub ha hc L L' t L₁ hL hL' hrun
  have hpart : .field edge label inner ∈ V.parts := hsub (List.mem_singleton_self _)
  obtain ⟨name, halias, hfold⟩ := validateGroup_field hrun
  have hname := nameOf?_of_fieldAlias halias
  have hsteps : ∀ x ∈ values, ∀ y, Rearranged (IsMovable s) x y → ∀ b,
      ValidatesMember s root name inner x b →
      StepsTo s root name inner y b := fun x hx y hxy b hb =>
    steps_of_validates h ha hpart hname hxy (hc.strings x hx) (hc.orderless x hx) hb
  -- a verdict at one of the others comes from the run over the values, which came to an end
  have hverdicts := exists_verdict Trace.tidy_empty hL hfold
  have hothers : ∀ y ∈ others, ∃ b, StepsTo s root name inner y b := by
    intro y hy
    obtain ⟨x, hx, hxy⟩ := hc.moved.exists_left hy
    obtain ⟨b, hb⟩ := hverdicts x hx
    exact ⟨b, hsteps x hx y hxy b hb⟩
  obtain ⟨t', L₂, hfold', hmerged'⟩ := foldlM_steps hothers Trace.tidy_empty hL'
  have hmerged := (foldlM_memberStep Trace.tidy_empty hL (proper inner) hfold).1
  refine ⟨t', L₂, ?_, ?_⟩
  · rw [validateGroup_field_eq, bind_of_ok (lift_of_ok halias)]
    exact hfold'
  · refine ((hmerged.allOf rfl).agree (hmerged'.allOf rfl) (fun x hx hfalse => ?_)
      fun y hy hfalse => ?_).symm
    · obtain ⟨y, hy, hxy⟩ := hc.moved.exists_right hx
      exact ⟨y, hy, fun htrue => nomatch (hsteps x hx y hxy _ hfalse).unique htrue⟩
    · obtain ⟨x, hx, hxy⟩ := hc.moved.exists_left hy
      exact ⟨x, hx, fun htrue => nomatch (hsteps x hx y hxy _ htrue).unique hfalse⟩

end PartFollows

/-- Every part of a level comes to the same verdict for values in another order. -/
theorem part_follows (part : Shape) : PartFollows s root part := by
  induction part using Shape.induct with
  | and shapes ih => exact .and ih
  | or shapes ih => exact .or ih
  | when test pass fail iht ihp ihf => exact .when iht ihp ihf
  | field edge label inner ih => exact .field ih
  | link iri inner ih => exact .link ih
  | leaf part hl => exact .leaf hl

/-! ## The focus -/

/-- A description in another order comes to the same verdict. -/
theorem validateFocus_follows (hcheck : s.keywords.check = .ok ()) (h : Permuted s V x y)
    (ho : ∀ W z, Meets s V x W z → Orderless s W z) :
    SameVerdict x (validateFocus s V x) (validateFocus s V y) := by
  intro L L' t L₁ hL hL' hv
  obtain ⟨a, -, ha, -⟩ := validateFocus_ok hL hv
  have hroot : (∃ p, Description.root s V y = .ok p) ↔ ∃ p, Description.root s V x = .ok p := by
    constructor
    · rintro ⟨⟨members, b⟩, hr⟩
      obtain ⟨others, hr', -⟩ := root_permuted h.symm hr
      exact ⟨_, hr'⟩
    · rintro ⟨⟨members, b⟩, hr⟩
      obtain ⟨others, hr', -⟩ := root_permuted h hr
      exact ⟨_, hr'⟩
  have hmoved : Moved s [x] [y] := ⟨[x], .refl _, .cons (h.rearranged hcheck) .nil⟩
  have hc : Counterparts s x V [x] [y] [.iri s.focus] [.iri s.focus] :=
    ⟨hmoved, .refl, List.forall_mem_singleton.2 (List.Subset.refl _),
      List.forall_mem_singleton.2 ho⟩
  obtain ⟨issues, htidy, hissues, hx⟩ := validateFocus_eq ha x
  obtain ⟨issues', htidy', hissues', hy⟩ := validateFocus_eq ha y
  rw [hx] at hv
  obtain ⟨found, L₂, hfound, hv⟩ := run_ok_of_bind hv
  cases hv
  obtain ⟨found', L₃, hfound', hsame⟩ := part_follows V V a [x] [y] _ _ (List.Subset.refl _) ha hc
    L L' found _ hL hL' hfound
  refine ⟨(issues'.merge found').merge (unexpectedMembers s a V [y]), L₃, ?_, ?_⟩
  · rw [hy, bind_of_ok hfound']
    rfl
  · have hfoundTidy := (proper V _ _ _ _ _ _ hfound).1
    have hfoundTidy' := (proper V _ _ _ _ _ _ hfound').1
    -- the trace has three parts, and each of them is empty for both orders or for none
    refine isEmpty_merge_congr (Trace.tidy_merge htidy hfoundTidy)
      (Trace.tidy_merge htidy' hfoundTidy') tidy_unexpectedMembers tidy_unexpectedMembers
      (isEmpty_merge_congr htidy htidy' hfoundTidy hfoundTidy' ?_ hsame) ?_
    · rw [Bool.eq_iff_iff, hissues, hissues']
      exact hroot
    · rw [Bool.eq_iff_iff]
      exact ⟨expected_rearranged hmoved.symm, expected_rearranged hmoved⟩

section Validate

variable {focus : String} {k : Keywords} {J J' : Json} {M : Labels}

/-- What validation comes to: whether a description is valid, or none for a defect of the shape. -/
def outcome (found : Except ShapeError Trace) : Option Bool :=
  found.toOption.map Trace.isEmpty

theorem outcome_eq_some {found : Except ShapeError Trace} :
    outcome found = some b ↔ ∃ trace, found = .ok trace ∧ trace.isEmpty = b := by
  cases found with
  | ok trace => simp [outcome, Except.toOption]
  | error defect => simp [outcome, Except.toOption]

theorem validate_of_permuted (h : Permuted (.of focus k) shape.drive J J')
    (ho : ∀ V x, Meets (.of focus k) shape.drive J V x → Orderless (.of focus k) V x)
    (hL : L.FreshFor J) (hM : M.FreshFor J') (hv : outcome (validate focus shape J k L) = some b) :
    outcome (validate focus shape J' k M) = some b := by
  obtain ⟨trace, hrun, rfl⟩ := outcome_eq_some.1 hv
  obtain ⟨driver, hprepare, hrun⟩ := ok_of_bind hrun
  obtain ⟨rfl, hcheck⟩ := prepare_ok hprepare
  obtain ⟨⟨trace', L'⟩, hrun, hresult⟩ := ok_of_bind hrun
  cases hresult
  obtain ⟨trace', M', hrun', hsame⟩ := validateFocus_follows hcheck h ho L M _ _ hL
    (h.symm.fresh hcheck hM) hrun
  refine outcome_eq_some.2 ⟨trace', ?_, hsame⟩
  unfold validate
  rw [hprepare]
  show (validateFocus (.of focus k) shape.drive J' M >>= _) = _
  rw [hrun']
  rfl

/-- Descriptions that differ in the order of items come to the same outcome. -/
theorem validate_permuted (h : Permuted (.of focus k) shape.drive J J') (hL : L.FreshFor J)
    (hM : M.FreshFor J')
    (ho : ∀ V x, Meets (.of focus k) shape.drive J V x → Orderless (.of focus k) V x) :
    outcome (validate focus shape J k L) = outcome (validate focus shape J' k M) := by
  cases hprepare : prepare shape k with
  | error defect =>
    unfold validate
    rw [hprepare]
    rfl
  | ok driver =>
    -- what is asked of the values in one description holds of those in the other
    have ho' := orderless_rearranged (h.rearranged (prepare_ok hprepare).2) ho
    exact Option.ext fun b =>
      ⟨validate_of_permuted h ho hL hM, validate_of_permuted h.symm ho' hM hL⟩

end Validate

end LinkedShapes.Description
