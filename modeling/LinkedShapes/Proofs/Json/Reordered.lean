import Mathlib.Algebra.Order.Field.Rat
import Mathlib.Data.List.Perm.Basic
import Mathlib.Data.List.Perm.Subperm
import Mathlib.Tactic.Ring
import LinkedShapes.Proofs.Description.Members

/-!
# The order of members

Objects are compared whatever the order of their members. Values that differ in nothing else are
related by `Reordered`, which also says how their numbers may differ.

* `Json.Reordered.symm`, `Json.Reordered.comp`: the relation may be read backwards and put
  together.
* `Json.same_iff`: values are found to be the same if they are, up to the order of members and
  numbers that are equal, as long as no object has two members of one name.
* `Json.objects`: the objects inside a value. Those of values in another order are in another
  order.
-/

namespace LinkedShapes

/-! ## Numbers -/

namespace Double

/-- The number that a finite double stands for. -/
def toRat (negative : Bool) (significand : Nat) (exponent : Int) : ℚ :=
  (if negative then -(significand : ℚ) else significand) * 2 ^ exponent

/-- What a double stands for, an infinity of a sign or a number. -/
def measure? : Double → Option (Bool ⊕ ℚ)
  | .nan => none
  | .infinite negative => some (.inl negative)
  | .finite negative significand exponent => some (.inr (toRat negative significand exponent))

theorem order?_finite_eq {s t : Bool} {m n : Nat} {e f : Int} :
    order? (.finite s m e) (.finite t n f) = some .eq ↔ toRat s m e = toRat t n f := by
  -- both numbers as multiples of the power with the lower exponent
  have hscale : ∀ (s : Bool) (m : Nat) (e low : Int), low ≤ e → toRat s m e =
      ((if s then -((m <<< (e - low).toNat : Nat) : Int)
        else (m <<< (e - low).toNat : Nat)) : Int) * (2 : ℚ) ^ low := by
    intro s m e low hle
    have hpow : (2 : ℚ) ^ e = 2 ^ (e - low).toNat * 2 ^ low := by
      rw [← zpow_natCast, ← zpow_add₀ two_ne_zero, Int.toNat_of_nonneg (by omega)]
      congr 1
      omega
    unfold toRat
    rw [hpow, Nat.shiftLeft_eq]
    cases s
    · simp only [Bool.false_eq_true, if_false]
      push_cast
      ring
    · simp only [if_true]
      push_cast
      ring
  have hne : (2 : ℚ) ^ min e f ≠ 0 := zpow_ne_zero _ two_ne_zero
  rw [hscale s m e (min e f) (min_le_left e f), hscale t n f (min e f) (min_le_right e f),
    mul_left_inj' hne, Int.cast_inj]
  unfold order?
  simp only [Option.some.injEq, Std.LawfulEqOrd.compare_eq_iff_eq]

/-- Doubles are equal if they stand for the same. -/
theorem order?_eq_iff {x y : Double} :
    x.order? y = some .eq ↔ ∃ v, x.measure? = some v ∧ y.measure? = some v := by
  cases x with
  | nan => simp [order?, measure?]
  | infinite s =>
    cases y with
    | infinite t => cases s <;> cases t <;> simp [order?, measure?, compare, compareOfLessAndEq]
    | nan => simp [order?, measure?]
    | finite t n f => cases s <;> simp [order?, measure?]
  | finite s m e =>
    cases y with
    | nan => simp [order?, measure?]
    | infinite t => cases t <;> simp [order?, measure?]
    | finite t n f =>
      rw [order?_finite_eq]
      simp [measure?, eq_comm]

end Double

namespace Json

namespace Number

variable {x y z : Number}

/-- What a number stands for, integers and doubles apart. -/
def measure? : Number → Option (Int ⊕ Bool ⊕ ℚ)
  | .integer n => some (.inl n)
  | .double d => d.measure?.map .inr

/-- Numbers are the same if they stand for the same. -/
theorem same_iff_measure? : x.same y = true ↔ ∃ v, x.measure? = some v ∧ y.measure? = some v := by
  cases x with
  | integer m =>
    cases y with
    | integer n =>
      simp only [same, beq_iff_eq, measure?]
      constructor
      · rintro rfl
        exact ⟨_, rfl, rfl⟩
      · rintro ⟨v, hm, hn⟩
        cases hm
        cases hn
        rfl
    | double e => simp [same, measure?]
  | double d =>
    cases y with
    | integer n => simp [same, measure?]
    | double e =>
      simp only [same, beq_iff_eq, Double.order?_eq_iff, measure?, Option.map_eq_some_iff]
      constructor
      · rintro ⟨v, hd, he⟩
        exact ⟨.inr v, ⟨v, hd, rfl⟩, ⟨v, he, rfl⟩⟩
      · rintro ⟨_, ⟨v, hd, rfl⟩, ⟨w, he, hw⟩⟩
        cases hw
        exact ⟨v, hd, he⟩

theorem same_symm (h : x.same y = true) : y.same x = true := by
  obtain ⟨v, hx, hy⟩ := same_iff_measure?.1 h
  exact same_iff_measure?.2 ⟨v, hy, hx⟩

theorem same_trans (h : x.same y = true) (h' : y.same z = true) : x.same z = true := by
  obtain ⟨v, hx, hy⟩ := same_iff_measure?.1 h
  obtain ⟨w, hy', hz⟩ := same_iff_measure?.1 h'
  rw [hy] at hy'
  cases hy'
  exact same_iff_measure?.2 ⟨v, hx, hz⟩

end Number

/-! ## Induction -/

section Induct

variable {P : Json → Prop}

/-- Induction over values, with one case for all that have no parts. -/
@[elab_as_elim]
theorem induct (array : ∀ xs, (∀ x ∈ xs, P x) → P (.array xs))
    (object : ∀ members, (∀ m ∈ members, P m.2) → P (.object members))
    (leaf : ∀ x, (∀ xs, x ≠ .array xs) → (∀ members, x ≠ .object members) → P x) (x : Json) :
    P x := by
  refine @Json.rec P (fun xs => ∀ x ∈ xs, P x) (fun ms => ∀ m ∈ ms, P m.2) (fun m => P m.2)
    (leaf _ nofun nofun) (fun _ => leaf _ nofun nofun) (fun _ => leaf _ nofun nofun)
    (fun _ => leaf _ nofun nofun) array object ?_ ?_ ?_ ?_ ?_ x
  · exact fun x hx => absurd hx List.not_mem_nil
  · exact fun x xs hx hxs => List.forall_mem_cons.2 ⟨hx, hxs⟩
  · exact fun m hm => absurd hm List.not_mem_nil
  · exact fun m ms hm hms => List.forall_mem_cons.2 ⟨hm, hms⟩
  · exact fun _ x hx => hx

end Induct

/-! ## Values in another order -/

/-- Members of one name with related values. -/
inductive Named (R : Json → Json → Prop) : String × Json → String × Json → Prop
  | mk {name : String} {x y : Json} : R x y → Named R (name, x) (name, y)

/-- Values that are the same up to the order of members, whose numbers are related. -/
inductive Reordered (N : Number → Number → Prop) : Json → Json → Prop
  | null : Reordered N .null .null
  | bool {b : Bool} : Reordered N (.bool b) (.bool b)
  | number {m n : Number} : N m n → Reordered N (.number m) (.number n)
  | string {text : String} : Reordered N (.string text) (.string text)
  | array {xs ys : List Json} :
      List.Forall₂ (Reordered N) xs ys → Reordered N (.array xs) (.array ys)
  | object {members mid others : List (String × Json)} : members.Perm mid →
      List.Forall₂ (Named (Reordered N)) mid others → Reordered N (.object members) (.object others)

/-- Values that differ in nothing but the order of members. -/
abbrev Shuffled : Json → Json → Prop := Reordered Eq

section Named

variable {R S : Json → Json → Prop} {m n : String × Json}
variable {members mid others : List (String × Json)}

theorem Named.name_eq (h : Named R m n) : n.1 = m.1 := by
  cases h
  rfl

theorem Named.value (h : Named R m n) : R m.2 n.2 := by
  cases h
  assumption

theorem Named.of (hn : n.1 = m.1) (hr : R m.2 n.2) : Named R m n := by
  obtain ⟨name, x⟩ := m
  obtain ⟨name', y⟩ := n
  cases hn
  exact .mk hr

theorem names_of_forall₂ (h : List.Forall₂ (Named R) mid others) :
    others.map (·.1) = mid.map (·.1) := by
  induction h with
  | nil => rfl
  | cons hmn _ ih => rw [List.map_cons, List.map_cons, ih, hmn.name_eq]

theorem names_perm (hp : members.Perm mid) (h : List.Forall₂ (Named R) mid others) :
    (others.map (·.1)).Perm (members.map (·.1)) := by
  rw [names_of_forall₂ h]
  exact hp.symm.map _

/-- Every member on the one side has one on the other. -/
theorem exists_of_forall₂ {α β : Type} {R : α → β → Prop} {xs : List α} {ys : List β}
    (h : List.Forall₂ R xs ys) : (∀ x ∈ xs, ∃ y ∈ ys, R x y) ∧ ∀ y ∈ ys, ∃ x ∈ xs, R x y := by
  induction h with
  | nil => exact ⟨fun _ hx => absurd hx List.not_mem_nil, fun _ hy => absurd hy List.not_mem_nil⟩
  | @cons x y xs ys hxy _ ih =>
    refine ⟨List.forall_mem_cons.2 ⟨⟨y, List.mem_cons_self, hxy⟩, fun x hx => ?_⟩,
      List.forall_mem_cons.2 ⟨⟨x, List.mem_cons_self, hxy⟩, fun y hy => ?_⟩⟩
    · obtain ⟨y', hy', hr⟩ := ih.1 x hx
      exact ⟨y', List.mem_cons_of_mem _ hy', hr⟩
    · obtain ⟨x', hx', hr⟩ := ih.2 y hy
      exact ⟨x', List.mem_cons_of_mem _ hx', hr⟩

theorem forall₂_imp_of_mem {α β : Type} {R S : α → β → Prop} {xs : List α} {ys : List β}
    (hr : ∀ x ∈ xs, ∀ y ∈ ys, R x y → S x y) (h : List.Forall₂ R xs ys) : List.Forall₂ S xs ys := by
  induction h with
  | nil => exact .nil
  | cons hxy _ ih =>
    refine .cons (hr _ List.mem_cons_self _ List.mem_cons_self hxy) (ih fun x hx y hy => ?_)
    exact hr x (List.mem_cons_of_mem _ hx) y (List.mem_cons_of_mem _ hy)

/-- Lists that are related in another order are so the other way round. -/
theorem perm_forall₂_symm {α β : Type} {R : α → β → Prop} {S : β → α → Prop} {xs mid : List α}
    {ys : List β} (hr : ∀ x ∈ xs, ∀ y, R x y → S y x) (hp : xs.Perm mid)
    (h : List.Forall₂ R mid ys) : ∃ zs, ys.Perm zs ∧ List.Forall₂ S zs xs := by
  obtain ⟨zs, hzs, hperm⟩ := List.perm_comp_forall₂ hp h
  refine ⟨zs, hperm.symm, ?_⟩
  have hall : List.Forall₂ (fun y x => x ∈ xs ∧ R x y) zs xs :=
    .flip ((List.forall₂_and_left _ _).2 ⟨fun _ hx => hx, hzs⟩)
  exact hall.imp fun y x ⟨hx, hxy⟩ => hr x hx y hxy

/-- The order may be changed on either side. -/
theorem exists_perm_of_forall₂ {α β : Type} {R : α → β → Prop} {xs : List α} {ys zs : List β}
    (h : List.Forall₂ R xs ys) (hp : ys.Perm zs) :
    ∃ mid, xs.Perm mid ∧ List.Forall₂ R mid zs :=
  (congrFun₂ List.forall₂_comp_perm_eq_perm_comp_forall₂ xs zs).mp ⟨ys, h, hp⟩

/-- Relations of the elements of lists, put together. -/
theorem forall₂_comp {α β γ : Type} {R : α → β → Prop} {S : β → γ → Prop} {T : α → γ → Prop}
    {xs : List α} {ys : List β} {zs : List γ} (hr : ∀ x ∈ xs, ∀ y z, R x y → S y z → T x z)
    (h : List.Forall₂ R xs ys) (h' : List.Forall₂ S ys zs) : List.Forall₂ T xs zs := by
  induction h generalizing zs with
  | nil =>
    cases h'
    exact .nil
  | cons hxy _ ih =>
    cases h' with
    | cons hyz hys =>
      obtain ⟨hfirst, hrest⟩ := List.forall_mem_cons.1 hr
      exact .cons (hfirst _ _ hxy hyz) (ih hrest hys)

end Named

namespace Reordered

variable {N N' : Number → Number → Prop} {x y z : Json}

theorem refl (x : Json) : Reordered Eq x x := by
  induction x using Json.induct with
  | array xs ih => exact .array (List.forall₂_same.2 ih)
  | object members ih => exact .object (.refl _) (List.forall₂_same.2 fun m hm => .of rfl (ih m hm))
  | leaf x ha ho =>
    cases x with
    | null => exact .null
    | bool => exact .bool
    | number => exact .number rfl
    | string => exact .string
    | array xs => exact absurd rfl (ha xs)
    | object members => exact absurd rfl (ho members)

theorem symm (hN : ∀ m n, N m n → N' n m) (h : Reordered N x y) : Reordered N' y x := by
  induction x using Json.induct generalizing y with
  | array xs ih =>
    cases h with
    | array hxs =>
      have hall := ((List.forall₂_and_left _ _).2 ⟨fun _ hx => hx, hxs⟩).flip
      exact .array (hall.imp fun y x ⟨hx, hxy⟩ => ih x hx hxy)
  | object members ih =>
    cases h with
    | object hp hms =>
      obtain ⟨zs, hzs, hall⟩ := perm_forall₂_symm (S := Named (Reordered N'))
        (fun m hm n hmn => .of hmn.name_eq.symm (ih m hm hmn.value)) hp hms
      exact .object hzs hall
  | leaf x ha ho =>
    cases h with
    | null => exact .null
    | bool => exact .bool
    | number hmn => exact .number (hN _ _ hmn)
    | string => exact .string
    | array _ => exact absurd rfl (ha _)
    | object _ _ => exact absurd rfl (ho _)

theorem comp (h : Reordered N x y) (h' : Reordered N' y z) :
    Reordered (Relation.Comp N N') x z := by
  induction x using Json.induct generalizing y z with
  | array xs ih =>
    cases h with
    | array hxs =>
      cases h' with
      | array hys =>
        exact .array (forall₂_comp (S := Reordered N') (fun x hx _ _ h h' => ih x hx h h') hxs hys)
  | object members ih =>
    cases h with
    | object hp hms =>
      cases h' with
      | object hp' hns =>
        obtain ⟨mid, hmid, hall⟩ := exists_perm_of_forall₂ hms hp'
        refine .object (hp.trans hmid) (forall₂_comp (fun m hm n o hmn hno => ?_) hall hns)
        refine .of (hno.name_eq.trans hmn.name_eq) (ih m ?_ hmn.value hno.value)
        exact (hp.trans hmid).mem_iff.2 hm
  | leaf x ha ho =>
    cases h with
    | null =>
      cases h'
      exact .null
    | bool =>
      cases h'
      exact .bool
    | number hmn =>
      cases h' with
      | number hno => exact .number ⟨_, hmn, hno⟩
    | string =>
      cases h'
      exact .string
    | array _ => exact absurd rfl (ha _)
    | object _ _ => exact absurd rfl (ho _)

theorem mono (hN : ∀ m n, N m n → N' m n) (h : Reordered N x y) : Reordered N' x y := by
  have hback : Reordered (fun n m => N m n) y x := h.symm fun _ _ => id
  exact hback.symm fun n m => hN m n

/-- A value without parts is the same in every order. -/
theorem eq_of_leaf (h : x.Shuffled y) (ha : ∀ xs, x ≠ .array xs)
    (ho : ∀ members, x ≠ .object members) : y = x := by
  cases h with
  | number hmn => rw [hmn]
  | null | bool | string => rfl
  | array _ => exact absurd rfl (ha _)
  | object _ _ => exact absurd rfl (ho _)

end Reordered

/-! ## Objects inside a value -/

mutual

/-- The objects inside a value, itself included, each given by its members. -/
def objects : Json → List (List (String × Json))
  | .array items => itemObjects items
  | .object members => members :: memberObjects members
  | _ => []

def itemObjects : List Json → List (List (String × Json))
  | [] => []
  | x :: xs => objects x ++ itemObjects xs

def memberObjects : List (String × Json) → List (List (String × Json))
  | [] => []
  | (_, x) :: xs => objects x ++ memberObjects xs

end

/-- The objects inside the members of an object. -/
def innerObjects : Json → List (List (String × Json))
  | .object members => memberObjects members
  | _ => []

/-- No object inside a value has two members of one name. -/
def HasDistinctNames (x : Json) : Prop := ∀ members ∈ x.objects, (members.map (·.1)).Nodup

instance {x : Json} : Decidable x.HasDistinctNames :=
  inferInstanceAs (Decidable (∀ members ∈ x.objects, (members.map (·.1)).Nodup))

section Objects

variable {N : Number → Number → Prop} {x y : Json} {xs ys : List Json} {text : String}
variable {members inner : List (String × Json)}

theorem mem_itemObjects : inner ∈ itemObjects xs ↔ ∃ x ∈ xs, inner ∈ x.objects := by
  induction xs with
  | nil => simp [itemObjects]
  | cons x xs ih => simp [itemObjects, ih]

theorem mem_memberObjects : inner ∈ memberObjects members ↔ ∃ m ∈ members, inner ∈ m.2.objects := by
  induction members with
  | nil => simp [memberObjects]
  | cons m members ih => simp [memberObjects, ih]

theorem HasDistinctNames.item (h : HasDistinctNames (.array xs)) (hx : x ∈ xs) :
    x.HasDistinctNames := by
  intro inner hm
  refine h inner ?_
  rw [objects]
  exact mem_itemObjects.2 ⟨x, hx, hm⟩

theorem HasDistinctNames.names (h : HasDistinctNames (.object members)) :
    (members.map (·.1)).Nodup := by
  refine h members ?_
  rw [objects]
  exact List.mem_cons_self

theorem HasDistinctNames.member (h : HasDistinctNames (.object members)) {m : String × Json}
    (hm : m ∈ members) : m.2.HasDistinctNames := by
  intro inner hi
  refine h inner ?_
  rw [objects]
  exact List.mem_cons_of_mem _ (mem_memberObjects.2 ⟨m, hm, hi⟩)

/-- The objects inside values in another order are in another order. -/
theorem Reordered.exists_object (h : Reordered N x y) {others : List (String × Json)}
    (ho : others ∈ y.objects) : ∃ members ∈ x.objects, ∃ mid, members.Perm mid ∧
      List.Forall₂ (Named (Reordered N)) mid others := by
  induction x using Json.induct generalizing y with
  | array xs ih =>
    cases h with
    | array hxs =>
      rw [objects] at ho ⊢
      obtain ⟨y, hy, ho⟩ := mem_itemObjects.1 ho
      obtain ⟨x, hx, hxy⟩ := (exists_of_forall₂ hxs).2 y hy
      obtain ⟨members, hm, hmid⟩ := ih x hx hxy ho
      exact ⟨members, mem_itemObjects.2 ⟨x, hx, hm⟩, hmid⟩
  | object members ih =>
    cases h with
    | object hp hms =>
      rw [objects] at ho ⊢
      rcases List.mem_cons.1 ho with rfl | ho
      · exact ⟨members, List.mem_cons_self, _, hp, hms⟩
      · obtain ⟨n, hn, ho⟩ := mem_memberObjects.1 ho
        obtain ⟨m, hm, hmn⟩ := (exists_of_forall₂ hms).2 n hn
        have hm := hp.mem_iff.2 hm
        obtain ⟨inner, hi, hmid⟩ := ih m hm hmn.value ho
        exact ⟨inner, List.mem_cons_of_mem _ (mem_memberObjects.2 ⟨m, hm, hi⟩), hmid⟩
  | leaf x ha ho' =>
    cases h with
    | array _ => exact absurd rfl (ha _)
    | object _ _ => exact absurd rfl (ho' _)
    | _ => cases ho

theorem HasDistinctNames.reordered (hx : x.HasDistinctNames) (h : Reordered N x y) :
    y.HasDistinctNames := by
  intro others ho
  obtain ⟨members, hm, mid, hp, hms⟩ := h.exists_object ho
  exact (names_perm hp hms).nodup_iff.2 (hx members hm)

theorem mem_itemStrings : text ∈ itemStrings xs ↔ ∃ x ∈ xs, text ∈ x.strings := by
  induction xs with
  | nil => simp [itemStrings]
  | cons x xs ih => simp [itemStrings, ih]

theorem mem_memberStrings :
    text ∈ memberStrings members ↔ ∃ m ∈ members, text ∈ m.2.strings := by
  induction members with
  | nil => simp [memberStrings]
  | cons m members ih => simp [memberStrings, ih]

/-- The texts of a value do not depend on the order of members. -/
theorem Reordered.strings (h : Reordered N x y) : y.strings ⊆ x.strings := by
  induction x using Json.induct generalizing y with
  | array xs ih =>
    cases h with
    | array hxs =>
      intro text ht
      rw [Json.strings] at ht ⊢
      obtain ⟨y, hy, ht⟩ := mem_itemStrings.1 ht
      obtain ⟨x, hx, hxy⟩ := (exists_of_forall₂ hxs).2 y hy
      exact mem_itemStrings.2 ⟨x, hx, ih x hx hxy ht⟩
  | object members ih =>
    cases h with
    | object hp hms =>
      intro text ht
      rw [Json.strings] at ht ⊢
      obtain ⟨n, hn, ht⟩ := mem_memberStrings.1 ht
      obtain ⟨m, hm, hmn⟩ := (exists_of_forall₂ hms).2 n hn
      have hm := hp.mem_iff.2 hm
      exact mem_memberStrings.2 ⟨m, hm, ih m hm hmn.value ht⟩
  | leaf x ha ho =>
    cases h with
    | array _ => exact absurd rfl (ha _)
    | object _ _ => exact absurd rfl (ho _)
    | _ => exact List.Subset.refl _

end Objects

/-! ## Equality up to the order of members -/

section Same

variable {x y : Json} {xs ys : List Json} {members others : List (String × Json)}

theorem sameItems_iff :
    sameItems xs ys = true ↔ List.Forall₂ (fun x y => same x y = true) xs ys := by
  induction xs generalizing ys with
  | nil => cases ys <;> simp [sameItems]
  | cons x xs ih => cases ys <;> simp [sameItems, ih]

theorem sameMembers_iff : sameMembers members others = true ↔
    ∀ m ∈ members, ∃ y, lookup m.1 others = some y ∧ same m.2 y = true := by
  induction members with
  | nil => simp [sameMembers]
  | cons m members ih =>
    obtain ⟨name, x⟩ := m
    rw [sameMembers, Bool.and_eq_true, ih, List.forall_mem_cons]
    cases lookup name others <;> simp

/-- Members that are found by their names are all members if there are as many. -/
theorem exists_perm_of_lookup {R : Json → Json → Prop} (hn : (members.map (·.1)).Nodup)
    (hlength : members.length = others.length)
    (h : ∀ m ∈ members, ∃ y, lookup m.1 others = some y ∧ R m.2 y) :
    ∃ mid, members.Perm mid ∧ List.Forall₂ (Named R) mid others := by
  have hfound : ∃ found, List.Forall₂ (Named R) members found ∧ found ⊆ others := by
    clear hn hlength
    induction members with
    | nil => exact ⟨[], .nil, List.nil_subset _⟩
    | cons m members ih =>
      obtain ⟨⟨y, hy, hr⟩, hrest⟩ := List.forall_mem_cons.1 h
      obtain ⟨found, hall, hsub⟩ := ih hrest
      refine ⟨(m.1, y) :: found, .cons (.of rfl hr) hall, List.cons_subset.2 ⟨?_, hsub⟩⟩
      exact Description.mem_of_lookup_json hy
  obtain ⟨found, hall, hsub⟩ := hfound
  have hnames : (found.map (·.1)).Nodup := by rwa [names_of_forall₂ hall]
  have hsubperm := (List.Nodup.of_map _ hnames).subperm hsub
  have hperm := hsubperm.perm_of_length_le (by rw [← hall.length_eq, hlength])
  exact exists_perm_of_forall₂ hall hperm

/-- Arrays are the same item by item. -/
theorem same_array_iff {xs ys : List Json} (h : ∀ x ∈ xs, ∀ y ∈ ys, same x y = true ↔
    Reordered (fun m n => m.same n = true) x y) :
    same (.array xs) (.array ys) = true ↔
      Reordered (fun m n => m.same n = true) (.array xs) (.array ys) := by
  rw [same, sameItems_iff]
  constructor
  · exact fun hall => .array (forall₂_imp_of_mem (fun x hx y hy => (h x hx y hy).1) hall)
  · rintro (_ | _ | _ | _ | hall | _)
    exact forall₂_imp_of_mem (fun x hx y hy => (h x hx y hy).2) hall

/-- Objects are the same if the members of one are found in the other: names are distinct, so that
no member of the other is left over. -/
theorem same_object_iff {members others : List (String × Json)}
    (hm : (members.map (·.1)).Nodup) (ho : (others.map (·.1)).Nodup)
    (h : ∀ m ∈ members, ∀ name y, (name, y) ∈ others → (same m.2 y = true ↔
      Reordered (fun m n => m.same n = true) m.2 y)) :
    same (.object members) (.object others) = true ↔
      Reordered (fun m n => m.same n = true) (.object members) (.object others) := by
  rw [same, Bool.and_eq_true, beq_iff_eq, sameMembers_iff]
  constructor
  · rintro ⟨hlength, hall⟩
    -- as many members, all of them found: the other object is a rearrangement
    obtain ⟨mid, hp, hms⟩ := exists_perm_of_lookup
      (R := Reordered fun m n => m.same n = true) hm hlength fun m hm => by
        obtain ⟨y, hl, hs⟩ := hall m hm
        exact ⟨y, hl, (h m hm _ y (Description.mem_of_lookup_json hl)).1 hs⟩
    exact .object hp hms
  · rintro (_ | _ | _ | _ | _ | ⟨hp, hms⟩)
    refine ⟨hp.length_eq.trans hms.length_eq, fun m hm => ?_⟩
    obtain ⟨⟨name, y⟩, hn, hmn⟩ := (exists_of_forall₂ hms).1 m (hp.mem_iff.1 hm)
    refine ⟨y, ?_, (h m hm name y hn).2 hmn.value⟩
    rw [← hmn.name_eq]
    exact Description.lookup_json_of_mem ho hn

/-- Values that are no arrays or objects are the same if they are equal, or numbers of one value. -/
theorem same_leaf_iff (ha : ∀ xs, x ≠ .array xs) (ho : ∀ members, x ≠ .object members) :
    same x y = true ↔ Reordered (fun m n => m.same n = true) x y := by
  cases x with
  | array _ => exact absurd rfl (ha _)
  | object _ => exact absurd rfl (ho _)
  | null =>
    constructor
    · intro h
      cases y <;> simp only [same, Bool.false_eq_true] at h
      exact .null
    · rintro (_ | _)
      simp [same]
  | bool _ | string _ =>
    constructor
    · intro h
      cases y <;> simp only [same, Bool.false_eq_true, beq_iff_eq] at h
      subst h
      constructor
    · rintro (_ | _)
      simp [same]
  | number m =>
    constructor
    · intro h
      cases y <;> simp only [same, Bool.false_eq_true] at h
      exact .number h
    · rintro (_ | _ | h)
      exact h

/-- Values are found to be the same if they are, up to the order of members and to numbers that are
equal. -/
theorem same_iff (hx : x.HasDistinctNames) (hy : y.HasDistinctNames) :
    same x y = true ↔ Reordered (fun m n => m.same n = true) x y := by
  induction x using Json.induct generalizing y with
  | array xs ih =>
    cases y with
    | array ys => exact same_array_iff fun x hx' y hy' => ih x hx' (hx.item hx') (hy.item hy')
    | _ => exact iff_of_false (by simp [same]) nofun
  | object members ih =>
    cases y with
    | object others =>
      exact same_object_iff hx.names hy.names fun m hm _ y hn =>
        ih m hm (hx.member hm) (hy.member hn)
    | _ => exact iff_of_false (by simp [same]) nofun
  | leaf x ha ho => exact same_leaf_iff ha ho

end Same

end Json
end LinkedShapes
