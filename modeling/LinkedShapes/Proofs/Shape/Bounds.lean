import Mathlib.Combinatorics.Enumerative.DoubleCounting
import LinkedShapes.Proofs.Check
import LinkedShapes.Proofs.Distinct
import LinkedShapes.Proofs.Shape.Probe
import LinkedShapes.Proofs.Sorted
import LinkedShapes.Shape.Inference

/-!
# Bounds that sets of operands imply

Expansion bounds the number of values by the number of operands, and takes over the datatype that
operands share. Whether a value is one of the operands is decided by comparing, and so one value can
be that of two operands, or two values that of one operand: a number, a boolean, or a reference that
resolves to another operand. The bounds hold for groups where neither happens.

* `Term.sameValue_cases`: only numbers and booleans have the same value without being equal.
* `Shape.passes_all`, `Shape.passes_range`: what it takes to pass the check of a set of operands.
* `Shape.minCount_of_all`, `Shape.exists_not_minCount`: all operands imply their number exactly
  where none shares a value with another.
* `Shape.passes_implied`: the bounds that are implied, and for which groups.
* `Shape.not_passes_implied`: groups that bounds keep out.
-/

namespace LinkedShapes

open Vocabulary

variable {t e : Term} {focus : String} {terms : List Term} {values : OrderedSet Operand}

/-! ## Values -/

namespace Term

/-- The term is a number by its datatype. -/
def isNumber (t : Term) : Bool := Xsd.isNumeric t.typeOf

theorem isOf_boolean {l : Literal} (hd : l.datatype = Xsd.boolean)
    (hl : (boolean? l.lexical).isSome = true) : (Term.literal l).isOf l.datatype = true := by
  simp [isOf, isWellFormed, typeOf, hd, hl, Xsd.boolean, Abstract.value, Abstract.resource,
    Abstract.literal]

/-- Terms with the same value are equal, unless they are numbers or booleans. -/
theorem sameValue_cases (h : t.sameValue e = true) : t = e ∨ t.isNumber = true ∨
    t.typeOf = e.typeOf ∧ t.isOf t.typeOf = true := by
  rcases Bool.or_eq_true _ _ ▸ h with h | h
  · exact Or.inl (beq_iff_eq.1 h)
  have h := beq_iff_eq.1 h
  match t, e, h with
  | .iri x, .iri y, h =>
    exact Or.inl (congrArg _ (Std.LawfulEqOrd.eq_of_compare (Option.some.inj h)))
  | .blankNode x, .blankNode y, h =>
    exact Or.inl (congrArg _ (Std.LawfulEqOrd.eq_of_compare (Option.some.inj h)))
  | .literal l, .literal m, h =>
    have h : compareLiterals? l m = some .eq := h
    unfold compareLiterals? at h
    split at h
    · next hnumeric => exact Or.inr (Or.inl (Bool.and_eq_true _ _ ▸ hnumeric).1)
    split at h
    · cases h
    next hne =>
    obtain ⟨hdatatype, hlanguage⟩ := not_or.1 hne
    rw [not_not] at hdatatype hlanguage
    split at h
    · next hboolean =>
      obtain ⟨a, ha, -⟩ := Option.bind_eq_some_iff.1 h
      exact Or.inr (Or.inr ⟨hdatatype, isOf_boolean hboolean (Option.isSome_of_eq_some ha)⟩)
    · have hlexical := Std.LawfulEqOrd.eq_of_compare (Option.some.inj h)
      cases l
      cases m
      cases hdatatype
      cases hlanguage
      cases hlexical
      exact Or.inl rfl

end Term

/-! ## Checks -/

namespace Shape

/-- Is nothing wrong with a group of terms by the check of a constraint? -/
def passes (s : Shape) (focus : String) (terms : List Term) : Bool :=
  (s.check focus terms).toOption.any Trace.isEmpty

theorem passes_datatype {iri : String} :
    (datatype iri).passes focus terms = true ↔ ∀ t ∈ terms, t.isOf iri = true :=
  isEmpty_each

theorem passes_minCount {limit : Nat} :
    (minCount limit).passes focus terms = true ↔ limit ≤ terms.length :=
  isEmpty_issueIf.trans Nat.not_lt

theorem passes_maxCount {limit : Nat} :
    (maxCount limit).passes focus terms = true ↔ terms.length ≤ limit :=
  isEmpty_issueIf.trans Nat.not_lt

/-- Every value is that of an operand. -/
theorem passes_range : (range values).passes focus terms = true ↔
    ∀ t ∈ terms, ∃ x ∈ values, t.sameValue (x.resolve focus) = true := by
  refine isEmpty_each.trans (forall₂_congr fun t _ => ?_)
  simp only [isAmong, OrderedSet.resolve, List.any_map, List.any_eq_true]
  rfl

/-- Every operand has a value in the group. -/
theorem passes_all : (all values).passes focus terms = true ↔
    ∀ x ∈ values, ∃ t ∈ terms, t.sameValue (x.resolve focus) = true := by
  refine isEmpty_issueUnless.trans ?_
  simp only [isPresent, OrderedSet.resolve, List.all_map, List.all_eq_true, List.any_eq_true,
    Function.comp_apply]
  rfl

/-- Some operand has a value in the group. -/
theorem passes_any : (any values).passes focus terms = true ↔
    ∃ x ∈ values, ∃ t ∈ terms, t.sameValue (x.resolve focus) = true := by
  refine isEmpty_issueUnless.trans ?_
  simp only [isPresent, OrderedSet.resolve, List.any_map, List.any_eq_true, Function.comp_apply]
  rfl

/-! ## Counting -/

/-- If each element of a list is related to one of another list, and none of that to several, the
other list is as long. -/
theorem length_le_of_related {α β : Type} [DecidableEq α] [DecidableEq β] {xs : List α}
    {ys : List β} (r : α → β → Prop) (hxs : xs.Nodup) (h : ∀ x ∈ xs, ∃ y ∈ ys, r x y)
    (hone : ∀ y ∈ ys, ∀ x ∈ xs, ∀ x' ∈ xs, r x y → r x' y → x = x') : xs.length ≤ ys.length := by
  have hcard : xs.toFinset.card ≤ ys.toFinset.card := by
    refine Finset.card_le_card_of_forall_subsingleton r ?_ ?_
    · simpa only [List.mem_toFinset] using h
    · rintro y hy x ⟨hx, hxy⟩ x' ⟨hx', hxy'⟩
      exact hone y (List.mem_toFinset.1 hy) x (List.mem_toFinset.1 hx) x' (List.mem_toFinset.1 hx')
        hxy hxy'
  rw [List.toFinset_card_of_nodup hxs] at hcard
  exact hcard.trans (List.toFinset_card_le ys)

/-! ## Implied bounds -/

theorem typeOf_resolve (x : Operand) : (x.resolve focus).typeOf = operandType x := by
  cases x <;> rfl

/-- A group with a value of each operand has as many values as there are operands, if no value is
that of two operands. -/
theorem minCount_of_all (h : (all values).passes focus terms = true)
    (hone : ∀ t ∈ terms, ∀ x ∈ values, ∀ y ∈ values, t.sameValue (x.resolve focus) = true →
      t.sameValue (y.resolve focus) = true → x = y) :
    (minCount values.size).passes focus terms = true :=
  passes_minCount.2 <| length_le_of_related (fun x t => t.sameValue (x.resolve focus) = true)
    values.nodup_toList (passes_all.1 h) hone

/-- A value of two operands makes up a group, with the other operands, that has a value of each and
still is too small. -/
theorem exists_not_minCount {x y : Operand} (hx : x ∈ values) (hy : y ∈ values) (hxy : x ≠ y)
    (htx : t.sameValue (x.resolve focus) = true) (hty : t.sameValue (y.resolve focus) = true) :
    ∃ terms : List Term, terms.Nodup ∧ (all values).passes focus terms = true ∧
      (minCount values.size).passes focus terms = false := by
  let others := (values.toList.erase x).erase y
  have hyx : y ∈ values.toList.erase x := (List.mem_erase_of_ne hxy.symm).2 hy
  have hlength : others.length + 2 = values.size := by
    have hfirst : (values.toList.erase x).length = values.size - 1 := List.length_erase_of_mem hx
    have hsecond : others.length = (values.toList.erase x).length - 1 :=
      List.length_erase_of_mem hyx
    have hpos : 0 < (values.toList.erase x).length := List.length_pos_of_mem hyx
    omega
  -- the other operands are their own values, of which there are two fewer than operands
  refine ⟨(t :: others.map (·.resolve focus)).eraseDups, nodup_eraseDups _, ?_, ?_⟩
  · refine passes_all.2 fun z hz => ?_
    by_cases hzx : z = x
    · exact ⟨t, List.mem_eraseDups.2 List.mem_cons_self, hzx ▸ htx⟩
    by_cases hzy : z = y
    · exact ⟨t, List.mem_eraseDups.2 List.mem_cons_self, hzy ▸ hty⟩
    · have hother : z ∈ others := (List.mem_erase_of_ne hzy).2 ((List.mem_erase_of_ne hzx).2 hz)
      refine ⟨z.resolve focus, List.mem_eraseDups.2 ?_, ?_⟩
      · exact List.mem_cons_of_mem _ (List.mem_map_of_mem hother)
      · exact Bool.or_eq_true _ _ ▸ Or.inl (beq_self_eq_true _)
  · rw [Bool.eq_false_iff, Ne, passes_minCount]
    have hle : (t :: others.map (·.resolve focus)).eraseDups.length ≤
        (t :: others.map (·.resolve focus)).length :=
      ((nodup_eraseDups _).subperm fun z hz => List.mem_eraseDups.1 hz).length_le
    rw [List.length_cons, List.length_map] at hle
    omega

/-- A group whose values are those of operands has no more values than there are operands, if no two
of them are the value of one operand. -/
theorem maxCount_of_range (hd : terms.Nodup) (h : (range values).passes focus terms = true)
    (hone : ∀ x ∈ values, ∀ t ∈ terms, ∀ u ∈ terms, t.sameValue (x.resolve focus) = true →
      u.sameValue (x.resolve focus) = true → t = u) :
    (maxCount values.size).passes focus terms = true :=
  passes_maxCount.2 <| length_le_of_related (fun t x => t.sameValue (x.resolve focus) = true) hd
    (passes_range.1 h) hone

/-- A group whose values are those of operands has the datatype that these share, as long as its
numbers have it, which may be written in another way, and the operands that are in the group. -/
theorem datatype_of_range {iri : String} (h : (range values).passes focus terms = true)
    (hshared : sharedType? values = some iri) : (datatype iri).passes focus terms = true ↔
      ∀ t ∈ terms, t.isNumber = true ∨ t ∈ values.resolve focus → t.isOf iri = true := by
  rw [passes_datatype]
  refine forall₂_congr fun t ht => ⟨fun hof _ => hof, fun hof => ?_⟩
  obtain ⟨x, hx, hsame⟩ := passes_range.1 h t ht
  rcases Term.sameValue_cases hsame with rfl | hnumber | ⟨htypes, hformed⟩
  · exact hof (Or.inr (List.mem_map_of_mem hx))
  · exact hof (Or.inl hnumber)
  · -- another way to write the boolean that the operand is
    have htype : operandType x = iri := eq_of_unique hshared (List.mem_map_of_mem hx)
    rwa [htypes, typeOf_resolve, htype] at hformed

/-- The bounds that sets of operands imply. A group of distinct terms that passes the check of some
operand has a value. One with a value of each operand has as many values as there are operands, if
none is the value of two operands. One whose values are all those of operands has no more values
than there are operands, if no two of them are the value of one operand; and it has the datatype
that the operands share, as long as its numbers have it and the operands that are in the group. -/
theorem passes_implied (hd : terms.Nodup) :
    ((any values).passes focus terms = true → (minCount 1).passes focus terms = true) ∧
    ((all values).passes focus terms = true →
      (∀ t ∈ terms, ∀ x ∈ values, ∀ y ∈ values, t.sameValue (x.resolve focus) = true →
        t.sameValue (y.resolve focus) = true → x = y) →
      (minCount values.size).passes focus terms = true) ∧
    ((range values).passes focus terms = true →
      (∀ x ∈ values, ∀ t ∈ terms, ∀ u ∈ terms, t.sameValue (x.resolve focus) = true →
        u.sameValue (x.resolve focus) = true → t = u) →
      (maxCount values.size).passes focus terms = true) ∧
    ((range values).passes focus terms = true → ∀ iri, sharedType? values = some iri →
      ((datatype iri).passes focus terms = true ↔
        ∀ t ∈ terms, t.isNumber = true ∨ t ∈ values.resolve focus → t.isOf iri = true)) := by
  refine ⟨fun h => ?_, minCount_of_all, maxCount_of_range hd, fun h iri => datatype_of_range h⟩
  obtain ⟨-, -, t, ht, -⟩ := passes_any.1 h
  exact passes_minCount.2 (List.length_pos_of_mem ht)

/-- The focus, or what is true. -/
def focusOrTrue : OrderedSet Operand := .ofList [.focus "", .term (.boolean true)]

theorem passes_implied_focusOrTrue :
    let terms := [Term.iri "https://h/a", .typed "1" Xsd.boolean]
    (any focusOrTrue).passes "https://h/a" terms = true ∧
      (minCount 1).passes "https://h/a" terms = true ∧
    (all focusOrTrue).passes "https://h/a" terms = true ∧
      (minCount 2).passes "https://h/a" terms = true ∧
    (range focusOrTrue).passes "https://h/a" terms = true ∧
      (maxCount 2).passes "https://h/a" terms = true ∧
    (range (.ofList [.term (.boolean true)])).passes "https://h/a" [.typed "1" Xsd.boolean] = true ∧
      (datatype Xsd.boolean).passes "https://h/a" [.typed "1" Xsd.boolean] = true := by
  intro terms
  have hany : (any focusOrTrue).passes "https://h/a" terms = true := by decide +kernel
  have hall : (all focusOrTrue).passes "https://h/a" terms = true := by decide +kernel
  have hrange : (range focusOrTrue).passes "https://h/a" terms = true := by decide +kernel
  have htyped : (range (.ofList [.term (.boolean true)])).passes "https://h/a"
      [.typed "1" Xsd.boolean] = true := by decide +kernel
  obtain ⟨himplied, hleast, hmost, -⟩ :=
    @passes_implied "https://h/a" terms focusOrTrue (by decide +kernel)
  obtain ⟨-, -, -, htype⟩ :=
    @passes_implied "https://h/a" [.typed "1" Xsd.boolean] (.ofList [.term (.boolean true)])
      (by decide +kernel)
  refine ⟨hany, himplied hany, hall, hleast hall ?_, hrange, hmost hrange ?_, htyped,
    (htype htyped _ (by decide +kernel)).2 (by decide +kernel)⟩
  · show ∀ t ∈ terms, ∀ x ∈ focusOrTrue.toList, ∀ y ∈ focusOrTrue.toList,
      t.sameValue (x.resolve "https://h/a") = true → t.sameValue (y.resolve "https://h/a") = true →
      x = y
    decide +kernel
  · show ∀ x ∈ focusOrTrue.toList, ∀ t ∈ terms, ∀ u ∈ terms,
      t.sameValue (x.resolve "https://h/a") = true → u.sameValue (x.resolve "https://h/a") = true →
      t = u
    decide +kernel

/-- A value of two operands counts once, although it has the bound of two. Two values of one operand
count twice, although they have the bound of one, and one of them is not of its datatype. -/
theorem not_passes_implied :
    let one : Operand := .term (.integer 1)
    let both : OrderedSet Operand := .ofList [one, .term (.decimal "1.0")]
    ((all both).passes "urn:x:f" [.integer 1] = true ∧
      (minCount both.size).passes "urn:x:f" [.integer 1] = false) ∧
    ((range (.ofList [one])).passes "urn:x:f" [.integer 1, .decimal "1.0"] = true ∧
      (maxCount 1).passes "urn:x:f" [.integer 1, .decimal "1.0"] = false ∧
      sharedType? (.ofList [one]) = some Xsd.integer ∧
      (datatype Xsd.integer).passes "urn:x:f" [.integer 1, .decimal "1.0"] = false) := by
  decide +kernel

end Shape

end LinkedShapes
