import LinkedShapes.Proofs.Shape.Normal
import LinkedShapes.Shape.Probe

/-!
# Probes

Whatever a probe asks, it asks the parts of a shape and combines their answers, one way in
conjunctions and another way in disjunctions and conditionals.

* `Probe`, `Probe.Combines`: how the answers of parts make up the answer of a shape.
* `reduce_eq_of_absorbs`: combining by an operation for which order and repetition do not matter,
  answers that change nothing may be added.
* `Probe.ask_build`: with such operations, the answer of joined shapes is made up of their answers,
  however they are flattened.
-/

namespace LinkedShapes

open Vocabulary

variable {β : Type}

/-- A question about shapes, and how the answers of parts are combined. -/
structure Probe (β : Type) where
  /-- The answer of a shape. -/
  ask : Shape → Option β
  /-- The answer of a conjunction, from those of its parts. -/
  both : List β → Option β
  /-- The answer of alternatives, from those that they have. -/
  either : List β → Option β
  /-- May the two be answers of alternatives? -/
  fit : β → β → Bool := fun _ _ => true

namespace Probe

/-- The answers of a shape are made up of those of its parts. -/
structure Combines (p : Probe β) : Prop where
  and : ∀ shapes, p.ask (.and shapes) = p.both (shapes.filterMap p.ask)
  or : ∀ shapes, p.ask (.or shapes) = p.either (shapes.filterMap p.ask)
  when : ∀ test pass fail, p.ask (.when test pass fail) = p.either ([pass, fail].filterMap p.ask)
  link : ∀ iri shape, p.ask (.link iri shape) = p.ask shape
  field : ∀ edge label shape, p.ask (.field edge label shape) = none

end Probe

/-! ## Combined answers -/

namespace Shape

section Answers

variable {α : Type} {Q : α → Prop} {f : α → α → α} {answers : List α} {x y a : α}

/-- What the answers of the parts have in common, their combination has. -/
theorem reduce_of_forall (hf : ∀ x y, Q x → Q y → Q (f x y)) (h : reduce f answers = some a)
    (hall : ∀ x ∈ answers, Q x) : Q a := by
  cases answers with
  | nil => cases h
  | cons x xs =>
    cases h
    obtain ⟨hx, hxs⟩ := List.forall_mem_cons.1 hall
    clear hall
    induction xs generalizing x with
    | nil => exact hx
    | cons y xs ih =>
      obtain ⟨hy, hxs⟩ := List.forall_mem_cons.1 hxs
      exact ih (f x y) (hf x y hx hy) hxs

/-- What the answer of one part has, the combination has, if nothing that is added takes it away. -/
theorem reduce_of_mem (hl : ∀ x y, Q x → Q (f x y)) (hr : ∀ x y, Q y → Q (f x y))
    (h : reduce f answers = some a) (hx : x ∈ answers) (hq : Q x) : Q a := by
  have hfold : ∀ (xs : List α) (first : α), Q first → Q (xs.foldl f first) := by
    intro xs
    induction xs with
    | nil => exact fun _ h => h
    | cons y xs ih => exact fun first h => ih (f first y) (hl first y h)
  cases answers with
  | nil => cases h
  | cons first xs =>
    cases h
    rcases List.mem_cons.1 hx with rfl | hx
    · exact hfold xs x hq
    · obtain ⟨before, after, rfl⟩ := List.append_of_mem hx
      rw [List.foldl_append, List.foldl_cons]
      exact hfold after _ (hr _ _ hq)

theorem greatest_eq_reduce (counts : List Nat) : greatest counts = reduce max counts := by
  cases counts <;> rfl

theorem least_eq_reduce (counts : List Nat) : least counts = reduce min counts := by
  cases counts <;> rfl

theorem toList_of_single? [Ord α] {set : OrderedSet α} (h : set.single? = some x) :
    set.toList = [x] := by
  unfold OrderedSet.single? at h
  split at h
  · next heq =>
    cases h
    exact heq
  · cases h

theorem eq_of_unique {answers : List String} {d e : String} (h : unique answers = some d)
    (he : e ∈ answers) : e = d := by
  have hmem : e ∈ (OrderedSet.ofList answers).toList := OrderedSet.mem_ofList.2 he
  rw [toList_of_single? h] at hmem
  exact List.mem_singleton.1 hmem

theorem mem_of_unique {answers : List String} {d : String} (h : unique answers = some d) :
    d ∈ answers := by
  have hmem : d ∈ (OrderedSet.ofList answers).toList := by
    rw [toList_of_single? h]
    exact List.mem_cons_self
  exact OrderedSet.mem_ofList.1 hmem

theorem mem_of_narrowest {answers : List String} {d : String} (h : narrowest answers = some d) :
    d ∈ answers := by
  let distinct := OrderedSet.ofList answers
  have hmem : d ∈ distinct.toList.filter fun general =>
      !distinct.toList.any (subsumes general) := by
    rw [show distinct.toList.filter _ = [d] from toList_of_single? h]
    exact List.mem_cons_self
  exact OrderedSet.mem_ofList.1 (List.mem_of_mem_filter hmem)

/-- The answers of all parts, if they are listed one after the other. -/
theorem answers_eq_filterMap {ask : Shape → Option β} {askAll : List Shape → List β}
    (hnil : askAll [] = [])
    (hcons : ∀ shape shapes, askAll (shape :: shapes) = (ask shape).toList ++ askAll shapes)
    (shapes : List Shape) : askAll shapes = shapes.filterMap ask := by
  induction shapes with
  | nil => exact hnil
  | cons shape shapes ih =>
    rw [hcons, ih, List.filterMap_cons]
    cases ask shape <;> rfl

/-! ### Operations without order -/

section Orderless

theorem reduce_cons [Std.Associative f] (x : α) (xs : List α) :
    reduce f (x :: xs) = (some x).merge f (reduce f xs) := by
  cases xs with
  | nil => rfl
  | cons y xs => exact congrArg some List.foldl_assoc

theorem reduce_append [Std.Associative f] (xs ys : List α) :
    reduce f (xs ++ ys) = (reduce f xs).merge f (reduce f ys) := by
  induction xs with
  | nil => exact Option.merge_none_left.symm
  | cons x xs ih =>
    rw [List.cons_append, reduce_cons, reduce_cons, ih,
      @Std.Associative.assoc _ (Option.merge f)]

/-- The answer of the first part is combined with that of the others. -/
theorem reduce_filterMap_cons [Std.Associative f] {ask : β → Option α} (x : β) (xs : List β) :
    reduce f ((x :: xs).filterMap ask) = (ask x).merge f (reduce f (xs.filterMap ask)) := by
  rw [List.filterMap_cons]
  cases ask x with
  | none => exact Option.merge_none_left.symm
  | some a => exact reduce_cons a _

/-- What all answers leave as it is, their combination does. -/
theorem merge_reduce [Std.Associative f] {answer : Option α}
    (h : ∀ a ∈ answers, (some a).merge f answer = answer) :
    (reduce f answers).merge f answer = answer := by
  induction answers with
  | nil => exact Option.merge_none_left
  | cons a answers ih =>
    obtain ⟨ha, hall⟩ := List.forall_mem_cons.1 h
    rw [reduce_cons, @Std.Associative.assoc _ (Option.merge f), ih hall, ha]

variable [Std.Associative f] [Std.Commutative f] [Std.IdempotentOp f]

/-- An answer that has been combined changes nothing any more. -/
theorem merge_of_mem (ha : a ∈ answers) :
    (some a).merge f (reduce f answers) = reduce f answers := by
  induction answers with
  | nil => exact absurd ha List.not_mem_nil
  | cons b answers ih =>
    rw [reduce_cons]
    rcases List.mem_cons.1 ha with rfl | ha
    · rw [← @Std.Associative.assoc _ (Option.merge f),
        @Std.IdempotentOp.idempotent _ (Option.merge f)]
    · rw [← @Std.Associative.assoc _ (Option.merge f),
        @Std.Commutative.comm _ (Option.merge f) _ (some a),
        @Std.Associative.assoc _ (Option.merge f), ih ha]

/-- Answers that change nothing may be added. -/
theorem reduce_eq_of_absorbs {more : List α} (hsub : answers ⊆ more)
    (h : ∀ a ∈ more, (some a).merge f (reduce f answers) = reduce f answers) :
    reduce f more = reduce f answers := by
  have hback : (reduce f answers).merge f (reduce f more) = reduce f more :=
    merge_reduce fun a ha => merge_of_mem (hsub ha)
  rw [← merge_reduce h, @Std.Commutative.comm _ (Option.merge f), hback]

/-- The combination depends on which answers there are only. -/
theorem reduce_congr {more : List α} (h : ∀ a, a ∈ more ↔ a ∈ answers) :
    reduce f more = reduce f answers :=
  reduce_eq_of_absorbs (fun a ha => (h a).2 ha) fun a ha => merge_of_mem ((h a).1 ha)

end Orderless

end Answers

end Shape

namespace Probe

variable {p : Probe β} {c : Connective} {xs : List Shape} {s : Shape}

/-- The answer of a connective, from those of its parts. -/
def combine (p : Probe β) : Connective → List β → Option β
  | .all => p.both
  | .any => p.either

/-- Answers are combined by operations for which neither order nor repetition matters. -/
def Orderless (p : Probe β) : Prop := ∀ c, ∃ f : β → β → β,
  Std.Associative f ∧ Std.Commutative f ∧ Std.IdempotentOp f ∧ p.combine c = Shape.reduce f

theorem Combines.wrap (hc : p.Combines) :
    p.ask (c.wrap xs) = p.combine c (xs.filterMap p.ask) := by
  cases c
  · exact hc.and xs
  · exact hc.or xs

/-- Answers that have been combined stand for those that they were combined of. -/
theorem Orderless.combine_flatMap (ho : p.Orderless) {f : Shape → List β}
    (h : ∀ x ∈ xs, p.combine c (f x) = p.ask x) :
    p.combine c (xs.flatMap f) = p.combine c (xs.filterMap p.ask) := by
  obtain ⟨g, _, _, _, hg⟩ := ho c
  rw [hg] at h ⊢
  induction xs with
  | nil => rfl
  | cons x xs ih =>
    obtain ⟨hx, hxs⟩ := List.forall_mem_cons.1 h
    rw [List.flatMap_cons, Shape.reduce_append, Shape.reduce_filterMap_cons, hx, ih hxs]

/-- The answer of joined shapes is made up of their answers. -/
theorem ask_build (hc : p.Combines) (ho : p.Orderless) :
    p.ask (c.build xs) = p.combine c (xs.filterMap p.ask) := by
  obtain ⟨g, _, _, _, hg⟩ := ho c
  have hone : ∀ s, p.combine c ([s].filterMap p.ask) = p.ask s := fun s => by
    rw [hg, Shape.reduce_filterMap_cons]
    exact Option.merge_none_right
  have hclose : ∀ ys, p.ask (c.close ys) = p.combine c (ys.filterMap p.ask) := fun ys => by
    rcases Connective.close_cases c ys with ⟨s, rfl, heq⟩ | ⟨-, heq⟩
    · rw [heq, hone]
    · rw [heq, hc.wrap]
  have hfirsts : ∀ ys : List Shape, p.combine c (ys.eraseDups.filterMap p.ask) =
      p.combine c (ys.filterMap p.ask) := fun ys => by
    rw [hg]
    refine Shape.reduce_congr fun a => ?_
    simp only [List.mem_filterMap, List.mem_eraseDups]
  have hbranches : ∀ s, p.combine c ((c.branches s).filterMap p.ask) = p.ask s := fun s => by
    by_cases hs : ∃ inner, s = c.wrap inner
    · obtain ⟨inner, rfl⟩ := hs
      rw [Connective.branches_wrap, hc.wrap]
    · rw [Connective.branches_of_ne (not_exists.1 hs), hone]
  rw [Connective.build_eq, hclose, hfirsts, List.filterMap_flatMap]
  exact ho.combine_flatMap fun x _ => hbranches x

end Probe

namespace Shape

/-! ## Six questions -/

/-- How many values there are at least. -/
def leastValues : Probe Nat := ⟨minCount?, greatest, least, fun _ _ => true⟩

/-- How many values there are at most. -/
def mostValues : Probe Nat := ⟨maxCount?, least, greatest, fun _ _ => true⟩

/-- Whether there is at most one value per language. -/
def oncePerLanguage : Probe Unit where
  ask shape := if shape.isLocalized then some () else none
  both := reduce fun _ _ => ()
  either := reduce fun _ _ => ()

/-- What the class of all values is. -/
def classOfValues : Probe String := ⟨clazz?, unique, unique, fun _ _ => true⟩

/-- What the datatype of all values is. -/
def typeOfValues : Probe String := ⟨datatype?, narrowest, unique, fun _ _ => true⟩

/-- What the languages of all values are. Alternatives fit if all of them restrict the languages, or
none does. -/
def langsOfValues : Probe (OrderedSet String) where
  ask := langs?
  both := reduce bothLangs
  either := reduce .union
  fit x y := x.isEmpty == y.isEmpty

theorem combines_leastValues : leastValues.Combines where
  and shapes := congrArg greatest (answers_eq_filterMap rfl (fun _ _ => rfl) shapes)
  or shapes := congrArg least (answers_eq_filterMap rfl (fun _ _ => rfl) shapes)
  when _ _ _ := rfl
  link _ _ := rfl
  field _ _ _ := rfl

theorem combines_mostValues : mostValues.Combines where
  and shapes := congrArg least (answers_eq_filterMap rfl (fun _ _ => rfl) shapes)
  or shapes := congrArg greatest (answers_eq_filterMap rfl (fun _ _ => rfl) shapes)
  when _ _ _ := rfl
  link _ _ := rfl
  field _ _ _ := rfl

theorem combines_oncePerLanguage : oncePerLanguage.Combines := by
  have hall : ∀ shapes, (if anyLocalized shapes then some () else none) =
      reduce (fun _ _ => ()) (shapes.filterMap oncePerLanguage.ask) := by
    intro shapes
    have : Std.Associative fun _ _ : Unit => () := ⟨fun _ _ _ => rfl⟩
    induction shapes with
    | nil => rfl
    | cons shape shapes ih =>
      rw [reduce_filterMap_cons, ← ih, anyLocalized, oncePerLanguage]
      dsimp only
      cases shape.isLocalized <;> cases anyLocalized shapes <;> rfl
  refine ⟨hall, hall, fun _ pass fail => ?_, fun _ _ => rfl, fun _ _ _ => rfl⟩
  rw [show oncePerLanguage.either = reduce fun _ _ => () from rfl, ← hall]
  simp only [oncePerLanguage, isLocalized, anyLocalized, Bool.or_false]
  rfl

theorem combines_classOfValues : classOfValues.Combines where
  and shapes := congrArg unique (answers_eq_filterMap rfl (fun _ _ => rfl) shapes)
  or shapes := congrArg unique (answers_eq_filterMap rfl (fun _ _ => rfl) shapes)
  when _ _ _ := rfl
  link _ _ := rfl
  field _ _ _ := rfl

theorem combines_typeOfValues : typeOfValues.Combines where
  and shapes := congrArg narrowest (answers_eq_filterMap rfl (fun _ _ => rfl) shapes)
  or shapes := congrArg unique (answers_eq_filterMap rfl (fun _ _ => rfl) shapes)
  when _ _ _ := rfl
  link _ _ := rfl
  field _ _ _ := rfl

theorem combines_langsOfValues : langsOfValues.Combines where
  and shapes := congrArg (reduce bothLangs) (answers_eq_filterMap rfl (fun _ _ => rfl) shapes)
  or shapes := congrArg (reduce OrderedSet.union) (answers_eq_filterMap rfl (fun _ _ => rfl) shapes)
  when _ _ _ := rfl
  link _ _ := rfl
  field _ _ _ := rfl

theorem orderless_leastValues : leastValues.Orderless
  | .all => ⟨max, inferInstance, inferInstance, inferInstance, funext greatest_eq_reduce⟩
  | .any => ⟨min, inferInstance, inferInstance, inferInstance, funext least_eq_reduce⟩

theorem orderless_mostValues : mostValues.Orderless
  | .all => ⟨min, inferInstance, inferInstance, inferInstance, funext least_eq_reduce⟩
  | .any => ⟨max, inferInstance, inferInstance, inferInstance, funext greatest_eq_reduce⟩

theorem orderless_oncePerLanguage : oncePerLanguage.Orderless
  | .all | .any => ⟨fun _ _ => (), ⟨fun _ _ _ => rfl⟩, ⟨fun _ _ => rfl⟩, ⟨fun _ => rfl⟩, rfl⟩

end Shape

end LinkedShapes
