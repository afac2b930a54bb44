import LinkedShapes.OrderedSet
import LinkedShapes.Term.Basic

/-!
# Shapes

A shape is a tree of constraints on a group of values. Connectives combine shapes, a field
leads along an edge to further values and constrains those, a link lets a linked resource stand
in for the group, and all other shapes constrain the values themselves, mark the field they
are part of, or switch parts of the shape by execution context.
-/

namespace LinkedShapes

/--
An operand of a constraint: a term, or a reference that is resolved against the focus resource
when the constraint is checked. The empty reference is the focus itself.
-/
inductive Operand where
  | term (term : Term)
  | focus (reference : String)
deriving DecidableEq, Repr

namespace Operand

/-- The term of an operand that does not depend on the focus. -/
def term? : Operand → Option Term
  | .term t => some t
  | .focus _ => none

/-- The way an operand is shown. -/
def display : Operand → String
  | .term t => t.display
  | .focus reference => "focus(" ++ Text.quoted reference ++ ")"

/-- The reference of an operand; empty for terms. -/
def reference : Operand → String
  | .term _ => ""
  | .focus r => r

/-- Is this a reference, to be resolved against the focus? -/
def isFocus : Operand → Bool
  | .term _ => false
  | .focus _ => true

/-- Terms come first, in their order, then the references. -/
def order : Operand → Operand → Ordering :=
  compareLex (compareOn isFocus) <| compareLex (compareOn term?) (compareOn reference)

instance : Ord Operand := ⟨order⟩

instance : Std.TransOrd Operand :=
  show Std.TransCmp order by unfold order; infer_instance

instance : Std.LawfulEqOrd Operand where
  eq_of_compare {x y} h := by
    have h : order x y = .eq := h
    simp only [order, compareLex_eq_eq, compareOn, Std.LawfulEqOrd.compare_eq_iff_eq] at h
    rcases x with x | x <;> rcases y with y | y <;> simp_all [isFocus, term?, reference]

end Operand

/-- The axes of the execution context. -/
inductive Axis where
  | role | task | area | mode
deriving DecidableEq, Repr

namespace Axis

def name : Axis → String
  | .role => "role"
  | .task => "task"
  | .area => "area"
  | .mode => "mode"

end Axis

/-- A switch: it tests the execution context along an axis for a set of values. -/
structure Guard where
  axis : Axis
  values : OrderedSet String
deriving DecidableEq

namespace Guard

/-- The way a guard is shown. -/
def display (g : Guard) : String :=
  "guard(" ++ g.axis.name ++
    (if g.values.isEmpty then "" else " = " ++ ", ".intercalate g.values.toList) ++ ")"

end Guard

/-- A kind of edge: a predicate, followed from objects to subjects if `inverse` holds. -/
structure Edge where
  iri : String
  inverse : Bool
deriving DecidableEq, Repr

namespace Edge

/-- The way the edge of a field is shown. -/
def display (e : Edge) : String := (if e.inverse then "^" else "") ++ e.iri

end Edge

/-- A tree of constraints. -/
inductive Shape where
  /-- All of the shapes hold. -/
  | and (shapes : List Shape)
  /-- One of the shapes holds. -/
  | or (shapes : List Shape)
  /-- `pass` holds where `test` does, `fail` elsewhere. -/
  | when (test pass fail : Shape)
  /-- The values along an edge satisfy a shape; the label is a name for the edge. -/
  | field (edge : Edge) (label : Option String) (shape : Shape)
  /-- The linked resource stands in for the group. -/
  | link (iri : String) (shape : Shape)
  | datatype (iri : String)
  | clazz (iri : String)
  | range (values : OrderedSet Operand)
  | lang (tags : OrderedSet String)
  | minExclusive (limit : Operand)
  | maxExclusive (limit : Operand)
  | minInclusive (limit : Operand)
  | maxInclusive (limit : Operand)
  | minLength (limit : Nat)
  | maxLength (limit : Nat)
  | pattern (expression flags : String)
  | like (keywords : String) (stemming : Bool)
  | stem (start : String)
  | minCount (limit : Nat)
  | maxCount (limit : Nat)
  | all (values : OrderedSet Operand)
  | any (values : OrderedSet Operand)
  | localized
  | note (label value : String)
  | guard (guard : Guard)

/-- The fields of a shape constructor as a record: an edge, its label and its shape. -/
structure Field where
  edge : Edge
  label : Option String
  shape : Shape

namespace Shape

instance : Inhabited Shape := ⟨.and []⟩

/-! ## Equality -/

mutual

/-- Are two shapes the same tree? -/
def beq : Shape → Shape → Bool
  | .and xs, .and ys => beqAll xs ys
  | .or xs, .or ys => beqAll xs ys
  | .when t p f, .when u q g => beq t u && beq p q && beq f g
  | .field e l s, .field d k r => decide (e = d) && decide (l = k) && beq s r
  | .link i s, .link j r => decide (i = j) && beq s r
  | .datatype i, .datatype j => decide (i = j)
  | .clazz i, .clazz j => decide (i = j)
  | .range v, .range w => decide (v = w)
  | .lang v, .lang w => decide (v = w)
  | .minExclusive v, .minExclusive w => decide (v = w)
  | .maxExclusive v, .maxExclusive w => decide (v = w)
  | .minInclusive v, .minInclusive w => decide (v = w)
  | .maxInclusive v, .maxInclusive w => decide (v = w)
  | .minLength m, .minLength n => decide (m = n)
  | .maxLength m, .maxLength n => decide (m = n)
  | .pattern e f, .pattern d g => decide (e = d) && decide (f = g)
  | .like k s, .like l t => decide (k = l) && decide (s = t)
  | .stem s, .stem t => decide (s = t)
  | .minCount m, .minCount n => decide (m = n)
  | .maxCount m, .maxCount n => decide (m = n)
  | .all v, .all w => decide (v = w)
  | .any v, .any w => decide (v = w)
  | .localized, .localized => true
  | .note l v, .note k w => decide (l = k) && decide (v = w)
  | .guard g, .guard h => decide (g = h)
  | _, _ => false

def beqAll : List Shape → List Shape → Bool
  | [], [] => true
  | x :: xs, y :: ys => beq x y && beqAll xs ys
  | _, _ => false

end

mutual

theorem eq_of_beq : ∀ {x y : Shape}, beq x y = true → x = y
  | .and xs, y, h => by
    cases y with
    | and ys => exact congrArg _ (eq_of_beqAll (by simpa [beq] using h))
    | _ => simp [beq] at h
  | .or xs, y, h => by
    cases y with
    | or ys => exact congrArg _ (eq_of_beqAll (by simpa [beq] using h))
    | _ => simp [beq] at h
  | .when t p f, y, h => by
    cases y with
    | when u q g =>
      simp only [beq, Bool.and_eq_true] at h
      rw [eq_of_beq h.1.1, eq_of_beq h.1.2, eq_of_beq h.2]
    | _ => simp [beq] at h
  | .field e l s, y, h => by
    cases y with
    | field d k r =>
      simp only [beq, Bool.and_eq_true, decide_eq_true_eq] at h
      rw [h.1.1, h.1.2, eq_of_beq h.2]
    | _ => simp [beq] at h
  | .link i s, y, h => by
    cases y with
    | link j r =>
      simp only [beq, Bool.and_eq_true, decide_eq_true_eq] at h
      rw [h.1, eq_of_beq h.2]
    | _ => simp [beq] at h
  | .datatype _, y, h => by cases y <;> simp_all [beq]
  | .clazz _, y, h => by cases y <;> simp_all [beq]
  | .range _, y, h => by cases y <;> simp_all [beq]
  | .lang _, y, h => by cases y <;> simp_all [beq]
  | .minExclusive _, y, h => by cases y <;> simp_all [beq]
  | .maxExclusive _, y, h => by cases y <;> simp_all [beq]
  | .minInclusive _, y, h => by cases y <;> simp_all [beq]
  | .maxInclusive _, y, h => by cases y <;> simp_all [beq]
  | .minLength _, y, h => by cases y <;> simp_all [beq]
  | .maxLength _, y, h => by cases y <;> simp_all [beq]
  | .pattern _ _, y, h => by cases y <;> simp_all [beq]
  | .like _ _, y, h => by cases y <;> simp_all [beq]
  | .stem _, y, h => by cases y <;> simp_all [beq]
  | .minCount _, y, h => by cases y <;> simp_all [beq]
  | .maxCount _, y, h => by cases y <;> simp_all [beq]
  | .all _, y, h => by cases y <;> simp_all [beq]
  | .any _, y, h => by cases y <;> simp_all [beq]
  | .localized, y, h => by cases y <;> simp_all [beq]
  | .note _ _, y, h => by cases y <;> simp_all [beq]
  | .guard _, y, h => by cases y <;> simp_all [beq]

theorem eq_of_beqAll : ∀ {xs ys : List Shape}, beqAll xs ys = true → xs = ys
  | [], [], _ => rfl
  | [], _ :: _, h => by simp [beqAll] at h
  | _ :: _, [], h => by simp [beqAll] at h
  | x :: xs, y :: ys, h => by
    simp only [beqAll, Bool.and_eq_true] at h
    rw [eq_of_beq h.1, eq_of_beqAll h.2]

end

mutual

theorem beq_self : ∀ x : Shape, beq x x = true
  | .and xs => by simpa [beq] using beqAll_self xs
  | .or xs => by simpa [beq] using beqAll_self xs
  | .when t p f => by simp [beq, beq_self t, beq_self p, beq_self f]
  | .field _ _ s => by simp [beq, beq_self s]
  | .link _ s => by simp [beq, beq_self s]
  | .datatype _ | .clazz _ | .range _ | .lang _ | .minExclusive _ | .maxExclusive _
  | .minInclusive _ | .maxInclusive _ | .minLength _ | .maxLength _ | .pattern _ _ | .like _ _
  | .stem _ | .minCount _ | .maxCount _ | .all _ | .any _ | .localized | .note _ _
  | .guard _ => by simp [beq]

theorem beqAll_self : ∀ xs : List Shape, beqAll xs xs = true
  | [] => rfl
  | x :: xs => by simp [beqAll, beq_self x, beqAll_self xs]

end

instance : DecidableEq Shape := fun x y =>
  if h : beq x y then isTrue (eq_of_beq h)
  else isFalse fun e => h (e ▸ beq_self x)

/-! ## The two constant shapes -/

/-- Is this the conjunction of nothing, which always holds? -/
def isEmptyAnd : Shape → Bool
  | .and [] => true
  | _ => false

/-- Is this the disjunction of nothing, which never holds? -/
def isEmptyOr : Shape → Bool
  | .or [] => true
  | _ => false

/-! ## Text -/

/-- Operands as they are listed in a shape. -/
def operandTexts (values : OrderedSet Operand) : String :=
  ", ".intercalate (values.toList.map Operand.display)

mutual

/-- The way a shape is shown. -/
def display : Shape → String
  | .and shapes => "and(" ++ ", ".intercalate (displayAll shapes) ++ ")"
  | .or shapes => "or(" ++ ", ".intercalate (displayAll shapes) ++ ")"
  | .when test pass fail =>
    "when(" ++ display test ++ ", " ++ display pass ++ ", " ++ display fail ++ ")"
  | .field edge label shape =>
    let name := match label with
      | some l => l ++ ", "
      | none => ""
    "field(" ++ name ++ "<" ++ edge.display ++ ">, " ++ display shape ++ ")"
  | .link iri shape => "link(<" ++ iri ++ ">, " ++ display shape ++ ")"
  | .datatype iri => "datatype(<" ++ iri ++ ">)"
  | .clazz iri => "clazz(<" ++ iri ++ ">)"
  | .range values => "range(" ++ operandTexts values ++ ")"
  | .lang tags => "lang(" ++ ", ".intercalate tags.toList ++ ")"
  | .minExclusive limit => "minExclusive(" ++ limit.display ++ ")"
  | .maxExclusive limit => "maxExclusive(" ++ limit.display ++ ")"
  | .minInclusive limit => "minInclusive(" ++ limit.display ++ ")"
  | .maxInclusive limit => "maxInclusive(" ++ limit.display ++ ")"
  | .minLength limit => "minLength(" ++ toString limit ++ ")"
  | .maxLength limit => "maxLength(" ++ toString limit ++ ")"
  | .pattern expression flags =>
    "pattern(" ++ Text.quoted expression ++
      (if flags = "" then "" else ", " ++ Text.quoted flags) ++ ")"
  | .like keywords stemming =>
    "like(" ++ Text.quoted keywords ++ ", " ++ (if stemming then "true" else "false") ++ ")"
  | .stem start => "stem(" ++ Text.quoted start ++ ")"
  | .minCount limit => "minCount(" ++ toString limit ++ ")"
  | .maxCount limit => "maxCount(" ++ toString limit ++ ")"
  | .all values => "all(" ++ operandTexts values ++ ")"
  | .any values => "any(" ++ operandTexts values ++ ")"
  | .localized => "localized()"
  | .note label value => "meta(" ++ label ++ ", " ++ Text.quoted value ++ ")"
  | .guard g => g.display

def displayAll : List Shape → List String
  | [] => []
  | s :: shapes => display s :: displayAll shapes

end

end Shape

namespace Field

instance : Inhabited Field := ⟨⟨⟨"", false⟩, none, .and []⟩⟩

/-- The bare field shape of the record. -/
def toShape (f : Field) : Shape := .field f.edge f.label f.shape

instance : DecidableEq Field := fun f g =>
  if h : f.edge = g.edge ∧ f.label = g.label ∧ f.shape = g.shape then
    isTrue (by cases f; cases g; simp_all)
  else isFalse fun e => h (by rw [e]; exact ⟨rfl, rfl, rfl⟩)

/-- The way a field is shown: its edge alone. -/
def display (f : Field) : String := f.edge.display

/-- Does the field follow its predicate from subjects to objects? -/
def isDirect (f : Field) : Bool := !f.edge.inverse

end Field

end LinkedShapes
