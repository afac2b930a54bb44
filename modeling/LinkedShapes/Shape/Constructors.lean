import LinkedShapes.Shape.Basic

/-!
# Building shapes

Shapes are built by functions that leave out what is trivially redundant, so that schemas that
say the same thing in the same order are equal:

* a connective inside a connective of the same kind is flattened, repeated branches are dropped
  and a connective of one branch is that branch;
* a conditional whose test is settled, or whose branches are equal, is the branch that applies;
* a field that no value can satisfy holds trivially.
-/

namespace LinkedShapes.Shape

open Vocabulary

/-! ## Connectives -/

/-- The branches a shape contributes to a conjunction. -/
def conjuncts : Shape → List Shape
  | .and shapes => shapes
  | s => [s]

/-- The branches a shape contributes to a disjunction. -/
def disjuncts : Shape → List Shape
  | .or shapes => shapes
  | s => [s]

/-- The conjunction of branches that are flat and distinct. -/
def andOf : List Shape → Shape
  | [s] => s
  | shapes => .and shapes

/-- The disjunction of branches that are flat and distinct. -/
def orOf : List Shape → Shape
  | [s] => s
  | shapes => .or shapes

/-- The conjunction of shapes; that of no shapes always holds. -/
def conj (shapes : List Shape) : Shape := andOf (shapes.flatMap conjuncts).eraseDups

/-- The disjunction of shapes; that of no shapes never holds. -/
def disj (shapes : List Shape) : Shape := orOf (shapes.flatMap disjuncts).eraseDups

/-- `pass` where `test` holds, `fail` elsewhere. -/
def cond (test pass fail : Shape) : Shape :=
  if test.isEmptyAnd || pass == fail then pass
  else if test.isEmptyOr then fail
  else .when test pass fail

/-- All of `shapes`, where `test` holds. -/
def implies (test : Shape) (shapes : List Shape) : Shape := cond test (conj shapes) (conj [])

/-! ## Fields and links -/

/-- The field of an edge, unless nothing can satisfy `shape`. -/
def along (edge : Edge) (label : Option String) (shape : Shape) : Shape :=
  if shape.isEmptyOr then conj [] else .field edge label shape

/-- A field from subjects to objects. -/
def direct (iri : String) (shape : Shape) : Shape := along ⟨iri, false⟩ none shape

/-- A field from objects to subjects. -/
def inverse (iri : String) (shape : Shape) : Shape := along ⟨iri, true⟩ none shape

/-- A field from subjects to objects with a name of its own. -/
def labelled (label iri : String) (shape : Shape) : Shape := along ⟨iri, false⟩ (some label) shape

/-! ## Values -/

def rangeOf (values : List Operand) : Shape := .range (.ofList values)

def langOf (tags : List String) : Shape := .lang (.ofList tags)

def allOf (values : List Operand) : Shape := .all (.ofList values)

def anyOf (values : List Operand) : Shape := .any (.ofList values)

/-- Exactly one value. -/
def required : Shape := conj [.minCount 1, .maxCount 1]

/-- At most one value. -/
def optional : Shape := .maxCount 1

/-- At least one value. -/
def repeatable : Shape := .minCount 1

/-- Any number of values. -/
def multiple : Shape := conj []

/-- The given values and no others. -/
def exactly (values : List Operand) : Shape := conj [allOf values, rangeOf values]

/-- A name for the enclosing field. -/
def named (name : String) : Shape := .note aliasLabel name

/-! ## Guards -/

def guardOf (axis : Axis) (values : List String) : Shape := .guard ⟨axis, .ofList values⟩

/-- Holds where shapes are used for filtering. -/
def filterMode : Shape := guardOf .mode [Mode.filter]

/-- Holds where shapes are used to shape what is conveyed. -/
def conveyMode : Shape := guardOf .mode [Mode.convey]

/-- The shape with a constraint that only filters; an empty filter changes nothing. -/
def filtered (shape filter : Shape) : Shape :=
  if filter.isEmptyAnd then shape else conj [shape, implies filterMode [filter]]

end LinkedShapes.Shape

namespace LinkedShapes.Field

/-- The edge of a field with another shape for its values. -/
def withShape (f : Field) (shape : Shape) : Shape := Shape.along f.edge f.label shape

end LinkedShapes.Field
