import LinkedShapes.Shape.Constructors
import LinkedShapes.Shape.Probe
import LinkedShapes.Term.Value

/-!
# Inference

A constraint may imply others: a finite range bounds the number of values and may settle their
datatype, a class implies resources, and so do inverse fields and nested fields. Expansion makes
these implied constraints explicit, so that probes alone find them.
-/

namespace LinkedShapes.Shape

open Vocabulary

/-- The datatype of an operand. -/
def operandType : Operand → String
  | .term t => t.typeOf
  | .focus _ => Abstract.iri

/-- The datatype that all operands share. -/
def sharedType? (values : OrderedSet Operand) : Option String :=
  unique (values.toList.map operandType)

/-- Does an edge whose values satisfy `nested` lead to resources, though nothing says so? -/
def leadsToResources (edge : Edge) (nested : Shape) : Bool :=
  (datatype? nested).isNone && (edge.inverse || edge.iri == Rdf.type || !(fields nested).isEmpty)

/-- The shape of a field, resources made explicit. -/
def withResource (edge : Edge) (nested : Shape) : Shape :=
  if leadsToResources edge nested then conj [nested, .datatype Abstract.resource] else nested

mutual

/-- The shape with the constraints that its parts imply. -/
def expand : Shape → Shape
  | .and shapes => conj (expandAll shapes)
  | .or shapes => disj (expandAll shapes)
  | .when test pass fail => cond (expand test) (expand pass) (expand fail)
  | .field edge label shape => along edge label (withResource edge (expand shape))
  | .link iri shape => .link iri (expand shape)
  | .datatype iri =>
    if iri = Xsd.boolean then
      conj [.datatype iri, .maxCount 1,
        rangeOf [.term (.boolean false), .term (.boolean true)]]
    else .datatype iri
  | .clazz iri => conj [.clazz iri, .datatype Abstract.resource]
  | .range values =>
    conj ([.range values, .maxCount values.size] ++
      ((sharedType? values).map Shape.datatype).toList)
  | .all values => conj [.all values, .minCount values.size]
  | .any values => conj [.any values, .minCount 1]
  | .lang tags => conj [.lang tags, .datatype Rdf.langString]
  | .localized => conj [.localized, .datatype Rdf.langString]
  | s => s

def expandAll : List Shape → List Shape
  | [] => []
  | s :: shapes => expand s :: expandAll shapes

end

end LinkedShapes.Shape
