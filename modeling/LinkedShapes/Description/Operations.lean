import LinkedShapes.Description.Encoding
import LinkedShapes.Description.Options
import LinkedShapes.Description.Validation
import LinkedShapes.Shape.Driver

/-!
# Operations on descriptions

Descriptions are decoded, encoded, validated and found in graphs by the driver of a shape, once
the names of keywords have been checked. What draws labels is given the supply to draw from.
-/

namespace LinkedShapes

namespace Description

/-- The driver that an operation follows. -/
def prepare (shape : Shape) (keywords : Keywords) : Except ShapeError Shape := do
  keywords.check
  shape.drive.checkRedacted
  return shape.drive

/-- The triples of a description. -/
def decode (focus : String) (shape : Shape) (json : Json) (keywords : Keywords)
    (labels : Labels) : Except DecodeError Graph := do
  let driver ← (prepare shape keywords).mapError .shape
  let (graph, _) ← (focusTriples (.of focus keywords) driver json).run labels
  return graph

/-- The description of a resource that a graph holds. -/
def encode (focus : String) (shape : Shape) (graph : Graph) (options : DescriptionOptions) :
    Except ShapeError Json := do
  let driver ← prepare shape options.keywords
  let source : Source := ⟨graph, options.keywords, options.base.or (Iri.root? focus)⟩
  source.focusJson focus driver options.embedContext

/-- What is wrong with a description; the empty trace if it conforms. -/
def validate (focus : String) (shape : Shape) (json : Json) (keywords : Keywords)
    (labels : Labels) : Except ShapeError Trace := do
  let driver ← prepare shape keywords
  let (trace, _) ← (validateFocus (.of focus keywords) driver json).run labels
  return trace

/-- The part of a graph that describes the focus, or what is wrong with it. -/
def scan (focus : String) (shape : Shape) (graph : Graph) (keywords : Keywords) :
    Except ShapeError (Except Trace Graph) := do
  let driver ← prepare shape keywords
  scanFocus (.of focus keywords) graph driver

end Description

end LinkedShapes
