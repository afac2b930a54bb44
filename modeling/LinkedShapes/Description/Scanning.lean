import LinkedShapes.Description.Decoding
import LinkedShapes.Shape.Check

/-!
# Scanning graphs

A scan checks the description of the focus that a graph holds. It follows the fields of the
shape through the graph and collects the triples on its way, so that a successful scan also
tells which part of the graph the shape describes. Alternatives that do not hold contribute no
triples.
-/

namespace LinkedShapes.Description

/-- What a scan finds: issues, and the triples on its way. -/
structure Report where
  trace : Trace
  triples : Graph

namespace Report

/-- Nothing at all. -/
def empty : Report := ⟨.empty, .empty⟩

/-- The findings of both reports. -/
def merge (r other : Report) : Report :=
  ⟨r.trace.merge other.trace, r.triples.merge other.triples⟩

/-- The report of an alternative: it counts if one of the reports is without issues. -/
def anyOf (reports : List Report) : Report :=
  let matched := reports.filter (·.trace.isEmpty)
  if matched.isEmpty then ⟨.issue "values don't match any alternative", .empty⟩
  else ⟨.empty, matched.foldl (fun graph r => graph.merge r.triples) .empty⟩

end Report

/-- The name of a field in a table. -/
def fieldAlias (aliases : Aliases) (edge : Edge) : Except ShapeError String :=
  match aliases.nameOf? edge with
  | some name => .ok name
  | none => .error (.undefinedAlias edge.display)

mutual

/-- Scans a group of terms. -/
def scanGroup (s : Setting) (graph : Graph) (aliases : Aliases) (terms : List Term) :
    Shape → Except ShapeError Report
  | .and shapes => do
    return (← scanAll s graph aliases terms shapes).foldl .merge .empty
  | .or shapes => do
    return .anyOf (← scanAll s graph aliases terms shapes)
  | .when test pass fail => do
    if (← scanGroup s graph aliases terms test).trace.isEmpty then
      scanGroup s graph aliases terms pass
    else scanGroup s graph aliases terms fail
  | .link _ shape => scanGroup s graph aliases terms shape
  | .field edge _ shape => do
    let name ← fieldAlias aliases edge
    terms.foldlM (fun report source => do
      let edges := graph.edges source edge.iri edge.inverse
      let targets := (edges.map (·.target edge.inverse)).eraseDups
      let nested ← scanGroup s graph (← Aliases.ofShape shape s.keywords) targets shape
      return report.merge
        ⟨.field name nested.trace, (Graph.ofList edges).merge nested.triples⟩) .empty
  | shape => do return ⟨← shape.check s.focus terms, .empty⟩

def scanAll (s : Setting) (graph : Graph) (aliases : Aliases) (terms : List Term) :
    List Shape → Except ShapeError (List Report)
  | [] => .ok []
  | shape :: shapes => do
    let report ← scanGroup s graph aliases terms shape
    return report :: (← scanAll s graph aliases terms shapes)

end

/-- The linked resource stands in for the group. -/
@[simp] theorem scanGroup_link {s : Setting} {graph : Graph} {aliases : Aliases}
    {terms : List Term} {iri : String} {shape : Shape} :
    scanGroup s graph aliases terms (.link iri shape) = scanGroup s graph aliases terms shape := by
  rw [scanGroup]

/-- Scans the description of the focus: the triples it consists of, or what is wrong. -/
def scanFocus (s : Setting) (graph : Graph) (shape : Shape) :
    Except ShapeError (Except Trace Graph) := do
  let aliases ← Aliases.ofShape shape s.keywords
  let report ← scanGroup s graph aliases [.iri s.focus] shape
  return if report.trace.isEmpty then .ok report.triples else .error report.trace

end LinkedShapes.Description
