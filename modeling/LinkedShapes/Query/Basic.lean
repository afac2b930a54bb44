import LinkedShapes.Shape.Basic

/-!
# Queries

A query asks for the resources that satisfy a shape, or for the terms at the end of a path from
these resources, or for statistics about the terms at the end of a path.
-/

namespace LinkedShapes

/-- The way an edge is shown as a step of a path. -/
def Edge.stepText (e : Edge) : String := (if e.inverse then "^" else "") ++ "<" ++ e.iri ++ ">"

/-- A sort criterion: the values at the end of a path, decreasing or not. -/
structure Criterion where
  decreasing : Bool
  path : List Edge
deriving DecidableEq, Repr

/-- What a query asks for. -/
inductive Aim where
  /-- Resources, sorted by the criteria. -/
  | items (criteria : List Criterion)
  /-- The distinct terms at the end of a path, counted. -/
  | terms (path : List Edge)
  /-- Statistics of the terms at the end of a path. -/
  | stats (path : List Edge)
deriving DecidableEq, Repr

/-- A query. A limit of zero is no limit. -/
structure Query where
  shape : Shape
  aim : Aim
  offset : Nat
  limit : Nat
deriving DecidableEq

namespace Query

/-- The query for all resources that satisfy a shape. -/
def all (shape : Shape) : Query := ⟨shape, .items [], 0, 0⟩

end Query

end LinkedShapes
