import LinkedShapes.Sorted
import LinkedShapes.Term.Basic

/-!
# Graphs

A graph is a set of triples, listed in the order of their subjects, predicates and objects. A
second list keeps the triples by object, so that edges can be followed backwards.

Edges are followed forwards by skipping the triples below the least possible edge and taking
triples as long as they are edges: the edges of a subject and predicate stand next to each other,
and the blank node with the empty label is the least of all terms.
-/

namespace LinkedShapes

/-- A statement. -/
structure Triple where
  subject : Term
  predicate : Term
  object : Term
deriving DecidableEq, Repr

namespace Triple

/-- The order of triples: by subject, then predicate, then object. -/
def order : Triple → Triple → Ordering :=
  compareLex (compareOn subject) <| compareLex (compareOn predicate) (compareOn object)

instance : Ord Triple := ⟨order⟩

instance : Std.TransOrd Triple :=
  show Std.TransCmp order by unfold order; infer_instance

instance : Std.LawfulEqOrd Triple where
  eq_of_compare {x y} h := by
    have h : order x y = .eq := h
    simp only [order, compareLex_eq_eq, compareOn, Std.LawfulEqOrd.compare_eq_iff_eq] at h
    cases x; cases y; simp_all

/-- The identifier of the predicate; empty if the predicate has none. -/
def predicateIri (t : Triple) : String := t.predicate.iri?.getD ""

/-- Does the triple lead from `source` through `iri`, backwards if `inverse` holds? -/
def traverses (t : Triple) (source : Term) (iri : String) (inverse : Bool) : Bool :=
  t.predicateIri == iri && (if inverse then t.object == source else t.subject == source)

/-- The far end of an edge. -/
def target (t : Triple) (inverse : Bool) : Term := if inverse then t.subject else t.object

/-- The way a triple is shown. -/
def display (t : Triple) : String :=
  t.subject.display ++ " " ++ t.predicate.display ++ " " ++ t.object.display ++ " ."

end Triple

/-- A set of triples. -/
structure Graph where
  triples : List Triple
  /-- The triples by object, in the order of objects and of triples. -/
  incoming : List (Term × List Triple)
deriving DecidableEq, Repr

namespace Graph

/-- The graph without triples. -/
def empty : Graph := ⟨[], []⟩

instance : Inhabited Graph := ⟨empty⟩

/-- The number of triples. -/
def size (g : Graph) : Nat := g.triples.length

def isEmpty (g : Graph) : Bool := g.triples.isEmpty

def contains (g : Graph) (t : Triple) : Bool := g.triples.contains t

/-- Add a triple. -/
def add (g : Graph) (t : Triple) : Graph :=
  if g.contains t then g
  else
    { triples := Sorted.insert t g.triples
      incoming := Sorted.alter t.object (fun known => Sorted.insert t (known.getD [])) g.incoming }

/-- Add a triple by its parts. -/
def addTriple (g : Graph) (subject predicate object : Term) : Graph :=
  g.add ⟨subject, predicate, object⟩

/-- Add the triples of a list. -/
def extend (g : Graph) (triples : List Triple) : Graph := triples.foldl add g

/-- The triples of either graph. -/
def merge (g other : Graph) : Graph := g.extend other.triples

/-- The graph of a list of triples. -/
def ofList (triples : List Triple) : Graph := empty.extend triples

/-- The graph with a single triple. -/
def singleton (t : Triple) : Graph := empty.add t

/-- The edges from `source` through `iri`, following objects to subjects if `inverse` holds. -/
def edges (g : Graph) (source : Term) (iri : String) (inverse : Bool) : List Triple :=
  if inverse then
    ((Sorted.find? source g.incoming).getD []).filter (·.predicateIri == iri)
  else
    let least : Triple := ⟨source, .iri iri, .blankNode ""⟩
    (g.triples.dropWhile (compare · least == .lt)).takeWhile (·.traverses source iri false)

/-- The far ends of the edges from `source`. -/
def targets (g : Graph) (source : Term) (iri : String) (inverse : Bool) : List Term :=
  (g.edges source iri inverse).map (·.target inverse)

/-- The subjects of the triples, each once. -/
def subjects (g : Graph) : List Term := (g.triples.map (·.subject)).eraseReps

end Graph

end LinkedShapes
