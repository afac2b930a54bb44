import LinkedShapes.Graph.Basic

/-!
# Isomorphism of graphs

Two graphs are isomorphic when some one-to-one renaming of blank nodes takes the triples of one
to the triples of the other.

## The search

Blank nodes of the first graph are mapped one after the other. A blank node may go to any unused
blank node that occurs as often, and a partial renaming is given up as soon as a triple whose
blank nodes are all mapped has no image in the second graph.
-/

namespace LinkedShapes

/-- A partial renaming of blank nodes. -/
abbrev Renaming := List (String × String)

namespace Renaming

/-- The new label of a blank node. -/
def label? (r : Renaming) (label : String) : Option String := r.lookup label

/-- The renamed term; a blank node that is not mapped keeps its label. -/
def term (r : Renaming) (t : Term) : Term :=
  match t with
  | .blankNode label => .blankNode ((r.label? label).getD label)
  | other => other

/-- The triple with its subject and object renamed. -/
def triple (r : Renaming) (t : Triple) : Triple :=
  ⟨r.term t.subject, t.predicate, r.term t.object⟩

/-- Is the term mapped, or no blank node at all? -/
def covers (r : Renaming) : Term → Bool
  | .blankNode label => (r.label? label).isSome
  | _ => true

/-- Are subject and object covered? -/
def coversTriple (r : Renaming) (t : Triple) : Bool := r.covers t.subject && r.covers t.object

end Renaming

namespace Graph

/-- Does the triple have a blank subject or object? -/
def hasBlank (t : Triple) : Bool := t.subject.isBlank || t.object.isBlank

/-- The triples without blank nodes. -/
def ground (g : Graph) : List Triple := g.triples.filter (!hasBlank ·)

/-- The labels of blank subjects and objects, as often as they occur. -/
def blankOccurrences (g : Graph) : List String :=
  g.triples.flatMap fun t => [t.subject, t.object].filterMap Term.label?

/-- The labels of blank subjects and objects, each once. -/
def blanks (g : Graph) : List String :=
  g.blankOccurrences.foldl (fun known label => Sorted.insert label known) []

/-- How often a blank node occurs. -/
def degree (g : Graph) (label : String) : Nat := g.blankOccurrences.count label

/-- Does the renaming send the triples it covers into `other`? -/
def consistent (g other : Graph) (r : Renaming) : Bool :=
  (g.triples.filter r.coversTriple).all fun t => other.contains (r.triple t)

/-- Can the renaming be extended to the blank nodes `todo`, using the labels `free`? -/
def extendable (g other : Graph) (r : Renaming) (free : List String) : List String → Bool
  | [] => g.triples.all fun t => other.contains (r.triple t)
  | label :: todo =>
    free.any fun candidate =>
      g.degree label == other.degree candidate &&
        consistent g other ((label, candidate) :: r) &&
        extendable g other ((label, candidate) :: r) (free.erase candidate) todo

/-- Are the graphs equal up to the labels of blank nodes? -/
def isIsomorphic (g other : Graph) : Bool :=
  g.size == other.size && g.ground == other.ground &&
    g.blanks.length == other.blanks.length &&
    extendable g other [] other.blanks g.blanks

end Graph

end LinkedShapes
