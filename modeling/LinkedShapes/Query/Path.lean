import LinkedShapes.Alias
import LinkedShapes.Query.Error
import LinkedShapes.Text.Character

/-!
# Paths

A path names the fields that lead from a resource to the terms that a query is about. It is made
of words with points between them, and perhaps one in front. Every word names a field of the
level that the words before it have led to.
-/

namespace LinkedShapes.Query

open Text

/-! ## Words -/

mutual

/-- The words of a path that a point has introduced; `false` if something else follows. -/
def wordsAfterPoint : List Char → List (List Char) × Bool
  | [] => ([], false)
  | c :: cs => if isWordChar c then wordsFrom [c] cs else ([], false)

/-- The words from the one on that starts with `read`, in reverse. -/
def wordsFrom (read : List Char) : List Char → List (List Char) × Bool
  | [] => ([read.reverse], true)
  | c :: cs =>
    if isWordChar c then wordsFrom (c :: read) cs
    else
      let (words, complete) := if c = '.' then wordsAfterPoint cs else ([], false)
      (read.reverse :: words, complete)

end

/-- The words of a path, as far as they go, and whether nothing else is left. -/
def pathWords : List Char → List (List Char) × Bool
  | [] => ([], true)
  | '.' :: cs => wordsAfterPoint cs
  | c :: cs => if isWordChar c then wordsFrom [c] cs else ([], false)

/-! ## Links -/

mutual

/-- The first link among the alternatives and parts of a shape. -/
def firstLink? : Shape → Option (String × Shape)
  | .link iri shape => some (iri, shape)
  | .and shapes => firstLinkOfAll? shapes
  | .or shapes => firstLinkOfAll? shapes
  | .when _ pass fail => (firstLink? pass).or (firstLink? fail)
  | _ => none

def firstLinkOfAll? : List Shape → Option (String × Shape)
  | [] => none
  | s :: shapes => (firstLink? s).or (firstLinkOfAll? shapes)

end

/-! ## Steps -/

/-- A step of a path: a field, and the link that leads to it if there is one. -/
structure Step where
  field : Field
  link : Option String

/-- The link of a shape that an edge is reached through. -/
def linkTo? (shape : Shape) (edge : Edge) : Option String :=
  ((firstLink? shape).filter fun link => link.2.fields.any (·.edge == edge)).map (·.1)

/-- Follows a word from a shape. -/
def step (keywords : Keywords) (shape : Shape) (word : String) : Except QueryError Step := do
  let aliases ← (Aliases.ofShape shape keywords).mapError .shape
  match aliases.get? word with
  | some field => return ⟨field, linkTo? shape field.edge⟩
  | none => throw (.notFound word)

/-- Follows words from a shape, one after the other. -/
def stepAll (keywords : Keywords) (shape : Shape) :
    List (List Char) → Except QueryError (List Step)
  | [] => .ok []
  | word :: words => do
    let first ← step keywords shape (String.ofList word)
    return first :: (← stepAll keywords first.field.shape words)

/-- The steps of a path from a shape. -/
def steps (keywords : Keywords) (shape : Shape) (path : String) :
    Except QueryError (List Step) := do
  let trimmed := trim path.toList
  let (words, complete) := pathWords trimmed
  let found ← stepAll keywords shape words
  if complete then return found
  else throw (.malformed (.malformedPath (String.ofList trimmed)))

/-- The edges of a path from a shape. -/
def edges (keywords : Keywords) (shape : Shape) (path : String) :
    Except QueryError (List Edge) :=
  (steps keywords shape path).map fun found => found.map (·.field.edge)

end LinkedShapes.Query
