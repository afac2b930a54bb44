import LinkedShapes.Keywords
import LinkedShapes.Shape.Constructors
import LinkedShapes.Shape.Probe

/-!
# Alias tables

Every field at the top level of a shape has a member name in descriptions: the name that the
shape declares, the keyword for types for the type field, and otherwise a name derived from the
identifier of the edge. Fields on one edge are merged and share a name; fields on different
edges must not.
-/

namespace LinkedShapes

open Vocabulary

/-! ## Merging -/

/-- Two fields on one edge as one: their shapes conjoined, under the label of the first if any. -/
def Field.mergeWith (f g : Field) : Field :=
  let conflict := match f.label, g.label with
    | some first, some second => if first = second then [] else [Shape.named second]
    | _, _ => []
  { f with
    label := f.label.or g.label
    shape := Shape.conj ([f.shape, g.shape] ++ conflict) }

/-- Merge a field into the first one on its edge, or add it at the end. -/
def mergeField (g : Field) : List Field → List Field
  | [] => [g]
  | f :: fs => if f.edge = g.edge then f.mergeWith g :: fs else f :: mergeField g fs

/-- The fields with those on one edge merged, in the order the edges are met. -/
def mergedFields (fields : List Field) : List Field :=
  fields.foldl (fun merged f => mergeField f merged) []

/-! ## Names -/

/-- Does a character separate the segments of an identifier? -/
def isSeparator (c : Char) : Bool := c == '/' || c == '#' || c == ':'

/-- The conventional endings behind the last segment that names something. -/
def conventionalEndings : List (List Char) :=
  [[], ['/'], ['#'], "#_".toList, "#id".toList, "#this".toList]

/-- The last segment of an identifier, conventional endings aside. -/
def lastSegment? : List Char → Option (List Char)
  | [] => none
  | c :: cs =>
    let name := cs.takeWhile (!isSeparator ·)
    if isSeparator c && !name.isEmpty &&
        conventionalEndings.contains (cs.dropWhile (!isSeparator ·)) then
      some name
    else lastSegment? cs

/-- The name derived from an edge. -/
def derivedName? (edge : Edge) : Option String :=
  (lastSegment? edge.iri.toList).map fun name =>
    String.ofList name ++ if edge.inverse then "Of" else ""

/-- The names a field declares, by its label and by its shape. -/
def Field.declaredNames (f : Field) : OrderedSet String :=
  match f.label with
  | some label => (Shape.aliases f.shape).insert label
  | none => Shape.aliases f.shape

/-- Checks that a name is a word that no keyword has taken. -/
def checkName (k : Keywords) (edge : Edge) (name : String) : Except ShapeError String :=
  if !Text.isWord name then .error (.malformedAlias name edge.display)
  else if Keywords.looksReserved name || k.isReserved name then
    .error (.reservedAlias name edge.display)
  else .ok name

/-- The name of a field. -/
def fieldName (k : Keywords) (f : Field) : Except ShapeError String :=
  match f.declaredNames.toList with
  | [] =>
    if f.isDirect && f.edge.iri == Rdf.type then .ok (k.nameOf Keyword.type)
    else match derivedName? f.edge with
      | some name => checkName k f.edge name
      | none => .error (.undefinedAlias f.edge.display)
  | [name] => checkName k f.edge name
  | names => .error (.multipleAliases f.edge.display names)

/-! ## Tables -/

/-- The fields of a shape by name, in the order they are met. A name is looked up along the list;
no hash index from names to places is kept beside it. Where there is a table its names are distinct
(`Aliases.ofShape_ok`), so that an index would find the same field, only faster. -/
structure Aliases where
  entries : List (String × Field)
deriving DecidableEq

namespace Aliases

/-- The field behind a name. -/
def get? (a : Aliases) (name : String) : Option Field := a.entries.lookup name

def contains (a : Aliases) (name : String) : Bool := (a.get? name).isSome

/-- The name of the field on an edge. -/
def nameOf? (a : Aliases) (edge : Edge) : Option String :=
  (a.entries.find? (·.2.edge == edge)).map (·.1)

def size (a : Aliases) : Nat := a.entries.length

def isEmpty (a : Aliases) : Bool := a.entries.isEmpty

/-- Add fields that are not merged any further to a table. -/
def addAll (k : Keywords) (a : Aliases) : List Field → Except ShapeError Aliases
  | [] => .ok a
  | f :: fs => do
    let name ← fieldName k f
    match a.get? name with
    | some first => .error (.clashingAliases first.display f.display)
    | none => addAll k ⟨a.entries ++ [(name, f)]⟩ fs

/-- The alias table of a shape. -/
def ofShape (shape : Shape) (k : Keywords) : Except ShapeError Aliases :=
  addAll k ⟨[]⟩ (mergedFields shape.fields)

end Aliases

end LinkedShapes
