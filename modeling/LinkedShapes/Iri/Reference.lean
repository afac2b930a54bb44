import LinkedShapes.Iri.Parser

/-!
# References

Documents name resources by references that are resolved against the identifier of the resource
they are about. Identifiers that cannot be read as such are kept as they are, and references
against them are appended to them.
-/

namespace LinkedShapes.Iri

/-- Does the text have a scheme? -/
def isAbsolute (text : String) : Bool := (scheme? text.toList).isSome

/-- The one written form of an identifier; a text that is no identifier is left alone. -/
def normalize (text : String) : String :=
  match parse? text with
  | some i => i.text
  | none => text

/--
Appends a reference to a base: a fragment replaces the number signs at the end of the base, and
everything else is set off by a slash, unless the base ends in a slash or a number sign.
-/
def append (base reference : String) : String :=
  match reference.toList with
  | '#' :: _ =>
    String.ofList (base.toList.reverse.dropWhile (· == '#')).reverse ++ reference
  | _ =>
    match base.toList.getLast? with
    | some '/' | some '#' => base ++ reference
    | _ => base ++ "/" ++ reference

/-- Resolves a reference; the empty one stands for the base itself, fragment included. -/
def resolve (base reference : String) : String :=
  if reference = "" then normalize base
  else if isAbsolute reference then normalize reference
  else match (parse? base).bind (join? · reference) with
    | some i => i.text
    | none => append base reference

/-- The identifier of the root of the hierarchy that an identifier is part of. -/
def root? (text : String) : Option String := do
  let i ← parse? text
  if i.isHierarchical then
    return { i with path := ['/'], query := none, fragment := none : Iri }.text
  else none

/--
The part of an identifier after its root, with the slash that the root ends in; an identifier
under any other root is left alone.
-/
def relativize (root text : String) : String :=
  if root.toList.isPrefixOf text.toList ∧ root.toList.getLast? = some '/' then
    String.ofList (text.toList.drop (root.toList.length - 1))
  else text

end LinkedShapes.Iri
