import LinkedShapes.Json.Record
import LinkedShapes.Term.Basic

/-!
# Terms as JSON

A term is stored as an object with a single member that tells its kind. A literal is a record
of its three parts, where a missing language is the same as none.
-/

namespace LinkedShapes.Term

/-- The stored form of a term. -/
def toJson : Term → Json
  | .iri i => .object [("Iri", .string i)]
  | .blankNode label => .object [("BlankNode", .string label)]
  | .literal l =>
    .object [("Literal", .object [
      ("lexical", .string l.lexical),
      ("datatype", .string l.datatype),
      ("language", match l.language with
        | some language => .string language
        | none => .null)])]

/-- Reads a string that may be absent. -/
def optionalString? : Json → Option (Option String)
  | .null => some none
  | .string s => some (some s)
  | _ => none

/-- Reads the record of a literal; as an array it has to be complete. -/
def literalOfJson? (json : Json) : Option Literal := do
  match json, ← Json.record? ["lexical", "datatype", "language"] json with
  | .array _, [some lexical, some datatype, some language] =>
    some ⟨← lexical.string?, ← datatype.string?, ← optionalString? language⟩
  | .object _, [some lexical, some datatype, language] =>
    some ⟨← lexical.string?, ← datatype.string?, ← optionalString? (language.getD .null)⟩
  | _, _ => none

/-- Reads the stored form of a term. Labels of blank nodes are taken as they are. -/
def ofJson? : Json → Option Term
  | .object [("Iri", .string i)] => some (.iri i)
  | .object [("BlankNode", .string label)] => some (.blankNode label)
  | .object [("Literal", json)] => (literalOfJson? json).map .literal
  | _ => none

end LinkedShapes.Term
