import LinkedShapes.Json.Record
import LinkedShapes.Keywords

/-!
# Options of descriptions

The options that reading and writing descriptions share: the names of keywords, whether a
written description explains its names in a context, and the root that identifiers are written
relative to.
-/

namespace LinkedShapes

/-- How descriptions are read and written. -/
structure DescriptionOptions where
  keywords : Keywords
  /-- Is a context written in front of the other members? -/
  embedContext : Bool
  /-- The root for relative identifiers, if it is not that of the focus. -/
  base : Option String
deriving DecidableEq, Repr

namespace DescriptionOptions

/-- No other names for keywords, no context, and the root of the focus. -/
def default : DescriptionOptions := ⟨.none, false, none⟩

instance : Inhabited DescriptionOptions := ⟨default⟩

/-- Give a keyword a name. -/
def withKeyword (o : DescriptionOptions) (keyword name : String) : DescriptionOptions :=
  { o with keywords := o.keywords.set keyword name }

/-- Reads options: a record all fields of which may be missing. -/
def ofJson? (json : Json) : Option DescriptionOptions := do
  match ← Json.record? ["keywords", "embedContext", "base"] json with
  | [keywords, embedContext, base] =>
    let keywords ← match keywords with
      | some k => k.stringEntries?.map .ofList
      | none => some .none
    let embedContext ← match embedContext with
      | some (.bool b) => some b
      | some _ => none
      | none => some false
    let base ← match base with
      | some (.string b) => some (some b)
      | some .null => some none
      | some _ => none
      | none => some none
    some ⟨keywords, embedContext, base⟩
  | _ => none

/-- The names of keywords as JSON. -/
def keywordsToJson (k : Keywords) : Json :=
  .object (k.overrides.map fun (keyword, name) => (keyword, .string name))

/-- The options as JSON. -/
def toJson (o : DescriptionOptions) : Json :=
  .object [
    ("keywords", keywordsToJson o.keywords),
    ("embedContext", .bool o.embedContext),
    ("base", match o.base with
      | some b => .string b
      | none => .null)]

end DescriptionOptions

end LinkedShapes
