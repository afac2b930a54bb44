import LinkedShapes.Description.Decoding

/-!
# Writing descriptions

The description of a resource holds the values of the fields that its shape has. Values that are
resources are described in turn by the shapes of their fields, literals are written in the
shortest form that is read back as the same literal.

Resources may be linked in cycles. The resources that are being described at a place make up its
trail, and a resource on the trail is not described again: a reference to it is written, and its
description then carries its identifier, so that the reference finds it.

## Levels

A description is nested no deeper than the fields of its shape are, so writing goes down a
number of levels that is known from the start.
-/

namespace LinkedShapes

open Vocabulary

namespace Shape

mutual

/-- How deep the fields of a shape are nested. -/
def depth : Shape → Nat
  | .field _ _ shape => depth shape + 1
  | .and shapes => depthOfAll shapes
  | .or shapes => depthOfAll shapes
  | .when _ pass fail => max (depth pass) (depth fail)
  | .link _ shape => depth shape
  | _ => 0

def depthOfAll : List Shape → Nat
  | [] => 0
  | s :: shapes => max (depth s) (depthOfAll shapes)

end

/-- Are resources that satisfy the shape written by their identifiers alone? -/
def isInlineable (shape : Shape) : Bool := shape.datatype?.any Abstract.isResource

end Shape

namespace Description

/-- What is needed to write a description. -/
structure Source where
  graph : Graph
  keywords : Keywords
  /-- The root that identifiers are written relative to. -/
  root : Option String

/-- A JSON value and the resources on the trail that it refers back to. -/
abbrev Written := Json × OrderedSet Term

namespace Source

/-- The written form of the identifier of a resource. -/
def idText (src : Source) : Term → String
  | .iri i =>
    match src.root with
    | some root => Iri.relativize root i
    | none => i
  | t => t.display

/-- The name that a keyword goes by. -/
def name (src : Source) (keyword : String) : String := src.keywords.nameOf keyword

/-! ## Literals -/

/-- The object of a literal with its datatype. -/
def typedObject (src : Source) (l : Literal) : Json :=
  .object (Json.put (src.name Keyword.type) (.string l.datatype)
    [(src.name Keyword.value, .string l.lexical)])

/-- The object of a literal with its language. -/
def taggedObject (src : Source) (l : Literal) (language : String) : Json :=
  .object (Json.put (src.name Keyword.language) (.string language)
    [(src.name Keyword.value, .string l.lexical)])

end Source

/-- The JSON number that is spelled exactly like a text. -/
def exactNumber? (text : String) : Option Json.Number :=
  let number : Option Json.Number := match Decimal.ofInteger? text.toList with
    | some n =>
      if Json.Number.minSigned ≤ n.coefficient ∧ n.coefficient ≤ Json.Number.maxUnsigned then
        some (.integer n.coefficient)
      else none
    | none => ((Numeral.ofText? text.toList).map (·.toDouble)).map .double
  number.filter (·.text == text)

/-- Would a plain number be read as a literal of the datatype again? -/
def readsAsNumber (declared : Option String) (l : Literal) : Bool :=
  match declared.filter isNumeric with
  | some datatype => datatype == l.datatype
  | none => l.datatype == Xsd.integer || l.lexical.toList.contains '.'

/-- The written form of a literal. -/
def Source.literal (src : Source) (shape : Shape) (l : Literal) : Json :=
  match l.language with
  | some language => src.taggedObject l language
  | none =>
    let declared := shape.datatype?
    if l.datatype = Xsd.string then .string l.lexical
    else if l.datatype = Xsd.boolean then
      match Term.boolean? l.lexical with
      | some b => .bool b
      | none => src.typedObject l
    else if (l.datatype = Xsd.integer ∨ l.datatype = Xsd.decimal) ∧ readsAsNumber declared l then
      match exactNumber? l.lexical with
      | some n => .number n
      | none => src.typedObject l
    else if declared = some l.datatype ∧ (Term.literal l).isWellFormed then .string l.lexical
    else src.typedObject l

/-! ## Fields -/

/-- Values of a field: alone where there can be no other, in an array elsewhere. -/
def compact (field : Field) (values : List Json) : Json :=
  match values with
  | [value] => if field.shape.maxCount?.any (· ≤ 1) then value else .array [value]
  | _ => .array values

/-- Texts by language, in the order of languages. -/
def byLanguage (values : List Term) : List (String × List Json) :=
  values.foldl (fun known v =>
    match v.language with
    | some tag => Sorted.alter tag (fun texts => texts.getD [] ++ [.string v.text]) known
    | none => known) []

/-- The texts of one language. -/
def languageTexts (localized : Bool) : List Json → Json
  | [text] => if localized then text else .array [text]
  | texts => .array texts

/-- Tagged texts as an object by language. -/
def languageObject (field : Field) (values : List Term) : Json :=
  .object <| (byLanguage values).map fun (tag, texts) =>
    (tag, languageTexts field.shape.isLocalized texts)

/-- Tagged texts: plain where the only language is known, an object by language elsewhere. -/
def taggedValues (field : Field) (values : List Term) : Json :=
  match field.shape.lang? with
  | some tag =>
    if values.all (·.language == some tag) then compact field (values.map fun v => .string v.text)
    else languageObject field values
  | none => languageObject field values

namespace Source

/-- The reference to a resource. -/
def reference (src : Source) (shape : Shape) (resource : Term) : Json :=
  if shape.isInlineable then .string (src.idText resource)
  else .object [(src.name Keyword.id, .string (src.idText resource))]

/-- The written form of a value, where `describe` writes the descriptions of resources. -/
def value (src : Source) (describe : Term → Shape → List Term → Except ShapeError Written)
    (shape : Shape) (trail : List Term) : Term → Except ShapeError Written
  | .literal l => .ok (src.literal shape l, .empty)
  | resource =>
    if resource ∈ trail then .ok (src.reference shape resource, .singleton resource)
    else if shape.isInlineable ∧ shape.fields.isEmpty then
      .ok (.string (src.idText resource), .empty)
    else describe resource shape trail

/-- The written form of the values of a field. -/
def fieldValue (src : Source) (describe : Term → Shape → List Term → Except ShapeError Written)
    (trail : List Term) (field : Field) (targets : List Term) : Except ShapeError Written :=
  if field.shape.isTagged ∧ targets.all (·.language.isSome) then
    .ok (taggedValues field targets, .empty)
  else do
    let written ← targets.mapM (src.value describe field.shape trail)
    return (compact field (written.map (·.1)),
      written.foldl (fun references w => references.union w.2) .empty)

/-- The members of a description for the fields of a table. -/
def fieldMembers (src : Source)
    (describe : Term → Shape → List Term → Except ShapeError Written) (resource : Term)
    (trail : List Term) :
    List (String × Field) → Except ShapeError (List (String × Json) × OrderedSet Term)
  | [] => .ok ([], .empty)
  | (name, field) :: entries => do
    let targets := src.graph.targets resource field.edge.iri field.edge.inverse
    if targets.isEmpty then fieldMembers src describe resource trail entries
    else
      let written ← src.fieldValue describe trail field targets
      let (members, references) ← fieldMembers src describe resource trail entries
      return ((name, written.1) :: members, written.2.union references)

/-- The object of a description; it has an identifier if it needs one. -/
def describedObject (src : Source) (resource : Term) (members : List (String × Json))
    (references : OrderedSet Term) : Written :=
  let id := if resource.isIri ∨ resource ∈ references then
      [(src.name Keyword.id, Json.string (src.idText resource))]
    else []
  (.object (members.foldl (fun object m => Json.put m.1 m.2 object) id),
    references.erase resource)

/-- The description of a resource, down to a number of levels. -/
def describe (src : Source) : Nat → Term → Shape → List Term → Except ShapeError Written
  | 0, resource, _, _ => .ok (src.describedObject resource [] .empty)
  | levels + 1, resource, shape, trail => do
    let aliases ← Aliases.ofShape shape src.keywords
    let (members, references) ←
      src.fieldMembers (src.describe levels) resource (resource :: trail) aliases.entries
    return src.describedObject resource members references

end Source

/-! ## Contexts -/

/-- What a name means: the edge of its field, and what its values are. -/
def definition (field : Field) : Json :=
  let edge := (if field.edge.inverse then Keyword.reverse else Keyword.id,
    Json.string field.edge.iri)
  let values : List (String × Json) :=
    if field.shape.isInlineable then [(Keyword.type, .string Keyword.id)]
    else if field.shape.isLocalized then [(Keyword.container, .string Keyword.language)]
    else match field.shape.lang? with
      | some tag => [(Keyword.language, .string tag)]
      | none =>
        match field.shape.datatype?.filter fun d => d != Rdf.langString && isConcrete d with
        | some datatype => [(Keyword.type, .string datatype)]
        | none => []
  if values.isEmpty && !field.edge.inverse then .string field.edge.iri
  else .object (edge :: values)

/-- The context that explains the names of keywords and fields. -/
def context (keywords : Keywords) (aliases : Aliases) : Json :=
  let names := keywords.overrides.map fun (keyword, name) => (name, Json.string keyword)
  let fields := (aliases.entries.filter fun e => (keywords.keyword? e.1).isNone).map
    fun (name, field) => (name, definition field)
  .object ((names ++ fields).foldl (fun object m => Json.put m.1 m.2 object) [])

/-- The description of the focus, with a context in front if one is asked for. -/
def Source.focusJson (src : Source) (focus : String) (shape : Shape) (embedContext : Bool) :
    Except ShapeError Json := do
  let (json, _) ← src.describe shape.depth (.iri (Iri.normalize focus)) shape []
  match json with
  | .object members =>
    if embedContext then
      let aliases ← Aliases.ofShape shape src.keywords
      return .object (members.foldl (fun object m => Json.put m.1 m.2 object)
        [(src.name Keyword.context, context src.keywords aliases)])
    else return .object members
  | other => return other

end Description

end LinkedShapes
