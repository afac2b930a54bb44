import LinkedShapes.Alias
import LinkedShapes.Description.Error
import LinkedShapes.Description.Labels
import LinkedShapes.Graph.Basic
import LinkedShapes.Iri.Reference
import LinkedShapes.Json.Printer
import LinkedShapes.Term.Value

/-!
# Reading descriptions

A description is a JSON object that tells about a focus resource. Its members are keywords and
fields: a field leads along its edge to its value or to the items of its array, and objects among
these describe further resources in the same way.

What a plain text or number stands for depends on the datatype that the shape of its field
declares. Literals that need a datatype or a language of their own are written as value objects,
and tagged texts also as an object from languages to texts.

## Labels

Resources without an identifier get labels from a supply that is threaded through reading, in the
order in which members and items are met.
-/

namespace LinkedShapes.Description

open Vocabulary

/-- The circumstances under which descriptions are read and written. -/
structure Setting where
  /-- The identifier of the resource described. -/
  focus : String
  keywords : Keywords
deriving DecidableEq, Repr

/-- The setting for a focus resource. -/
def Setting.of (focus : String) (keywords : Keywords) : Setting :=
  ⟨Iri.normalize focus, keywords⟩

/-- Computations that draw labels and may find a fault. -/
abbrev Decoding := StateT Labels (Except DecodeError)

/-- A term and the triples that describe it. -/
abbrev Described := Term × Graph

/-! ## Terms -/

/-- Draws a blank node that is not among those drawn before. -/
def freshBlank : Decoding Term := fun labels => .ok (.blankNode (labels.label 0), labels.after 1)

/-- The blank node of a label, a fresh one for the empty label. -/
def blankOf (id : String) : Decoding Term :=
  if Term.stripMark id = "" then freshBlank else pure (.blank (Term.stripMark id))

/-- Does a text begin with the mark of blank nodes? -/
def hasMark (id : String) : Bool := ['_', ':'].isPrefixOf id.toList

/-- The resource of an identifier or of a marked label. -/
def resource (s : Setting) (id : String) : Decoding Term :=
  if id = "" ∨ hasMark id then blankOf id else pure (.iri (Iri.resolve s.focus id))

/-- Is the datatype one that literals carry? -/
def isConcrete (datatype : String) : Bool := !Abstract.isAbstract datatype

/-- Do plain JSON numbers stand for literals of the datatype? -/
def isNumeric (datatype : String) : Bool :=
  Xsd.isInteger datatype || datatype == Xsd.decimal || datatype == Xsd.double ||
    datatype == Xsd.float

/-- What a plain text stands for. -/
def textTerm (s : Setting) (shape : Shape) (text : String) : Decoding Term :=
  let plain := pure (Term.string text)
  let tagged := match shape.lang? with
    | some lang => pure (Term.langString text lang)
    | none => throw (.unknownLanguage text)
  match shape.datatype? with
  | some datatype =>
    if datatype = Abstract.iri then pure (.iri (Iri.resolve s.focus text))
    else if datatype = Abstract.bnode then blankOf text
    else if datatype = Abstract.resource then resource s text
    else if datatype = Rdf.langString then tagged
    else if isConcrete datatype then pure (.typed text datatype)
    else plain
  | none => if shape.isTagged then tagged else plain

/-- What a plain number stands for. -/
def numberTerm (shape : Shape) (n : Json.Number) : Term :=
  match shape.datatype?.filter isNumeric with
  | some datatype => .typed n.text datatype
  | none => .typed n.text (if n.isInteger then Xsd.integer else Xsd.decimal)

/-! ## Keywords -/

/-- The keywords that objects are read by. -/
def objectKeywords : List String := [Keyword.id, Keyword.type, Keyword.value, Keyword.language]

/-- The keyword that a member name stands for, unless it is a field. -/
def objectKeyword? (s : Setting) (aliases : Aliases) (name : String) : Option String :=
  if aliases.contains name then none
  else (s.keywords.keyword? name).filter objectKeywords.contains

/-- Do two values of a keyword agree? Identifiers agree if they resolve to the same. -/
def sameKeywordValue (s : Setting) (keyword : String) (x y : Json) : Bool :=
  match x, y with
  | .string a, .string b =>
    a == b || ((keyword == Keyword.id || keyword == Keyword.type) &&
      Iri.resolve s.focus a == Iri.resolve s.focus b)
  | _, _ => x.same y

/-- The keywords of an object, after those found before; of two spellings, the first counts. -/
def declaredAfter (s : Setting) (aliases : Aliases) (found : List (String × Json)) :
    List (String × Json) → Except DecodeError (List (String × Json))
  | [] => .ok found
  | (name, value) :: members =>
    match objectKeyword? s aliases name with
    | none => declaredAfter s aliases found members
    | some keyword =>
      match Json.lookup keyword found with
      | none => declaredAfter s aliases (found ++ [(keyword, value)]) members
      | some first =>
        if sameKeywordValue s keyword first value then declaredAfter s aliases found members
        else .error (.conflictingKeyword keyword first.text value.text)

/-- The keywords of an object with their values. -/
def declared (s : Setting) (aliases : Aliases) (members : List (String × Json)) :
    Except DecodeError (List (String × Json)) :=
  declaredAfter s aliases [] members

/-- The alias table of a shape. -/
def aliasesOf (s : Setting) (shape : Shape) : Except DecodeError Aliases :=
  (Aliases.ofShape shape s.keywords).mapError .shape

/-- The text that a keyword has for its value. -/
def keywordText (keyword : String) : Json → Except DecodeError String
  | .string text => .ok text
  | _ => .error (.malformedKeyword keyword)

/-- A value that has no place where it stands. -/
def unexpected (path : String) (json : Json) : DecodeError :=
  .unexpectedValue (if path = "" then "/" else path) json.text

/-! ## Literals -/

/-- The literals of an object from languages to texts. -/
def taggedTexts (path : String) : List (String × Json) → Except DecodeError (List Term)
  | [] => .ok []
  | (lang, value) :: members => do
    let path' := path ++ "/" ++ lang
    let terms ← match value with
      | .string text => .ok [Term.langString text lang]
      | .array texts => texts.mapM fun
        | .string text => .ok (Term.langString text lang)
        | other => .error (unexpected path' other)
      | .null => .ok []
      | other => .error (unexpected path' other)
    return terms ++ (← taggedTexts path members)

/-- The literal of a text in a value object that tells neither datatype nor language. -/
def valueText (shape : Shape) (text : String) : Term :=
  match shape.datatype?.filter fun d => isConcrete d && d != Rdf.langString with
  | some datatype => .typed text datatype
  | none => .string text

/-- The literal that a value object stands for. -/
def valueObject (s : Setting) (shape : Shape) (members found : List (String × Json))
    (value : Json) (path : String) : Except DecodeError Term := do
  if let some (name, _) := members.find? fun m => (s.keywords.keyword? m.1).isNone then
    throw (.unknownField (path ++ "/" ++ name))
  let lexical ← match value with
    | .string text => pure text
    | .bool _ | .number _ => pure value.text
    | _ => throw (unexpected path value)
  match Json.lookup Keyword.type found, Json.lookup Keyword.language found, value with
  | some type, _, _ =>
    return .typed lexical (Iri.resolve s.focus (← keywordText Keyword.type type))
  | none, some language, _ => return .langString lexical (← keywordText Keyword.language language)
  | none, none, .bool b => return .boolean b
  | none, none, .number n => return numberTerm shape n
  | none, none, _ => return valueText shape lexical

/-! ## Resources -/

/-- The resource that the keywords of an object name, a fresh one if they name none. -/
def namedResource (s : Setting) (found : List (String × Json)) : Decoding Term :=
  match Json.lookup Keyword.id found with
  | some id => do resource s (← keywordText Keyword.id id)
  | none => freshBlank

/-- Does an object with these keywords stand for literals instead of describing a resource? -/
def isLiteralObject (shape : Shape) (found : List (String × Json)) : Bool :=
  (Json.lookup Keyword.value found).isSome || (found.isEmpty && shape.isTagged)

/-- The resource that an object describes; `none` if it stands for literals. -/
def subject? (s : Setting) (shape : Shape) (members : List (String × Json)) :
    Decoding (Option Term) := do
  let aliases ← aliasesOf s shape
  let found ← declared s aliases members
  if isLiteralObject shape found then return none
  else return some (← namedResource s found)

/-- The types that a keyword tells of a resource. -/
def typeTriples (s : Setting) (subject : Term) (json : Json) : Except DecodeError Graph := do
  let types := match json with
    | .array items => items
    | value => [value]
  let texts ← types.mapM (keywordText Keyword.type)
  return .ofList (texts.map fun t => ⟨subject, .iri Rdf.type, .iri (Iri.resolve s.focus t)⟩)

/-- The triples of the values of a field, with the triples that describe the values. -/
def fieldTriples (subject : Term) (field : Field) : List Described → Except DecodeError Graph
  | [] => .ok .empty
  | values => values.foldlM (fun graph (value, nested) =>
      if field.edge.inverse && !value.isResource then
        .error (.inverseLiteral field.display value.display)
      else
        let triple : Triple :=
          if field.edge.inverse then ⟨value, .iri field.edge.iri, subject⟩
          else ⟨subject, .iri field.edge.iri, value⟩
        .ok ((graph.add triple).merge nested)) .empty

mutual

/-- What a JSON value that is no array stands for. -/
def value (s : Setting) (shape : Shape) (path : String) : Json → Decoding (List Described)
  | .null => pure []
  | .bool b => pure [(.boolean b, .empty)]
  | .number n => pure [(numberTerm shape n, .empty)]
  | .string text => do return [(← textTerm s shape text, .empty)]
  | .array _ => throw (.nestedArray path)
  | .object members => do
    let aliases ← aliasesOf s shape
    let found ← declared s aliases members
    match Json.lookup Keyword.value found with
    | some json => return [(← valueObject s shape members found json path, .empty)]
    | none =>
      if isLiteralObject shape found then
        return (← taggedTexts path members).map (·, .empty)
      else
        let subject ← namedResource s found
        return [(subject, ← fields s aliases subject path members)]

/-- What the items of an array stand for, the first of which is item number `index`. -/
def items (s : Setting) (shape : Shape) (path : String) (index : Nat) :
    List Json → Decoding (List Described)
  | [] => pure []
  | item :: rest => do
    let found ← value s shape (path ++ "/" ++ toString index) item
    return found ++ (← items s shape path (index + 1) rest)

/-- The triples that the members of an object tell of its resource. -/
def fields (s : Setting) (aliases : Aliases) (subject : Term) (path : String) :
    List (String × Json) → Decoding Graph
  | [] => pure .empty
  | (name, json) :: members => do
    let graph ← match aliases.get? name with
      | some field =>
        let path := path ++ "/" ++ name
        let found ← match json with
          | .array xs => items s field.shape path 0 xs
          | other => value s field.shape path other
        fieldTriples subject field found
      | none =>
        match s.keywords.keyword? name with
        | some keyword =>
          if keyword = Keyword.type then typeTriples s subject json else pure .empty
        | none => throw (.unknownField (path ++ "/" ++ name))
    return graph.merge (← fields s aliases subject path members)

end

/-- The values that a JSON value of a field stands for, with the triples that describe them. -/
def values (s : Setting) (shape : Shape) (path : String) : Json → Decoding (List Described)
  | .array xs => items s shape path 0 xs
  | json => value s shape path json

/-! ## The focus -/

/--
The members and the aliases of the description of the focus. If it declares an identifier, it is
that of the focus.
-/
def root (s : Setting) (shape : Shape) (json : Json) :
    Except DecodeError (List (String × Json) × Aliases) := do
  match json with
  | .object members =>
    let aliases ← aliasesOf s shape
    let found ← declared s aliases members
    if let some id := Json.lookup Keyword.id found then
      let resolved := Iri.resolve s.focus (← keywordText Keyword.id id)
      if resolved ≠ s.focus then
        throw (.conflictingId s.focus resolved)
    return (members, aliases)
  | _ => throw (unexpected "" json)

/-- The triples of the description of the focus. -/
def focusTriples (s : Setting) (shape : Shape) (json : Json) : Decoding Graph := do
  let (members, aliases) ← root s shape json
  fields s aliases (.iri s.focus) "" members

end LinkedShapes.Description
