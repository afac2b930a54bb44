import LinkedShapes.Description.Decoding
import LinkedShapes.Json.Parser
import LinkedShapes.Query.Basic
import LinkedShapes.Query.Form
import LinkedShapes.Query.Path
import LinkedShapes.Shape.Driver

/-!
# Reading queries

A query is a JSON object, plain or percent-encoded, or a form that stands for one. Its keys are
reserved, or they are filters: an operator, followed by the path to the values that it looks at.

| key | meaning |
|---|---|
| `^path` | the datatype of the values |
| `@path` | their class |
| `%path` | all values are among these |
| `>=path`, `<=path`, `>path`, `<path` | bounds of the values |
| `$>path`, `$<path` | bounds of their lengths |
| `*path`, `~path`, `'path` | pattern, keywords, first characters |
| `#>path`, `#<path` | bounds of their number |
| `!path` | all of these are among the values |
| `?path`, `path` | one of these is among the values |
| `.terms`, `.stats` | the path of a query for terms or statistics |
| `.order` | sort criteria: a path, after a plus or a minus |
| `.offset`, `.limit` | the part of the results that is wanted |

Filters join the base shape as constraints that only filter, so that the base goes on to say how
results are described.
-/

namespace LinkedShapes.Query

open Text Description

/-- What a query is read against. -/
structure Scope where
  setting : Setting
  /-- The shape that the query filters. -/
  base : Shape
  /-- Its driver. -/
  driver : Shape

/-- The scope of a base shape. -/
def Scope.of (focus : String) (base : Shape) (keywords : Keywords) : Scope :=
  ⟨.of focus keywords, base, base.drive⟩

/-- Computations that draw labels and may find a fault. -/
abbrev Reading := StateT Labels (Except QueryError)

/-! ## Operators -/

/-- The operators of filters. -/
inductive Operator where
  | datatype | clazz | range
  | minInclusive | maxInclusive | minExclusive | maxExclusive
  | minLength | maxLength
  | pattern | like | stem
  | minCount | maxCount
  | all | any
deriving DecidableEq, Repr

/-- The operator of a filter key, and the path after it. -/
def Operator.ofKey : List Char → Operator × List Char
  | '^' :: path => (.datatype, path)
  | '@' :: path => (.clazz, path)
  | '%' :: path => (.range, path)
  | '>' :: '=' :: path => (.minInclusive, path)
  | '<' :: '=' :: path => (.maxInclusive, path)
  | '>' :: path => (.minExclusive, path)
  | '<' :: path => (.maxExclusive, path)
  | '$' :: '>' :: path => (.minLength, path)
  | '$' :: '<' :: path => (.maxLength, path)
  | '*' :: path => (.pattern, path)
  | '~' :: path => (.like, path)
  | '\'' :: path => (.stem, path)
  | '#' :: '>' :: path => (.minCount, path)
  | '#' :: '<' :: path => (.maxCount, path)
  | '!' :: path => (.all, path)
  | '?' :: path => (.any, path)
  | path => (.any, path)

/-! ## Values of filters -/

/-- The text of a filter. -/
def filterText (what : String) : Json → Except QueryError String
  | .string text => .ok text
  | _ => .error (.malformed (.notText what))

/-- A natural number, zero if there is none; or else the text of what is there instead. -/
def natural : Option Json → Except String Nat
  | none | some .null => .ok 0
  | some (.number (.integer n)) => if 0 ≤ n then .ok n.toNat else .error (toString n)
  | some (.number n) => .error n.text
  | some (.string text) =>
    match unsigned? (trim text.toList) with
    | some n => .ok n
    | none => .error text
  | some other => .error other.text

/-- The number of a filter. -/
def filterNumber (what : String) (json : Json) : Except QueryError Nat :=
  (natural (some json)).mapError fun _ => .malformed (.notNumber what)

/-- The terms of a filter, read like the values of a field of the shape. -/
def filterTerms (s : Setting) (shape : Shape) (key : String) (json : Json) :
    Reading (List Operand) := fun labels =>
  match values s shape ("/" ++ key) json labels with
  | .ok (found, labels) => .ok (found.map fun d => .term d.1, labels)
  | .error fault => .error (.ofDecodeError fault)

/-- The only term of a filter. -/
def filterTerm (s : Setting) (shape : Shape) (key : String) (json : Json) : Reading Operand := do
  match ← filterTerms s shape key json with
  | [t] => return t
  | _ => throw (.malformed (.notSingle key))

/-- A constraint on texts; the empty text constrains nothing. -/
def textConstraint (constraint : String → Shape) (text : String) : Shape :=
  if text = "" then Shape.conj [] else constraint text

/-- The constraint of a filter on values that satisfy `shape`. -/
def constraint (s : Setting) (shape : Shape) (key : String) (json : Json) :
    Operator → Reading Shape
  | .datatype => do return .datatype (Iri.resolve s.focus (← filterText "datatype" json))
  | .clazz => do return .clazz (Iri.resolve s.focus (← filterText "class" json))
  | .range => do return .rangeOf (← filterTerms s shape key json)
  | .all => do return .allOf (← filterTerms s shape key json)
  | .any => do return .anyOf (← filterTerms s shape key json)
  | .minInclusive => do return .minInclusive (← filterTerm s shape key json)
  | .maxInclusive => do return .maxInclusive (← filterTerm s shape key json)
  | .minExclusive => do return .minExclusive (← filterTerm s shape key json)
  | .maxExclusive => do return .maxExclusive (← filterTerm s shape key json)
  | .minLength => do return .minLength (← filterNumber "length" json)
  | .maxLength => do return .maxLength (← filterNumber "length" json)
  | .minCount => do return .minCount (← filterNumber "count" json)
  | .maxCount => do return .maxCount (← filterNumber "count" json)
  | .pattern => do return textConstraint (.pattern · "") (← filterText "pattern" json)
  | .like => do return textConstraint (.like · true) (← filterText "keywords" json)
  | .stem => do return textConstraint .stem (← filterText "stem" json)

/-! ## Filters -/

/-- The shape of a resource from which the steps lead to values that satisfy a constraint. -/
def wrap (steps : List Step) (constraint : Shape) : Shape :=
  steps.foldr (fun step nested =>
    let field := step.field.withShape nested
    match step.link with
    | some iri => .link iri field
    | none => field) constraint

/-- Is the key reserved? -/
def isReservedKey (key : String) : Bool := key.toList.head? == some '.'

/-- The filters of the members of a query. -/
def filters (scope : Scope) : List (String × Json) → Reading (List Shape)
  | [] => return []
  | (key, json) :: members => do
    if isReservedKey key || json == .null then filters scope members
    else
      let (operator, path) := Operator.ofKey key.toList
      let steps ← steps scope.setting.keywords scope.driver (String.ofList path)
      let target := match steps.getLast? with
        | some step => step.field.shape
        | none => scope.driver
      let constraint ← constraint scope.setting target key json operator
      let others ← filters scope members
      return if constraint.isEmptyAnd then others else wrap steps constraint :: others

/-! ## Results -/

/-- The path under a reserved key. -/
def pathUnder (scope : Scope) (members : List (String × Json)) (key : String) :
    Except QueryError (Option (List Edge)) :=
  match Json.lookup key members with
  | none | some .null => .ok none
  | some (.string path) => (edges scope.setting.keywords scope.driver path).map some
  | some _ => .error (.malformed (.notPath key))

/-- A sort criterion. -/
def criterion (scope : Scope) (text : String) : Except QueryError Criterion :=
  let (decreasing, path) := match text.toList with
    | '+' :: path => (false, path)
    | '-' :: path => (true, path)
    | path => (false, path)
  (edges scope.setting.keywords scope.driver (String.ofList path)).map (⟨decreasing, ·⟩)

/-- The sort criteria of a query. -/
def criteria (scope : Scope) (members : List (String × Json)) :
    Except QueryError (List Criterion) :=
  match Json.lookup orderKey members with
  | none | some .null => .ok []
  | some (.string text) => (criterion scope text).map ([·])
  | some (.array items) => items.mapM fun
    | .string text => criterion scope text
    | _ => .error (.malformed (.notCriterion orderKey))
  | some _ => .error (.malformed (.notCriteria orderKey))

/-! ## Queries -/

/-- The query of the members of a JSON object. -/
def ofMembers (scope : Scope) (members : List (String × Json)) (labels : Labels) :
    Except QueryError Query := do
  let (filters, _) ← (filters scope members).run labels
  let terms ← pathUnder scope members termsKey
  let stats ← pathUnder scope members statsKey
  let criteria ← criteria scope members
  let offset ← (natural (Json.lookup offsetKey members)).mapError .invalidOffset
  let limit ← (natural (Json.lookup limitKey members)).mapError .invalidLimit
  let aim : Aim := match terms, stats with
    | some path, _ => .terms path
    | none, some path => .stats path
    | none, none => .items criteria
  return ⟨scope.base.filtered (Shape.conj filters), aim, offset, limit⟩

/-- The query of a JSON text. -/
def ofJsonText (scope : Scope) (text : String) (labels : Labels) : Except QueryError Query :=
  match Json.parse? text with
  | some (.object members) => ofMembers scope members labels
  | some _ => .error (.malformed .notAnObject)
  | none => .error .json

/-- Does a query begin with the percent-encoded brace of an object? -/
def startsEncoded : List Char → Bool
  | '%' :: '7' :: b :: _ => b == 'B' || b == 'b'
  | _ => false

/-- Reads a query against a scope. -/
def read (scope : Scope) (text : String) (labels : Labels) : Except QueryError Query :=
  if text = "" then .ok (.all scope.base)
  else if startsEncoded text.toList then
    match Utf8.decode (Percent.decode text.toList) with
    | .ok decoded => ofJsonText scope (String.ofList decoded) labels
    | .error fault => .error (.malformed (.encoding fault))
  else if text.toList.head? = some '\x7b' then ofJsonText scope text labels
  else ofMembers scope (ofForm text.toList) labels

/-- Reads a query, once the names of keywords have been checked. -/
def parse (focus text : String) (base : Shape) (keywords : Keywords) (labels : Labels) :
    Except QueryError Query := do
  keywords.check.mapError .shape
  read (.of focus base keywords) text labels

end LinkedShapes.Query
