import LinkedShapes.Shape.Basic

/-!
# Probes

Probes answer questions about a shape by its structure alone: which datatype, class, counts,
fields, names and languages it declares. They look through connectives, conditionals and links,
never into the shapes of nested fields, and they pass over the tests of conditionals.
-/

namespace LinkedShapes.Shape

open Vocabulary

/-! ## Choosing among answers -/

/-- The single element of a set of answers. -/
def unique (answers : List String) : Option String := (OrderedSet.ofList answers).single?

/-- Does one datatype include all values of another, different one? -/
def subsumes (general specific : String) : Bool :=
  general != specific &&
    if general = Abstract.value then true
    else if general = Abstract.resource then specific == Abstract.iri || specific == Abstract.bnode
    else if general = Abstract.literal then !Abstract.isAbstract specific
    else false

/-- The single answer that is left when every datatype that includes another is dropped. -/
def narrowest (answers : List String) : Option String :=
  let distinct := OrderedSet.ofList answers
  (distinct.filter fun general => !distinct.toList.any (subsumes general)).single?

/-- The greatest of the answers. -/
def greatest : List Nat → Option Nat
  | [] => none
  | n :: ns => some (ns.foldl max n)

/-- The least of the answers. -/
def least : List Nat → Option Nat
  | [] => none
  | n :: ns => some (ns.foldl min n)

/-- The languages that two restrictions admit together, where the empty set restricts nothing. -/
def bothLangs (x y : OrderedSet String) : OrderedSet String :=
  if x.isEmpty then y else if y.isEmpty then x else x.inter y

/-- The combination of all answers. -/
def reduce {α : Type} (f : α → α → α) : List α → Option α
  | [] => none
  | x :: xs => some (xs.foldl f x)

/-! ## Datatypes and classes -/

mutual

/-- The datatype a shape pins down. Conjunctions keep the narrowest of compatible datatypes. -/
def datatype? : Shape → Option String
  | .datatype iri => some iri
  | .and shapes => narrowest (datatypes shapes)
  | .or shapes => unique (datatypes shapes)
  | .when _ pass fail => unique ([datatype? pass, datatype? fail].filterMap id)
  | .link _ shape => datatype? shape
  | _ => none

def datatypes : List Shape → List String
  | [] => []
  | s :: shapes => (datatype? s).toList ++ datatypes shapes

end

mutual

/-- The class a shape pins down. -/
def clazz? : Shape → Option String
  | .clazz iri => some iri
  | .and shapes => unique (classes shapes)
  | .or shapes => unique (classes shapes)
  | .when _ pass fail => unique ([clazz? pass, clazz? fail].filterMap id)
  | .link _ shape => clazz? shape
  | _ => none

def classes : List Shape → List String
  | [] => []
  | s :: shapes => (clazz? s).toList ++ classes shapes

end

/-! ## Counts -/

mutual

/-- The lower bound on the number of values. -/
def minCount? : Shape → Option Nat
  | .minCount limit => some limit
  | .and shapes => greatest (minCounts shapes)
  | .or shapes => least (minCounts shapes)
  | .when _ pass fail => least ([minCount? pass, minCount? fail].filterMap id)
  | .link _ shape => minCount? shape
  | _ => none

def minCounts : List Shape → List Nat
  | [] => []
  | s :: shapes => (minCount? s).toList ++ minCounts shapes

end

mutual

/-- The upper bound on the number of values. -/
def maxCount? : Shape → Option Nat
  | .maxCount limit => some limit
  | .and shapes => least (maxCounts shapes)
  | .or shapes => greatest (maxCounts shapes)
  | .when _ pass fail => greatest ([maxCount? pass, maxCount? fail].filterMap id)
  | .link _ shape => maxCount? shape
  | _ => none

def maxCounts : List Shape → List Nat
  | [] => []
  | s :: shapes => (maxCount? s).toList ++ maxCounts shapes

end

/-! ## Fields and their names -/

mutual

/-- The fields of a shape, in the order they are met. -/
def fields : Shape → List Field
  | .field edge label shape => [⟨edge, label, shape⟩]
  | .and shapes => fieldsOfAll shapes
  | .or shapes => fieldsOfAll shapes
  | .when _ pass fail => fields pass ++ fields fail
  | .link _ shape => fields shape
  | _ => []

def fieldsOfAll : List Shape → List Field
  | [] => []
  | s :: shapes => fields s ++ fieldsOfAll shapes

end

mutual

/-- The names a shape declares for the field around it, as they are met. -/
def names : Shape → List String
  | .note label value => if label = aliasLabel then [value] else []
  | .and shapes => namesOfAll shapes
  | .or shapes => namesOfAll shapes
  | .when _ pass fail => names pass ++ names fail
  | .link _ shape => names shape
  | _ => []

def namesOfAll : List Shape → List String
  | [] => []
  | s :: shapes => names s ++ namesOfAll shapes

end

/-- The names a shape declares for the field around it. -/
def aliases (shape : Shape) : OrderedSet String := .ofList (names shape)

/-! ## Languages -/

mutual

/-- The languages a shape restricts values to; the empty set admits every language. -/
def langs? : Shape → Option (OrderedSet String)
  | .lang tags => some tags
  | .and shapes => reduce bothLangs (langsOfAll shapes)
  | .or shapes => reduce .union (langsOfAll shapes)
  | .when _ pass fail => reduce .union ([langs? pass, langs? fail].filterMap id)
  | .link _ shape => langs? shape
  | _ => none

def langsOfAll : List Shape → List (OrderedSet String)
  | [] => []
  | s :: shapes => (langs? s).toList ++ langsOfAll shapes

end

/-- The only language a shape admits. -/
def lang? (shape : Shape) : Option String := (langs? shape).bind (·.single?)

mutual

/-- Does the shape ask for at most one value per language? -/
def isLocalized : Shape → Bool
  | .localized => true
  | .and shapes => anyLocalized shapes
  | .or shapes => anyLocalized shapes
  | .when _ pass fail => isLocalized pass || isLocalized fail
  | .link _ shape => isLocalized shape
  | _ => false

def anyLocalized : List Shape → Bool
  | [] => false
  | s :: shapes => isLocalized s || anyLocalized shapes

end

/-- Does the shape describe texts tagged with a language? -/
def isTagged (shape : Shape) : Bool :=
  datatype? shape == some Rdf.langString || (langs? shape).isSome || isLocalized shape

end LinkedShapes.Shape
