import LinkedShapes.Shape.Error

/-!
# Faults of descriptions

Everything that can be wrong with a description that is read. A defect of the shape is among
them; it is the only one that the description has no part in.
-/

namespace LinkedShapes

/-- A fault of a description. -/
inductive DecodeError where
  | conflictingId (expected found : String)
  | conflictingKeyword (keyword first second : String)
  | unknownField (path : String)
  | malformedKeyword (keyword : String)
  | unexpectedValue (path value : String)
  | nestedArray (path : String)
  | inverseLiteral (field value : String)
  | unknownLanguage (text : String)
  | shape (defect : ShapeError)
deriving DecidableEq, Repr

namespace DecodeError

/-- The text of a fault. -/
def message : DecodeError → String
  | .conflictingId expected found =>
    "conflicting <@id> <" ++ found ++ ">: expected <" ++ expected ++ ">"
  | .conflictingKeyword keyword first second =>
    "conflicting <" ++ keyword ++ "> values <" ++ first ++ "> / <" ++ second ++ ">"
  | .unknownField path => "unknown field <" ++ path ++ ">"
  | .malformedKeyword keyword => "malformed <" ++ keyword ++ "> value: expected string"
  | .unexpectedValue path value => "unexpected value <" ++ value ++ "> at <" ++ path ++ ">"
  | .nestedArray path => "nested array at <" ++ path ++ ">"
  | .inverseLiteral field value =>
    "literal value <" ++ value ++ "> for inverse field <" ++ field ++ ">"
  | .unknownLanguage text => "undefined language tag for plain string <" ++ text ++ ">"
  | .shape defect => defect.message

/-- Is the fault a defect of the shape? -/
def isFatal : DecodeError → Bool
  | .shape _ => true
  | _ => false

end DecodeError

end LinkedShapes
