import LinkedShapes.Text.Quoted

/-!
# Defects of shapes

Everything that can be wrong with a shape or with the names given to keywords. None of it is the
fault of a description or a query.
-/

namespace LinkedShapes

/-- What is wrong with a pattern. -/
inductive PatternFault where
  | unknownFlag (flag : Char)
  /-- The expression cannot be read, or is too large to be searched for. -/
  | malformedExpression
deriving DecidableEq, Repr

/-- A defect of a shape. -/
inductive ShapeError where
  | malformedAlias (name edge : String)
  | reservedAlias (name edge : String)
  | clashingAliases (first second : String)
  | multipleAliases (edge : String) (names : List String)
  | undefinedAlias (edge : String)
  | unredactedGuard (guard : String)
  | malformedPattern (expression : String) (fault : PatternFault)
  | unknownKeyword (keyword : String)
  | malformedKeywordAlias (keyword name : String)
  | conflictingKeywordAliases (first second : String)
deriving DecidableEq, Repr

namespace PatternFault

def message : PatternFault → String
  | .unknownFlag flag => "unknown regex flag '" ++ flag.toString ++ "'"
  | .malformedExpression => "malformed expression"

end PatternFault

namespace ShapeError

/-- The text of a defect. -/
def message : ShapeError → String
  | .malformedAlias name edge => "malformed alias <" ++ name ++ "> for <field(" ++ edge ++ ")>"
  | .reservedAlias name edge => "reserved alias <" ++ name ++ "> for <field(" ++ edge ++ ")>"
  | .clashingAliases first second =>
    "clashing aliases for <field(" ++ first ++ ")> / <field(" ++ second ++ ")>"
  | .multipleAliases edge names =>
    "multiple aliases for <field(" ++ edge ++ ")> / " ++ Text.quotedList names
  | .undefinedAlias edge => "undefined alias for <field(" ++ edge ++ ")>"
  | .unredactedGuard guard => "unredacted guard <" ++ guard ++ ">"
  | .malformedPattern expression fault =>
    "invalid regex pattern '" ++ expression ++ "': " ++ fault.message
  | .unknownKeyword keyword => "unknown keyword <" ++ keyword ++ ">"
  | .malformedKeywordAlias keyword name =>
    "malformed alias <" ++ name ++ "> for keyword <" ++ keyword ++ ">"
  | .conflictingKeywordAliases first second =>
    "conflicting aliases for JSON-LD keywords <" ++ first ++ "> / <" ++ second ++ ">"

end ShapeError

end LinkedShapes
