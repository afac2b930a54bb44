import LinkedShapes.Description.Error
import LinkedShapes.Text.Utf8

/-!
# Faults of queries

Everything that can be wrong with a query. A defect of the shape is among them; it is the only
one that the query has no part in.
-/

namespace LinkedShapes

/-- What makes a query malformed, once it can be read as JSON or as a form. -/
inductive QueryFault where
  /-- The query is percent-encoded, but its bytes are ill formed. -/
  | encoding (fault : Text.Utf8.Fault)
  | notAnObject
  /-- The value of a filter is no text. -/
  | notText (what : String)
  /-- The value of a filter is no number. -/
  | notNumber (what : String)
  /-- A filter with a limit has no value or several ones. -/
  | notSingle (key : String)
  | malformedPath (path : String)
  /-- The value of a reserved key is no text. -/
  | notPath (key : String)
  | notCriterion (key : String)
  | notCriteria (key : String)
deriving DecidableEq, Repr

/-- A fault of a query. -/
inductive QueryError where
  /-- The query looks like JSON, but is none. -/
  | json
  | malformed (fault : QueryFault)
  | notFound (step : String)
  | invalidOffset (text : String)
  | invalidLimit (text : String)
  /-- The value of a filter cannot be read. -/
  | value (fault : DecodeError)
  | shape (defect : ShapeError)
deriving DecidableEq, Repr

namespace QueryFault

/-- The text of a fault. -/
def message : QueryFault → String
  | .encoding fault => fault.message
  | .notAnObject => "filter is not an object"
  | .notText what => what ++ " value is not a string"
  | .notNumber what => what ++ " value is not a number"
  | .notSingle key => "<" ++ key ++ "> is not a single value"
  | .malformedPath path => "malformed path <" ++ path ++ ">"
  | .notPath key => key ++ " is not a string"
  | .notCriterion key => key ++ " criterion is not a string"
  | .notCriteria key => key ++ " is neither a string nor an array of strings"

end QueryFault

namespace QueryError

/-- The fault of a query whose value has this fault. -/
def ofDecodeError : DecodeError → QueryError
  | .shape defect => .shape defect
  | fault => .value fault

/-- The text of a fault. -/
def message : QueryError → String
  | .json => "malformed JSON query"
  | .malformed fault => "malformed query: " ++ fault.message
  | .notFound step => "unknown path step <" ++ step ++ ">"
  | .invalidOffset text => "invalid offset: " ++ text
  | .invalidLimit text => "invalid limit: " ++ text
  | .value fault => "malformed filter value: " ++ fault.message
  | .shape defect => defect.message

/-- Is the fault a defect of the shape? -/
def isFatal : QueryError → Bool
  | .shape _ => true
  | _ => false

end QueryError

end LinkedShapes
