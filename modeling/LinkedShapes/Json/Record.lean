import LinkedShapes.Json.Basic

/-!
# Records and dictionaries in JSON

A record may be written as an object or as the array of its fields in order. Members of an
object that are no fields of the record are passed over, and no field may be given twice. A
dictionary is an object whose names are free; of a repeated name the last value counts.
-/

namespace LinkedShapes.Json

/-- Lists the values given for the names among the members, if none is given twice. -/
def fieldsOf? (members : List (String × Json)) : List String → Option (List (Option Json))
  | [] => some []
  | name :: names =>
    match members.filter (·.1 == name) with
    | [] => (fieldsOf? members names).map (none :: ·)
    | [(_, value)] => (fieldsOf? members names).map (some value :: ·)
    | _ => none

/--
The values of the fields of a record, in the order of `names`. A record written as an array may
lack fields at its end.
-/
def record? (names : List String) : Json → Option (List (Option Json))
  | .object members => fieldsOf? members names
  | .array items =>
    if items.length ≤ names.length then
      some (items.map some ++ List.replicate (names.length - items.length) none)
    else none
  | _ => none

/-- The strings of an array. -/
def stringList? : Json → Option (List String)
  | .array items => items.mapM string?
  | _ => none

/-- The names and strings of a dictionary, as they are written. -/
def stringEntries? : Json → Option (List (String × String))
  | .object members => members.mapM fun (name, value) => value.string?.map fun s => (name, s)
  | _ => none

end LinkedShapes.Json
