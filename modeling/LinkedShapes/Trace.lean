import LinkedShapes.Json.Printer
import LinkedShapes.Json.Record
import LinkedShapes.Sorted

/-!
# Traces

A trace reports what is wrong with a description. It is nested like the description: issues of
a level stay there, issues of the values of a field are found under the name of the field. The
trace without issues reports success.
-/

namespace LinkedShapes

/-- The issues of a level, and the traces of its fields in the order of their names. -/
inductive Trace where
  | mk (issues : List String) (fields : List (String × Trace))

namespace Trace

/-- The trace without issues. -/
def empty : Trace := mk [] []

instance : Inhabited Trace := ⟨empty⟩

/-- The issues of the level. -/
def issues : Trace → List String
  | mk issues _ => issues

/-- The traces of the fields. -/
def fields : Trace → List (String × Trace)
  | mk _ fields => fields

/-- The trace of a field. -/
def get? (t : Trace) (name : String) : Option Trace := Sorted.find? name t.fields

mutual

/-- Is no issue reported at any level? -/
def isEmpty : Trace → Bool
  | mk issues fields => issues.isEmpty && areEmpty fields

def areEmpty : List (String × Trace) → Bool
  | [] => true
  | (_, t) :: fields => isEmpty t && areEmpty fields

end

/-- The issues with one more, unless it is among them. -/
def addIssue (issues : List String) (message : String) : List String :=
  if message ∈ issues then issues else issues ++ [message]

/-- The trace of several issues. -/
def ofIssues (messages : List String) : Trace := mk (messages.foldl addIssue []) []

/-- The trace of a single issue. -/
def issue (message : String) : Trace := ofIssues [message]

/-- The trace of a field; nothing if the field has no issues. -/
def field (name : String) (child : Trace) : Trace :=
  if child.isEmpty then empty else mk [] [(name, child)]

mutual

/-- The issues of both traces, level by level. -/
def merge (t : Trace) : Trace → Trace
  | mk issues fields => mk (issues.foldl addIssue t.issues) (mergeFields t.fields fields)

/-- The traces of fields with further ones merged in. -/
def mergeFields (known : List (String × Trace)) : List (String × Trace) → List (String × Trace)
  | [] => known
  | (name, child) :: fields =>
    let merged := match Sorted.find? name known with
      | some existing => merge existing child
      | none => child
    let others := Sorted.remove name known
    mergeFields (if merged.isEmpty then others else Sorted.set name merged others) fields

end

/-- The issues of all traces. -/
def collect (traces : List Trace) : Trace := traces.foldl merge empty

/-! ## JSON -/

mutual

/-- The trace as JSON; what is empty is left out. -/
def toJson : Trace → Json
  | mk issues fields =>
    .object <|
      (if issues.isEmpty then [] else [("issues", .array (issues.map .string))]) ++
      (if fields.isEmpty then [] else [("fields", .object (fieldsToJson fields))])

def fieldsToJson : List (String × Trace) → List (String × Json)
  | [] => []
  | (name, t) :: fields => (name, toJson t) :: fieldsToJson fields

end

/-- The way a trace is shown. -/
def display (t : Trace) : String := t.toJson.text

mutual

/--
Reads a trace: a record of its issues and fields, both of which may be missing. What is read is
kept as it is, repeated issues and empty fields included.
-/
def ofJson? : Json → Option Trace
  | .object members => readMembers none none members
  | .array [] => some empty
  | .array [issues] => do some (mk (← issues.stringList?) [])
  | .array [issues, fields] => do some (mk (← issues.stringList?) (← readFields fields))
  | _ => none

def readMembers (issues : Option (List String)) (fields : Option (List (String × Trace))) :
    List (String × Json) → Option Trace
  | [] => some (mk (issues.getD []) (fields.getD []))
  | (name, value) :: members =>
    if name = "issues" then
      if issues.isSome then none
      else match value.stringList? with
        | some found => readMembers (some found) fields members
        | none => none
    else if name = "fields" then
      if fields.isSome then none
      else match readFields value with
        | some found => readMembers issues (some found) members
        | none => none
    else readMembers issues fields members

def readFields : Json → Option (List (String × Trace))
  | .object members => readEntries [] members
  | _ => none

def readEntries (known : List (String × Trace)) :
    List (String × Json) → Option (List (String × Trace))
  | [] => some known
  | (name, value) :: members =>
    match ofJson? value with
    | some t => readEntries (Sorted.set name t known) members
    | none => none

end

end Trace

end LinkedShapes
