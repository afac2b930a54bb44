import LinkedShapes.Description.Scanning

/-!
# Validating descriptions

A description is validated before it is read. Its values are understood the way reading
understands them, and everything that is wrong is reported, nested like the description itself.
A value that cannot be read is reported and left out; defects of the shape end validation.
-/

namespace LinkedShapes.Description

/-- Computations that draw labels and may find a defect of the shape. -/
abbrev Validating := StateT Labels (Except ShapeError)

/-- Does what reading does; a fault of the description is told, a defect of the shape ends all. -/
def attempt {α : Type} (reading : Decoding α) : Validating (Except DecodeError α) := fun labels =>
  match reading labels with
  | .ok (a, labels) => .ok (.ok a, labels)
  | .error (.shape defect) => .error defect
  | .error fault => .ok (.error fault, labels)

/-- The terms that a value stands for. Descriptions of resources are not read. -/
def termsOfValue (s : Setting) (shape : Shape) (path : String) (json : Json) :
    Decoding (List Term) := do
  let terms := do return (← value s shape path json).map (·.1)
  match json with
  | .object members =>
    match ← subject? s shape members with
    | some subject => return [subject]
    | none => terms
  | _ => terms

/-- The terms that the values of a group stand for, each once, and the values left out. -/
def termsOfGroup (s : Setting) (shape : Shape) (path : String) (index : Nat)
    (terms : List Term) (issues : List String) :
    List Json → Validating (List Term × Trace)
  | [] => return (terms, .ofIssues issues)
  | json :: values => do
    match ← attempt (termsOfValue s shape (path ++ "/" ++ toString index) json) with
    | .ok found => termsOfGroup s shape path (index + 1) (terms ++ found).eraseDups issues values
    | .error fault =>
      termsOfGroup s shape path (index + 1) terms (issues ++ [fault.message]) values

/-- The values of a member, where the described resource is given by a JSON value. -/
def memberValues (name : String) : Json → Except Trace (List Json)
  | .object members =>
    match Json.lookup name members with
    | some (.array items) => .ok items
    | some .null => .ok []
    | some value => .ok [value]
    | none => .ok []
  | .string _ => .ok []
  | other => .error (.issue (other.text ++ " is not a structured object"))

/-- Reports members that are neither keywords nor fields. -/
def unexpectedMembers (s : Setting) (aliases : Aliases) (shape : Shape) (values : List Json) :
    Trace :=
  if shape.isTagged then .empty
  else .collect <| values.flatMap fun
    | .object members =>
      (members.filter fun (name, _) =>
        !(Keywords.looksReserved name || s.keywords.isReserved name || aliases.contains name)).map
        fun (name, _) => .field name (.issue "unexpected field")
    | _ => []

mutual

/-- Validates a group of values that stand for the terms. -/
def validateGroup (s : Setting) (aliases : Aliases) (values : List Json) (terms : List Term) :
    Shape → Validating Trace
  | .and shapes => validateAll s aliases values terms .empty shapes
  | .or shapes => validateAny s aliases values terms shapes
  | .when test pass fail => do
    if (← validateGroup s aliases values terms test).isEmpty then
      validateGroup s aliases values terms pass
    else validateGroup s aliases values terms fail
  | .link _ shape => validateGroup s aliases values terms shape
  | .field edge _ shape => do
    let name ← fieldAlias aliases edge
    values.foldlM (fun trace json =>
      match json with
      | .null => pure trace
      | _ =>
        match memberValues name json with
        | .error issue => pure (trace.merge issue)
        | .ok nested => do
          let (found, issues) ← termsOfGroup s shape ("/" ++ name) 0 [] [] nested
          let aliases ← Aliases.ofShape shape s.keywords
          let inner ← validateGroup s aliases nested found shape
          let inner := (issues.merge inner).merge (unexpectedMembers s aliases shape nested)
          return trace.merge (.field name inner)) .empty
  | shape => do return ← shape.check s.focus terms

/-- Collects what is wrong with the values under all of the shapes. -/
def validateAll (s : Setting) (aliases : Aliases) (values : List Json) (terms : List Term)
    (trace : Trace) : List Shape → Validating Trace
  | [] => return trace
  | shape :: shapes => do
    let found ← validateGroup s aliases values terms shape
    validateAll s aliases values terms (trace.merge found) shapes

/-- Stops at the first of the shapes that the values satisfy. -/
def validateAny (s : Setting) (aliases : Aliases) (values : List Json) (terms : List Term) :
    List Shape → Validating Trace
  | [] => return .issue "values don't match any alternative"
  | shape :: shapes => do
    if (← validateGroup s aliases values terms shape).isEmpty then return .empty
    else validateAny s aliases values terms shapes

end

/-- The linked resource stands in for the group. -/
@[simp] theorem validateGroup_link {s : Setting} {aliases : Aliases} {values : List Json}
    {terms : List Term} {iri : String} {shape : Shape} :
    validateGroup s aliases values terms (.link iri shape) =
      validateGroup s aliases values terms shape := by
  rw [validateGroup]

/-- What is wrong with the description of the focus. -/
def validateFocus (s : Setting) (shape : Shape) (json : Json) : Validating Trace := do
  let issues ← match root s shape json with
    | .ok _ => pure Trace.empty
    | .error (.shape defect) => throw defect
    | .error fault => pure (.issue fault.message)
  let aliases ← Aliases.ofShape shape s.keywords
  let found ← validateGroup s aliases [json] [.iri s.focus] shape
  return (issues.merge found).merge (unexpectedMembers s aliases shape [json])

end LinkedShapes.Description
