import LinkedShapes.Shape.Constructors
import LinkedShapes.Shape.Error

/-!
# Redaction

Guards switch parts of a shape by execution context. Redaction answers them once and for all: a
guard that holds becomes the shape that always holds, a guard that fails the shape that never
does, and conditionals on answered guards collapse to the branch that applies. Guards on axes
that the context says nothing about stay.
-/

namespace LinkedShapes

open Vocabulary

/-- The way guards on an axis are answered. -/
inductive GuardRule where
  /-- All of them with the same answer. -/
  | status (holds : Bool)
  /-- A guard holds if it names one of the values. -/
  | values (values : OrderedSet String)
deriving DecidableEq

/-- The rules of an execution context, by axis. -/
structure GuardContext where
  rule : Axis → Option GuardRule

namespace GuardContext

/-- The context that answers no guard. -/
def silent : GuardContext := ⟨fun _ => none⟩

/-- The context with another rule for an axis. -/
def set (c : GuardContext) (axis : Axis) (r : GuardRule) : GuardContext :=
  ⟨fun a => if a = axis then some r else c.rule a⟩

/-- Answer all guards on an axis alike. -/
def withStatus (c : GuardContext) (axis : Axis) (holds : Bool) : GuardContext :=
  c.set axis (.status holds)

/-- Answer the guards on an axis by the values they name. -/
def withValues (c : GuardContext) (axis : Axis) (values : List String) : GuardContext :=
  c.set axis (.values (.ofList values))

/-- The context of descriptions: any role, task and area, conveying. -/
def conveying : GuardContext :=
  (((silent.withStatus .role true).withStatus .task true).withStatus .area true).withValues
    .mode [Mode.convey]

/-- The answer to a guard, if the context covers its axis. -/
def answer (c : GuardContext) (g : Guard) : Option Bool :=
  (c.rule g.axis).map fun
    | .status holds => holds
    | .values values => !values.disjoint g.values

end GuardContext

namespace Shape

mutual

/-- The shape with the guards answered that the context covers. -/
def redact (c : GuardContext) : Shape → Shape
  | .guard g =>
    match c.answer g with
    | some true => conj []
    | some false => disj []
    | none => .guard g
  | .and shapes => conj (redactAll c shapes)
  | .or shapes => disj (redactAll c shapes)
  | .when test pass fail => cond (redact c test) (redact c pass) (redact c fail)
  | .field edge label shape => along edge label (redact c shape)
  | .link iri shape => .link iri (redact c shape)
  | s => s

def redactAll (c : GuardContext) : List Shape → List Shape
  | [] => []
  | s :: shapes => redact c s :: redactAll c shapes

end

mutual

/-- The first guard that is left in a shape. -/
def firstGuard? : Shape → Option Guard
  | .guard g => some g
  | .and shapes => firstGuardOfAll? shapes
  | .or shapes => firstGuardOfAll? shapes
  | .when test pass fail => ((firstGuard? test).or (firstGuard? pass)).or (firstGuard? fail)
  | .field _ _ shape => firstGuard? shape
  | .link _ shape => firstGuard? shape
  | _ => none

def firstGuardOfAll? : List Shape → Option Guard
  | [] => none
  | s :: shapes => (firstGuard? s).or (firstGuardOfAll? shapes)

end

/-- Fails at the first guard that is left. -/
def checkRedacted (shape : Shape) : Except ShapeError Unit :=
  match shape.firstGuard? with
  | some g => .error (.unredactedGuard g.display)
  | none => .ok ()

end Shape

end LinkedShapes
