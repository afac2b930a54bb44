import LinkedShapes.Pattern.Matching
import LinkedShapes.Pattern.Parser
import LinkedShapes.Pattern.Size
import LinkedShapes.Shape.Error

/-!
# Patterns

A pattern is a regular expression that is meant to match the whole of a text: it is put between
anchors for the start and the end. The anchors are added to the text of the expression, not to
what it means. An expression that closes the parenthesis before its end therefore escapes them,
and with the flag for lines they stand for the ends of lines.

## Flags

`i`, `m`, `s` and `x` may be given, each as often as one likes; any other flag is refused before
the expression is looked at.
-/

namespace LinkedShapes

/-- A pattern that texts can be matched with. -/
structure Pattern where
  expression : Expression
deriving DecidableEq, Repr

namespace Pattern

/-- The flags that the letters of a text set. -/
def flags (letters : List Char) : Except PatternFault Flags :=
  letters.foldlM (fun f c =>
    match if "imsx".contains c then f.set? c true else none with
    | some f => .ok f
    | none => .error (.unknownFlag c)) {}

/-- The text of an expression between anchors for the start and the end. -/
def anchored (expression : String) : List Char :=
  "^(?:".toList ++ expression.toList ++ ")$".toList

/-- The pattern of an expression. -/
def compile (expression flags : String) : Except PatternFault Pattern := do
  let flags ← Pattern.flags flags.toList
  match Expression.parse? flags (anchored expression) with
  | some e => if e.size ≤ Expression.maxSize then return ⟨e⟩ else throw .malformedExpression
  | none => throw .malformedExpression

/-- Does the pattern match a text? -/
def isMatch (p : Pattern) (text : String) : Bool := p.expression.matchesIn text.toList

end Pattern

end LinkedShapes
