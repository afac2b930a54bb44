import LinkedShapes.Iri.Reference
import LinkedShapes.Pattern.Basic
import LinkedShapes.Shape.Basic
import LinkedShapes.Shape.Error
import LinkedShapes.Term.Value
import LinkedShapes.Text.Words
import LinkedShapes.Trace

/-!
# Checking values

The constraints that look at a group of values and no further are checked here, both for
descriptions and for graphs, so that what is wrong is told in the same words. Connectives,
fields, links and notes pass; a guard must have been answered before.
-/

namespace LinkedShapes

/-- The term that an operand stands for when the focus is `focus`. -/
def Operand.resolve (focus : String) : Operand → Term
  | .term t => t
  | .focus reference => .iri (Iri.resolve focus reference)

/-- The terms of a set of operands, in the order of the operands. -/
def OrderedSet.resolve (focus : String) (operands : OrderedSet Operand) : List Term :=
  operands.toList.map (·.resolve focus)

namespace Shape

/-- One issue for each value that fails a test. -/
def each (values : List Term) (test : Term → Bool) (message : Term → String) : Trace :=
  .ofIssues ((values.filter (!test ·)).map message)

/-- One issue for each value that does not compare to the limit in one of the given ways. -/
def bounded (values : List Term) (limit : Term) (orders : List Ordering) (relation : String) :
    Trace :=
  each values (fun v => (v.compareValues? limit).any orders.contains) fun v =>
    v.display ++ " is not " ++ relation ++ " " ++ limit.display

/-- A list of terms as a set. -/
def setText (terms : List Term) : String :=
  "\x7b" ++ ", ".intercalate (terms.map Term.display) ++ "\x7d"

/-- The language tags of the values, in order, each with the number of its values. -/
def languageCounts (values : List Term) : List (String × Nat) :=
  (values.filterMap Term.language).foldl
    (fun counts tag => Sorted.alter tag (fun n => n.getD 0 + 1) counts) []

/-- The value of a term is one of those expected. -/
def isAmong (expected : List Term) (t : Term) : Bool := expected.any t.sameValue

/-- One of the values is the one expected. -/
def isPresent (values : List Term) (expected : Term) : Bool := values.any (·.sameValue expected)

/-- What is wrong with a group of values. -/
def check (shape : Shape) (focus : String) (values : List Term) : Except ShapeError Trace :=
  match shape with
  | .guard g => .error (.unredactedGuard g.display)
  | .datatype iri => .ok <| each values (·.isOf iri) fun v =>
    v.display ++ " is not of datatype <" ++ iri ++ ">"
  | .range operands =>
    let range := operands.resolve focus
    .ok <| each values (isAmong range) fun v =>
      v.display ++ " is not in the expected value range " ++ setText range
  | .lang tags =>
    let expected := if tags.isEmpty then "*" else ", ".intercalate tags.toList
    .ok <| each values (fun v => v.language.any fun tag => tags.isEmpty || tag ∈ tags) fun v =>
      v.display ++ " is not in the expected language set \x7b" ++ expected ++ "\x7d"
  | .minExclusive limit => .ok <| bounded values (limit.resolve focus) [.gt] "strictly greater than"
  | .maxExclusive limit => .ok <| bounded values (limit.resolve focus) [.lt] "strictly less than"
  | .minInclusive limit =>
    .ok <| bounded values (limit.resolve focus) [.eq, .gt] "greater than or equal to"
  | .maxInclusive limit =>
    .ok <| bounded values (limit.resolve focus) [.lt, .eq] "less than or equal to"
  | .minLength limit => .ok <| each values (limit ≤ ·.text.length) fun v =>
    v.display ++ " length is not greater than or equal to " ++ toString limit
  | .maxLength limit => .ok <| each values (·.text.length ≤ limit) fun v =>
    v.display ++ " length is not less than or equal to " ++ toString limit
  | .pattern expression flags => do
    let pattern ← (Pattern.compile expression flags).mapError (.malformedPattern expression)
    return each values (pattern.isMatch ·.text) fun v =>
      v.display ++ " textual value doesn't match <" ++ expression ++ ">"
  | .like keywords stemming => .ok <| each values (Text.like ·.text keywords stemming) fun v =>
    v.display ++ " textual value is not like <" ++ keywords ++ ">"
  | .stem start => .ok <| each values (start.toList.isPrefixOf ·.text.toList) fun v =>
    v.display ++ " textual value has not stem <" ++ start ++ ">"
  | .minCount limit => .ok <|
    if values.length < limit then
      .issue ("value count is not greater than or equal to " ++ toString limit)
    else .empty
  | .maxCount limit => .ok <|
    if limit < values.length then
      .issue ("value count is not less than or equal to " ++ toString limit)
    else .empty
  | .all operands =>
    let expected := operands.resolve focus
    .ok <|
      if expected.all (isPresent values) then .empty
      else .issue ("values don't include all expected values " ++ setText expected)
  | .any operands =>
    let expected := operands.resolve focus
    .ok <|
      if expected.any (isPresent values) then .empty
      else .issue
        ("values don't include at least one of the expected values " ++ setText expected)
  | .localized => .ok <| .ofIssues <|
    ((languageCounts values).filter (1 < ·.2)).map fun (tag, _) =>
      "multiple values for <" ++ tag ++ "> language tag"
  | .and _ | .or _ | .when .. | .field .. | .link .. | .clazz _ | .note .. => .ok .empty

end Shape

end LinkedShapes
