import LinkedShapes.Json.Basic
import LinkedShapes.Text.Percent
import LinkedShapes.Text.Split

/-!
# Forms

A query may be given as a form: pairs of a key and a value, with ampersands between the pairs
and an equals sign within. Forms are read as JSON objects, so that they mean the same. The
values of a key that is repeated accumulate, and commas separate several values.
-/

namespace LinkedShapes.Query

open Text

/-! ## Reserved keys -/

def termsKey : String := ".terms"
def statsKey : String := ".stats"
def orderKey : String := ".order"
def offsetKey : String := ".offset"
def limitKey : String := ".limit"

/-! ## Numbers -/

/-- Reads a number of sixty-four bits without sign; a plus may stand in front. -/
def unsigned? (text : List Char) : Option Nat :=
  let digits := match text with
    | '+' :: digits => digits
    | digits => digits
  if digits.isEmpty ∨ ¬ digits.all isAsciiDigit ∨ Json.Number.maxUnsigned < digitsValue digits then
    none
  else some (digitsValue digits)

/-! ## Reading forms -/

/-- The text that a part of a form stands for: plus signs are spaces, bytes are UTF-8. -/
def formText (part : List Char) : String :=
  String.ofList <| Utf8.decodeLenient <| Percent.decode <|
    part.map fun c => if c = '+' then ' ' else c

/-- The key and the value of a pair; the value is empty if there is none. -/
def formPair (part : List Char) : String × String :=
  let (key, value) := part.span (· != '=')
  (formText key, formText value.tail)

/-- The pairs of a form, empty ones aside. -/
def formPairs (text : List Char) : List (String × String) :=
  ((splitAt '&' text).filter (!·.isEmpty)).map formPair

/-- Adds a value to those of its key. -/
def accumulate (key value : String) : List (String × List String) → List (String × List String)
  | [] => [(key, [value])]
  | (k, values) :: known =>
    if k = key then (k, values ++ [value]) :: known
    else (k, values) :: accumulate key value known

/-- The texts that commas separate, as a text or as an array of texts. -/
def separated (values : List String) : Json :=
  match values.flatMap fun v => (splitAt ',' v.toList).map String.ofList with
  | [text] => .string text
  | texts => .array (texts.map .string)

/-- The JSON value that the values of a key stand for. -/
def formValue (key : String) (values : List String) : Json :=
  match values with
  | [value] =>
    if key = termsKey ∨ key = statsKey then .string value
    else if key = offsetKey ∨ key = limitKey then
      match unsigned? value.toList with
      | some n => .number (.integer n)
      | none => separated values
    else separated values
  | _ => separated values

/-- The members that a list of pairs stands for. -/
def formMembers (pairs : List (String × String)) : List (String × Json) :=
  (pairs.foldl (fun known pair => accumulate pair.1 pair.2 known) []).map fun (key, values) =>
    (key, formValue key values)

/-- The members that a form stands for. -/
def ofForm (text : List Char) : List (String × Json) := formMembers (formPairs text)

end LinkedShapes.Query
