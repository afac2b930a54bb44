import LinkedShapes.Number.Decimal
import LinkedShapes.Number.Double
import LinkedShapes.Term.Basic

/-!
# Values of terms

Shapes constrain values by datatype and by order. A literal belongs to its datatype when its
lexical form can be read as one of its values; the abstract datatypes look at the kind of a
term only. Numbers compare by value across the numeric datatypes, exactly as long as both are
integers or decimals, as doubles otherwise.
-/

namespace LinkedShapes.Term

open Vocabulary

/-! ## Lexical forms -/

/-- Reads a boolean. -/
def boolean? (lexical : String) : Option Bool :=
  if lexical = "true" ∨ lexical = "1" then some true
  else if lexical = "false" ∨ lexical = "0" then some false
  else none

/-- Reads an integer. -/
def integer? (lexical : String) : Option Decimal := Decimal.ofInteger? lexical.toList

/-- Reads a decimal. -/
def decimal? (lexical : String) : Option Decimal := Decimal.ofDecimal? lexical.toList

/-- Reads a double: one of the special values, or a numeral that is not too large. -/
def double? (lexical : String) : Option Double :=
  if lexical = "INF" ∨ lexical = "+INF" then some (.infinite false)
  else if lexical = "-INF" then some (.infinite true)
  else if lexical = "NaN" then some .nan
  else ((Numeral.ofText? lexical.toList).map (·.toDouble)).filter (·.isFinite)

/-- Reads a number without rounding it. -/
def rational? (lexical : String) : Option Decimal := (integer? lexical).or (decimal? lexical)

/-! ## Datatypes -/

/-- The datatype a term carries: an abstract one for resources. -/
def typeOf : Term → String
  | .iri _ => Abstract.iri
  | .blankNode _ => Abstract.bnode
  | .literal l => l.datatype

/--
Can the lexical form be read as a value of the datatype? Resources and literals of datatypes
without known values are always well formed.
-/
def isWellFormed : Term → Bool
  | .literal l =>
    if l.datatype = Xsd.boolean then (boolean? l.lexical).isSome
    else if Xsd.isInteger l.datatype then (integer? l.lexical).isSome
    else if l.datatype = Xsd.decimal then (decimal? l.lexical).isSome
    else if l.datatype = Xsd.double ∨ l.datatype = Xsd.float then (double? l.lexical).isSome
    else true
  | _ => true

/-- Does a term belong to a datatype? -/
def isOf (t : Term) (datatype : String) : Bool :=
  if datatype = Abstract.value then true
  else if datatype = Abstract.resource then t.isResource
  else if datatype = Abstract.literal then t.isLiteral
  else t.typeOf == datatype && t.isWellFormed

/-! ## Comparison -/

/-- Compare two numbers by value. -/
def compareNumbers? (x y : String) : Option Ordering :=
  match rational? x, rational? y with
  | some a, some b => some (a.order b)
  | _, _ => do
    let a ← double? x
    let b ← double? y
    a.order? b

/-- Compare two literals; `none` when they do not compare. -/
def compareLiterals? (x y : Literal) : Option Ordering :=
  if Xsd.isNumeric x.datatype && Xsd.isNumeric y.datatype then
    compareNumbers? x.lexical y.lexical
  else if x.datatype ≠ y.datatype ∨ x.language ≠ y.language then none
  else if x.datatype = Xsd.boolean then do
    let a ← boolean? x.lexical
    let b ← boolean? y.lexical
    some (compare a b)
  else some (compare x.lexical y.lexical)

/--
Compare two values: numbers by value, booleans with false below true, other literals of one
datatype and language by their texts, resources of one kind by their names. Nothing else
compares.
-/
def compareValues? : Term → Term → Option Ordering
  | .iri x, .iri y => some (compare x y)
  | .blankNode x, .blankNode y => some (compare x y)
  | .literal x, .literal y => compareLiterals? x y
  | _, _ => none

/-- Are two terms equal, or equal as values? -/
def sameValue (x y : Term) : Bool := x == y || compareValues? x y == some .eq

end LinkedShapes.Term
