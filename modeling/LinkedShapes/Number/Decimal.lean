import LinkedShapes.Text.Character

/-!
# Decimal numbers

Decimals are exact: a coefficient over a power of ten, of any length. Two lexical forms are read
into them, that of integers and that of decimals, and they are compared without rounding.
-/

namespace LinkedShapes

open Text

/-- The number `coefficient / 10 ^ scale`. -/
structure Decimal where
  coefficient : Int
  scale : Nat
deriving DecidableEq, Repr

namespace Decimal

/-- The order of the numbers, whatever their scales. -/
def order (x y : Decimal) : Ordering :=
  compare (x.coefficient * Nat.pow 10 y.scale) (y.coefficient * Nat.pow 10 x.scale)

/-- Split off one sign: is it a minus, and what follows it? -/
def splitSign : List Char → Bool × List Char
  | '+' :: rest => (false, rest)
  | '-' :: rest => (true, rest)
  | text => (false, text)

/-- A number of the given sign and size. -/
def signed (negative : Bool) (size : Nat) : Int := if negative then -size else size

/-- The digits of a number without a sign, before the point and after it. -/
def splitPoint (text : List Char) : List Char × List Char :=
  (text.takeWhile (· != '.'), (text.dropWhile (· != '.')).drop 1)

/-- Reads an integer: a sign if need be, then decimal digits. -/
def ofInteger? (text : List Char) : Option Decimal :=
  let (negative, digits) := splitSign text
  if !digits.isEmpty && digits.all isAsciiDigit then
    some ⟨signed negative (digitsValue digits), 0⟩
  else none

/--
Reads a decimal: a sign if need be, then decimal digits with at most one point among, before or
after them. At least one digit is required.
-/
def ofDecimal? (text : List Char) : Option Decimal :=
  let (negative, unsigned) := splitSign text
  let (whole, fraction) := splitPoint unsigned
  if !(whole.isEmpty && fraction.isEmpty) && whole.all isAsciiDigit && fraction.all isAsciiDigit
  then some ⟨signed negative (digitsValue (whole ++ fraction)), fraction.length⟩
  else none

end Decimal

end LinkedShapes
