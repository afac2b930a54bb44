import LinkedShapes.Number.Shortest

/-!
# Numbers of JSON

A JSON number is an integer when it is written without point and exponent and fits into
sixty-four bits, signed or unsigned. Every other number is a double. Integers are written with
their digits, doubles with their shortest digits.

## Layout of a double

With `p` the position of the point behind the leading digit counted from the left:

* digits that end before the point are filled up with zeros and `.0` while `p ≤ 16`;
* a point inside the digits stays there while `p ≤ 16`;
* up to five zeros are written in front, as in `0.00001`;
* everything else has one digit before the point and an exponent with its sign, as in `1.5e-7`
  or `1e+21`.

## Reading

The digits are collected in an unsigned number of sixty-four bits; once a digit does not fit,
it and the digits after it are dropped. The number collected is rounded to a double, and the
power of ten is applied by a rounded multiplication or division.
-/

namespace LinkedShapes

open Text

namespace Json

/-- A number of JSON. -/
inductive Number where
  | integer (value : Int)
  | double (value : Double)
deriving DecidableEq, Repr

namespace Number

/-! ## Writing -/

/-- The text of the finite double `digits * 10 ^ exponent`, without its sign. -/
def layout (s : Double.Shortest) : String :=
  let digits := Nat.toDigits 10 s.digits
  let length : Int := digits.length
  let point := length + s.exponent
  if s.digits = 0 then "0.0"
  else if 0 ≤ s.exponent ∧ point ≤ 16 then
    String.ofList (digits ++ List.replicate s.exponent.toNat '0') ++ ".0"
  else if 0 < point ∧ point ≤ 16 then
    String.ofList (digits.take point.toNat ++ '.' :: digits.drop point.toNat)
  else if -5 < point ∧ point ≤ 0 then
    "0." ++ String.ofList (List.replicate (-point).toNat '0' ++ digits)
  else
    let mantissa := match digits with
      | [d] => [d]
      | d :: ds => d :: '.' :: ds
      | [] => []
    String.ofList mantissa ++ (if 0 < point then "e+" else "e") ++ toString (point - 1)

/-- The text of a double; what is not finite has none in JSON and is written `null`. -/
def doubleText : Double → String
  | .finite negative m e => (if negative then "-" else "") ++ layout (Double.shortest m e)
  | _ => "null"

/-- The text of a number. -/
def text : Number → String
  | .integer n => toString n
  | .double d => doubleText d

/-- Is the number an integer? -/
def isInteger : Number → Bool
  | .integer _ => true
  | .double _ => false

/-! ## Equality -/

/-- Equality of numbers: by value among integers, by value among doubles, never across. -/
def same : Number → Number → Bool
  | .integer m, .integer n => m == n
  | .double x, .double y => x.order? y == some .eq
  | _, _ => false

/-! ## Reading -/

/-- The greatest unsigned number of sixty-four bits. -/
def maxUnsigned : Nat := 0xFFFFFFFFFFFFFFFF

/-- The least signed number of sixty-four bits. -/
def minSigned : Int := -0x8000000000000000

/-- Adds digits to `significand` as long as it fits; also counts the digits taken. -/
def absorb (significand : Nat) : List Char → Nat × Nat
  | [] => (significand, 0)
  | c :: cs =>
    let grown := 10 * significand + digitValue c
    if maxUnsigned < grown then (significand, 0)
    else
      let (result, taken) := absorb grown cs
      (result, taken + 1)

/-- The exponents of powers of ten that are doubles. -/
def maxPower : Nat := 308

/--
`significand * 10 ^ exponent`, rounded at each step; `none` when it overflows. Powers below the
least one are taken off in steps of `10 ^ 308`, `steps` of them at most.
-/
def scale (significand : Double) (exponent : Int) : Nat → Option Double
  | 0 => some (.zero false)
  | steps + 1 =>
    if exponent.natAbs ≤ maxPower then
      let power := Double.ofNat (Nat.pow 10 exponent.natAbs)
      if 0 ≤ exponent then
        let product := significand.mul power
        if product.isFinite then some product else none
      else some (significand.div power)
    else if significand.order? (.zero false) = some .eq then some significand
    else if 0 ≤ exponent then none
    else scale (significand.div (Double.ofNat (Nat.pow 10 maxPower))) (exponent + maxPower) steps

/-- The greatest signed number of thirty-two bits. -/
def maxSigned32 : Int := 0x7FFFFFFF

/-- The least signed number of thirty-two bits. -/
def minSigned32 : Int := -0x80000000

/-- The number a numeral with point or exponent, or with too many digits, stands for. -/
def double? (n : Numeral) : Option Double :=
  let (whole, taken) := absorb 0 n.whole
  let (significand, fractionTaken) := absorb whole n.fraction
  let shift : Int := (n.whole.length - taken : Nat) - (fractionTaken : Int)
  let magnitude : Option Double :=
    if maxSigned32 < n.exponent then
      if significand = 0 then some (.zero false) else none
    else if n.exponent < -maxSigned32 then some (.zero false)
    else
      let exponent := max minSigned32 (min maxSigned32 (shift + n.exponent))
      scale (.ofNat significand) exponent 10
  magnitude.map fun d => if n.negative then d.negate else d

/--
The number a numeral stands for, where `plain` tells that it has neither point nor exponent;
`none` when it is too large for a double.
-/
def ofNumeral? (n : Numeral) (plain : Bool) : Option Number :=
  let value := digitsValue n.whole
  if plain && !n.negative && value ≤ maxUnsigned then some (.integer value)
  else if plain && n.negative && 0 < value && minSigned ≤ -value then some (.integer (-value))
  else (double? n).map .double

end Number

end Json

end LinkedShapes
