import LinkedShapes.Number.Double

/-!
# Shortest decimal digits

A double stands for all real numbers that round to it, an interval around it. The shortest
digits of a double are the fewest decimal digits that name a number of this interval; among
numbers with as many digits, the nearest one to the double is taken.

## How they are found

For one digit, two digits and so on the decimal grid has two neighbours of the double, the one
below and the one above. If any point of the grid lies in the interval, so does one of these.
The first grid with a hit gives the answer, and seventeen digits always suffice.
-/

namespace LinkedShapes.Double

/-- Digits and a power of ten: the number `digits * 10 ^ exponent`. -/
structure Shortest where
  digits : Nat
  exponent : Int
deriving DecidableEq, Repr

namespace Shortest

/-- Drop the zeros at the end of the digits, at most `bound` of them. -/
def trimZeros : Nat → Nat → Int → Shortest
  | 0, digits, exponent => ⟨digits, exponent⟩
  | bound + 1, digits, exponent =>
    if digits ≠ 0 ∧ digits % 10 = 0 then trimZeros bound (digits / 10) (exponent + 1)
    else ⟨digits, exponent⟩

/-- A double and the ends of its interval as numerators over one denominator. -/
structure Interval where
  value : Nat
  low : Nat
  high : Nat
  denominator : Nat
  closed : Bool

/-- The interval of a finite double other than zero; its ends belong to it when `m` is even. -/
def interval (m : Nat) (e : Int) : Interval :=
  let up := 1 <<< (e - 2).toNat
  let down := 1 <<< (2 - e).toNat
  let gapBelow := if m = leadingBit ∧ minExponent < e then 1 else 2
  ⟨4 * m * up, (4 * m - gapBelow) * up, (4 * m + 2) * up, down, m % 2 = 0⟩

/-- Does `c * 10 ^ exponent` lie in the interval? -/
def hits (i : Interval) (exponent : Int) (c : Nat) : Bool :=
  let x := c * Nat.pow 10 exponent.toNat * i.denominator
  let unit := Nat.pow 10 (-exponent).toNat
  if i.closed then i.low * unit ≤ x && x ≤ i.high * unit
  else i.low * unit < x && x < i.high * unit

/-- The position of the leading digit: `10 ^ (p - 1) ≤ value < 10 ^ p`. -/
def leading (i : Interval) : Int :=
  (Nat.toDigits 10 (i.value * Nat.pow 10 400 / i.denominator)).length - 400

/-- The point of the grid of `10 ^ exponent` that is in the interval and nearest to the value. -/
def nearest? (i : Interval) (exponent : Int) : Option Nat :=
  let n := i.value * Nat.pow 10 (-exponent).toNat
  let d := i.denominator * Nat.pow 10 exponent.toNat
  let below := n / d
  let closest := roundHalfEven n d
  let other := if closest = below then below + 1 else below
  if hits i exponent closest then some closest
  else if hits i exponent other then some other
  else none

/-- Tries grids of more and more digits, `remaining` of them. -/
def search (i : Interval) : Nat → Nat → Shortest
  | 0, count => ⟨i.value * Nat.pow 10 count / i.denominator, -count⟩
  | remaining + 1, count =>
    let exponent := leading i - count
    match nearest? i exponent with
    | some c => trimZeros 18 c exponent
    | none => search i remaining (count + 1)

end Shortest

/-- The shortest digits of `m * 2 ^ e`. -/
def shortest (m : Nat) (e : Int) : Shortest :=
  if m = 0 then ⟨0, 0⟩ else Shortest.search (Shortest.interval m e) 17 1

end LinkedShapes.Double
