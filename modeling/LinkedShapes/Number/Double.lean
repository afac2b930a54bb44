import LinkedShapes.Text.Character

/-!
# Doubles

Double-precision numbers, kept as a sign, an integer significand and a binary exponent, so that
rounding and comparison are integer arithmetic.

## Rounding

Every operation takes the exact result, a quotient of two natural numbers, to the nearest
double; a result half way between two of them goes to the one with the even significand. Finite
results have a significand below `2 ^ 53` and an exponent of at least `-1074`, and the
significand has all of its 53 bits unless the exponent is the least one.
-/

namespace LinkedShapes

open Text

/-- A double: `(-1) ^ negative * significand * 2 ^ exponent` when it is finite. -/
inductive Double where
  | nan
  | infinite (negative : Bool)
  | finite (negative : Bool) (significand : Nat) (exponent : Int)
deriving DecidableEq, Repr

/-- The natural number nearest to `n / d`, the even one of two. -/
def roundHalfEven (n d : Nat) : Nat :=
  let q := n / d
  let r := n % d
  if 2 * r < d then q else if d < 2 * r then q + 1 else if q % 2 = 0 then q else q + 1

namespace Double

/-- The least exponent of a finite double. -/
def minExponent : Int := -1074

/-- The greatest exponent of a finite double. -/
def maxExponent : Int := 971

/-- Zero of the given sign. -/
def zero (negative : Bool) : Double := .finite negative 0 minExponent

def isFinite : Double → Bool
  | .finite .. => true
  | _ => false

def negate : Double → Double
  | .nan => .nan
  | .infinite negative => .infinite !negative
  | .finite negative m e => .finite (!negative) m e

/-- The least significand with all of its fifty-three bits. -/
def leadingBit : Nat := 0x10000000000000

/-- The bit of the sign in the interchange format. -/
def signBit : Nat := 0x8000000000000000

/-- `n / d` in units of `2 ^ e`, rounded. -/
def inUnits (n d : Nat) (e : Int) : Nat :=
  if 0 ≤ e then roundHalfEven n (d <<< e.toNat) else roundHalfEven (n <<< (-e).toNat) d

/-- The exponent that gives `n / d` a significand of 53 bits, rounding aside. -/
def naturalExponent (n d : Nat) : Int :=
  let e : Int := (n.log2 : Int) - (d.log2 : Int) - 52
  let reaches :=
    if 0 ≤ e then (d <<< e.toNat) * leadingBit ≤ n else d * leadingBit ≤ n <<< (-e).toNat
  if reaches then e else e - 1

/-- The double nearest to `n / d`. -/
def ofRatio (negative : Bool) (n d : Nat) : Double :=
  if n = 0 then zero negative
  else
    let e := max (naturalExponent n d) minExponent
    let m := inUnits n d e
    let (m, e) := if m = 2 * leadingBit then (leadingBit, e + 1) else (m, e)
    if maxExponent < e then .infinite negative else .finite negative m e

/-- The double nearest to a natural number. -/
def ofNat (n : Nat) : Double := ofRatio false n 1

/-- The double nearest to `digits * 10 ^ exponent`; far exponents are not multiplied out. -/
def ofScientific (negative : Bool) (digits : Nat) (exponent : Int) : Double :=
  let magnitude : Int := (Nat.toDigits 10 digits).length + exponent
  if digits = 0 ∨ magnitude < -400 then zero negative
  else if 400 < magnitude then .infinite negative
  else if 0 ≤ exponent then ofRatio negative (digits * Nat.pow 10 exponent.toNat) 1
  else ofRatio negative digits (Nat.pow 10 (-exponent).toNat)

/-- `m * 2 ^ e / d` as a double. -/
def ofScaled (negative : Bool) (m d : Nat) (e : Int) : Double :=
  if 0 ≤ e then ofRatio negative (m <<< e.toNat) d else ofRatio negative m (d <<< (-e).toNat)

/-- The rounded product. -/
def mul : Double → Double → Double
  | .finite s m e, .finite t n f => ofScaled (s != t) (m * n) 1 (e + f)
  | .infinite s, .infinite t => .infinite (s != t)
  | .infinite s, .finite t n _ => if n = 0 then .nan else .infinite (s != t)
  | .finite s m _, .infinite t => if m = 0 then .nan else .infinite (s != t)
  | _, _ => .nan

/-- The rounded quotient. -/
def div : Double → Double → Double
  | .finite s m e, .finite t n f =>
    if n = 0 then (if m = 0 then .nan else .infinite (s != t))
    else ofScaled (s != t) m n (e - f)
  | .infinite s, .finite t _ _ => .infinite (s != t)
  | .finite s _ _, .infinite t => zero (s != t)
  | _, _ => .nan

/-- The order of two numbers; nothing compares with what is not a number. -/
def order? : Double → Double → Option Ordering
  | .nan, _ => none
  | _, .nan => none
  | .infinite s, .infinite t => some (compare t.toNat s.toNat)
  | .infinite s, .finite .. => some (if s then .lt else .gt)
  | .finite .., .infinite t => some (if t then .gt else .lt)
  | .finite s m e, .finite t n f =>
    let low := min e f
    let x : Int := (m <<< (e - low).toNat : Nat)
    let y : Int := (n <<< (f - low).toNat : Nat)
    some (compare (if s then -x else x) (if t then -y else y))

/-- The sixty-four bits of the interchange format. -/
def toBits : Double → Nat
  | .nan => 0x7FF8000000000000
  | .infinite s => s.toNat * signBit + 0x7FF0000000000000
  | .finite s m e =>
    s.toNat * signBit +
      (if m < leadingBit then m
       else (e - minExponent + 1).toNat * leadingBit + (m - leadingBit))

end Double

/-- The parts of a decimal numeral: a sign, digits around the point and an exponent. -/
structure Numeral where
  negative : Bool
  whole : List Char
  fraction : List Char
  exponent : Int
deriving DecidableEq, Repr

namespace Numeral

/-- The digits of the numeral as a single number. -/
def digits (n : Numeral) : Nat := digitsValue (n.whole ++ n.fraction)

/-- The double nearest to the number the numeral spells. -/
def toDouble (n : Numeral) : Double :=
  .ofScientific n.negative n.digits (n.exponent - n.fraction.length)

/-- Reads an exponent: nothing at all, or `e`, a sign if need be, and digits. -/
def exponent? : List Char → Option Int
  | [] => some 0
  | c :: text =>
    if c = 'e' ∨ c = 'E' then
      let (negative, digits) := match text with
        | '+' :: rest => (false, rest)
        | '-' :: rest => (true, rest)
        | rest => (false, rest)
      if !digits.isEmpty && digits.all isAsciiDigit then
        some (if negative then -digitsValue digits else digitsValue digits)
      else none
    else none

/--
Reads a numeral: a sign if need be, digits with at most one point among, before or after them,
and an exponent if need be.
-/
def ofText? (text : List Char) : Option Numeral := do
  let (negative, unsigned) := match text with
    | '+' :: rest => (false, rest)
    | '-' :: rest => (true, rest)
    | rest => (false, rest)
  let whole := unsigned.takeWhile isAsciiDigit
  let afterWhole := unsigned.dropWhile isAsciiDigit
  let (fraction, tail) := match afterWhole with
    | '.' :: rest => (rest.takeWhile isAsciiDigit, rest.dropWhile isAsciiDigit)
    | rest => ([], rest)
  if whole.isEmpty && fraction.isEmpty then none
  else
    let exponent ← exponent? tail
    some ⟨negative, whole, fraction, exponent⟩

end Numeral

end LinkedShapes
