import LinkedShapes.Unicode.Alphabetic
import LinkedShapes.Unicode.Word

/-!
# Classes of characters

The classes that names, keywords and references are read with. All of them know the whole of
Unicode unless their name says otherwise.
-/

namespace LinkedShapes.Text

open Unicode

/-- The characters with the property White_Space. -/
def isWhiteSpace (c : Char) : Bool :=
  let n := c.toNat
  (0x09 ≤ n && n ≤ 0x0D) || n == 0x20 || n == 0x85 || n == 0xA0 || n == 0x1680 ||
    (0x2000 ≤ n && n ≤ 0x200A) || n == 0x2028 || n == 0x2029 || n == 0x202F || n == 0x205F ||
    n == 0x3000

/-- Alphabetic characters. -/
def isAlphabetic (c : Char) : Bool := alphabetic.contains c

/-- Alphabetic characters and numbers of any kind. -/
def isAlphanumeric (c : Char) : Bool := alphabetic.contains c || numeric.contains c

/-- The characters that words are made of. -/
def isWordChar (c : Char) : Bool := wordPoints.contains c

/-- A word: one word character or more, and nothing else. -/
def isWord (name : String) : Bool :=
  !name.toList.isEmpty && name.toList.all isWordChar

/-- The letters of ASCII. -/
def isAsciiAlpha (c : Char) : Bool :=
  ('a'.toNat ≤ c.toNat && c.toNat ≤ 'z'.toNat) || ('A'.toNat ≤ c.toNat && c.toNat ≤ 'Z'.toNat)

/-- The ten digits of ASCII. -/
def isAsciiDigit (c : Char) : Bool := '0'.toNat ≤ c.toNat && c.toNat ≤ '9'.toNat

/-- The letters and digits of ASCII. -/
def isAsciiAlphanumeric (c : Char) : Bool := isAsciiAlpha c || isAsciiDigit c

/-- The lower-case form of an ASCII capital; every other character is left alone. -/
def asciiLower (c : Char) : Char :=
  if 'A'.toNat ≤ c.toNat && c.toNat ≤ 'Z'.toNat then Char.ofNat (c.toNat + 32) else c

/-- The value of a decimal digit. -/
def digitValue (c : Char) : Nat := c.toNat - '0'.toNat

/-- The value of a hexadecimal digit of either case. -/
def hexValue? (c : Char) : Option Nat :=
  let n := c.toNat
  if 0x30 ≤ n ∧ n ≤ 0x39 then some (n - 0x30)
  else if 0x61 ≤ n ∧ n ≤ 0x66 then some (n - 0x61 + 10)
  else if 0x41 ≤ n ∧ n ≤ 0x46 then some (n - 0x41 + 10)
  else none

/-- The number that a list of decimal digits spells. -/
def digitsValue (digits : List Char) : Nat :=
  digits.foldl (fun n c => 10 * n + digitValue c) 0

/-- The text without the white space at its ends. -/
def trim (text : List Char) : List Char :=
  ((text.dropWhile isWhiteSpace).reverse.dropWhile isWhiteSpace).reverse

end LinkedShapes.Text
