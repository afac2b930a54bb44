import LinkedShapes.Unicode.Composition

/-!
# Composed texts

A character with marks can be spelled in several ways: as one composed character, or as a base
with marks behind it, and marks of different classes in any order. The composed form of a text
is the spelling with as few characters as possible, and its marks ordered by class.

It is found in three steps: everything is taken apart, the marks behind each base are put in
order, and then each base takes in the marks it can be composed with, unless a mark of the same
or a greater class stands between them. The syllables of Hangul are composed by arithmetic.
-/

namespace LinkedShapes.Text

open Unicode

/-! ## Hangul -/

/-- The first syllable. -/
def firstSyllable : Nat := 0xAC00

/-- The numbers of leading consonants, vowels and trailing consonants, none among the last. -/
def leadingCount : Nat := 19
def vowelCount : Nat := 21
def trailingCount : Nat := 28

/-- The code points before the first letter of each kind; trailing consonants start with none. -/
def firstLeading : Nat := 0x1100
def firstVowel : Nat := 0x1161
def firstTrailing : Nat := 0x11A7

/-- The letters of a syllable. -/
def lettersOfSyllable? (n : Nat) : Option (List Nat) :=
  let i := n - firstSyllable
  if firstSyllable ≤ n ∧ i < leadingCount * vowelCount * trailingCount then
    let pair := [firstLeading + i / (vowelCount * trailingCount),
      firstVowel + i % (vowelCount * trailingCount) / trailingCount]
    some (if i % trailingCount = 0 then pair else pair ++ [firstTrailing + i % trailingCount])
  else none

/-- The syllable of two letters, or of a syllable and a trailing consonant. -/
def syllable? (x y : Nat) : Option Nat :=
  if firstLeading ≤ x ∧ x < firstLeading + leadingCount ∧
      firstVowel ≤ y ∧ y < firstVowel + vowelCount then
    some (firstSyllable +
      ((x - firstLeading) * vowelCount + (y - firstVowel)) * trailingCount)
  else if firstSyllable ≤ x ∧ x < firstSyllable + leadingCount * vowelCount * trailingCount ∧
      (x - firstSyllable) % trailingCount = 0 ∧
      firstTrailing < y ∧ y < firstTrailing + trailingCount then
    some (x + (y - firstTrailing))
  else none

/-! ## Pairs -/

/-- The code point composed of two others. -/
def composite? (x y : Nat) : Option Nat :=
  (syllable? x y).or ((compositions.find? fun c => c.1 == x && c.2.1 == y).map (·.2.2))

/-- The most compositions that are nested in a character. -/
def maxCompositions : Nat := 4

/-- A code point taken apart; `depth` bounds the nested compositions. -/
def decomposed (depth : Nat) (n : Nat) : List Nat :=
  match lettersOfSyllable? n with
  | some letters => letters
  | none =>
    match depth, compositions.find? (·.2.2 == n) with
    | depth + 1, some (base, mark, _) => decomposed depth base ++ [mark]
    | _, _ => [n]

/-! ## Marks -/

/-- The class of a mark; zero for characters that are no marks. -/
def markClass (n : Nat) : Nat :=
  match markClasses.find? fun c => c.1 ≤ n && n ≤ c.2.1 with
  | some (_, _, markClass) => markClass
  | none => 0

/-- Puts a code point in front of others, behind marks of lesser classes if it is a mark. -/
def placeMark (n : Nat) : List Nat → List Nat
  | [] => [n]
  | m :: ms =>
    if 0 < markClass m ∧ markClass m < markClass n then m :: placeMark n ms else n :: m :: ms

/-- The marks behind each base in order. -/
def ordered (text : List Nat) : List Nat := text.foldr placeMark []

/-! ## Composition -/

/-- Composes a base with what follows; `marks` are those it could not take in, in reverse. -/
def composeFrom (base : Nat) (marks : List Nat) : List Nat → List Nat
  | [] => base :: marks.reverse
  | n :: ns =>
    let free := match marks with
      | [] => true
      | m :: _ => markClass m < markClass n
    match if free then composite? base n else none with
    | some composed => composeFrom composed marks ns
    | none =>
      if markClass n = 0 then base :: marks.reverse ++ composeFrom n [] ns
      else composeFrom base (n :: marks) ns

/-- The composed form of a text. -/
def composed (text : List Char) : List Char :=
  match ordered (text.flatMap fun c => decomposed maxCompositions c.toNat) with
  | [] => []
  | n :: ns => (composeFrom n [] ns).map Char.ofNat

end LinkedShapes.Text
