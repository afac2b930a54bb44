import LinkedShapes.Pattern.Expression
import LinkedShapes.Text.Character

/-!
# Flags of expressions

Flags hold for the rest of the group they are set in. Two of them change how an expression is
read: with `extended` white space is skipped and `#` begins a comment that ends with its line;
without `unicode` nothing may stand for a character beyond ASCII unless it is that character.
-/

namespace LinkedShapes

open Text

/-- The flags in force at a point of an expression. -/
structure Flags where
  /-- `i`: letters match in either case. -/
  ignoreCase : Bool := false
  /-- `m`: `^` and `$` match at the ends of lines. -/
  multiLine : Bool := false
  /-- `s`: the dot matches line feeds. -/
  dotAll : Bool := false
  /-- `R`: a carriage return ends lines, too. -/
  carriage : Bool := false
  /-- `u`: classes know all characters. -/
  unicode : Bool := true
  /-- `x`: white space and comments are skipped. -/
  extended : Bool := false
deriving DecidableEq, Repr

namespace Flags

/-- Which characters count as the same. -/
def caseRule (f : Flags) : CaseRule :=
  if f.ignoreCase then (if f.unicode then .folding else .ascii) else .exact

/-- Sets the flag of a letter; `none` for letters that are no flags. -/
def set? (f : Flags) (letter : Char) (value : Bool) : Option Flags :=
  match letter with
  | 'i' => some { f with ignoreCase := value }
  | 'm' => some { f with multiLine := value }
  | 's' => some { f with dotAll := value }
  | 'R' => some { f with carriage := value }
  | 'u' => some { f with unicode := value }
  | 'x' => some { f with extended := value }
  -- which of two matches is preferred makes no difference
  | 'U' => some f
  | _ => none

/-! ## White space and comments -/

/-- Skips white space and comments; `comment` tells whether the text begins inside a comment. -/
def skipBlank (comment : Bool) : List Char → List Char
  | [] => []
  | c :: cs =>
    if comment then skipBlank (c != '\n') cs
    else if isWhiteSpace c then skipBlank false cs
    else if c = '#' then skipBlank true cs
    else c :: cs

theorem length_skipBlank_le (comment : Bool) (text : List Char) :
    (skipBlank comment text).length ≤ text.length := by
  induction text generalizing comment with
  | nil => simp [skipBlank]
  | cons c cs ih =>
    unfold skipBlank
    have h₁ := ih (c != '\n')
    have h₂ := ih false
    have h₃ := ih true
    split
    · simp only [List.length_cons]; omega
    · split
      · simp only [List.length_cons]; omega
      · split
        · simp only [List.length_cons]; omega
        · exact Nat.le_refl _

/-- Skips what does not count at this point of an expression. -/
def skip (f : Flags) (text : List Char) : List Char :=
  if f.extended then skipBlank false text else text

theorem length_skip_le (f : Flags) (text : List Char) : (f.skip text).length ≤ text.length := by
  unfold skip
  split
  · exact length_skipBlank_le _ _
  · exact Nat.le_refl _

/-- The next character that is neither white space nor the sign of a comment. -/
def peek (f : Flags) (text : List Char) : Option Char :=
  if f.extended then
    match text.dropWhile isWhiteSpace with
    | '#' :: rest => (rest.dropWhile isWhiteSpace).head?
    | rest => rest.head?
  else text.head?

/-! ## Setting flags inside an expression -/

/--
Reads letters of flags up to the `:` or `)` behind them and returns that character with the
text after it. Letters behind a hyphen are taken back. No letter and no hyphen may come twice,
and the hyphen may not come last; `seen` holds what has come before, nearest first.
-/
def readLetters (f : Flags) (seen : List Char) : List Char → Option (Flags × Char × List Char)
  | [] => none
  | c :: cs =>
    if c = ':' ∨ c = ')' then
      if seen.head? = some '-' then none else some (f, c, cs)
    else if c ∈ seen then none
    else if c = '-' then readLetters f ('-' :: seen) cs
    else do readLetters (← f.set? c (!seen.contains '-')) (c :: seen) cs

end Flags

end LinkedShapes
