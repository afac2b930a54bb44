import LinkedShapes.Pattern.Flags
import LinkedShapes.Pattern.Property

/-!
# Escapes

A backslash takes its meaning from a character, or gives it one:

* punctuation stands for itself;
* `\a \f \t \n \r \v` are control characters;
* `\x61`, `\u0061`, `\U00000061` and `\x{61}` are characters by number;
* `\d \s \w` are classes, `\p{…}` a class by its name, capitals their complements;
* `\A \z \b \B \< \>` and `\b{start}` and its like are places.

Digits would refer to groups, which a search of this kind does not know.
-/

namespace LinkedShapes

open Unicode Text

/-- What a character or an escape stands for. -/
inductive Atom where
  | char (c : Char)
  | set (s : CharSet)
  | place (p : Place)
deriving DecidableEq, Repr

namespace Atom

/-! ## Characters by number -/

/-- The characters up to a closing brace, blanks skipped, and the text after the brace. -/
def readBraced (f : Flags) (text : List Char) : Option (List Char × List Char) :=
  match _h : f.skip text with
  | [] => none
  | c :: rest =>
    if c = '}' then some ([], rest)
    else do
      let (inner, after) ← readBraced f rest
      return (c :: inner, after)
termination_by text.length
decreasing_by
  have := f.length_skip_le text
  rw [_h, List.length_cons] at this
  omega

/-- So many characters, blanks before each of them skipped. -/
def readCount (f : Flags) : Nat → List Char → Option (List Char × List Char)
  | 0, text => some ([], text)
  | n + 1, text =>
    match f.skip text with
    | [] => none
    | c :: rest => do
      let (inner, after) ← readCount f n rest
      return (c :: inner, after)

/-- The character whose number is spelled by hexadecimal digits, at least one. -/
def ofHex? (digits : List Char) : Option Char := do
  let n ← digits.foldlM (fun n c => return 16 * n + (← hexValue? c)) 0
  if digits ≠ [] ∧ n.isValidChar then some (Char.ofNat n) else none

/--
Reads a character by number; `length` is the number of digits if there are no braces. Two
digits without braces stand for a byte, which has to be ASCII where the flags ask for it.
-/
def readNumbered (f : Flags) (length : Nat) (text : List Char) : Option (Atom × List Char) :=
  match f.skip text with
  | '{' :: rest => do
    let (digits, after) ← readBraced f rest
    return (.char (← ofHex? digits), after)
  | digits => do
    let (digits, after) ← readCount f length digits
    let c ← ofHex? digits
    if length = 2 && !f.unicode && 0x80 ≤ c.toNat then none else return (.char c, after)

/-! ## Classes -/

/-- A set, or its complement. -/
def negated (negate : Bool) (s : CharSet) : CharSet := if negate then s.complement else s

/-- The characters of words. -/
def wordSet (f : Flags) : CharSet :=
  if f.unicode then .points wordPoints
  else .unions [.range '0' '9', .range 'A' 'Z', .only '_', .range 'a' 'z']

/-- The class of `d`, `s` or `w`. -/
def classSet? (f : Flags) : Char → Option CharSet
  | 'd' => some (if f.unicode then .points decimalNumber else .range '0' '9')
  | 's' =>
    some (if f.unicode then .points whiteSpace else (CharSet.range '\t' '\r').union (.only ' '))
  | 'w' => some (wordSet f)
  | _ => none

/-- Where a text is cut, the parts before and after the cut. -/
def cut? (mark : List Char) : List Char → Option (List Char × List Char)
  | [] => none
  | c :: cs =>
    if mark.isPrefixOf (c :: cs) then some ([], (c :: cs).drop mark.length)
    else (cut? mark cs).map fun (before, after) => (c :: before, after)

/-- The class of a name, or of a property and its value. -/
def propertySet? (text : List Char) : Option CharSet :=
  match (cut? ['!', '='] text).or ((cut? [':'] text).or (cut? ['='] text)) with
  | some (property, value) => CharSet.ofPropertyValue? property value
  | none => CharSet.ofPropertyName? text

/-- Reads the name of a class: a single character, or a text in braces. -/
def readProperty (f : Flags) (negate : Bool) (text : List Char) : Option (Atom × List Char) :=
  match f.skip text with
  | '{' :: rest => do
    let (name, after) ← readBraced f rest
    return (.set (negated negate (← propertySet? name)), after)
  | c :: rest => do
    if c = '\\' then none
    return (.set (negated negate (← CharSet.ofPropertyName? [c])), rest)
  | [] => none

/-! ## Places -/

/-- The characters of the names of places. -/
def isPlaceChar (c : Char) : Bool := isAsciiAlpha c || c == '-'

/-- The place at a word that a name in braces stands for. -/
def wordPlace? : List Char → Option WordPlace
  | ['s', 't', 'a', 'r', 't'] => some .start
  | ['e', 'n', 'd'] => some .stop
  | ['s', 't', 'a', 'r', 't', '-', 'h', 'a', 'l', 'f'] => some .startHalf
  | ['e', 'n', 'd', '-', 'h', 'a', 'l', 'f'] => some .stopHalf
  | _ => none

/--
Reads what may follow `\b`: the name of a place in braces. Braces that do not begin with a
letter or a hyphen count repetitions and are left alone.
-/
def readWordPlace (f : Flags) : List Char → Option (Atom × List Char)
  | '{' :: rest =>
    match f.skip rest with
    | [] => none
    | c :: after =>
      if isPlaceChar c then do
        let (name, after) ← readBraced f (c :: after)
        return (.place (.word (← wordPlace? name) (wordSet f)), after)
      else some (.place (.word .edge (wordSet f)), '{' :: rest)
  | rest => some (.place (.word .edge (wordSet f)), rest)

/-! ## Escapes -/

/-- May a character stand for itself behind a backslash? -/
def isEscapable (c : Char) : Bool :=
  c.toNat < 0x80 && !isAsciiAlphanumeric c && c != '<' && c != '>'

/-- Reads an escape; the backslash has been read. -/
def readEscape (f : Flags) : List Char → Option (Atom × List Char)
  | [] => none
  | c :: cs =>
    if isEscapable c then some (.char c, cs)
    else match c with
      | 'x' => readNumbered f 2 cs
      | 'u' => readNumbered f 4 cs
      | 'U' => readNumbered f 8 cs
      | 'p' => if f.unicode then readProperty f false cs else none
      | 'P' => if f.unicode then readProperty f true cs else none
      | 'd' | 's' | 'w' => (classSet? f c).map (.set ·, cs)
      | 'D' | 'S' | 'W' =>
        if f.unicode then (classSet? f (asciiLower c)).map (.set ·.complement, cs) else none
      | 'a' => some (.char '\x07', cs)
      | 'f' => some (.char '\x0c', cs)
      | 't' => some (.char '\t', cs)
      | 'n' => some (.char '\n', cs)
      | 'r' => some (.char '\r', cs)
      | 'v' => some (.char '\x0b', cs)
      | 'A' => some (.place .textStart, cs)
      | 'z' => some (.place .textEnd, cs)
      | 'b' => readWordPlace f cs
      | 'B' => some (.place (.word .noEdge (wordSet f)), cs)
      | '<' => some (.place (.word .start (wordSet f)), cs)
      | '>' => some (.place (.word .stop (wordSet f)), cs)
      | _ => none

end Atom

end LinkedShapes
