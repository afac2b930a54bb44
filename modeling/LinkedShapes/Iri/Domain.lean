import LinkedShapes.Iri.Punycode
import LinkedShapes.Text.Character
import LinkedShapes.Text.Composed
import LinkedShapes.Text.Split
import LinkedShapes.Unicode.Category
import LinkedShapes.Unicode.Direction
import LinkedShapes.Unicode.DomainForm
import LinkedShapes.Unicode.Joining

/-!
# Domain names

A domain name is a sequence of labels with points between them. Its characters are brought into
the one form that domain names know, composed where they can be, and then every label that is
not ASCII is encoded; the encoded form is marked by `xn--` in front.

A label that comes encoded has to be the encoded form of what it stands for, which therefore is
in the form for domain names already and is not ASCII.

Where a name has letters that are written from right to left, each of its labels has to run in one
direction, so that the order in which labels are shown is the order in which they are read.
-/

namespace LinkedShapes.Iri.Domain

open Text Unicode

/-- The ASCII characters that no domain name holds. -/
def isForbidden (c : Char) : Bool :=
  c.toNat ≤ 0x20 || c.toNat = 0x7F || "#/:<>?@[\\]^|%".toList.contains c

def isAscii (c : Char) : Bool := c.toNat < 0x80

/-- What a character stands for in domain names; `none` if it has no place in them. -/
def form? (c : Char) : Option (List Char) :=
  let n := c.toNat
  if isAscii c then some [asciiLower c]
  else if domainIgnored.containsPoint n then some []
  else if domainExcluded.containsPoint n then none
  else
    match domainRuns.findSome? (·.map? n), domainSingles.lookup n, domainSequences.lookup n with
    | some m, _, _ => some [Char.ofNat m]
    | none, some m, _ => some [Char.ofNat m]
    | none, none, some ms => some (ms.map Char.ofNat)
    | none, none, none => some [c]

/-- The form of a text in domain names. -/
def normalize? (text : List Char) : Option (List Char) := do
  return composed (← text.mapM form?).flatten

/-! ## Labels -/

/-- Is the character a mark? -/
def isMark (c : Char) : Bool :=
  nonspacingMark.contains c || spacingMark.contains c || enclosingMark.contains c

/-- The two characters that join letters, or keep them from joining. -/
def isJoiner (c : Char) : Bool := c == '\u200c' || c == '\u200d'

/-- The class of the marks that silence the vowel of a letter; they may be followed by joiners. -/
def viramaClass : Nat := 9

/-- Does a text begin with a letter of the given joining, up to what letters are joined across? -/
def startsJoining (joining : Char → Bool) : List Char → Bool
  | [] => false
  | c :: cs => joining c || transparent.contains c && startsJoining joining cs

/-- Does a letter join the one behind it? -/
def joinsNext (c : Char) : Bool := dualJoining.contains c || leftJoining.contains c

/-- Does a letter join the one before it? -/
def joinsPrevious (c : Char) : Bool := dualJoining.contains c || rightJoining.contains c

/-- Does a joiner fit between what is before it, from the end, and what is behind it? It follows a
mark that asks for one, or it keeps two letters apart that join otherwise. -/
def joinerFits (joiner : Char) (before behind : List Char) : Bool :=
  match before with
  | [] => false
  | c :: _ => markClass c.toNat == viramaClass ||
    joiner == '\u200c' && startsJoining joinsNext before && startsJoining joinsPrevious behind

/-- Do all joiners fit, behind what is before them? -/
def joinersFit (before : List Char) : List Char → Bool
  | [] => true
  | c :: cs => (!isJoiner c || joinerFits c before cs) && joinersFit (c :: before) cs

/-- May a normalized text be a label? -/
def isLabel (label : List Char) : Bool :=
  !label.any isForbidden && joinersFit [] label &&
    match label with
    | c :: _ => !isMark c
    | [] => true

/-! ## Directions -/

/-- Is the character of a script that is written from right to left? -/
def isRightToLeft (c : Char) : Bool :=
  let direction := Direction.of c
  direction == .rightToLeft || direction == .arabic

/-- The directions that a label from left to right is made of. -/
def leftToRightLabel : List Direction := [.leftToRight, .european, .neutral, .mark]

/-- The directions that a label from right to left is made of. -/
def rightToLeftLabel : List Direction := [.rightToLeft, .arabic, .european, .neutral, .mark]

/-- Does a label run in one direction? It starts with a letter, is made of what goes with it, and
does not end in what has no direction. -/
def runsInOneDirection (label : List Char) : Bool :=
  let directions := label.map Direction.of
  let last := directions.reverse.find? (· != .mark)
  match directions with
  | [] => true
  | .leftToRight :: _ =>
    directions.all leftToRightLabel.contains && last.any [.leftToRight, .european].contains
  | .rightToLeft :: _ =>
    directions.all rightToLeftLabel.contains &&
      last.any [.rightToLeft, .european, .arabic].contains &&
      !(directions.contains .european && directions.contains .arabic)
  | _ => false

/-- Do the labels of a name run in one direction each, if some of them are not written from left to
right? -/
def directionsFit (labels : List (List Char)) : Bool :=
  !labels.any (·.any isRightToLeft) || labels.all runsInOneDirection

/-! ## Encoded labels -/

/-- The mark in front of encoded labels. -/
def encodedMark : List Char := ['x', 'n', '-', '-']

/-- The ASCII form of a normalized label. -/
def labelToAscii? (label : List Char) : Option (List Char) :=
  if encodedMark.isPrefixOf label then
    match Punycode.decode (label.drop 4) with
    | some decoded =>
      if label.all isAscii && !decoded.all isAscii && isLabel decoded &&
          normalize? decoded == some decoded then
        some label
      else none
    | none => none
  else if !isLabel label then none
  else if label.all isAscii then some label
  else some (encodedMark ++ Punycode.encode label)

/-- What a label stands for, encoded or not. -/
def decodedLabel (label : List Char) : List Char :=
  if encodedMark.isPrefixOf label then (Punycode.decode (label.drop 4)).getD label else label

/-- The ASCII form of a domain name. -/
def toAscii? (name : List Char) : Option (List Char) := do
  let labels := splitAt '.' (← normalize? name)
  let encoded ← labels.mapM labelToAscii?
  if directionsFit (labels.map decodedLabel) then return ['.'].intercalate encoded else none

end LinkedShapes.Iri.Domain
