import LinkedShapes.Iri.Basic
import LinkedShapes.Iri.Host
import LinkedShapes.Text.Split

/-!
# Paths

A path is walked segment by segment. A segment of one dot stays where it is and a segment of two
dots goes back to the segment before, so that the path that comes out has no such segments. The
dots may be percent-encoded.

The segments walked so far are kept nearest first.

## Drives

A letter with a colon names a drive; the colon may be given as a bar, and then becomes a colon
where the drive starts the path of a file. Two dots never lead out of a drive.
-/

namespace LinkedShapes.Iri.Path

open Text

/-- The characters of a path that are written as bytes. -/
def isEscaped (c : Char) : Bool := Host.isControl c || " \"#<>?\x60\x7b\x7d".toList.contains c

/-- The characters that separate the segments of a path. -/
def isSeparator (kind : Kind) (c : Char) : Bool := c == '/' || (kind.isSpecial && c == '\\')

/-- What follows a dot. -/
def afterDot? : List Char → Option (List Char)
  | '.' :: rest => some rest
  | '%' :: '2' :: 'e' :: rest => some rest
  | '%' :: '2' :: 'E' :: rest => some rest
  | _ => none

/-- A segment that stays where it is. -/
def isHere (segment : List Char) : Bool := afterDot? segment == some []

/-- A segment that goes back. -/
def isBack (segment : List Char) : Bool := (afterDot? segment).bind afterDot? == some []

/-- A drive, with a colon or a bar. -/
def isDrive : List Char → Bool
  | [letter, mark] => isAsciiAlpha letter && (mark == ':' || mark == '|')
  | _ => false

/-- A drive, with a colon. -/
def isPlainDrive (segment : List Char) : Bool :=
  isDrive segment && segment.getLast? == some ':'

/-- Goes back by one segment, but not out of a drive. -/
def back : List (List Char) → List (List Char)
  | [] => []
  | segment :: before => if isDrive segment then segment :: before else before

/-- Walks one segment. -/
def step (kind : Kind) (before : List (List Char)) (segment : List Char) : List (List Char) :=
  if isBack segment then back before
  else if isHere segment then before
  else if kind = .file ∧ before.isEmpty ∧ isDrive segment then [segment.take 1 ++ [':']]
  else segment :: before

/-- Walks the segments; a last segment of dots leaves an empty one behind. -/
def walk (kind : Kind) (before : List (List Char)) : List (List Char) → List (List Char)
  | [] => before
  | [last] =>
    if isBack last || isHere last then [] :: step kind before last else step kind before last
  | segment :: segments => walk kind (step kind before segment) segments

/-- Segments without the empty ones at the start; the last one is kept. -/
def dropEmpty : List (List Char) → List (List Char)
  | [] :: segment :: segments => dropEmpty (segment :: segments)
  | segments => segments

/-- The written form of a path with these segments. -/
def ofSegments (segments : List (List Char)) : List Char := segments.flatMap ('/' :: ·)

/-- The path that `text` leads to, where `before` has been walked already. -/
def follow (kind : Kind) (before : List (List Char)) (text : List Char) : List Char :=
  let given := (split (isSeparator kind) text).map (Percent.encode isEscaped)
  let segments := (walk kind before given).reverse
  ofSegments (if kind = .file then dropEmpty segments else segments)

/-- The segments of a written path. -/
def segments (path : List Char) : List (List Char) :=
  if path.isEmpty then [] else splitAt '/' path.tail

/-- The segments that lead to the last one, nearest first. The drive of a file is among them. -/
def parents (kind : Kind) (path : List Char) : List (List Char) :=
  match (segments path).reverse with
  | last :: before => if kind = .file ∧ isPlainDrive last then last :: before else before
  | [] => []

/-- Does the text begin with a segment that is a drive? -/
def startsWithDrive (text : List Char) : Bool :=
  isDrive (text.take 2) &&
    match text.drop 2 with
    | [] => true
    | c :: _ => "/\\?#".toList.contains c

end LinkedShapes.Iri.Path
