import LinkedShapes.Unicode.CaseRun
import LinkedShapes.Unicode.Cased

/-!
# Lower case

Every character is replaced by its lower-case form, which may be longer than the character. One
character looks at its surroundings: a capital sigma becomes the final sigma at the end of a
word, that is, when a cased character stands before it and none after it, characters that case
ignores being passed over on both sides.
-/

namespace LinkedShapes.Text

open Unicode

/-- The lower-case form of a character on its own. -/
def lowerChar (c : Char) : List Char :=
  if c = 'İ' then ['i', '\u0307']
  else match lowercaseRuns.findSome? (·.map? c.toNat) with
    | some m => [Char.ofNat m]
    | none => [c]

/-- A cased character comes first, once the characters that case ignores are passed over. -/
def startsCased (text : List Char) : Bool :=
  match text.dropWhile caseIgnorable.contains with
  | c :: _ => cased.contains c
  | [] => false

/-- The lower-case forms of `text`, which follows the characters `before`, nearest first. -/
def lowerAfter (before : List Char) : List Char → List Char
  | [] => []
  | c :: cs =>
    (if c = 'Σ' then [if startsCased before && !startsCased cs then 'ς' else 'σ']
      else lowerChar c) ++ lowerAfter (c :: before) cs

/-- The lower-case form of a text. -/
def lowercase (text : List Char) : List Char := lowerAfter [] text

end LinkedShapes.Text
