import LinkedShapes.Text.Character
import LinkedShapes.Text.Lowercase

/-!
# Words and keyword search

A text is searched for keywords word by word. The words of a text are its longest stretches of
alphanumeric characters, and they are compared in lower case. With stemming a keyword only has
to begin a word; without it, it has to be one.
-/

namespace LinkedShapes.Text

/-- The longest run at the head of a text, and the runs after it. -/
def leadingRun (p : Char → Bool) : List Char → List Char × List (List Char)
  | [] => ([], [])
  | c :: cs =>
    let (run, later) := leadingRun p cs
    if p c then (c :: run, later)
    else ([], if run.isEmpty then later else run :: later)

/-- The longest stretches of characters with the property `p`, in order. -/
def runs (p : Char → Bool) (text : List Char) : List (List Char) :=
  let (run, later) := leadingRun p text
  if run.isEmpty then later else run :: later

/-- The words of a text. -/
def words (text : String) : List (List Char) := runs isAlphanumeric text.toList

/-- The words of a text in lower case. -/
def lowerWords (text : String) : List (List Char) := (words text).map lowercase

/-- Does `keyword` find `word`? -/
def finds (stemming : Bool) (keyword word : List Char) : Bool :=
  if stemming then keyword.isPrefixOf word else keyword == word

/-- Does every keyword find a word of the text, whatever the case? -/
def like (text keywords : String) (stemming : Bool) : Bool :=
  (lowerWords keywords).all fun keyword => (lowerWords text).any (finds stemming keyword)

end LinkedShapes.Text
