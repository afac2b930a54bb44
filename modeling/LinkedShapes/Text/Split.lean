/-!
# Splitting texts

A text is cut at every separator. The pieces are what stands between the separators, empty
pieces included, so there is always one piece more than there are separators.
-/

namespace LinkedShapes.Text

/-- The pieces of a text between the characters with the property `separates`. -/
def split (separates : Char → Bool) : List Char → List (List Char)
  | [] => [[]]
  | c :: cs =>
    if separates c then [] :: split separates cs
    else match split separates cs with
      | [] => [[c]]
      | piece :: pieces => (c :: piece) :: pieces

/-- The pieces of a text between the occurrences of a character. -/
def splitAt (separator : Char) (text : List Char) : List (List Char) :=
  split (· == separator) text

theorem split_ne_nil (separates : Char → Bool) (text : List Char) :
    split separates text ≠ [] := by
  cases text with
  | nil => simp [split]
  | cons c cs =>
    rw [split]
    split
    · simp
    · split <;> simp

/-- A text without separators is a single piece. -/
theorem split_eq_singleton (separates : Char → Bool) (text : List Char)
    (h : ∀ c ∈ text, separates c = false) : split separates text = [text] := by
  induction text with
  | nil => rfl
  | cons c cs ih =>
    rw [split, if_neg (by simp [h c]), ih fun d hd => h d (List.mem_cons_of_mem c hd)]

/-- The text around the first occurrence of the pair of `a` and `b`, in this order. -/
def splitAtPair? (a b : Char) : List Char → Option (List Char × List Char)
  | c :: d :: rest =>
    if c = a ∧ d = b then some ([], rest)
    else (splitAtPair? a b (d :: rest)).map fun (before, after) => (c :: before, after)
  | _ => none

end LinkedShapes.Text
