import LinkedShapes.Pattern.Expression

/-!
# Matching

A text of `n` characters has `n + 1` places: one before each character and one at the end. A set
of places is kept as the list of its `n + 1` marks. An expression turns the places where it may
begin into the places where it may end, and an expression matches somewhere in a text if it can
end anywhere when it may begin everywhere.

## Repetition

A repeated step is applied until nothing changes any more. Places only move forward, so an
unbounded repetition is complete after one round more than there are characters.
-/

namespace LinkedShapes

/-- A set of places: a mark for each place of the text. -/
abbrev Marks := List Bool

namespace Marks

/-- The places in either of two sets. -/
def join (m n : Marks) : Marks := List.zipWith (· || ·) m n

/-- Applies a step a number of times, or until it changes nothing. -/
def iterate (step : Marks → Marks) : Nat → Marks → Marks
  | 0, m => m
  | k + 1, m =>
    let next := step m
    if next = m then m else iterate step k next

/-- The places reached by at most the given number of steps. -/
def reach (step : Marks → Marks) : Nat → Marks → Marks
  | 0, m => m
  | k + 1, m =>
    let next := m.join (step m)
    if next = m then m else reach step k next

/-- Stopping early makes no difference. -/
theorem iterate_succ (step : Marks → Marks) (k : Nat) (m : Marks) :
    iterate step (k + 1) m = iterate step k (step m) := by
  by_cases h : step m = m
  · cases k <;> simp [iterate, h]
  · simp [iterate, h]

end Marks

namespace Place

/-- The characters before and behind each place. -/
def surroundings (text : List Char) : List (Option Char × Option Char) :=
  (none :: text.map some).zip (text.map some ++ [none])

/-- Is the neighbour of a place one of the characters that words are made of? -/
def isWord (chars : CharSet) : Option Char → Bool
  | some c => chars.contains .exact c
  | none => false

/-- Does the condition hold between two characters? -/
def holds (before behind : Option Char) : Place → Bool
  | textStart => before.isNone
  | textEnd => behind.isNone
  | lineStart false => before.isNone || before == some '\n'
  | lineEnd false => behind.isNone || behind == some '\n'
  | lineStart true =>
    before.isNone || before == some '\n' || (before == some '\r' && behind != some '\n')
  | lineEnd true =>
    behind.isNone || behind == some '\r' || (behind == some '\n' && before != some '\r')
  | word kind chars =>
    let left := isWord chars before
    let right := isWord chars behind
    match kind with
    | .edge => left != right
    | .noEdge => left == right
    | .start => !left && right
    | .stop => left && !right
    | .startHalf => !left
    | .stopHalf => !right

end Place

namespace Expression

/-- The places where the expression can end when it begins at one of the marked places. -/
def ends (text : List Char) : Expression → Marks → Marks
  | empty, m => m
  | place p, m =>
    List.zipWith (fun (before, behind) marked => marked && p.holds before behind)
      (Place.surroundings text) m
  | one rule s, m =>
    false :: List.zipWith (fun c marked => marked && s.contains rule c) text m
  | sequence e f, m => f.ends text (e.ends text m)
  | choice e f, m => (e.ends text m).join (f.ends text m)
  | group e, m => e.ends text m
  | repetition least most e, m =>
    let rounds := match most with
      | some most => most - least
      | none => text.length + 1
    Marks.reach (e.ends text) rounds (Marks.iterate (e.ends text) least m)

/-- Does the expression match a part of the text? -/
def matchesIn (e : Expression) (text : List Char) : Bool :=
  (e.ends text (List.replicate (text.length + 1) true)).any id

end Expression

end LinkedShapes
