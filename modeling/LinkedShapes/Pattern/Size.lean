import LinkedShapes.Pattern.Expression

/-!
# Size of expressions

An expression is searched for with an automaton that reads the text byte by byte, and one whose
automaton takes too much memory is refused. The size of the automaton is counted in bytes: so
many for a state, so many more for each range of bytes that leads from one state to several
others, and for each link of a state that branches.

## Characters as bytes

A set of characters is turned into sequences of byte ranges, all characters in a sequence having
as many bytes. Sequences that agree in their first ranges share the states for these.
-/

namespace LinkedShapes

open Unicode

/-! ## Sequences of byte ranges -/

/-- The least and the greatest byte at a position, counted from the first of their kind. -/
abbrev ByteRange := Nat × Nat

/--
The byte ranges of the values from `first` to `last`, where `k` bytes of six bits each follow
the leading byte.
-/
def byteSequences : Nat → Nat → Nat → List (List ByteRange)
  | 0, first, last => [[(first, last)]]
  | k + 1, first, last =>
    let m := Nat.pow 64 (k + 1)
    let lead (n : Nat) := List.map (((n, n) : ByteRange) :: ·)
    if first / m = last / m then
      lead (first / m) (byteSequences k (first % m) (last % m))
    else
      let low :=
        if first % m = 0 then [] else lead (first / m) (byteSequences k (first % m) (m - 1))
      let high :=
        if last % m = m - 1 then [] else lead (last / m) (byteSequences k 0 (last % m))
      let start := if first % m = 0 then first / m else first / m + 1
      let stop := if last % m = m - 1 then last / m else last / m - 1
      let middle := if start ≤ stop then [(start, stop) :: List.replicate (k + 1) (0, 63)] else []
      low ++ middle ++ high

/-- The code points that are written with a leading byte and `k` more, without surrogates. -/
def encodingLengths : List (Nat × ByteRange) :=
  [(0, 0, 0x7F), (1, 0x80, 0x7FF), (2, 0x800, 0xD7FF), (2, 0xE000, 0xFFFF), (3, 0x10000, 0x10FFFF)]

/-- How many entries two lists have in common at their heads. -/
def sharedLength : List ByteRange → List ByteRange → Nat
  | x :: xs, y :: ys => if x = y then sharedLength xs ys + 1 else 0
  | _, _ => 0

/-- The number of states for sequences of byte ranges in order, after the sequence `previous`. -/
def stateCount (previous : List ByteRange) : List (List ByteRange) → Nat
  | [] => 0
  | s :: ss => s.length - sharedLength previous s + stateCount s ss

/-! ## Sets of characters -/

namespace CharSet

/-- The points where membership may change. -/
def turns : CharSet → List Nat
  | points s => s.flips
  | complement s => 0 :: s.turns
  | union s t | intersection s t => s.turns ++ t.turns

/-- The ranges of a set, given by the points where membership changes. -/
def pairs (s : CharSet) : List Nat → List (Nat × Nat)
  | first :: next :: rest =>
    if s.meets [first] then
      (first, next - 1) :: pairs s (next :: rest)
    else pairs s (next :: rest)
  | _ => []

/-- The ranges of code points that make up a set. -/
def ranges (s : CharSet) : List (Nat × Nat) :=
  let turns := s.turns.filter fun n => n < 0x110000 && (n = 0 || s.meets [n - 1] != s.meets [n])
  s.pairs (turns.mergeSort.eraseReps ++ [0x110000])

end CharSet

/-! ## Expressions -/

namespace Expression

/-- The bytes of a state. -/
def stateSize : Nat := 32

/-- The bytes of a range that leads to another state. -/
def rangeSize : Nat := 8

/-- The bytes of a link. -/
def linkSize : Nat := 4

/-- The bytes of a branching state with two links. -/
def forkSize : Nat := stateSize + 2 * linkSize

/-- The size of the automaton for the one character of a number. -/
def singleSize (n : Nat) : Nat :=
  stateSize * (if n < 0x80 then 1 else if n < 0x800 then 2 else if n < 0x10000 then 3 else 4)

/-- The sequences for the characters of the ranges that are written with as many bytes. -/
def sequencesFor (ranges : List (Nat × Nat)) (entry : Nat × ByteRange) : List (List ByteRange) :=
  ranges.flatMap fun (first, last) =>
    let low := max first entry.2.1
    let high := min last entry.2.2
    if low ≤ high then byteSequences entry.1 low high else []

/-- The size of the automaton for a character out of several ranges. -/
def rangesSize (ranges : List (Nat × Nat)) : Nat :=
  if ranges.all (·.2 < 0x80) then 2 * stateSize + ranges.length * rangeSize
  else
    let sequences := encodingLengths.map (sequencesFor ranges)
    let states := (sequences.map (stateCount [])).foldl (· + ·) 0
    2 * stateSize + states * stateSize + sequences.flatten.length * linkSize

/-- The size of the automaton for one character out of a set. -/
def charSize (s : CharSet) : Nat :=
  match s.ranges with
  | [(first, last)] => if first = last then singleSize first else rangesSize [(first, last)]
  | ranges => rangesSize ranges

/-- The size of the automaton of an expression. -/
def size : Expression → Nat
  | empty | place _ => stateSize
  | one _ s => charSize s
  | sequence e f => e.size + f.size
  | choice e f => forkSize + stateSize + e.size + f.size
  | group e => 2 * stateSize + e.size
  | repetition least most e =>
    let least := if e.isWidthless then min least 1 else least
    let most := if e.isWidthless then some (min (most.getD 1) 1) else most
    match most with
    | none => max least 1 * e.size + forkSize
    | some 0 => stateSize
    | some most =>
      let optional := most - least
      least * e.size + optional * (forkSize + e.size) + (if optional = 0 then 0 else stateSize)

/-- The size an expression may have at most: ten mebibytes. -/
def maxSize : Nat := 10 * 0x100000

end Expression

end LinkedShapes
