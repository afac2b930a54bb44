import LinkedShapes.Text.Character

/-!
# Punycode

A label of a domain name with characters beyond ASCII is written as its ASCII characters,
followed by one number for each of the others. The others are taken in the order of their code
points, and among equal ones from left to right, and the number says how many steps of a counter
lie between one and the next: the counter runs through all the places of the label for one code
point, then for the following one, and so on.

Numbers are written in base 36, the lowest digit first. A digit below the threshold of its place
ends its number. The thresholds adapt to the numbers that were written before.

## Termination

Each loop has a measure: `damped` divides, `encodeNumber` shrinks its number, and the decoder
consumes digits.
-/

namespace LinkedShapes.Iri.Punycode

/-- The digit of a value below 36: the letters, then the ten decimal digits. -/
def digit (d : Nat) : Char :=
  if d < 26 then Char.ofNat ('a'.toNat + d) else Char.ofNat ('0'.toNat + d - 26)

/-- The value of a digit; letters may be capitals. -/
def digitValue? (c : Char) : Option Nat :=
  if Text.isAsciiDigit c then some (Text.digitValue c + 26)
  else if Text.isAsciiAlpha c then some ((Text.asciiLower c).toNat - 'a'.toNat)
  else none

/-- The threshold of the place `k`, counted in steps of 36. -/
def threshold (k bias : Nat) : Nat :=
  if k ≤ bias then 1 else if bias + 26 ≤ k then 26 else k - bias

theorem one_le_threshold (k bias : Nat) : 1 ≤ threshold k bias := by
  unfold threshold
  repeat' split
  all_goals omega

theorem threshold_le (k bias : Nat) : threshold k bias ≤ 26 := by
  unfold threshold
  repeat' split
  all_goals omega

/-- Divides by 35 until at most 455 is left, and counts the divisions in steps of 36. -/
def damped (delta k : Nat) : Nat × Nat :=
  if 455 < delta then damped (delta / 35) (k + 36) else (delta, k)
termination_by delta
decreasing_by exact Nat.div_lt_self (by omega) (by omega)

/-- The bias after the number `delta`, which is the first one or not, for `points` characters. -/
def adapt (delta points : Nat) (first : Bool) : Nat :=
  let halved := if first then delta / 700 else delta / 2
  let (d, k) := damped (halved + halved / points) 0
  k + 36 * d / (d + 38)

/-! ## Writing -/

/-- The digits of a number, from the place `k` on. -/
def encodeNumber (bias k n : Nat) : List Char :=
  let t := threshold k bias
  if n < t then [digit n]
  else digit (t + (n - t) % (36 - t)) :: encodeNumber bias (k + 36) ((n - t) / (36 - t))
termination_by n
decreasing_by
  have := one_le_threshold k bias
  exact Nat.lt_of_le_of_lt (Nat.div_le_self _ _) (by omega)

/-- The state of the encoder: what is written, the counter, the bias, the characters done. -/
structure Writer where
  written : List Char
  delta : Nat
  bias : Nat
  done : Nat

/-- Moves the counter past the character `c` while the code point `point` is written. -/
def Writer.pass (basic point : Nat) (w : Writer) (c : Char) : Writer :=
  if c.toNat < point then { w with delta := w.delta + 1 }
  else if c.toNat = point then
    { written := w.written ++ encodeNumber w.bias 36 w.delta
      delta := 0
      bias := adapt w.delta (w.done + 1) (w.done == basic)
      done := w.done + 1 }
  else w

/-- Writes the code points of the list, which increase, from the code point `next` on. -/
def Writer.run (label : List Char) (basic : Nat) : List Nat → Nat → Writer → Writer
  | [], _, w => w
  | point :: points, next, w =>
    let w := label.foldl (pass basic point)
      { w with delta := w.delta + (point - next) * (w.done + 1) }
    run label basic points (point + 1) { w with delta := w.delta + 1 }

/-- Adds a number to an increasing list. -/
def insertPoint (n : Nat) : List Nat → List Nat
  | [] => [n]
  | m :: ms => if n < m then n :: m :: ms else if n = m then m :: ms else m :: insertPoint n ms

/-- The code points beyond ASCII, increasing. -/
def points (label : List Char) : List Nat :=
  label.foldr (fun c ns => if c.toNat < 0x80 then ns else insertPoint c.toNat ns) []

/-- The ASCII form of a label. -/
def encode (label : List Char) : List Char :=
  let basic := label.filter (·.toNat < 0x80)
  basic ++ (if basic.isEmpty then [] else ['-']) ++
    (Writer.run label basic.length (points label) 0x80 ⟨[], 0, 72, basic.length⟩).written

/-! ## Reading -/

/-- Reads one number of weight `w` and adds it to `i`. -/
def decodeNumber (bias : Nat) : List Char → Nat → Nat → Nat → Option (Nat × List Char)
  | [], _, _, _ => none
  | c :: rest, k, w, i =>
    match digitValue? c with
    | none => none
    | some d =>
      if d < threshold k bias then some (i + d * w, rest)
      else decodeNumber bias rest (k + 36) (w * (36 - threshold k bias)) (i + d * w)

theorem length_of_decodeNumber (bias : Nat) :
    ∀ (cs : List Char) (k w i : Nat) (r : Nat × List Char),
      decodeNumber bias cs k w i = some r → r.2.length < cs.length
  | [], _, _, _, _, h => by simp [decodeNumber] at h
  | c :: rest, k, w, i, r, h => by
    rw [decodeNumber] at h
    split at h
    · simp at h
    · split at h
      · rw [← Option.some.inj h]; simp
      · have := length_of_decodeNumber bias rest _ _ _ r h
        simp only [List.length_cons]; omega

/-- Inserts the characters that the numbers stand for. -/
def decodeAll (bias point i : Nat) (label : List Char) : List Char → Option (List Char)
  | [] => some label
  | c :: rest =>
    match _h : decodeNumber bias (c :: rest) 36 1 i with
    | none => none
    | some (i', rest') =>
      let size := label.length + 1
      let point' := point + i' / size
      if point'.isValidChar then
        decodeAll (adapt (i' - i) size (i == 0)) point' (i' % size + 1)
          (label.insertIdx (i' % size) (Char.ofNat point')) rest'
      else none
termination_by cs => cs.length
decreasing_by simpa using length_of_decodeNumber bias (c :: rest) 36 1 i (i', rest') _h

/--
The label of an ASCII form: what stands before its last hyphen, with the numbers after it. A
hyphen with nothing before it separates nothing.
-/
def decode (text : List Char) : Option (List Char) :=
  let basic := (text.reverse.dropWhile (· != '-')).tail.reverse
  let numbers := (text.reverse.takeWhile (· != '-')).reverse
  decodeAll 72 0x80 0 basic (if basic.isEmpty then text else numbers)

end LinkedShapes.Iri.Punycode
