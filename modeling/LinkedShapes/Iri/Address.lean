import LinkedShapes.Text.Character
import LinkedShapes.Text.Split

/-!
# Internet addresses

Hosts may be given by their address.

An address of version 4 is one to four numbers with points between them, and perhaps one at the
end. The last number fills all the bytes that the others leave. Numbers are decimal, octal after
a leading `0`, and hexadecimal after a leading `0x`.

An address of version 6 is eight groups of up to four hexadecimal digits with colons between
them. One run of zero groups may be left out for a double colon, and the last two groups may be
given as an address of version 4.
-/

namespace LinkedShapes.Iri.Address

open Text

/-! ## Version 4 -/

/-- The digits of a number and their base. -/
def numberBase : List Char → Nat × List Char
  | '0' :: 'x' :: digits => (16, digits)
  | '0' :: 'X' :: digits => (16, digits)
  | '0' :: d :: digits => (8, d :: digits)
  | digits => (10, digits)

/-- The number that digits spell in a base. -/
def numberOf? (base : Nat) (digits : List Char) : Option Nat :=
  digits.foldlM (fun n c => do
    let d ← hexValue? c
    if d < base then some (base * n + d) else none) 0

/-- The number that a part of an address stands for. -/
def number? (part : List Char) : Option Nat :=
  if part.isEmpty then none
  else numberOf? (numberBase part).1 (numberBase part).2

/-- The parts of a host name, without an empty last one. -/
def parts (host : List Char) : List (List Char) :=
  let all := splitAt '.' host
  if all.getLast? = some [] then all.dropLast else all

/-- A host whose last part is a number has to be an address. -/
def endsInNumber (host : List Char) : Bool :=
  match (parts host).getLast? with
  | some last => !last.isEmpty && last.all isAsciiDigit || (number? last).isSome
  | none => false

/-- The value of an address of version 4. -/
def version4? (host : List Char) : Option Nat := do
  let numbers ← (parts host).mapM number?
  let last ← numbers.getLast?
  let others := numbers.dropLast
  if others.length < 4 ∧ others.all (· < 256) ∧ last < Nat.pow 256 (4 - others.length) then
    some (others.foldr (fun n value => n * 0x1000000 + value / 0x100) 0 + last)
  else none

/-- An address of version 4 in four decimal numbers. -/
def version4Text (address : Nat) : List Char :=
  ['.'].intercalate <| [3, 2, 1, 0].map fun i => Nat.toDigits 10 (address / Nat.pow 256 i % 256)

/-! ## Version 6 -/

/-- The value of a group of hexadecimal digits. -/
def group? (digits : List Char) : Option Nat :=
  if digits.isEmpty ∨ 4 < digits.length then none else numberOf? 16 digits

/-- The value of a decimal number of an embedded address, without leading zeros. -/
def byte? (digits : List Char) : Option Nat :=
  match digits with
  | [] => none
  | '0' :: _ :: _ => none
  | _ =>
    if digits.all isAsciiDigit ∧ digitsValue digits < 256 then some (digitsValue digits) else none

/-- The two groups that an embedded address of version 4 stands for. -/
def embedded? (digits : List Char) : Option (List Nat) := do
  match ← (splitAt '.' digits).mapM byte? with
  | [a, b, c, d] => some [256 * a + b, 256 * c + d]
  | _ => none

/-- The groups that pieces between colons stand for; the last may be an embedded address. -/
def groups? (last : Bool) : List (List Char) → Option (List Nat)
  | [] => some []
  | [piece] =>
    if last ∧ piece.contains '.' then embedded? piece else (group? piece).map ([·])
  | piece :: pieces => do return (← group? piece) :: (← groups? last pieces)

/-- The groups of a stretch of the address, which may be empty. -/
def stretch? (last : Bool) (text : List Char) : Option (List Nat) :=
  if text.isEmpty then some [] else groups? last (splitAt ':' text)

/-- The eight groups of an address of version 6. -/
def version6? (text : List Char) : Option (List Nat) := do
  match splitAtPair? ':' ':' text with
  | none =>
    let groups ← groups? true (splitAt ':' text)
    if groups.length = 8 then some groups else none
  | some (before, after) =>
    let head ← stretch? false before
    let tail ← stretch? true after
    if head.length + tail.length < 8 then
      some (head ++ List.replicate (8 - head.length - tail.length) 0 ++ tail)
    else none

/-- The number of zero groups at the head. -/
def leadingZeros (groups : List Nat) : Nat := (groups.takeWhile (· == 0)).length

/-- The place and the length of the first longest run of zero groups. -/
def longestZeros : List Nat → Nat × Nat
  | [] => (0, 0)
  | g :: groups =>
    let here := leadingZeros (g :: groups)
    let (place, length) := longestZeros groups
    if length ≤ here then (0, here) else (place + 1, length)

/-- Groups in lower-case hexadecimal digits with colons between them. -/
def groupsText (groups : List Nat) : List Char :=
  [':'].intercalate (groups.map (Nat.toDigits 16))

/-- An address of version 6, with its longest run of two zero groups or more left out. -/
def version6Text (groups : List Nat) : List Char :=
  let (place, length) := longestZeros groups
  if length < 2 then groupsText groups
  else groupsText (groups.take place) ++ [':', ':'] ++ groupsText (groups.drop (place + length))

end LinkedShapes.Iri.Address
