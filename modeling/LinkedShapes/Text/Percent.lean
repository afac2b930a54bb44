import LinkedShapes.Text.Character
import LinkedShapes.Text.Utf8

/-!
# Percent encoding

A byte is written as a percent sign and two hexadecimal digits, capital ones when written, of
any case when read. A percent sign that no two digits follow stands for itself.
-/

namespace LinkedShapes.Text.Percent

/-- The capital hexadecimal digit of a value below sixteen. -/
def hexDigit (n : Nat) : Char :=
  if n < 10 then Char.ofNat ('0'.toNat + n) else Char.ofNat ('A'.toNat + n - 10)

/-- The way a byte is written. -/
def encodeByte (b : UInt8) : List Char :=
  ['%', hexDigit (b.toNat / 16), hexDigit (b.toNat % 16)]

/-- Writes the bytes of the characters with the property `escaped`, and leaves the others. -/
def encode (escaped : Char → Bool) (text : List Char) : List Char :=
  text.flatMap fun c =>
    if escaped c then (String.utf8EncodeChar c).flatMap encodeByte else [c]

/-- The bytes that a text with written bytes stands for. -/
def decode : List Char → List UInt8
  | [] => []
  | '%' :: h :: l :: rest =>
    match hexValue? h, hexValue? l with
    | some h, some l => UInt8.ofNat (16 * h + l) :: decode rest
    | _, _ => 0x25 :: decode (h :: l :: rest)
  | c :: rest => String.utf8EncodeChar c ++ decode rest

end LinkedShapes.Text.Percent
