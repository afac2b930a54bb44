/-!
# UTF-8

Reading bytes as characters. A well-formed sequence of one to four bytes is read as a character.
Where bytes are ill formed, the fault is the longest stretch that begins a well-formed sequence
but does not go on as one, or a single byte that begins none; a stretch cut off by the end of
the input is told apart, since more bytes might complete it.

A text is read strictly, up to the first fault, or leniently, with every fault replaced by the
replacement character.
-/

namespace LinkedShapes.Text.Utf8

/-- What the bytes at the head of a text spell. -/
inductive Reading where
  /-- A character of `size` bytes. -/
  | character (c : Char) (size : Nat)
  /-- An ill-formed stretch of `size` bytes. -/
  | fault (size : Nat)
  /-- The beginning of a well-formed sequence, cut off by the end of the text. -/
  | incomplete
deriving DecidableEq, Repr

/-- The number of bytes that go with a leading byte, and the range of the second one. -/
def lead? (b : UInt8) : Option (Nat × UInt8 × UInt8) :=
  if b < 0xC2 then none
  else if b < 0xE0 then some (2, 0x80, 0xBF)
  else if b = 0xE0 then some (3, 0xA0, 0xBF)
  else if b = 0xED then some (3, 0x80, 0x9F)
  else if b < 0xF0 then some (3, 0x80, 0xBF)
  else if b = 0xF0 then some (4, 0x90, 0xBF)
  else if b < 0xF4 then some (4, 0x80, 0xBF)
  else if b = 0xF4 then some (4, 0x80, 0x8F)
  else none

/-- Is the byte one that continues a sequence? -/
def isContinuation (b : UInt8) : Bool := 0x80 ≤ b && b ≤ 0xBF

/-- The six bits that a continuation byte carries. -/
def payload (b : UInt8) : Nat := b.toNat % 64

/-- Reads one character, or finds out what is wrong. -/
def read (b : UInt8) (rest : List UInt8) : Reading :=
  if b < 0x80 then .character (Char.ofNat b.toNat) 1
  else match lead? b with
    | none => .fault 1
    | some (size, low, high) =>
      match rest with
      | [] => .incomplete
      | b₂ :: rest =>
        if b₂ < low || high < b₂ then .fault 1
        else if size = 2 then .character (Char.ofNat (b.toNat % 32 * 64 + payload b₂)) 2
        else match rest with
          | [] => .incomplete
          | b₃ :: rest =>
            if !isContinuation b₃ then .fault 2
            else if size = 3 then
              .character (Char.ofNat ((b.toNat % 16 * 64 + payload b₂) * 64 + payload b₃)) 3
            else match rest with
              | [] => .incomplete
              | b₄ :: _ =>
                if !isContinuation b₄ then .fault 3
                else .character (Char.ofNat
                  (((b.toNat % 8 * 64 + payload b₂) * 64 + payload b₃) * 64 + payload b₄)) 4

/-- Where a text stops being well formed. -/
structure Fault where
  /-- The number of well-formed bytes before the fault. -/
  index : Nat
  /-- The number of bytes of the fault, unless it is cut off by the end of the text. -/
  size? : Option Nat
deriving DecidableEq, Repr

/-- The words for a fault. -/
def Fault.message (f : Fault) : String :=
  match f.size? with
  | some n => "invalid utf-8 sequence of " ++ toString n ++ " bytes from index " ++
      toString f.index
  | none => "incomplete utf-8 byte sequence from index " ++ toString f.index

/--
The characters that the bytes spell, where the first `skip` of them belong to what has been read
already and `index` bytes come before.
-/
def decodeFrom (index skip : Nat) : List UInt8 → Except Fault (List Char)
  | [] => .ok []
  | b :: rest =>
    match skip with
    | skip + 1 => decodeFrom (index + 1) skip rest
    | 0 =>
      match read b rest with
      | .character c size => (decodeFrom (index + 1) (size - 1) rest).map (c :: ·)
      | .fault size => .error ⟨index, some size⟩
      | .incomplete => .error ⟨index, none⟩

/-- Reads well-formed bytes, or tells the first fault. -/
def decode (bytes : List UInt8) : Except Fault (List Char) := decodeFrom 0 0 bytes

/-- The characters that the bytes spell, after the first `skip` of them. -/
def decodeLenientFrom (skip : Nat) : List UInt8 → List Char
  | [] => []
  | b :: rest =>
    match skip with
    | skip + 1 => decodeLenientFrom skip rest
    | 0 =>
      match read b rest with
      | .character c size => c :: decodeLenientFrom (size - 1) rest
      | .fault size => '\uFFFD' :: decodeLenientFrom (size - 1) rest
      | .incomplete => ['\uFFFD']

/-- Reads any bytes, with the replacement character in the place of every fault. -/
def decodeLenient (bytes : List UInt8) : List Char := decodeLenientFrom 0 bytes

/-- The bytes of a text. -/
def encode (text : List Char) : List UInt8 := text.flatMap String.utf8EncodeChar

end LinkedShapes.Text.Utf8
