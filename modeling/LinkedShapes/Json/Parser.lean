import LinkedShapes.Json.Basic

/-!
# Reading JSON text

A text is first cut into tokens, then the tokens drive a reader that keeps the arrays and
objects that are still open on a stack.

## Limits

At most 127 arrays and objects may be open at a time. Control characters have to be escaped
inside strings, surrogates have to come in pairs, and numbers must not be too large for a
double.

## Repeated names

`parseMembers?` keeps all members as they are written. `parse?` merges repeated names: each keeps
its first place and its last value.
-/

namespace LinkedShapes.Json

open Text

/-- A token of JSON text. -/
inductive Token where
  | openArray | closeArray | openObject | closeObject | comma | colon
  | literal (value : Json)
deriving Repr

/-! ## Strings -/

/-- The number that four hexadecimal digits spell. -/
def hex4? (a b c d : Char) : Option Nat := do
  let a ← hexValue? a
  let b ← hexValue? b
  let c ← hexValue? c
  let d ← hexValue? d
  some (((a * 16 + b) * 16 + c) * 16 + d)

/-- The character a letter stands for behind a backslash. -/
def escaped? (c : Char) : Option Char :=
  if c = '\x22' ∨ c = '\\' ∨ c = '/' then some c
  else if c = 'b' then some '\x08'
  else if c = 'f' then some '\x0c'
  else if c = 'n' then some '\n'
  else if c = 'r' then some '\r'
  else if c = 't' then some '\t'
  else none

/--
Reads the rest of a string behind its opening quote. The result holds the characters of the
string and the text behind its closing quote.
-/
def readString : List Char → Option (List Char × List Char)
  | [] => none
  | '\x22' :: rest => some ([], rest)
  | '\\' :: 'u' :: a :: b :: c :: d :: rest => do
    let unit ← hex4? a b c d
    if unit < 0xD800 ∨ 0xDFFF < unit then
      let (chars, rest) ← readString rest
      some (Char.ofNat unit :: chars, rest)
    else if unit < 0xDC00 then
      match rest with
      | '\\' :: 'u' :: a :: b :: c :: d :: rest =>
        let low ← hex4? a b c d
        if 0xDC00 ≤ low ∧ low ≤ 0xDFFF then
          let (chars, rest) ← readString rest
          some (Char.ofNat (0x10000 + (unit - 0xD800) * 0x400 + (low - 0xDC00)) :: chars, rest)
        else none
      | _ => none
    else none
  | '\\' :: c :: rest => do
    let c ← escaped? c
    let (chars, rest) ← readString rest
    some (c :: chars, rest)
  | c :: rest =>
    if c.toNat < 0x20 ∨ c = '\\' then none
    else do
      let (chars, rest) ← readString rest
      some (c :: chars, rest)

/-! ## Numbers -/

/-- Reads the digits at the head of a text; there has to be one. -/
def readDigits (text : List Char) : Option (List Char × List Char) :=
  if (text.takeWhile isAsciiDigit).isEmpty then none
  else some (text.takeWhile isAsciiDigit, text.dropWhile isAsciiDigit)

/-- Reads the part of a number behind its whole digits: the fraction and the exponent. -/
def readTail (negative : Bool) (whole text : List Char) : Option (Number × List Char) := do
  let (fraction, plain, text) ← match text with
    | '.' :: rest => (readDigits rest).map fun (digits, rest) => (digits, false, rest)
    | _ => some ([], true, text)
  let (exponent, plain, text) ← match text with
    | c :: rest =>
      if c = 'e' ∨ c = 'E' then
        let (minus, rest) := match rest with
          | '+' :: rest => (false, rest)
          | '-' :: rest => (true, rest)
          | _ => (false, rest)
        (readDigits rest).map fun (digits, rest) =>
          ((if minus then -(digitsValue digits : Int) else digitsValue digits), false, rest)
      else some ((0 : Int), plain, text)
    | [] => some ((0 : Int), plain, text)
  let n ← Number.ofNumeral? ⟨negative, whole, fraction, exponent⟩ plain
  some (n, text)

/-- Reads a number. A zero is not followed by further digits. -/
def readNumber (text : List Char) : Option (Number × List Char) := do
  let (negative, text) := match text with
    | '-' :: rest => (true, rest)
    | _ => (false, text)
  let (whole, text) ← match text with
    | '0' :: rest => some (['0'], rest)
    | _ => readDigits text
  readTail negative whole text

/-! ## Tokens -/

/-- Reads the token at the head of a text that does not begin with a blank. -/
def readToken : List Char → Option (Token × List Char)
  | '[' :: rest => some (.openArray, rest)
  | ']' :: rest => some (.closeArray, rest)
  | '\x7b' :: rest => some (.openObject, rest)
  | '\x7d' :: rest => some (.closeObject, rest)
  | ',' :: rest => some (.comma, rest)
  | ':' :: rest => some (.colon, rest)
  | '\x22' :: rest => do
    let (chars, rest) ← readString rest
    some (.literal (.string (String.ofList chars)), rest)
  | 'n' :: 'u' :: 'l' :: 'l' :: rest => some (.literal .null, rest)
  | 't' :: 'r' :: 'u' :: 'e' :: rest => some (.literal (.bool true), rest)
  | 'f' :: 'a' :: 'l' :: 's' :: 'e' :: rest => some (.literal (.bool false), rest)
  | text => do
    let (n, rest) ← readNumber text
    some (.literal (.number n), rest)

/-- The blanks between tokens. -/
def isBlank (c : Char) : Bool := c == ' ' || c == '\t' || c == '\n' || c == '\r'

/-- The tokens of a text, where `fuel` is at least its length. -/
def tokensWithin : Nat → List Char → Option (List Token)
  | fuel, text =>
    match text.dropWhile isBlank, fuel with
    | [], _ => some []
    | _ :: _, 0 => none
    | c :: cs, fuel + 1 => do
      let (token, rest) ← readToken (c :: cs)
      let tokens ← tokensWithin fuel rest
      some (token :: tokens)

/-- The tokens of a text. -/
def tokens? (text : List Char) : Option (List Token) := tokensWithin text.length text

/-! ## The reader -/

/-- An array or object that is still open, with what it holds so far, latest first. -/
inductive Frame where
  | array (items : List Json)
  | object (members : List (String × Json)) (name : String)

/-- What the reader expects next. -/
inductive Expecting where
  /-- A value, or the end of the array when `mayClose` holds. -/
  | value (mayClose : Bool)
  /-- The name of a member, or the end of the object when `mayClose` holds. -/
  | name (members : List (String × Json)) (mayClose : Bool)
  | colon (members : List (String × Json)) (name : String)
  /-- A comma or the end of what is open; the end of the text if nothing is. -/
  | separator (last : Json)

/-- The open arrays and objects, innermost first, and what comes next. -/
structure Reader where
  stack : List Frame
  expecting : Expecting

namespace Reader

/-- The greatest number of arrays and objects open at a time. -/
def maxDepth : Nat := 127

/-- The reader at the head of a text. -/
def start : Reader := ⟨[], .value false⟩

/-- One token. -/
def step (r : Reader) (token : Token) : Option Reader :=
  match r.expecting, token with
  | .value _, .literal v => some { r with expecting := .separator v }
  | .value _, .openArray =>
    if r.stack.length < maxDepth then some ⟨.array [] :: r.stack, .value true⟩ else none
  | .value _, .openObject =>
    if r.stack.length < maxDepth then some ⟨.object [] "" :: r.stack, .name [] true⟩ else none
  | .value true, .closeArray =>
    match r.stack with
    | .array items :: stack => some ⟨stack, .separator (.array items.reverse)⟩
    | _ => none
  | .name members _, .literal (.string name) => some { r with expecting := .colon members name }
  | .name members true, .closeObject =>
    match r.stack with
    | .object .. :: stack => some ⟨stack, .separator (.object members.reverse)⟩
    | _ => none
  | .colon members name, .colon =>
    match r.stack with
    | .object .. :: stack => some ⟨.object members name :: stack, .value false⟩
    | _ => none
  | .separator last, .comma =>
    match r.stack with
    | .array items :: stack => some ⟨.array (last :: items) :: stack, .value false⟩
    | .object members name :: stack =>
      some ⟨.object [] "" :: stack, .name ((name, last) :: members) false⟩
    | [] => none
  | .separator last, .closeArray =>
    match r.stack with
    | .array items :: stack => some ⟨stack, .separator (.array (last :: items).reverse)⟩
    | _ => none
  | .separator last, .closeObject =>
    match r.stack with
    | .object members name :: stack =>
      some ⟨stack, .separator (.object ((name, last) :: members).reverse)⟩
    | _ => none
  | _, _ => none

/-- The value read, if nothing is open and a value has been read. -/
def finish? (r : Reader) : Option Json :=
  match r.stack, r.expecting with
  | [], .separator v => some v
  | _, _ => none

end Reader

/-- The value of a text, with all members of its objects as they are written. -/
def parseMembers? (text : String) : Option Json := do
  let tokens ← tokens? text.toList
  let reader ← tokens.foldlM Reader.step Reader.start
  reader.finish?

/-- The value of a text, with repeated names merged. -/
def parse? (text : String) : Option Json := (parseMembers? text).map merged

end LinkedShapes.Json
