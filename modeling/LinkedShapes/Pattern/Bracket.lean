import LinkedShapes.Pattern.Escape

/-!
# Bracketed classes

A class in brackets is a union of characters, ranges, escapes, classes of ASCII such as
`[:alpha:]` and further classes in brackets. Unions are joined by `&&` for their intersection,
`--` for their difference and `~~` for their symmetric difference, from left to right.

A class is read with a stack of the unions and operations that are not complete yet. Each step
takes a character at least, so as many steps as there are characters are enough.
-/

namespace LinkedShapes

open Text

/-- Something read, with the depth to which its parts are nested. -/
structure Nested (α : Type) where
  value : α
  depth : Nat := 0
deriving Repr

namespace Nested

/-- The greatest depth among several things. -/
def maxDepth {α : Type} (xs : List (Nested α)) : Nat := (xs.map (·.depth)).foldl max 0

/-- The depth of several things side by side: a level more unless there is only one. -/
def jointDepth {α : Type} : List (Nested α) → Nat
  | [] => 0
  | [x] => x.depth
  | xs => maxDepth xs + 1

end Nested

namespace Bracket

/-- The operations between unions. -/
inductive Operation where
  | intersection | difference | symmetricDifference
deriving DecidableEq, Repr

/-- The result of an operation. -/
def Operation.apply : Operation → CharSet → CharSet → CharSet
  | intersection => .intersection
  | difference => .difference
  | symmetricDifference => .symmetricDifference

/-- What has been read before the present union. -/
inductive Frame where
  /-- A bracket that has been opened inside the union `outer`, whose items come in reverse. -/
  | opened (outer : List (Nested CharSet)) (negate : Bool)
  /-- An operation with its left operand. -/
  | operand (operation : Operation) (left : Nested CharSet)

/-- A state of reading: the items of the present union in reverse, and what is around it. -/
structure State where
  items : List (Nested CharSet)
  frames : List Frame

/-- The union of items in reverse. -/
def joined (items : List (Nested CharSet)) : Nested CharSet :=
  ⟨.unions (items.reverse.map (·.value)), Nested.jointDepth items⟩

/-- Completes the operation the present union is the right operand of. -/
def operated (right : Nested CharSet) : List Frame → Nested CharSet × List Frame
  | .operand operation left :: frames =>
    (⟨operation.apply left.value right.value, max left.depth right.depth + 1⟩, frames)
  | frames => (right, frames)

/-! ## Classes of ASCII -/

/-- The class of a name between colons. -/
def asciiClass? : String → Option CharSet
  | "alnum" => some (.unions [.range '0' '9', .range 'A' 'Z', .range 'a' 'z'])
  | "alpha" => some (.unions [.range 'A' 'Z', .range 'a' 'z'])
  | "ascii" => some (.range '\x00' '\x7f')
  | "blank" => some (.unions [.only '\t', .only ' '])
  | "cntrl" => some (.unions [.range '\x00' '\x1f', .only '\x7f'])
  | "digit" => some (.range '0' '9')
  | "graph" => some (.range '!' '~')
  | "lower" => some (.range 'a' 'z')
  | "print" => some (.range ' ' '~')
  | "punct" => some (.unions [.range '!' '/', .range ':' '@', .range '[' '`', .range '{' '~'])
  | "space" => some (.unions [.range '\t' '\r', .only ' '])
  | "upper" => some (.range 'A' 'Z')
  | "word" => some (.unions [.range '0' '9', .range 'A' 'Z', .only '_', .range 'a' 'z'])
  | "xdigit" => some (.unions [.range '0' '9', .range 'A' 'F', .range 'a' 'f'])
  | _ => none

/--
Reads a class between `[:` and `:]`; the bracket has been read. Also tells whether the class is
negated.
-/
def readAsciiClass : List Char → Option (CharSet × Bool × List Char)
  | ':' :: cs => do
    let (negate, cs) := match cs with
      | '^' :: cs => (true, cs)
      | cs => (false, cs)
    let name := cs.takeWhile (· ≠ ':')
    match cs.dropWhile (· ≠ ':') with
    | ':' :: ']' :: rest => return (← asciiClass? (String.ofList name), negate, rest)
    | _ => none
  | _ => none

/-! ## Items -/

/-- The set of an atom; places have none, and beyond ASCII the flags may allow none. -/
def itemSet? (f : Flags) : Atom → Option CharSet
  | .char c => if f.unicode || c.toNat < 0x80 then some (.only c) else none
  | .set s => some s
  | .place _ => none

/-- Reads a character or an escape. -/
def readAtom (f : Flags) : List Char → Option (Atom × List Char)
  | [] => none
  | '\\' :: cs => Atom.readEscape f cs
  | c :: cs => some (.char c, cs)

/--
Reads a range, or a single item. A hyphen is no sign of a range before a closing bracket or
another hyphen.
-/
def readItem (f : Flags) (text : List Char) : Option (CharSet × List Char) := do
  let (first, rest) ← readAtom f text
  match f.skip rest with
  | [] => none
  | '-' :: rest =>
    if f.peek rest = some ']' ∨ f.peek rest = some '-' then
      return (← itemSet? f first, '-' :: rest)
    else
      match first, ← readAtom f (f.skip rest) with
      | .char a, (.char b, rest) =>
        if a ≤ b ∧ (f.unicode ∨ b.toNat < 0x80) then return (.range a b, rest) else none
      | _, _ => none
  | rest => return (← itemSet? f first, rest)

/-! ## Brackets -/

/-- Reads the hyphens at the head of a class, which stand for themselves. -/
def readHyphens (f : Flags) (text : List Char) : List (Nested CharSet) × List Char :=
  match _h : f.skip text with
  | [] => ([], [])
  | c :: rest =>
    if c = '-' then
      let (items, after) := readHyphens f rest
      (⟨.only '-', 0⟩ :: items, after)
    else ([], c :: rest)
termination_by text.length
decreasing_by
  have := f.length_skip_le text
  rw [_h, List.length_cons] at this
  omega

/--
Opens a bracket that has been read: a circumflex negates the class, and hyphens and then a
closing bracket at its head stand for themselves.
-/
def opening (f : Flags) (s : State) (text : List Char) : Option (State × List Char) :=
  let (negate, text) := match f.skip text with
    | '^' :: rest => (true, rest)
    | rest => (false, rest)
  if negate && !f.unicode then none
  else
    let frames := .opened s.items negate :: s.frames
    match readHyphens f text with
    | (_, []) => none
    | ([], ']' :: rest) => some (⟨[⟨.only ']', 0⟩], frames⟩, rest)
    | (items, rest) => some (⟨items, frames⟩, rest)

/-- Begins the right operand of an operation. -/
def State.operate (s : State) (operation : Operation) : State :=
  let (left, frames) := operated (joined s.items) s.frames
  ⟨[], .operand operation left :: frames⟩

/-- A state after a step, or the class that the step completes. -/
abbrev Progress := State ⊕ Nested CharSet

/-- Closes the bracket opened last. -/
def State.close? (s : State) : Option Progress :=
  match operated (joined s.items) s.frames with
  | (inner, .opened outer negate :: frames) =>
    let whole : Nested CharSet := ⟨Atom.negated negate inner.value, inner.depth + 1⟩
    some (if frames.isEmpty then .inr whole else .inl ⟨whole :: outer, frames⟩)
  | _ => none

/-- Reads one item, bracket or operation. -/
def step (f : Flags) (s : State) : List Char → Option (Progress × List Char)
  | '[' :: rest =>
    match readAsciiClass rest with
    | some (set, negate, rest) =>
      if negate && !f.unicode then none
      else some (.inl { s with items := ⟨Atom.negated negate set, 0⟩ :: s.items }, rest)
    | none => (opening f s rest).map fun (s, rest) => (.inl s, rest)
  | ']' :: rest => s.close?.map (·, rest)
  | '&' :: '&' :: rest => some (.inl (s.operate .intersection), rest)
  | '-' :: '-' :: rest => some (.inl (s.operate .difference), rest)
  | '~' :: '~' :: rest => some (.inl (s.operate .symmetricDifference), rest)
  | text => do
    let (set, rest) ← readItem f text
    return (.inl { s with items := ⟨set, 0⟩ :: s.items }, rest)

/-- Reads on until the class is complete, in `steps` steps at most. -/
def run (f : Flags) : Nat → State → List Char → Option (Nested CharSet × List Char)
  | 0, _, _ => none
  | steps + 1, s, text => do
    match ← step f s (f.skip text) with
    | (.inl s, rest) => run f steps s rest
    | (.inr whole, rest) => return (whole, rest)

/-- Reads a class; its bracket has been read. -/
def read (f : Flags) (text : List Char) : Option (Nested CharSet × List Char) := do
  let (s, rest) ← opening f ⟨[], []⟩ text
  run f (rest.length + 1) s rest

end Bracket

end LinkedShapes
