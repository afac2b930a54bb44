import LinkedShapes.Pattern.Bracket

/-!
# Reading expressions

An expression is read from left to right, with a stack of the groups that are open. Of the
innermost group the present branch is kept, its pieces in reverse, and the branches before it.
Each step takes a character at least, so as many steps as there are characters are enough.

What is refused: a repetition of nothing or of a mere flag setting, an unknown flag or escape, a
group that looks around, a name of two groups, a bracket, brace or parenthesis without its
partner, and expressions nested too deeply.
-/

namespace LinkedShapes

open Text

namespace Expression

/-- A piece of a branch; `none` is a place where flags are set, which matches the empty text. -/
abbrev Piece := Option (Nested Expression)

/-- The group around a branch: what has been read before it, and the flags that hold behind it. -/
structure OpenGroup where
  branch : List Piece
  branches : List (Nested Expression)
  flags : Flags
  remembered : Bool

/-- A state of reading. -/
structure ReadState where
  flags : Flags
  /-- The pieces of the present branch in reverse. -/
  branch : List Piece := []
  /-- The branches of the present group that are complete, in reverse. -/
  branches : List (Nested Expression) := []
  groups : List OpenGroup := []
  /-- The names of groups. -/
  names : List (List Char) := []

namespace ReadState

/-- The most levels an expression may have. -/
def maxDepth : Nat := 250

/-- The expression of a branch whose pieces come in reverse. -/
def joinBranch (pieces : List Piece) : Nested Expression :=
  let pieces := pieces.reverse.map (·.getD ⟨.empty, 0⟩)
  ⟨sequenceOf (pieces.map (·.value)), Nested.jointDepth pieces⟩

/-- The expression of the present group. -/
def joinBranches (s : ReadState) : Nested Expression :=
  let branches := (joinBranch s.branch :: s.branches).reverse
  match branches with
  | [] => ⟨.empty, 0⟩
  | e :: es => ⟨choiceOf e.value (es.map (·.value)), Nested.jointDepth branches⟩

/-- Adds a piece to the present branch. -/
def push (s : ReadState) (e : Expression) (depth : Nat) : ReadState :=
  { s with branch := some ⟨e, depth⟩ :: s.branch }

/-! ## Repetitions -/

/-- Repeats the last piece of the present branch. -/
def repeatLast? (s : ReadState) (least : Nat) (most : Option Nat) : Option ReadState :=
  match s.branch with
  | some piece :: rest =>
    some { s with branch := some ⟨.repetition least most piece.value, piece.depth + 1⟩ :: rest }
  | _ => none

/-- Passes over the sign of a repetition that prefers few rounds. -/
def skipReluctance : List Char → List Char
  | '?' :: cs => cs
  | cs => cs

/-- Reads the digits of a count, blanks after each of them skipped. -/
def readDigits (f : Flags) (text : List Char) : List Char × List Char :=
  match text with
  | [] => ([], [])
  | c :: rest =>
    if isAsciiDigit c then
      let (digits, after) := readDigits f (f.skip rest)
      (c :: digits, after)
    else ([], c :: rest)
termination_by text.length
decreasing_by
  have := f.length_skip_le rest
  simp only [List.length_cons]
  omega

/-- The greatest count that a repetition may name. -/
def maxCount : Nat := 0xFFFFFFFF

/-- Reads a count, which may have white space around it. -/
def readCount (f : Flags) (text : List Char) : Option (Nat × List Char) :=
  let (digits, rest) := readDigits f (text.dropWhile isWhiteSpace)
  let count := digitsValue digits
  if digits.isEmpty ∨ maxCount < count then none
  else some (count, f.skip (rest.dropWhile isWhiteSpace))

/-- Reads the bounds of a repetition up to the closing brace; the opening one has been read. -/
def readBounds (f : Flags) (text : List Char) : Option (Nat × Option Nat × List Char) := do
  let (least, rest) ← readCount f (f.skip text)
  match rest with
  | '}' :: rest => return (least, some least, rest)
  | ',' :: rest =>
    match f.skip rest with
    | '}' :: rest => return (least, none, rest)
    | rest =>
      let (most, rest) ← readCount f rest
      match rest with
      | '}' :: rest => if least ≤ most then return (least, some most, rest) else none
      | _ => none
  | _ => none

/-! ## Groups -/

/-- Opens a group that is read with the given flags. -/
def openGroup (s : ReadState) (flags : Flags) (remembered : Bool) : ReadState :=
  { s with
    flags, branch := [], branches := [],
    groups := ⟨s.branch, s.branches, s.flags, remembered⟩ :: s.groups }

/-- Closes the group opened last. -/
def closeGroup? (s : ReadState) : Option ReadState :=
  match s.groups with
  | [] => none
  | g :: groups =>
    let inner := s.joinBranches
    let e := if g.remembered then .group inner.value else inner.value
    some { s with
      flags := g.flags, branch := some ⟨e, inner.depth + 1⟩ :: g.branch, branches := g.branches,
      groups }

/-- May a character stand in the name of a group? -/
def isNameChar (first : Bool) (c : Char) : Bool :=
  c == '_' || (if first then isAlphabetic c else isAlphanumeric c || ".[]".contains c)

/-- Reads the name of a group up to the `>` behind it. -/
def readName (first : Bool) : List Char → Option (List Char × List Char)
  | [] => none
  | c :: cs =>
    if c = '>' then (if first then none else some ([], cs))
    else if isNameChar first c then (readName false cs).map fun (name, rest) => (c :: name, rest)
    else none

/-- Opens a group with a name that no group has yet. -/
def openNamed? (s : ReadState) (text : List Char) : Option (ReadState × List Char) := do
  let (name, rest) ← readName true text
  if name ∈ s.names then none
  else return ({ s with names := name :: s.names }.openGroup s.flags true, rest)

/-- Reads the opening of a group, or a setting of flags; the parenthesis has been read. -/
def readGroup (s : ReadState) (text : List Char) : Option (ReadState × List Char) :=
  match s.flags.skip text with
  | '?' :: '=' :: _ | '?' :: '!' :: _ | '?' :: '<' :: '=' :: _ | '?' :: '<' :: '!' :: _ => none
  | '?' :: 'P' :: '<' :: rest | '?' :: '<' :: rest => s.openNamed? rest
  | '?' :: ')' :: _ => none
  | '?' :: rest => do
    let (flags, mark, rest) ← s.flags.readLetters [] rest
    if mark = ':' then return (s.openGroup flags false, rest)
    else return ({ s with flags, branch := none :: s.branch }, rest)
  | rest => some (s.openGroup s.flags true, rest)

/-! ## Steps -/

/-- What the dot stands for. -/
def dotSet? (f : Flags) : Option CharSet :=
  if !f.unicode then none
  else if f.dotAll then some .all
  else if f.carriage then some (CharSet.union (.only '\n') (.only '\r')).complement
  else some (CharSet.only '\n').complement

/-- Adds what an atom stands for. -/
def pushAtom (s : ReadState) : Atom → ReadState
  | .char c => s.push (.one s.flags.caseRule (.only c)) 0
  | .set set => s.push (.one s.flags.caseRule set) 0
  | .place p => s.push (.place p) 0

/-- Reads what begins with the character `c`. -/
def step (s : ReadState) (c : Char) (rest : List Char) : Option (ReadState × List Char) :=
  let f := s.flags
  match c with
  | '(' => s.readGroup rest
  | ')' => s.closeGroup?.map (·, rest)
  | '|' => some ({ s with branch := [], branches := joinBranch s.branch :: s.branches }, rest)
  | '[' => do
    let (set, rest) ← Bracket.read f rest
    return (s.push (.one f.caseRule set.value) set.depth, rest)
  | '?' => (s.repeatLast? 0 (some 1)).map (·, skipReluctance rest)
  | '*' => (s.repeatLast? 0 none).map (·, skipReluctance rest)
  | '+' => (s.repeatLast? 1 none).map (·, skipReluctance rest)
  | '{' => do
    let (least, most, rest) ← readBounds f rest
    return (← s.repeatLast? least most, skipReluctance (f.skip rest))
  | '.' => do return (s.push (.one f.caseRule (← dotSet? f)) 0, rest)
  | '^' =>
    some (s.push (.place (if f.multiLine then .lineStart f.carriage else .textStart)) 0, rest)
  | '$' => some (s.push (.place (if f.multiLine then .lineEnd f.carriage else .textEnd)) 0, rest)
  | '\\' => do
    let (atom, rest) ← Atom.readEscape f rest
    return (s.pushAtom atom, rest)
  | c => some (s.pushAtom (.char c), rest)

/-- Reads on to the end of the text, in `steps` steps at most. -/
def run : Nat → ReadState → List Char → Option (Nested Expression)
  | steps, s, text =>
    match steps, s.flags.skip text with
    | _, [] => if s.groups.isEmpty then some s.joinBranches else none
    | 0, _ => none
    | steps + 1, c :: rest => do
      let (s, rest) ← s.step c rest
      run steps s rest

end ReadState

/-- Reads an expression with the given flags. -/
def parse? (flags : Flags) (text : List Char) : Option Expression := do
  let e ← ReadState.run text.length { flags } text
  if e.depth ≤ ReadState.maxDepth then some e.value else none

end Expression

end LinkedShapes
