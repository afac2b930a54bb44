import LinkedShapes.Shape.Error
import LinkedShapes.Sorted
import LinkedShapes.Text.Character
import LinkedShapes.Vocabulary

/-!
# Names of keywords

Descriptions use a few keywords as member names. Any of them may be given another, friendlier
name; the keyword itself is then still understood where descriptions are read.
-/

namespace LinkedShapes

open Vocabulary

/-- Other names for keywords, in the order of the keywords. -/
structure Keywords where
  overrides : List (String × String)
deriving DecidableEq, Repr

namespace Keywords

/-- No other names. -/
def none : Keywords := ⟨[]⟩

instance : Inhabited Keywords := ⟨none⟩

/-- Give a keyword a name, in place of the one it had. -/
def set (k : Keywords) (keyword name : String) : Keywords :=
  ⟨Sorted.set keyword name k.overrides⟩

/-- The names of a list of pairs, later ones in place of earlier ones. -/
def ofList (pairs : List (String × String)) : Keywords :=
  pairs.foldl (fun k pair => k.set pair.1 pair.2) none

def isEmpty (k : Keywords) : Bool := k.overrides.isEmpty

/-- The name a keyword goes by. -/
def nameOf (k : Keywords) (keyword : String) : String :=
  (Sorted.find? keyword k.overrides).getD keyword

/-- Does a name begin like a keyword? -/
def looksReserved (name : String) : Bool := name.toList.head? == some '@'

/-- The keyword that a member name stands for: an override, or the name of a keyword itself. -/
def keyword? (k : Keywords) (name : String) : Option String :=
  match k.overrides.find? (·.2 == name) with
  | some (keyword, _) => some keyword
  | .none => if looksReserved name then some name else .none

/-- Is the name taken by an override? -/
def isReserved (k : Keywords) (name : String) : Bool := k.overrides.any (·.2 == name)

/-- Checks overrides in order, given the names seen so far and the keywords they belong to. -/
def checkAll (seen : List (String × String)) : List (String × String) → Except ShapeError Unit
  | [] => .ok ()
  | (keyword, name) :: rest =>
    if !Keyword.aliasable.contains keyword then .error (.unknownKeyword keyword)
    else if !Text.isWord name then .error (.malformedKeywordAlias keyword name)
    else match seen.lookup name with
      | some first => .error (.conflictingKeywordAliases first keyword)
      | .none => checkAll ((name, keyword) :: seen) rest

/-- Only aliasable keywords have names, all names are words, and no two are the same. -/
def check (k : Keywords) : Except ShapeError Unit := checkAll [] k.overrides

end Keywords

end LinkedShapes
