import LinkedShapes.Json.Number

/-!
# JSON values

The members of an object are a list of names and values: their order is part of the value, and
it is the order they are written in.
-/

namespace LinkedShapes

/-- A JSON value. -/
inductive Json where
  | null
  | bool (value : Bool)
  | number (value : Json.Number)
  | string (value : String)
  | array (items : List Json)
  | object (members : List (String × Json))
deriving Repr

namespace Json

instance : Inhabited Json := ⟨.null⟩

/-! ## Structural equality -/

mutual

/-- Are two values the same, the order of members included? -/
def beq : Json → Json → Bool
  | .null, .null => true
  | .bool a, .bool b => a == b
  | .number a, .number b => decide (a = b)
  | .string a, .string b => a == b
  | .array xs, .array ys => beqItems xs ys
  | .object xs, .object ys => beqMembers xs ys
  | _, _ => false

def beqItems : List Json → List Json → Bool
  | [], [] => true
  | x :: xs, y :: ys => beq x y && beqItems xs ys
  | _, _ => false

def beqMembers : List (String × Json) → List (String × Json) → Bool
  | [], [] => true
  | (k, x) :: xs, (l, y) :: ys => k == l && beq x y && beqMembers xs ys
  | _, _ => false

end

mutual

theorem eq_of_beq : ∀ {x y : Json}, beq x y = true → x = y
  | .null, y, h => by cases y <;> simp_all [beq]
  | .bool _, y, h => by cases y <;> simp_all [beq]
  | .number _, y, h => by cases y <;> simp_all [beq]
  | .string _, y, h => by cases y <;> simp_all [beq]
  | .array xs, y, h => by
    cases y with
    | array ys => exact congrArg _ (eq_of_beqItems (by simpa [beq] using h))
    | _ => simp [beq] at h
  | .object xs, y, h => by
    cases y with
    | object ys => exact congrArg _ (eq_of_beqMembers (by simpa [beq] using h))
    | _ => simp [beq] at h

theorem eq_of_beqItems : ∀ {xs ys : List Json}, beqItems xs ys = true → xs = ys
  | [], [], _ => rfl
  | [], _ :: _, h => by simp [beqItems] at h
  | _ :: _, [], h => by simp [beqItems] at h
  | x :: xs, y :: ys, h => by
    simp only [beqItems, Bool.and_eq_true] at h
    rw [eq_of_beq h.1, eq_of_beqItems h.2]

theorem eq_of_beqMembers : ∀ {xs ys : List (String × Json)}, beqMembers xs ys = true → xs = ys
  | [], [], _ => rfl
  | [], _ :: _, h => by simp [beqMembers] at h
  | _ :: _, [], h => by simp [beqMembers] at h
  | (k, x) :: xs, (l, y) :: ys, h => by
    simp only [beqMembers, Bool.and_eq_true, beq_iff_eq] at h
    rw [h.1.1, eq_of_beq h.1.2, eq_of_beqMembers h.2]

end

mutual

theorem beq_self : ∀ x : Json, beq x x = true
  | .null => rfl
  | .bool _ => by simp [beq]
  | .number _ => by simp [beq]
  | .string _ => by simp [beq]
  | .array xs => by simpa [beq] using beqItems_self xs
  | .object xs => by simpa [beq] using beqMembers_self xs

theorem beqItems_self : ∀ xs : List Json, beqItems xs xs = true
  | [] => rfl
  | x :: xs => by simp [beqItems, beq_self x, beqItems_self xs]

theorem beqMembers_self : ∀ xs : List (String × Json), beqMembers xs xs = true
  | [] => rfl
  | (k, x) :: xs => by simp [beqMembers, beq_self x, beqMembers_self xs]

end

instance : DecidableEq Json := fun x y =>
  if h : beq x y then isTrue (eq_of_beq h)
  else isFalse fun e => h (e ▸ beq_self x)

/-! ## Members -/

/-- The value of the first member of a name. -/
def lookup (name : String) : List (String × Json) → Option Json
  | [] => none
  | (n, v) :: members => if n = name then some v else lookup name members

/-- Sets the value of a member: in its old place if there is one, at the end otherwise. -/
def put (name : String) (value : Json) : List (String × Json) → List (String × Json)
  | [] => [(name, value)]
  | (n, v) :: members =>
    if n = name then (name, value) :: members else (n, v) :: put name value members

mutual

/-- The value with repeated names merged: each keeps its first place and its last value. -/
def merged : Json → Json
  | .array items => .array (mergedItems items)
  | .object members => .object (mergedMembers [] members)
  | json => json

def mergedItems : List Json → List Json
  | [] => []
  | x :: xs => merged x :: mergedItems xs

def mergedMembers (before : List (String × Json)) :
    List (String × Json) → List (String × Json)
  | [] => before
  | (k, x) :: xs => mergedMembers (put k (merged x) before) xs

end

/-! ## Equality up to the order of members -/

mutual

/-- Are two values the same, whatever the order of members? Numbers compare by value. -/
def same : Json → Json → Bool
  | .null, .null => true
  | .bool a, .bool b => a == b
  | .number a, .number b => a.same b
  | .string a, .string b => a == b
  | .array xs, .array ys => sameItems xs ys
  | .object xs, .object ys => xs.length == ys.length && sameMembers xs ys
  | _, _ => false

def sameItems : List Json → List Json → Bool
  | [], [] => true
  | x :: xs, y :: ys => same x y && sameItems xs ys
  | _, _ => false

def sameMembers : List (String × Json) → List (String × Json) → Bool
  | [], _ => true
  | (k, x) :: xs, ys =>
    (match lookup k ys with
      | some y => same x y
      | none => false) && sameMembers xs ys

end

/-! ## Views -/

mutual

/-- All strings of a value that are not names of members. -/
def strings : Json → List String
  | .string s => [s]
  | .array items => itemStrings items
  | .object members => memberStrings members
  | _ => []

def itemStrings : List Json → List String
  | [] => []
  | x :: xs => strings x ++ itemStrings xs

def memberStrings : List (String × Json) → List String
  | [] => []
  | (_, x) :: xs => strings x ++ memberStrings xs

end

/-- The text of a string value. -/
def string? : Json → Option String
  | .string s => some s
  | _ => none

end Json

end LinkedShapes
