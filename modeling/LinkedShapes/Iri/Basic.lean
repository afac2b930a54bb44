import LinkedShapes.Text.Character

/-!
# Absolute identifiers

An absolute identifier has a scheme, perhaps an authority, a path, and perhaps a query and a
fragment. All its parts are kept in the way they are written.

## Schemes

The schemes of web and file resources are special: their authorities are domain names, a
backslash separates the segments of their paths like a slash does, and their paths are never
empty.
-/

namespace LinkedShapes

open Text

/-- The kinds of schemes. -/
inductive Iri.Kind where
  /-- Web resources. -/
  | web
  /-- Files. -/
  | file
  /-- Everything else. -/
  | other
deriving DecidableEq, Repr

/-- The port that a scheme stands for on its own. -/
def Iri.defaultPort? (scheme : List Char) : Option Nat :=
  match String.ofList scheme with
  | "http" | "ws" => some 80
  | "https" | "wss" => some 443
  | "ftp" => some 21
  | _ => none

/-- The kind of a scheme. -/
def Iri.Kind.ofScheme (scheme : List Char) : Kind :=
  if scheme = ['f', 'i', 'l', 'e'] then .file
  else if (defaultPort? scheme).isSome then .web
  else .other

/-- Is the scheme special? -/
def Iri.Kind.isSpecial (kind : Kind) : Bool := kind != .other

/-- Where a resource is found: on a host, perhaps with credentials and a port. -/
structure Iri.Authority where
  /-- The user and the password with a colon between them; empty for none. -/
  credentials : List Char
  host : List Char
  port : Option Nat
deriving DecidableEq, Repr

/-- The authority without a host. -/
def Iri.Authority.empty : Authority := ⟨[], [], none⟩

/-- The way an authority is written. -/
def Iri.Authority.text (a : Authority) : List Char :=
  (if a.credentials.isEmpty then [] else a.credentials ++ ['@']) ++ a.host ++
    match a.port with
    | some n => ':' :: Nat.toDigits 10 n
    | none => []

/-- An absolute identifier. -/
structure Iri where
  scheme : List Char
  authority : Option Iri.Authority
  path : List Char
  query : Option (List Char)
  fragment : Option (List Char)
deriving DecidableEq, Repr

namespace Iri

/-- The kind of the scheme. -/
def kind (i : Iri) : Kind := .ofScheme i.scheme

/-- A path with a leading slash can be walked; without an authority, any other path cannot. -/
def isHierarchical (i : Iri) : Bool := i.authority.isSome || i.path.head? == some '/'

/--
The authority and the path as written. A path that would be taken for an authority is kept apart
by a segment that stands for itself.
-/
def hierarchy (i : Iri) : List Char :=
  match i.authority with
  | some a => '/' :: '/' :: a.text ++ i.path
  | none =>
    match i.path with
    | '/' :: '/' :: _ => '/' :: '.' :: i.path
    | _ => i.path

/-- A part of an identifier behind its mark. -/
def marked (mark : Char) : Option (List Char) → List Char
  | some part => mark :: part
  | none => []

/-- The characters of an identifier. -/
def chars (i : Iri) : List Char :=
  i.scheme ++ ':' :: i.hierarchy ++ marked '?' i.query ++ marked '#' i.fragment

/-- The way an identifier is written. -/
def text (i : Iri) : String := String.ofList i.chars

end Iri

end LinkedShapes
