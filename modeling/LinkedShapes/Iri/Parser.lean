import LinkedShapes.Iri.Path

/-!
# Reading identifiers

`Iri.parse?` reads an absolute identifier, and `Iri.join?` reads a reference that may leave out
the parts that it shares with a base. White space and controls around the text are dropped, and
so are tabs and line breaks inside of it.

A reference with a scheme of its own is absolute, unless the scheme is the special scheme of the
base and less than two slashes follow. A reference that starts with two slashes brings its
authority, with one slash its path, with a question mark its query; all others continue the path
of the base from its last slash on. A base without a hierarchical path can only be given a new
fragment.
-/

namespace LinkedShapes.Iri

open Text

/-! ## Parts -/

/-- The characters that are dropped at the ends. -/
def isBlank (c : Char) : Bool := c.toNat ≤ 0x20

/-- The characters that are dropped everywhere. -/
def isBreak (c : Char) : Bool := c == '\t' || c == '\n' || c == '\r'

/-- A text without the characters that are dropped. -/
def clean (text : String) : List Char :=
  (((text.toList.dropWhile isBlank).reverse.dropWhile isBlank).reverse).filter (!isBreak ·)

/-- The characters of a scheme, after its first letter. -/
def isSchemeChar (c : Char) : Bool := isAsciiAlphanumeric c || c == '+' || c == '-' || c == '.'

/-- The scheme in lower case, and what follows its colon. -/
def scheme? (text : List Char) : Option (List Char × List Char) :=
  let (scheme, rest) := text.span isSchemeChar
  match scheme, rest with
  | c :: _, ':' :: rest => if isAsciiAlpha c then some (scheme.map asciiLower, rest) else none
  | _, _ => none

/-- A slash of either kind. -/
def isSlash (c : Char) : Bool := c == '/' || c == '\\'

/-- The end of a path. -/
def endsPath (c : Char) : Bool := c == '?' || c == '#'

/-- The characters of credentials that are written as bytes. -/
def isCredentialEscaped (c : Char) : Bool :=
  Path.isEscaped c || "/:;=@[\\]^|".toList.contains c

/-- The characters of a query that are written as bytes. -/
def isQueryEscaped (kind : Kind) (c : Char) : Bool :=
  Host.isControl c || " \"#<>".toList.contains c || (kind.isSpecial && c == '\'')

/-- The characters of a fragment that are written as bytes. -/
def isFragmentEscaped (c : Char) : Bool := Host.isControl c || " \"<>\x60".toList.contains c

/-- The written form of credentials; a password is kept only if there is one. -/
def credentials (text : List Char) : List Char :=
  let (user, rest) := text.span (· != ':')
  let password := rest.tail
  Percent.encode isCredentialEscaped user ++
    if password.isEmpty then [] else ':' :: Percent.encode isCredentialEscaped password

/-- The text before the last occurrence of a character, if any, and the text after it. -/
def splitAtLast (c : Char) (text : List Char) : Option (List Char) × List Char :=
  let (after, before) := text.reverse.span (· != c)
  match before with
  | [] => (none, text)
  | _ :: before => (some before.reverse, after.reverse)

/-- The text of a host and what follows; colons within brackets belong to the host. -/
def hostText (kind : Kind) (inBrackets : Bool) : List Char → List Char × List Char
  | [] => ([], [])
  | c :: cs =>
    if (c == ':' && !inBrackets) || Path.isSeparator kind c || endsPath c then ([], c :: cs)
    else
      let (host, rest) := hostText kind (c == '[' || (inBrackets && c != ']')) cs
      (c :: host, rest)

/-- The port at the head of a text, if it is not the default one, and what follows. -/
def port? (scheme : List Char) : List Char → Option (Option Nat × List Char)
  | ':' :: text =>
    let (digits, rest) := text.span isAsciiDigit
    let port := digitsValue digits
    if 65535 < port ∨ ¬ (rest.take 1).all (fun c => isSlash c || endsPath c) then none
    else some (if digits.isEmpty ∨ defaultPort? scheme = some port then none else some port, rest)
  | text => some (none, text)

/-- The authority at the head of a text, and what follows. -/
def authority? (scheme text : List Char) : Option (Authority × List Char) := do
  let kind := Kind.ofScheme scheme
  let (given, rest) := text.span fun c => !(Path.isSeparator kind c || endsPath c)
  let (user?, place) := splitAtLast '@' given
  if user? = some [] ∧ place.isEmpty ∧ ¬ rest.isEmpty then none
  let credentials := (user?.map credentials).getD []
  let (name, rest) := hostText kind false (place ++ rest)
  let host ←
    if kind.isSpecial then Host.ofDomain? name
    else if name.isEmpty ∧ (¬ credentials.isEmpty ∨ rest.head? = some ':') then none
    else Host.ofText? name
  let (port, rest) ← port? scheme rest
  return (⟨credentials, host, port⟩, rest)

/-- The query and the fragment that follow a path. -/
def queryAndFragment (kind : Kind) (text : List Char) :
    Option (List Char) × Option (List Char) :=
  let (query, rest) := text.span (· != '#')
  (match query with
    | '?' :: query => some (Percent.encode (isQueryEscaped kind) query)
    | _ => none,
   match rest with
    | _ :: fragment => some (Percent.encode isFragmentEscaped fragment)
    | [] => none)

/-! ## Completion -/

/-- Goes on after the authority: the path that the text gives, and what follows it. -/
def withPath (scheme : List Char) (authority : Option Authority) (path : List Char → List Char)
    (text : List Char) : Iri :=
  let (given, rest) := text.span (!endsPath ·)
  let (query, fragment) := queryAndFragment (.ofScheme scheme) rest
  ⟨scheme, authority, path given, query, fragment⟩

/-- The text without one leading separator. -/
def dropSeparator (kind : Kind) : List Char → List Char
  | c :: text => if Path.isSeparator kind c then text else c :: text
  | [] => []

/-- The path after an authority: empty, or given from its first slash on. -/
def rootedPath (kind : Kind) (given : List Char) : List Char :=
  if given.isEmpty ∧ ¬ kind.isSpecial then []
  else Path.follow kind [] (dropSeparator kind given)

/-- Reads the authority and everything after it. -/
def withAuthority? (scheme text : List Char) : Option Iri := do
  let (authority, rest) ← authority? scheme text
  return withPath scheme (some authority) (rootedPath (.ofScheme scheme)) rest

/-- The base with the fragment that follows a number sign. -/
def withFragment (base : Iri) (text : List Char) : Iri :=
  { base with fragment := some (Percent.encode isFragmentEscaped text.tail) }

/-- The base with the query and the fragment that the text gives. -/
def withQuery (base : Iri) (text : List Char) : Iri :=
  let (query, fragment) := queryAndFragment base.kind text
  { base with query, fragment }

/-! ## Files -/

/-- Reads the host of a file and the path after it. -/
def fileWithHost? (scheme text : List Char) : Option Iri := do
  let (name, rest) := text.span fun c => !(isSlash c || endsPath c)
  let path := Path.follow .file []
  if Path.isDrive name then
    return withPath scheme (some .empty) path text
  else
    let host ← if name.isEmpty then some [] else Host.ofDomain? name
    let file := withPath scheme (some .empty) (rootedPath .file) rest
    let onDrive := (Path.segments file.path).head?.any Path.isPlainDrive
    if onDrive ∨ host = "localhost".toList then return file
    else return { file with authority := some ⟨[], host, none⟩ }

/-- Reads what follows the scheme of a file, or a reference to a file from another file. -/
def file? (scheme : List Char) (base? : Option Iri) (text : List Char) : Option Iri :=
  match text, base? with
  | c :: rest, _ =>
    if isSlash c then
      if rest.head?.any isSlash then fileWithHost? scheme rest.tail
      else match (if Path.startsWithDrive rest then none else base?) with
        | some base =>
          let drive := (Path.segments base.path).head?.filter Path.isPlainDrive
          let authority := if drive.isSome then some .empty else base.authority
          some (withPath scheme authority (fun given => Path.follow .file drive.toList given.tail)
            text)
        | none =>
          some (withPath scheme (some .empty) (fun given => Path.follow .file [] given.tail) text)
    else match base? with
      | some base =>
        if c = '?' then some (withQuery base text)
        else if c = '#' then some (withFragment base text)
        else if Path.startsWithDrive text then
          some (withPath scheme (some .empty) (Path.follow .file []) text)
        else
          some (withPath scheme base.authority
            (Path.follow .file (Path.parents .file base.path)) text)
      | none => some (withPath scheme (some .empty) (Path.follow .file []) text)
  | [], some base => some { base with fragment := none }
  | [], none => some (withPath scheme (some .empty) (Path.follow .file []) [])

/-! ## Identifiers -/

/-- Reads what follows a scheme. -/
def afterScheme? (scheme text : List Char) : Option Iri :=
  match Kind.ofScheme scheme with
  | .file => file? scheme none text
  | .web => withAuthority? scheme (text.dropWhile isSlash)
  | .other =>
    match text with
    | '/' :: '/' :: text => withAuthority? scheme text
    | '/' :: text => some (withPath scheme none (Path.follow .other []) text)
    | text => some (withPath scheme none (Percent.encode Host.isControl) text)

/-- Reads an absolute identifier. -/
def parse? (text : String) : Option Iri := do
  let (scheme, rest) ← scheme? (clean text)
  afterScheme? scheme rest

/-- Reads a reference without a scheme against a hierarchical base that is no file. -/
def relative? (base : Iri) (text : List Char) : Option Iri :=
  match text with
  | [] => some { base with fragment := none }
  | '?' :: _ => some (withQuery base text)
  | '#' :: _ => some (withFragment base text)
  | c :: rest =>
    if isSlash c then
      match text with
      | '/' :: '/' :: rest => withAuthority? base.scheme rest
      | _ =>
        if rest.head?.any isSlash then withAuthority? base.scheme (rest.dropWhile isSlash)
        else some (withPath base.scheme base.authority (Path.follow base.kind []) rest)
    else
      some (withPath base.scheme base.authority
        (Path.follow base.kind (Path.parents base.kind base.path)) text)

/-- Reads a reference against a base. -/
def join? (base : Iri) (reference : String) : Option Iri :=
  let text := clean reference
  match scheme? text with
  | some (scheme, rest) =>
    if scheme = base.scheme ∧ base.kind = .file then file? scheme (some base) rest
    else if scheme = base.scheme ∧ base.kind = .web ∧ (rest.takeWhile isSlash).length < 2 then
      relative? base rest
    else afterScheme? scheme rest
  | none =>
    if text.head? = some '#' then some (withFragment base text)
    else if ¬ base.isHierarchical then none
    else if base.kind = .file then file? base.scheme (some base) text
    else relative? base text

end LinkedShapes.Iri
