import LinkedShapes.Text.Quoted
import LinkedShapes.Vocabulary

/-!
# Terms

A term names a resource or is a literal. Resources are named by an absolute identifier or are
blank nodes, known by a label that means nothing outside of its graph. Literals have a lexical
form, always a datatype, and a language tag where the datatype is that of tagged strings; two
literals are the same only if their lexical forms are.

## Order

Terms are ordered by kind (blank nodes, then identifiers, then literals), and within a kind by
datatype, language tag and text. Graphs list their triples in this order.
-/

namespace LinkedShapes

open Vocabulary

/-- A literal. -/
structure Literal where
  lexical : String
  datatype : String
  language : Option String
deriving DecidableEq, Repr

/-- A term. -/
inductive Term where
  | blankNode (label : String)
  | iri (iri : String)
  | literal (literal : Literal)
deriving DecidableEq, Repr

namespace Term

instance : Inhabited Term := ⟨.iri ""⟩

/-! ## Constructors -/

/-- A label without the mark of blank nodes in front. -/
def stripMark (label : String) : String :=
  match label.toList with
  | '_' :: ':' :: rest => String.ofList rest
  | _ => label

/-- The blank node of a label that may carry the mark of blank nodes. -/
def blank (label : String) : Term := .blankNode (stripMark label)

/-- A literal of a datatype. -/
def typed (lexical datatype : String) : Term := .literal ⟨lexical, datatype, none⟩

def string (text : String) : Term := typed text Xsd.string

def boolean (value : Bool) : Term := typed (if value then "true" else "false") Xsd.boolean

def integer (value : Int) : Term := typed (toString value) Xsd.integer

def long (value : Int) : Term := typed (toString value) Xsd.long

def decimal (lexical : String) : Term := typed lexical Xsd.decimal

/-- A text tagged with a language. -/
def langString (text language : String) : Term :=
  .literal ⟨text, Rdf.langString, some language⟩

/-! ## Views -/

def isIri : Term → Bool
  | .iri _ => true
  | _ => false

def isBlank : Term → Bool
  | .blankNode _ => true
  | _ => false

def isLiteral : Term → Bool
  | .literal _ => true
  | _ => false

def isResource (t : Term) : Bool := !t.isLiteral

def iri? : Term → Option String
  | .iri i => some i
  | _ => none

/-- The label of a blank node. -/
def label? : Term → Option String
  | .blankNode label => some label
  | _ => none

def literal? : Term → Option Literal
  | .literal l => some l
  | _ => none

/-- The language tag of a literal that has one. -/
def language : Term → Option String
  | .literal l => l.language
  | _ => none

/-- The lexical form of a literal, the identifier or the label of a resource. -/
def text : Term → String
  | .blankNode label => label
  | .iri i => i
  | .literal l => l.lexical

/-- A blank node as it is written. -/
def blankText (label : String) : String := "_:" ++ label

/-- The way a term is shown in messages and shapes. -/
def display : Term → String
  | .blankNode label => blankText label
  | .iri i => "<" ++ i ++ ">"
  | .literal l =>
    Text.quoted l.lexical ++
      match l.language with
      | some language => "@" ++ language
      | none => if l.datatype = Xsd.string then "" else "^^<" ++ l.datatype ++ ">"

/-! ## Order -/

/-- The place of the kind of a term among the kinds. -/
def rank : Term → Nat
  | .blankNode _ => 0
  | .iri _ => 1
  | .literal _ => 2

/-- The datatype of a literal; empty for resources. -/
def datatypeKey : Term → String
  | .literal l => l.datatype
  | _ => ""

/-- The order of terms. -/
def order : Term → Term → Ordering :=
  compareLex (compareOn rank) <| compareLex (compareOn datatypeKey) <|
    compareLex (compareOn language) (compareOn text)

instance : Ord Term := ⟨order⟩

instance : Std.TransOrd Term :=
  show Std.TransCmp order by unfold order; infer_instance

theorem eq_of_keys {x y : Term} (rank_eq : x.rank = y.rank)
    (datatype_eq : x.datatypeKey = y.datatypeKey) (language_eq : x.language = y.language)
    (text_eq : x.text = y.text) : x = y := by
  rcases x with x | x | ⟨a, b, c⟩ <;> rcases y with y | y | ⟨d, e, f⟩ <;>
    simp_all [rank, datatypeKey, language, text]

instance : Std.LawfulEqOrd Term where
  eq_of_compare {x y} h := by
    have h : order x y = .eq := h
    simp only [order, compareLex_eq_eq, compareOn, Std.LawfulEqOrd.compare_eq_iff_eq] at h
    exact eq_of_keys h.1 h.2.1 h.2.2.1 h.2.2.2

end Term

end LinkedShapes
