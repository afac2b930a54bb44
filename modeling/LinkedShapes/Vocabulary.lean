/-!
# Vocabulary

The resource identifiers that shapes, descriptions and queries rely on, and the families that
datatypes fall into. The abstract datatypes classify values by their kind; no stored literal
carries one of them.
-/

namespace LinkedShapes.Vocabulary

/-! ## The RDF vocabulary -/

namespace Rdf

def type : String := "http://www.w3.org/1999/02/22-rdf-syntax-ns#type"
def value : String := "http://www.w3.org/1999/02/22-rdf-syntax-ns#value"
def langString : String := "http://www.w3.org/1999/02/22-rdf-syntax-ns#langString"
def first : String := "http://www.w3.org/1999/02/22-rdf-syntax-ns#first"
def rest : String := "http://www.w3.org/1999/02/22-rdf-syntax-ns#rest"
def nil : String := "http://www.w3.org/1999/02/22-rdf-syntax-ns#nil"

end Rdf

/-! ## The RDF schema vocabulary -/

namespace Rdfs

def label : String := "http://www.w3.org/2000/01/rdf-schema#label"
def comment : String := "http://www.w3.org/2000/01/rdf-schema#comment"
def resource : String := "http://www.w3.org/2000/01/rdf-schema#Resource"

end Rdfs

/-! ## Datatypes -/

namespace Xsd

def string : String := "http://www.w3.org/2001/XMLSchema#string"
def boolean : String := "http://www.w3.org/2001/XMLSchema#boolean"
def integer : String := "http://www.w3.org/2001/XMLSchema#integer"
def long : String := "http://www.w3.org/2001/XMLSchema#long"
def int : String := "http://www.w3.org/2001/XMLSchema#int"
def short : String := "http://www.w3.org/2001/XMLSchema#short"
def byte : String := "http://www.w3.org/2001/XMLSchema#byte"
def nonNegativeInteger : String := "http://www.w3.org/2001/XMLSchema#nonNegativeInteger"
def positiveInteger : String := "http://www.w3.org/2001/XMLSchema#positiveInteger"
def nonPositiveInteger : String := "http://www.w3.org/2001/XMLSchema#nonPositiveInteger"
def negativeInteger : String := "http://www.w3.org/2001/XMLSchema#negativeInteger"
def decimal : String := "http://www.w3.org/2001/XMLSchema#decimal"
def float : String := "http://www.w3.org/2001/XMLSchema#float"
def double : String := "http://www.w3.org/2001/XMLSchema#double"
def dateTime : String := "http://www.w3.org/2001/XMLSchema#dateTime"
def date : String := "http://www.w3.org/2001/XMLSchema#date"
def anyURI : String := "http://www.w3.org/2001/XMLSchema#anyURI"

/-- The integer datatypes. -/
def integers : List String :=
  [integer, long, int, short, byte, nonNegativeInteger, positiveInteger, nonPositiveInteger,
    negativeInteger]

/-- Is the datatype one of the integers? -/
def isInteger (iri : String) : Bool := integers.contains iri

/-- Is the datatype a decimal or a floating-point number? -/
def isDecimal (iri : String) : Bool := iri == decimal || iri == float || iri == double

/-- Is the datatype a number? -/
def isNumeric (iri : String) : Bool := isInteger iri || isDecimal iri

end Xsd

/-! ## Abstract datatypes -/

namespace Abstract

/-- The namespace of the abstract datatypes. -/
def space : String := "app:/terms#"

/-- Any resource identifier. -/
def iri : String := "app:/terms#iri"

/-- Any blank node. -/
def bnode : String := "app:/terms#bnode"

/-- Any literal. -/
def literal : String := "app:/terms#literal"

/-- Any resource, identified or blank. -/
def resource : String := "app:/terms#resource"

/-- Any value at all. -/
def value : String := "app:/terms#value"

/-- Does the datatype admit resources only? -/
def isResource (datatype : String) : Bool :=
  datatype == resource || datatype == bnode || datatype == iri

/-- Is the datatype in the namespace of the abstract ones? -/
def isAbstract (datatype : String) : Bool := space.toList.isPrefixOf datatype.toList

end Abstract

/-! ## Keywords -/

namespace Keyword

def context : String := "@context"
def id : String := "@id"
def type : String := "@type"
def value : String := "@value"
def language : String := "@language"
def reverse : String := "@reverse"
def container : String := "@container"

/-- The keywords that may be given another name. -/
def aliasable : List String := [context, id, type, value, language]

end Keyword

/-! ## Guard values and annotations -/

namespace Mode

def convey : String := "convey"
def filter : String := "filter"

end Mode

namespace Task

def create : String := "create"
def relate : String := "relate"
def update : String := "update"
def delete : String := "delete"

end Task

namespace Area

def target : String := "target"
def digest : String := "digest"
def detail : String := "detail"

end Area

/-- The label of the annotation that names a field. -/
def aliasLabel : String := "alias"

end LinkedShapes.Vocabulary
