import LinkedShapes.Proofs.Description.Simulation

/-!
# Numbers are written without loss

A number is written as a JSON number, as a plain text or as an object with its datatype. Which form
it takes depends on its datatype, on the datatype that the shape declares, and on whether JSON
spells the number as the literal does.

* `legible_of_number`: a well-formed number is legible under every shape without fields.
* `values_literal_of_number`: so each of the forms reads as the number, spelling and datatype
  included.
-/

namespace LinkedShapes

open Vocabulary

/-! ## Identifiers of the schema vocabulary -/

namespace Iri

/-- The host of the schema vocabulary. -/
def schemaHost : List Char := "www.w3.org".toList

theorem ofDomain?_schemaHost : Host.ofDomain? schemaHost = some schemaHost := by decide +kernel

/-- An identifier on the host of the schema vocabulary, from its path on. -/
def onSchemaHost (tail : List Char) : Iri :=
  withPath "http".toList (some ⟨[], schemaHost, none⟩) (rootedPath .web) ('/' :: tail)

theorem authority?_schemaHost (tail : List Char) :
    authority? "http".toList (schemaHost ++ '/' :: tail) =
      some (⟨[], schemaHost, none⟩, '/' :: tail) := by
  have hhost : authority? "http".toList (schemaHost ++ '/' :: tail) =
      (Host.ofDomain? schemaHost).bind fun host => some (⟨[], host, none⟩, '/' :: tail) := rfl
  rw [hhost, ofDomain?_schemaHost]
  rfl

/-- The host is read once for all identifiers on it. -/
theorem normalize_onSchemaHost {text : String} {tail : List Char}
    (h : scheme? (clean text) = some ("http".toList, "//".toList ++ (schemaHost ++ '/' :: tail))) :
    normalize text = (onSchemaHost tail).text := by
  have hafter : afterScheme? "http".toList ("//".toList ++ (schemaHost ++ '/' :: tail)) =
      (authority? "http".toList (schemaHost ++ '/' :: tail)).bind fun a =>
        some (withPath "http".toList (some a.1) (rootedPath .web) a.2) := rfl
  have hparse : parse? text = some (onSchemaHost tail) := by
    unfold parse?
    rw [h, Option.bind_eq_bind, Option.bind_some]
    simp only
    rw [hafter, authority?_schemaHost]
    rfl
  rw [normalize, hparse]

end Iri

namespace Description

variable {s : Setting} {src : Source} {shape : Shape} {l : Literal}

/-! ## Numeric datatypes -/

/-- The datatypes of numbers. -/
def numericDatatypes : List String := Xsd.integers ++ [Xsd.decimal, Xsd.float, Xsd.double]

theorem mem_numericDatatypes {datatype : String} :
    datatype ∈ numericDatatypes ↔ Xsd.isNumeric datatype = true := by
  simp [numericDatatypes, Xsd.isNumeric, Xsd.isInteger, Xsd.isDecimal, or_assoc]

/-- Numbers are neither texts nor booleans. -/
theorem ne_of_isNumeric {datatype : String} (h : Xsd.isNumeric datatype = true) :
    datatype ≠ Xsd.string ∧ datatype ≠ Xsd.boolean ∧ datatype ≠ Rdf.langString := by
  have hall : ∀ d ∈ numericDatatypes, d ≠ Xsd.string ∧ d ≠ Xsd.boolean ∧ d ≠ Rdf.langString := by
    decide +kernel
  exact hall datatype (mem_numericDatatypes.2 h)

theorem isConcrete_of_isNumeric {datatype : String} (h : Xsd.isNumeric datatype = true) :
    isConcrete datatype = true := by
  have hall : ∀ d ∈ numericDatatypes, isConcrete d = true := by decide +kernel
  exact hall datatype (mem_numericDatatypes.2 h)

/-- What stands behind the host in the identifier of a datatype. -/
def behindHost (datatype : String) : List Char := datatype.toList.drop "http://www.w3.org/".length

/-- The identifier of a numeric datatype is absolute and in its one written form. -/
theorem resolve_of_isNumeric {base datatype : String} (h : Xsd.isNumeric datatype = true) :
    Iri.resolve base datatype = datatype := by
  have hall : ∀ d ∈ numericDatatypes, d ≠ "" ∧ Iri.isAbsolute d = true ∧
      Iri.scheme? (Iri.clean d) =
        some ("http".toList, "//".toList ++ (Iri.schemaHost ++ '/' :: behindHost d)) ∧
      (Iri.onSchemaHost (behindHost d)).text = d := by
    decide +kernel
  obtain ⟨hne, habs, hscheme, htext⟩ := hall datatype (mem_numericDatatypes.2 h)
  rw [Iri.resolve, if_neg hne, if_pos habs, Iri.normalize_onSchemaHost hscheme, htext]

/-! ## Legible numbers -/

theorem ofInteger?_of_isWellFormed (hd : l.datatype = Xsd.integer)
    (hw : (Term.literal l).isWellFormed = true) :
    (Decimal.ofInteger? l.lexical.toList).isSome = true := by
  unfold Term.isWellFormed at hw
  simp only at hw
  rw [hd, if_neg (by decide), if_pos (by decide)] at hw
  exact hw

/-- No field takes a name under a shape that has none. -/
theorem get?_of_no_fields {k : Keywords} {a : Aliases} (hf : shape.fields = [])
    (ha : Aliases.ofShape shape k = .ok a) (name : String) : a.get? name = none := by
  rw [Aliases.ofShape_of_no_fields hf] at ha
  cases ha
  rfl

/-- A well-formed number is legible under every shape without fields. -/
theorem legible_of_number (hn : Xsd.isNumeric l.datatype = true)
    (hl : l.language.isSome = true → l.datatype = Rdf.langString)
    (hw : (Term.literal l).isWellFormed = true) (hf : shape.fields = []) :
    LegibleLiteral s src shape l := by
  obtain ⟨hstring, hboolean, htagged⟩ := ne_of_isNumeric hn
  exact {
    tagged_iff := ⟨hl, fun he => absurd he htagged⟩
    plain := fun he => absurd he hstring
    boolean := fun he => absurd he hboolean
    integer := fun hd _ n he => by
      rw [(exactNumber?_some he).2]
      exact ofInteger?_of_isWellFormed hd hw
    concrete := fun _ => isConcrete_of_isNumeric hn
    typed := fun _ _ => ⟨resolve_of_isNumeric hn, fun a ha => get?_of_no_fields hf ha _⟩ }

/-- The written form of a well-formed number reads as the number, spelling and datatype included,
under every shape without fields and whatever datatype it declares. -/
theorem values_literal_of_number (hn : Xsd.isNumeric l.datatype = true)
    (hl : l.language.isSome = true → l.datatype = Rdf.langString)
    (hw : (Term.literal l).isWellFormed = true) (hf : shape.fields = []) {k : Keywords}
    (hk : k.check = .ok ()) (focus path : String) (g : Graph) (root : Option String) (L : Labels) :
    values (.of focus k) shape path (Source.literal ⟨g, k, root⟩ shape l) L =
      .ok ([(.literal l, .empty)], L) := by
  rw [values_of_not_array fun ws => literal_ne_array]
  exact LegibleLiteral.value (legible_of_number hn hl hw hf) hk rfl
    (Aliases.ofShape_of_no_fields hf)

/-- An integer beyond 64 bits, where decimals are declared and the keyword for types has another
name. -/
theorem values_literal_of_number_beyond :
    let l : Literal := ⟨"18446744073709551616", Xsd.integer, none⟩
    let k : Keywords := .ofList [(Keyword.type, "kind")]
    Xsd.isNumeric l.datatype = true ∧ (l.language.isSome = true → l.datatype = Rdf.langString) ∧
      (Term.literal l).isWellFormed = true ∧ (Shape.datatype Xsd.decimal).fields = [] ∧
      k.check = .ok () ∧
      values (.of "urn:x:f" k) (.datatype Xsd.decimal) ""
          (Source.literal ⟨.empty, k, none⟩ (.datatype Xsd.decimal) l) default =
        .ok ([(.literal l, .empty)], default) := by
  intro l k
  have hn : Xsd.isNumeric l.datatype = true := by decide +kernel
  have hl : l.language.isSome = true → l.datatype = Rdf.langString := nofun
  have hw : (Term.literal l).isWellFormed = true := by decide +kernel
  have hk : k.check = .ok () := by decide +kernel
  exact ⟨hn, hl, hw, rfl, hk, values_literal_of_number hn hl hw rfl hk _ _ _ _ _⟩

end Description

end LinkedShapes
