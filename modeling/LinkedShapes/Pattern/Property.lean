import LinkedShapes.Pattern.CharSet
import LinkedShapes.Text.Character
import LinkedShapes.Unicode.Cased
import LinkedShapes.Unicode.Category
import LinkedShapes.Unicode.Printable
import LinkedShapes.Unicode.Property
import LinkedShapes.Unicode.ScriptName

/-!
# Properties of characters

A pattern names a property of characters in one of two ways: by the name of a general category,
of a script or of a property that holds or not, or by the name of a property that has many
values together with one of these. Names are compared loosely: case, spaces, underscores,
hyphens and a leading `is` do not count.
-/

namespace LinkedShapes.CharSet

open Unicode Text

/-! ## General categories -/

/-- The categories, each by its code and its names. -/
def plainCategories : List (List String × CodePoints) := [
  (["lu", "uppercaseletter"], uppercaseLetter),
  (["ll", "lowercaseletter"], lowercaseLetter),
  (["lt", "titlecaseletter"], titlecaseLetter),
  (["lm", "modifierletter"], modifierLetter),
  (["lo", "otherletter"], otherLetter),
  (["mn", "nonspacingmark"], nonspacingMark),
  (["mc", "spacingmark"], spacingMark),
  (["me", "enclosingmark"], enclosingMark),
  (["nd", "decimalnumber", "digit"], decimalNumber),
  (["nl", "letternumber"], letterNumber),
  (["no", "othernumber"], otherNumber),
  (["pc", "connectorpunctuation"], connectorPunctuation),
  (["pd", "dashpunctuation"], dashPunctuation),
  (["ps", "openpunctuation"], openPunctuation),
  (["pe", "closepunctuation"], closePunctuation),
  (["pi", "initialpunctuation"], initialPunctuation),
  (["pf", "finalpunctuation"], finalPunctuation),
  (["po", "otherpunctuation"], otherPunctuation),
  (["sm", "mathsymbol"], mathSymbol),
  (["sc", "currencysymbol"], currencySymbol),
  (["sk", "modifiersymbol"], modifierSymbol),
  (["so", "othersymbol"], otherSymbol),
  (["zs", "spaceseparator"], spaceSeparator),
  (["zl", "lineseparator"], lineSeparator),
  (["zp", "paragraphseparator"], paragraphSeparator),
  (["cc", "control", "cntrl"], control),
  (["cf", "format"], format),
  (["co", "privateuse"], privateUse),
  (["cn", "unassigned"], unassigned)]

/-- The union of tables. -/
def ofTables (tables : List CodePoints) : CharSet := unions (tables.map points)

/-- Letters with case. -/
def casedLetter : CharSet := ofTables [uppercaseLetter, lowercaseLetter, titlecaseLetter]

/-- Letters. -/
def letter : CharSet := casedLetter.union (ofTables [modifierLetter, otherLetter])

/-- The categories that group others. -/
def groupedCategories : List (List String × CharSet) := [
  (["lc", "casedletter"], casedLetter),
  (["l", "letter"], letter),
  (["m", "mark", "combiningmark"], ofTables [nonspacingMark, spacingMark, enclosingMark]),
  (["n", "number"], points numeric),
  (["p", "punctuation", "punct"],
    ofTables [connectorPunctuation, dashPunctuation, openPunctuation, closePunctuation,
      initialPunctuation, finalPunctuation, otherPunctuation]),
  (["s", "symbol"], ofTables [mathSymbol, currencySymbol, modifierSymbol, otherSymbol]),
  (["z", "separator"], ofTables [spaceSeparator, lineSeparator, paragraphSeparator]),
  (["c", "other"], ofTables [control, format, privateUse, unassigned]),
  (["any"], all),
  (["assigned"], complement (points unassigned)),
  (["ascii"], range '\x00' '\x7f')]

/-- The category of a name. -/
def category? (name : String) : Option CharSet :=
  (plainCategories.find? (·.1.contains name)).map (points ·.2) <|>
    (groupedCategories.find? (·.1.contains name)).map (·.2)

/-! ## Scripts -/

/-- The characters of a script. -/
def script? (name : String) : Option CharSet :=
  (scripts.find? (·.names.contains name)).map (points ·.points)

/-- The characters that are used in a script, shared ones included. -/
def scriptExtension? (name : String) : Option CharSet :=
  (scripts.find? (·.names.contains name)).map fun s =>
    match s.shared with
    | some shared => (points s.points).symmetricDifference (points shared)
    | none => points s.points

/-! ## Properties that hold or not -/

/-- Lower-case characters. -/
def lowercase : CharSet := ofTables [lowercaseLetter, otherLowercase]

/-- Upper-case characters. -/
def uppercase : CharSet := ofTables [uppercaseLetter, otherUppercase]

/-- Characters that lower-casing changes. -/
def changesWhenLowercased : CharSet :=
  uppercase.symmetricDifference (points lowercasedBesideUppercase)

/-- Characters that upper-casing changes. -/
def changesWhenUppercased : CharSet :=
  lowercase.symmetricDifference (points uppercasedBesideLowercase)

/-- Characters that begin identifiers. -/
def idStart : CharSet := letter.union (ofTables [letterNumber, otherIdStart])

/-- Characters of identifiers. -/
def idContinue : CharSet :=
  idStart.union (ofTables
    [nonspacingMark, spacingMark, decimalNumber, connectorPunctuation, otherIdContinue])

/-- The properties that hold or not, each by its short name and its long one. -/
def binaryProperties : List (List String × CharSet) := [
  (["ahex", "asciihexdigit"], unions [range '0' '9', range 'A' 'F', range 'a' 'f']),
  (["alpha", "alphabetic"], points alphabetic),
  (["bidic", "bidicontrol"], points bidiControl),
  (["bidim", "bidimirrored"], points bidiMirrored),
  (["ci", "caseignorable"], points caseIgnorable),
  (["cased"], points cased),
  (["cwcf", "changeswhencasefolded"],
    changesWhenLowercased.symmetricDifference (points casefoldedBesideLowercased)),
  (["cwcm", "changeswhencasemapped"], changesWhenLowercased.union changesWhenUppercased),
  (["cwl", "changeswhenlowercased"], changesWhenLowercased),
  (["cwt", "changeswhentitlecased"],
    changesWhenUppercased.symmetricDifference (points titlecasedBesideUppercased)),
  (["cwu", "changeswhenuppercased"], changesWhenUppercased),
  (["dash"], points dash),
  (["di", "defaultignorablecodepoint"], points defaultIgnorableCodePoint),
  (["dep", "deprecated"], points deprecated),
  (["dia", "diacritic"], points diacritic),
  (["emoji"], points emoji),
  (["ecomp", "emojicomponent"], points emojiComponent),
  (["emod", "emojimodifier"], points emojiModifier),
  (["ebase", "emojimodifierbase"], points emojiModifierBase),
  (["epres", "emojipresentation"], points emojiPresentation),
  (["extpict", "extendedpictographic"], points extendedPictographic),
  (["ext", "extender"], points extender),
  (["grbase", "graphemebase"],
    complement (ofTables [control, format, privateUse, unassigned, lineSeparator,
      paragraphSeparator, graphemeExtend])),
  (["grext", "graphemeextend"], points graphemeExtend),
  (["hex", "hexdigit"], points hexDigit),
  (["idsb", "idsbinaryoperator"], points idsBinaryOperator),
  (["idst", "idstrinaryoperator"], points idsTrinaryOperator),
  (["idc", "idcontinue"], idContinue),
  (["ids", "idstart"], idStart),
  (["ideo", "ideographic"], points ideographic),
  (["joinc", "joincontrol"], points joinControl),
  (["loe", "logicalorderexception"], points logicalOrderException),
  (["lower", "lowercase"], lowercase),
  (["math"], points math),
  (["nchar", "noncharactercodepoint"], points noncharacterCodePoint),
  (["patsyn", "patternsyntax"], points patternSyntax),
  (["patws", "patternwhitespace"], points patternWhiteSpace),
  (["qmark", "quotationmark"], points quotationMark),
  (["radical"], points radical),
  (["ri", "regionalindicator"], points regionalIndicator),
  (["sterm", "sentenceterminal"], points sentenceTerminal),
  (["sd", "softdotted"], points softDotted),
  (["term", "terminalpunctuation"], points terminalPunctuation),
  (["uideo", "unifiedideograph"], points unifiedIdeograph),
  (["upper", "uppercase"], uppercase),
  (["vs", "variationselector"], points variationSelector),
  (["space", "whitespace", "wspace"], points whiteSpace),
  (["xidc", "xidcontinue"], idContinue.difference (points xidContinueBesideIdContinue)),
  (["xids", "xidstart"], idStart.difference (points xidStartBesideIdStart))]

/-- The characters with a property that holds or not. -/
def binaryProperty? (name : String) : Option CharSet :=
  (binaryProperties.find? (·.1.contains name)).map (·.2)

/-! ## Names -/

/-- The form in which names are compared. -/
def looseName (name : List Char) : String :=
  let plain (cs : List Char) :=
    (cs.filter fun c => c.toNat < 0x80 && !" _-".contains c).map asciiLower
  match name with
  | i :: s :: rest =>
    if asciiLower i = 'i' ∧ asciiLower s = 's' then
      if plain rest = ['c'] then "isc" else String.ofList (plain rest)
    else String.ofList (plain name)
  | _ => String.ofList (plain name)

/-- The characters that a single name stands for. -/
def ofPropertyName? (name : List Char) : Option CharSet :=
  let name := looseName name
  binaryProperty? name <|> category? name <|> script? name

/-- The characters for which a property has a value. -/
def ofPropertyValue? (property value : List Char) : Option CharSet :=
  let value := looseName value
  match looseName property with
  | "gc" | "generalcategory" => category? value
  | "sc" | "script" => script? value
  | "scx" | "scriptextensions" => scriptExtension? value
  | _ => none

end LinkedShapes.CharSet
