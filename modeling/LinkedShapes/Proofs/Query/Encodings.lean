import LinkedShapes.Proofs.Query.Filtering
import LinkedShapes.Proofs.Query.Form
import LinkedShapes.Proofs.Text.Character

/-!
# Three ways to write a query

A query may be written as a JSON object, plain or percent-encoded, or as a form. What is
percent-encoded is read as the very object. A form is read as the object of its pairs, but numbers
stand where the object has their digits; this makes no difference, as only the part of the results
that is wanted is told by numbers.

What the blank nodes of a query are labelled with makes no difference either: the comparison is made
for every supply of labels.

* `membersOf_encoded`, `membersOf_form`: the members that a query stands for.
* `ofMembers_congr`: members that mean the same make the same query.
* `encodings_agree`: all ways lead to the same query or the same fault.
-/

namespace LinkedShapes.Query

open Text Description

variable {scope : Scope} {text encoded name value : String} {pairs : List (String × String)}
variable {members others : List (String × Json)} {focus : String} {base : Shape} {k : Keywords}
variable {labels : Labels}

/-! ## What queries stand for -/

/-- The members of a query decide what it asks for. -/
theorem read_of_members (hne : text ≠ "") (h : membersOf text = .ok members) :
    read scope text labels = ofMembers scope members labels := by
  rw [read_eq hne, h]
  exact pure_bind members (ofMembers scope · labels)

theorem membersOf_object (h : text.toList.head? = some '\x7b') :
    membersOf text = jsonMembers text := by
  have hne : text ≠ "" := by
    rintro rfl
    cases h
  have hstart : ¬ startsEncoded text.toList = true := fun hs => by
    obtain ⟨low, rest, heq, -⟩ := of_startsEncoded hs
    rw [heq] at h
    cases h
  rw [membersOf, if_neg hne, if_neg hstart, if_pos h]

/-- An encoded brace is told from its first characters. -/
theorem startsEncoded_of_encodes {cs encoded : List Char}
    (h : Percent.Encodes ('\x7b' :: cs) encoded) (hopen : encoded.head? ≠ some '\x7b') :
    startsEncoded encoded = true := by
  cases h with
  | kept hc h => exact absurd rfl hopen
  | written hc h =>
    have hbytes : String.utf8EncodeChar '\x7b' = [0x7B] := rfl
    rw [hbytes] at hc
    cases hc with
    | @cons _ _ high low _ hhigh hlow hrest =>
      have hseven : high = '7' := by
        rcases eq_of_hexValue? hhigh with ⟨-, rfl⟩ | ⟨hge, -⟩
        · rfl
        · exact absurd hge (by decide)
      have heleven : low = 'b' ∨ low = 'B' := by
        rcases eq_of_hexValue? hlow with ⟨hlt, -⟩ | ⟨-, h⟩
        · exact absurd hlt (by decide)
        · exact h
      subst hseven
      rcases heleven with rfl | rfl <;> rfl

/-- An object stands for its members. -/
theorem membersOf_of_parse? (h : text.toList.head? = some '\x7b')
    (htext : Json.parse? text = some (.object members)) :
    text ≠ "" ∧ membersOf text = .ok members := by
  refine ⟨?_, ?_⟩
  · rintro rfl
    cases h
  · rw [membersOf_object h, jsonMembers, htext]

/-- What is percent-encoded stands for the same as the object. -/
theorem membersOf_encoded (h : text.toList.head? = some '\x7b')
    (hencodes : Percent.Encodes text.toList encoded.toList)
    (hopen : encoded.toList.head? ≠ some '\x7b') :
    encoded ≠ "" ∧ membersOf encoded = membersOf text := by
  obtain ⟨cs, hcs⟩ := List.head?_eq_some_iff.1 h
  have hstart : startsEncoded encoded.toList = true :=
    startsEncoded_of_encodes (hcs ▸ hencodes) hopen
  have hne : encoded ≠ "" := by
    rintro rfl
    cases hstart
  refine ⟨hne, ?_⟩
  rw [membersOf_object h, membersOf, if_neg hne, if_pos hstart, Percent.decode_of_encodes hencodes,
    Utf8.decode_encode_ok]
  dsimp only
  rw [String.ofList_toList]

/-- A form begins with its first key. -/
theorem writeForm_eq (pair : String × String) (pairs : List (String × String)) :
    ∃ rest, (writeForm (pair :: pairs)).toList = writeText pair.1 ++ '=' :: rest := by
  rw [writeForm, String.toList_ofList, List.map_cons]
  cases pairs with
  | nil =>
    rw [List.map_nil, List.intercalate_singleton]
    exact ⟨_, rfl⟩
  | cons next pairs =>
    rw [List.map_cons, List.intercalate_cons_cons, writePair, List.append_assoc, List.append_assoc,
      List.cons_append]
    exact ⟨_, rfl⟩

/-- A form stands for its pairs. -/
theorem membersOf_form (hne : pairs ≠ []) (hnodup : (pairs.map (·.1)).Nodup)
    (hopen : ∀ pair ∈ pairs, pair.1.toList.head? ≠ some '\x7b') :
    writeForm pairs ≠ "" ∧ membersOf (writeForm pairs) =
      .ok (pairs.map fun (key, value) => (key, formValue key [value])) := by
  obtain ⟨rest, hrest⟩ : ∃ rest, (writeForm pairs).toList =
      writeText (pairs.head hne).1 ++ '=' :: rest := by
    cases pairs with
    | nil => exact absurd rfl hne
    | cons pair pairs => exact writeForm_eq pair pairs
  obtain ⟨hstart, hhead⟩ := starts_writeText (hopen _ (List.head_mem hne)) rest
  rw [← hrest] at hstart hhead
  have hnonempty : writeForm pairs ≠ "" := by
    intro he
    rw [he] at hrest
    simp at hrest
  refine ⟨hnonempty, ?_⟩
  rw [membersOf, if_neg hnonempty, if_neg (by rw [hstart]; exact Bool.false_ne_true), if_neg hhead,
    ofForm_write hne hnodup]

/-! ## Members that mean the same -/

/-- Members of one name that mean the same: where a part of the results is chosen, the same number
may be told in different ways. -/
def SameMeaning (member other : String × Json) : Prop :=
  member.1 = other.1 ∧ (member.2 = other.2 ∨
    (member.1 = offsetKey ∨ member.1 = limitKey) ∧
      natural (some member.2) = natural (some other.2))

theorem lookup_congr (h : List.Forall₂ SameMeaning members others) (hoffset : name ≠ offsetKey)
    (hlimit : name ≠ limitKey) : Json.lookup name members = Json.lookup name others := by
  induction h with
  | nil => rfl
  | @cons member other members others hsame _ ih =>
    obtain ⟨key, json⟩ := member
    obtain ⟨_, json'⟩ := other
    obtain ⟨rfl, hvalue⟩ := hsame
    rw [Json.lookup, Json.lookup, ih]
    split
    · next heq =>
      rcases hvalue with hvalue | ⟨hkey, -⟩
      · exact congrArg some hvalue
      · exact absurd hkey (heq ▸ not_or.2 ⟨hoffset, hlimit⟩)
    · rfl

theorem natural_congr (h : List.Forall₂ SameMeaning members others) (name : String) :
    natural (Json.lookup name members) = natural (Json.lookup name others) := by
  induction h with
  | nil => rfl
  | @cons member other members others hsame _ ih =>
    obtain ⟨key, json⟩ := member
    obtain ⟨_, json'⟩ := other
    obtain ⟨rfl, hvalue⟩ := hsame
    rw [Json.lookup, Json.lookup]
    split
    · rcases hvalue with hvalue | ⟨-, hvalue⟩
      · exact congrArg (fun json => natural (some json)) hvalue
      · exact hvalue
    · exact ih

theorem filters_congr (h : List.Forall₂ SameMeaning members others) :
    filters scope members = filters scope others := by
  induction h with
  | nil => rfl
  | @cons member other members others hsame _ ih =>
    obtain ⟨key, json⟩ := member
    obtain ⟨_, json'⟩ := other
    obtain ⟨rfl, hvalue⟩ := hsame
    rw [filters, filters, ih]
    rcases hvalue with hvalue | ⟨hkey, -⟩
    · obtain rfl : json = json' := hvalue
      rfl
    · -- No filter is read from the keys whose numbers differ.
      have hreserved : isReservedKey key = true := by
        rcases hkey with hkey | hkey <;> rw [show key = _ from hkey] <;> decide
      rw [if_pos (by rw [hreserved, Bool.true_or]), if_pos (by rw [hreserved, Bool.true_or])]

/-- Members that mean the same make the same query. -/
theorem ofMembers_congr (h : List.Forall₂ SameMeaning members others) :
    ofMembers scope members labels = ofMembers scope others labels := by
  have hpath : ∀ key, key ≠ offsetKey → key ≠ limitKey →
      pathUnder scope members key = pathUnder scope others key := fun key ho hl => by
    rw [pathUnder, lookup_congr h ho hl, pathUnder]
  have hcriteria : criteria scope members = criteria scope others := by
    rw [criteria, lookup_congr h (by decide) (by decide), criteria]
  unfold ofMembers
  rw [filters_congr h, hpath termsKey (by decide) (by decide),
    hpath statsKey (by decide) (by decide), hcriteria, natural_congr h, natural_congr h]

/-! ## Forms and objects -/

/-- A text that spells a number has no white space. -/
theorem trim_of_unsigned? {text : List Char} {n : Nat} (h : unsigned? text = some n) :
    trim text = text := by
  have hdigits : ∀ digits : List Char,
      (if digits.isEmpty ∨ ¬ digits.all isAsciiDigit ∨
        Json.Number.maxUnsigned < digitsValue digits then none
      else some (digitsValue digits)) = some n → ∀ c ∈ digits, isWhiteSpace c = false := by
    intro digits h c hc
    split at h
    · cases h
    · next hfine =>
      rw [not_or, not_or, not_not] at hfine
      exact not_isWhiteSpace_of_isAsciiDigit (List.all_eq_true.1 hfine.2.1 c hc)
  refine trim_eq_self ?_
  unfold unsigned? at h
  dsimp only at h
  split at h
  · exact List.forall_mem_cons.2 ⟨rfl, hdigits _ h⟩
  · exact hdigits _ h

theorem natural_of_unsigned? {n : Nat} (h : unsigned? value.toList = some n) :
    natural (some (.number (.integer n))) = natural (some (.string value)) := by
  have hnumber : natural (some (.number (.integer n))) = .ok n := by
    rw [natural, if_pos (Int.natCast_nonneg n), Int.toNat_natCast]
  have hstring : natural (some (.string value)) = .ok n := by
    rw [natural, trim_of_unsigned? h, h]
  rw [hnumber, hstring]

/-- A form means what the object of its pairs means. -/
theorem sameMeaning_form (h : ∀ pair ∈ pairs, ',' ∉ pair.2.toList) :
    List.Forall₂ SameMeaning (pairs.map fun (key, value) => (key, formValue key [value]))
      (Json.stringMembers pairs) := by
  induction pairs with
  | nil => exact .nil
  | cons pair pairs ih =>
    obtain ⟨key, value⟩ := pair
    obtain ⟨hvalue, hpairs⟩ := List.forall_mem_cons.1 h
    refine .cons ⟨rfl, ?_⟩ (ih hpairs)
    dsimp only at hvalue ⊢
    rcases formValue_singleton hvalue with heq | ⟨hkey, n, hn, heq⟩
    · exact Or.inl heq
    · rw [heq]
      exact Or.inr ⟨hkey, natural_of_unsigned? hn⟩

/-- All ways to write a query lead to the same query, or to the same fault, whatever supply the
labels of blank nodes are drawn from. -/
theorem encodings_agree (focus : String) (base : Shape) (k : Keywords) (labels : Labels) :
    (∀ text encoded : String, text.toList.head? = some '\x7b' →
      Percent.Encodes text.toList encoded.toList → encoded.toList.head? ≠ some '\x7b' →
        parse focus encoded base k labels = parse focus text base k labels) ∧
    ∀ pairs : List (String × String), pairs ≠ [] → (pairs.map (·.1)).Nodup →
      (∀ pair ∈ pairs, pair.1.toList.head? ≠ some '\x7b' ∧ ',' ∉ pair.2.toList) →
      let object := Json.object (Json.stringMembers pairs)
      (object.text.toList.head? = some '\x7b' ∧ Json.parse? object.text = some object) ∧
      ∀ text, text.toList.head? = some '\x7b' → Json.parse? text = some object →
        parse focus (writeForm pairs) base k labels = parse focus text base k labels := by
  constructor
  · intro text encoded hbrace hencodes hopen
    obtain ⟨hne, hmembers⟩ := membersOf_encoded hbrace hencodes hopen
    have hne' : text ≠ "" := by
      rintro rfl
      cases hbrace
    unfold parse
    rw [read_eq hne, read_eq hne', hmembers]
  · intro pairs hne hnodup hpairs object
    have hopen : ∀ pair ∈ pairs, pair.1.toList.head? ≠ some '\x7b' := fun p hp => (hpairs p hp).1
    have hcommas : ∀ pair ∈ pairs, ',' ∉ pair.2.toList := fun p hp => (hpairs p hp).2
    refine ⟨⟨Json.head?_text_object _, Json.parse?_text hnodup⟩, fun text hbrace htext => ?_⟩
    obtain ⟨hform, hformMembers⟩ := membersOf_form hne hnodup hopen
    obtain ⟨hne', hmembers⟩ := membersOf_of_parse? hbrace htext
    unfold parse
    rw [read_of_members hform hformMembers, read_of_members hne' hmembers]
    exact bind_congr fun _ => ofMembers_congr (sameMeaning_form hcommas)

/-- A percent sign, a space, a plus sign and an escape in one query. -/
theorem encodings_agree_discount :
    let base : Shape := .field ⟨"urn:x:p", false⟩ none (.and [])
    let plain := "\x7b\"~p\":\"50% off\"\x7d"
    let encoded := "%7B\"~p\":\"50%25%20off\"\x7d"
    let pairs := [("~p", "50% off"), (".offset", "+5")]
    let object := "\x7b\"~p\": \"50\\u0025 off\", \".offset\": \"+5\"\x7d"
    let filtered := base.filtered (.field ⟨"urn:x:p", false⟩ none (.like "50% off" true))
    parse "urn:x:f" encoded base .none default = .ok (.all filtered) ∧
      parse "urn:x:f" encoded base .none default = parse "urn:x:f" plain base .none default ∧
      writeForm pairs = "%7Ep=50%25+off&.offset=%2B5" ∧
      parse "urn:x:f" (writeForm pairs) base .none default = .ok ⟨filtered, .items [], 5, 0⟩ ∧
      parse "urn:x:f" (writeForm pairs) base .none default =
        parse "urn:x:f" object base .none default := by
  intro base plain encoded pairs object filtered
  obtain ⟨hencoded, hform⟩ := encodings_agree "urn:x:f" base .none default
  have hwritten : encoded.toList =
      Percent.encode (fun c => c == '\x7b' || c == '%' || c == ' ') plain.toList := by decide
  have hencodes : Percent.Encodes plain.toList encoded.toList :=
    hwritten ▸ Percent.encodes_encode rfl _
  have hplain := hencoded plain encoded (by decide) hencodes (by decide)
  obtain ⟨-, hobject⟩ := hform pairs (by decide) (by decide) (by decide)
  have hpairs := hobject object (by decide) (by decide +kernel)
  exact ⟨by decide +kernel, hplain, by decide +kernel, by decide +kernel, hpairs⟩

end LinkedShapes.Query
