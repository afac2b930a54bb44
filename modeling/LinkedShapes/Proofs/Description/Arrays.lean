import LinkedShapes.Proofs.Description.ItemVerdicts

/-!
# Arrays stand for sets

The order of the items of an array means nothing, neither to a reader nor, as a rule, to
validation.

* `orderless_of_spelling`: nothing that validation meets depends on the order of items if no
  constraint looks at labels and no object spells its types twice.
* `items_unordered`: descriptions that differ in the order of items make isomorphic graphs and come
  to the same outcome.
* `items_ordered`: the order shows where types are spelled twice.
-/

namespace LinkedShapes.Description

open Vocabulary

variable {s : Setting} {V W shape : Shape} {a : Aliases} {x y : Json} {name : String}
variable {nested : List Json} {members : List (String × Json)} {focus : String} {k : Keywords}
variable {J J' : Json}

/-! ## Where the order does not matter -/

/-- Not two of the members stand for types and have arrays or objects for them. -/
def TypesSpelledOnce (s : Setting) (members : List (String × Json)) : Prop :=
  members.Pairwise fun m n => s.keywords.keyword? m.1 = some Keyword.type →
    s.keywords.keyword? n.1 = some Keyword.type → isCompound m.2 = false ∨ isCompound n.2 = false

instance : Decidable (TypesSpelledOnce s members) :=
  inferInstanceAs (Decidable (List.Pairwise _ members))

theorem typesOnce_of_spelling (h : ∀ members, x = .object members → TypesSpelledOnce s members) :
    TypesOnce s V x := by
  intro members a hx _
  refine List.pairwise_filterMap.2 ((h members hx).imp fun {m n} hmn p hp q hq hpt hqt => ?_)
  obtain ⟨keyword, hk, rfl⟩ := Option.map_eq_some_iff.1 hp
  obtain ⟨keyword', hk', rfl⟩ := Option.map_eq_some_iff.1 hq
  obtain rfl : keyword = Keyword.type := hpt
  obtain rfl : keyword' = Keyword.type := hqt
  exact hmn (keyword?_of_objectKeyword? hk) (keyword?_of_objectKeyword? hk')

theorem innerObjects_subset : x.innerObjects ⊆ x.objects := by
  cases x with
  | object members =>
    rw [Json.objects]
    exact List.subset_cons_self _ _
  | _ => exact List.nil_subset _

theorem objects_of_memberValues (h : memberValues name x = .ok nested) (hy : y ∈ nested) :
    y.objects ⊆ x.innerObjects := by
  obtain ⟨members, json, rfl, hmem, hlisted⟩ := mem_of_memberValues h hy
  have hjson : y.objects ⊆ json.objects := by
    cases json with
    | array xs =>
      intro inner hi
      rw [Json.objects]
      exact Json.mem_itemObjects.2 ⟨y, hlisted, hi⟩
    | null => exact absurd hlisted List.not_mem_nil
    | _ =>
      rw [List.mem_singleton.1 hlisted]
      exact List.Subset.refl _
  exact fun inner hi => Json.mem_memberObjects.2 ⟨_, hmem, hjson hi⟩

theorem Meets.within_subset (h : Meets s V x W y) : W.within ⊆ V.within := by
  induction h with
  | value _ hpart _ _ _ =>
    exact List.Subset.trans (List.subset_cons_self _ _)
      (Shape.within_subset_of_mem (Shape.parts_subset_within hpart))
  | inside _ _ ih ih' => exact List.Subset.trans ih' ih

theorem Meets.objects_subset (h : Meets s V x W y) : y.objects ⊆ x.innerObjects := by
  induction h with
  | value _ _ _ hvalues hy => exact objects_of_memberValues hvalues hy
  | inside _ _ ih ih' =>
    exact List.Subset.trans ih' (List.Subset.trans innerObjects_subset ih)

/-- The order of items does not matter if no constraint looks at labels and no object spells its
types twice. -/
theorem orderless_of_spelling (hlabels : V.within.any Shape.looksAtLabels = false)
    (htypes : ∀ members ∈ x.innerObjects, TypesSpelledOnce s members) (h : Meets s V x W y) :
    Orderless s W y where
  labels _ := by
    rw [List.any_eq_false] at hlabels ⊢
    exact fun part hp => hlabels part (h.within_subset (Shape.parts_subset_within hp))
  types := typesOnce_of_spelling fun members hy => htypes members (h.objects_subset (by
    rw [hy, Json.objects]
    exact List.mem_cons_self))

/-! ## The order of items -/

/-- Descriptions that differ in the order of items can be read alike and make isomorphic graphs,
whatever fresh labels are drawn for either. They come to the same outcome, where at each value that
is met below the focus, labels that are drawn are not looked at and types are not told by several
arrays. -/
theorem items_unordered {L M : Labels} (h : Permuted (.of focus k) shape.drive J J')
    (hL : L.FreshFor J) (hM : M.FreshFor J') :
    ((∃ g, decode focus shape J k L = .ok g) ↔ ∃ g', decode focus shape J' k M = .ok g') ∧
      (∀ g g', decode focus shape J k L = .ok g → decode focus shape J' k M = .ok g' →
        g.isIsomorphic g' = true) ∧
      ((∀ V x, Meets (.of focus k) shape.drive J V x → Orderless (.of focus k) V x) →
        outcome (validate focus shape J k L) = outcome (validate focus shape J' k M)) :=
  ⟨(decode_permuted h hL hM).1, (decode_permuted h hL hM).2, validate_permuted h hL hM⟩

/-- The values that resources of some kind have. -/
def sized : Shape :=
  .and [.field ⟨"urn:x:q", false⟩ none (.maxCount 2), .maxCount 2, .datatype Abstract.resource]

/-- Resources with some values, and texts in some languages. -/
def sizedAndNamed : Shape :=
  .and [.field ⟨"urn:x:p", false⟩ none sized,
    .field ⟨"urn:x:r", false⟩ none (.datatype Rdf.langString)]

/-- A description with arrays for fields at two levels and for a language. -/
def twoResources : Json :=
  .object [("p", .array [.object [("q", .array [.bool true, .bool false])],
      .object [("@id", .string "urn:x:a")]]),
    ("r", .object [("de", .string "Wort"), ("en", .array [.string "saying", .string "word"])])]

/-- The same description with the items of the arrays in another order. -/
def twoResourcesSwapped : Json :=
  .object [("p", .array [.object [("@id", .string "urn:x:a")],
      .object [("q", .array [.bool false, .bool true])]]),
    ("r", .object [("de", .string "Wort"), ("en", .array [.string "word", .string "saying"])])]

theorem permuted_twoResources :
    Permuted (.of "urn:x:f" .none) sizedAndNamed.drive twoResources twoResourcesSwapped := by
  have hroot : Aliases.ofShape sizedAndNamed.drive .none = .ok
      ⟨[("p", ⟨⟨"urn:x:p", false⟩, none, sized⟩),
        ("r", ⟨⟨"urn:x:r", false⟩, none, .datatype Rdf.langString⟩)]⟩ := by decide +kernel
  have hsized : Aliases.ofShape sized .none = .ok
      ⟨[("q", ⟨⟨"urn:x:q", false⟩, none, .maxCount 2⟩)]⟩ := by decide +kernel
  have htexts : Aliases.ofShape (.datatype Rdf.langString) .none = .ok ⟨[]⟩ := rfl
  have hlanguage : objectKeyword? (.of "urn:x:f" .none) ⟨[]⟩ "en" = none := by decide +kernel
  refine .object hroot (.fields rfl (.swap _ _ _) (.cons .same (.cons ?_ .nil))
    (.field rfl ?_ .nil))
  · exact .object hsized (.fields rfl (.swap _ _ _) itemsPermuted_self .nil)
  · exact .object htexts (.same (.other rfl hlanguage
      (.items trivial (.swap _ _ _) (.cons .same (.cons .same .nil))) .nil))

theorem items_unordered_twoResources :
    let L := Labels.beyondJson twoResources
    let M := Labels.beyondJson twoResourcesSwapped
    ∃ g g', decode "urn:x:f" sizedAndNamed twoResources .none L = .ok g ∧
      decode "urn:x:f" sizedAndNamed twoResourcesSwapped .none M = .ok g' ∧ g.size = 7 ∧
        g.isIsomorphic g' = true ∧
      outcome (validate "urn:x:f" sizedAndNamed twoResources .none L) = some true ∧
      outcome (validate "urn:x:f" sizedAndNamed twoResourcesSwapped .none M) = some true := by
  intro L M
  obtain ⟨hread, hiso, hvalid⟩ := items_unordered permuted_twoResources
    (Labels.freshFor_beyondJson twoResources) (Labels.freshFor_beyondJson twoResourcesSwapped)
  have hsize : (decode "urn:x:f" sizedAndNamed twoResources .none L).toOption.map Graph.size =
      some 7 := by decide +kernel
  have htrue : outcome (validate "urn:x:f" sizedAndNamed twoResources .none L) = some true := by
    decide +kernel
  have htypes : ∀ members ∈ twoResources.innerObjects,
      TypesSpelledOnce (.of "urn:x:f" .none) members := by decide +kernel
  have hlabels : sizedAndNamed.drive.within.any Shape.looksAtLabels = false := by decide +kernel
  obtain ⟨g, hg, hseven⟩ := Option.map_eq_some_iff.1 hsize
  have hg := ok_of_toOption hg
  obtain ⟨g', hg'⟩ := hread.1 ⟨g, hg⟩
  have hsame := hvalid fun _ _ => orderless_of_spelling hlabels htypes
  exact ⟨g, g', hg, hg', hseven, hiso g g' hg hg', htrue, hsame.symm.trans htrue⟩

/-! ## Where the order shows -/

/-- Two fields on one edge: to resources with types, and to others. -/
def typedOrNot : Shape :=
  .and [.field ⟨"urn:x:p", false⟩ none (.field ⟨Rdf.type, false⟩ none (.and [])),
    .field ⟨"urn:x:p", false⟩ none (.field ⟨"urn:x:q", false⟩ none (.and []))]

/-- Types by the name of a field, which stands for a keyword where there is no such field, and by
the keyword itself. -/
def typesTwice (types : List Json) : Json :=
  .object [("p", .object [("type", .array types),
    ("@type", .array [.string "urn:x:a", .string "urn:x:b"])])]

theorem permuted_typesTwice {types types' : List Json} (h : types.Perm types') :
    Permuted (.of "urn:x:f" ⟨[("@type", "type")]⟩) typedOrNot.drive (typesTwice types)
      (typesTwice types') := by
  have hroot : Aliases.ofShape typedOrNot.drive ⟨[("@type", "type")]⟩ = .ok
      ⟨[("p", ⟨⟨"urn:x:p", false⟩, none, .and [.field ⟨Rdf.type, false⟩ none
        (.datatype Abstract.resource), .datatype Abstract.resource,
        .field ⟨"urn:x:q", false⟩ none (.and [])]⟩)]⟩ := by decide +kernel
  have htyped : Aliases.ofShape (.and [.field ⟨Rdf.type, false⟩ none (.datatype Abstract.resource),
      .datatype Abstract.resource, .field ⟨"urn:x:q", false⟩ none (.and [])])
        ⟨[("@type", "type")]⟩ = .ok
      ⟨[("type", ⟨⟨Rdf.type, false⟩, none, .datatype Abstract.resource⟩),
        ("q", ⟨⟨"urn:x:q", false⟩, none, .and []⟩)]⟩ := by decide +kernel
  exact .object hroot
    (.field rfl (.object htyped (.fields rfl h itemsPermuted_self (.same .nil))) .nil)

/-- The order shows where types are told by two arrays, which have to be the same for a level
without a field for them: there, both of them are values of a keyword, though to a reader one is the
array of a field. -/
theorem items_ordered :
    ∃ J J', Permuted (.of "urn:x:f" ⟨[("@type", "type")]⟩) typedOrNot.drive J J' ∧
      outcome (validate "urn:x:f" typedOrNot J ⟨[("@type", "type")]⟩ (.beyondJson J)) =
        some true ∧
      outcome (validate "urn:x:f" typedOrNot J' ⟨[("@type", "type")]⟩ (.beyondJson J')) =
        some false :=
  ⟨typesTwice [.string "urn:x:a", .string "urn:x:b"],
    typesTwice [.string "urn:x:b", .string "urn:x:a"], permuted_typesTwice (.swap _ _ _),
    by decide +kernel, by decide +kernel⟩

end LinkedShapes.Description
