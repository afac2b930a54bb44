import Mathlib.Data.List.TakeWhile
import LinkedShapes.Proofs.Alias
import LinkedShapes.Proofs.Query.Encodings

/-!
# Fields as steps of a path

A path names fields, each in the table of the level that the ones before it lead to. The names of
tables are words, so that a path is cut where the names end; only the field of types goes by the
keyword for types, which is no word unless it goes by another name. A path that names this field is
followed up to it and then malformed.

* `wordsAfterPoint_intercalate`: names are cut apart again, up to the first that is no word.
* `stepAll_route`: the names of a route lead along it.
* `fields_addressable`: the query for the terms at the end of a route.
-/

namespace LinkedShapes.Query

open Text Vocabulary

variable {k : Keywords} {shape : Shape} {c : Char} {word : List Char}
variable {words : List (List Char)} {route : List (String × Field)}

/-! ## Words -/

/-- A word, as characters. -/
def isWordList (word : List Char) : Bool := !word.isEmpty && word.all isWordChar

theorem wordsFrom_append (h : ∀ c ∈ word, isWordChar c = true) (read rest : List Char) :
    wordsFrom read (word ++ rest) = wordsFrom (word.reverse ++ read) rest := by
  induction word generalizing read with
  | nil => rfl
  | cons c word ih =>
    obtain ⟨hc, hword⟩ := List.forall_mem_cons.1 h
    rw [List.cons_append, wordsFrom, if_pos hc, ih hword, List.reverse_cons, List.append_assoc]
    rfl

theorem wordsAfterPoint_append (h : isWordList word = true) (rest : List Char) :
    wordsAfterPoint (word ++ rest) = wordsFrom word.reverse rest := by
  cases word with
  | nil => cases h
  | cons c word =>
    obtain ⟨hc, hword⟩ := List.forall_mem_cons.1 (List.all_eq_true.1 h)
    rw [List.cons_append, wordsAfterPoint, if_pos hc, wordsFrom_append hword, List.reverse_cons]

/-- Names are cut apart again, up to the first that is no word. -/
theorem wordsAfterPoint_intercalate
    (h : ∀ word ∈ words, isWordList word = true ∨ word.head? = some '@') (hne : words ≠ []) :
    wordsAfterPoint (['.'].intercalate words) =
      (words.takeWhile isWordList, words.all isWordList) := by
  induction words with
  | nil => exact absurd rfl hne
  | cons word words ih =>
    obtain ⟨hword, hwords⟩ := List.forall_mem_cons.1 h
    by_cases hw : isWordList word = true
    · rw [List.takeWhile_cons_of_pos hw, List.all_cons, hw, Bool.true_and]
      cases words with
      | nil =>
        have hlast := wordsAfterPoint_append hw []
        rw [List.append_nil] at hlast
        rw [List.intercalate_singleton, hlast, wordsFrom, List.reverse_reverse]
        rfl
      | cons next words =>
        rw [List.intercalate_cons_cons, List.append_assoc, List.singleton_append,
          wordsAfterPoint_append hw, wordsFrom, if_neg (by decide), if_pos rfl,
          ih hwords (List.cons_ne_nil _ _), List.reverse_reverse]
    · -- The cut stops before the sign of a keyword, whatever follows it.
      obtain ⟨cs, rfl⟩ := List.head?_eq_some_iff.1 (hword.resolve_left hw)
      have hjoin : ∃ rest, ['.'].intercalate (('@' :: cs) :: words) = '@' :: rest := by
        cases words with
        | nil => exact ⟨cs, List.intercalate_singleton⟩
        | cons next words =>
          rw [List.intercalate_cons_cons, List.append_assoc, List.cons_append]
          exact ⟨_, rfl⟩
      obtain ⟨rest, hjoin⟩ := hjoin
      rw [hjoin, wordsAfterPoint, if_neg (by decide), List.takeWhile_cons_of_neg hw,
        List.all_cons, Bool.eq_false_iff.2 hw, Bool.false_and]

theorem pathWords_of_ne (hc : c ≠ '.') (rest : List Char) :
    pathWords (c :: rest) = wordsAfterPoint (c :: rest) := by
  rw [pathWords, wordsAfterPoint]
  exact fun h => hc h

/-! ## Routes -/

/-- Fields by name, each in the table of the level that the ones before it lead to. -/
inductive Route (k : Keywords) : Shape → List (String × Field) → Prop
  | nil (shape : Shape) : Route k shape []
  | cons {shape : Shape} {a : Aliases} {name : String} {field : Field}
      {route : List (String × Field)} (htable : Aliases.ofShape shape k = .ok a)
      (hfield : (name, field) ∈ a.entries) (hroute : Route k field.shape route) :
      Route k shape ((name, field) :: route)

/-- The names of a route are words, but for the keyword for types if it goes by itself. -/
theorem Route.names (hk : k.check = .ok ()) (h : Route k shape route) :
    ∀ name ∈ route.map (·.1), isWord name = true ∨ name = Keyword.type := by
  induction h with
  | nil => exact fun _ hm => absurd hm List.not_mem_nil
  | cons htable hfield _ ih =>
    refine List.forall_mem_cons.2 ⟨?_, ih⟩
    rcases fieldName_ok ((Aliases.ofShape_ok htable).2 _ hfield) with ⟨hword, -⟩ | ⟨hname, -⟩
    · exact Or.inl hword
    · rcases Keywords.nameOf_cases k Keyword.type with hrenamed | hself
      · rw [← hname] at hrenamed
        exact Or.inl ((Keywords.checkAll_ok hk).1 _ hrenamed).2.1
      · exact Or.inr (hname.trans hself)

/-- The beginning of a route is a route. -/
theorem Route.takeWhile (p : String × Field → Bool) (h : Route k shape route) :
    Route k shape (route.takeWhile p) := by
  induction h with
  | nil => exact .nil _
  | @cons _ _ name field _ htable hfield _ ih =>
    rw [List.takeWhile_cons]
    split
    · exact .cons htable hfield ih
    · exact .nil _

/-- The name of a field leads to the field. -/
theorem step_of_mem {a : Aliases} {name : String} {field : Field}
    (htable : Aliases.ofShape shape k = .ok a) (hfield : (name, field) ∈ a.entries) :
    step k shape name = .ok ⟨field, linkTo? shape field.edge⟩ := by
  have hget := Aliases.get?_of_mem htable hfield
  simp only [step, htable, Except.mapError, bind, Except.bind, hget]
  rfl

/-- The shape that a route leads to. -/
def destination : Shape → List (String × Field) → Shape
  | shape, [] => shape
  | _, (_, field) :: route => destination field.shape route

/-- The names of a route lead along it, and further words lead on from its destination. -/
theorem stepAll_route (h : Route k shape route) :
    ∃ steps, steps.map (·.field) = route.map (·.2) ∧ ∀ words,
      stepAll k shape (route.map (·.1.toList) ++ words) =
        (stepAll k (destination shape route) words).map (steps ++ ·) := by
  induction h with
  | nil shape =>
    refine ⟨[], rfl, fun words => ?_⟩
    show stepAll k shape words = (stepAll k shape words).map id
    cases stepAll k shape words <;> rfl
  | @cons shape a name field route htable hfield _ ih =>
    obtain ⟨steps, hfields, hsteps⟩ := ih
    have hstep := step_of_mem htable hfield
    refine ⟨⟨field, linkTo? shape field.edge⟩ :: steps, ?_, fun words => ?_⟩
    · rw [List.map_cons, List.map_cons, hfields]
    · rw [List.map_cons, List.cons_append, stepAll, String.ofList_toList, hstep]
      show (stepAll k field.shape _ >>= fun steps => .ok (_ :: steps)) = _
      rw [hsteps, destination]
      cases stepAll k (destination field.shape route) words <;> rfl

/-- The path that names the fields of a route. -/
def pathText (route : List (String × Field)) : String := ".".intercalate (route.map (·.1))

theorem toList_pathText (route : List (String × Field)) :
    (pathText route).toList = ['.'].intercalate (route.map (·.1.toList)) := by
  have hpoint : ".".toList = ['.'] := rfl
  rw [pathText, String.toList_intercalate, hpoint, List.map_map]
  rfl

/-! ## Paths -/

theorem mem_intercalate {separator : Char} (h : c ∈ [separator].intercalate words) :
    c = separator ∨ ∃ word ∈ words, c ∈ word := by
  induction words with
  | nil => cases h
  | cons word words ih =>
    cases words with
    | nil =>
      rw [List.intercalate_singleton] at h
      exact Or.inr ⟨word, List.mem_cons_self, h⟩
    | cons next words =>
      rw [List.intercalate_cons_cons, List.append_assoc, List.mem_append, List.singleton_append,
        List.mem_cons] at h
      rcases h with h | h | h
      · exact Or.inr ⟨word, List.mem_cons_self, h⟩
      · exact Or.inl h
      · obtain h | ⟨word, hword, h⟩ := ih h
        · exact Or.inl h
        · exact Or.inr ⟨word, List.mem_cons_of_mem _ hword, h⟩

section Names

variable {names : List String} (h : ∀ name ∈ names, isWord name = true ∨ name = Keyword.type)

include h

theorem trim_names : trim (['.'].intercalate (names.map String.toList)) =
    ['.'].intercalate (names.map String.toList) := by
  have htype : (Keyword.type.toList.all fun c => !isWhiteSpace c) = true := by decide
  refine trim_eq_self fun c hc => ?_
  obtain rfl | ⟨word, hword, hc⟩ := mem_intercalate hc
  · rfl
  · obtain ⟨name, hname, rfl⟩ := List.mem_map.1 hword
    rcases h name hname with hw | rfl
    · exact not_isWhiteSpace_of_isWordChar
        (List.all_eq_true.1 (Bool.and_eq_true_iff.1 hw).2 c hc)
    · simpa using List.all_eq_true.1 htype c hc

/-- A path does not begin with the point that may stand before it. -/
theorem head_names (hne : names ≠ []) :
    ∃ c rest, ['.'].intercalate (names.map String.toList) = c :: rest ∧ c ≠ '.' := by
  cases names with
  | nil => exact absurd rfl hne
  | cons name names =>
    have hname : ∃ c cs, name.toList = c :: cs ∧ c ≠ '.' := by
      rcases h name List.mem_cons_self with hw | rfl
      · cases hl : name.toList with
        | nil =>
          rw [isWord, hl] at hw
          cases hw
        | cons c cs =>
          rw [isWord, hl] at hw
          refine ⟨c, cs, rfl, ?_⟩
          rintro rfl
          exact absurd (List.all_eq_true.1 hw '.' List.mem_cons_self) (by decide)
      · exact ⟨'@', _, rfl, by decide⟩
    obtain ⟨c, cs, hl, hc⟩ := hname
    cases names with
    | nil => exact ⟨c, cs, by rw [List.map_singleton, List.intercalate_singleton, hl], hc⟩
    | cons next names =>
      rw [List.map_cons, List.map_cons, List.intercalate_cons_cons, hl, List.append_assoc]
      exact ⟨c, _, List.cons_append, hc⟩

theorem pathWords_names (hne : names ≠ []) :
    pathWords (['.'].intercalate (names.map String.toList)) =
      ((names.takeWhile isWord).map String.toList, names.all isWord) := by
  have hwords : ∀ word ∈ names.map String.toList,
      isWordList word = true ∨ word.head? = some '@' := by
    intro word hword
    obtain ⟨name, hname, rfl⟩ := List.mem_map.1 hword
    rcases h name hname with hw | rfl
    · exact Or.inl hw
    · exact Or.inr rfl
  have hjoin := wordsAfterPoint_intercalate hwords (by simpa using hne)
  rw [List.takeWhile_map, List.all_map] at hjoin
  obtain ⟨c, rest, hcons, hc⟩ := head_names h hne
  rw [hcons, pathWords_of_ne hc, ← hcons, hjoin]
  rfl

end Names

/-- A path leads along the route that it names, unless it names the keyword for types. -/
theorem edges_pathText (hk : k.check = .ok ()) (h : Route k shape route) (hne : route ≠ []) :
    edges k shape (pathText route) =
      if Keyword.type ∈ route.map (·.1) then
        .error (.malformed (.malformedPath (pathText route)))
      else .ok (route.map (·.2.edge)) := by
  have hnames := h.names hk
  have hmap : route.map (·.1.toList) = (route.map (·.1)).map String.toList := by
    rw [List.map_map]
    rfl
  -- Only the words are followed, and what is left of the path makes it malformed.
  obtain ⟨steps, hfields, hsteps⟩ := stepAll_route (h.takeWhile fun entry => isWord entry.1)
  have hfollowed := hsteps []
  rw [List.append_nil, stepAll, Except.map, List.append_nil] at hfollowed
  have hwords : ((route.map (·.1)).takeWhile isWord).map String.toList =
      (route.takeWhile fun entry => isWord entry.1).map (·.1.toList) := by
    rw [List.takeWhile_map, List.map_map]
    rfl
  have hfound : Query.steps k shape (pathText route) =
      if (route.map (·.1)).all isWord then .ok steps
      else .error (.malformed (.malformedPath (pathText route))) := by
    rw [Query.steps, toList_pathText, hmap, trim_names hnames,
      pathWords_names hnames (by simpa using hne), hwords]
    dsimp only
    rw [hfollowed, ← hmap, ← toList_pathText, String.ofList_toList]
    rfl
  rw [edges, hfound]
  by_cases htype : Keyword.type ∈ route.map (·.1)
  · have hnot : ¬ (route.map (·.1)).all isWord = true := fun hall =>
      absurd (List.all_eq_true.1 hall _ htype) (by decide)
    rw [if_neg hnot, if_pos htype]
    rfl
  · have hall : ∀ name ∈ route.map (·.1), isWord name = true := fun name hm =>
      (hnames name hm).resolve_right fun he => htype (he ▸ hm)
    have hwhole : route.takeWhile (fun entry => isWord entry.1) = route :=
      List.takeWhile_eq_self_iff.2 fun entry hm => hall _ (List.mem_map_of_mem hm)
    have hedges : steps.map (·.field.edge) = route.map (·.2.edge) := by
      rw [hwhole] at hfields
      simpa [Function.comp_def] using congrArg (List.map (·.edge)) hfields
    rw [if_pos (List.all_eq_true.2 hall), if_neg htype, ← hedges]
    rfl

/-! ## Queries -/

/-- The query of a path alone. -/
theorem ofMembers_terms (scope : Scope) (path : String) (labels : Labels) :
    ofMembers scope (Json.stringMembers [(termsKey, path)]) labels =
      (edges scope.setting.keywords scope.driver path).map fun found =>
        ⟨scope.base, .terms found, 0, 0⟩ := by
  have hterms : pathUnder scope (Json.stringMembers [(termsKey, path)]) termsKey =
      (edges scope.setting.keywords scope.driver path).map some := rfl
  have hfilters : filters scope (Json.stringMembers [(termsKey, path)]) =
      (pure [] : Reading (List Shape)) := rfl
  unfold ofMembers
  rw [hterms, hfilters]
  cases edges scope.setting.keywords scope.driver path with
  | error fault => rfl
  | ok found => rfl

/-- Every field can be named by a path, but for that of types if it goes by its keyword. -/
theorem fields_addressable {base : Shape} (hk : k.check = .ok ()) (h : Route k base.drive route)
    (hne : route ≠ []) :
    let object := Json.object (Json.stringMembers [(termsKey, pathText route)])
    (object.text.toList.head? = some '\x7b' ∧ Json.parse? object.text = some object) ∧
    ∀ focus text labels, text.toList.head? = some '\x7b' → Json.parse? text = some object →
      parse focus text base k labels =
        if Keyword.type ∈ route.map (·.1) then
          .error (.malformed (.malformedPath (pathText route)))
        else .ok ⟨base, .terms (route.map (·.2.edge)), 0, 0⟩ := by
  intro object
  refine ⟨⟨Json.head?_text_object _, Json.parse?_text (List.nodup_singleton _)⟩, ?_⟩
  intro focus text labels hbrace htext
  obtain ⟨hempty, hmembers⟩ := membersOf_of_parse? hbrace htext
  have hread : read (.of focus base k) text labels =
      (edges k base.drive (pathText route)).map fun found => ⟨base, .terms found, 0, 0⟩ := by
    rw [read_of_members hempty hmembers, ofMembers_terms]
    rfl
  rw [parse, hk]
  show read (.of focus base k) text labels = _
  rw [hread, edges_pathText hk h hne]
  split <;> rfl

/-- The types of those that point here, where types go by a name of their own. -/
theorem fields_addressable_types :
    let k := Keywords.none.set Keyword.type "kind"
    let base : Shape := .field ⟨"urn:x:p", true⟩ none (.field ⟨Rdf.type, false⟩ none (.maxCount 1))
    let text := "\x7b\".terms\": \"pOf.kind\"\x7d"
    k.check = .ok () ∧
      (∃ route, Route k base.drive route ∧ route ≠ [] ∧ pathText route = "pOf.kind") ∧
      parse "urn:x:f" text base k default =
        .ok ⟨base, .terms [⟨"urn:x:p", true⟩, ⟨Rdf.type, false⟩], 0, 0⟩ := by
  intro k base text
  let types : Field := ⟨⟨Rdf.type, false⟩, none, .and [.maxCount 1, .datatype Abstract.resource]⟩
  let pointing : Field := ⟨⟨"urn:x:p", true⟩, none, .and [.field types.edge none types.shape,
    .datatype Abstract.resource]⟩
  have hk : k.check = .ok () := by decide +kernel
  have houter : Aliases.ofShape base.drive k = .ok ⟨[("pOf", pointing)]⟩ := by decide +kernel
  have hinner : Aliases.ofShape pointing.shape k = .ok ⟨[("kind", types)]⟩ := by decide +kernel
  have hroute : Route k base.drive [("pOf", pointing), ("kind", types)] :=
    .cons houter List.mem_cons_self (.cons hinner List.mem_cons_self (.nil _))
  have hparse : Json.parse? text = some (.object [(".terms", .string "pOf.kind")]) := by
    decide +kernel
  have hpath : pathText [("pOf", pointing), ("kind", types)] = "pOf.kind" := by decide
  obtain ⟨-, hqueries⟩ := fields_addressable hk hroute (List.cons_ne_nil _ _)
  rw [hpath] at hqueries
  have hquery := hqueries "urn:x:f" text default (by decide) hparse
  rw [if_neg (by decide)] at hquery
  exact ⟨hk, ⟨_, hroute, List.cons_ne_nil _ _, hpath⟩, hquery⟩

/-- The field of types has a name in the table, but no path can name it. -/
theorem types_not_addressable :
    let base : Shape := .field ⟨Rdf.type, false⟩ none (.and [])
    let types : Field := ⟨⟨Rdf.type, false⟩, none, .datatype Abstract.resource⟩
    let text := "\x7b\".terms\":\"@type\"\x7d"
    Keywords.none.check = .ok () ∧ Route .none base.drive [("@type", types)] ∧
      Json.parse? text = some (.object [(".terms", .string "@type")]) ∧
      parse "urn:x:f" text base .none default ≠ .ok ⟨base, .terms [⟨Rdf.type, false⟩], 0, 0⟩ ∧
      parse "urn:x:f" text base .none default = .error (.malformed (.malformedPath "@type")) := by
  intro base types text
  have htable : Aliases.ofShape base.drive .none = .ok ⟨[("@type", types)]⟩ := by decide +kernel
  have hfault : parse "urn:x:f" text base .none default =
      .error (.malformed (.malformedPath "@type")) := by
    decide +kernel
  refine ⟨rfl, .cons htable List.mem_cons_self (.nil _), by decide +kernel, ?_, hfault⟩
  rw [hfault]
  exact nofun

end LinkedShapes.Query
