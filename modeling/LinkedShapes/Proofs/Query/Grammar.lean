import LinkedShapes.Proofs.Query.Path

/-!
# The grammar of paths

Every text is made of words, with a point in front of each but perhaps the first, and of something
behind them that no further word starts with. A path follows the words as long as they name fields.
What comes first of a word that names none and of a rest is what the path fails with.

* `pathWords_spelled`, `exists_spelled`: a path is cut into its words and the rest.
* `Reads`: the grammar, with what each form of paths leads to.
* `steps_iff_reads`: paths are read by the grammar.
-/

namespace LinkedShapes.Query

open Text

variable {k : Keywords} {shape : Shape} {a : Aliases} {point : Bool} {path : String}
variable {text word read rest : List Char} {words more : List (List Char)}
variable {route : List (String × Field)} {outcome : Except QueryError (List Field)}

/-! ## Words and the rest -/

/-- A point, where there is one. -/
def lead (point : Bool) : List Char := if point then ['.'] else []

/-- Words with a point in front of each, which the first of them may go without. -/
def spelled : Bool → List (List Char) → List Char
  | _, [] => []
  | point, word :: words => lead point ++ (word ++ spelled true words)

theorem spelled_true_append :
    spelled true (words ++ more) = spelled true words ++ spelled true more := by
  induction words with
  | nil => rfl
  | cons word words ih => simp [spelled, ih]

theorem spelled_append (hne : words ≠ []) :
    spelled point (words ++ more) = spelled point words ++ spelled true more := by
  cases words with
  | nil => exact absurd rfl hne
  | cons word words => simp [spelled, spelled_true_append]

/-- Behind a word, the words go on with a point. -/
theorem spelled_middle : spelled point (words ++ word :: more) ++ rest =
    spelled point (words ++ [word]) ++ (spelled true more ++ rest) := by
  rw [← List.append_assoc, ← spelled_append (by simp), List.append_assoc, List.singleton_append]

/-- No character of words comes first, so that a word in front of the text ends there. -/
def Stops (rest : List Char) : Prop := ∀ c ∈ rest.head?, isWordChar c = false

/-- Nothing in the text starts a step: neither a character of words nor a point before one. -/
def Stuck (rest : List Char) : Prop :=
  ∀ point c cs, rest = lead point ++ c :: cs → isWordChar c = false

theorem Stuck.stops (h : Stuck rest) : Stops rest := by
  intro c hc
  obtain ⟨cs, rfl⟩ := List.head?_eq_some_iff.1 hc
  exact h false c cs rfl

theorem Stuck.wordsAfterPoint (h : Stuck ('.' :: rest)) : wordsAfterPoint rest = ([], false) := by
  cases rest with
  | nil => rfl
  | cons c cs => rw [Query.wordsAfterPoint, h true c cs rfl, if_neg Bool.false_ne_true]

/-- The last word ends where the rest begins. -/
theorem Stuck.wordsFrom (h : Stuck rest) :
    wordsFrom read rest = ([read.reverse], rest.isEmpty) := by
  cases rest with
  | nil => rfl
  | cons c cs =>
    rw [Query.wordsFrom, h false c cs rfl, if_neg Bool.false_ne_true]
    by_cases hc : c = '.'
    · rw [hc] at h
      rw [if_pos hc, h.wordsAfterPoint]
      rfl
    · rw [if_neg hc]
      rfl

theorem Stuck.pathWords (h : Stuck rest) : pathWords rest = ([], rest.isEmpty) := by
  cases rest with
  | nil => rfl
  | cons c cs =>
    by_cases hc : c = '.'
    · rw [hc] at h ⊢
      exact h.wordsAfterPoint
    · rw [pathWords_of_ne hc, Query.wordsAfterPoint, h false c cs rfl, if_neg Bool.false_ne_true]
      rfl

theorem wordsFrom_spelled (h : ∀ word ∈ words, isWordList word = true) (hr : Stuck rest) :
    wordsFrom read (spelled true words ++ rest) = (read.reverse :: words, rest.isEmpty) := by
  induction words generalizing read with
  | nil => exact hr.wordsFrom
  | cons word words ih =>
    obtain ⟨hword, hwords⟩ := List.forall_mem_cons.1 h
    have hsplit : spelled true (word :: words) ++ rest =
        '.' :: (word ++ (spelled true words ++ rest)) := by simp [spelled, lead]
    rw [hsplit, wordsFrom, if_neg (by decide), if_pos rfl, wordsAfterPoint_append hword, ih hwords,
      List.reverse_reverse]

/-- A path is cut into its words, and it is told whether something is left. -/
theorem pathWords_spelled (h : ∀ word ∈ words, isWordList word = true) (hr : Stuck rest) :
    pathWords (spelled point words ++ rest) = (words, rest.isEmpty) := by
  cases words with
  | nil => exact hr.pathWords
  | cons word words =>
    obtain ⟨hword, hwords⟩ := List.forall_mem_cons.1 h
    have hread : wordsAfterPoint (word ++ (spelled true words ++ rest)) =
        (word :: words, rest.isEmpty) := by
      rw [wordsAfterPoint_append hword, wordsFrom_spelled hwords hr, List.reverse_reverse]
    rw [spelled, List.append_assoc, List.append_assoc, ← hread]
    cases point with
    | true => rfl
    | false =>
      cases word with
      | nil => cases hword
      | cons c cs =>
        refine pathWords_of_ne ?_ _
        rintro rfl
        exact absurd (List.all_eq_true.1 hword '.' List.mem_cons_self) (by decide)

/-- Where the words do not go on, the next word has a point in front. -/
theorem spelled_of_stops (h : ∀ word ∈ words, isWordList word = true)
    (hs : Stops (spelled point words ++ rest)) : spelled point words = spelled true words := by
  match words, point with
  | [], _ | _, true => rfl
  | [] :: _, false => cases h [] List.mem_cons_self
  | (c :: cs) :: words, false =>
    have hc := List.all_eq_true.1 (h _ List.mem_cons_self) c List.mem_cons_self
    rw [hs c rfl] at hc
    cases hc

/-- Every text is made of words and a rest. -/
theorem exists_spelled (text : List Char) : ∃ point words rest,
    text = spelled point words ++ rest ∧ (∀ word ∈ words, isWordList word = true) ∧ Stuck rest := by
  induction hn : text.length using Nat.strongRecOn generalizing text with
  | _ n ih =>
    by_cases hstuck : Stuck text
    · exact ⟨false, [], text, rfl, nofun, hstuck⟩
    · simp only [Stuck, not_forall, Bool.not_eq_false] at hstuck
      obtain ⟨point, c, cs, rfl, hc⟩ := hstuck
      have hlt : (cs.dropWhile isWordChar).length < n := by
        have hle := (List.dropWhile_sublist isWordChar (l := cs)).length_le
        simp only [List.length_append, List.length_cons] at hn
        omega
      -- the first word is read as far as it goes, and the induction goes on behind it
      obtain ⟨point', words, rest, heq, hwords, hrest⟩ := ih _ hlt _ rfl
      have hs : Stops (spelled point' words ++ rest) := by
        rw [← heq]
        intro d hd
        have hnot := List.head?_dropWhile_not isWordChar cs
        rw [hd] at hnot
        exact hnot
      refine ⟨point, (c :: cs.takeWhile isWordChar) :: words, rest, ?_, ?_, hrest⟩
      · rw [spelled, ← spelled_of_stops hwords hs, List.append_assoc, List.append_assoc, ← heq,
          List.cons_append, List.takeWhile_append_dropWhile]
      · refine List.forall_mem_cons.2 ⟨?_, hwords⟩
        simp [isWordList, hc]

/-- A text that starts no word holds further words behind a point only. -/
theorem Stops.exists_spelled (hs : Stops text) : ∃ words rest,
    text = spelled true words ++ rest ∧ (∀ word ∈ words, isWordList word = true) ∧ Stuck rest := by
  obtain ⟨point, words, rest, rfl, hwords, hrest⟩ := Query.exists_spelled text
  exact ⟨words, rest, by rw [spelled_of_stops hwords hs], hwords, hrest⟩

theorem stops_spelled (hr : Stuck rest) : Stops (spelled true words ++ rest) := by
  cases words with
  | nil => exact hr.stops
  | cons word words =>
    intro c hc
    obtain rfl : '.' = c := by simpa [spelled, lead] using hc
    decide

/-! ## The grammar -/

/-- The names of a route, as characters. -/
def routeWords (route : List (String × Field)) : List (List Char) := route.map (·.1.toList)

/-- The fault of a path with something left that is no word. -/
def malformedPath (text : List Char) : QueryError :=
  .malformed (.malformedPath (String.ofList text))

/--
The grammar of paths, from a shape. The names of a route of fields are read as words, which lead
to the fields if nothing else is there. Behind them may come a word that names no field of the
level the route leads to, which ends the path whatever follows the word, or something that is no
step.
-/
inductive Reads (k : Keywords) (shape : Shape) (text : List Char) :
    Except QueryError (List Field) → Prop
  | fields {point : Bool} {route : List (String × Field)} : Route k shape route →
      (∀ word ∈ routeWords route, isWordList word = true) →
      text = spelled point (routeWords route) → Reads k shape text (.ok (route.map (·.2)))
  | unknown {point : Bool} {route : List (String × Field)} {word rest : List Char} {a : Aliases} :
      Route k shape route → (∀ word ∈ routeWords route, isWordList word = true) →
      isWordList word = true → Stops rest →
      text = spelled point (routeWords route ++ [word]) ++ rest →
      Aliases.ofShape (destination shape route) k = .ok a →
      a.get? (String.ofList word) = none →
      Reads k shape text (.error (.notFound (String.ofList word)))
  | malformed {point : Bool} {route : List (String × Field)} {rest : List Char} :
      Route k shape route → (∀ word ∈ routeWords route, isWordList word = true) →
      rest ≠ [] → Stuck rest → text = spelled point (routeWords route) ++ rest →
      Reads k shape text (.error (malformedPath text))

/-- Words lead along a route, as far as they name fields. -/
theorem exists_route (hlevels : ∀ inner, Level k shape inner → ∃ a, Aliases.ofShape inner k = .ok a)
    (words : List (List Char)) :
    (∃ route, Route k shape route ∧ routeWords route = words) ∨
      ∃ route word more a, Route k shape route ∧ words = routeWords route ++ word :: more ∧
        Aliases.ofShape (destination shape route) k = .ok a ∧
        a.get? (String.ofList word) = none := by
  induction words generalizing shape with
  | nil => exact Or.inl ⟨[], .nil _, rfl⟩
  | cons word words ih =>
    obtain ⟨a, ha⟩ := hlevels shape .top
    cases hget : a.get? (String.ofList word) with
    | none => exact Or.inr ⟨[], word, words, a, .nil _, rfl, ha, hget⟩
    | some field =>
      have hmem := Aliases.mem_of_get? hget
      have hinner : ∀ inner, Level k field.shape inner → ∃ a, Aliases.ofShape inner k = .ok a :=
        fun inner hl => hlevels inner (hl.under ha hmem)
      rcases ih hinner with ⟨route, hroute, rfl⟩ | ⟨route, next, more, b, hroute, rfl, hb, hnone⟩
      · refine Or.inl ⟨(String.ofList word, field) :: route, .cons ha hmem hroute, ?_⟩
        simp [routeWords]
      · refine Or.inr ⟨(String.ofList word, field) :: route, next, more, b,
          .cons ha hmem hroute, ?_, hb, hnone⟩
        simp [routeWords]

/-- The grammar says something of every path. -/
theorem exists_reads (hlevels : ∀ inner, Level k shape inner → ∃ a, Aliases.ofShape inner k = .ok a)
    (text : List Char) : ∃ outcome, Reads k shape text outcome := by
  obtain ⟨point, words, rest, rfl, hwords, hrest⟩ := exists_spelled text
  rcases exists_route hlevels words with
    ⟨route, hroute, rfl⟩ | ⟨route, word, more, a, hroute, rfl, ha, hnone⟩
  · by_cases hend : rest = []
    · exact ⟨_, .fields hroute hwords (by rw [hend, List.append_nil])⟩
    · exact ⟨_, .malformed hroute hwords hend hrest rfl⟩
  · obtain ⟨hroutes, hmore⟩ := List.forall_mem_append.1 hwords
    obtain ⟨hword, -⟩ := List.forall_mem_cons.1 hmore
    exact ⟨_, .unknown hroute hroutes hword (stops_spelled hrest) spelled_middle ha hnone⟩

/-! ## Reading paths -/

theorem step_unknown (ha : Aliases.ofShape shape k = .ok a) {name : String}
    (hnone : a.get? name = none) : step k shape name = .error (.notFound name) := by
  simp only [step, ha, Except.mapError, bind, Except.bind, hnone]
  rfl

/-- A path is followed along a route, and then along the words behind it. -/
theorem steps_along {complete : Bool} (hroute : Route k shape route)
    (h : pathWords (trim path.toList) = (routeWords route ++ more, complete)) :
    ∃ found, found.map (·.field) = route.map (·.2) ∧ steps k shape path =
      (stepAll k (destination shape route) more).bind fun behind =>
        if complete then .ok (found ++ behind) else .error (malformedPath (trim path.toList)) := by
  obtain ⟨found, hfields, hsteps⟩ := stepAll_route hroute
  refine ⟨found, hfields, ?_⟩
  unfold steps
  simp only [h]
  rw [routeWords, hsteps]
  cases stepAll k (destination shape route) more <;> rfl

/-- What the grammar says of a path is what is read of it. -/
theorem Reads.steps_eq (h : Reads k shape (trim path.toList) outcome) :
    (steps k shape path).map (·.map (·.field)) = outcome := by
  cases h with
  | @fields point route hroute hwords htext =>
    have hcut : pathWords (trim path.toList) = (routeWords route ++ [], true) := by
      rw [htext, ← List.append_nil (spelled _ _), pathWords_spelled hwords (by simp [Stuck, lead]),
        List.append_nil, List.isEmpty_nil]
    obtain ⟨found, hfields, hsteps⟩ := steps_along hroute hcut
    rw [hsteps, stepAll, ← hfields]
    show Except.ok (List.map _ (found ++ [])) = _
    rw [List.append_nil]
  | @unknown point route word rest a hroute hwords hword hstops htext ha hnone =>
    -- whatever follows the word, it is cut off behind it
    obtain ⟨more, rest, rfl, hmore, hrest⟩ := hstops.exists_spelled
    have hall : ∀ w ∈ routeWords route ++ word :: more, isWordList w = true :=
      List.forall_mem_append.2 ⟨hwords, List.forall_mem_cons.2 ⟨hword, hmore⟩⟩
    have hcut :
        pathWords (trim path.toList) = (routeWords route ++ word :: more, rest.isEmpty) := by
      rw [htext, ← spelled_middle, pathWords_spelled hall hrest]
    obtain ⟨found, -, hsteps⟩ := steps_along hroute hcut
    rw [hsteps, stepAll, step_unknown ha hnone]
    rfl
  | @malformed point route rest hroute hwords hne hrest htext =>
    have hcut : pathWords (trim path.toList) = (routeWords route ++ [], false) := by
      rw [htext, pathWords_spelled hwords hrest, List.append_nil, List.isEmpty_eq_false_iff.2 hne]
    obtain ⟨found, -, hsteps⟩ := steps_along hroute hcut
    rw [hsteps, stepAll]
    rfl

/--
Paths are read by the grammar, where the shapes of all levels have tables of names: what it says of
a path, spaces around it aside, is the outcome, and it says one thing of every path.
-/
theorem steps_iff_reads
    (hlevels : ∀ inner, Level k shape inner → ∃ a, Aliases.ofShape inner k = .ok a) :
    (steps k shape path).map (·.map (·.field)) = outcome ↔
      Reads k shape (trim path.toList) outcome := by
  constructor
  · rintro rfl
    obtain ⟨outcome, h⟩ := exists_reads hlevels (trim path.toList)
    rwa [h.steps_eq]
  · exact Reads.steps_eq

/-- A path to the labels of vendors, one with a word in it that is no name, and one with a gap. -/
theorem steps_of_vendor_labels :
    let shape : Shape := .field ⟨"urn:x:vendor", false⟩ none
      (.field ⟨"urn:x:label", false⟩ none (.maxCount 1))
    let label : Field := ⟨⟨"urn:x:label", false⟩, none, .maxCount 1⟩
    let vendor : Field := ⟨⟨"urn:x:vendor", false⟩, none, label.toShape⟩
    (∀ inner, Level .none shape inner → ∃ a, Aliases.ofShape inner .none = .ok a) ∧
      Reads .none shape (trim " .vendor.label ".toList) (.ok [vendor, label]) ∧
      Reads .none shape (trim "vendor.color..label".toList) (.error (.notFound "color")) ∧
      Reads .none shape (trim "vendor..label".toList)
        (.error (malformedPath "vendor..label".toList)) := by
  intro shape label vendor
  have hclosed : tablesClosed .none [shape, vendor.shape, label.shape] = true := by decide +kernel
  have hlevels : ∀ inner, Level .none shape inner → ∃ a, Aliases.ofShape inner .none = .ok a :=
    fun inner hl => Level.table_of_closed hclosed List.mem_cons_self hl
  exact ⟨hlevels, (steps_iff_reads hlevels).1 (by decide +kernel),
    (steps_iff_reads hlevels).1 (by decide +kernel),
    (steps_iff_reads hlevels).1 (by decide +kernel)⟩

end LinkedShapes.Query
