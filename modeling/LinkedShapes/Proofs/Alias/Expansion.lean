import LinkedShapes.Proofs.Alias.Order
import LinkedShapes.Proofs.Shape.Inference
import LinkedShapes.Proofs.Shape.Redaction

/-!
# Expansion keeps the vocabulary

Expansion builds every node anew, which may flatten it, drop repetitions and decide conditionals
whose branches have become equal. The fields of a level can become fewer that way, but a field is
only dropped where an equal one stands before it. What is left has the same edges in the same order,
and on each edge the same names are declared.

* `SameDeclarations`: fields that cannot be told apart by the names they are given.
* `Aliases.vocabulary_congr`: then the tables list the same names for the same edges, or fail alike.
* `Shape.sameDeclarations_expand`: expansion keeps the declarations of a shape in normal form.
* `Aliases.vocabulary_expand`: so the names that descriptions are written with are those of the
  redacted shape.
-/

namespace LinkedShapes

open Vocabulary

variable {k : Keywords} {shape test pass fail : Shape} {shapes : List Shape} {a b : Aliases}
  {name : String} {f g : Field} {fs gs hs : List Field} {edge : Edge} {c : Connective}

/-! ## Declarations -/

/-- A field on the edge declares the name. -/
def Declares (fs : List Field) (edge : Edge) (name : String) : Prop :=
  ∃ f ∈ fs, f.edge = edge ∧ name ∈ f.declaredNames

/-- The fields are on the same edges, met in the same order, and on each edge they declare the same
names. -/
structure SameDeclarations (fs gs : List Field) : Prop where
  edges : (fs.map (·.edge)).eraseDups = (gs.map (·.edge)).eraseDups
  names : ∀ edge name, Declares fs edge name ↔ Declares gs edge name

namespace SameDeclarations

theorem trans (h : SameDeclarations fs gs) (h' : SameDeclarations gs hs) :
    SameDeclarations fs hs :=
  ⟨h.edges.trans h'.edges, fun edge name => (h.names edge name).trans (h'.names edge name)⟩

/-- What is declared depends on the first occurrences of the fields only. -/
theorem of_eraseDups (h : fs.eraseDups = gs.eraseDups) : SameDeclarations fs gs := by
  have hmap : ∀ fs : List Field, (fs.eraseDups.map (·.edge)).eraseDups =
      (fs.map (·.edge)).eraseDups := fun fs => by
    rw [List.map_eq_flatMap, List.map_eq_flatMap, eraseDups_flatMap_eraseDups]
  refine ⟨by rw [← hmap fs, h, hmap], fun edge name => ?_⟩
  have hmem : ∀ f, f ∈ fs ↔ f ∈ gs := fun f => by
    rw [← List.mem_eraseDups, h, List.mem_eraseDups]
  simp only [Declares, hmem]

end SameDeclarations

/-! ## Tables -/

namespace Aliases

/-- The names of a table, each with the edge that it stands for. -/
def lexicon (a : Aliases) : List (String × Edge) := a.entries.map fun e => (e.1, e.2.edge)

/-- The names that a level gives to edges, in order. -/
def vocabulary (k : Keywords) (shape : Shape) : Except ShapeError (List (String × Edge)) :=
  (ofShape shape k).map lexicon

/-- The edge behind a name is known from the lexicon. -/
theorem edge_of_get? : (a.get? name).map (·.edge) = a.lexicon.lookup name := by
  obtain ⟨entries⟩ := a
  induction entries with
  | nil => rfl
  | cons e entries ih =>
    show (List.lookup name (e :: entries)).map (·.edge) = List.lookup name ((e.1, e.2.edge) :: _)
    rw [List.lookup_cons, List.lookup_cons]
    cases name == e.1 with
    | true => rfl
    | false => exact ih

/-- Fields on the same edges that are given the same names make the same table, or fail alike. -/
theorem addAll_congr
    (h : List.Forall₂ (fun f g => f.edge = g.edge ∧ fieldName k f = fieldName k g) fs gs)
    (hab : a.lexicon = b.lexicon) : (addAll k a fs).map lexicon = (addAll k b gs).map lexicon := by
  induction h generalizing a b with
  | nil => exact congrArg Except.ok hab
  | @cons f g fs gs hfg _ ih =>
    obtain ⟨hedge, hname⟩ := hfg
    have hget : (a.get? · |>.map (·.edge)) = (b.get? · |>.map (·.edge)) := by
      funext name
      rw [edge_of_get?, edge_of_get?, hab]
    rw [addAll, addAll, hname]
    cases fieldName k g with
    | error e => rfl
    | ok name =>
      have hget := congrFun hget name
      dsimp only [bind, Except.bind]
      cases hga : a.get? name with
      | none =>
        rw [hga] at hget
        rw [Option.map_eq_none_iff.1 hget.symm]
        refine ih ?_
        simp only [lexicon, List.map_append, List.map_cons, List.map_nil] at hab ⊢
        rw [hab, hedge]
      | some first =>
        rw [hga] at hget
        obtain ⟨first', hgb, hfirst⟩ := Option.map_eq_some_iff.1 hget.symm
        rw [hgb]
        -- the error shows the two fields, of which nothing but the edges is shown
        simp only [Except.map, Field.display, hedge, hfirst]

/-- Where the same names are declared for the same edges, the tables list the same names for the
same edges, or there are none for the same reason. -/
theorem vocabulary_congr {x y : Shape} (h : SameDeclarations x.fields y.fields) :
    vocabulary k x = vocabulary k y := by
  have hedges : (mergedFields x.fields).map (·.edge) = (mergedFields y.fields).map (·.edge) := by
    rw [mergedFields_edges, mergedFields_edges, h.edges]
  refine addAll_congr ?_ rfl
  rw [List.forall₂_iff_get]
  have hlength := congrArg List.length hedges
  rw [List.length_map, List.length_map] at hlength
  refine ⟨hlength, fun i hx hy => ?_⟩
  have hedge : ((mergedFields x.fields).get ⟨i, hx⟩).edge =
      ((mergedFields y.fields).get ⟨i, hy⟩).edge := by
    have hget := List.getElem_of_eq hedges (by simpa using hx)
    rwa [List.getElem_map, List.getElem_map] at hget
  refine ⟨hedge, fieldName_congr hedge fun name => ?_⟩
  have hdeclared := h.names ((mergedFields x.fields).get ⟨i, hx⟩).edge name
  rw [mem_declaredNames_merged (List.get_mem ..), mem_declaredNames_merged (List.get_mem ..)]
  exact hedge ▸ hdeclared

end Aliases

/-! ## Expansion -/

namespace Shape

theorem mem_names_wrap : name ∈ (c.wrap shapes).names ↔ ∃ s ∈ shapes, name ∈ s.names := by
  cases c <;> exact mem_namesOfAll

/-- The names that joined shapes declare are those that one of them declares. -/
theorem mem_names_build : name ∈ (c.build shapes).names ↔ ∃ s ∈ shapes, name ∈ s.names := by
  have hclose : ∀ xs, name ∈ (c.close xs).names ↔ ∃ x ∈ xs, name ∈ x.names := fun xs => by
    rcases Connective.close_cases c xs with ⟨s, rfl, heq⟩ | ⟨-, heq⟩
    · simp [heq]
    · rw [heq, mem_names_wrap]
  have hbranches : ∀ s, (∃ x ∈ c.branches s, name ∈ x.names) ↔ name ∈ s.names := fun s => by
    by_cases hs : ∃ inner, s = c.wrap inner
    · obtain ⟨inner, rfl⟩ := hs
      rw [Connective.branches_wrap, mem_names_wrap]
    · simp [Connective.branches_of_ne (not_exists.1 hs)]
  rw [Connective.build_eq, hclose]
  constructor
  · rintro ⟨x, hx, hname⟩
    obtain ⟨s, hs, hx⟩ := List.mem_flatMap.1 (List.mem_eraseDups.1 hx)
    exact ⟨s, hs, (hbranches s).1 ⟨x, hx, hname⟩⟩
  · rintro ⟨s, hs, hname⟩
    obtain ⟨x, hx, hname⟩ := (hbranches s).2 hname
    exact ⟨x, List.mem_eraseDups.2 (List.mem_flatMap.2 ⟨s, hs, hx⟩), hname⟩

/-- What a shape without parts implies has no names. -/
theorem names_of_mem_implied {x : Shape} (h : x ∈ shape.implied) : x.names = [] := by
  rcases implied_cases h with ⟨_, rfl⟩ | ⟨_, rfl⟩ | ⟨_, rfl⟩ | rfl <;> rfl

theorem mem_names_withResource : name ∈ (withResource edge shape).names ↔ name ∈ shape.names := by
  unfold withResource
  split
  · simp [mem_names_conj, names]
  · exact Iff.rfl

/-- Expansion keeps the names that a shape in normal form declares for the field around it. -/
theorem mem_names_expand (hn : Normal shape) :
    name ∈ (expand shape).names ↔ name ∈ shape.names := by
  induction shape using inductJoined with
  | join c shapes ih =>
    obtain ⟨-, hall⟩ := normal_wrap.1 hn
    rw [expand_wrap, mem_names_build, mem_names_wrap]
    simp only [List.mem_map, exists_exists_and_eq_and]
    exact exists_congr fun s => and_congr_right fun hs => ih s hs (hall s hs)
  | when test pass fail _ ihp ihf =>
    obtain ⟨hp, hf⟩ := hn.of_when
    have hbranches : name ∈ (expand pass).names ∨ name ∈ (expand fail).names ↔
        name ∈ (Shape.when test pass fail).names :=
      (or_congr (ihp hp) (ihf hf)).trans List.mem_append.symm
    rcases expand_when_cases hn with ⟨hsame, heq⟩ | heq
    · rw [heq, ← hbranches, hsame, or_self]
    · rw [heq]
      exact List.mem_append.trans hbranches
  | field edge label s _ =>
    rw [expand_field hn]
    exact Iff.rfl
  | link iri s ih => exact ih hn.of_link
  | leaf s hl =>
    rw [expand_eq_conj hl, mem_names_conj]
    constructor
    · rintro ⟨x, hx, hname⟩
      rcases List.mem_cons.1 hx with rfl | hx
      · exact hname
      · rw [names_of_mem_implied hx] at hname
        exact absurd hname List.not_mem_nil
    · exact fun hname => ⟨s, List.mem_cons_self, hname⟩

theorem mem_declaredNames_expanded (hn : Normal f.shape) :
    name ∈ f.expanded.declaredNames ↔ name ∈ f.declaredNames := by
  simp only [mem_declaredNames, Field.expanded, mem_names_withResource, mem_names_expand hn]

/-- Expansion keeps what the fields of a shape in normal form declare. -/
theorem sameDeclarations_expand (hn : Normal shape) :
    SameDeclarations (expand shape).fields shape.fields := by
  refine .trans (.of_eraseDups (eraseDups_fields_expand hn)) ⟨?_, fun edge name => ?_⟩
  · rw [List.map_map]
    rfl
  · simp only [Declares, List.mem_map, exists_exists_and_eq_and]
    refine exists_congr fun f => and_congr_right fun hf => and_congr_right fun _ => ?_
    exact mem_declaredNames_expanded (hn.of_mem_fields hf)

end Shape

/-- Expansion keeps the vocabulary: the table of an expanded shape has the names and the edges of
that of the redacted shape, in the same order, and fails where it fails, for the same reason. -/
theorem Aliases.vocabulary_expand (shape : Shape) (k : Keywords) :
    vocabulary k (shape.redact .conveying).expand = vocabulary k (shape.redact .conveying) :=
  vocabulary_congr (Shape.sameDeclarations_expand (Shape.normal_redact .conveying shape))

end LinkedShapes
