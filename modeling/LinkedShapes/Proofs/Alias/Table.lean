import Mathlib.Data.List.Induction
import LinkedShapes.Proofs.Alias
import LinkedShapes.Proofs.Shape.Normal

/-!
# What an alias table says about its shape

A table is made by merging the fields of a level edge by edge and naming what is merged. Each of
the two steps could lose something: merging might drop or reorder edges, and a field might be
named like another one or like a keyword. `Aliases.exact_of_ofShape` says that nothing of this
happens where there is a table.

* `mergedFields_edges`: the edges of the merged fields, in the order they are first met.
* `merged_of_mem`: a merged field is made of the fields on its edge, in their order.
* `joined_of_agreed`: fields that declare one name at most are merged without a conflict of
  labels, which leaves the conjunction of their shapes.
* `Shape.joined_eq_conj`: shapes in normal form are conjoined at once as well as one by one.
-/

namespace LinkedShapes

open Vocabulary

variable {k : Keywords} {shape : Shape} {a : Aliases} {name : String} {f g : Field}
  {fs : List Field}

/-! ## Edges -/

/-- The fields on an edge, in order. -/
def fieldsOn (edge : Edge) (fs : List Field) : List Field := fs.filter (·.edge == edge)

theorem mergedFields_append (fs : List Field) (g : Field) :
    mergedFields (fs ++ [g]) = mergeField g (mergedFields fs) := by
  unfold mergedFields
  rw [List.foldl_append, List.foldl_cons, List.foldl_nil]

theorem mergeField_edges_of_mem (h : g.edge ∈ fs.map (·.edge)) :
    (mergeField g fs).map (·.edge) = fs.map (·.edge) := by
  induction fs with
  | nil => exact absurd h List.not_mem_nil
  | cons f fs ih =>
    unfold mergeField
    split
    · rfl
    · next hne =>
      have hrest := (List.mem_cons.1 h).resolve_left fun he => hne he.symm
      rw [List.map_cons, List.map_cons, ih hrest]

theorem mergeField_of_not_mem (h : g.edge ∉ fs.map (·.edge)) : mergeField g fs = fs ++ [g] := by
  induction fs with
  | nil => rfl
  | cons f fs ih =>
    obtain ⟨hf, hfs⟩ := not_or.1 (mt List.mem_cons.2 h)
    rw [mergeField, if_neg fun he => hf he.symm, ih hfs, List.cons_append]

/-- The edges of the merged fields, in the order they are first met. -/
theorem mergedFields_edges (fs : List Field) :
    (mergedFields fs).map (·.edge) = (fs.map (·.edge)).eraseDups := by
  induction fs using List.reverseRecOn with
  | nil => rfl
  | append_singleton fs g ih =>
    rw [mergedFields_append, List.map_append, List.map_singleton, List.eraseDups_append, ← ih]
    by_cases h : g.edge ∈ (mergedFields fs).map (·.edge)
    · have hold : g.edge ∈ fs.map (·.edge) := by rwa [ih, List.mem_eraseDups] at h
      rw [mergeField_edges_of_mem h]
      simp [List.removeAll, List.mem_map.1 hold]
    · have hnew : g.edge ∉ fs.map (·.edge) := by rwa [ih, List.mem_eraseDups] at h
      rw [mergeField_of_not_mem h, List.map_append, List.map_singleton]
      simp [List.removeAll, mt List.mem_map.2 hnew, eraseDups_eq_self (List.nodup_singleton _)]

/-- A merged field is on the edge of some field. -/
theorem edge_of_merged {m : Field} (h : m ∈ mergedFields fs) : ∃ f ∈ fs, f.edge = m.edge := by
  have hedge : m.edge ∈ (mergedFields fs).map (·.edge) := List.mem_map_of_mem h
  rw [mergedFields_edges, List.mem_eraseDups] at hedge
  exact List.mem_map.1 hedge

/-! ## Merged fields -/

/-- The fields on one edge as one. -/
def mergeAll (f : Field) (rest : List Field) : Field := rest.foldl Field.mergeWith f

theorem mem_mergeField (h : (fs.map (·.edge)).Nodup) {m : Field} (hm : m ∈ mergeField g fs) :
    m ∈ fs ∧ m.edge ≠ g.edge ∨ (∃ f ∈ fs, f.edge = g.edge ∧ m = f.mergeWith g) ∨
      m = g ∧ g.edge ∉ fs.map (·.edge) := by
  induction fs with
  | nil => exact Or.inr (Or.inr ⟨List.mem_singleton.1 hm, List.not_mem_nil⟩)
  | cons f fs ih =>
    obtain ⟨hf, hnodup⟩ := List.nodup_cons.1 h
    unfold mergeField at hm
    split at hm
    · next he =>
      rcases List.mem_cons.1 hm with rfl | hm
      · exact Or.inr (Or.inl ⟨f, List.mem_cons_self, he, rfl⟩)
      · refine Or.inl ⟨List.mem_cons_of_mem _ hm, fun heq => hf ?_⟩
        exact List.mem_map.2 ⟨m, hm, heq.trans he.symm⟩
    · next hne =>
      rcases List.mem_cons.1 hm with rfl | hm
      · exact Or.inl ⟨List.mem_cons_self, hne⟩
      rcases ih hnodup hm with ⟨hm, he⟩ | ⟨f', hf', he, rfl⟩ | ⟨rfl, hnew⟩
      · exact Or.inl ⟨List.mem_cons_of_mem _ hm, he⟩
      · exact Or.inr (Or.inl ⟨f', List.mem_cons_of_mem _ hf', he, rfl⟩)
      · refine Or.inr (Or.inr ⟨rfl, fun hmem => ?_⟩)
        exact (List.mem_cons.1 hmem).elim (fun he => hne he.symm) hnew

/-- A merged field is made of the fields on its edge, in their order. -/
theorem merged_of_mem {m : Field} (h : m ∈ mergedFields fs) :
    ∃ f rest, fieldsOn m.edge fs = f :: rest ∧ m = mergeAll f rest := by
  induction fs using List.reverseRecOn generalizing m with
  | nil => exact absurd h List.not_mem_nil
  | append_singleton fs g ih =>
    rw [mergedFields_append] at h
    have hnodup : ((mergedFields fs).map (·.edge)).Nodup :=
      mergedFields_edges fs ▸ nodup_eraseDups _
    unfold fieldsOn at ih ⊢
    rw [List.filter_append]
    rcases mem_mergeField hnodup h with ⟨hm, hne⟩ | ⟨f, hf, he, rfl⟩ | ⟨rfl, hnew⟩
    · obtain ⟨f, rest, heq, hmerged⟩ := ih hm
      have hnone : [g].filter (·.edge == m.edge) = [] := by simpa using fun he => hne he.symm
      exact ⟨f, rest, by rw [heq, hnone, List.append_nil], hmerged⟩
    · obtain ⟨first, rest, heq, hmerged⟩ := ih hf
      have hself : [g].filter (·.edge == f.edge) = [g] := by simp [he]
      refine ⟨first, rest ++ [g], ?_, ?_⟩
      · show fs.filter (·.edge == f.edge) ++ [g].filter (·.edge == f.edge) = _
        rw [heq, hself, List.cons_append]
      · show _ = (rest ++ [g]).foldl Field.mergeWith first
        rw [List.foldl_append, hmerged]
        rfl
    · refine ⟨m, [], ?_, rfl⟩
      have hnone : fs.filter (·.edge == m.edge) = [] := by
        refine List.filter_eq_nil_iff.2 fun f hf he => hnew ?_
        rw [mergedFields_edges, List.mem_eraseDups, ← beq_iff_eq.1 he]
        exact List.mem_map_of_mem hf
      rw [hnone]
      simp

/-! ## Declared names -/

namespace Shape

theorem mem_namesOfAll {shapes : List Shape} :
    name ∈ namesOfAll shapes ↔ ∃ s ∈ shapes, name ∈ s.names := by
  induction shapes with
  | nil => simp [namesOfAll]
  | cons s shapes ih =>
    rw [namesOfAll, List.mem_append, ih]
    simp only [List.mem_cons, exists_eq_or_imp]

/-- The names that a conjunction declares are those that its parts declare. -/
theorem mem_names_conj {shapes : List Shape} :
    name ∈ (conj shapes).names ↔ ∃ s ∈ shapes, name ∈ s.names :=
  mem_probe_conj fun _ => mem_namesOfAll

end Shape

theorem mem_declaredNames :
    name ∈ f.declaredNames ↔ f.label = some name ∨ name ∈ f.shape.names := by
  unfold Field.declaredNames Shape.aliases
  cases f.label with
  | none => simp [OrderedSet.mem_ofList]
  | some label => rw [OrderedSet.mem_insert, OrderedSet.mem_ofList, Option.some.injEq, eq_comm]

/-- The field declares one name at most. -/
def Field.Agreed (f : Field) : Prop :=
  ∀ x ∈ f.declaredNames, ∀ y ∈ f.declaredNames, x = y

theorem declaredNames_mergeWith (h : name ∈ f.declaredNames ∨ name ∈ g.declaredNames) :
    name ∈ (f.mergeWith g).declaredNames := by
  simp only [mem_declaredNames] at h ⊢
  unfold Field.mergeWith
  simp only [Shape.mem_names_conj, List.mem_append, List.mem_pair]
  rcases h with (hl | hn) | (hl | hn)
  · exact Or.inl (by rw [hl, Option.some_or])
  · exact Or.inr ⟨f.shape, Or.inl (Or.inl rfl), hn⟩
  · cases hf : f.label with
    | none => exact Or.inl (by rw [Option.none_or, hl])
    | some first =>
      rw [hl]
      by_cases he : first = name
      · exact Or.inl (by rw [Option.some_or, he])
      · refine Or.inr ⟨Shape.named name, Or.inr ?_, ?_⟩
        · simp [he]
        · simp [Shape.named, Shape.names]
  · exact Or.inr ⟨g.shape, Or.inl (Or.inr rfl), hn⟩

theorem declaredNames_mergeAll (rest : List Field) (h : name ∈ f.declaredNames) :
    name ∈ (mergeAll f rest).declaredNames := by
  induction rest generalizing f with
  | nil => exact h
  | cons g rest ih => exact ih (declaredNames_mergeWith (Or.inl h))

/-- A field with a name declares no other one. -/
theorem agreed_of_fieldName (h : fieldName k f = .ok name) : f.Agreed := by
  unfold fieldName at h
  intro x hx y hy
  rw [← OrderedSet.mem_toList] at hx hy
  split at h
  · next hnone =>
    rw [hnone] at hx
    exact absurd hx List.not_mem_nil
  · next hone =>
    rw [hone] at hx hy
    rw [List.mem_singleton.1 hx, List.mem_singleton.1 hy]
  · cases h

/-! ## Joined shapes -/

/-- The conjunction of shapes one after the other; a single shape is left as it is. -/
def Shape.joined (s : Shape) (shapes : List Shape) : Shape :=
  shapes.foldl (fun joined s => Shape.conj [joined, s]) s

theorem mergeWith_of_agreed (h : (f.mergeWith g).Agreed) :
    f.mergeWith g =
      ⟨f.edge, f.label.or g.label, Shape.conj [f.shape, g.shape]⟩ := by
  have hlabels : ∀ first second, f.label = some first → g.label = some second →
      first = second := fun first second hf hg =>
    h _ (declaredNames_mergeWith (Or.inl (mem_declaredNames.2 (Or.inl hf))))
      _ (declaredNames_mergeWith (Or.inr (mem_declaredNames.2 (Or.inl hg))))
  obtain ⟨edge, first, s⟩ := f
  obtain ⟨edge', second, t⟩ := g
  cases first with
  | none => rfl
  | some first =>
    cases second with
    | none => rfl
    | some second =>
      unfold Field.mergeWith
      dsimp only
      rw [if_pos (hlabels first second rfl rfl)]
      rfl

/-- Fields that declare one name at most are merged without a conflict of labels. -/
theorem joined_of_agreed {rest : List Field} (h : (mergeAll f rest).Agreed) :
    mergeAll f rest = ⟨f.edge, (f :: rest).findSome? (·.label),
      Shape.joined f.shape (rest.map (·.shape))⟩ := by
  induction rest generalizing f with
  | nil =>
    obtain ⟨edge, label, s⟩ := f
    cases label <;> rfl
  | cons g rest ih =>
    have hfirst : (f.mergeWith g).Agreed := fun x hx y hy =>
      h x (declaredNames_mergeAll rest hx) y (declaredNames_mergeAll rest hy)
    have hmerge := mergeWith_of_agreed hfirst
    show mergeAll (f.mergeWith g) rest = _
    rw [ih h, hmerge, List.map_cons]
    cases hf : f.label with
    | none => simp [List.findSome?_cons, hf, Shape.joined]
    | some label => simp [hf, Shape.joined]

/-- Shapes in normal form are conjoined at once as well as one by one. -/
theorem Shape.joined_eq_conj {s : Shape} {shapes : List Shape} (hs : s.Normal)
    (h : ∀ x ∈ shapes, x.Normal) : Shape.joined s shapes = Shape.conj (s :: shapes) := by
  induction shapes generalizing s with
  | nil => exact (Connective.build_singleton (c := .all) hs).symm
  | cons x shapes ih =>
    obtain ⟨hx, hshapes⟩ := List.forall_mem_cons.1 h
    have hpair : ∀ y ∈ [s, x], y.Normal := by simp [hs, hx]
    show Shape.joined (Shape.conj [s, x]) shapes = _
    have hnormal : (Shape.conj [s, x]).Normal := Shape.normal_build (c := .all) hpair
    rw [ih hnormal hshapes]
    refine Connective.build_congr (c := .all) ?_
    have hbranches := Connective.branches_build (c := .all) hpair
    rw [List.flatMap_cons]
    show (Connective.all.branches (Connective.all.build [s, x]) ++ _).eraseDups = _
    rw [hbranches]
    have htwice : ∀ xs : List Shape, xs.eraseDups.eraseDups = xs.eraseDups := fun xs =>
      eraseDups_eq_self (nodup_eraseDups xs)
    rw [eraseDups_append_congr (htwice _) rfl]
    simp only [List.flatMap_cons, List.flatMap_nil, List.append_nil, List.append_assoc]

/-! ## Exact tables -/

namespace Aliases

/-- A table is exact: it lists the edges of a level in the order they are met, each once, with
the shapes of all fields on it conjoined in order, under names that tell the edges apart from each
other and from keywords. -/
structure Exact (k : Keywords) (shape : Shape) (a : Aliases) : Prop where
  names_distinct : (a.entries.map (·.1)).Nodup
  edges_distinct : (a.entries.map (·.2.edge)).Nodup
  get?_iff : ∀ name f, a.get? name = some f ↔ (name, f) ∈ a.entries
  edges_listed : a.entries.map (·.2.edge) = (shape.fields.map (·.edge)).eraseDups
  shapes_joined : ∀ e ∈ a.entries, ∃ f rest, fieldsOn e.2.edge shape.fields = f :: rest ∧
    e.2.label = (f :: rest).findSome? (·.label) ∧
    e.2.shape = Shape.joined f.shape (rest.map (·.shape)) ∧
    ((∀ g ∈ f :: rest, g.shape.Normal) →
      e.2.shape = Shape.conj ((f :: rest).map (·.shape)))
  edges_named : ∀ f ∈ shape.fields, ∃ name g,
    a.nameOf? f.edge = some name ∧ a.get? name = some g ∧ g.edge = f.edge
  names_apart : ∀ e ∈ a.entries, Text.isWord e.1 = true ∧ k.keyword? e.1 = none ∨
    e.2.edge = ⟨Rdf.type, false⟩ ∧ e.1 = k.nameOf Keyword.type

/-- Where there is a table, it is exact. -/
theorem exact_of_ofShape (h : ofShape shape k = .ok a) : Exact k shape a := by
  have hfields := ofShape_fields h
  have hlisted : a.entries.map (·.2.edge) = (shape.fields.map (·.edge)).eraseDups := by
    rw [← mergedFields_edges, ← hfields, List.map_map]
    rfl
  have hget : ∀ name f, a.get? name = some f ↔ (name, f) ∈ a.entries :=
    fun name f => ⟨mem_of_get?, get?_of_mem h⟩
  refine ⟨(ofShape_ok h).1, hlisted ▸ nodup_eraseDups _, hget, hlisted, ?_, ?_, ?_⟩
  · intro e he
    have hmem : e.2 ∈ mergedFields shape.fields := hfields ▸ List.mem_map_of_mem he
    obtain ⟨f, rest, hon, hmerged⟩ := merged_of_mem hmem
    have hagreed := agreed_of_fieldName ((ofShape_ok h).2 e he)
    rw [hmerged] at hagreed
    have hjoined := hmerged.trans (joined_of_agreed hagreed)
    refine ⟨f, rest, hon, congrArg Field.label hjoined, congrArg Field.shape hjoined, ?_⟩
    intro hnormal
    obtain ⟨hf, hrest⟩ := List.forall_mem_cons.1 hnormal
    refine (congrArg Field.shape hjoined).trans (Shape.joined_eq_conj hf ?_)
    exact List.forall_mem_map.2 hrest
  · intro f hf
    obtain ⟨name, hname⟩ := nameOf?_of_mem_fields h hf
    obtain ⟨g, hget, hedge⟩ := get?_of_nameOf? h hname
    exact ⟨name, g, hname, hget, hedge⟩
  · intro e he
    rcases fieldName_ok ((ofShape_ok h).2 e he) with ⟨hword, hl, hr⟩ | ⟨hname, hedge⟩
    · exact Or.inl ⟨hword, Keywords.keyword?_eq_none hl hr⟩
    · exact Or.inr ⟨hedge, hname⟩

/-- Fields in several branches: types, two fields on one edge and one against its direction. -/
def remarkFields : Shape :=
  .and [.field ⟨Rdf.type, false⟩ none (.and []),
    .when (.minCount 1) (.or [.field ⟨"urn:x:remark", false⟩ none (.minCount 1),
      .field ⟨"urn:x:remark", true⟩ none (.and [])])
      (.field ⟨"urn:x:remark", false⟩ (some "note") (.maxCount 1))]

/-- The table of `remarkFields`, where `kind` stands for the keyword for types. -/
def remarkTable : Aliases :=
  ⟨[("kind", ⟨⟨Rdf.type, false⟩, none, .and []⟩),
    ("note", ⟨⟨"urn:x:remark", false⟩, some "note", .and [.minCount 1, .maxCount 1]⟩),
    ("remarkOf", ⟨⟨"urn:x:remark", true⟩, none, .and []⟩)]⟩

theorem exact_of_ofShape_remarkFields :
    ofShape remarkFields ⟨[(Keyword.type, "kind")]⟩ = .ok remarkTable ∧
      Exact ⟨[(Keyword.type, "kind")]⟩ remarkFields remarkTable :=
  have h : ofShape remarkFields ⟨[(Keyword.type, "kind")]⟩ = .ok remarkTable := by decide +kernel
  ⟨h, exact_of_ofShape h⟩

end Aliases

end LinkedShapes
