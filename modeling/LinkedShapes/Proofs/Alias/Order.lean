import LinkedShapes.Proofs.Alias.Table

/-!
# Names do not depend on the order of declarations

Fields are merged from left to right: the first one on an edge takes in the others, adopts the first
label among them and notes every label that differs from its own. Names are then given one after the
other, and each is compared with those before it. None of this shows in the names:

* `mem_declaredNames_merged`: a merged field declares what the fields on its edge declare.
* `names_congr`: hence the names of a level depend on which fields it has, not on their order.
* `Aliases.ofShape_ok_iff`, `Aliases.nameOf?_eq_some_iff`: whether there is a table, and what it
  says, depends on these names alone.
* `Aliases.names_unordered`: the parts of a conjunction may be put in any order.
-/

namespace LinkedShapes

open Vocabulary

variable {k : Keywords} {shape : Shape} {a : Aliases} {name : String} {f g m : Field}
  {fs gs : List Field} {edge : Edge}

/-! ## Declared names -/

/-- A field that takes in another one declares what both declare. -/
theorem mem_declaredNames_mergeWith : name ∈ (f.mergeWith g).declaredNames ↔
    name ∈ f.declaredNames ∨ name ∈ g.declaredNames := by
  refine ⟨fun h => ?_, declaredNames_mergeWith⟩
  rw [mem_declaredNames] at h
  simp only [mem_declaredNames]
  unfold Field.mergeWith at h
  simp only [Shape.mem_names_conj, List.mem_append, List.mem_pair] at h
  rcases h with hlabel | ⟨s, (rfl | rfl) | hconflict, hname⟩
  · rcases Option.or_eq_some_iff.1 hlabel with hl | ⟨-, hl⟩
    · exact Or.inl (Or.inl hl)
    · exact Or.inr (Or.inl hl)
  · exact Or.inl (Or.inr hname)
  · exact Or.inr (Or.inr hname)
  · -- a label that differs from the first one is noted in the shape
    split at hconflict
    · next first second _ hsecond =>
      split at hconflict
      · exact absurd hconflict List.not_mem_nil
      · rw [List.mem_singleton.1 hconflict] at hname
        have hname : name = second := by simpa [Shape.named, Shape.names] using hname
        exact Or.inr (Or.inl (hname ▸ hsecond))
    · exact absurd hconflict List.not_mem_nil

theorem mem_declaredNames_mergeAll {rest : List Field} :
    name ∈ (mergeAll f rest).declaredNames ↔ ∃ g ∈ f :: rest, name ∈ g.declaredNames := by
  induction rest generalizing f with
  | nil => simp [mergeAll]
  | cons g rest ih =>
    show name ∈ (mergeAll (f.mergeWith g) rest).declaredNames ↔ _
    rw [ih]
    simp only [List.mem_cons, exists_eq_or_imp, mem_declaredNames_mergeWith, or_assoc]

/-- A merged field declares what the fields on its edge declare. -/
theorem mem_declaredNames_merged (h : m ∈ mergedFields fs) :
    name ∈ m.declaredNames ↔ ∃ f ∈ fs, f.edge = m.edge ∧ name ∈ f.declaredNames := by
  obtain ⟨f, rest, hon, hmerged⟩ := merged_of_mem h
  have hall : name ∈ m.declaredNames ↔ ∃ g ∈ f :: rest, name ∈ g.declaredNames := by
    rw [hmerged, mem_declaredNames_mergeAll]
  rw [hall, ← hon]
  simp only [fieldsOn, List.mem_filter, beq_iff_eq, and_assoc]

/-- The name of a field depends on its edge and on the names that it declares. -/
theorem fieldName_congr (hedge : f.edge = g.edge)
    (h : ∀ name, name ∈ f.declaredNames ↔ name ∈ g.declaredNames) :
    fieldName k f = fieldName k g := by
  have hnames : f.declaredNames.toList = g.declaredNames.toList :=
    Sorted.eq_of_mem_iff f.declaredNames.increasing g.declaredNames.increasing h
  unfold fieldName Field.isDirect
  rw [hnames, hedge]

/-! ## Names of a level -/

/-- The fields of a level give an edge a name. -/
def Names (k : Keywords) (fs : List Field) (edge : Edge) (name : String) : Prop :=
  ∃ m ∈ mergedFields fs, m.edge = edge ∧ fieldName k m = .ok name

theorem exists_merged (h : f ∈ fs) : ∃ m ∈ mergedFields fs, m.edge = f.edge := by
  obtain ⟨m, hm, hedge, -⟩ := absorbs_mergedFields h
  exact ⟨m, hm, hedge⟩

/-- The names of a level depend on which fields it has, not on their order. -/
theorem names_congr (h : ∀ f, f ∈ fs ↔ f ∈ gs) : Names k fs edge name ↔ Names k gs edge name := by
  have hone : ∀ {fs gs : List Field}, (∀ f, f ∈ fs ↔ f ∈ gs) →
      Names k fs edge name → Names k gs edge name := by
    rintro fs gs h ⟨m, hm, hedge, hname⟩
    obtain ⟨f, hf, hfm⟩ := edge_of_merged hm
    obtain ⟨m', hm', hedge'⟩ := exists_merged ((h f).1 hf)
    refine ⟨m', hm', (hedge'.trans hfm).trans hedge, hname ▸ ?_⟩
    refine fieldName_congr (hedge'.trans hfm) fun x => ?_
    rw [mem_declaredNames_merged hm, mem_declaredNames_merged hm', hedge', hfm]
    simp only [h]
  exact ⟨hone h, hone fun f => (h f).symm⟩

theorem edges_nodup (fs : List Field) : ((mergedFields fs).map (·.edge)).Nodup :=
  mergedFields_edges fs ▸ nodup_eraseDups _

/-- An edge has one name at most. -/
theorem Names.unique {other : String} (h : Names k fs edge name) (h' : Names k fs edge other) :
    name = other := by
  obtain ⟨m, hm, hedge, hname⟩ := h
  obtain ⟨m', hm', hedge', hother⟩ := h'
  rw [List.inj_on_of_nodup_map (edges_nodup fs) hm hm' (hedge.trans hedge'.symm), hother] at hname
  exact (Except.ok.inj hname).symm

/-! ## Tables -/

namespace Aliases

/-- Fields whose names differ are added to a table one after the other. -/
theorem addAll_of_nodup {es : List (String × Field)} (hes : ∀ e ∈ es, fieldName k e.2 = .ok e.1)
    (hnodup : ((a.entries ++ es).map (·.1)).Nodup) :
    addAll k a (es.map (·.2)) = .ok ⟨a.entries ++ es⟩ := by
  induction es generalizing a with
  | nil => rw [List.append_nil]; rfl
  | cons e es ih =>
    obtain ⟨he, hes⟩ := List.forall_mem_cons.1 hes
    have hnew : a.get? e.1 = none := by
      refine List.lookup_eq_none_iff.2 fun old hold => ?_
      rw [List.map_append, List.map_cons, List.nodup_append] at hnodup
      have hne := hnodup.2.2 old.1 (List.mem_map_of_mem hold) e.1 List.mem_cons_self
      simpa using Ne.symm hne
    have hsplit : a.entries ++ e :: es = (a.entries ++ [e]) ++ es := by simp
    rw [List.map_cons, addAll, he]
    dsimp only [bind, Except.bind]
    rw [hnew, hsplit]
    rw [hsplit] at hnodup
    exact ih hes hnodup

/-- What a table says is what the fields of its level are named. -/
theorem nameOf?_eq_some_iff (h : ofShape shape k = .ok a) :
    a.nameOf? edge = some name ↔ Names k shape.fields edge name := by
  have hof : ∀ {name}, a.nameOf? edge = some name → Names k shape.fields edge name := by
    intro name hname
    obtain ⟨e, he, rfl⟩ := Option.map_eq_some_iff.1 hname
    have hmem := List.mem_of_find?_eq_some he
    exact ⟨e.2, mem_mergedFields h hmem, by simpa using List.find?_some he, (ofShape_ok h).2 e hmem⟩
  refine ⟨hof, ?_⟩
  rintro ⟨m, hm, hedge, hname⟩
  obtain ⟨f, hf, hfm⟩ := edge_of_merged hm
  obtain ⟨other, hother⟩ := nameOf?_of_mem_fields h hf
  rw [hfm.trans hedge] at hother
  rw [hother, Names.unique ⟨m, hm, hedge, hname⟩ (hof hother)]

/-- There is a table iff every edge has a name, and no two edges have the same. -/
theorem ofShape_ok_iff : (∃ a, ofShape shape k = .ok a) ↔
    (∀ f ∈ shape.fields, ∃ name, Names k shape.fields f.edge name) ∧
      ∀ edge edge' name, Names k shape.fields edge name → Names k shape.fields edge' name →
        edge = edge' := by
  constructor
  · rintro ⟨a, h⟩
    refine ⟨fun f hf => ?_, fun edge edge' name hname hname' => ?_⟩
    · exact (nameOf?_of_mem_fields h hf).imp fun _ => (nameOf?_eq_some_iff h).1
    · obtain ⟨f, hget, hedge⟩ := get?_of_nameOf? h ((nameOf?_eq_some_iff h).2 hname)
      obtain ⟨f', hget', hedge'⟩ := get?_of_nameOf? h ((nameOf?_eq_some_iff h).2 hname')
      rw [hget, Option.some.injEq] at hget'
      rw [← hedge, hget', hedge']
  · rintro ⟨hnamed, hapart⟩
    -- every merged field with its name, which exists
    have hname : ∀ m ∈ mergedFields shape.fields, ∃ name, fieldName k m = .ok name := by
      intro m hm
      obtain ⟨f, hf, hfm⟩ := edge_of_merged hm
      obtain ⟨name, m', hm', hedge, hname⟩ := hnamed f hf
      rw [← List.inj_on_of_nodup_map (edges_nodup shape.fields) hm' hm (hedge.trans hfm)]
      exact ⟨name, hname⟩
    choose! nameOf hnameOf using hname
    have hentries : ∀ e ∈ (mergedFields shape.fields).map fun m => (nameOf m, m),
        fieldName k e.2 = .ok e.1 := by
      intro e he
      obtain ⟨m, hm, rfl⟩ := List.mem_map.1 he
      exact hnameOf m hm
    have hnodup : (((mergedFields shape.fields).map fun m => (nameOf m, m)).map (·.1)).Nodup := by
      rw [List.map_map]
      refine (List.Nodup.of_map _ (edges_nodup shape.fields)).map_on fun m hm m' hm' heq => ?_
      refine List.inj_on_of_nodup_map (edges_nodup shape.fields) hm hm' ?_
      exact hapart _ _ (nameOf m) ⟨m, hm, rfl, hnameOf m hm⟩
        ⟨m', hm', rfl, (show nameOf m = nameOf m' from heq) ▸ hnameOf m' hm'⟩
    have htable := addAll_of_nodup (a := ⟨[]⟩) hentries hnodup
    rw [List.map_map, show (Prod.snd ∘ fun m => (nameOf m, m)) = id from rfl, List.map_id] at htable
    exact ⟨_, htable⟩

/-! ## Order -/

/-- Two shapes have tables that give the same names to the same edges, or both have none. -/
structure NamedAlike (k : Keywords) (x y : Shape) : Prop where
  table_iff : (∃ a, ofShape x k = .ok a) ↔ ∃ b, ofShape y k = .ok b
  names_eq : ∀ a b, ofShape x k = .ok a → ofShape y k = .ok b →
    ∀ edge, a.nameOf? edge = b.nameOf? edge

/-- The names of a shape depend on the fields it has. -/
theorem namedAlike_of_fields {x y : Shape} (h : ∀ f, f ∈ x.fields ↔ f ∈ y.fields) :
    NamedAlike k x y where
  table_iff := by
    rw [ofShape_ok_iff, ofShape_ok_iff]
    simp only [names_congr h, h]
  names_eq := by
    intro a b ha hb edge
    refine Option.ext fun name => ?_
    rw [nameOf?_eq_some_iff ha, nameOf?_eq_some_iff hb, names_congr h]

/-- The parts of a conjunction may be put in any order, whether they are built into one or stand
for themselves: there are names for the fields or there are none, and they are the same. -/
theorem names_unordered (k : Keywords) {xs ys : List Shape} (h : ys.Perm xs) :
    NamedAlike k (.and xs) (.and ys) ∧ NamedAlike k (Shape.conj xs) (Shape.conj ys) := by
  constructor
  · refine namedAlike_of_fields fun f => ?_
    show f ∈ Shape.fieldsOfAll xs ↔ f ∈ Shape.fieldsOfAll ys
    simp only [Shape.mem_fieldsOfAll, h.mem_iff]
  · refine namedAlike_of_fields fun f => ?_
    simp only [Shape.mem_fields_conj, h.mem_iff]

/-- Fields on one edge, with a label, an annotation or neither, among alternatives and others. -/
def remarkParts : List Shape :=
  [.field ⟨"urn:x:remark", false⟩ none (.minCount 1),
    .or [.field ⟨"urn:x:remark", false⟩ (some "note") (.maxCount 1),
      .link "urn:x:l" (.field ⟨"urn:x:remark", true⟩ none (.and []))],
    .field ⟨"urn:x:remark", false⟩ none (Shape.named "note"),
    .when (.minCount 1) (.field ⟨Rdf.type, false⟩ none (.and [])) (.and [])]

/-- Whichever part comes first, the edges of `remarkParts` have the same names. -/
theorem names_unordered_remarkParts :
    remarkParts.reverse.Perm remarkParts ∧
      (∃ a, ofShape (.and remarkParts) .none = .ok a ∧
        a.nameOf? ⟨"urn:x:remark", false⟩ = some "note") ∧
      NamedAlike .none (.and remarkParts) (.and remarkParts.reverse) :=
  have htable : (ofShape (.and remarkParts) .none).toOption.bind
      (·.nameOf? ⟨"urn:x:remark", false⟩) = some "note" := by decide +kernel
  have hexists : ∃ a, ofShape (.and remarkParts) .none = .ok a ∧
      a.nameOf? ⟨"urn:x:remark", false⟩ = some "note" := by
    cases h : ofShape (.and remarkParts) .none with
    | error e =>
      rw [h] at htable
      cases htable
    | ok a =>
      rw [h] at htable
      exact ⟨a, rfl, htable⟩
  ⟨remarkParts.reverse_perm, hexists, (names_unordered .none remarkParts.reverse_perm).1⟩

end Aliases

end LinkedShapes
