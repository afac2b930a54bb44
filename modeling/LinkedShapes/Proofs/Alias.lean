import LinkedShapes.Alias
import LinkedShapes.Proofs.Keywords
import LinkedShapes.Proofs.Shape

/-!
# Alias tables that succeed

* `Aliases.ofShape_ok`: the names of a table are distinct, and each is the name of its field.
* `Aliases.get?_nameOf`: no field goes by the name of a keyword, that of types apart.
* `absorbs_mergedFields`, `mem_fields_mergedFields`: a merged field has all that the fields on its
  edge have, and nothing else.
* `Shape.depth_lt_of_mem`: the shapes of the fields in a table are nested less deep.
* `Level`: the shapes that are reached from a shape through the tables. They can be listed:
  `Level.mem_of_closed`.
-/

namespace LinkedShapes

open Vocabulary

variable {k : Keywords} {shape : Shape} {a : Aliases} {name : String} {f : Field}

/-! ## Association lists -/

section Lookup

variable {α β : Type _} [BEq α] [LawfulBEq α] {entries : List (α × β)} {key : α} {value : β}

theorem mem_of_lookup (h : entries.lookup key = some value) : (key, value) ∈ entries := by
  obtain ⟨before, after, rfl, -⟩ := List.lookup_eq_some_iff.1 h
  exact List.mem_append_right _ List.mem_cons_self

theorem lookup_of_mem (h : (entries.map (·.1)).Nodup) (hm : (key, value) ∈ entries) :
    entries.lookup key = some value := by
  induction entries with
  | nil => exact absurd hm List.not_mem_nil
  | cons e es ih =>
    rw [List.map_cons, List.nodup_cons] at h
    rcases List.mem_cons.1 hm with rfl | hm
    · exact List.lookup_cons_self
    · have hne : key ≠ e.1 := by
        rintro rfl
        exact h.1 (List.mem_map.2 ⟨_, hm, rfl⟩)
      rw [List.lookup_cons, beq_false_of_ne hne]
      exact ih h.2 hm

end Lookup

/-! ## Names of fields -/

theorem checkName_ok {edge : Edge} {text : String} (h : checkName k edge text = .ok name) :
    name = text ∧ Text.isWord name = true ∧
      Keywords.looksReserved name = false ∧ k.isReserved name = false := by
  unfold checkName at h
  split at h
  · cases h
  · next hw =>
    split at h
    · cases h
    · next hr =>
      cases h
      rw [Bool.or_eq_true, not_or] at hr
      exact ⟨rfl, by simpa using hw, by simpa using hr.1, by simpa using hr.2⟩

/-- The name of a field is a word that is not taken, unless it is that of the keyword for
types. -/
theorem fieldName_ok (h : fieldName k f = .ok name) :
    (Text.isWord name = true ∧ Keywords.looksReserved name = false ∧
      k.isReserved name = false) ∨
      name = k.nameOf Keyword.type ∧ f.edge = ⟨Rdf.type, false⟩ := by
  unfold fieldName at h
  split at h
  · split at h
    · next ht =>
      cases h
      obtain ⟨hd, hi⟩ := Bool.and_eq_true_iff.1 ht
      refine Or.inr ⟨rfl, ?_⟩
      obtain ⟨⟨iri, inverse⟩, label, shape⟩ := f
      simp only [Field.isDirect] at hd
      simp_all
    · split at h
      · exact Or.inl (checkName_ok h).2
      · cases h
  · exact Or.inl (checkName_ok h).2
  · cases h

/-! ## Tables -/

namespace Aliases

/-- A field is added to a table under its name, which no field before it has. -/
theorem addAll_cons {b : Aliases} {fs : List Field} (h : addAll k a (f :: fs) = .ok b) :
    ∃ name, fieldName k f = .ok name ∧ a.get? name = none ∧
      addAll k ⟨a.entries ++ [(name, f)]⟩ fs = .ok b := by
  unfold addAll at h
  cases hn : fieldName k f with
  | error e =>
    rw [hn] at h
    cases h
  | ok name =>
    rw [hn] at h
    dsimp only [bind, Except.bind] at h
    split at h
    · cases h
    · next hg => exact ⟨name, rfl, hg, h⟩

theorem addAll_ok {b : Aliases} {fs : List Field} (h : addAll k a fs = .ok b) :
    ∃ es, b.entries = a.entries ++ es ∧ es.map (·.2) = fs ∧
      (∀ e ∈ es, fieldName k e.2 = .ok e.1) ∧
      ((a.entries.map (·.1)).Nodup → (b.entries.map (·.1)).Nodup) := by
  induction fs generalizing a with
  | nil =>
    cases h
    exact ⟨[], (List.append_nil _).symm, rfl, fun _ he => absurd he List.not_mem_nil, id⟩
  | cons f fs ih =>
    obtain ⟨name, hn, hg, h⟩ := addAll_cons h
    obtain ⟨es, heq, hfields, hes, hnodup⟩ := ih h
    refine ⟨(name, f) :: es, ?_, ?_, ?_, ?_⟩
    · rw [heq, List.append_assoc, List.singleton_append]
    · rw [List.map_cons, hfields]
    · intro e he
      rcases List.mem_cons.1 he with rfl | he
      · exact hn
      · exact hes e he
    · intro ha
      refine hnodup ?_
      rw [List.map_append, List.nodup_append]
      refine ⟨ha, List.nodup_singleton _, ?_⟩
      intro x hx y hy
      rw [List.map_singleton, List.mem_singleton] at hy
      rintro rfl
      obtain ⟨e, he, hex⟩ := List.mem_map.1 hx
      have hne := List.lookup_eq_none_iff.1 hg e he
      rw [hex, hy] at hne
      simp at hne

/-- The fields of a table are the merged fields of its shape. -/
theorem ofShape_fields (h : ofShape shape k = .ok a) :
    a.entries.map (·.2) = mergedFields shape.fields := by
  obtain ⟨es, heq, hfields, -, -⟩ := addAll_ok h
  rw [heq, List.nil_append, hfields]

theorem mem_mergedFields (h : ofShape shape k = .ok a) {e : String × Field}
    (he : e ∈ a.entries) : e.2 ∈ mergedFields shape.fields := by
  rw [← ofShape_fields h]
  exact List.mem_map_of_mem he

/-- The names of a table are distinct, and each is the name of its field. -/
theorem ofShape_ok (h : ofShape shape k = .ok a) :
    (a.entries.map (·.1)).Nodup ∧
      ∀ e ∈ a.entries, fieldName k e.2 = .ok e.1 := by
  obtain ⟨es, heq, -, hes, hnodup⟩ := addAll_ok h
  rw [List.nil_append] at heq
  exact ⟨hnodup List.nodup_nil, heq ▸ hes⟩

theorem get?_of_mem (h : ofShape shape k = .ok a) (hm : (name, f) ∈ a.entries) :
    a.get? name = some f :=
  lookup_of_mem (ofShape_ok h).1 hm

theorem mem_of_get? (h : a.get? name = some f) : (name, f) ∈ a.entries := mem_of_lookup h

/-- No field goes by the name of a keyword, that of types apart. -/
theorem get?_nameOf (hk : k.check = .ok ()) (h : ofShape shape k = .ok a) {keyword : String}
    (hl : Keywords.looksReserved keyword = true) (ht : keyword ≠ Keyword.type) :
    a.get? (k.nameOf keyword) = none := by
  cases hg : a.get? (k.nameOf keyword) with
  | none => rfl
  | some f =>
    rcases fieldName_ok ((ofShape_ok h).2 _ (mem_of_get? hg)) with ⟨-, hno, hnr⟩ | ⟨heq, -⟩
    · rcases Keywords.reserved_of_nameOf hl with hr | hr
      · rw [hr] at hno
        cases hno
      · rw [hr] at hnr
        cases hnr
    · exact absurd (Keywords.nameOf_injective hk hl (by decide) heq) ht

/-- Shapes without fields have tables without entries. -/
theorem ofShape_of_no_fields (hf : shape.fields = []) : ofShape shape k = .ok ⟨[]⟩ := by
  rw [ofShape, hf]
  rfl

end Aliases

/-! ## Merged fields -/

section Probe

variable {α : Type} {probe : Shape → List α} {x : α}

/-- What a probe finds in a merged field is what it finds in the two parts. -/
theorem mem_probe_mergeWith {f g : Field}
    (hand : ∀ shapes, x ∈ probe (.and shapes) ↔ ∃ s ∈ shapes, x ∈ probe s)
    (hnamed : ∀ name, x ∉ probe (.named name)) :
    x ∈ probe (f.mergeWith g).shape ↔ x ∈ probe f.shape ∨ x ∈ probe g.shape := by
  have hnone : ∀ conflict : List Shape, (∀ s ∈ conflict, x ∉ probe s) →
      (x ∈ probe (Shape.conj ([f.shape, g.shape] ++ conflict)) ↔
        x ∈ probe f.shape ∨ x ∈ probe g.shape) := by
    intro conflict hc
    rw [Shape.mem_probe_conj hand]
    constructor
    · rintro ⟨s, hs, hx⟩
      rcases List.mem_append.1 hs with hs | hs
      · rcases List.mem_pair.1 hs with rfl | rfl
        · exact Or.inl hx
        · exact Or.inr hx
      · exact absurd hx (hc s hs)
    · rintro (hx | hx)
      · exact ⟨f.shape, by simp, hx⟩
      · exact ⟨g.shape, by simp, hx⟩
  refine hnone _ fun s hs => ?_
  -- a second label only adds a name
  split at hs
  · split at hs
    · exact absurd hs List.not_mem_nil
    · rw [List.mem_singleton.1 hs]
      exact hnamed _
  · exact absurd hs List.not_mem_nil

/-- What a field has after one is merged in comes from a field on its edge. -/
theorem mem_probe_mergeField {g h : Field} {fs : List Field}
    (hand : ∀ shapes, x ∈ probe (.and shapes) ↔ ∃ s ∈ shapes, x ∈ probe s)
    (hnamed : ∀ name, x ∉ probe (.named name)) (hm : h ∈ mergeField g fs)
    (hx : x ∈ probe h.shape) :
    g.edge = h.edge ∧ x ∈ probe g.shape ∨ ∃ f ∈ fs, f.edge = h.edge ∧ x ∈ probe f.shape := by
  induction fs with
  | nil =>
    rw [List.mem_singleton.1 hm] at hx ⊢
    exact Or.inl ⟨rfl, hx⟩
  | cons first fs ih =>
    unfold mergeField at hm
    split at hm
    · next he =>
      rcases List.mem_cons.1 hm with rfl | hm
      · rcases (mem_probe_mergeWith hand hnamed).1 hx with hx | hx
        · exact Or.inr ⟨first, List.mem_cons_self, rfl, hx⟩
        · exact Or.inl ⟨he.symm, hx⟩
      · exact Or.inr ⟨h, List.mem_cons_of_mem _ hm, rfl, hx⟩
    · rcases List.mem_cons.1 hm with rfl | hm
      · exact Or.inr ⟨h, List.mem_cons_self, rfl, hx⟩
      · rcases ih hm with hx | ⟨f, hf, hx⟩
        · exact Or.inl hx
        · exact Or.inr ⟨f, List.mem_cons_of_mem _ hf, hx⟩

/-- A merged field has nothing but what the fields on its edge have, names apart. -/
theorem mem_probe_mergedFields {h : Field} {fs : List Field}
    (hand : ∀ shapes, x ∈ probe (.and shapes) ↔ ∃ s ∈ shapes, x ∈ probe s)
    (hnamed : ∀ name, x ∉ probe (.named name)) (hm : h ∈ mergedFields fs)
    (hx : x ∈ probe h.shape) : ∃ f ∈ fs, f.edge = h.edge ∧ x ∈ probe f.shape := by
  have hfold : ∀ (fs merged : List Field),
      h ∈ fs.foldl (fun merged f => mergeField f merged) merged →
      ∃ f ∈ merged ++ fs, f.edge = h.edge ∧ x ∈ probe f.shape := by
    intro fs
    induction fs with
    | nil => exact fun merged hm => ⟨h, by simpa using hm, rfl, hx⟩
    | cons g fs ih =>
      intro merged hm
      obtain ⟨f, hf, he, hxf⟩ := ih _ hm
      rcases List.mem_append.1 hf with hf | hf
      · rcases mem_probe_mergeField hand hnamed hf hxf with ⟨hg, hxg⟩ | ⟨f', hf', he', hxf'⟩
        · exact ⟨g, by simp, hg.trans he, hxg⟩
        · exact ⟨f', List.mem_append_left _ hf', he'.trans he, hxf'⟩
      · exact ⟨f, by simp [hf], he, hxf⟩
  exact hfold fs [] hm

end Probe

/-- The fields of a merged field are those of its two parts. -/
theorem mem_fields_mergeWith {f g h : Field} :
    h ∈ (f.mergeWith g).shape.fields ↔ h ∈ f.shape.fields ∨ h ∈ g.shape.fields :=
  mem_probe_mergeWith (fun _ => Shape.mem_fieldsOfAll) fun _ => List.not_mem_nil

/-- One of the fields is on the edge of `g` and has all fields that `g` has. -/
def Absorbs (fs : List Field) (g : Field) : Prop :=
  ∃ h ∈ fs, h.edge = g.edge ∧ g.shape.fields ⊆ h.shape.fields

theorem absorbs_mergeField {g f : Field} {fs : List Field} (h : f = g ∨ Absorbs fs f) :
    Absorbs (mergeField g fs) f := by
  induction fs with
  | nil =>
    rcases h with rfl | ⟨h, hm, -⟩
    · exact ⟨f, List.mem_cons_self, rfl, List.Subset.refl _⟩
    · exact absurd hm List.not_mem_nil
  | cons first fs ih =>
    unfold mergeField
    split
    · next he =>
      rcases h with rfl | ⟨h, hm, hedge, hsub⟩
      · exact ⟨_, List.mem_cons_self, he, fun x hx => mem_fields_mergeWith.2 (Or.inr hx)⟩
      · rcases List.mem_cons.1 hm with rfl | hm
        · exact ⟨_, List.mem_cons_self, hedge,
            fun x hx => mem_fields_mergeWith.2 (Or.inl (hsub hx))⟩
        · exact ⟨h, List.mem_cons_of_mem _ hm, hedge, hsub⟩
    · have hrest : first.edge = f.edge ∧ f.shape.fields ⊆ first.shape.fields ∨
          (f = g ∨ Absorbs fs f) := by
        rcases h with rfl | ⟨h, hm, hedge, hsub⟩
        · exact Or.inr (Or.inl rfl)
        · rcases List.mem_cons.1 hm with rfl | hm
          · exact Or.inl ⟨hedge, hsub⟩
          · exact Or.inr (Or.inr ⟨h, hm, hedge, hsub⟩)
      rcases hrest with ⟨hedge, hsub⟩ | hrest
      · exact ⟨first, List.mem_cons_self, hedge, hsub⟩
      · obtain ⟨h, hm, hedge, hsub⟩ := ih hrest
        exact ⟨h, List.mem_cons_of_mem _ hm, hedge, hsub⟩

/-- A merged field has all that the fields on its edge have. -/
theorem absorbs_mergedFields {fs : List Field} (h : f ∈ fs) : Absorbs (mergedFields fs) f := by
  have hfold : ∀ (fs merged : List Field), f ∈ fs ∨ Absorbs merged f →
      Absorbs (fs.foldl (fun merged f => mergeField f merged) merged) f := by
    intro fs
    induction fs with
    | nil => exact fun merged h => h.resolve_left List.not_mem_nil
    | cons g fs ih =>
      intro merged h
      refine ih _ ?_
      rcases h with h | h
      · rcases List.mem_cons.1 h with rfl | h
        · exact Or.inr (absorbs_mergeField (Or.inl rfl))
        · exact Or.inl h
      · exact Or.inr (absorbs_mergeField (Or.inr h))
  exact hfold fs [] (Or.inl h)

/-- A table has a name for the edge of each field of its shape. -/
theorem Aliases.nameOf?_of_mem_fields (h : Aliases.ofShape shape k = .ok a)
    (hf : f ∈ shape.fields) : ∃ name, a.nameOf? f.edge = some name := by
  obtain ⟨merged, hm, hedge, -⟩ := absorbs_mergedFields hf
  rw [← Aliases.ofShape_fields h] at hm
  obtain ⟨e, he, rfl⟩ := List.mem_map.1 hm
  have hsome : (a.entries.find? (·.2.edge == f.edge)).isSome = true :=
    List.find?_isSome.2 ⟨e, he, beq_iff_eq.2 hedge⟩
  obtain ⟨found, hfound⟩ := Option.isSome_iff_exists.1 hsome
  exact ⟨found.1, by rw [Aliases.nameOf?, hfound, Option.map_some]⟩

theorem Aliases.get?_of_nameOf? {edge : Edge} (h : Aliases.ofShape shape k = .ok a)
    (hn : a.nameOf? edge = some name) : ∃ f, a.get? name = some f ∧ f.edge = edge := by
  unfold nameOf? at hn
  obtain ⟨e, he, rfl⟩ := Option.map_eq_some_iff.1 hn
  have hedge := List.find?_some he
  exact ⟨e.2, get?_of_mem h (List.mem_of_find?_eq_some he), by simpa using hedge⟩

/-- A merged field has nothing but what the fields on its edge have. -/
theorem mem_fields_mergedFields {h x : Field} {fs : List Field} (hm : h ∈ mergedFields fs)
    (hx : x ∈ h.shape.fields) : ∃ f ∈ fs, f.edge = h.edge ∧ x ∈ f.shape.fields :=
  mem_probe_mergedFields (fun _ => Shape.mem_fieldsOfAll) (fun _ => List.not_mem_nil) hm hx

/-! ## Depth -/

namespace Shape

/-- The shapes of the fields in a table are nested less deep. -/
theorem depth_lt_of_mem (h : Aliases.ofShape shape k = .ok a) (hm : (name, f) ∈ a.entries) :
    f.shape.depth < shape.depth := by
  have hf : f ∈ mergedFields shape.fields := Aliases.mem_mergedFields h hm
  cases hfields : shape.fields with
  | nil =>
    rw [hfields] at hf
    exact absurd hf List.not_mem_nil
  | cons g gs =>
    have hpos := depth_lt_of_mem_fields (hfields ▸ List.mem_cons_self : g ∈ shape.fields)
    have hle : f.shape.depth ≤ shape.depth - 1 := by
      refine depth_le_iff.2 fun x hx => ?_
      obtain ⟨y, hy, -, hxy⟩ := mem_fields_mergedFields hf hx
      have hy := depth_lt_of_mem_fields hy
      have hxy := depth_lt_of_mem_fields hxy
      omega
    omega

end Shape

/-! ## Levels -/

/-- The shapes that are reached from a shape through the fields of its tables. -/
inductive Level (k : Keywords) (shape : Shape) : Shape → Prop
  | top : Level k shape shape
  | field {outer : Shape} {a : Aliases} {name : String} {f : Field} :
      Level k shape outer → Aliases.ofShape outer k = .ok a → (name, f) ∈ a.entries →
      Level k shape f.shape

/-- What is reached from the shape of a field is reached from the shape around it. -/
theorem Level.under {inner : Shape} (h : Aliases.ofShape shape k = .ok a)
    (hm : (name, f) ∈ a.entries) (hl : Level k f.shape inner) : Level k shape inner := by
  induction hl with
  | top => exact .field .top h hm
  | field _ ho hm ih => exact .field ih ho hm

/-- Have all of the shapes tables, with fields whose shapes are among them? -/
def tablesClosed (k : Keywords) (shapes : List Shape) : Bool :=
  shapes.all fun shape =>
    match Aliases.ofShape shape k with
    | .ok a => a.entries.all fun e => shapes.contains e.2.shape
    | .error _ => false

theorem tablesClosed_iff {shapes : List Shape} : tablesClosed k shapes = true ↔
    ∀ shape ∈ shapes, ∃ a, Aliases.ofShape shape k = .ok a ∧
      ∀ e ∈ a.entries, e.2.shape ∈ shapes := by
  unfold tablesClosed
  rw [List.all_eq_true]
  refine forall_congr' fun shape => imp_congr_right fun _ => ?_
  cases Aliases.ofShape shape k with
  | error e => simp
  | ok a => simp

/-- Shapes that are closed under the fields of their tables are all that is reached from them. -/
theorem Level.mem_of_closed {shapes : List Shape} (h : tablesClosed k shapes = true)
    (hs : shape ∈ shapes) {inner : Shape} (hl : Level k shape inner) : inner ∈ shapes := by
  induction hl with
  | top => exact hs
  | field _ ha hm ih =>
    obtain ⟨b, hb, hmem⟩ := tablesClosed_iff.1 h _ ih
    rw [ha] at hb
    cases hb
    exact hmem _ hm

theorem Level.table_of_closed {shapes : List Shape} (h : tablesClosed k shapes = true)
    (hs : shape ∈ shapes) {inner : Shape} (hl : Level k shape inner) :
    ∃ a, Aliases.ofShape inner k = .ok a :=
  (tablesClosed_iff.1 h inner (hl.mem_of_closed h hs)).imp fun _ ha => ha.1

end LinkedShapes
