import Mathlib.Data.List.Pairwise
import LinkedShapes.Proofs.Description.Focus
import LinkedShapes.Proofs.Description.Members
import LinkedShapes.Proofs.Distinct

/-!
# Runs of reading

Reading threads a supply of labels, and the terms that it comes to depend on it: where a resource
has no name, a label is drawn. Two runs over the same values agree but for these labels.

* `value_leaves`, `fields_leaves`: labels are drawn one after the other, and what is read makes a
  graph.
* `Listing`: the terms of a list of values, up to the labels that are drawn for them.
* `Listing.alike`: two listings of one list have the same terms under other labels.
-/

namespace LinkedShapes.Description

open Vocabulary
open Labels (Spells)

variable {s : Setting} {shape : Shape} {a : Aliases} {path name : String} {L L' : Labels}
variable {json x : Json} {members : List (String × Json)} {r t : Term} {g : Graph}
variable {vs : List Described} {ts us us' : List Term} {xs : List Json}

/-! ## Labels and graphs -/

/-- The terms of a value are told without a label, or are a blank node that is drawn. -/
theorem termsOfValue_draws (h : termsOfValue s shape path json L = .ok (ts, L')) :
    L' = L ∧ (∀ path L, termsOfValue s shape path json L = .ok (ts, L)) ∧
        (∀ label, .blankNode label ∈ ts → Spells json.strings label) ∨
      ts = [.blankNode (L.label 0)] ∧ L' = L.after 1 ∧
        ∀ path L, termsOfValue s shape path json L =
          .ok ([.blankNode (L.label 0)], L.after 1) := by
  rcases termsOfValue_steady h with ⟨ts', hts, hwritten⟩ | hfresh
  · rw [hts] at h
    cases h
    exact Or.inl ⟨rfl, fun path L => by rw [hts]; rfl, hwritten⟩
  · rw [hfresh] at h
    cases h
    exact Or.inr ⟨rfl, rfl, fun path L => by rw [hfresh]; rfl⟩

theorem leaves_of_terms (h : termsOfValue s shape path json L = .ok (ts, L')) :
    L.Leaves L' := by
  rcases termsOfValue_draws h with ⟨rfl, -⟩ | ⟨-, rfl, -⟩
  · exact .refl _
  · exact .one _

/-- Is a graph one that can be searched by its edges? -/
def Sound (g : Graph) : Prop := g.Stored ∧ NamedPredicates g

theorem Sound.empty : Sound .empty := ⟨.empty, fun _ ht => absurd ht List.not_mem_nil⟩

theorem Sound.merge {other : Graph} (h : Sound g) (ho : Sound other) : Sound (g.merge other) := by
  refine ⟨h.1.extend _, fun u hu => ?_⟩
  rcases Graph.mem_merge.1 hu with hu | hu
  · exact h.2 u hu
  · exact ho.2 u hu

theorem Sound.fieldTriples {f : Field} (hvs : ∀ v ∈ vs, Sound v.2)
    (h : fieldTriples r f vs = .ok g) : Sound g := by
  refine ⟨stored_fieldTriples h, fun u hu => ?_⟩
  obtain ⟨v, hv, rfl | hu⟩ := (mem_fieldTriples h).1 hu
  · unfold Edge.triple
    split <;> rfl
  · exact (hvs v hv).2 u hu

theorem Sound.typeTriples (h : typeTriples s r json = .ok g) : Sound g := by
  obtain ⟨texts, -, h⟩ := ok_of_bind h
  cases h
  refine ⟨Graph.Stored.empty.extend _, fun u hu => ?_⟩
  obtain ⟨text, -, rfl⟩ := List.mem_map.1 (Graph.mem_ofList.1 hu)
  rfl

mutual

theorem value_leaves : ∀ (json : Json) {shape : Shape} {path : String} {L L' : Labels}
    {vs : List Described}, value s shape path json L = .ok (vs, L') →
    L.Leaves L' ∧ ∀ v ∈ vs, Sound v.2
  | .object members, _, _, _, _, _, h => by
    rcases value_object_run h with ⟨hlit, -, rfl⟩ | ⟨a, r, g, L₁, -, rfl, -, hterms, hfields⟩
    · refine ⟨.refl _, fun v hv => ?_⟩
      rw [(hlit v hv).2]
      exact .empty
    · obtain ⟨hle, hsound⟩ := fields_leaves members hfields
      exact ⟨(leaves_of_terms hterms).trans hle, List.forall_mem_singleton.2 hsound⟩
  | .string text, shape, path, L, L', vs, h => by
    have hterms : termsOfValue s shape path (.string text) L = .ok (vs.map (·.1), L') :=
      bind_of_ok h
    have hle := leaves_of_terms hterms
    rw [value] at h
    obtain ⟨t, L₁, -, h⟩ := run_ok_of_bind h
    cases h
    exact ⟨hle, List.forall_mem_singleton.2 .empty⟩
  | .null, _, _, _, _, _, h => by
    cases h
    exact ⟨.refl _, fun _ hv => absurd hv List.not_mem_nil⟩
  | .bool _, _, _, _, _, _, h | .number _, _, _, _, _, _, h => by
    cases h
    exact ⟨.refl _, List.forall_mem_singleton.2 .empty⟩
  | .array _, _, _, _, _, _, h => by cases h

theorem items_leaves : ∀ (xs : List Json) {shape : Shape} {path : String} {index : Nat}
    {L L' : Labels} {vs : List Described}, items s shape path index xs L = .ok (vs, L') →
    L.Leaves L' ∧ ∀ v ∈ vs, Sound v.2
  | [], _, _, _, _, _, _, h => by
    rw [items] at h
    cases h
    exact ⟨.refl _, fun _ hv => absurd hv List.not_mem_nil⟩
  | x :: xs, _, _, _, _, _, _, h => by
    obtain ⟨ws, L₁, rest, hv, hi, rfl⟩ := run_ok_of_items h
    obtain ⟨hle, hws⟩ := value_leaves x hv
    obtain ⟨hle', hrest⟩ := items_leaves xs hi
    exact ⟨hle.trans hle', List.forall_mem_append.2 ⟨hws, hrest⟩⟩

theorem fields_leaves : ∀ (members : List (String × Json)) {a : Aliases} {r : Term} {path : String}
    {L L' : Labels} {g : Graph}, fields s a r path members L = .ok (g, L') →
    L.Leaves L' ∧ Sound g
  | [], _, _, _, _, _, _, h => by
    rw [fields] at h
    cases h
    exact ⟨.refl _, .empty⟩
  | (name, json) :: members, a, r, path, L, L', g, h => by
    rw [fields_cons] at h
    obtain ⟨first, L₁, hfirst, h⟩ := run_ok_of_bind h
    obtain ⟨rest, L₂, hrest, h⟩ := run_ok_of_bind h
    cases h
    -- the first member alone: a field, a type, or a keyword that tells nothing
    have hone : L.Leaves L₁ ∧ Sound first := by
      cases hg : a.get? name with
      | some f =>
        rw [fields_values_alone hg] at hfirst
        obtain ⟨vs, L₃, hv, hfirst⟩ := run_ok_of_bind hfirst
        obtain ⟨ht, rfl⟩ := ok_of_run_lift hfirst
        have hvalues : L.Leaves L₁ ∧ ∀ v ∈ vs, Sound v.2 := by
          cases json with
          | array xs => exact items_leaves xs hv
          | _ => exact value_leaves _ hv
        exact ⟨hvalues.1, .fieldTriples hvalues.2 ht⟩
      | none =>
        cases hk : s.keywords.keyword? name with
        | none =>
          rw [fields_unknown_alone hg hk] at hfirst
          cases hfirst
        | some keyword =>
          rw [fields_keyword_alone hg hk] at hfirst
          split at hfirst
          · obtain ⟨hok, rfl⟩ := ok_of_run_lift hfirst
            exact ⟨.refl _, .typeTriples hok⟩
          · cases hfirst
            exact ⟨.refl _, .empty⟩
    obtain ⟨hle, hsound⟩ := fields_leaves members hrest
    exact ⟨hone.1.trans hle, hone.2.merge hsound⟩

end

/-- The labels drawn for a value itself come before those drawn for its members. -/
theorem terms_of_value_le (h : value s shape path json L = .ok (vs, L')) :
    ∃ L₁, termsOfValue s shape path json L = .ok (vs.map (·.1), L₁) ∧ L₁.Leaves L' := by
  cases json with
  | object members =>
    rcases value_object_run h with ⟨-, hterms, -⟩ | ⟨a, r, g, L₁, -, rfl, -, hterms, hfields⟩
    · exact ⟨L', hterms, .refl _⟩
    · exact ⟨L₁, hterms, (fields_leaves members hfields).1⟩
  | _ => exact ⟨L', bind_of_ok h, .refl _⟩

/-! ## Listings -/

/-- The terms of a list of values, with labels drawn for them from a supply, in order. -/
inductive Listing (s : Setting) (shape : Shape) : List Json → Labels → List Term → Prop
  | nil {L : Labels} : Listing s shape [] L []
  | told {x : Json} {xs : List Json} {L : Labels} {ts us : List Term} :
      (∀ path L, termsOfValue s shape path x L = .ok (ts, L)) →
      Listing s shape xs L us → Listing s shape (x :: xs) L (ts ++ us)
  | drawn {x : Json} {xs : List Json} {L : Labels} {k : Nat} {us : List Term} :
      (∀ path L, termsOfValue s shape path x L = .ok ([.blankNode (L.label 0)], L.after 1)) →
      Listing s shape xs (L.after (k + 1)) us →
      Listing s shape (x :: xs) L (.blankNode (L.label k) :: us)

/-- Labels may be drawn for something else before a listing. -/
theorem Listing.skip {count : Nat} (h : Listing s shape xs (L.after count) us) :
    Listing s shape xs L us := by
  generalize hL : L.after count = M at h
  induction h generalizing L count with
  | nil => exact .nil
  | told hx _ ih => exact .told hx (ih hL)
  | @drawn x xs M k us hx _ ih =>
    subst hL
    have hafter : (L.after (k + count + 1)).after 0 = (L.after count).after (k + 1) := by
      rw [Labels.after_zero, Labels.after_after]
      exact congrArg L.after (by omega)
    exact .drawn hx (ih hafter)

theorem Listing.weaken (h : Listing s shape xs L' us) (hl : L.Leaves L') :
    Listing s shape xs L us := by
  obtain ⟨count, rfl⟩ := hl
  exact h.skip

theorem Listing.cons (hx : termsOfValue s shape path x L = .ok (ts, L'))
    (h : Listing s shape xs L' us) : Listing s shape (x :: xs) L (ts ++ us) := by
  rcases termsOfValue_draws hx with ⟨rfl, htold, -⟩ | ⟨rfl, rfl, hdrawn⟩
  · exact .told htold h
  · exact .drawn hdrawn h

/-- Shapes that read the values alike have the same listings. -/
theorem Listing.congr {shape' : Shape} (h : Listing s shape xs L us)
    (halike : ∀ x ∈ xs, ∀ path L p, termsOfValue s shape path x L = .ok p →
      termsOfValue s shape' path x L = .ok p) : Listing s shape' xs L us := by
  induction h with
  | nil => exact .nil
  | told hx _ ih =>
    obtain ⟨hfirst, hrest⟩ := List.forall_mem_cons.1 halike
    exact .told (fun path L => hfirst path L _ (hx path L)) (ih hrest)
  | drawn hx _ ih =>
    obtain ⟨hfirst, hrest⟩ := List.forall_mem_cons.1 halike
    exact .drawn (fun path L => hfirst path L _ (hx path L)) (ih hrest)

theorem listing_of_items {index : Nat} (h : items s shape path index xs L = .ok (vs, L')) :
    Listing s shape xs L (vs.map (·.1)) := by
  induction xs generalizing index L vs L' with
  | nil =>
    rw [items] at h
    cases h
    exact .nil
  | cons x xs ih =>
    obtain ⟨ws, L₁, rest, hv, hi, rfl⟩ := run_ok_of_items h
    obtain ⟨L₂, hterms, hle⟩ := terms_of_value_le hv
    rw [List.map_append]
    exact .cons hterms ((ih hi).weaken hle)

/-- Reading the values of a member makes a listing of them. -/
theorem listing_of_values (h : values s shape path json L = .ok (vs, L')) :
    Listing s shape (listed json) L (vs.map (·.1)) := by
  have hone : ∀ x, value s shape path x L = .ok (vs, L') →
      Listing s shape [x] L (vs.map (·.1)) := by
    intro x hv
    obtain ⟨L₁, hterms, -⟩ := terms_of_value_le hv
    rw [← List.append_nil (vs.map (·.1))]
    exact .cons hterms .nil
  cases json with
  | array xs => exact listing_of_items h
  | null =>
    cases h
    exact .nil
  | _ => exact hone _ h

/-- Can the terms of a value be read? -/
def IsReadable (s : Setting) (shape : Shape) (item : Json) : Prop :=
  ∃ path L ts L', termsOfValue s shape path item L = .ok (ts, L')

open Classical in
/-- The terms that validation finds are those of a listing of the values that can be read, each
once. -/
theorem listing_of_readable {index : Nat} {terms found : List Term} {issues : List String}
    {trace : Trace}
    (h : termsOfGroup s shape path index terms issues xs L = .ok ((found, trace), L')) :
    ∃ us, Listing s shape (xs.filter (IsReadable s shape ·)) L us ∧
      (terms.Nodup → found.Nodup) ∧ ∀ t, t ∈ found ↔ t ∈ terms ∨ t ∈ us := by
  induction xs generalizing index terms issues L with
  | nil =>
    cases h
    exact ⟨[], .nil, id, fun t => by simp⟩
  | cons x xs ih =>
    rcases run_ok_of_group h with ⟨path', ts, L₁, hok, hrest⟩ | ⟨fault, herror, hrest⟩
    · obtain ⟨us, hlisting, hnodup, hmem⟩ := ih hrest
      have hreadable : IsReadable s shape x := ⟨_, _, _, _, hok⟩
      refine ⟨ts ++ us, ?_, fun _ => hnodup (nodup_eraseDups _), fun t => ?_⟩
      · simp only [List.filter_cons, hreadable, decide_true, if_true]
        exact .cons hok hlisting
      · rw [hmem, List.mem_eraseDups, List.mem_append, List.mem_append, or_assoc]
    · have hno : ¬ IsReadable s shape x := by
        rintro ⟨path', L₁, ts, L₂, hok⟩
        exact herror _ _ _ hok
      simp only [List.filter_cons, hno, decide_false, Bool.false_eq_true, if_false]
      exact ih hrest

/-- If all values can be read, the terms that validation finds are those of a listing of them. -/
theorem listing_of_group {index : Nat} {terms found : List Term} {issues : List String}
    {trace : Trace}
    (h : termsOfGroup s shape path index terms issues xs L = .ok ((found, trace), L'))
    (hread : CanBeRead s shape xs) : ∃ us, Listing s shape xs L us ∧
      (terms.Nodup → found.Nodup) ∧ ∀ t, t ∈ found ↔ t ∈ terms ∨ t ∈ us := by
  classical
  have hall : ∀ x ∈ xs, IsReadable s shape x := hread
  have hlisting := listing_of_readable h
  rwa [List.filter_eq_self.2 fun x hx => decide_eq_true (hall x hx)] at hlisting

theorem leaves_of_group {index : Nat} {terms found : List Term} {issues : List String}
    {trace : Trace}
    (h : termsOfGroup s shape path index terms issues xs L = .ok ((found, trace), L')) :
    L.Leaves L' := by
  induction xs generalizing index terms issues L with
  | nil =>
    cases h
    exact .refl _
  | cons x xs ih =>
    rcases run_ok_of_group h with ⟨path', ts, L₁, hok, hrest⟩ | ⟨fault, -, hrest⟩
    · exact (leaves_of_terms hok).trans (ih hrest)
    · exact ih hrest

/-! ## Two listings -/

/-- Is a term a blank node whose label is not written in a description? -/
def Unwritten (root : Json) (t : Term) : Prop :=
  ∃ label, ¬ Spells root.strings label ∧ t = .blankNode label

/-- A blank node that is drawn from a fresh supply is not written. -/
theorem unwritten_label {root : Json} (hL : L.FreshFor root) (n : Nat) :
    Unwritten root (.blankNode (L.label n)) := ⟨_, hL n, rfl⟩

/-- The terms that are told for the values are written, if they are blank nodes. -/
def KeepsOff (s : Setting) (shape : Shape) (root : Json) (xs : List Json) : Prop :=
  ∀ x ∈ xs, ∀ ts, (∀ path L, termsOfValue s shape path x L = .ok (ts, L)) →
    ∀ t ∈ ts, ¬ Unwritten root t

/-- The labels that are drawn for a listing differ. -/
theorem Listing.pairwise {root : Json} (h : Listing s shape xs L us)
    (hoff : KeepsOff s shape root xs) :
    us.Pairwise (fun t u => Unwritten root t → Unwritten root u → t ≠ u) ∧
      ∀ t ∈ us, Unwritten root t → ∃ n, t = .blankNode (L.label n) := by
  induction h with
  | nil => exact ⟨.nil, fun _ ht => absurd ht List.not_mem_nil⟩
  | told hx _ ih =>
    obtain ⟨hfirst, hrest⟩ := List.forall_mem_cons.1 hoff
    obtain ⟨hpairs, hdrawn⟩ := ih hrest
    have hno := hfirst _ hx
    refine ⟨List.pairwise_append.2 ⟨?_, hpairs, ?_⟩, List.forall_mem_append.2 ⟨?_, hdrawn⟩⟩
    · exact List.pairwise_of_forall_mem_list fun t ht _ _ hd => absurd hd (hno t ht)
    · exact fun t ht _ _ hd => absurd hd (hno t ht)
    · exact fun t ht hd => absurd hd (hno t ht)
  | @drawn x xs L k us hx _ ih =>
    obtain ⟨-, hrest⟩ := List.forall_mem_cons.1 hoff
    obtain ⟨hpairs, hdrawn⟩ := ih hrest
    refine ⟨List.pairwise_cons.2 ⟨fun t ht _ hd => ?_, hpairs⟩, List.forall_mem_cons.2 ⟨?_, ?_⟩⟩
    · obtain ⟨n, rfl⟩ := hdrawn t ht hd
      intro heq
      have hk : k = n + (k + 1) := L.distinct (Term.blankNode.inj heq)
      omega
    · exact fun _ => ⟨k, rfl⟩
    · intro t ht hd
      obtain ⟨n, rfl⟩ := hdrawn t ht hd
      exact ⟨n + (k + 1), rfl⟩

/-- Lists that agree but for terms of a kind are the same up to a renaming of these, if they
differ. -/
theorem exists_renaming {P : Term → Prop}
    (h : List.Forall₂ (fun t u => t = u ∧ ¬ P t ∨ P t ∧ P u) us us')
    (hd : us.Pairwise fun t u => P t → P u → t ≠ u) :
    ∃ σ : Term → Term, us' = us.map σ ∧ (∀ t, ¬ P t → σ t = t) ∧ ∀ t ∈ us, P t → P (σ t) := by
  induction h with
  | nil => exact ⟨id, rfl, fun _ _ => rfl, fun _ ht => absurd ht List.not_mem_nil⟩
  | @cons t u us us' htu _ ih =>
    obtain ⟨hfirst, hd⟩ := List.pairwise_cons.1 hd
    obtain ⟨σ, rfl, hkeep, hkind⟩ := ih hd
    rcases htu with ⟨rfl, ht⟩ | ⟨ht, hu⟩
    · refine ⟨σ, ?_, hkeep, List.forall_mem_cons.2 ⟨fun h => absurd h ht, hkind⟩⟩
      rw [List.map_cons, hkeep t ht]
    · have hother : ∀ v ∈ us, v ≠ t := by
        rintro v hv rfl
        exact hfirst v hv ht ht rfl
      have hsame : ∀ v ∈ us, Function.update σ t u v = σ v :=
        fun v hv => Function.update_of_ne (hother v hv) _ _
      refine ⟨Function.update σ t u, ?_, fun v hv => ?_, List.forall_mem_cons.2 ⟨fun _ => ?_, ?_⟩⟩
      · rw [List.map_cons, Function.update_self, List.map_congr_left hsame]
      · have hne : v ≠ t := by
          rintro rfl
          exact hv ht
        rw [Function.update_of_ne hne, hkeep v hv]
      · rw [Function.update_self]
        exact hu
      · intro v hv hpv
        rw [hsame v hv]
        exact hkind v hv hpv

/-- Does a value stand for terms that are told at once? -/
def StandsFor (s : Setting) (shape : Shape) (x : Json) (ts : List Term) : Prop :=
  ∀ path L, termsOfValue s shape path x L = .ok (ts, L)

/-- Is a label drawn for a value? -/
def Draws (s : Setting) (shape : Shape) (x : Json) : Prop :=
  ∀ path L, termsOfValue s shape path x L =
    .ok ([.blankNode (L.label 0)], L.after 1)

/-- No value stands for terms that are told and has a label drawn for it. -/
theorem StandsFor.not_draws (h : StandsFor s shape x ts) : ¬ Draws s shape x := by
  intro hdrawn
  have heq := (h "" default).symm.trans (hdrawn "" default)
  exact Labels.after_succ_ne default 0 (congrArg Prod.snd (Except.ok.inj heq)).symm

/-- The terms of a listing that are not drawn are those that its values stand for. -/
theorem Listing.mem_told {root : Json} (h : Listing s shape xs L us) (hL : L.FreshFor root)
    (ht : ¬ Unwritten root t) : t ∈ us ↔ ∃ x ∈ xs, ∃ ts, StandsFor s shape x ts ∧ t ∈ ts := by
  induction h with
  | nil => simp
  | @told x xs L ts us hx _ ih =>
    rw [List.mem_append, ih hL, List.exists_mem_cons_iff]
    refine or_congr_left ⟨fun h => ⟨ts, hx, h⟩, ?_⟩
    rintro ⟨ts', htold, h⟩
    have heq := (hx "" default).symm.trans (htold "" default)
    cases heq
    exact h
  | @drawn x xs L k us hx _ ih =>
    rw [List.mem_cons, ih (hL.after _), List.exists_mem_cons_iff]
    refine or_congr_left (iff_of_false ?_ ?_)
    · rintro rfl
      exact ht (unwritten_label hL k)
    · rintro ⟨ts, hts, -⟩
      exact hts.not_draws hx

open Classical in
/-- A listing has one drawn term for each value that a label is drawn for. -/
theorem Listing.count_drawn {root : Json} (h : Listing s shape xs L us)
    (hoff : KeepsOff s shape root xs) (hL : L.FreshFor root) :
    us.countP (Unwritten root ·) = xs.countP (Draws s shape ·) := by
  induction h with
  | nil => rfl
  | told hx _ ih =>
    obtain ⟨hfirst, hrest⟩ := List.forall_mem_cons.1 hoff
    have hno : ¬ Draws s shape _ := StandsFor.not_draws hx
    have hzero : List.countP (Unwritten root ·) _ = 0 :=
      List.countP_eq_zero.2 fun t ht hd => hfirst _ hx t ht (of_decide_eq_true hd)
    rw [List.countP_append, hzero, ih hrest hL, List.countP_cons, if_neg (by simpa using hno),
      Nat.zero_add, Nat.add_zero]
  | drawn hx _ ih =>
    obtain ⟨-, hrest⟩ := List.forall_mem_cons.1 hoff
    have hdraws : Draws s shape _ := hx
    rw [List.countP_cons, List.countP_cons, ih hrest (hL.after _),
      if_pos (decide_eq_true (unwritten_label hL _)), if_pos (decide_eq_true hdraws)]

open Classical in
/-- Terms are alike if they have the same ones that are not of a kind, and as many of the kind. -/
theorem alike_of_counts {P : Term → Prop} {found terms : List Term} (hfound : found.Nodup)
    (hterms : terms.Nodup) (hblank : ∀ t, P t → t.isBlank = true)
    (hlabels : ∀ t ∈ found, P t → shape.parts.any Shape.looksAtLabels = false)
    (hsame : ∀ t, ¬ P t → (t ∈ found ↔ t ∈ terms))
    (hcount : found.countP (P ·) = terms.countP (P ·)) : shape.Alike found terms := by
  -- both lists with the terms of the kind at the end
  have hsplit : ∀ ts : List Term, ts.Perm (ts.filter (¬ P ·) ++ ts.filter (P ·)) := by
    intro ts
    refine (List.filter_append_perm (P ·) ts).symm.trans (List.perm_append_comm.trans ?_)
    refine List.Perm.of_eq (congrArg (· ++ _) (List.filter_congr fun t _ => ?_))
    rw [decide_not]
  have hrest : (terms.filter (¬ P ·)).Perm (found.filter (¬ P ·)) := by
    rw [List.perm_ext_iff_of_nodup (hterms.filter _) (hfound.filter _)]
    intro t
    simp only [List.mem_filter, decide_eq_true_eq]
    exact and_congr_left fun ht => (hsame t ht).symm
  have hothers : List.Forall₂ (fun t u => t = u ∧ ¬ P t ∨ P t ∧ P u) (found.filter (¬ P ·))
      (found.filter (¬ P ·)) :=
    List.forall₂_same.2 fun t ht => Or.inl ⟨rfl, of_decide_eq_true (List.mem_filter.1 ht).2⟩
  have hkinds : List.Forall₂ (fun t u => t = u ∧ ¬ P t ∨ P t ∧ P u) (found.filter (P ·))
      (terms.filter (P ·)) := by
    rw [List.forall₂_iff_zip, ← List.countP_eq_length_filter, ← List.countP_eq_length_filter]
    refine ⟨hcount, fun hzip => Or.inr ?_⟩
    obtain ⟨ht, hu⟩ := List.of_mem_zip hzip
    exact ⟨of_decide_eq_true (List.mem_filter.1 ht).2, of_decide_eq_true (List.mem_filter.1 hu).2⟩
  have hdistinct := (hsplit found).nodup_iff.1 hfound
  obtain ⟨σ, hσ, hkeep, hkind⟩ := exists_renaming (List.rel_append hothers hkinds)
    (hdistinct.imp fun hne _ _ => hne)
  refine ⟨σ, ?_, fun t ht => ?_⟩
  · refine (hsplit terms).trans ((hrest.append_right _).trans ?_)
    exact (List.Perm.of_eq hσ).trans ((hsplit found).map σ).symm
  · by_cases hp : P t
    · exact Or.inr ⟨hlabels t ht hp, hblank t hp,
        hblank _ (hkind t ((hsplit found).mem_iff.1 ht) hp)⟩
    · exact Or.inl (hkeep t hp)

open Classical in
/-- The terms of two listings, each once, are alike if the values stand for the same terms and
labels are drawn for as many of them. -/
theorem Listing.alike_of_counts {root : Json} {zs : List Json} {found terms : List Term}
    (h : Listing s shape xs L us) (h' : Listing s shape zs L' us')
    (hoff : KeepsOff s shape root xs) (hoff' : KeepsOff s shape root zs) (hL : L.FreshFor root)
    (hL' : L'.FreshFor root)
    (htold : ∀ t, (∃ x ∈ xs, ∃ ts, StandsFor s shape x ts ∧ t ∈ ts) ↔
      ∃ x ∈ zs, ∃ ts, StandsFor s shape x ts ∧ t ∈ ts)
    (hcount : xs.countP (Draws s shape ·) = zs.countP (Draws s shape ·))
    (hlabels : ∀ x ∈ xs, Draws s shape x → shape.parts.any Shape.looksAtLabels = false)
    (hfound : found.Nodup) (hmem : ∀ t, t ∈ found ↔ t ∈ us) (hterms : terms.Nodup)
    (hmem' : ∀ t, t ∈ terms ↔ t ∈ us') : shape.Alike found terms := by
  -- a listing without repetitions has as many drawn terms
  have honce : ∀ {xs : List Json} {L : Labels} {us ts : List Term}, Listing s shape xs L us →
      KeepsOff s shape root xs → L.FreshFor root → ts.Nodup → (∀ t, t ∈ ts ↔ t ∈ us) →
      ts.countP (Unwritten root ·) = xs.countP (Draws s shape ·) := by
    intro xs L us ts h hoff hL hts hmem
    rw [← h.count_drawn hoff hL, List.countP_eq_length_filter, List.countP_eq_length_filter]
    refine List.Perm.length_eq ((List.perm_ext_iff_of_nodup (hts.filter _) ?_).2 fun t => ?_)
    · exact ((h.pairwise hoff).1.filter _).imp_of_mem fun ht hu hne => hne
        (of_decide_eq_true (List.mem_filter.1 ht).2) (of_decide_eq_true (List.mem_filter.1 hu).2)
    · rw [List.mem_filter, List.mem_filter, hmem]
  have hdrawn := honce h hoff hL hfound hmem
  refine Description.alike_of_counts hfound hterms ?_ (fun t ht hd => ?_) (fun t ht => ?_)
    (hdrawn.trans (hcount.trans (honce h' hoff' hL' hterms hmem').symm))
  · rintro t ⟨label, -, rfl⟩
    rfl
  · have hpos : 0 < xs.countP (Draws s shape ·) := by
      rw [← hdrawn]
      exact List.countP_pos_iff.2 ⟨t, ht, decide_eq_true hd⟩
    obtain ⟨x, hx, hdraws⟩ := List.countP_pos_iff.1 hpos
    exact hlabels x hx (of_decide_eq_true hdraws)
  · rw [hmem, hmem', h.mem_told hL ht, h'.mem_told hL' ht]
    exact htold t

/-- The terms of two listings of one list, each once, are alike. -/
theorem Listing.alike {root : Json} {found terms : List Term} (h : Listing s shape xs L us)
    (h' : Listing s shape xs L' us') (hoff : KeepsOff s shape root xs) (hL : L.FreshFor root)
    (hL' : L'.FreshFor root)
    (hlabels : ∀ x ∈ xs, Draws s shape x → shape.parts.any Shape.looksAtLabels = false)
    (hfound : found.Nodup) (hmem : ∀ t, t ∈ found ↔ t ∈ us) (hterms : terms.Nodup)
    (hmem' : ∀ t, t ∈ terms ↔ t ∈ us') : shape.Alike found terms :=
  h.alike_of_counts h' hoff hoff hL hL' (fun _ => Iff.rfl) rfl hlabels hfound hmem hterms hmem'

/-- The labels that are told in a description are written there. -/
theorem keepsOff_of_strings {root : Json} (h : ∀ x ∈ xs, x.strings ⊆ root.strings) :
    KeepsOff s shape root xs := by
  rintro x hx ts htold t ht ⟨label, hunwritten, rfl⟩
  rcases termsOfValue_draws (htold "" default) with ⟨-, -, hwritten⟩ | ⟨-, heq, -⟩
  · exact hunwritten ((hwritten label ht).mono (h x hx))
  · exact Labels.after_succ_ne default 0 heq.symm

end LinkedShapes.Description
