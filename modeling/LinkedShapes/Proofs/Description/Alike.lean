import LinkedShapes.Proofs.Description.Places
import LinkedShapes.Proofs.Description.Relabelling
import LinkedShapes.Proofs.Description.Scanning
import LinkedShapes.Proofs.Json.Reordered

/-!
# Descriptions that are read alike

Reading does not look at all of a description: the order of members and of items does not matter to
the graph, labels that are drawn apart. Which descriptions are read alike is told by a relation of
values under shapes. What such a relation has to respect at each object is said once, in
`ObjectsAlike`, and what follows for whole descriptions is proved once, for all of them.

* `statements_of_fields`, `fields_of_statements`: the members of an object are read one by one,
  and what they tell is put together in the end.
* `readsValues`: values that are alike are read alike, by induction on the depth of the shape.
* `focusTriples_alike`: descriptions that are alike make isomorphic graphs.
-/

namespace LinkedShapes.Description

open Vocabulary

variable {s : Setting} {D shape : Shape} {a : Aliases} {path path' : String} {L L' : Labels}
variable {json x y root : Json} {members others found : List (String × Json)} {r r' : Term}
variable {g : Graph} {m m' : String × Json} {xs ys : List Json}
variable {ρ : String → String → Prop} {S : Shape → Json → Json → Prop}

/-! ## What members tell -/

/-- An edge that a member tells of, the resource at its end and what is told of this. -/
abbrev Statement := Edge × Described

/-- The texts of a value for types. -/
def typeTexts (json : Json) : Except DecodeError (List String) :=
  (match json with
    | .array items => items
    | value => [value]).mapM (keywordText Keyword.type)

/-- The types that texts name, at the ends of edges. -/
def typeStatements (s : Setting) (texts : List String) : List Statement :=
  texts.map fun text => (⟨Rdf.type, false⟩, .iri (Iri.resolve s.focus text), .empty)

/-- What a member tells of the resource of its object. -/
def statements (s : Setting) (a : Aliases) (path : String) (m : String × Json) :
    Decoding (List Statement) :=
  match a.get? m.1 with
  | some f => do return (← values s f.shape (path ++ "/" ++ m.1) m.2).map (f.edge, ·)
  | none =>
    match s.keywords.keyword? m.1 with
    | some keyword =>
      if keyword = Keyword.type then do return typeStatements s (← typeTexts m.2) else pure []
    | none => throw (.unknownField (path ++ "/" ++ m.1))

/-- A graph has what is told of a resource, and nothing else. -/
structure Gathers (r : Term) (vs : List Statement) (g : Graph) : Prop where
  resources : ∀ v ∈ vs, v.1.inverse = true → v.2.1.isResource = true
  triples : ∀ t, t ∈ g.triples ↔ ∃ v ∈ vs, t = v.1.triple r v.2.1 ∨ t ∈ v.2.2.triples

theorem Gathers.empty : Gathers r [] .empty := by
  refine ⟨fun _ hv => absurd hv List.not_mem_nil, fun t => iff_of_false List.not_mem_nil ?_⟩
  rintro ⟨v, hv, -⟩
  exact absurd hv List.not_mem_nil

theorem Gathers.merge {vs ws : List Statement} {g h : Graph} (hg : Gathers r vs g)
    (hh : Gathers r ws h) :
    Gathers r (vs ++ ws) (g.merge h) := by
  refine ⟨List.forall_mem_append.2 ⟨hg.resources, hh.resources⟩, fun t => ?_⟩
  rw [Graph.mem_merge, hg.triples, hh.triples]
  simp only [List.mem_append, or_and_right, exists_or]

theorem gathers_field {f : Field} {vs : List Described} (h : fieldTriples r f vs = .ok g) :
    Gathers r (vs.map (f.edge, ·)) g := by
  obtain ⟨hresource, -⟩ := fieldTriples_ok_iff.1 h
  refine ⟨fun v hv hi => ?_, fun t => ?_⟩
  · obtain ⟨w, hw, rfl⟩ := List.mem_map.1 hv
    exact hresource hi w hw
  · rw [mem_fieldTriples h]
    simp only [List.mem_map, exists_exists_and_eq_and]

theorem typeTriples_eq : typeTriples s r json = (typeTexts json).map fun texts =>
    .ofList (texts.map fun t => ⟨r, .iri Rdf.type, .iri (Iri.resolve s.focus t)⟩) := by
  unfold typeTriples typeTexts
  cases json <;> rfl

theorem gathers_types {texts : List String} : Gathers r (typeStatements s texts)
    (.ofList (texts.map fun t => ⟨r, .iri Rdf.type, .iri (Iri.resolve s.focus t)⟩)) := by
  refine ⟨fun v hv hi => ?_, fun t => ?_⟩
  · obtain ⟨text, -, rfl⟩ := List.mem_map.1 hv
    cases hi
  · have hempty : ∀ t, t ∉ Graph.empty.triples := fun _ => List.not_mem_nil
    rw [Graph.mem_ofList, List.mem_map]
    constructor
    · rintro ⟨text, ht, rfl⟩
      exact ⟨_, List.mem_map_of_mem ht, Or.inl rfl⟩
    · rintro ⟨v, hv, ht⟩
      obtain ⟨text, htext, rfl⟩ := List.mem_map.1 hv
      exact ⟨text, htext, (ht.resolve_right (hempty t)).symm⟩

/-- A member that is read alone tells what the graph has. -/
theorem statements_of_member (h : fields s a r path [m] L = .ok (g, L')) :
    ∃ vs, statements s a path m L = .ok (vs, L') ∧ Gathers r vs g := by
  obtain ⟨name, json⟩ := m
  cases hg : a.get? name with
  | some f =>
    rw [fields_values_alone hg] at h
    obtain ⟨vs, L₁, hvs, h⟩ := run_ok_of_bind h
    obtain ⟨ht, rfl⟩ := ok_of_run_lift h
    refine ⟨_, ?_, gathers_field ht⟩
    unfold statements
    simp only [hg]
    exact bind_of_ok hvs
  | none =>
    cases hk : s.keywords.keyword? name with
    | none =>
      rw [fields_unknown_alone hg hk] at h
      cases h
    | some keyword =>
      rw [fields_keyword_alone hg hk] at h
      unfold statements
      simp only [hg, hk]
      by_cases hty : keyword = Keyword.type
      · simp only [hty, if_true] at h ⊢
        obtain ⟨hok, rfl⟩ := ok_of_run_lift h
        rw [typeTriples_eq] at hok
        cases htexts : typeTexts json with
        | error fault =>
          rw [htexts] at hok
          cases hok
        | ok texts =>
          rw [htexts] at hok
          cases hok
          exact ⟨_, rfl, gathers_types⟩
      · simp only [hty, if_false] at h ⊢
        cases h
        exact ⟨[], rfl, .empty⟩

/-- What a member tells is read if inverse edges lead to resources. -/
theorem member_of_statements {vs : List Statement} (h : statements s a path m L = .ok (vs, L'))
    (hr : ∀ v ∈ vs, v.1.inverse = true → v.2.1.isResource = true) :
    ∃ g, fields s a r path [m] L = .ok (g, L') ∧ Gathers r vs g := by
  obtain ⟨name, json⟩ := m
  unfold statements at h
  cases hg : a.get? name with
  | some f =>
    simp only [hg] at h
    obtain ⟨ws, L₁, hws, h⟩ := run_ok_of_bind h
    cases h
    have hresource : f.edge.inverse = true → ∀ w ∈ ws, w.1.isResource = true :=
      fun hi w hw => hr _ (List.mem_map_of_mem hw) hi
    have ht := fieldTriples_ok (r := r) hresource
    refine ⟨_, ?_, gathers_field ht⟩
    rw [fields_values_alone hg, bind_of_ok hws]
    exact lift_of_ok ht
  | none =>
    simp only [hg] at h
    cases hk : s.keywords.keyword? name with
    | none =>
      simp only [hk] at h
      cases h
    | some keyword =>
      rw [fields_keyword_alone hg hk]
      simp only [hk] at h
      by_cases hty : keyword = Keyword.type
      · simp only [hty, if_true] at h ⊢
        obtain ⟨texts, L₁, htexts, h⟩ := run_ok_of_bind h
        cases h
        obtain ⟨hok, rfl⟩ := ok_of_run_lift htexts
        refine ⟨_, lift_of_ok ?_, gathers_types⟩
        rw [typeTriples_eq, hok]
        rfl
      · simp only [hty, if_false] at h ⊢
        cases h
        exact ⟨.empty, rfl, .empty⟩

/-- Reading the members of an object is reading what each of them tells, in sequence. -/
theorem statements_of_fields (h : fields s a r path members L = .ok (g, L')) :
    ∃ vss, sequence (members.map (statements s a path)) L = .ok (vss, L') ∧
      Gathers r vss.flatten g := by
  induction members generalizing L g with
  | nil =>
    rw [fields] at h
    cases h
    exact ⟨[], rfl, .empty⟩
  | cons m members ih =>
    rw [fields_cons] at h
    obtain ⟨first, L₁, hfirst, h⟩ := run_ok_of_bind h
    obtain ⟨rest, L₂, hrest, h⟩ := run_ok_of_bind h
    cases h
    obtain ⟨vs, hvs, hgathers⟩ := statements_of_member hfirst
    obtain ⟨vss, hvss, hall⟩ := ih hrest
    exact ⟨vs :: vss, (bind_of_ok hvs).trans (bind_of_ok hvss), hgathers.merge hall⟩

theorem fields_of_statements {vss : List (List Statement)}
    (h : sequence (members.map (statements s a path)) L = .ok (vss, L'))
    (hr : ∀ v ∈ vss.flatten, v.1.inverse = true → v.2.1.isResource = true) :
    ∃ g, fields s a r path members L = .ok (g, L') ∧ Gathers r vss.flatten g := by
  induction members generalizing L vss with
  | nil =>
    cases h
    exact ⟨.empty, fields_nil, .empty⟩
  | cons m members ih =>
    obtain ⟨vs, L₁, hvs, h⟩ := run_ok_of_bind h
    obtain ⟨vss, L₂, hvss, h⟩ := run_ok_of_bind h
    cases h
    obtain ⟨hfirst, hrest⟩ := List.forall_mem_append.1 hr
    obtain ⟨first, hf, hgathers⟩ := member_of_statements (r := r) hvs hfirst
    obtain ⟨rest, hg, hall⟩ := ih hvss hrest
    refine ⟨first.merge rest, ?_, hgathers.merge hall⟩
    rw [fields_cons, bind_of_ok hf, bind_of_ok hg]
    rfl

/-! ## Texts by language -/

/-- Members with the same texts, in some order, stand for the same literals. -/
theorem taggedTexts_alike {mid : List (String × Json)} {ts : List Term} (hp : members.Perm mid)
    (h : List.Forall₂ (fun m m' => ∀ us, taggedTerms? m = some us →
      ∃ us', taggedTerms? m' = some us' ∧ ∀ t, t ∈ us' ↔ t ∈ us) mid others)
    (hts : taggedTexts path members = .ok ts) :
    ∃ us, taggedTexts path' others = .ok us ∧ ∀ t, t ∈ us ↔ t ∈ ts := by
  obtain ⟨hterms, hmem⟩ := mem_taggedTexts hts
  obtain ⟨hleft, hright⟩ := Json.exists_of_forall₂ h
  have hothers : ∀ m' ∈ others, ∃ us', taggedTerms? m' = some us' := by
    intro m' hm'
    obtain ⟨m, hm, hmm⟩ := hright m' hm'
    obtain ⟨us, hus⟩ := hterms m (hp.mem_iff.2 hm)
    obtain ⟨us', hus', -⟩ := hmm us hus
    exact ⟨us', hus'⟩
  obtain ⟨us, hus⟩ : ∃ us, taggedTexts path' others = .ok us := taggedTexts_of_terms hothers
  refine ⟨us, hus, fun t => ?_⟩
  rw [(mem_taggedTexts hus).2, hmem]
  constructor
  · rintro ⟨m', hm', us', hus', ht⟩
    obtain ⟨m, hm, hmm⟩ := hright m' hm'
    have hm := hp.mem_iff.2 hm
    obtain ⟨us, hus⟩ := hterms m hm
    obtain ⟨us'', hus'', hsame⟩ := hmm us hus
    rw [hus'] at hus''
    cases hus''
    exact ⟨m, hm, us, hus, (hsame t).1 ht⟩
  · rintro ⟨m, hm, us, hus, ht⟩
    obtain ⟨m', hm', hmm⟩ := hleft m (hp.mem_iff.1 hm)
    obtain ⟨us', hus', hsame⟩ := hmm us hus
    exact ⟨m', hm', us', hus', (hsame t).2 ht⟩

/-! ## Values that are alike -/

/-- Lists with related items in some order, or related values that are no lists. -/
inductive ValuesAlike (R : Json → Json → Prop) : Json → Json → Prop
  | array {xs mid ys : List Json} : xs.Perm mid → List.Forall₂ R mid ys →
      ValuesAlike R (.array xs) (.array ys)
  | alone {x y : Json} : (∀ xs, x ≠ .array xs) → (∀ ys, y ≠ .array ys) → R x y → ValuesAlike R x y

/-- Members of one name, with values that are alike by the shape of its field or tell the same
types. -/
structure MemberAlike (s : Setting) (S : Shape → Json → Json → Prop) (a : Aliases)
    (m m' : String × Json) : Prop where
  name : m'.1 = m.1
  values : ∀ f, a.get? m.1 = some f → ValuesAlike (S f.shape) m.2 m'.2
  types : a.get? m.1 = none → s.keywords.keyword? m.1 = some Keyword.type →
    ∀ texts, typeTexts m.2 = .ok texts → typeTexts m'.2 = .ok texts

/-- Members that are alike, in some order. -/
def MembersAlike (s : Setting) (S : Shape → Json → Json → Prop) (a : Aliases)
    (members others : List (String × Json)) : Prop :=
  ∃ mid, members.Perm mid ∧ List.Forall₂ (MemberAlike s S a) mid others

/-- Objects with the keywords `found` and `found'` stand for the same literals, or describe one
resource and have members that are alike. -/
structure ObjectsAlike (s : Setting) (S : Shape → Json → Json → Prop) (shape : Shape) (a : Aliases)
    (members others found found' : List (String × Json)) : Prop where
  literal_iff : isLiteralObject shape found' = isLiteralObject shape found
  literals : isLiteralObject shape found = true → ∀ path path' ts,
    literals s shape members found path = .ok ts →
      ∃ us, literals s shape others found' path' = .ok us ∧ ∀ t, t ∈ us ↔ t ∈ ts
  resource : isLiteralObject shape found = false → namedResource s found' = namedResource s found
  members : isLiteralObject shape found = false → MembersAlike s S a members others

/-- Values that are related under a shape are such that they are read alike. -/
structure ReadsAlike (s : Setting) (S : Shape → Json → Json → Prop) : Prop where
  refl : ∀ {shape x y}, S shape x y → S shape x x
  leaf : ∀ {shape x y}, S shape x y → (∀ xs, x ≠ .array xs) → (∀ members, x ≠ .object members) →
    y = x
  object : ∀ {shape members y}, S shape (.object members) y → ∃ others, y = .object others ∧
    ∀ a found, Aliases.ofShape shape s.keywords = .ok a → declared s a members = .ok found →
      ∃ found', declared s a others = .ok found' ∧
        ObjectsAlike s S shape a members others found found'

theorem ValuesAlike.refl {R : Json → Json → Prop} (hR : ∀ x y, R x y → R x x)
    (h : ValuesAlike R x y) : ValuesAlike R x x := by
  cases h with
  | @array xs mid ys hp hall =>
    refine .array (.refl xs) (List.forall₂_same.2 fun x hx => ?_)
    obtain ⟨y, -, hxy⟩ := (Json.exists_of_forall₂ hall).1 x (hp.mem_iff.1 hx)
    exact hR x y hxy
  | alone hx _ hxy => exact .alone hx hx (hR x y hxy)

theorem MemberAlike.refl (hS : ReadsAlike s S) (h : MemberAlike s S a m m') :
    MemberAlike s S a m m :=
  ⟨rfl, fun f hf => (h.values f hf).refl fun _ _ => hS.refl, fun _ _ _ => id⟩

/-! ## Reading values that are alike -/

/-- What is read of values is alike. -/
def ReadAlike (root : Json) (ρ : String → String → Prop) : List Described → List Described → Prop :=
  SetLike (DescribedAlike root ρ)

/-- Statements of one edge that are the same up to labels. -/
def StatementAlike (root : Json) (ρ : String → String → Prop) (v w : Statement) : Prop :=
  w.1 = v.1 ∧ DescribedAlike root ρ v.2 w.2

theorem graphAlike_empty : GraphAlike root ρ .empty .empty := SetLike.nil

theorem termAlike_literal {t : Term} (h : t.isLiteral = true) : TermAlike root ρ t t := by
  refine .same ?_
  rintro ⟨k, -, rfl⟩
  cases h

/-- A term that is told at once or drawn mirrors itself. -/
theorem mirrors_steady {m : Decoding Term} {texts : List String} (ht : texts ⊆ root.strings)
    (h : ∀ L r L', m L = .ok (r, L') → Steady texts m) : Mirrors root (TermAlike root) m m := by
  intro L L₁ M r hL hM hr
  rcases h L r L₁ hr with ⟨t, rfl, hlabel⟩ | rfl
  · refine Mirrors.pure (R := TermAlike root) (.same ?_) L L₁ M r hL hM hr
    rintro ⟨label, hunwritten, rfl⟩
    exact hunwritten ((hlabel label rfl).mono ht)
  · exact mirrors_freshBlank L L₁ M r hL hM hr

/-- A single term without a description. -/
theorem mirrors_term {m : Decoding Term} (h : Mirrors root (TermAlike root) m m) :
    Mirrors root (ReadAlike root) (m >>= fun t => pure [(t, .empty)])
      (m >>= fun t => pure [(t, .empty)]) := by
  refine h.bind fun ρ t u htu => .pure ?_
  exact .cons ⟨htu.mono fun _ _ hr => Or.inl hr, graphAlike_empty⟩ .nil

/-- The computations that read the items of an array. -/
def itemReads (s : Setting) (shape : Shape) (path : String) (index : Nat) :
    List Json → List (Decoding (List Described))
  | [] => []
  | item :: rest =>
    value s shape (path ++ "/" ++ toString index) item :: itemReads s shape path (index + 1) rest

theorem items_eq {index : Nat} : items s shape path index xs =
    sequence (itemReads s shape path index xs) >>= fun vss => pure vss.flatten := by
  induction xs generalizing index with
  | nil =>
    rw [items]
    rfl
  | cons x xs ih =>
    rw [items, ih]
    simp only [itemReads, sequence, bind_assoc, pure_bind, List.flatten_cons]

theorem forall₂_itemReads {index : Nat} :
    List.Forall₂ (fun x m => ∃ path, m = value s shape path x) xs
      (itemReads s shape path index xs) := by
  induction xs generalizing index with
  | nil => exact .nil
  | cons x xs ih => exact .cons ⟨_, rfl⟩ ih

/-- Values are read alike wherever they stand, as far as their texts are among those of the
description. -/
def ReadsValues (s : Setting) (S : Shape → Json → Json → Prop) (root : Json)
    (shape : Shape) : Prop :=
  ∀ x y path path', S shape x y → x.strings ⊆ root.strings →
    Mirrors root (ReadAlike root) (value s shape path x) (value s shape path' y)

theorem mirrors_items {mid : List Json} {index index' : Nat} (hS : ReadsAlike s S)
    (hv : ReadsValues s S root shape) (hp : xs.Perm mid) (h : List.Forall₂ (S shape) mid ys)
    (hx : ∀ x ∈ xs, x.strings ⊆ root.strings) :
    Mirrors root (ReadAlike root) (items s shape path index xs)
      (items s shape path' index' ys) := by
  have hmono : ∀ ρ ρ' x y, (∀ a b, ρ a b → ρ' a b) → ReadAlike root ρ x y → ReadAlike root ρ' x y :=
    fun ρ ρ' x y hle hxy => SetLike.mono hxy fun _ _ hd => hd.mono hle
  have hcomp : ∀ ρ ρ' x y z, ReadAlike root ρ x y → ReadAlike root ρ' y z →
      ReadAlike root (Relation.Comp ρ ρ') x z :=
    fun ρ ρ' x y z hxy hyz => (SetLike.comp hxy hyz).mono fun _ _ ⟨_, hd, hd'⟩ => hd.comp hd'
  have hself : ∀ x ∈ xs, S shape x x := by
    intro x hx
    obtain ⟨y, -, hxy⟩ := (Json.exists_of_forall₂ h).1 x (hp.mem_iff.1 hx)
    exact hS.refl hxy
  have hpair : ∀ x ∈ xs, ∀ y, S shape x y → ∀ path path',
      Mirrors root (ReadAlike root) (value s shape path x) (value s shape path' y) :=
    fun x hmem y hxy path path' => hv x y path path' hxy (hx x hmem)
  -- the items in their order without their places, in the other order, and with the other places
  have hfirst : List.Forall₂ (Mirrors root (ReadAlike root)) (itemReads s shape path index xs)
      (xs.map (value s shape "")) := by
    rw [List.forall₂_map_right_iff]
    refine List.Forall₂.flip (Json.forall₂_imp_of_mem ?_ forall₂_itemReads)
    rintro x hmem m - ⟨path, rfl⟩
    exact hpair x hmem x (hself x hmem) path ""
  have hlast : List.Forall₂ (Mirrors root (ReadAlike root)) (mid.map (value s shape ""))
      (itemReads s shape path' index' ys) := by
    rw [List.forall₂_map_left_iff]
    refine Json.forall₂_comp (fun x hmem y m hxy hm => ?_) h forall₂_itemReads
    obtain ⟨path, rfl⟩ := hm
    exact hpair x (hp.mem_iff.2 hmem) y hxy "" path
  have hmid : Mirrors root (fun ρ => SetLike (ReadAlike root ρ))
      (sequence (xs.map (value s shape ""))) (sequence (itemReads s shape path' index' ys)) := by
    refine mirrors_sequence hmono hcomp (fun m hm => ?_) (hp.map _) hlast
    obtain ⟨x, hmem, rfl⟩ := List.mem_map.1 hm
    exact hpair x hmem x (hself x hmem) "" ""
  have hall := (mirrors_sequence_congr hmono hfirst).trans_setLike hcomp hmid
  rw [items_eq, items_eq]
  refine hall.bind fun ρ vss wss h => .pure (SetLike.mono (SetLike.flatten h) fun v w hd => ?_)
  exact hd.mono fun _ _ hr => Or.inl hr

theorem mirrors_values (hS : ReadsAlike s S) (hv : ReadsValues s S root shape)
    (h : ValuesAlike (S shape) x y) (hx : x.strings ⊆ root.strings) :
    Mirrors root (ReadAlike root) (values s shape path x) (values s shape path' y) := by
  cases h with
  | array hp hall =>
    refine mirrors_items hS hv hp hall fun x hmem => ?_
    refine List.Subset.trans (strings_of_item hmem) ?_
    rwa [Json.strings] at hx
  | alone hnx hny hxy =>
    rw [values_of_not_array hnx, values_of_not_array hny]
    exact hv x y path path' hxy hx

/-- Members that are alike make statements that are alike. -/
theorem mirrors_statements (hS : ReadsAlike s S)
    (hv : ∀ f, a.get? m.1 = some f → ReadsValues s S root f.shape)
    (h : MemberAlike s S a m m') (hm : m.2.strings ⊆ root.strings) :
    Mirrors root (fun ρ => SetLike (StatementAlike root ρ)) (statements s a path m)
      (statements s a path' m') := by
  unfold statements
  rw [h.name]
  cases hg : a.get? m.1 with
  | some f =>
    refine (mirrors_values hS (hv f hg) (h.values f hg) hm).bind fun ρ vs ws hvw => .pure ?_
    refine ⟨fun v hv => ?_, fun w hw => ?_⟩
    · obtain ⟨v, hmem, rfl⟩ := List.mem_map.1 hv
      obtain ⟨w, hw, hd⟩ := hvw.1 v hmem
      exact ⟨_, List.mem_map_of_mem hw, rfl, hd.mono fun _ _ hr => Or.inl hr⟩
    · obtain ⟨w, hmem, rfl⟩ := List.mem_map.1 hw
      obtain ⟨v, hv, hd⟩ := hvw.2 w hmem
      exact ⟨_, List.mem_map_of_mem hv, rfl, hd.mono fun _ _ hr => Or.inl hr⟩
  | none =>
    cases hk : s.keywords.keyword? m.1 with
    | none => exact fun _ _ _ _ _ _ hx => absurd hx nofun
    | some keyword =>
      dsimp only
      by_cases hty : keyword = Keyword.type
      · subst hty
        have htexts : Mirrors root (fun _ texts texts' => texts' = texts)
            (liftM (typeTexts m.2)) (liftM (typeTexts m'.2)) :=
          .lift fun texts ht => ⟨texts, h.types hg hk texts ht, rfl⟩
        simp only [if_true]
        refine htexts.bind fun ρ texts texts' heq => .pure ?_
        subst heq
        have hself : ∀ v ∈ typeStatements s texts', ∀ ρ, StatementAlike root ρ v v := by
          intro v hv ρ
          obtain ⟨text, -, rfl⟩ := List.mem_map.1 hv
          refine ⟨rfl, .same ?_, graphAlike_empty⟩
          rintro ⟨k, -, hk⟩
          cases hk
        exact ⟨fun v hv => ⟨v, hv, hself v hv _⟩, fun v hv => ⟨v, hv, hself v hv _⟩⟩
      · simp only [hty, if_false]
        exact .pure .nil

theorem statementAlike_mono {ρ ρ' : String → String → Prop} {v w : Statement}
    (hle : ∀ a b, ρ a b → ρ' a b) (h : StatementAlike root ρ v w) : StatementAlike root ρ' v w :=
  ⟨h.1, h.2.mono hle⟩

/-- Statements that are alike, about resources that are alike, make graphs that are alike. -/
theorem Gathers.alike {vs ws : List Statement} {g' : Graph} (h : Gathers r vs g)
    (h' : Gathers r' ws g') (hr : TermAlike root ρ r r')
    (hvw : SetLike (StatementAlike root ρ) vs ws) : GraphAlike root ρ g g' := by
  have htriple : ∀ v w, StatementAlike root ρ v w →
      TripleAlike root ρ (v.1.triple r v.2.1) (w.1.triple r' w.2.1) := by
    rintro v w ⟨hedge, hterm, -⟩
    unfold Edge.triple
    rw [hedge]
    split
    · exact ⟨hterm, rfl, hr⟩
    · exact ⟨hr, rfl, hterm⟩
  refine ⟨fun t ht => ?_, fun u hu => ?_⟩
  · obtain ⟨v, hv, ht⟩ := (h.triples t).1 ht
    obtain ⟨w, hw, hd⟩ := hvw.1 v hv
    rcases ht with rfl | ht
    · exact ⟨_, (h'.triples _).2 ⟨w, hw, Or.inl rfl⟩, htriple v w hd⟩
    · obtain ⟨u, hu, htu⟩ := hd.2.2.1 t ht
      exact ⟨u, (h'.triples u).2 ⟨w, hw, Or.inr hu⟩, htu⟩
  · obtain ⟨w, hw, hu⟩ := (h'.triples u).1 hu
    obtain ⟨v, hv, hd⟩ := hvw.2 w hw
    rcases hu with rfl | hu
    · exact ⟨_, (h.triples _).2 ⟨v, hv, Or.inl rfl⟩, htriple v w hd⟩
    · obtain ⟨t, ht, htu⟩ := hd.2.2.2 u hu
      exact ⟨t, (h.triples t).2 ⟨v, hv, Or.inr ht⟩, htu⟩

/-- Members that are alike are read alike, for resources that are alike. -/
theorem mirrors_fields (hS : ReadsAlike s S)
    (hv : ∀ name f, a.get? name = some f → ReadsValues s S root f.shape)
    (h : MembersAlike s S a members others) (hm : ∀ m ∈ members, m.2.strings ⊆ root.strings)
    (hr : TermAlike root ρ r r') :
    Mirrors root (fun ρ' => GraphAlike root (either ρ ρ')) (fields s a r path members)
      (fields s a r' path' others) := by
  obtain ⟨mid, hp, hall⟩ := h
  have hself : ∀ m ∈ members, MemberAlike s S a m m := by
    intro m hm
    obtain ⟨m', -, hmm⟩ := (Json.exists_of_forall₂ hall).1 m (hp.mem_iff.1 hm)
    exact hmm.refl hS
  have hpair : ∀ m ∈ members, ∀ m' path', MemberAlike s S a m m' →
      Mirrors root (fun ρ => SetLike (StatementAlike root ρ)) (statements s a path m)
        (statements s a path' m') :=
    fun m hmem m' path' hmm => mirrors_statements hS (hv m.1) hmm (hm m hmem)
  intro L L₁ M g hL hM hg
  obtain ⟨vss, hvss, hgathers⟩ := statements_of_fields hg
  have hlast : List.Forall₂ (Mirrors root fun ρ => SetLike (StatementAlike root ρ))
      (mid.map (statements s a path)) (others.map (statements s a path')) := by
    rw [List.forall₂_map_left_iff, List.forall₂_map_right_iff]
    exact Json.forall₂_imp_of_mem
      (fun m hmem m' _ hmm => hpair m (hp.mem_iff.2 hmem) m' path' hmm) hall
  -- reading a member draws labels before the next is read, so that what the members tell is
  -- compared as one sequence, whose parts may change places
  have hsequence : Mirrors root (fun ρ => SetLike (SetLike (StatementAlike root ρ)))
      (sequence (members.map (statements s a path)))
      (sequence (others.map (statements s a path'))) := by
    refine mirrors_sequence
      (fun ρ ρ' x y hle hxy => SetLike.mono hxy fun _ _ => statementAlike_mono hle)
      (fun ρ ρ' x y z hxy hyz => (SetLike.comp hxy hyz).mono
        fun _ _ ⟨_, hd, hd'⟩ => ⟨hd'.1.trans hd.1, hd.2.comp hd'.2⟩)
      (fun m hm => ?_) (hp.map _) hlast
    obtain ⟨m, hmem, rfl⟩ := List.mem_map.1 hm
    exact hpair m hmem m path (hself m hmem)
  obtain ⟨wss, M₁, ρ', hwss, hlinks, halike⟩ := hsequence L L₁ M vss hL hM hvss
  have hflat := SetLike.flatten halike
  obtain ⟨g', hg', hgathers'⟩ := fields_of_statements (r := r') hwss fun w hw hi => by
    obtain ⟨v, hv, hedge, hterm, -⟩ := hflat.2 w hw
    rw [hterm.isResource]
    exact hgathers.resources v hv (hedge ▸ hi)
  refine ⟨g', M₁, ρ', hg', hlinks, ?_⟩
  exact hgathers.alike hgathers' (hr.mono fun _ _ => Or.inl)
    (SetLike.mono hflat fun _ _ => statementAlike_mono fun _ _ => Or.inr)

/-- Objects that are alike are read alike. -/
theorem mirrors_object {found found' : List (String × Json)} (hS : ReadsAlike s S)
    (hv : ∀ name f, a.get? name = some f → ReadsValues s S root f.shape)
    (ha : Aliases.ofShape shape s.keywords = .ok a) (hd : declared s a members = .ok found)
    (hd' : declared s a others = .ok found')
    (h : ObjectsAlike s S shape a members others found found')
    (hx : Json.strings (.object members) ⊆ root.strings) :
    Mirrors root (ReadAlike root) (value s shape path (.object members))
      (value s shape path' (.object others)) := by
  rw [value_object ha hd, value_object ha hd', h.literal_iff]
  cases hl : isLiteralObject shape found with
  | true =>
    simp only [if_true]
    -- literals are the same on both sides, no label is drawn for them
    have hliterals : Mirrors root (fun _ ts us => (∀ t ∈ ts, t.isLiteral = true) ∧
        ∀ t, t ∈ us ↔ t ∈ ts) (liftM (literals s shape members found path))
        (liftM (literals s shape others found' path')) := by
      refine .lift fun ts hts => ?_
      obtain ⟨us, hus, hmem⟩ := h.literals hl path path' ts hts
      exact ⟨us, hus, (literals_spec hts).1, hmem⟩
    refine hliterals.bind fun ρ ts us ⟨hlit, hmem⟩ => .pure ?_
    have hself : ∀ t ∈ ts, ∀ ρ, DescribedAlike root ρ (t, .empty) (t, .empty) :=
      fun t ht ρ => ⟨termAlike_literal (hlit t ht), graphAlike_empty⟩
    refine ⟨fun v hv => ?_, fun v hv => ?_⟩
    · obtain ⟨t, ht, rfl⟩ := List.mem_map.1 hv
      exact ⟨_, List.mem_map_of_mem ((hmem t).2 ht), hself t ht _⟩
    · obtain ⟨t, ht, rfl⟩ := List.mem_map.1 hv
      exact ⟨_, List.mem_map_of_mem ((hmem t).1 ht), hself t ((hmem t).1 ht) _⟩
  | false =>
    simp only [Bool.false_eq_true, if_false]
    rw [h.resource hl]
    rw [Json.strings] at hx
    -- the resource comes first, as the members tell of it
    have hname : Mirrors root (TermAlike root) (namedResource s found) (namedResource s found) := by
      refine mirrors_steady hx fun L r L' hr => steady_namedResource hr fun id hid => ?_
      obtain ⟨name, hm⟩ := (mem_of_declared hd (mem_of_lookup_json hid)).resolve_left
        List.not_mem_nil
      exact strings_of_member hm
    refine hname.bind fun ρ r r' hr => ?_
    refine (mirrors_fields hS hv (h.members hl) (fun m hm => ?_) hr).bind fun ρ' g g' hg => .pure ?_
    · exact List.Subset.trans (strings_of_member (show (m.1, m.2) ∈ members from hm)) hx
    · refine .cons ⟨hr.mono fun _ _ => Or.inl, hg.mono fun _ _ h => ?_⟩ .nil
      exact h.imp id Or.inl

/-- Values that are alike are read alike. -/
theorem readsValues (hS : ReadsAlike s S) (shape : Shape) : ReadsValues s S root shape := by
  induction hdepth : shape.depth using Nat.strongRecOn generalizing shape with
  | _ depth ih =>
    intro x y path path' hxy hx
    cases x with
    | object members =>
      obtain ⟨others, rfl, hobject⟩ := hS.object hxy
      intro L L₁ M vs hL hM hvs
      obtain ⟨a, found, ha, hd⟩ := declared_of_value hvs
      obtain ⟨found', hd', halike⟩ := hobject a found ha hd
      refine mirrors_object hS (fun name f hf => ?_) ha hd hd' halike hx L L₁ M vs hL hM hvs
      refine ih f.shape.depth ?_ f.shape rfl
      rw [← hdepth]
      exact Shape.depth_lt_of_mem ha (Aliases.mem_of_get? hf)
    | array xs => exact fun _ _ _ _ _ _ hvs => absurd hvs nofun
    | null =>
      obtain rfl := hS.leaf hxy nofun nofun
      exact .pure .nil
    | bool b =>
      obtain rfl := hS.leaf hxy nofun nofun
      exact .pure (.cons ⟨termAlike_literal rfl, graphAlike_empty⟩ .nil)
    | number n =>
      obtain rfl := hS.leaf hxy nofun nofun
      exact .pure (.cons ⟨termAlike_literal isLiteral_numberTerm, graphAlike_empty⟩ .nil)
    | string text =>
      obtain rfl := hS.leaf hxy nofun nofun
      rw [value, value]
      refine mirrors_term (mirrors_steady ?_ fun L r L' hr => steady_textTerm hr)
      rwa [Json.strings] at hx

/-- Members of the focus that are alike make isomorphic graphs, from any supplies of labels that are
not written in the first of them. -/
theorem fields_of_focus_alike {M : Labels} (hS : ReadsAlike s S)
    (hmembers : MembersAlike s S a members others) (hL : L.FreshFor (.object members))
    (hM : M.FreshFor (.object members))
    (h : fields s a (.iri s.focus) "" members L = .ok (g, L')) :
    ∃ g' M', fields s a (.iri s.focus) "" others M = .ok (g', M') ∧ g.isIsomorphic g' = true := by
  have hvalues : ∀ name f, a.get? name = some f → ReadsValues s S (.object members) f.shape :=
    fun _ f _ => readsValues hS f.shape
  have hstrings : ∀ m ∈ members, m.2.strings ⊆ Json.strings (.object members) := by
    intro m hm
    rw [Json.strings]
    exact strings_of_member (show (m.1, m.2) ∈ members from hm)
  have hfocus : TermAlike (.object members) nothing (.iri s.focus) (.iri s.focus) := by
    refine .same ?_
    rintro ⟨label, -, hlabel⟩
    cases hlabel
  have hfields : Mirrors (.object members)
      (fun ρ => GraphAlike (.object members) (either nothing ρ))
      (fields s a (.iri s.focus) "" members) (fields s a (.iri s.focus) "" others) :=
    mirrors_fields hS hvalues hmembers hstrings hfocus
  obtain ⟨g', M', ρ, hg', hlinks, halike⟩ := hfields L L' M g hL hM h
  refine ⟨g', M', hg', isIsomorphic_of_alike (halike.mono ?_) hlinks (fields_leaves _ h).2.1
    (fields_leaves _ hg').2.1⟩
  exact fun _ _ hr => hr.resolve_left id

/-- Descriptions with members that are alike make isomorphic graphs. -/
theorem focusTriples_alike {J J' : Json} {M : Labels} (hS : ReadsAlike s S)
    (hroot : ∀ members a, J = .object members → Description.root s D J = .ok (members, a) →
      ∃ others, Description.root s D J' = .ok (others, a) ∧ MembersAlike s S a members others)
    (hL : L.FreshFor J) (hM : M.FreshFor J) (hg : focusTriples s D J L = .ok (g, L')) :
    ∃ g' M', focusTriples s D J' M = .ok (g', M') ∧ g.isIsomorphic g' = true := by
  obtain ⟨members, a, hr, hfields⟩ := focusTriples_ok hg
  obtain ⟨rfl, -⟩ := object_of_root hr
  obtain ⟨others, hr', hmembers⟩ := hroot members a rfl hr
  unfold focusTriples
  rw [bind_of_ok (lift_of_ok hr')]
  exact fields_of_focus_alike hS hmembers hL hM hfields

section Decode

variable {focus : String} {k : Keywords} {J J' : Json} {M : Labels}

/-- A description that is alike another one can be read if this one can, with any labels that are
not written. -/
theorem decode_alike (hS : ReadsAlike (.of focus k) S)
    (hroot : ∀ members a, J = .object members →
      Description.root (.of focus k) shape.drive J = .ok (members, a) →
      ∃ others, Description.root (.of focus k) shape.drive J' = .ok (others, a) ∧
        MembersAlike (.of focus k) S a members others)
    (hL : L.FreshFor J) (hM : M.FreshFor J) (hg : decode focus shape J k L = .ok g) :
    ∃ g', decode focus shape J' k M = .ok g' ∧ g.isIsomorphic g' = true := by
  have hprepare := prepare_of_decode hg
  obtain ⟨L', hg⟩ := (decode_ok_iff hprepare).1 hg
  obtain ⟨g', M', hg', hiso⟩ := focusTriples_alike hS hroot hL hM hg
  exact ⟨g', (decode_ok_iff hprepare).2 ⟨M', hg'⟩, hiso⟩

/-- Of two descriptions, each can be read if the other can, and their graphs are isomorphic. -/
theorem decode_iff_of_alike
    (hleft : ∀ g, decode focus shape J k L = .ok g →
      ∃ g', decode focus shape J' k M = .ok g' ∧ g.isIsomorphic g' = true)
    (hright : ∀ g', decode focus shape J' k M = .ok g' →
      ∃ g, decode focus shape J k L = .ok g ∧ g'.isIsomorphic g = true) :
    ((∃ g, decode focus shape J k L = .ok g) ↔ ∃ g', decode focus shape J' k M = .ok g') ∧
      ∀ g g', decode focus shape J k L = .ok g → decode focus shape J' k M = .ok g' →
        g.isIsomorphic g' = true := by
  refine ⟨⟨?_, ?_⟩, fun g g' hg hg' => ?_⟩
  · rintro ⟨g, hg⟩
    obtain ⟨g', hg', -⟩ := hleft g hg
    exact ⟨g', hg'⟩
  · rintro ⟨g', hg'⟩
    obtain ⟨g, hg, -⟩ := hright g' hg'
    exact ⟨g, hg⟩
  · obtain ⟨g'', hg'', hiso⟩ := hleft g hg
    rw [hg'] at hg''
    cases hg''
    exact hiso

end Decode

end LinkedShapes.Description
