import LinkedShapes.Proofs.Description.Verdicts

/-!
# Places of a description

Validation and reading go down a description side by side: validation by the shape of each field,
reading by the shape that all fields on its edge are merged into. A `Place` is where both have come
to a value, with the term that reading makes of it. The labels drawn by then are part of a place,
so that its term is the very one in the graph.

* `Describes`: the objects that describe resources, with the two shapes that they are seen by.
* `Placed`: the places of a description.
* `Placed.run`: what reading makes of the object at a place is in the graph.
* `Complete`: wherever a resource stands, all is written there that the graph tells about it.
-/

namespace LinkedShapes.Description

open Vocabulary

variable {s : Setting} {shape top V D V' D' : Shape} {a b : Aliases} {path name : String}
variable {L L' : Labels} {json root item : Json} {members : List (String × Json)}
variable {r t u : Term} {g : Graph} {vs : List Described} {xs : List Json} {edge : Edge} {f : Field}

/-! ## Edges of a graph -/

/-- The ends of edges are told by the triples of the graph. -/
theorem mem_ends_iff (hg : Sound g) : u ∈ ends g edge t ↔ edge.triple t u ∈ g.triples := by
  unfold ends
  rw [List.mem_eraseDups, List.mem_map]
  constructor
  · rintro ⟨triple, ht, rfl⟩
    obtain ⟨hmem, htr⟩ := (hg.1.mem_edges_iff (Or.inr hg.2)).1 ht
    rw [← eq_triple_of_traverses (hg.2 triple hmem) htr]
    exact hmem
  · intro hmem
    exact ⟨_, (hg.1.mem_edges_iff (Or.inr hg.2)).2 ⟨hmem, traverses_triple⟩, target_triple⟩

/-! ## Stops -/

/-- Where reading comes to a value, and the labels drawn by then. -/
structure Stop where
  path : String
  json : Json
  labels : Labels

/-- The stops of reading the items of an array. -/
def itemStops (s : Setting) (shape : Shape) (path : String) (index : Nat) (L : Labels) :
    List Json → List Stop
  | [] => []
  | x :: xs =>
    ⟨path ++ "/" ++ toString index, x, L⟩ ::
      match value s shape (path ++ "/" ++ toString index) x L with
      | .ok (_, L') => itemStops s shape path (index + 1) L' xs
      | .error _ => []

/-- The stops of reading the values of a member. -/
def stops (s : Setting) (shape : Shape) (path : String) (L : Labels) : Json → List Stop
  | .array xs => itemStops s shape path 0 L xs
  | .null => []
  | json => [⟨path, json, L⟩]

/-- The stops of reading the members of an object, at the values of one of them. -/
def memberStops (s : Setting) (b : Aliases) (r : Term) (path name : String) (L : Labels) :
    List (String × Json) → List Stop
  | [] => []
  | (n, json) :: members =>
    if n = name then
      match b.get? name with
      | some f => stops s f.shape (path ++ "/" ++ name) L json
      | none => []
    else
      match fields s b r path [(n, json)] L with
      | .ok (_, L') => memberStops s b r path name L' members
      | .error _ => []

/-- What is read of a list of values is what is read at the stops. -/
structure ReadAt (s : Setting) (shape : Shape) (xs : List Json) (L : Labels)
    (vs : List Described) (stops : List Stop) : Prop where
  read : ∀ x ∈ stops, x.json ∈ xs ∧ L.Leaves x.labels ∧
    ∃ ws L', value s shape x.path x.json x.labels = .ok (ws, L') ∧ ws ⊆ vs
  stop : ∀ json ∈ xs, ∃ x ∈ stops, x.json = json
  value : ∀ v ∈ vs, ∃ x ∈ stops, ∃ ws L',
    value s shape x.path x.json x.labels = .ok (ws, L') ∧ v ∈ ws

theorem items_readAt {index : Nat} (h : items s shape path index xs L = .ok (vs, L')) :
    ReadAt s shape xs L vs (itemStops s shape path index L xs) := by
  induction xs generalizing index L vs with
  | nil =>
    rw [items] at h
    cases h
    exact ⟨fun _ hx => absurd hx List.not_mem_nil, fun _ hx => absurd hx List.not_mem_nil,
      fun _ hv => absurd hv List.not_mem_nil⟩
  | cons x xs ih =>
    obtain ⟨ws, L₁, rest, hv, hi, rfl⟩ := run_ok_of_items h
    have hrest := ih hi
    have hle := (value_leaves x hv).1
    rw [itemStops, hv]
    refine ⟨List.forall_mem_cons.2 ⟨?_, fun y hy => ?_⟩, List.forall_mem_cons.2 ⟨?_, ?_⟩, ?_⟩
    · exact ⟨List.mem_cons_self, .refl _, ws, L₁, hv, List.subset_append_left _ _⟩
    · obtain ⟨hmem, hnext, us, L₃, hread, hsub⟩ := hrest.read y hy
      exact ⟨List.mem_cons_of_mem _ hmem, hle.trans hnext, us, L₃, hread,
        List.subset_append_of_subset_right _ hsub⟩
    · exact ⟨_, List.mem_cons_self, rfl⟩
    · intro json hj
      obtain ⟨y, hy, heq⟩ := hrest.stop json hj
      exact ⟨y, List.mem_cons_of_mem _ hy, heq⟩
    · intro v hv'
      rcases List.mem_append.1 hv' with hw | hw
      · exact ⟨_, List.mem_cons_self, ws, L₁, hv, hw⟩
      · obtain ⟨y, hy, hread⟩ := hrest.value v hw
        exact ⟨y, List.mem_cons_of_mem _ hy, hread⟩

theorem values_readAt (h : values s shape path json L = .ok (vs, L')) :
    ReadAt s shape (listed json) L vs (stops s shape path L json) := by
  have hone : ∀ x, value s shape path x L = .ok (vs, L') →
      ReadAt s shape [x] L vs [⟨path, x, L⟩] := by
    intro x hv
    refine ⟨List.forall_mem_singleton.2 ?_, List.forall_mem_singleton.2 ?_, fun v hmem => ?_⟩
    · exact ⟨List.mem_singleton_self x, .refl _, vs, L', hv, List.Subset.refl _⟩
    · exact ⟨_, List.mem_singleton_self _, rfl⟩
    · exact ⟨_, List.mem_singleton_self _, vs, L', hv, hmem⟩
  cases json with
  | array xs => exact items_readAt h
  | null =>
    cases h
    exact ⟨fun _ hx => absurd hx List.not_mem_nil, fun _ hx => absurd hx List.not_mem_nil,
      fun _ hv => absurd hv List.not_mem_nil⟩
  | _ => exact hone _ h

theorem memberStops_of_lookup_none (h : Json.lookup name members = none) :
    memberStops s b r path name L members = [] := by
  induction members generalizing L with
  | nil => rfl
  | cons m members ih =>
    obtain ⟨n, json⟩ := m
    rw [Json.lookup] at h
    split at h
    · cases h
    · next hne =>
      rw [memberStops, if_neg hne]
      split
      · exact ih h
      · rfl

/-- The values of a member are read where the stops of the member are. -/
theorem member_run (h : fields s b r path members L = .ok (g, L'))
    (hj : Json.lookup name members = some json) (hf : b.get? name = some f) :
    ∃ vs g₁ L₁ L₂, values s f.shape (path ++ "/" ++ name) json L₁ = .ok (vs, L₂) ∧
      L.Leaves L₁ ∧ fieldTriples r f vs = .ok g₁ ∧ g₁.triples ⊆ g.triples ∧
      memberStops s b r path name L members = stops s f.shape (path ++ "/" ++ name) L₁ json := by
  induction members generalizing L g with
  | nil => cases hj
  | cons m members ih =>
    obtain ⟨n, other⟩ := m
    rw [fields_cons] at h
    obtain ⟨first, L₁, hfirst, h⟩ := run_ok_of_bind h
    obtain ⟨rest, L₂, hrest, h⟩ := run_ok_of_bind h
    cases h
    have hsub : ∀ t, t ∈ first.triples ∨ t ∈ rest.triples → t ∈ (first.merge rest).triples :=
      fun _ => Graph.mem_merge.2
    rw [Json.lookup] at hj
    split at hj
    · next heq =>
      cases hj
      rw [heq] at hfirst
      rw [fields_values_alone hf] at hfirst
      obtain ⟨vs, L₃, hvs, hfirst⟩ := run_ok_of_bind hfirst
      refine ⟨vs, first, L, L₃, hvs, .refl _, (ok_of_run_lift hfirst).1,
        fun t ht => hsub t (Or.inl ht), ?_⟩
      rw [memberStops, if_pos heq]
      simp only [hf]
    · next hne =>
      obtain ⟨vs, g₁, L₃, L₄, hvs, hle, htriples, hmem, hstops⟩ := ih hrest hj
      refine ⟨vs, g₁, L₃, L₄, hvs, (fields_leaves _ hfirst).1.trans hle, htriples,
        fun t ht => hsub t (Or.inr (hmem ht)), ?_⟩
      rw [memberStops, if_neg hne, hfirst]
      exact hstops

/-! ## Objects that describe resources -/

/-- A field of the level that validation is at, under its name, and the shape that reading takes for
its values. -/
def FieldOf (s : Setting) (V D : Shape) (edge : Edge) (name : String) (V' D' : Shape) : Prop :=
  ∃ a b label f, Aliases.ofShape V s.keywords = .ok a ∧ Aliases.ofShape D s.keywords = .ok b ∧
    .field edge label V' ∈ V.parts ∧ a.nameOf? edge = some name ∧ b.get? name = some f ∧
    f.shape = D'

/-- A value in an object: a value of one of the fields, with the two shapes of the field. -/
def ValueOf (s : Setting) (V D : Shape) (members : List (String × Json)) (V' D' : Shape)
    (item : Json) : Prop :=
  ∃ edge name json, FieldOf s V D edge name V' D' ∧ Json.lookup name members = some json ∧
    item ∈ listed json

/-- The objects in a description that describe resources, with the shapes that they are validated
and read by. -/
inductive Describes (s : Setting) (top : Shape) (root : Json) :
    Shape → Shape → List (String × Json) → Prop
  | focus {members : List (String × Json)} : root = .object members →
      Describes s top root top top members
  | inside {V D V' D' : Shape} {members inner : List (String × Json)} {path : String}
      {L L' : Labels} {r : Term} : Describes s top root V D members →
      ValueOf s V D members V' D' (.object inner) →
      termsOfValue s D' path (.object inner) L = .ok ([r], L') → r.isResource = true →
      Describes s top root V' D' inner

/-! ## Places -/

/-- A value where it stands in a description. -/
structure Place where
  /-- The shape that validation sees the value by. -/
  expected : Shape
  /-- The shape that it is read by. -/
  driver : Shape
  path : String
  json : Json
  /-- The term that it stands for. -/
  term : Term
  /-- The supply of labels, after one has been drawn for the term if it needs one. -/
  labels : Labels

/-- From the object of a resource to a value of one of its fields. -/
def Leads (s : Setting) (x : Place) (edge : Edge) (y : Place) : Prop :=
  ∃ members b name stop ts, x.json = .object members ∧ x.term.isResource = true ∧
    FieldOf s x.expected x.driver edge name y.expected y.driver ∧
    Aliases.ofShape x.driver s.keywords = .ok b ∧
    stop ∈ memberStops s b x.term x.path name x.labels members ∧
    y.path = stop.path ∧ y.json = stop.json ∧
    termsOfValue s y.driver stop.path stop.json stop.labels = .ok (ts, y.labels) ∧ y.term ∈ ts

/-- The place of the focus, before any label is drawn. -/
def focusPlace (s : Setting) (top : Shape) (root : Json) (labels : Labels) : Place :=
  ⟨top, top, "", root, .iri s.focus, labels⟩

/-- The places of a description that is read with labels from a supply. -/
inductive Placed (s : Setting) (top : Shape) (root : Json) (labels : Labels) : Place → Prop
  | focus : Placed s top root labels (focusPlace s top root labels)
  | inside {x y : Place} {edge : Edge} : Placed s top root labels x → Leads s x edge y →
      Placed s top root labels y

/-- Wherever a resource stands, its description there has all that the graph tells about it along
the fields of the level. -/
def Complete (s : Setting) (top : Shape) (root : Json) (labels : Labels) (g : Graph) : Prop :=
  ∀ x, Placed s top root labels x → ∀ edge label inner,
    .field edge label inner ∈ x.expected.parts →
    ∀ u, edge.triple x.term u ∈ g.triples → ∃ y, Leads s x edge y ∧ y.term = u

/-! ## Runs at places -/

/-- The root of a description is right if its keywords agree and name the focus, if they name
anything. -/
theorem root_object_iff {members' : List (String × Json)} :
    Description.root s shape (.object members) = .ok (members', a) ↔
      members' = members ∧ Aliases.ofShape shape s.keywords = .ok a ∧
        ∃ found, declared s a members = .ok found ∧ ∀ id, Json.lookup Keyword.id found = some id →
          ∃ text, keywordText Keyword.id id = .ok text ∧ Iri.resolve s.focus text = s.focus := by
  unfold Description.root
  constructor
  · intro h
    obtain ⟨b, hb, h⟩ := ok_of_bind h
    obtain ⟨found, hd, h⟩ := ok_of_bind h
    cases hid : Json.lookup Keyword.id found with
    | none =>
      rw [hid] at h
      cases h
      refine ⟨rfl, ok_of_aliasesOf hb, found, hd, fun id h => ?_⟩
      rw [hid] at h
      cases h
    | some id =>
      rw [hid] at h
      obtain ⟨text, ht, h⟩ := ok_of_bind h
      dsimp only at h
      split at h
      · cases h
      · next heq =>
        cases h
        refine ⟨rfl, ok_of_aliasesOf hb, found, hd, fun id' h => ?_⟩
        rw [hid] at h
        cases h
        exact ⟨text, ht, not_not.1 heq⟩
  · rintro ⟨rfl, ha, found, hd, hid⟩
    rw [aliasesOf_of_ok ha]
    dsimp only [bind, Except.bind]
    rw [hd]
    dsimp only
    cases hl : Json.lookup Keyword.id found with
    | none => rfl
    | some id =>
      obtain ⟨text, ht, heq⟩ := hid id hl
      dsimp only
      rw [ht]
      dsimp only
      rw [if_neg (not_not.2 heq)]
      rfl

theorem object_of_root (h : Description.root s shape json = .ok (members, a)) :
    json = .object members ∧ Aliases.ofShape shape s.keywords = .ok a := by
  cases json with
  | object ms =>
    obtain ⟨rfl, ha, -⟩ := root_object_iff.1 h
    exact ⟨rfl, ha⟩
  | _ => cases h

/-- The focus is read from its members once the root of the description is right. -/
theorem focusTriples_ok (h : focusTriples s top root L = .ok (g, L')) :
    ∃ members a, Description.root s top root = .ok (members, a) ∧
      fields s a (.iri s.focus) "" members L = .ok (g, L') := by
  obtain ⟨⟨members, a⟩, L₁, hlift, hfields⟩ := run_ok_of_bind h
  obtain ⟨hroot, rfl⟩ := ok_of_run_lift hlift
  exact ⟨members, a, hroot, hfields⟩

/-- What is read at the place of an object that describes a resource. -/
structure RunAt (s : Setting) (top : Shape) (root : Json) (g : Graph) (x : Place) : Prop where
  labels : x.labels.FreshFor root
  strings : x.json.strings ⊆ root.strings
  object : ∀ members, x.json = .object members → x.term.isResource = true →
    Describes s top root x.expected x.driver members ∧
      ∃ b g₁ L', Aliases.ofShape x.driver s.keywords = .ok b ∧
        fields s b x.term x.path members x.labels = .ok (g₁, L') ∧ g₁.triples ⊆ g.triples

/-- What is read at a place goes on where the place leads. -/
theorem RunAt.leads {x y : Place} (hx : RunAt s top root g x) (hleads : Leads s x edge y) :
    RunAt s top root g y := by
  obtain ⟨members, b, name, stop, ts, hjson, hres, hfield, hb, hstop, hpath, hyjson, hterms,
    hmem⟩ := hleads
  obtain ⟨hdescribed, b', g₁, L₁, hb', hfields, hsub⟩ := hx.object members hjson hres
  rw [hb] at hb'
  cases hb'
  obtain ⟨a, b', label, f, -, hb', -, -, hget, hshape⟩ := id hfield
  rw [hb] at hb'
  cases hb'
  cases hlookup : Json.lookup name members with
  | none =>
    rw [memberStops_of_lookup_none hlookup] at hstop
    exact absurd hstop List.not_mem_nil
  | some json =>
    obtain ⟨vs, g₂, L₂, L₃, hvs, hle, htriples, hsub', hstops⟩ := member_run hfields hlookup hget
    -- where the place leads is one of the stops in the run of its object
    rw [hshape] at hvs hstops
    rw [hstops] at hstop
    obtain ⟨hlisted, hnext, ws, L₄, hvalue, hws⟩ := (values_readAt hvs).read stop hstop
    have hlabels := hx.labels.leaves (hle.trans hnext)
    refine ⟨hlabels.leaves (leaves_of_terms hterms), ?_, fun inner hinner hyres => ?_⟩
    · rw [hyjson]
      refine List.Subset.trans (strings_of_listed hlisted) (List.Subset.trans ?_ hx.strings)
      rw [hjson, Json.strings]
      exact strings_of_member (mem_of_lookup_json hlookup)
    · rw [hyjson] at hinner
      rw [hinner] at hterms hvalue hlisted
      obtain ⟨c, g₃, hc, rfl, rfl, hinner'⟩ := value_resource_run hvalue hterms hmem hyres
      rw [hpath]
      refine ⟨.inside hdescribed ⟨edge, name, json, hfield, hlookup, hlisted⟩ hterms hyres, c, g₃,
        L₄, hc, hinner', fun t ht => hsub (hsub' ?_)⟩
      exact (mem_fieldTriples htriples).2 ⟨(y.term, g₃), hws (List.mem_singleton_self _),
        Or.inr ht⟩

/-- What reading makes of the object at a place is in the graph. -/
theorem Placed.run {x : Place} (h : Placed s top root L x) (hL : L.FreshFor root)
    (hread : focusTriples s top root L = .ok (g, L')) : RunAt s top root g x := by
  induction h with
  | focus =>
    obtain ⟨⟨members, b⟩, L₁, hroot, hfields⟩ := run_ok_of_bind hread
    obtain ⟨hok, rfl⟩ := ok_of_run_lift hroot
    obtain ⟨hjson, hb⟩ := object_of_root hok
    refine ⟨hL, List.Subset.refl _, fun inner hinner _ => ?_⟩
    have heq := hinner.symm.trans hjson
    cases heq
    exact ⟨.focus hjson, b, g, L', hb, hfields, List.Subset.refl _⟩
  | inside _ hleads ih => exact ih.leads hleads

end LinkedShapes.Description
