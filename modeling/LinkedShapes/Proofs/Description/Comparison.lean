import LinkedShapes.Proofs.Description.Places

/-!
# What makes descriptions comparable

Validation looks at a description place by place, a scan at the graph that all of its places make
together. `Comparable` says what a description must be like for the two to see the same, so far as
it can be said of each place; `Complete` says the rest.

* `ComparableValue`, `ComparableObject`: conditions on values and on objects of resources.
* `FieldRun`: what is read of the values of a field at the place of a resource.
* `nested_of_place`: at a place, the values of a field and the ends of its edges stand for each
  other.
-/

namespace LinkedShapes

variable {k : Keywords} {shape : Shape} {a : Aliases} {edge : Edge} {name : String}

namespace Description

variable {s : Setting} {top V D V' D' : Shape} {b : Aliases} {path : String} {L L' M : Labels}
variable {json root item : Json} {members : List (String × Json)} {t u : Term} {g : Graph}
variable {found terms : List Term} {x y : Place}

/-! ## Conditions -/

/-- Whatever else the level asks for, it rejects the term by a datatype. -/
def Rejects (V : Shape) (t : Term) : Prop :=
  ∃ datatype, .datatype datatype ∈ V.demanded ∧ t.isOf datatype = false

/-- A value that fields may be looked for in: a text, or an object that describes a resource or has
none of the fields. -/
def Structured (k : Keywords) (V : Shape) (json : Json) (t : Term) : Prop :=
  (∃ text, json = .string text) ∨ ∃ members, json = .object members ∧
    (t.isResource = true ∨ ∀ a, Aliases.ofShape V k = .ok a → ∀ m ∈ members, a.get? m.1 = none)

/-- What makes a value comparable that is validated by `V` and read by `D`. -/
structure ComparableValue (s : Setting) (V D : Shape) (item : Json) : Prop where
  /-- Both shapes read the value alike. -/
  alike : ∀ path L p, termsOfValue s V path item L = .ok p ↔ termsOfValue s D path item L = .ok p
  /-- No label is drawn for the value if labels are looked at. -/
  told : V.parts.any Shape.looksAtLabels = true →
    ∀ path L ts L', termsOfValue s V path item L = .ok (ts, L') → L' = L
  /-- If there are fields, they may be looked for in the value, or it is rejected. -/
  structured : V.HasFields → item ≠ .null →
    ∀ path L ts L', termsOfValue s V path item L = .ok (ts, L') →
      ts ≠ [] ∧ ∀ t ∈ ts, Rejects V t ∨ Structured s.keywords V item t

/-- A member that reading does not fail at, unless validation reports it. -/
def Overseen (s : Setting) (V : Shape) (a b : Aliases) (m : String × Json) : Prop :=
  -- it is unexpected
  isKnown s a m.1 = false ∧ V.isTagged = false ∨
  -- it is validated in any case
  (∃ edge label inner, .field edge label inner ∈ V.demanded ∧ a.nameOf? edge = some m.1 ∧
    edge.inverse = false) ∨
  -- it can be read
  ∀ r path L, r.isResource = true → Faultless (fields s b r path [m]) L

/-- What makes an object comparable that describes a resource. -/
structure ComparableObject (s : Setting) (V D : Shape) (members : List (String × Json)) :
    Prop where
  distinct : (members.map (·.1)).Nodup
  /-- Both shapes have fields on the same edge, if any, under the name of a member. -/
  edges : ∀ a b, Aliases.ofShape V s.keywords = .ok a → Aliases.ofShape D s.keywords = .ok b →
    ∀ m ∈ members, (a.get? m.1).map (·.edge) = (b.get? m.1).map (·.edge)
  overseen : ∀ a b, Aliases.ofShape V s.keywords = .ok a → Aliases.ofShape D s.keywords = .ok b →
    ∀ m ∈ members, Overseen s V a b m

/-- What makes a description comparable: all of its values and objects are. -/
structure Comparable (s : Setting) (top : Shape) (root : Json) : Prop where
  objects : ∀ V D members, Describes s top root V D members → ComparableObject s V D members
  values : ∀ V D members V' D' item, Describes s top root V D members →
    ValueOf s V D members V' D' item → ComparableValue s V' D' item

/-! ## Values and ends -/

/-- Values and terms that stand for each other, each at a place of the description. -/
structure Paired (s : Setting) (top : Shape) (root : Json) (M : Labels) (V : Shape)
    (values : List Json) (terms : List Term) : Prop where
  left : ∀ json ∈ values, json ≠ .null → ∃ x, Placed s top root M x ∧ x.expected = V ∧
    x.json = json ∧ Structured s.keywords V x.json x.term ∧ x.term ∈ terms
  right : ∀ t ∈ terms, ∃ x, Placed s top root M x ∧ x.expected = V ∧ x.json ∈ values ∧
    x.json ≠ .null ∧ Structured s.keywords V x.json x.term ∧ x.term = t

/-- Values, the terms that validation finds for them, and terms of the graph: for the level `V`
they are the same. -/
structure Group (s : Setting) (top : Shape) (root : Json) (M : Labels) (V : Shape)
    (values : List Json) (found terms : List Term) : Prop where
  alike : V.Alike found terms
  paired : V.HasFields → (∃ t ∈ found, Rejects V t) ∨ Paired s top root M V values terms

theorem Group.nothing : Group s top root M V [] [] [] where
  alike := Shape.Alike.refl
  paired := fun _ => Or.inr
    ⟨fun _ hj => absurd hj List.not_mem_nil, fun _ ht => absurd ht List.not_mem_nil⟩

/-- What validation finds in values that are nested at a place of the description: all of them can
be read, none of their members is unexpected, and their terms are, for the level `V`, those of the
graph. -/
structure Nested (s : Setting) (top : Shape) (root : Json) (M : Labels) (V : Shape)
    (values : List Json) (terms : List Term) : Prop where
  read : CanBeRead s V values
  expected : ∀ b, Aliases.ofShape V s.keywords = .ok b →
    (unexpectedMembers s b V values).isEmpty = true
  group : ∀ found issues path L L', L.FreshFor root →
    termsOfGroup s V path 0 [] [] values L = .ok ((found, issues), L') →
    Group s top root M V values found terms

theorem Nested.nothing : Nested s top root M V [] [] where
  read := fun _ hi => absurd hi List.not_mem_nil
  expected := fun _ _ =>
    isEmpty_unexpectedMembers.2 (Or.inr fun _ hi => absurd hi List.not_mem_nil)
  group := by
    intro found issues path L L' _ hfound
    cases hfound
    exact .nothing

theorem isOf_blank {datatype : String} (ht : t.isBlank = true) (hu : u.isBlank = true) :
    t.isOf datatype = u.isOf datatype := by
  obtain ⟨label, rfl⟩ := Term.eq_blankNode ht
  obtain ⟨label', rfl⟩ := Term.eq_blankNode hu
  rfl

/-- A level that rejects one of several terms rejects one of those that are alike. -/
theorem rejects_alike (h : V.Alike found terms) (ht : t ∈ terms) (hr : Rejects V t) :
    ∃ u ∈ found, Rejects V u := by
  obtain ⟨σ, hperm, hσ⟩ := h
  obtain ⟨u, hu, rfl⟩ := List.mem_map.1 (hperm.mem_iff.1 ht)
  refine ⟨u, hu, ?_⟩
  rcases hσ u hu with heq | ⟨-, hblank, hblank'⟩
  · rwa [heq] at hr
  · obtain ⟨datatype, hd, hno⟩ := hr
    exact ⟨datatype, hd, (isOf_blank hblank hblank').trans hno⟩

theorem FieldOf.unique {name' : String} {V₁ D₁ : Shape} (h : FieldOf s V D edge name V' D')
    (h' : FieldOf s V D edge name' V₁ D₁) :
    name' = name ∧ D₁ = D' ∧ FieldOf s V D edge name V₁ D' := by
  obtain ⟨a, b, label, f, ha, hb, hpart, hname, hget, hshape⟩ := h
  obtain ⟨a', b', label', f', ha', hb', hpart', hname', hget', hshape'⟩ := h'
  rw [ha] at ha'
  cases ha'
  rw [hb] at hb'
  cases hb'
  rw [hname] at hname'
  cases hname'
  rw [hget] at hget'
  cases hget'
  exact ⟨rfl, hshape'.symm.trans hshape, a, b, label', f, ha, hb, hpart', hname, hget, hshape⟩

/-! ## The values of a field at a place -/

/-- What is read of the values of a field at the place of a resource. -/
structure FieldRun (s : Setting) (g : Graph) (x : Place) (edge : Edge) (name : String)
    (V' D' : Shape) (json : Json) (L : Labels) (vs : List Described) : Prop where
  field : FieldOf s x.expected x.driver edge name V' D'
  labels : x.labels.Leaves L
  read : ∃ L', Description.values s D' (x.path ++ "/" ++ name) json L = .ok (vs, L')
  triples : ∀ v ∈ vs, edge.triple x.term v.1 ∈ g.triples
  /-- It leads to the places where reading stops for the values. -/
  leads : ∀ y, y.expected = V' → (Leads s x edge y ↔ y.driver = D' ∧
    ∃ stop ∈ stops s D' (x.path ++ "/" ++ name) L json, ∃ ts, y.path = stop.path ∧
      y.json = stop.json ∧
      termsOfValue s D' stop.path stop.json stop.labels = .ok (ts, y.labels) ∧ y.term ∈ ts)

theorem fieldRun_of_place {label : Option String} (hrun : RunAt s top root g x)
    (hc : Comparable s top root) (hjson : x.json = .object members)
    (hres : x.term.isResource = true) (ha : Aliases.ofShape x.expected s.keywords = .ok a)
    (hpart : .field edge label V' ∈ x.expected.parts) (hname : a.nameOf? edge = some name)
    (hlookup : Json.lookup name members = some json) :
    ∃ D' L vs, FieldRun s g x edge name V' D' json L vs := by
  obtain ⟨hdescribes, b, g₁, L', hb, hfields, hsub⟩ := hrun.object members hjson hres
  have hedges := (hc.objects _ _ _ hdescribes).edges a b ha hb _ (mem_of_lookup_json hlookup)
  obtain ⟨fa, hfa, hedge⟩ := Aliases.get?_of_nameOf? ha hname
  rw [hfa, Option.map_some, hedge] at hedges
  obtain ⟨f, hf, hfedge⟩ := Option.map_eq_some_iff.1 hedges.symm
  obtain ⟨vs, g₂, L₁, L₂, hvs, hle, htriples, hsub', hstops⟩ := member_run hfields hlookup hf
  have hfield : FieldOf s x.expected x.driver edge name V' f.shape :=
    ⟨a, b, label, f, ha, hb, hpart, hname, hf, rfl⟩
  refine ⟨f.shape, L₁, vs, hfield, hle, ⟨L₂, hvs⟩, fun v hv => ?_, fun y hy => ?_⟩
  · refine hsub (hsub' ((mem_fieldTriples htriples).2 ⟨v, hv, Or.inl ?_⟩))
    rw [hfedge]
  · constructor
    · rintro ⟨members', b', name', stop, ts, hjson', -, hfield', hb', hstop, hpath, hyjson,
        hterms, hmem⟩
      rw [hjson] at hjson'
      cases hjson'
      rw [hb] at hb'
      cases hb'
      obtain ⟨rfl, hdriver, -⟩ := hfield.unique hfield'
      rw [hstops] at hstop
      rw [hdriver] at hterms
      exact ⟨hdriver, stop, hstop, ts, hpath, hyjson, hterms, hmem⟩
    · rintro ⟨hdriver, stop, hstop, ts, hpath, hyjson, hterms, hmem⟩
      rw [← hstops] at hstop
      refine ⟨members, b, name, stop, ts, hjson, hres, ?_, hb, hstop, hpath, hyjson, ?_, hmem⟩
      · rw [hy, hdriver]
        exact hfield
      · rw [hdriver]
        exact hterms

/-- A description that is read with fresh labels, comparable with the graph that is read of it. -/
structure Compared (s : Setting) (top : Shape) (root : Json) (M : Labels) (g : Graph) : Prop where
  fresh : M.FreshFor root
  read : ∃ L, focusTriples s top root M = .ok (g, L)
  comparable : Comparable s top root
  complete : Complete s top root M g

theorem Compared.run (h : Compared s top root M g) (hx : Placed s top root M x) :
    RunAt s top root g x := by
  obtain ⟨L, hread⟩ := h.read
  exact hx.run h.fresh hread

theorem Compared.sound (h : Compared s top root M g) : Sound g := by
  obtain ⟨L, hread⟩ := h.read
  obtain ⟨p, L₁, -, hfields⟩ := run_ok_of_bind hread
  exact (fields_leaves _ hfields).2

/-- What a place leads to does not depend on the one of several fields on an edge. -/
theorem Leads.expect (h : Leads s x edge y) (hf : FieldOf s x.expected x.driver edge name V' D') :
    Leads s x edge { y with expected := V' } := by
  obtain ⟨members, b, name', stop, ts, hjson, hres, hfield, hb, hstop, hpath, hyjson, hterms,
    hmem⟩ := h
  exact ⟨members, b, name', stop, ts, hjson, hres, (hfield.unique hf).2.2, hb, hstop, hpath, hyjson,
    hterms, hmem⟩

/-- A text leads nowhere. -/
theorem not_leads_of_text {text : String} (hjson : x.json = .string text) : ¬ Leads s x edge y := by
  rintro ⟨members, -, -, -, -, hobject, -⟩
  rw [hjson] at hobject
  cases hobject

/-- Nothing is led to along a field that has no member. -/
theorem not_leads_of_lookup_none (hjson : x.json = .object members)
    (ha : Aliases.ofShape x.expected s.keywords = .ok a) (hname : a.nameOf? edge = some name)
    (hlookup : Json.lookup name members = none) : ¬ Leads s x edge y := by
  rintro ⟨members', b, name', stop, ts, hobject, -, hfield, -, hstop, -⟩
  rw [hjson] at hobject
  cases hobject
  obtain ⟨a', b', label', f, ha', -, -, hname', -⟩ := hfield
  rw [ha] at ha'
  cases ha'
  rw [hname] at hname'
  cases hname'
  rw [memberStops_of_lookup_none hlookup] at hstop
  exact absurd hstop List.not_mem_nil

/-- Edges that nothing is led to along have no ends: the description tells of all of them. -/
theorem ends_eq_nil {label : Option String} (hg : Compared s top root M g)
    (hx : Placed s top root M x) (hpart : .field edge label V' ∈ x.expected.parts)
    (hno : ∀ y, ¬ Leads s x edge y) : ends g edge x.term = [] := by
  refine List.eq_nil_iff_forall_not_mem.2 fun u hu => ?_
  obtain ⟨y, hy, -⟩ := hg.complete x hx edge label V' hpart u ((mem_ends_iff hg.sound).1 hu)
  exact hno y hy

namespace FieldRun

variable {vs : List Described}

/-- All values of a field can be read as validation reads them. -/
theorem canBeRead (h : FieldRun s g x edge name V' D' json L vs)
    (hval : ∀ item ∈ listed json, ComparableValue s V' D' item) :
    CanBeRead s V' (listed json) := by
  intro item hitem
  obtain ⟨L', hvs⟩ := h.read
  obtain ⟨stop, hstop, rfl⟩ := (values_readAt hvs).stop item hitem
  obtain ⟨-, -, ws, L₁, hvalue, -⟩ := (values_readAt hvs).read stop hstop
  obtain ⟨L₂, hterms⟩ := terms_of_value hvalue
  exact ⟨stop.path, stop.labels, _, L₂, ((hval _ hitem).alike _ _ _).2 hterms⟩

/-- No member of the values is unexpected. -/
theorem expected (h : FieldRun s g x edge name V' D' json L vs)
    (hc : Comparable s top root) (hdescribes : Describes s top root x.expected x.driver members)
    (hlookup : Json.lookup name members = some json)
    (hval : ∀ item ∈ listed json, ComparableValue s V' D' item)
    (ha : Aliases.ofShape V' s.keywords = .ok b) :
    (unexpectedMembers s b V' (listed json)).isEmpty = true := by
  rw [isEmpty_unexpectedMembers]
  by_cases htagged : V'.isTagged = true
  · exact Or.inl htagged
  refine Or.inr fun inner hinner m hm => ?_
  have hkeyword : (s.keywords.keyword? m.1).isSome = true → isKnown s b m.1 = true := by
    intro hk
    rw [isSome_keyword?] at hk
    rw [isKnown, hk, Bool.true_or]
  obtain ⟨L', hvs⟩ := h.read
  obtain ⟨stop, hstop, hjson⟩ := (values_readAt hvs).stop _ hinner
  obtain ⟨-, -, ws, L₁, hvalue, -⟩ := (values_readAt hvs).read stop hstop
  rw [hjson] at hvalue
  -- as literals the object has keywords only; as a resource its members are fields of both shapes
  rcases value_object_run hvalue with ⟨hlit, hterms, -⟩ |
    ⟨c, r, g₁, L₂, hc', -, hr, hterms, hfields⟩
  · rcases terms_object (((hval _ hinner).alike _ _ _).2 hterms) with ⟨r, hts, hr⟩ | ⟨-, hmembers⟩
    · obtain ⟨v, hv, heq⟩ := List.mem_map.1 (hts ▸ List.mem_singleton_self r : r ∈ ws.map (·.1))
      have hliteral := (hlit v hv).1
      rw [heq] at hliteral
      cases r with
      | literal l => cases hr
      | iri _ | blankNode _ => cases hliteral
    · exact hkeyword (hmembers.resolve_left htagged m hm)
  · have hinside : Describes s top root V' D' inner :=
      .inside hdescribes ⟨edge, name, json, h.field, hlookup, hinner⟩ hterms hr
    have hedges := (hc.objects _ _ _ hinside).edges b c ha hc' m hm
    rcases known_of_fields hfields hm with hfield | hk
    · obtain ⟨f, hf⟩ := Option.isSome_iff_exists.1 hfield
      rw [hf, Option.map_some] at hedges
      obtain ⟨f', hf', -⟩ := Option.map_eq_some_iff.1 hedges
      rw [isKnown, Aliases.contains, hf']
      exact Bool.or_true _
    · exact hkeyword hk

/-- The ends of the edges are the terms that are read for the values. -/
theorem mem_ends (h : FieldRun s g x edge name V' D' json L vs) (hg : Compared s top root M g)
    (hx : Placed s top root M x) : u ∈ ends g edge x.term ↔ u ∈ vs.map (·.1) := by
  rw [mem_ends_iff hg.sound]
  constructor
  · intro hmem
    obtain ⟨a, b, label, f, -, -, hpart, -⟩ := id h.field
    obtain ⟨y, hy, rfl⟩ := hg.complete x hx edge label V' hpart u hmem
    obtain ⟨-, stop, hstop, ts, -, -, hterms, hts⟩ := (h.leads _ rfl).1 (hy.expect h.field)
    obtain ⟨L', hvs⟩ := h.read
    obtain ⟨-, -, ws, L₁, hvalue, hsub⟩ := (values_readAt hvs).read stop hstop
    obtain ⟨L₂, hterms'⟩ := terms_of_value hvalue
    rw [hterms'] at hterms
    cases hterms
    exact List.map_subset _ hsub hts
  · intro hmem
    obtain ⟨v, hv, rfl⟩ := List.mem_map.1 hmem
    exact h.triples v hv

/-- The terms that validation finds are, up to labels, the ends of the edges. -/
theorem alike {found : List Term} {issues : Trace} {Lv Lv' : Labels}
    (h : FieldRun s g x edge name V' D' json L vs) (hg : Compared s top root M g)
    (hx : Placed s top root M x) (hstrings : json.strings ⊆ root.strings)
    (hval : ∀ item ∈ listed json, ComparableValue s V' D' item)
    (hfresh : Lv.FreshFor root)
    (hfound : termsOfGroup s V' path 0 [] [] (listed json) Lv = .ok ((found, issues), Lv')) :
    V'.Alike found (ends g edge x.term) := by
  obtain ⟨us, hlisting, hnodup, hmem⟩ := listing_of_group hfound (h.canBeRead hval)
  obtain ⟨L', hvs⟩ := h.read
  have hlisting' : Listing s V' (listed json) L (vs.map (·.1)) :=
    (listing_of_values hvs).congr fun item hitem path L p => ((hval item hitem).alike path L p).2
  have hoff : KeepsOff s V' root (listed json) :=
    keepsOff_of_strings fun item hitem => List.Subset.trans (strings_of_listed hitem) hstrings
  have hlabels := (hg.run hx).labels.leaves h.labels
  have hus : ∀ t, t ∈ found ↔ t ∈ us := fun t =>
    (hmem t).trans ⟨fun ht => ht.resolve_left List.not_mem_nil, Or.inr⟩
  refine hlisting.alike hlisting' hoff hfresh hlabels (fun item hitem hdrawn => ?_)
    (hnodup List.nodup_nil) hus (nodup_eraseDups _) fun t => h.mem_ends hg hx
  by_contra hlooks
  have hsame := (hval item hitem).told (by simpa using hlooks) _ _ _ _ (hdrawn "" default)
  exact Labels.after_succ_ne default 0 hsame

/-- Where reading stops for a value that is not null, there are terms, and each of them has a place
there. -/
theorem placed_of_stop {stop : Stop} (h : FieldRun s g x edge name V' D' json L vs)
    (hg : Compared s top root M g) (hx : Placed s top root M x)
    (hval : ∀ item ∈ listed json, ComparableValue s V' D' item)
    (halike : V'.Alike found (ends g edge x.term)) (hfields : V'.HasFields)
    (haccept : ¬ ∃ t ∈ found, Rejects V' t)
    (hstop : stop ∈ stops s D' (x.path ++ "/" ++ name) L json) (hnull : stop.json ≠ .null) :
    ∃ ws L', value s D' stop.path stop.json stop.labels = .ok (ws, L') ∧ ws ≠ [] ∧
      ∀ w ∈ ws, ∃ y, Placed s top root M y ∧ y.expected = V' ∧ y.json = stop.json ∧
        Structured s.keywords V' y.json y.term ∧ y.term = w.1 ∧ y.term ∈ ends g edge x.term := by
  obtain ⟨L₁, hvs⟩ := h.read
  obtain ⟨hitem, -, ws, L₂, hvalue, hsub⟩ := (values_readAt hvs).read stop hstop
  obtain ⟨L₃, hterms⟩ := terms_of_value hvalue
  obtain ⟨hne, hall⟩ := (hval _ hitem).structured hfields hnull _ _ _ _
    (((hval _ hitem).alike _ _ _).2 hterms)
  refine ⟨ws, L₂, hvalue, fun hws => hne (by rw [hws]; rfl), fun w hw => ?_⟩
  have hmem : w.1 ∈ ws.map (·.1) := List.mem_map_of_mem hw
  -- a term that is found at the stop is led to from the place of the resource
  have hleads : Leads s x edge ⟨V', D', stop.path, stop.json, w.1, L₃⟩ :=
    (h.leads _ rfl).2 ⟨rfl, stop, hstop, _, rfl, rfl, hterms, hmem⟩
  have hends : w.1 ∈ ends g edge x.term :=
    (h.mem_ends hg hx).2 (List.map_subset _ hsub hmem)
  have hstructured := (hall w.1 hmem).resolve_left fun hr =>
    haccept (rejects_alike halike hends hr)
  exact ⟨_, hx.inside hleads, rfl, rfl, hstructured, rfl, hends⟩

/-- Values and ends stand for each other, unless the level rejects one of the terms. -/
theorem paired (h : FieldRun s g x edge name V' D' json L vs) (hg : Compared s top root M g)
    (hx : Placed s top root M x) (hval : ∀ item ∈ listed json, ComparableValue s V' D' item)
    (halike : V'.Alike found (ends g edge x.term)) (hfields : V'.HasFields) :
    (∃ t ∈ found, Rejects V' t) ∨
      Paired s top root M V' (listed json) (ends g edge x.term) := by
  by_cases hreject : ∃ t ∈ found, Rejects V' t
  · exact Or.inl hreject
  obtain ⟨L', hvs⟩ := h.read
  have hread := values_readAt hvs
  refine Or.inr ⟨fun item hitem hnull => ?_, fun t ht => ?_⟩
  · obtain ⟨stop, hstop, rfl⟩ := hread.stop item hitem
    obtain ⟨ws, L₁, -, hne, hall⟩ :=
      h.placed_of_stop hg hx hval halike hfields hreject hstop hnull
    obtain ⟨w, hw⟩ := List.exists_mem_of_ne_nil ws hne
    obtain ⟨y, hy, hexpected, hjson, hstructured, -, hends⟩ := hall w hw
    exact ⟨y, hy, hexpected, hjson, hstructured, hends⟩
  · obtain ⟨v, hv, rfl⟩ := List.mem_map.1 ((h.mem_ends hg hx).1 ht)
    obtain ⟨stop, hstop, ws, L₁, hvalue, hws⟩ := hread.value v hv
    have hnull : stop.json ≠ .null := by
      intro hnull
      rw [hnull] at hvalue
      cases hvalue
      exact absurd hws List.not_mem_nil
    obtain ⟨ws', L₂, hvalue', -, hall⟩ :=
      h.placed_of_stop hg hx hval halike hfields hreject hstop hnull
    rw [hvalue] at hvalue'
    cases hvalue'
    obtain ⟨y, hy, hexpected, hjson, hstructured, hterm, -⟩ := hall v hws
    refine ⟨y, hy, hexpected, ?_, ?_, hstructured, hterm⟩
    · rw [hjson]
      exact (hread.read stop hstop).1
    · rw [hjson]
      exact hnull

/-- What validation finds in the values of a field stands for the ends of the edges. -/
theorem nested (h : FieldRun s g x edge name V' D' json L vs) (hg : Compared s top root M g)
    (hx : Placed s top root M x) (hjson : x.json = .object members)
    (hres : x.term.isResource = true) (hlookup : Json.lookup name members = some json) :
    Nested s top root M V' (listed json) (ends g edge x.term) := by
  have hrun := hg.run hx
  have hdescribes := (hrun.object members hjson hres).1
  have hval : ∀ item ∈ listed json, ComparableValue s V' D' item := fun item hitem =>
    hg.comparable.values _ _ _ _ _ _ hdescribes ⟨edge, name, json, h.field, hlookup, hitem⟩
  have hstrings : json.strings ⊆ root.strings := by
    refine List.Subset.trans ?_ hrun.strings
    rw [hjson, Json.strings]
    exact strings_of_member (mem_of_lookup_json hlookup)
  refine ⟨h.canBeRead hval, fun b hb => h.expected hg.comparable hdescribes hlookup hval hb, ?_⟩
  intro found issues path Lv Lv' hfresh hfound
  have halike := h.alike hg hx hstrings hval hfresh hfound
  exact ⟨halike, h.paired hg hx hval halike⟩

end FieldRun

/-- At a place, the values of a field and the ends of its edges stand for each other. -/
theorem nested_of_place {label : Option String} (hg : Compared s top root M g)
    (hx : Placed s top root M x) (hstructured : Structured s.keywords x.expected x.json x.term)
    (ha : Aliases.ofShape x.expected s.keywords = .ok a)
    (hpart : .field edge label V' ∈ x.expected.parts) (hname : a.nameOf? edge = some name) :
    ∃ values, memberValues name x.json = .ok values ∧
      Nested s top root M V' values (ends g edge x.term) := by
  rcases hstructured with ⟨text, hjson⟩ | ⟨members, hjson, hfields⟩
  · rw [ends_eq_nil hg hx hpart fun y => not_leads_of_text hjson]
    exact ⟨[], by rw [hjson]; rfl, .nothing⟩
  rw [hjson, memberValues_object]
  cases hlookup : Json.lookup name members with
  | none =>
    rw [ends_eq_nil hg hx hpart fun y => not_leads_of_lookup_none hjson ha hname hlookup]
    exact ⟨[], rfl, .nothing⟩
  | some json =>
    obtain ⟨f, hf, -⟩ := Aliases.get?_of_nameOf? ha hname
    have hres : x.term.isResource = true := by
      refine hfields.resolve_right fun hnone => ?_
      have hno := hnone a ha _ (mem_of_lookup_json hlookup)
      rw [hf] at hno
      cases hno
    obtain ⟨D', L, vs, h⟩ :=
      fieldRun_of_place (hg.run hx) hg.comparable hjson hres ha hpart hname hlookup
    exact ⟨listed json, rfl, h.nested hg hx hjson hres hlookup⟩

end Description

end LinkedShapes
