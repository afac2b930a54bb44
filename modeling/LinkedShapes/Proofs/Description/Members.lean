import LinkedShapes.Proofs.Description.Terms

/-!
# Values of members

Reading goes through the members of an object one by one, and through the values of each. What
reading a member comes to does not depend on the members behind it.

* `value_object_run`: what reading an object makes of it, given as terms and members.
* `run_ok_of_items`, `run_ok_of_group`: one step of reading the values of a member, and of
  collecting their terms.
* `fields_cons`: the first member is read as if it stood alone, then the others.
* `Faultless`: reading that ends with a defect of the shape if it fails at all.
* `isEmpty_termsOfGroup`: nothing is reported of values that can be read.
* `isEmpty_unexpectedMembers`: what members are unexpected.
-/

namespace LinkedShapes.Description

open Vocabulary

variable {s : Setting} {shape : Shape} {a : Aliases} {path name : String} {L L' L'' : Labels}
variable {json item : Json} {members found : List (String × Json)} {r : Term} {g : Graph}
variable {m : String × Json} {vs : List Described}

/-! ## Reading a value -/

/-- An object that is read stands for literals, or its members are read for its resource. -/
theorem value_object_run (h : value s shape path (.object members) L = .ok (vs, L')) :
    (∀ v ∈ vs, v.1.isLiteral = true ∧ v.2 = .empty) ∧
        termsOfValue s shape path (.object members) L = .ok (vs.map (·.1), L') ∧
        L' = L ∨
      ∃ a r g L₁, Aliases.ofShape shape s.keywords = .ok a ∧ vs = [(r, g)] ∧
        r.isResource = true ∧
        termsOfValue s shape path (.object members) L = .ok ([r], L₁) ∧
        fields s a r path members L₁ = .ok (g, L') := by
  obtain ⟨a, found, ha, hd⟩ := declared_of_value h
  rw [value_object ha hd] at h
  rw [termsOfValue_object ha hd]
  by_cases hl : isLiteralObject shape found = true
  · rw [if_pos hl] at h
    obtain ⟨ts, L₁, hts, h⟩ := run_ok_of_bind h
    cases h
    obtain ⟨hok, rfl⟩ := ok_of_run_lift hts
    refine Or.inl ⟨fun v hv => ?_, ?_, rfl⟩
    · obtain ⟨t, ht, rfl⟩ := List.mem_map.1 hv
      exact ⟨(literals_spec hok).1 t ht, rfl⟩
    · rw [if_pos hl, hts, List.map_map]
      exact congrArg (fun ts => Except.ok (ts, L')) (List.map_id ts).symm
  · rw [if_neg hl] at h
    obtain ⟨r, L₁, hr, h⟩ := run_ok_of_bind h
    obtain ⟨g, L₂, hg, h⟩ := run_ok_of_bind h
    cases h
    refine Or.inr ⟨a, r, g, L₁, ha, rfl, isResource_of_namedResource hr, ?_, hg⟩
    rw [if_neg hl]
    exact bind_of_ok hr

/-- The members of an object are read for its resource, if it stands for one. -/
theorem value_resource_run {t : Term} {ts : List Term} {L₁ : Labels}
    (h : value s shape path (.object members) L = .ok (vs, L'))
    (hterms : termsOfValue s shape path (.object members) L = .ok (ts, L₁)) (ht : t ∈ ts)
    (hr : t.isResource = true) :
    ∃ a g, Aliases.ofShape shape s.keywords = .ok a ∧ vs = [(t, g)] ∧ ts = [t] ∧
      fields s a t path members L₁ = .ok (g, L') := by
  rcases value_object_run h with ⟨hlit, hterms', -⟩ | ⟨a, r, g, L₂, ha, rfl, -, hterms', hg⟩
  · -- what stands for literals stands for no resource
    rw [hterms] at hterms'
    cases hterms'
    obtain ⟨v, hv, rfl⟩ := List.mem_map.1 ht
    rw [Term.isResource, (hlit v hv).1] at hr
    cases hr
  · rw [hterms] at hterms'
    cases hterms'
    obtain rfl : t = r := List.mem_singleton.1 ht
    exact ⟨a, g, ha, rfl, rfl, hg⟩

/-- A value that is read has terms. -/
theorem terms_of_value (h : value s shape path json L = .ok (vs, L')) :
    ∃ L₁, termsOfValue s shape path json L = .ok (vs.map (·.1), L₁) := by
  cases json with
  | object members =>
    rcases value_object_run h with ⟨-, hterms, -⟩ | ⟨a, r, g, L₁, -, rfl, -, hterms, -⟩
    · exact ⟨L', hterms⟩
    · exact ⟨L₁, hterms⟩
  | _ => exact ⟨L', bind_of_ok h⟩

/-! ## Values of a member -/

/-- The values that are written for a member. -/
def listed : Json → List Json
  | .array items => items
  | .null => []
  | json => [json]

theorem strings_of_listed (h : item ∈ listed json) : item.strings ⊆ json.strings := by
  cases json with
  | array xs =>
    rw [Json.strings]
    exact strings_of_item h
  | null => exact absurd h List.not_mem_nil
  | _ =>
    rw [List.mem_singleton.1 h]
    exact List.Subset.refl _

theorem memberValues_object : memberValues name (.object members) =
    .ok (((Json.lookup name members).map listed).getD []) := by
  cases hl : Json.lookup name members with
  | none => simp only [memberValues, hl, Option.map_none, Option.getD_none]
  | some json =>
    cases json <;> simp only [memberValues, hl, listed, Option.map_some, Option.getD_some]

theorem lookup_json_of_mem (hn : (members.map (·.1)).Nodup) (h : (name, json) ∈ members) :
    Json.lookup name members = some json := by
  induction members with
  | nil => exact absurd h List.not_mem_nil
  | cons m members ih =>
    obtain ⟨n, v⟩ := m
    rw [List.map_cons, List.nodup_cons] at hn
    rw [Json.lookup]
    rcases List.mem_cons.1 h with heq | h
    · cases heq
      rw [if_pos rfl]
    · have hne : n ≠ name := by
        rintro rfl
        exact hn.1 (List.mem_map.2 ⟨_, h, rfl⟩)
      rw [if_neg hne]
      exact ih hn.2 h

/-! ## Members of an object -/

/-- A member that is a field is read as its values. -/
theorem fields_values {f : Field} (hg : a.get? name = some f) :
    fields s a r path ((name, json) :: members) =
      values s f.shape (path ++ "/" ++ name) json >>= fun vs =>
        (liftM (fieldTriples r f vs) : Decoding Graph) >>= fun graph =>
          fields s a r path members >>= fun rest => pure (graph.merge rest) := by
  rw [fields]
  simp only [hg]
  cases json <;> rfl

theorem fields_empty : fields s a r path [] = pure .empty := by rw [fields]

/-- A member that is a field, read alone. -/
theorem fields_values_alone {f : Field} (hg : a.get? name = some f) :
    fields s a r path [(name, json)] = values s f.shape (path ++ "/" ++ name) json >>= fun vs =>
      liftM (fieldTriples r f vs) := by
  have hmerge : ∀ g : Graph, g.merge .empty = g := fun _ => rfl
  rw [fields_values hg]
  simp only [fields_empty, pure_bind, hmerge, bind_pure]

/-- A member that is a keyword, read alone: it tells the types of the resource, or nothing. -/
theorem fields_keyword_alone {keyword : String} (hg : a.get? name = none)
    (hk : s.keywords.keyword? name = some keyword) :
    fields s a r path [(name, json)] =
      if keyword = Keyword.type then liftM (typeTriples s r json) else pure .empty := by
  have hmerge : ∀ g : Graph, g.merge .empty = g := fun _ => rfl
  rw [fields]
  simp only [hg, hk, fields_empty, pure_bind, hmerge, bind_pure]

/-- No other member can be read. -/
theorem fields_unknown_alone (hg : a.get? name = none) (hk : s.keywords.keyword? name = none) :
    fields s a r path [(name, json)] = throw (.unknownField (path ++ "/" ++ name)) := by
  rw [fields]
  simp only [hg, hk]
  rfl

/-- The first member is read as if it stood alone, then the others. -/
theorem fields_cons : fields s a r path (m :: members) = fields s a r path [m] >>= fun g =>
    fields s a r path members >>= fun rest => pure (g.merge rest) := by
  obtain ⟨name, json⟩ := m
  cases hg : a.get? name with
  | some f =>
    rw [fields_values hg, fields_values_alone hg]
    simp only [bind_assoc]
  | none =>
    cases hk : s.keywords.keyword? name with
    | none =>
      rw [fields_unknown_alone hg hk, fields]
      simp only [hg, hk]
    | some keyword =>
      rw [fields_keyword_alone hg hk, fields]
      simp only [hg, hk]
      split <;> rfl

/-- Every member of an object that is read is read alone. -/
theorem fields_of_mem (h : fields s a r path members L = .ok (g, L')) (hm : m ∈ members) :
    ∃ L₁ g₁ L₂, fields s a r path [m] L₁ = .ok (g₁, L₂) := by
  induction members generalizing L g L' with
  | nil => exact absurd hm List.not_mem_nil
  | cons first members ih =>
    rw [fields_cons] at h
    obtain ⟨g₁, L₁, hfirst, h⟩ := run_ok_of_bind h
    obtain ⟨rest, L₂, hrest, -⟩ := run_ok_of_bind h
    rcases List.mem_cons.1 hm with rfl | hm
    · exact ⟨L, g₁, L₁, hfirst⟩
    · exact ih hrest hm

/-- A member that is read is a field or a keyword. -/
theorem known_of_fields (h : fields s a r path members L = .ok (g, L')) (hm : m ∈ members) :
    (a.get? m.1).isSome = true ∨ (s.keywords.keyword? m.1).isSome = true := by
  obtain ⟨L₁, g₁, L₂, hone⟩ := fields_of_mem h hm
  cases hg : a.get? m.1 with
  | some f => exact Or.inl rfl
  | none =>
    refine Or.inr ?_
    obtain ⟨name, json⟩ := m
    cases hk : s.keywords.keyword? name with
    | some keyword => rfl
    | none =>
      rw [fields_unknown_alone hg hk] at hone
      cases hone

/-- The items of an array are read one after the other. -/
theorem run_ok_of_items {index : Nat} {xs : List Json}
    (h : items s shape path index (json :: xs) L = .ok (vs, L')) :
    ∃ first L₁ rest, value s shape (path ++ "/" ++ toString index) json L = .ok (first, L₁) ∧
      items s shape path (index + 1) xs L₁ = .ok (rest, L') ∧ vs = first ++ rest := by
  rw [items] at h
  obtain ⟨first, L₁, hfirst, h⟩ := run_ok_of_bind h
  obtain ⟨rest, L₂, hrest, h⟩ := run_ok_of_bind h
  cases h
  exact ⟨first, L₁, rest, hfirst, hrest, rfl⟩

/-! ## Reading without faults -/

section Faultless

variable {α β : Type} {reading : Decoding α} {f : α → Decoding β}

/-- If reading fails, a defect of the shape is the cause. -/
def Faultless (reading : Decoding α) (L : Labels) : Prop :=
  ∀ fault, reading L = .error fault → ∃ defect, fault = .shape defect

theorem faultless_of_ok {x : α} (h : reading L = .ok (x, L')) : Faultless reading L := by
  intro fault hfault
  rw [h] at hfault
  cases hfault

theorem Faultless.bind (h : Faultless reading L)
    (hf : ∀ x L', reading L = .ok (x, L') → Faultless (f x) L') : Faultless (reading >>= f) L := by
  intro fault hfault
  cases hr : reading L with
  | ok p =>
    obtain ⟨x, L'⟩ := p
    rw [bind_of_ok hr] at hfault
    exact hf x L' hr fault hfault
  | error e =>
    rw [bind_of_error hr] at hfault
    cases hfault
    exact h fault hr

end Faultless

/-- A value is read without fault if its terms are, and the members of a resource that it
describes. -/
theorem value_faultless {ts : List Term} (h : termsOfValue s shape path json L = .ok (ts, L'))
    (hm : ∀ members a r, json = .object members → ts = [r] → r.isResource = true →
      Aliases.ofShape shape s.keywords = .ok a → Faultless (fields s a r path members) L') :
    Faultless (value s shape path json) L := by
  cases json with
  | object members =>
    obtain ⟨a, found, ha, hd⟩ := declared_of_terms h
    rw [termsOfValue_object ha hd] at h
    rw [value_object ha hd]
    by_cases hl : isLiteralObject shape found = true
    · rw [if_pos hl] at h ⊢
      exact faultless_of_ok (bind_of_ok h)
    · rw [if_neg hl] at h ⊢
      obtain ⟨r, L₁, hr, h⟩ := run_ok_of_bind h
      cases h
      refine (faultless_of_ok hr).bind fun r' L₂ hr' => ?_
      rw [hr] at hr'
      cases hr'
      have hfields := hm members a r rfl rfl (isResource_of_namedResource hr) ha
      exact hfields.bind fun g L₂ _ => faultless_of_ok rfl
  | _ =>
    obtain ⟨vs, L₁, hv, -⟩ := run_ok_of_bind h
    exact faultless_of_ok hv

theorem items_faultless {index : Nat} {xs : List Json}
    (h : ∀ x ∈ xs, ∀ path L, Faultless (value s shape path x) L) :
    Faultless (items s shape path index xs) L := by
  induction xs generalizing index L with
  | nil => exact faultless_of_ok items_nil
  | cons x xs ih =>
    rw [List.forall_mem_cons] at h
    rw [items]
    refine (h.1 _ L).bind fun vs L₁ _ => ?_
    exact (ih h.2).bind fun ws L₂ _ => faultless_of_ok rfl

/-- The values of a member are read without fault if each of them is. -/
theorem values_faultless (h : ∀ x ∈ listed json, ∀ path L, Faultless (value s shape path x) L) :
    Faultless (values s shape path json) L := by
  cases json with
  | array xs => exact items_faultless h
  | null => exact faultless_of_ok rfl
  | _ => exact h _ (List.mem_singleton_self _) path L

/-- The members of an object are read without fault if each of them is. -/
theorem fields_faultless (h : ∀ m ∈ members, ∀ L, Faultless (fields s a r path [m]) L) :
    Faultless (fields s a r path members) L := by
  induction members generalizing L with
  | nil => exact faultless_of_ok fields_nil
  | cons m members ih =>
    rw [List.forall_mem_cons] at h
    rw [fields_cons]
    refine (h.1 L).bind fun g L₁ _ => ?_
    exact (ih h.2).bind fun rest L₂ _ => faultless_of_ok rfl

/-! ## Groups of values -/

theorem attempt_ok {α : Type} {reading : Decoding α} {x : Except DecodeError α}
    (h : attempt reading L = .ok (x, L')) :
    (∃ y, x = .ok y ∧ reading L = .ok (y, L')) ∨
      ∃ fault, x = .error fault ∧ reading L = .error fault ∧ L' = L := by
  unfold attempt at h
  cases hr : reading L with
  | ok p =>
    rw [hr] at h
    cases h
    exact Or.inl ⟨_, rfl, rfl⟩
  | error fault =>
    rw [hr] at h
    cases fault <;> first | (cases h; exact Or.inr ⟨_, rfl, rfl, rfl⟩) | cases h

/-- The terms of a value are added to the group, or the value cannot be read and is left out. -/
theorem run_ok_of_group {index : Nat} {terms : List Term} {issues : List String}
    {values : List Json} {result : List Term × Trace}
    (h : termsOfGroup s shape path index terms issues (item :: values) L = .ok (result, L')) :
    (∃ path' ts L₁, termsOfValue s shape path' item L = .ok (ts, L₁) ∧
      termsOfGroup s shape path (index + 1) (terms ++ ts).eraseDups issues values L₁ =
        .ok (result, L')) ∨
    ∃ fault : DecodeError, (∀ path L p, termsOfValue s shape path item L ≠ .ok p) ∧
      termsOfGroup s shape path (index + 1) terms (issues ++ [fault.message]) values L =
        .ok (result, L') := by
  rw [termsOfGroup] at h
  obtain ⟨x, L₁, hx, hrest⟩ := run_ok_of_bind h
  rcases attempt_ok hx with ⟨ts, rfl, hok⟩ | ⟨fault, rfl, herror, rfl⟩
  · exact Or.inl ⟨_, ts, L₁, hok, hrest⟩
  · refine Or.inr ⟨fault, fun path' L₂ p hok => ?_, hrest⟩
    obtain ⟨ts', L₃, hok'⟩ := termsOfValue_anywhere hok (path ++ "/" ++ toString index) L₁
    rw [herror] at hok'
    cases hok'

/-- Can the terms of all values be read? -/
def CanBeRead (s : Setting) (shape : Shape) (values : List Json) : Prop :=
  ∀ item ∈ values, ∃ path L ts L', termsOfValue s shape path item L = .ok (ts, L')

/-- Of every value that cannot be read there is an issue. -/
theorem termsOfGroup_ok {index : Nat} {terms found : List Term} {issues : List String}
    {values : List Json} {trace : Trace}
    (h : termsOfGroup s shape path index terms issues values L = .ok ((found, trace), L')) :
    ∃ more, trace = .ofIssues (issues ++ more) ∧ (more = [] ↔ CanBeRead s shape values) := by
  induction values generalizing index terms issues L with
  | nil =>
    cases h
    exact ⟨[], by rw [List.append_nil], by simp [CanBeRead]⟩
  | cons item values ih =>
    rcases run_ok_of_group h with ⟨path', ts, L₁, hok, h⟩ | ⟨fault, hno, h⟩
    · obtain ⟨more, htrace, hmore⟩ := ih h
      refine ⟨more, htrace, ?_⟩
      rw [hmore, CanBeRead, CanBeRead, List.forall_mem_cons]
      exact (and_iff_right ⟨_, _, _, _, hok⟩).symm
    · obtain ⟨more, htrace, -⟩ := ih h
      refine ⟨fault.message :: more, ?_, ?_⟩
      · rw [htrace, List.append_assoc, List.singleton_append]
      · refine iff_of_false (List.cons_ne_nil _ _) fun hall => ?_
        obtain ⟨path', L₂, ts, L₃, hok⟩ := hall item List.mem_cons_self
        exact hno _ _ _ hok

/-- Nothing is reported of values if and only if all of them can be read. -/
theorem isEmpty_termsOfGroup {found : List Term} {values : List Json} {trace : Trace}
    (h : termsOfGroup s shape path 0 [] [] values L = .ok ((found, trace), L')) :
    trace.isEmpty = true ↔ CanBeRead s shape values := by
  obtain ⟨more, rfl, hmore⟩ := termsOfGroup_ok h
  rw [Trace.isEmpty_ofIssues, List.nil_append, hmore]

/-! ## Unexpected members -/

/-- Is a name one of a keyword or of a field? -/
def isKnown (s : Setting) (a : Aliases) (name : String) : Bool :=
  Keywords.looksReserved name || s.keywords.isReserved name || a.contains name

theorem isSome_keyword? : (s.keywords.keyword? name).isSome =
    (Keywords.looksReserved name || s.keywords.isReserved name) := by
  unfold Keywords.keyword? Keywords.isReserved
  cases hf : s.keywords.overrides.find? fun override => override.2 == name with
  | some override =>
    have hname := List.find?_some hf
    have hany : (s.keywords.overrides.any fun override => override.2 == name) = true :=
      List.any_eq_true.2 ⟨override, List.mem_of_find?_eq_some hf, hname⟩
    rw [hany, Bool.or_true]
    rfl
  | none =>
    have hany : (s.keywords.overrides.any fun override => override.2 == name) = false :=
      List.any_eq_false.2 fun override ho => List.find?_eq_none.1 hf override ho
    rw [hany, Bool.or_false]
    by_cases hr : Keywords.looksReserved name = true
    · simp [hr]
    · simp [hr]

/-- The reports on the members of a value that have no name one knows. -/
def unknownMembers (s : Setting) (a : Aliases) : Json → List Trace
  | .object members => (members.filter fun m => !isKnown s a m.1).map fun m =>
      .field m.1 (.issue "unexpected field")
  | _ => []

theorem unexpectedMembers_eq {values : List Json} (ht : ¬ shape.isTagged = true) :
    unexpectedMembers s a shape values = .collect (values.flatMap (unknownMembers s a)) := by
  unfold unexpectedMembers
  rw [if_neg ht]
  congr

/-- No member is unexpected if all names are known, but for texts by language. -/
theorem isEmpty_unexpectedMembers {values : List Json} :
    (unexpectedMembers s a shape values).isEmpty = true ↔ shape.isTagged = true ∨
      ∀ members, .object members ∈ values → ∀ m ∈ members, isKnown s a m.1 = true := by
  by_cases ht : shape.isTagged = true
  · simp [unexpectedMembers, ht, Trace.isEmpty, Trace.empty, Trace.areEmpty]
  rw [unexpectedMembers_eq ht]
  -- what is collected are the traces of the members that are not known
  have hmem : ∀ t, t ∈ values.flatMap (unknownMembers s a) ↔
      ∃ members, .object members ∈ values ∧ ∃ m ∈ members,
        isKnown s a m.1 = false ∧ t = .field m.1 (.issue "unexpected field") := by
    intro t
    rw [List.mem_flatMap]
    constructor
    · rintro ⟨json, hjson, ht⟩
      cases json with
      | object members =>
        obtain ⟨m, hm, rfl⟩ := List.mem_map.1 ht
        obtain ⟨hm, hknown⟩ := List.mem_filter.1 hm
        exact ⟨members, hjson, m, hm, by simpa using hknown, rfl⟩
      | _ => exact absurd ht List.not_mem_nil
    · rintro ⟨members, hjson, m, hm, hknown, rfl⟩
      refine ⟨.object members, hjson, List.mem_map.2 ⟨m, List.mem_filter.2 ⟨hm, ?_⟩, rfl⟩⟩
      simpa using hknown
  rw [Trace.isEmpty_collect, or_iff_right ht]
  · constructor
    · intro h members hjson m hm
      by_contra hknown
      have hfield := h _ ((hmem _).2 ⟨members, hjson, m, hm, by simpa using hknown, rfl⟩)
      rw [Trace.isEmpty_field, Trace.isEmpty_issue] at hfield
      cases hfield
    · intro h t ht
      obtain ⟨members, hjson, m, hm, hknown, -⟩ := (hmem t).1 ht
      rw [h members hjson m hm] at hknown
      cases hknown
  · intro t ht
    obtain ⟨-, -, -, -, -, rfl⟩ := (hmem t).1 ht
    exact Trace.tidy_field Trace.tidy_ofIssues

theorem tidy_unexpectedMembers {values : List Json} :
    (unexpectedMembers s a shape values).Tidy := by
  by_cases htagged : shape.isTagged = true
  · rw [unexpectedMembers, if_pos htagged]
    exact Trace.tidy_empty
  · rw [unexpectedMembers_eq htagged]
    refine Trace.tidy_collect fun t ht => ?_
    obtain ⟨json, -, ht⟩ := List.mem_flatMap.1 ht
    cases json with
    | object members =>
      obtain ⟨m, -, rfl⟩ := List.mem_map.1 ht
      exact Trace.tidy_field Trace.tidy_ofIssues
    | _ => exact absurd ht List.not_mem_nil

end LinkedShapes.Description
