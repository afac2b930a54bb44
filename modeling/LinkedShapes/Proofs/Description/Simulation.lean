import LinkedShapes.Proofs.Description.Literals
import LinkedShapes.Proofs.Description.Visits

/-!
# Reading follows writing

Writing a description goes down from level to level and cuts itself off at the trail; reading goes
down the description that comes out. `describe_told` shows that the two go together: under every
renaming that follows the visits of a part of a description, the part reads as their triples.

The induction is on the levels. A level is made of three loops, and each has its lemma: over the
values of a field (`targets_told`), over the fields of a table (`members_told`), and around both the
object of a resource (`described_told`).
-/

namespace LinkedShapes

/-! ## Sets and lists -/

theorem OrderedSet.mem_erase {α : Type _} [Ord α] [DecidableEq α] {s : OrderedSet α} {x y : α} :
    x ∈ s.erase y ↔ x ∈ s ∧ x ≠ y := by
  show x ∈ s.toList.filter (· != y) ↔ x ∈ s.toList ∧ x ≠ y
  rw [List.mem_filter, bne_iff_ne]

namespace Json

theorem put_new {name : String} {value : Json} {members : List (String × Json)}
    (h : name ∉ members.map (·.1)) : put name value members = members ++ [(name, value)] := by
  induction members with
  | nil => rfl
  | cons m members ih =>
    rw [List.map_cons, List.mem_cons, not_or] at h
    unfold put
    rw [if_neg (Ne.symm h.1), ih h.2, List.cons_append]

/-- Members with names of their own are put behind those that are there. -/
theorem foldl_put {before members : List (String × Json)}
    (h : ((before ++ members).map (·.1)).Nodup) :
    members.foldl (fun object m => put m.1 m.2 object) before = before ++ members := by
  induction members generalizing before with
  | nil => rw [List.foldl_nil, List.append_nil]
  | cons m members ih =>
    have hm : m.1 ∉ before.map (·.1) := by
      rw [List.map_append, List.map_cons, List.nodup_append] at h
      intro hmem
      exact h.2.2 m.1 hmem m.1 List.mem_cons_self rfl
    rw [List.foldl_cons, put_new hm, ih, List.append_assoc, List.singleton_append]
    rwa [List.append_assoc, List.singleton_append]

end Json

namespace Description

open Vocabulary

variable {s : Setting} {src : Source} {shape : Shape} {a : Aliases} {ρ : Term → Term}
variable {L L' : Labels} {path : String} {r : Term}

/-! ## Triples of fields -/

/-- A graph with the edge of a field to a value, and with what is told of the value. -/
def tell (r : Term) (f : Field) (g : Graph) (d : Described) : Graph :=
  (g.add (f.edge.triple r d.1)).merge d.2

theorem mem_foldl_tell {f : Field} {ds : List Described} {start : Graph} {t : Triple} :
    t ∈ (ds.foldl (tell r f) start).triples ↔
      t ∈ start.triples ∨ ∃ d ∈ ds, t = f.edge.triple r d.1 ∨ t ∈ d.2.triples := by
  induction ds generalizing start with
  | nil => simp
  | cons d ds ih =>
    rw [List.foldl_cons, ih, tell, Graph.mem_merge, Graph.mem_add]
    simp only [List.mem_cons, exists_eq_or_imp, or_assoc]
    exact or_left_comm

theorem stored_foldl_tell {f : Field} {ds : List Described} {start : Graph} (h : start.Stored) :
    (ds.foldl (tell r f) start).Stored := by
  induction ds generalizing start with
  | nil => exact h
  | cons d ds ih => exact ih ((h.add _).extend _)

/-- All values of a field are told of, unless an inverse edge would start at a literal. -/
theorem fieldTriples_ok_iff {f : Field} {ds : List Described} {g : Graph} :
    fieldTriples r f ds = .ok g ↔
      (f.edge.inverse = true → ∀ d ∈ ds, d.1.isResource = true) ∧
        ds.foldl (tell r f) .empty = g := by
  have hfold : ∀ (ds : List Described) (start : Graph),
      ds.foldlM (fun graph (d : Described) =>
          if f.edge.inverse && !d.1.isResource then
            Except.error (DecodeError.inverseLiteral f.display d.1.display)
          else .ok (tell r f graph d)) start = .ok g ↔
        (f.edge.inverse = true → ∀ d ∈ ds, d.1.isResource = true) ∧
          ds.foldl (tell r f) start = g := by
    intro ds
    induction ds with
    | nil => simp [pure, Except.pure]
    | cons d ds ih =>
      intro start
      rw [List.foldlM_cons, List.foldl_cons]
      by_cases hd : (f.edge.inverse && !d.1.isResource) = true
      · rw [if_pos hd]
        obtain ⟨hi, hliteral⟩ := Bool.and_eq_true_iff.1 hd
        refine ⟨(nomatch ·), fun h => ?_⟩
        rw [h.1 hi d List.mem_cons_self] at hliteral
        cases hliteral
      · rw [if_neg hd]
        refine (ih _).trans (and_congr_left fun _ => ?_)
        refine forall_congr' fun hi => ⟨fun h => ?_, fun h => (List.forall_mem_cons.1 h).2⟩
        exact List.forall_mem_cons.2 ⟨by simpa [hi] using hd, h⟩
  unfold fieldTriples
  cases ds with
  | nil => exact hfold [] .empty
  | cons d ds => exact hfold (d :: ds) .empty

theorem fieldTriples_ok {f : Field} {ds : List Described}
    (h : f.edge.inverse = true → ∀ d ∈ ds, d.1.isResource = true) :
    fieldTriples r f ds = .ok (ds.foldl (tell r f) .empty) :=
  fieldTriples_ok_iff.2 ⟨h, rfl⟩

/-- The triples of a field are the edges to its values and the triples told of these. -/
theorem mem_fieldTriples {f : Field} {ds : List Described} {g : Graph} {t : Triple}
    (h : fieldTriples r f ds = .ok g) :
    t ∈ g.triples ↔ ∃ d ∈ ds, t = f.edge.triple r d.1 ∨ t ∈ d.2.triples := by
  obtain ⟨-, rfl⟩ := fieldTriples_ok_iff.1 h
  rw [mem_foldl_tell]
  exact ⟨fun ht => ht.resolve_left List.not_mem_nil, Or.inr⟩

theorem stored_fieldTriples {f : Field} {ds : List Described} {g : Graph}
    (h : fieldTriples r f ds = .ok g) : g.Stored := by
  obtain ⟨-, rfl⟩ := fieldTriples_ok_iff.1 h
  exact stored_foldl_tell .empty

/-! ## Objects of resources -/

/-- A member name that is in the table is no keyword of the object. -/
theorem objectKeyword?_of_mem (ha : Aliases.ofShape shape s.keywords = .ok a) {name : String}
    (h : name ∈ a.entries.map (·.1)) : objectKeyword? s a name = none := by
  obtain ⟨e, he, rfl⟩ := List.mem_map.1 h
  exact objectKeyword?_of_get? (Aliases.get?_of_mem ha he)

theorem not_mem_names {k : Keywords} (ha : Aliases.ofShape shape k = .ok a) (hk : k.check = .ok ())
    {keyword : String} (hl : Keywords.looksReserved keyword = true) (ht : keyword ≠ Keyword.type) :
    k.nameOf keyword ∉ a.entries.map (·.1) := by
  intro h
  obtain ⟨e, he, hname⟩ := List.mem_map.1 h
  have hg := Aliases.get?_nameOf hk ha hl ht
  rw [← hname, Aliases.get?_of_mem ha he] at hg
  cases hg

/-- The keywords in front of an object keep apart from each other and from its members. -/
theorem nodup_keywords {k : Keywords} (ha : Aliases.ofShape shape k = .ok a)
    (hk : k.check = .ok ()) {names : List String} (hn : names.Sublist (a.entries.map (·.1))) :
    (k.nameOf Keyword.context :: k.nameOf Keyword.id :: names).Nodup := by
  have hne : k.nameOf Keyword.context ≠ k.nameOf Keyword.id := fun he =>
    absurd (Keywords.nameOf_injective hk (by decide) (by decide) he) (by decide)
  refine List.nodup_cons.2 ⟨fun hm => ?_, List.nodup_cons.2 ⟨fun hm => ?_, ?_⟩⟩
  · rcases List.mem_cons.1 hm with he | hm
    · exact hne he
    · exact not_mem_names ha hk (by decide) (by decide) (hn.subset hm)
  · exact not_mem_names ha hk (by decide) (by decide) (hn.subset hm)
  · exact hn.nodup (Aliases.ofShape_ok ha).1

/-- The members of a described resource, behind its identifier if it has one. -/
theorem describedObject_eq (ha : Aliases.ofShape shape src.keywords = .ok a)
    (hk : src.keywords.check = .ok ()) {members : List (String × Json)} {refs : OrderedSet Term}
    (hn : (members.map (·.1)).Sublist (a.entries.map (·.1))) :
    src.describedObject r members refs =
      (.object ((if r.isIri ∨ r ∈ refs then
          [(src.keywords.nameOf Keyword.id, Json.string (src.idText r))] else []) ++ members),
        refs.erase r) := by
  have hnodup := (nodup_keywords ha hk hn).of_cons
  unfold Source.describedObject
  refine Prod.ext (congrArg Json.object (Json.foldl_put ?_)) rfl
  split
  · exact hnodup
  · exact hnodup.of_cons

/-- The keywords of an object with an identifier. -/
theorem declared_id (ha : Aliases.ofShape shape s.keywords = .ok a)
    (hk : s.keywords.check = .ok ()) {id : Json} {members : List (String × Json)}
    (hn : (members.map (·.1)).Sublist (a.entries.map (·.1))) :
    declared s a ((s.keywords.nameOf Keyword.id, id) :: members) = .ok [(Keyword.id, id)] := by
  have hid : objectKeyword? s a (s.keywords.nameOf Keyword.id) = some Keyword.id :=
    objectKeyword?_of_keyword? (Aliases.get?_nameOf hk ha (by decide) (by decide))
      (Keywords.keyword?_nameOf hk (by decide)) (by decide)
  unfold declared
  rw [declaredAfter_cons_new hid rfl]
  exact declaredAfter_skip fun m hm =>
    objectKeyword?_of_mem ha (hn.subset (List.mem_map_of_mem hm))

/-- An object with an identifier reads as the resource of that identifier. -/
theorem value_identified (ha : Aliases.ofShape shape s.keywords = .ok a)
    (hk : s.keywords.check = .ok ()) {id : String} {members : List (String × Json)} {g : Graph}
    (hn : (members.map (·.1)).Sublist (a.entries.map (·.1)))
    (hr : resource s id L = .ok (r, L)) (hf : fields s a r path members L = .ok (g, L')) :
    value s shape path (.object ((s.keywords.nameOf Keyword.id, .string id) :: members)) L =
      .ok ([(r, Graph.empty.merge g)], L') := by
  have hnamed : namedResource s [(Keyword.id, .string id)] L = .ok (r, L) := hr
  have hfields : fields s a r path ((s.keywords.nameOf Keyword.id, .string id) :: members) L =
      .ok (Graph.empty.merge g, L') :=
    fields_keyword (Aliases.get?_nameOf hk ha (by decide) (by decide))
      (Keywords.keyword?_nameOf hk (by decide)) (by decide) hf
  exact value_resource ha (declared_id ha hk hn) rfl (Or.inl (List.cons_ne_nil _ _)) hnamed hfields

/-- An object without an identifier reads as a blank node with the next label. -/
theorem value_anonymous (ha : Aliases.ofShape shape s.keywords = .ok a)
    {members : List (String × Json)} {g : Graph}
    (hn : (members.map (·.1)).Sublist (a.entries.map (·.1))) (ht : shape.isTagged = false)
    (hf : fields s a (.blankNode (L.label 0)) path members (L.after 1) = .ok (g, L')) :
    value s shape path (.object members) L =
      .ok ([(.blankNode (L.label 0), g)], L') := by
  have hd : declared s a members = .ok [] := declaredAfter_skip fun m hm =>
    objectKeyword?_of_mem ha (hn.subset (List.mem_map_of_mem hm))
  exact value_resource ha hd rfl (Or.inr ht) rfl hf

/-! ## Values -/

/-- Writing and reading agree on the keywords, and there is a focus. -/
structure Agree (s : Setting) (src : Source) : Prop where
  keywords : src.keywords = s.keywords
  check : s.keywords.check = .ok ()
  focus : s.focus ≠ ""

/-- What is written for a value reads as the value, with the triples of the visits behind it. -/
structure Told (s : Setting) (src : Source) (x : Visit) (xs : List Visit) (w : Written) :
    Prop where
  refs : ∀ t, t ∈ w.2 ↔ Refers (x :: xs) x.trail t
  alone : ∀ ws, w.1 ≠ .array ws
  spelled : Spelled src (x :: xs) w.1.strings
  reads : ∀ ρ L path, Follows ρ L (x :: xs) → ∃ g,
    value s x.field.shape path w.1 L = .ok ([(ρ x.value, g)], labelsAfter L (x :: xs)) ∧
      g.Stored ∧ ∀ t, t ∈ g.triples ↔ ∃ y ∈ xs, t = y.triple ρ

/-- The members of a description read as the triples of its visits. -/
structure MembersTold (s : Setting) (src : Source) (a : Aliases) (r : Term) (trail : List Term)
    (entries : List (String × Field)) (xs : List Visit) (members : List (String × Json))
    (refs : OrderedSet Term) : Prop where
  refs : ∀ t, t ∈ refs ↔ Refers xs trail t
  names : (members.map (·.1)).Sublist (entries.map (·.1))
  spelled : Spelled src xs (Json.memberStrings members)
  reads : ∀ ρ L path, Follows ρ L xs → ∃ g,
    fields s a (ρ r) path members L = .ok (g, labelsAfter L xs) ∧ g.Stored ∧
      ∀ t, t ∈ g.triples ↔ ∃ y ∈ xs, t = y.triple ρ

theorem OrderedSet.not_mem_empty {t : Term} : t ∉ (OrderedSet.empty : OrderedSet Term) :=
  List.not_mem_nil

theorem literal_ne_array {l : Literal} {ws : List Json} : src.literal shape l ≠ .array ws := by
  intro h
  have hform := literalForm src shape l
  rw [h] at hform
  cases hform

/-- A literal tells of nothing but itself. -/
theorem literal_told (h : Agree s src) {x : Visit} {l : Literal} (hx : x.value = .literal l)
    (hl : Legible s src x) (ha : Aliases.ofShape x.field.shape s.keywords = .ok a) :
    Told s src x [] (src.literal x.field.shape l, .empty) := by
  have hblank : x.value.isBlank = false := by rw [hx]; rfl
  refine ⟨fun t => ⟨fun ht => absurd ht OrderedSet.not_mem_empty, ?_⟩, fun ws => literal_ne_array,
    fun y hy hlabel => ?_, fun ρ L path hρ => ?_⟩
  · rintro ⟨hr, -, y, hy, rfl⟩
    rw [List.mem_singleton.1 hy, hx] at hr
    cases hr
  · rw [List.mem_singleton.1 hy, Visit.isLabelled_of_not_isBlank hblank] at hlabel
    cases hlabel
  · rw [labelsAfter_cons_of_neg (Visit.isAnonymous_of_not_isBlank hblank), hx, hρ.literal]
    exact ⟨.empty, (hl.of_literal hx).value h.check h.keywords ha, .empty,
      fun t => by simp [Graph.empty]⟩

/-- A reference to a resource of the trail reads as the resource. -/
theorem reference_reads (h : Agree s src) {x : Visit}
    (ha : Aliases.ofShape x.field.shape s.keywords = .ok a) (hl : Legible s src x)
    (hr : x.value.isResource = true) (hx : x.value ∈ x.trail) :
    value s x.field.shape path (src.reference x.field.shape x.value) L =
      .ok ([(x.value, .empty)], L) := by
  unfold Source.reference
  split
  · next hi =>
    refine value_string (hl.textTerm hr h.focus ?_)
    rw [Visit.isText, hi, decide_eq_true hx]
    rfl
  · have hkeep : x.value.isBlank = true → x.isLabelled = true := fun hb => by
      rw [Visit.isLabelled, hb, decide_eq_true hx]
      rfl
    have hread : value s x.field.shape path
        (.object [(s.keywords.nameOf Keyword.id, .string (src.idText x.value))]) L =
          .ok ([(x.value, Graph.empty.merge .empty)], L) :=
      value_identified ha h.check (List.nil_sublist _) (hl.resource hr hkeep h.focus) fields_nil
    rw [← h.keywords] at hread
    exact hread

/-- The text of a reference is the identifier. -/
theorem idText_mem_reference {v : Term} : src.idText v ∈ (src.reference shape v).strings := by
  unfold Source.reference
  split <;> exact List.mem_cons_self

/-- A value that is written by its identifier reads as itself if its label is kept. -/
theorem named_reads {x : Visit} {w : Json} (hkeep : x.value.isBlank = true → x.isLabelled = true)
    (hread : ∀ path L, value s x.field.shape path w L = .ok ([(x.value, .empty)], L))
    (hρ : Follows ρ L [x]) : ∃ g,
      value s x.field.shape path w L = .ok ([(ρ x.value, g)], labelsAfter L [x]) ∧
        g.Stored ∧ ∀ t, t ∈ g.triples ↔ ∃ y ∈ ([] : List Visit), t = y.triple ρ := by
  have hnone : x.isAnonymous = false := by
    cases hb : x.value.isBlank with
    | true => exact Visit.isAnonymous_of_isLabelled (hkeep hb)
    | false => exact Visit.isAnonymous_of_not_isBlank hb
  rw [hρ.self hkeep, labelsAfter_cons_of_neg hnone]
  exact ⟨.empty, hread path L, .empty, fun t => by simp [Graph.empty]⟩

/-- A resource on the trail is referred to, and so keeps its name. -/
theorem trail_told (h : Agree s src) {x : Visit} (hx : x.value ∈ x.trail)
    (hr : x.value.isResource = true) (hl : Legible s src x)
    (ha : Aliases.ofShape x.field.shape s.keywords = .ok a) :
    Told s src x [] (src.reference x.field.shape x.value, .singleton x.value) := by
  refine ⟨fun t => ?_, ?_, ?_, fun ρ L path hρ => ?_⟩
  · constructor
    · intro ht
      rw [List.mem_singleton.1 ht]
      exact ⟨hr, hx, x, List.mem_cons_self, rfl⟩
    · rintro ⟨-, -, y, hy, rfl⟩
      rw [List.mem_singleton.1 hy]
      exact List.mem_cons_self
  · intro ws he
    unfold Source.reference at he
    split at he <;> cases he
  · intro y hy _
    rw [List.mem_singleton.1 hy]
    exact idText_mem_reference
  · refine named_reads (fun hb => ?_) (fun path L => reference_reads h ha hl hr hx) hρ
    rw [Visit.isLabelled, hb, decide_eq_true hx]
    rfl

/-- A resource that is written by its identifier alone keeps its name. -/
theorem named_told (h : Agree s src) {x : Visit} (hx : x.value ∉ x.trail)
    (hr : x.value.isResource = true) (hb : x.field.shape.isBare = true)
    (hl : Legible s src x) :
    Told s src x [] (.string (src.idText x.value), .empty) := by
  refine ⟨fun t => ⟨fun ht => absurd ht OrderedSet.not_mem_empty, ?_⟩, ?_, ?_,
    fun ρ L path hρ => ?_⟩
  · rintro ⟨-, ht, y, hy, rfl⟩
    rw [List.mem_singleton.1 hy] at ht
    exact absurd ht hx
  · intro ws he
    cases he
  · intro y hy _
    rw [List.mem_singleton.1 hy]
    exact List.mem_cons_self
  · refine named_reads (fun hblank => ?_) (fun path L => ?_) hρ
    · rw [Visit.isLabelled, hblank, hb, Bool.or_true]
      rfl
    · obtain ⟨hi, hfields⟩ := Bool.and_eq_true_iff.1 hb
      refine value_string (hl.textTerm hr h.focus ?_)
      rw [Visit.isText, hi, hfields, Bool.or_true]
      rfl

section Described

variable {x : Visit} {xs : List Visit} {members : List (String × Json)} {refs : OrderedSet Term}

/-- The references that leave an object are those that are not to its own resource. -/
theorem refs_described (hx : x.value ∉ x.trail)
    (hm : MembersTold s src a x.value (x.value :: x.trail) a.entries xs members refs) (t : Term) :
    t ∈ refs.erase x.value ↔ Refers (x :: xs) x.trail t := by
  rw [OrderedSet.mem_erase, hm.refs]
  constructor
  · rintro ⟨⟨hr, ht, y, hy, hv⟩, hne⟩
    exact ⟨hr, (List.mem_cons.1 ht).resolve_left hne, y, List.mem_cons_of_mem _ hy, hv⟩
  · rintro ⟨hr, ht, y, hy, rfl⟩
    have hne : y.value ≠ x.value := fun he => hx (he ▸ ht)
    rcases List.mem_cons.1 hy with rfl | hy
    · exact absurd rfl hne
    · exact ⟨⟨hr, List.mem_cons_of_mem _ ht, y, hy, rfl⟩, hne⟩

/-- A resource is referred to from its own object if it is met again behind it. -/
theorem self_mem_refs (hr : x.value.isResource = true)
    (hagain : x.again = xs.any (·.value == x.value))
    (hm : MembersTold s src a x.value (x.value :: x.trail) a.entries xs members refs) :
    x.value ∈ refs ↔ x.again = true := by
  rw [hm.refs, hagain, List.any_eq_true]
  constructor
  · rintro ⟨-, -, y, hy, hv⟩
    exact ⟨y, hy, beq_iff_eq.2 hv⟩
  · rintro ⟨y, hy, hv⟩
    exact ⟨hr, List.mem_cons_self, y, hy, beq_iff_eq.1 hv⟩

/-- A resource that is described under its name keeps it. -/
theorem identified_told (h : Agree s src) (hx : x.value ∉ x.trail)
    (hr : x.value.isResource = true) (hkeep : x.value.isBlank = true → x.again = true)
    (hl : Legible s src x)
    (ha : Aliases.ofShape x.field.shape s.keywords = .ok a)
    (hm : MembersTold s src a x.value (x.value :: x.trail) a.entries xs members refs) :
    Told s src x xs
      (.object ((s.keywords.nameOf Keyword.id, .string (src.idText x.value)) :: members),
        refs.erase x.value) := by
  have hlabelled : x.value.isBlank = true → x.isLabelled = true := by
    intro hb
    rw [Visit.isLabelled, hb, hkeep hb, Bool.or_true]
    rfl
  have hnone : x.isAnonymous = false := by
    cases hb : x.value.isBlank with
    | true => exact Visit.isAnonymous_of_isLabelled (hlabelled hb)
    | false => exact Visit.isAnonymous_of_not_isBlank hb
  have hstrings : (Json.object ((s.keywords.nameOf Keyword.id, .string (src.idText x.value)) ::
      members)).strings = src.idText x.value :: Json.memberStrings members := rfl
  refine ⟨refs_described hx hm, ?_, ?_, fun ρ L path hρ => ?_⟩
  · intro ws he
    cases he
  · intro y hy hlabel
    rw [hstrings]
    rcases List.mem_cons.1 hy with rfl | hy
    · exact List.mem_cons_self
    · exact List.mem_cons_of_mem _ (hm.spelled y hy hlabel)
  · obtain ⟨g, hg, hstored, hmem⟩ := hm.reads ρ L path (hρ.tail hnone)
    rw [hρ.self hlabelled] at hg ⊢
    refine ⟨Graph.empty.merge g, ?_, Graph.Stored.empty.extend _, fun t => ?_⟩
    · rw [labelsAfter_cons_of_neg hnone]
      exact value_identified ha h.check hm.names (hl.resource hr hlabelled h.focus) hg
    · rw [Graph.mem_merge, ← hmem]
      exact ⟨fun h => h.resolve_left List.not_mem_nil, Or.inr⟩

/-- A blank node that is described without its label gets a fresh one. -/
theorem anonymous_told (hx : x.value ∉ x.trail) (hanon : x.isAnonymous = true)
    (ht : x.field.shape.isTagged = false)
    (ha : Aliases.ofShape x.field.shape s.keywords = .ok a)
    (hm : MembersTold s src a x.value (x.value :: x.trail) a.entries xs members refs) :
    Told s src x xs (.object members, refs.erase x.value) := by
  refine ⟨refs_described hx hm, ?_, ?_, fun ρ L path hρ => ?_⟩
  · intro ws he
    cases he
  · intro y hy hlabel
    rcases List.mem_cons.1 hy with rfl | hy
    · rw [Visit.isAnonymous_of_isLabelled hlabel] at hanon
      cases hanon
    · exact hm.spelled y hy hlabel
  · obtain ⟨hself, hrest⟩ := hρ.draw hanon
    obtain ⟨g, hg, hstored, hmem⟩ := hm.reads ρ (L.after 1) path hrest
    rw [hself] at hg ⊢
    rw [labelsAfter_cons_of_pos hanon]
    exact ⟨g, value_anonymous ha hm.names ht hg, hstored, hmem⟩

/-- The members of a description, with the object around them. -/
theorem described_told (h : Agree s src) (hx : x.value ∉ x.trail)
    (hr : x.value.isResource = true) (hb : x.field.shape.isBare = false)
    (hagain : x.again = xs.any (·.value == x.value))
    (hl : Legible s src x)
    (ha : Aliases.ofShape x.field.shape s.keywords = .ok a)
    (hm : MembersTold s src a x.value (x.value :: x.trail) a.entries xs members refs) :
    Told s src x xs (src.describedObject x.value members refs) := by
  have hsrc : Aliases.ofShape x.field.shape src.keywords = .ok a := h.keywords ▸ ha
  have hrefs := self_mem_refs hr hagain hm
  rw [describedObject_eq hsrc (h.keywords ▸ h.check) hm.names, h.keywords]
  by_cases hid : x.value.isIri = true ∨ x.value ∈ refs
  · rw [if_pos hid]
    refine identified_told h hx hr (fun hblank => ?_) hl ha hm
    refine hrefs.1 (hid.resolve_left fun hiri => ?_)
    cases hv : x.value <;> simp [hv, Term.isBlank, Term.isIri] at hblank hiri
  · rw [if_neg hid]
    rw [not_or] at hid
    obtain ⟨hni, hno⟩ := hid
    have hagain' : x.again = false := Bool.eq_false_iff.2 fun h => hno (hrefs.2 h)
    cases hv : x.value with
    | iri i => exact absurd (by rw [hv]; rfl) hni
    | literal l =>
      rw [hv] at hr
      cases hr
    | blankNode label =>
      have hanon : x.isAnonymous = true := by
        rw [Visit.isAnonymous, hb, hagain', decide_eq_false hx, hv]
        rfl
      have hlabel : x.isLabelled = false := by
        rw [Visit.isLabelled, hb, hagain', decide_eq_false hx, hv]
        rfl
      rw [← hv]
      exact anonymous_told hx hanon ((hl.of_blank hv).2 hlabel) ha hm

end Described

/-! ## Values of a field -/

theorem visits_of_isBare {levels : Nat} {trail : List Term} (hb : shape.isBare = true) :
    src.visits levels r shape trail = [] := by
  cases levels with
  | zero => rfl
  | succ levels =>
    have hf : shape.fields = [] := List.isEmpty_iff.1 (Bool.and_eq_true_iff.1 hb).2
    have ht : src.table shape = [] := Source.table_of_ok (by rw [Aliases.ofShape, hf]; rfl)
    rw [Source.visits, ht]
    rfl

/-- What a level needs of the levels below: resources that are described there are told of. -/
def Below (s : Setting) (src : Source) (levels : Nat) (f : Field) (trail : List Term) (v : Term) :
    Prop :=
  ∀ a, Aliases.ofShape f.shape s.keywords = .ok a → v.isResource = true → v ∉ trail →
    ∃ members refs, src.describe levels v f.shape trail =
        .ok (src.describedObject v members refs) ∧
      MembersTold s src a v (v :: trail) a.entries (src.visits levels v f.shape trail)
        members refs

theorem value_told (h : Agree s src) {levels : Nat} {f : Field} {trail : List Term} {v : Term}
    (hbelow : Below s src levels f trail v)
    (hl : Legible s src (visit (src.visits levels) r trail f v))
    (ha : Aliases.ofShape f.shape s.keywords = .ok a) :
    ∃ w, src.value (src.describe levels) f.shape trail v = .ok w ∧
      Told s src (visit (src.visits levels) r trail f v)
        (behind (src.visits levels) f.shape trail v) w := by
  cases hv : v with
  | literal l =>
    rw [hv] at hl
    exact ⟨_, rfl, literal_told h rfl hl ha⟩
  | iri _ | blankNode _ =>
    have hr : v.isResource = true := by rw [hv]; rfl
    have hnl : v.isLiteral = false := by rw [hv]; rfl
    have hvalue : src.value (src.describe levels) f.shape trail v =
        if v ∈ trail then .ok (src.reference f.shape v, .singleton v)
        else if f.shape.isInlineable ∧ f.shape.fields.isEmpty then
          .ok (.string (src.idText v), .empty)
        else src.describe levels v f.shape trail := by
      rw [hv]
      rfl
    rw [← hv, hvalue]
    by_cases ht : v ∈ trail
    · have hbehind : behind (src.visits levels) f.shape trail v = [] := if_pos (Or.inr ht)
      rw [if_pos ht, hbehind]
      exact ⟨_, rfl, trail_told h ht hr hl ha⟩
    · have hbehind : behind (src.visits levels) f.shape trail v =
          src.visits levels v f.shape trail := if_neg (by simp [hnl, ht])
      rw [if_neg ht]
      cases hb : f.shape.isBare with
      | true =>
        rw [if_pos (by simpa [Shape.isBare] using hb), hbehind, visits_of_isBare hb]
        exact ⟨_, rfl, named_told h ht hr hb hl⟩
      | false =>
        rw [if_neg (by simpa [Shape.isBare] using hb)]
        obtain ⟨members, refs, hd, hm⟩ := hbelow a ha hr ht
        refine ⟨_, hd, described_told h ht hr hb rfl hl ha ?_⟩
        rw [hbehind]
        exact hm

/-- The values read and the triples told of them are the visits of a field. -/
def Tells (ρ : Term → Term) (f : Field) (r : Term) (xs : List Visit) (ds : List Described) : Prop :=
  (f.edge.inverse = true → ∀ d ∈ ds, d.1.isResource = true) ∧
    ∀ t, (∃ d ∈ ds, t = f.edge.triple (ρ r) d.1 ∨ t ∈ d.2.triples) ↔ ∃ y ∈ xs, t = y.triple ρ

theorem tells_nil {f : Field} : Tells ρ f r [] [] :=
  ⟨fun _ d hd => absurd hd List.not_mem_nil, fun t => by simp⟩

theorem Tells.cons {f : Field} {x : Visit} {xs ys : List Visit} {ds : List Described} {g : Graph}
    (hf : x.field = f) (hr : x.source = r)
    (hv : f.edge.inverse = true → (ρ x.value).isResource = true)
    (hg : ∀ t, t ∈ g.triples ↔ ∃ y ∈ xs, t = y.triple ρ) (h : Tells ρ f r ys ds) :
    Tells ρ f r (x :: xs ++ ys) ((ρ x.value, g) :: ds) := by
  refine ⟨fun hi d hd => ?_, fun t => ?_⟩
  · rcases List.mem_cons.1 hd with rfl | hd
    · exact hv hi
    · exact h.1 hi d hd
  · have hx : x.triple ρ = f.edge.triple (ρ r) (ρ x.value) := by rw [Visit.triple, hf, hr]
    simp only [List.cons_append, List.mem_cons, exists_eq_or_imp, h.2 t, hg t, hx, or_assoc]
    simp only [List.mem_append, or_and_right, exists_or]

/-- The written values of a field, one after the other. -/
structure ItemsTold (s : Setting) (src : Source) (f : Field) (r : Term) (trail : List Term)
    (xs : List Visit) (ws : List Written) : Prop where
  refs : ∀ t, (∃ w ∈ ws, t ∈ w.2) ↔ Refers xs trail t
  spelled : Spelled src xs (Json.itemStrings (ws.map (·.1)))
  reads : ∀ ρ L path index, Follows ρ L xs → ∃ ds,
    items s f.shape path index (ws.map (·.1)) L = .ok (ds, labelsAfter L xs) ∧ Tells ρ f r xs ds
  /-- A single value may stand without an array. -/
  alone : ∀ w, ws = [w] → ∀ ρ L path, Follows ρ L xs → ∃ ds,
    values s f.shape path w.1 L = .ok (ds, labelsAfter L xs) ∧ Tells ρ f r xs ds

/-- The written form of the values of a field. -/
structure FieldTold (s : Setting) (src : Source) (f : Field) (r : Term) (trail : List Term)
    (xs : List Visit) (w : Written) : Prop where
  refs : ∀ t, t ∈ w.2 ↔ Refers xs trail t
  spelled : Spelled src xs w.1.strings
  reads : ∀ ρ L path, Follows ρ L xs → ∃ ds,
    values s f.shape path w.1 L = .ok (ds, labelsAfter L xs) ∧ Tells ρ f r xs ds

/-- What the simulation asks of the values of a field. -/
structure Readable (s : Setting) (src : Source) (levels : Nat) (f : Field) (r : Term)
    (trail vs : List Term) : Prop where
  below : ∀ v ∈ vs, Below s src levels f trail v
  legible : ∀ v ∈ vs, Legible s src (visit (src.visits levels) r trail f v)
  inverse : f.edge.inverse = true → ∀ v ∈ vs, v.isResource = true

theorem Readable.tail {levels : Nat} {f : Field} {trail vs : List Term} {v : Term}
    (h : Readable s src levels f r trail (v :: vs)) : Readable s src levels f r trail vs where
  below := fun w hw => h.below w (List.mem_cons_of_mem _ hw)
  legible := fun w hw => h.legible w (List.mem_cons_of_mem _ hw)
  inverse := fun hi w hw => h.inverse hi w (List.mem_cons_of_mem _ hw)

/-- The visits to some of the values of a field. -/
def visitsTo (src : Source) (levels : Nat) (f : Field) (r : Term) (trail vs : List Term) :
    List Visit :=
  vs.flatMap fun v =>
    visit (src.visits levels) r trail f v :: behind (src.visits levels) f.shape trail v

theorem targets_told (h : Agree s src) {levels : Nat} {f : Field} {trail vs : List Term}
    (hr : Readable s src levels f r trail vs) (ha : Aliases.ofShape f.shape s.keywords = .ok a) :
    ∃ ws, vs.mapM (src.value (src.describe levels) f.shape trail) = .ok ws ∧
      ItemsTold s src f r trail (visitsTo src levels f r trail vs) ws := by
  induction vs with
  | nil =>
    refine ⟨[], rfl, fun t => ⟨fun ht => ?_, fun ht => absurd ht not_refers_nil⟩, spelled_nil,
      ?_, ?_⟩
    · obtain ⟨w, hw, -⟩ := ht
      exact absurd hw List.not_mem_nil
    · exact fun ρ L path index _ => ⟨[], items_nil, tells_nil⟩
    · exact fun w hw => absurd hw (List.cons_ne_nil w []).symm
  | cons v vs ih =>
    obtain ⟨w, hw, hA⟩ := value_told (r := r) h (hr.below v List.mem_cons_self)
      (hr.legible v List.mem_cons_self) ha
    obtain ⟨ws, hws, hB⟩ := ih hr.tail
    have hvisits : visitsTo src levels f r trail (v :: vs) =
        (visit (src.visits levels) r trail f v :: behind (src.visits levels) f.shape trail v) ++
          visitsTo src levels f r trail vs := rfl
    have hresource : ∀ ρ : Term → Term, (∀ t, t.isResource = true → (ρ t).isResource = true) →
        f.edge.inverse = true → (ρ v).isResource = true :=
      fun ρ hρ hi => hρ v (hr.inverse hi v List.mem_cons_self)
    rw [hvisits]
    refine ⟨w :: ws, ?_, fun t => ?_, hA.spelled.append hB.spelled, ?_, ?_⟩
    · rw [List.mapM_cons, hw, hws]
      rfl
    · simp only [List.mem_cons, exists_eq_or_imp, hA.refs t, hB.refs t]
      exact refers_append.symm
    · intro ρ L path index hρ
      obtain ⟨g, hg, -, hmem⟩ := hA.reads ρ L (path ++ "/" ++ toString index) hρ.left
      obtain ⟨ds, hds, htells⟩ := hB.reads ρ _ path (index + 1) hρ.right
      refine ⟨(ρ v, g) :: ds, ?_, ?_⟩
      · rw [labelsAfter_append]
        exact items_cons hg hds
      · exact Tells.cons rfl rfl (hresource ρ hρ.resource) hmem htells
    · intro w' hw' ρ L path hρ
      obtain ⟨rfl, rfl⟩ := List.cons.inj hw'
      obtain ⟨g, hg, -, hmem⟩ := hA.reads ρ L path hρ.left
      obtain ⟨ds, hds, htells⟩ := hB.reads ρ _ path 0 hρ.right
      -- nothing is read behind the only value, and no label is drawn
      injection items_nil.symm.trans hds with hnothing
      obtain ⟨rfl, hafter⟩ := Prod.mk.inj hnothing
      refine ⟨[(ρ v, g)], ?_, Tells.cons rfl rfl (hresource ρ hρ.resource) hmem htells⟩
      rw [values_of_not_array hA.alone, labelsAfter_append, ← hafter]
      exact hg

/-! ## Fields -/

theorem mem_foldl_union {ws : List Written} {refs : OrderedSet Term} {t : Term} :
    t ∈ ws.foldl (fun references w => references.union w.2) refs ↔
      t ∈ refs ∨ ∃ w ∈ ws, t ∈ w.2 := by
  induction ws generalizing refs with
  | nil => simp
  | cons w ws ih =>
    rw [List.foldl_cons, ih, OrderedSet.mem_union]
    simp only [List.mem_cons, exists_eq_or_imp, or_assoc]

/-- Values are written as an array, or a single one alone. -/
theorem compact_cases (f : Field) (js : List Json) :
    compact f js = .array js ∨ ∃ j, js = [j] ∧ compact f js = j := by
  unfold compact
  split
  · next j =>
    split
    · exact Or.inr ⟨j, rfl, rfl⟩
    · exact Or.inl rfl
  · exact Or.inl rfl

section LiteralValues

variable {levels : Nat} {f : Field} {trail vs : List Term}

/-- Nothing lies behind literals. -/
theorem visitsTo_literals (hl : ∀ v ∈ vs, v.isLiteral = true) :
    visitsTo src levels f r trail vs = vs.map (visit (src.visits levels) r trail f) := by
  unfold visitsTo
  rw [List.map_eq_flatMap]
  refine List.flatMap_congr fun v hv => ?_
  rw [behind, if_pos (Or.inl (hl v hv))]

/-- Literals tell of nothing but the edges to them. They are read as they are, and in any order. -/
theorem tells_literals {ts : List Term} (hl : ∀ v ∈ vs, v.isLiteral = true)
    (hρ : ∀ l, ρ (.literal l) = .literal l)
    (hi : f.edge.inverse = true → ∀ v ∈ vs, v.isResource = true) (hmem : ∀ v, v ∈ ts ↔ v ∈ vs) :
    Tells ρ f r (vs.map (visit (src.visits levels) r trail f)) (ts.map (·, .empty)) := by
  have htriple : ∀ v ∈ vs, (visit (src.visits levels) r trail f v).triple ρ =
      f.edge.triple (ρ r) v := by
    intro v hv
    have hv := hl v hv
    cases v with
    | literal l => exact congrArg (f.edge.triple (ρ r)) (hρ l)
    | iri _ | blankNode _ => cases hv
  -- no graph is told of a literal, so all triples are edges to the values
  refine ⟨fun hinverse d hd => ?_, fun t => ⟨?_, ?_⟩⟩
  · obtain ⟨v, hv, rfl⟩ := List.mem_map.1 hd
    exact hi hinverse v ((hmem v).1 hv)
  · rintro ⟨d, hd, h⟩
    obtain ⟨v, hv, rfl⟩ := List.mem_map.1 hd
    have hv : v ∈ vs := (hmem v).1 hv
    refine ⟨_, List.mem_map_of_mem hv, ?_⟩
    rw [htriple v hv]
    exact h.resolve_right List.not_mem_nil
  · rintro ⟨y, hy, rfl⟩
    obtain ⟨v, hv, rfl⟩ := List.mem_map.1 hy
    exact ⟨(v, .empty), List.mem_map_of_mem ((hmem v).2 hv), Or.inl (htriple v hv)⟩

/-- Literals that are read in some order, without a label, are told of by what is written. -/
theorem fieldTold_literals {w : Json} (hl : ∀ v ∈ vs, v.isLiteral = true)
    (hi : f.edge.inverse = true → ∀ v ∈ vs, v.isResource = true)
    (hread : ∀ path L, ∃ ts : List Term, values s f.shape path w L = .ok (ts.map (·, .empty), L) ∧
      ts.Perm vs) :
    FieldTold s src f r trail (visitsTo src levels f r trail vs) (w, .empty) := by
  rw [visitsTo_literals hl]
  have hvisit : ∀ y ∈ vs.map (visit (src.visits levels) r trail f), y.value.isLiteral = true := by
    intro y hy
    obtain ⟨v, hv, rfl⟩ := List.mem_map.1 hy
    exact hl v hv
  have hblank : ∀ y ∈ vs.map (visit (src.visits levels) r trail f), y.value.isBlank = false := by
    intro y hy
    have hliteral := hvisit y hy
    cases hv : y.value with
    | literal _ | iri _ => rfl
    | blankNode _ =>
      rw [hv] at hliteral
      cases hliteral
  refine ⟨fun t => ⟨fun h => absurd h OrderedSet.not_mem_empty, ?_⟩, fun y hy hlabel => ?_,
    fun ρ L path hρ => ?_⟩
  · rintro ⟨hres, -, y, hy, rfl⟩
    rw [Term.isResource, hvisit y hy] at hres
    cases hres
  · rw [Visit.isLabelled_of_not_isBlank (hblank y hy)] at hlabel
    cases hlabel
  · obtain ⟨ts, hts, hperm⟩ := hread path L
    refine ⟨ts.map (·, .empty), ?_, tells_literals hl hρ.literal hi fun v => hperm.mem_iff⟩
    rw [labelsAfter, anonymous_eq_nil hblank]
    exact hts

/-- A field whose values are tagged texts, all of them with a language. -/
theorem taggedField_told (hr : Readable s src levels f r trail vs)
    (hp : LegibleTexts s f.shape vs) (ha : Aliases.ofShape f.shape s.keywords = .ok a)
    (ht : AreTagged f.shape vs) :
    FieldTold s src f r trail (visitsTo src levels f r trail vs) (taggedValues f vs, .empty) := by
  have htexts : ∀ v ∈ vs, IsTaggedText v := by
    intro v hv
    have hlegible := hr.legible v hv
    have hlanguage := ht.2 v hv
    cases v with
    | literal l => exact (hlegible.of_literal rfl).taggedText hlanguage
    | iri _ | blankNode _ => cases hlanguage
  have hliteral : ∀ v ∈ vs, v.isLiteral = true := by
    intro v hv
    obtain ⟨text, tag, rfl⟩ := htexts v hv
    rfl
  exact fieldTold_literals hliteral hr.inverse fun path L => hp.values ht.1 htexts ha

end LiteralValues

/-- The written form of a field reads as its visits. -/
theorem field_told (h : Agree s src) {levels : Nat} {f : Field} {trail vs : List Term}
    (hr : Readable s src levels f r trail vs)
    (hp : AreTagged f.shape vs → LegibleTexts s f.shape vs)
    (ha : Aliases.ofShape f.shape s.keywords = .ok a) :
    ∃ w, src.fieldValue (src.describe levels) trail f vs = .ok w ∧
      FieldTold s src f r trail (visitsTo src levels f r trail vs) w := by
  unfold Source.fieldValue
  by_cases ht : f.shape.isTagged = true ∧ vs.all (·.language.isSome) = true
  · rw [if_pos ht]
    have htagged : AreTagged f.shape vs := ⟨ht.1, List.all_eq_true.1 ht.2⟩
    exact ⟨_, rfl, taggedField_told hr (hp htagged) ha htagged⟩
  · rw [if_neg ht]
    obtain ⟨ws, hws, hA⟩ := targets_told (r := r) h hr ha
    have hrefs : ∀ t, t ∈ ws.foldl (fun (references : OrderedSet Term) w => references.union w.2)
        .empty ↔ Refers (visitsTo src levels f r trail vs) trail t := by
      intro t
      rw [mem_foldl_union, ← hA.refs t]
      exact ⟨fun h => h.resolve_left OrderedSet.not_mem_empty, Or.inr⟩
    rw [hws]
    refine ⟨_, rfl, ?_⟩
    rcases compact_cases f (ws.map (·.1)) with hc | ⟨j, hj, hc⟩
    · rw [hc]
      exact ⟨hrefs, hA.spelled, fun ρ L path hρ => hA.reads ρ L path 0 hρ⟩
    · obtain ⟨w, rfl, rfl⟩ := List.map_eq_singleton_iff.1 hj
      have hspelled := hA.spelled
      rw [hj, Json.itemStrings, Json.itemStrings, List.append_nil] at hspelled
      rw [hc]
      exact ⟨hrefs, hspelled, hA.alone w rfl⟩

/-! ## Levels -/

/-- What the simulation asks of the description of a resource. -/
structure Describable (s : Setting) (src : Source) (levels : Nat) (r : Term) (shape : Shape)
    (trail : List Term) : Prop where
  table : ∀ inner, Level s.keywords shape inner → ∃ a, Aliases.ofShape inner s.keywords = .ok a
  legible : ∀ x ∈ src.visits levels r shape trail, Legible s src x
  texts : ∀ x ∈ src.visits levels r shape trail,
    AreTagged x.field.shape (src.follow x.source x.field) →
      LegibleTexts s x.field.shape (src.follow x.source x.field)
  inverse : ∀ x ∈ src.visits levels r shape trail, x.field.edge.inverse = true →
    x.value.isResource = true

/-- The members for the fields of a table read as the visits of the fields. -/
theorem members_told (h : Agree s src) {levels : Nat} {trail : List Term}
    (ha : Aliases.ofShape shape s.keywords = .ok a) {entries : List (String × Field)}
    (he : ∀ e ∈ entries, e ∈ a.entries)
    (hr : ∀ e ∈ entries, Readable s src levels e.2 r trail (src.follow r e.2))
    (hp : ∀ e ∈ entries, src.follow r e.2 ≠ [] → AreTagged e.2.shape (src.follow r e.2) →
      LegibleTexts s e.2.shape (src.follow r e.2))
    (ht : ∀ e ∈ entries, ∃ b, Aliases.ofShape e.2.shape s.keywords = .ok b) :
    ∃ members refs, src.fieldMembers (src.describe levels) r trail entries =
        .ok (members, refs) ∧
      MembersTold s src a r trail entries
        (entries.flatMap fun e => src.fieldVisits (src.visits levels) r trail e.2)
        members refs := by
  induction entries with
  | nil =>
    refine ⟨[], .empty, rfl, fun t => ?_, List.Sublist.refl _, spelled_nil, ?_⟩
    · exact ⟨fun ht => absurd ht OrderedSet.not_mem_empty, fun ht => absurd ht not_refers_nil⟩
    · exact fun ρ L path _ => ⟨.empty, fields_nil, .empty, fun t => by simp [Graph.empty]⟩
  | cons e entries ih =>
    obtain ⟨name, f⟩ := e
    obtain ⟨members, refs, hrest, hB⟩ := ih (fun e hm => he e (List.mem_cons_of_mem _ hm))
      (fun e hm => hr e (List.mem_cons_of_mem _ hm))
      (fun e hm => hp e (List.mem_cons_of_mem _ hm)) fun e hm => ht e (List.mem_cons_of_mem _ hm)
    have hvisits : (((name, f) :: entries).flatMap fun e =>
        src.fieldVisits (src.visits levels) r trail e.2) =
          visitsTo src levels f r trail (src.follow r f) ++
            entries.flatMap fun e => src.fieldVisits (src.visits levels) r trail e.2 := rfl
    unfold Source.fieldMembers
    rw [hvisits]
    change ∃ members refs, (if (src.follow r f).isEmpty = true then _ else _) = _ ∧ _
    -- a field without values is left out, and there are no visits along it
    by_cases hempty : (src.follow r f).isEmpty = true
    · rw [if_pos hempty, List.isEmpty_iff.1 hempty]
      exact ⟨members, refs, hrest, hB.refs, hB.names.cons _, hB.spelled, hB.reads⟩
    · rw [if_neg hempty]
      obtain ⟨b, hb⟩ := ht _ List.mem_cons_self
      have htexts := hp _ List.mem_cons_self fun hnil => hempty (List.isEmpty_iff.2 hnil)
      obtain ⟨w, hw, hA⟩ := field_told h (hr _ List.mem_cons_self) htexts hb
      refine ⟨(name, w.1) :: members, w.2.union refs, ?_, fun t => ?_, hB.names.cons_cons _,
        hA.spelled.append hB.spelled, ?_⟩
      · show (src.fieldValue (src.describe levels) trail f (src.follow r f) >>= _) = _
        rw [hw, hrest]
        rfl
      · rw [OrderedSet.mem_union, hA.refs, hB.refs]
        exact refers_append.symm
      · intro ρ L path hρ
        obtain ⟨ds, hds, htells⟩ := hA.reads ρ L (path ++ "/" ++ name) hρ.left
        have hg := fieldTriples_ok (r := ρ r) htells.1
        obtain ⟨g', hg', -, hmem'⟩ := hB.reads ρ _ path hρ.right
        refine ⟨Graph.merge _ g', ?_, (stored_fieldTriples hg).extend _, fun t => ?_⟩
        · rw [labelsAfter_append]
          exact fields_field (Aliases.get?_of_mem ha (he _ List.mem_cons_self)) hds hg hg'
        · rw [Graph.mem_merge, mem_fieldTriples hg, hmem', htells.2 t]
          simp only [List.mem_append, or_and_right, exists_or]

/-- Writing and reading go together, level by level. -/
theorem describe_told (h : Agree s src) {levels : Nat} {trail : List Term}
    (hd : Describable s src levels r shape trail)
    (ha : Aliases.ofShape shape s.keywords = .ok a) :
    ∃ members refs, src.describe levels r shape trail =
        .ok (src.describedObject r members refs) ∧
      MembersTold s src a r (r :: trail) a.entries (src.visits levels r shape trail)
        members refs := by
  induction levels generalizing r shape trail a with
  | zero =>
    refine ⟨[], .empty, rfl, fun t => ?_, List.nil_sublist _, spelled_nil, ?_⟩
    · exact ⟨fun ht => absurd ht OrderedSet.not_mem_empty, fun ht => absurd ht not_refers_nil⟩
    · exact fun ρ L path _ =>
        ⟨.empty, fields_nil, .empty, fun t => by simp [Graph.empty, Source.visits]⟩
  | succ levels ih =>
    have hsrc : Aliases.ofShape shape src.keywords = .ok a := h.keywords ▸ ha
    have htable : src.table shape = a.entries := Source.table_of_ok hsrc
    have hreadable : ∀ e ∈ a.entries,
        Readable s src levels e.2 r (r :: trail) (src.follow r e.2) := by
      rintro ⟨name, f⟩ he
      have he' : (name, f) ∈ src.table shape := htable ▸ he
      refine ⟨fun v hv b hb hres hnot => ?_, fun v hv => ?_, fun hi v hv => ?_⟩
      · -- what is visited below is visited here, so the hypotheses go down
        have hbehind : ∀ y ∈ src.visits levels v f.shape (r :: trail),
            y ∈ src.visits (levels + 1) r shape trail := by
          intro y hy
          refine Source.mem_visits_of_behind he' hv ?_
          have hnl : v.isLiteral = false := by simpa [Term.isResource] using hres
          rw [behind, if_neg (by simp [hnl, hnot])]
          exact hy
        exact ih ⟨fun inner hl => hd.table inner (hl.under ha he),
          fun y hy => hd.legible y (hbehind y hy), fun y hy => hd.texts y (hbehind y hy),
          fun y hy => hd.inverse y (hbehind y hy)⟩ hb
      · exact hd.legible _ (Source.mem_visits_of_follow he' hv)
      · exact hd.inverse _ (Source.mem_visits_of_follow he' hv) hi
    have htexts : ∀ e ∈ a.entries, src.follow r e.2 ≠ [] →
        AreTagged e.2.shape (src.follow r e.2) → LegibleTexts s e.2.shape (src.follow r e.2) := by
      intro e he hne
      obtain ⟨v, hv⟩ := List.exists_mem_of_ne_nil _ hne
      exact hd.texts _ (Source.mem_visits_of_follow (htable ▸ he) hv)
    have htables : ∀ e ∈ a.entries, ∃ b, Aliases.ofShape e.2.shape s.keywords = .ok b := by
      rintro ⟨name, f⟩ he
      exact hd.table _ (.field .top ha he)
    obtain ⟨members, refs, hm, hA⟩ := members_told h ha (fun e he => he) hreadable htexts htables
    refine ⟨members, refs, ?_, ?_⟩
    · unfold Source.describe
      rw [hsrc]
      show (src.fieldMembers (src.describe levels) r (r :: trail) a.entries >>= _) = _
      rw [hm]
      rfl
    · rw [Source.visits, htable]
      exact hA

end Description

end LinkedShapes
