import LinkedShapes.Proofs.Description.Comparison
import LinkedShapes.Proofs.Description.Scanning

/-!
# Validation agrees with scanning

A description that is comparable with its graph is validated without fault exactly if it is read
and the scan of its graph finds nothing wrong.

* `part_agrees`: at one level, every part of the shape has the same verdict of validation and of
  the scan, given values and terms that stand for each other. A field hands such values and terms
  to the level below.
* `fields_faultless_of_valid`: what is validated without fault is read without fault, by induction
  on the depth of the shape.
* `validates_iff_scans`: both of this for the description of the focus.
-/

namespace LinkedShapes.Description

variable {s : Setting} {top V D : Shape} {a b : Aliases} {edge : Edge} {name path : String}
variable {L L' M : Labels} {json root : Json} {members : List (String × Json)} {r t : Term}
variable {g : Graph} {found terms : List Term} {values : List Json} {v w : Bool}

/-! ## Verdicts -/

/-- Validation and scanning have the same verdict on a part of a level. -/
def PartAgrees (s : Setting) (top : Shape) (root : Json) (M : Labels) (g : Graph)
    (part : Shape) : Prop :=
  ∀ V a values found terms v w, part.parts ⊆ V.parts → Aliases.ofShape V s.keywords = .ok a →
    V.Alike found terms → (V.HasFields → Paired s top root M V values terms) →
    Validates s root a values found part v → Scans s g a terms part w →
    v = w

/-- Validation and scanning have the same verdict on a level. -/
def LevelAgrees (s : Setting) (top : Shape) (root : Json) (M : Labels) (g : Graph)
    (V : Shape) : Prop :=
  ∀ a values found terms v w, Aliases.ofShape V s.keywords = .ok a →
    Group s top root M V values found terms →
    Validates s root a values found V v → Scans s g a terms V w → v = w

/-- A level that rejects one of the terms is violated, whatever else is at fault. -/
theorem violated_of_rejects (halike : V.Alike found terms) (ht : t ∈ found) (hr : Rejects V t)
    (hv : Validates s root a values found V v) (hw : Scans s g a terms V w) :
    v = false ∧ w = false := by
  obtain ⟨datatype, hd, hno⟩ := hr
  have hfound : ∀ x, (Shape.datatype datatype).check s.focus found = .ok x → x.isEmpty = false := by
    intro x hx
    cases hx
    rw [Bool.eq_false_iff, Ne, Shape.isEmpty_each]
    intro hall
    rw [hall t ht] at hno
    cases hno
  constructor
  · by_contra hne
    rw [Bool.not_eq_false] at hne
    subst hne
    obtain ⟨x, hx, hempty⟩ := (hv.of_demanded hd).of_leaf rfl
    rw [hfound x hx] at hempty
    cases hempty
  · by_contra hne
    rw [Bool.not_eq_false] at hne
    subst hne
    obtain ⟨y, hy, hempty⟩ := (hw.of_demanded hd).of_leaf rfl
    have hx : (Shape.datatype datatype).check s.focus found = .ok _ := rfl
    have hlike := Shape.check_like halike (Shape.demanded_subset_parts hd) hx hy
    have hfault := hfound _ hx
    rw [hlike.2 hempty] at hfault
    cases hfault

theorem level_agrees (h : PartAgrees s top root M g V) : LevelAgrees s top root M g V := by
  intro a values found terms v w ha hgroup hv hw
  by_cases hreject : ∃ t ∈ found, Rejects V t
  · obtain ⟨t, ht, hr⟩ := hreject
    obtain ⟨rfl, rfl⟩ := violated_of_rejects hgroup.alike ht hr hv hw
    rfl
  · exact h V a values found terms v w (List.Subset.refl _) ha hgroup.alike
      (fun hf => (hgroup.paired hf).resolve_left hreject) hv hw

/-- Verdicts that agree on all members of a list agree on the list. -/
theorem AllOf.agree {α β : Type} {xs : List α} {ys : List β} {P : α → Bool → Prop}
    {Q : β → Bool → Prop} (hv : AllOf xs P v) (hw : AllOf ys Q w)
    (hleft : ∀ x ∈ xs, P x false → ∃ y ∈ ys, ¬ Q y true)
    (hright : ∀ y ∈ ys, Q y false → ∃ x ∈ xs, ¬ P x true) : v = w := by
  cases v with
  | true =>
    cases w with
    | true => rfl
    | false =>
      obtain ⟨y, hy, hQ⟩ := hw.2 rfl
      obtain ⟨x, hx, hP⟩ := hright y hy hQ
      exact absurd (hv.1 rfl x hx) hP
  | false =>
    cases w with
    | true =>
      obtain ⟨x, hx, hP⟩ := hv.2 rfl
      obtain ⟨y, hy, hQ⟩ := hleft x hx hP
      exact absurd (hw.1 rfl y hy) hQ
    | false => rfl

/-- A field has the same verdict at a place as along the edges of its term. -/
theorem member_agrees {x : Place} {inner : Shape} {label : Option String}
    (hg : Compared s top root M g) (ih : PartAgrees s top root M g inner)
    (hx : Placed s top root M x) (hnull : x.json ≠ .null)
    (hstructured : Structured s.keywords x.expected x.json x.term)
    (ha : Aliases.ofShape x.expected s.keywords = .ok a)
    (hpart : .field edge label inner ∈ x.expected.parts) (hname : a.nameOf? edge = some name)
    (hv : ValidatesMember s root name inner x.json v)
    (hw : ScansMember s g edge inner x.term w) : v = w := by
  obtain ⟨values, hvalues, hnested⟩ := nested_of_place hg hx hstructured ha hpart hname
  obtain ⟨found, issues, c, verdict, L, L', hfresh, hfound, hc, hinner, rfl⟩ :=
    hv.of_values hnull hvalues
  obtain ⟨c', hc', hscan⟩ := hw
  rw [hc] at hc'
  cases hc'
  rw [(isEmpty_termsOfGroup hfound).2 hnested.read, hnested.expected c hc, Bool.true_and,
    Bool.and_true]
  exact level_agrees ih c values found _ verdict w hc
    (hnested.group found issues _ L L' hfresh hfound) hinner hscan

namespace PartAgrees

variable {shapes : List Shape} {test pass fail inner part : Shape} {iri : String}
variable {label : Option String}

theorem and (h : ∀ shape ∈ shapes, PartAgrees s top root M g shape) :
    PartAgrees s top root M g (.and shapes) := by
  intro V a values found terms v w hsub ha halike hpaired hv hw
  have hsame : ∀ shape ∈ shapes, ∀ v w,
      Validates s root a values found shape v →
      Scans s g a terms shape w → v = w := fun shape hshape v w =>
    h shape hshape V a values found terms v w
      (fun p hp => hsub (Shape.mem_partsOfAll.2 ⟨shape, hshape, hp⟩)) ha halike hpaired
  refine hv.of_and.agree hw.of_and (fun shape hshape hfalse => ?_) fun shape hshape hfalse => ?_
  · exact ⟨shape, hshape, fun htrue => nomatch hsame shape hshape _ _ hfalse htrue⟩
  · exact ⟨shape, hshape, fun htrue => nomatch hsame shape hshape _ _ htrue hfalse⟩

theorem or (h : ∀ shape ∈ shapes, PartAgrees s top root M g shape) :
    PartAgrees s top root M g (.or shapes) := by
  intro V a values found terms v w hsub ha halike hpaired hv hw
  have hsame : ∀ shape ∈ shapes, ∀ v w,
      Validates s root a values found shape v →
      Scans s g a terms shape w → v = w := fun shape hshape v w =>
    h shape hshape V a values found terms v w
      (fun p hp => hsub (Shape.mem_partsOfAll.2 ⟨shape, hshape, hp⟩)) ha halike hpaired
  cases v with
  | true =>
    cases w with
    | true => rfl
    | false =>
      obtain ⟨shape, hshape, htrue⟩ := hv.of_or.1 rfl
      exact hsame shape hshape _ _ htrue (hw.of_or.2 rfl shape hshape)
  | false =>
    cases w with
    | true =>
      obtain ⟨shape, hshape, htrue⟩ := hw.of_or.1 rfl
      exact hsame shape hshape _ _ (hv.of_or.2 rfl shape hshape) htrue
    | false => rfl

/-- The tests agree, so that both turn to the same branch. -/
theorem when (ht : PartAgrees s top root M g test) (hp : PartAgrees s top root M g pass)
    (hf : PartAgrees s top root M g fail) : PartAgrees s top root M g (.when test pass fail) := by
  intro V a values found terms v w hsub ha halike hpaired hv hw
  obtain ⟨htest, hpass, hfail⟩ := Shape.ofLevel_when test pass fail
  have htest : test.parts ⊆ V.parts := List.Subset.trans htest.parts hsub
  have hpass : pass.parts ⊆ V.parts := List.Subset.trans hpass.parts hsub
  have hfail : fail.parts ⊆ V.parts := List.Subset.trans hfail.parts hsub
  obtain ⟨c, hc, hv⟩ := hv.of_when
  obtain ⟨d, hd, hw⟩ := hw.of_when
  have hsame := ht V a values found terms c d htest ha halike hpaired hc hd
  subst hsame
  cases c with
  | true => exact hp V a values found terms v w hpass ha halike hpaired hv hw
  | false => exact hf V a values found terms v w hfail ha halike hpaired hv hw

theorem link (h : PartAgrees s top root M g inner) :
    PartAgrees s top root M g (.link iri inner) := by
  intro V a values found terms v w hsub ha halike hpaired hv hw
  exact h V a values found terms v w hsub ha halike hpaired hv.of_link hw.of_link

theorem leaf (hl : part.isLeaf = true) : PartAgrees s top root M g part := by
  intro V a values found terms v w hsub ha halike hpaired hv hw
  obtain ⟨x, hx, rfl⟩ := hv.of_leaf hl
  obtain ⟨y, hy, rfl⟩ := hw.of_leaf hl
  rw [Shape.parts_of_isLeaf hl] at hsub
  exact Bool.eq_iff_iff.2 (Shape.check_like halike (hsub (List.mem_singleton_self _)) hx hy)

/-- A field that is at fault for a value is at fault for the term that the value stands for. -/
theorem field (hg : Compared s top root M g) (h : PartAgrees s top root M g inner) :
    PartAgrees s top root M g (.field edge label inner) := by
  intro V a values found terms v w hsub ha halike hpaired hv hw
  have hpart : .field edge label inner ∈ V.parts := hsub (List.mem_singleton_self _)
  have hpaired := hpaired ⟨edge, label, inner, hpart⟩
  obtain ⟨name, hname, hv⟩ := hv.of_field
  obtain ⟨name', hname', hw⟩ := hw.of_field
  have hname := nameOf?_of_fieldAlias hname
  refine hv.agree hw (fun json hj hfalse => ?_) fun t ht hfalse => ?_
  · have hnull : json ≠ .null := by
      rintro rfl
      cases hfalse.eq_true
    obtain ⟨x, hx, rfl, rfl, hstructured, hmem⟩ := hpaired.left json hj hnull
    exact ⟨x.term, hmem, fun htrue =>
      nomatch member_agrees hg h hx hnull hstructured ha hpart hname hfalse htrue⟩
  · obtain ⟨x, hx, rfl, hmem, hnull, hstructured, rfl⟩ := hpaired.right t ht
    exact ⟨x.json, hmem, fun htrue =>
      nomatch member_agrees hg h hx hnull hstructured ha hpart hname htrue hfalse⟩

end PartAgrees

/-- Every part of a level has the same verdict of validation and of a scan. -/
theorem part_agrees (hg : Compared s top root M g) (part : Shape) :
    PartAgrees s top root M g part := by
  induction part using Shape.induct with
  | and shapes ih => exact .and ih
  | or shapes ih => exact .or ih
  | when test pass fail iht ihp ihf => exact .when iht ihp ihf
  | field edge label inner ih => exact .field hg ih
  | link iri inner ih => exact .link ih
  | leaf part hl => exact .leaf hl

/-! ## What validation leaves to reading -/

/-- What is written for a field that is demanded outright is validated without fault, too. -/
theorem valid_of_demanded {label : Option String} {inner : Shape}
    (hv : Validates s root a values found V true) (hmem : .object members ∈ values)
    (hdemanded : .field edge label inner ∈ V.demanded) (hname : a.nameOf? edge = some name)
    (hlookup : Json.lookup name members = some json) :
    ∃ terms c, CanBeRead s inner (listed json) ∧ Aliases.ofShape inner s.keywords = .ok c ∧
      Validates s root c (listed json) terms inner true ∧
      (unexpectedMembers s c inner (listed json)).isEmpty = true := by
  obtain ⟨name', hname', hall⟩ := (hv.of_demanded hdemanded).of_field
  have hname' := nameOf?_of_fieldAlias hname'
  rw [hname] at hname'
  cases hname'
  have hvalues : memberValues name (.object members) = .ok (listed json) := by
    rw [memberValues_object, hlookup]
    rfl
  have hnull : Json.object members ≠ .null := by
    rintro ⟨⟩
  obtain ⟨terms, issues, c, verdict, L, L', -, hgroup, hc, hinner, hverdict⟩ :=
    (hall.1 rfl _ hmem).of_values hnull hvalues
  obtain ⟨⟨hissues, rfl⟩, hexpected⟩ : (issues.isEmpty = true ∧ verdict = true) ∧
      (unexpectedMembers s c inner (listed json)).isEmpty = true := by
    simpa using hverdict.symm
  exact ⟨terms, c, (isEmpty_termsOfGroup hgroup).1 hissues, hc, hinner, hexpected⟩

/-- The members of an object that is validated without fault are read without fault. -/
theorem fields_faultless_of_valid (hc : Comparable s top root)
    (hd : Describes s top root V D members) (ha : Aliases.ofShape V s.keywords = .ok a)
    (hb : Aliases.ofShape D s.keywords = .ok b) (hv : Validates s root a values found V true)
    (hmem : .object members ∈ values)
    (hexpected : (unexpectedMembers s a V values).isEmpty = true) (hr : r.isResource = true) :
    Faultless (fields s b r path members) L := by
  -- by the depth of the level: what stands along a field is read below
  induction hdepth : V.depth using Nat.strongRecOn
    generalizing V D members a b values found r path L with
  | _ depth ih =>
    obtain ⟨hdistinct, hedges, hoverseen⟩ := hc.objects _ _ _ hd
    refine fields_faultless fun m hm L => ?_
    -- a member is unexpected, or along a field that all values must meet, or can be read anyway
    rcases hoverseen a b ha hb m hm with ⟨hunknown, htagged⟩ |
      ⟨edge, label, inner, hdemanded, hname, hdirect⟩ | halone
    · have hknown := (isEmpty_unexpectedMembers.1 hexpected).resolve_left
        (Bool.eq_false_iff.1 htagged) members hmem m hm
      rw [hunknown] at hknown
      cases hknown
    · obtain ⟨name, json⟩ := m
      have hlookup := lookup_json_of_mem hdistinct hm
      obtain ⟨terms, c, hread, hc', hinner, hexpected'⟩ :=
        valid_of_demanded hv hmem hdemanded hname hlookup
      obtain ⟨fa, hfa, hedge⟩ := Aliases.get?_of_nameOf? ha hname
      have hsame := hedges a b ha hb _ hm
      rw [hfa, Option.map_some, hedge] at hsame
      obtain ⟨f, hf, hfedge⟩ := Option.map_eq_some_iff.1 hsame.symm
      have hpart := Shape.demanded_subset_parts hdemanded
      rw [fields_values_alone hf]
      refine (values_faultless fun item hitem path L => ?_).bind fun vs L₁ _ => ?_
      · have hvalue : ValueOf s V D members inner f.shape item :=
          ⟨edge, name, json, ⟨a, b, label, f, ha, hb, hpart, hname, hf, rfl⟩, hlookup, hitem⟩
        obtain ⟨path', L₃, ts, L₄, hterms⟩ := hread item hitem
        obtain ⟨ts', L₅, hterms⟩ := termsOfValue_anywhere hterms path L
        have hterms := ((hc.values _ _ _ _ _ _ hd hvalue).alike _ _ _).1 hterms
        refine value_faultless hterms fun members' d r' hjson hts hr' hd' => ?_
        subst hjson hts
        have hlt : inner.depth < depth := by
          rw [← hdepth]
          exact Shape.depth_lt_of_mem_fields (Shape.mem_fields_of_demanded hdemanded)
        exact ih _ hlt (.inside hd hvalue hterms hr') hc' hd' hinner hitem hexpected' hr' rfl
      · refine faultless_of_ok (lift_of_ok (fieldTriples_ok fun hinverse => ?_))
        rw [hfedge, hdirect] at hinverse
        cases hinverse
    · exact halone r path L hr

/-! ## The focus -/

/-- The description of the focus and the focus stand for each other. -/
theorem group_of_focus (hroot : root = .object members) :
    Group s top root M top [root] [.iri s.focus] [.iri s.focus] := by
  have hstructured : Structured s.keywords top root (.iri s.focus) :=
    Or.inr ⟨members, hroot, Or.inl rfl⟩
  refine ⟨.refl, fun _ => Or.inr ⟨fun json hj _ => ?_, fun t ht => ?_⟩⟩
  · rw [List.mem_singleton.1 hj]
    exact ⟨_, .focus, rfl, rfl, hstructured, List.mem_singleton_self _⟩
  · rw [List.mem_singleton.1 ht]
    refine ⟨_, .focus, rfl, List.mem_singleton_self _, ?_, hstructured, rfl⟩
    rintro (rfl : root = .null)
    cases hroot

/-- What is found wrong with a description beyond the issues so far. -/
theorem conforms_ok {issues trace : Trace} (hL : L.FreshFor json) (hissues : issues.Tidy)
    (h : (do
        let aliases ← Aliases.ofShape top s.keywords
        let found ← validateGroup s aliases [root] [.iri s.focus] top
        return (issues.merge found).merge (unexpectedMembers s aliases top [root]) :
      Validating Trace) L = .ok (trace, L')) :
    ∃ a v, Aliases.ofShape top s.keywords = .ok a ∧
      Validates s json a [root] [.iri s.focus] top v ∧
      (trace.isEmpty = true ↔ issues.isEmpty = true ∧ v = true ∧
        (unexpectedMembers s a top [root]).isEmpty = true) := by
  obtain ⟨a, L₁, ha, h⟩ := run_ok_of_bind h
  obtain ⟨found, L₂, hfound, h⟩ := run_ok_of_bind h
  cases h
  obtain ⟨htable, rfl⟩ := ok_of_run_lift ha
  obtain ⟨htidy, -⟩ := proper top _ _ _ _ _ _ hfound
  refine ⟨a, found.isEmpty, htable, ⟨L₁, found, _, hL, hfound, rfl⟩, ?_⟩
  rw [Trace.isEmpty_merge (Trace.tidy_merge hissues htidy) tidy_unexpectedMembers,
    Trace.isEmpty_merge hissues htidy, and_assoc]

/-- What a description is validated to: whether it is one of the focus, whether it conforms, and
whether nothing is unexpected. -/
theorem validateFocus_ok {trace : Trace} (hL : L.FreshFor json)
    (h : validateFocus s top root L = .ok (trace, L')) :
    ∃ a v, Aliases.ofShape top s.keywords = .ok a ∧
      Validates s json a [root] [.iri s.focus] top v ∧
      (trace.isEmpty = true ↔ (∃ p, Description.root s top root = .ok p) ∧ v = true ∧
        (unexpectedMembers s a top [root]).isEmpty = true) := by
  unfold validateFocus at h
  cases hr : Description.root s top root with
  | ok p =>
    rw [hr] at h
    obtain ⟨a, v, ha, hv, hempty⟩ := conforms_ok hL Trace.tidy_empty h
    exact ⟨a, v, ha, hv, hempty.trans (and_congr_left' (iff_of_true rfl ⟨p, rfl⟩))⟩
  | error fault =>
    rw [hr] at h
    have hissue : ∃ message, (do
        let aliases ← Aliases.ofShape top s.keywords
        let found ← validateGroup s aliases [root] [.iri s.focus] top
        return ((Trace.issue message).merge found).merge (unexpectedMembers s aliases top [root]) :
      Validating Trace) L = .ok (trace, L') := by
      cases fault <;> first | exact ⟨_, h⟩ | cases h
    obtain ⟨message, h⟩ := hissue
    obtain ⟨a, v, ha, hv, hempty⟩ := conforms_ok hL Trace.tidy_ofIssues h
    refine ⟨a, v, ha, hv, hempty.trans (and_congr_left' (iff_of_false ?_ ?_))⟩
    · show ¬ (Trace.issue message).isEmpty = true
      rw [Trace.isEmpty_issue]
      exact Bool.false_ne_true
    · rintro ⟨p, hp⟩
      cases hp

/-- Of a description of the focus that is read, no member is unexpected. -/
theorem expected_of_focusTriples (h : focusTriples s top root L = .ok (g, L'))
    (ha : Aliases.ofShape top s.keywords = .ok a) :
    (unexpectedMembers s a top [root]).isEmpty = true := by
  obtain ⟨members, b, hroot, hfields⟩ := focusTriples_ok h
  obtain ⟨rfl, hb⟩ := object_of_root hroot
  rw [ha] at hb
  cases hb
  refine isEmpty_unexpectedMembers.2 (Or.inr fun inner hinner m hm => ?_)
  cases List.mem_singleton.1 hinner
  rcases known_of_fields hfields hm with hfield | hkeyword
  · rw [isKnown, Aliases.contains, hfield, Bool.or_true]
  · rw [isSome_keyword?] at hkeyword
    rw [isKnown, hkeyword, Bool.true_or]

/-- What is said of a description of the focus, of its graph and of a scan of this graph. -/
theorem validates_iff_scans {trace : Trace} (hL : L.FreshFor root) (hM : M.FreshFor root)
    (hc : Comparable s top root) (hv : validateFocus s top root L = .ok (trace, L'))
    (hread : ∀ defect, focusTriples s top root M ≠ .error (.shape defect))
    (hgraph : ∀ g M', focusTriples s top root M = .ok (g, M') →
      Complete s top root M g ∧ ∃ result, scanFocus s g top = .ok result) :
    trace.isEmpty = true ↔ ∃ g M' h, focusTriples s top root M = .ok (g, M') ∧
      scanFocus s g top = .ok (.ok h) := by
  obtain ⟨a, v, ha, hvalid, hclean⟩ := validateFocus_ok hL hv
  -- of a description that is read, validation and scanning have the same verdict
  have hsame : ∀ g M', focusTriples s top root M = .ok (g, M') →
      ∃ result, scanFocus s g top = .ok result ∧ v = result.isOk := by
    intro g M' hg
    obtain ⟨hcomplete, result, hresult⟩ := hgraph g M' hg
    obtain ⟨b, hb, hscan⟩ := scans_of_scanFocus hresult
    rw [ha] at hb
    cases hb
    obtain ⟨members, b, hroot, -⟩ := focusTriples_ok hg
    have hagrees := level_agrees (part_agrees ⟨hM, ⟨M', hg⟩, hc, hcomplete⟩ top)
    exact ⟨result, hresult, hagrees a _ _ _ _ _ ha (group_of_focus (object_of_root hroot).1)
      hvalid hscan⟩
  rw [hclean]
  constructor
  · rintro ⟨⟨⟨members, b⟩, hroot⟩, rfl, hexpected⟩
    obtain ⟨hjson, hb⟩ := object_of_root hroot
    have hfaultless : Faultless (focusTriples s top root) M := by
      unfold focusTriples
      refine (faultless_of_ok (lift_of_ok hroot)).bind fun p L' hp => ?_
      have hsame := (ok_of_run_lift hp).1
      rw [hroot] at hsame
      cases hsame
      exact fields_faultless_of_valid hc (.focus hjson) ha hb hvalid
        (List.mem_singleton.2 hjson.symm) hexpected rfl
    cases hg : focusTriples s top root M with
    | error fault =>
      obtain ⟨defect, rfl⟩ := hfaultless fault hg
      exact absurd hg (hread defect)
    | ok p =>
      obtain ⟨g, L'⟩ := p
      obtain ⟨result, hresult, hok⟩ := hsame g L' hg
      cases result with
      | error trace => cases hok
      | ok h => exact ⟨g, L', h, rfl, hresult⟩
  · rintro ⟨g, L', h, hg, hscan⟩
    obtain ⟨members, b, hroot, -⟩ := focusTriples_ok hg
    obtain ⟨result, hresult, rfl⟩ := hsame g L' hg
    rw [hscan] at hresult
    cases hresult
    exact ⟨⟨_, hroot⟩, rfl, expected_of_focusTriples hg ha⟩

end LinkedShapes.Description
