import LinkedShapes.Proofs.Description.Agreement

/-!
# Validation and reading are consistent

The validator is to let through what can be read and then scans clean, and nothing else. So it does
for descriptions that are comparable and complete at all of their places (`validation_agrees`).

It reads for itself what it looks at. So it has its own view of fields that share an edge, and
passes over what it does not look at: `validation_disagrees` has descriptions over which it is at
odds with a scan for one reason each. Apart from that it looks at one place at a time, and does not
see what a graph merges (`validation_disagrees_apart`).
-/

namespace LinkedShapes.Description

open Vocabulary

variable {s : Setting} {focus : String} {shape V D V' D' : Shape} {json : Json} {k : Keywords}
variable {v w : Bool} {edge : Edge} {name name' : String} {f : Field} {x y : Place} {g : Graph}
variable {L M : Labels}

/-! ## Verdicts on a description and its graph -/

/-- No operation on the description fails for a defect of the shape. Validation draws labels from
the first supply, reading from the second. -/
structure WithoutDefect (focus : String) (shape : Shape) (json : Json) (k : Keywords)
    (L M : Labels) : Prop where
  validated : ∃ trace, validate focus shape json k L = .ok trace
  read : ∀ defect, decode focus shape json k M ≠ .error (.shape defect)
  scanned : ∀ g, decode focus shape json k M = .ok g → ∃ result, scan focus shape g k = .ok result

namespace WithoutDefect

variable {trace : Trace} {fault : DecodeError} {result : Except Trace Graph}

theorem of_rejected (hv : validate focus shape json k L = .ok trace)
    (hr : decode focus shape json k M = .error fault) (hfault : ∀ defect, fault ≠ .shape defect) :
    WithoutDefect focus shape json k L M := by
  refine ⟨⟨_, hv⟩, fun defect hd => ?_, fun g hg => ?_⟩
  · rw [hr] at hd
    cases hd
    exact hfault defect rfl
  · rw [hr] at hg
    cases hg

theorem of_read (hv : validate focus shape json k L = .ok trace)
    (hr : decode focus shape json k M = .ok g) (hs : scan focus shape g k = .ok result) :
    WithoutDefect focus shape json k L M := by
  refine ⟨⟨_, hv⟩, fun defect hd => ?_, fun g' hg => ?_⟩
  · rw [hr] at hd
    cases hd
  · rw [hr] at hg
    cases hg
    exact ⟨_, hs⟩

end WithoutDefect

/-- The description conforms exactly if it can be read to a graph that a scan accepts. -/
def Agrees (focus : String) (shape : Shape) (json : Json) (k : Keywords) (L M : Labels) : Prop :=
  (∃ trace, validate focus shape json k L = .ok trace ∧ trace.isEmpty = true) ↔
    ∃ g found, decode focus shape json k M = .ok g ∧ scan focus shape g k = .ok (.ok found)

/-- What validation says of a description and what a scan says of its graph, if no defect of the
shape prevents it. The labels are those beyond what is written. -/
def verdicts (focus : String) (shape : Shape) (json : Json) (k : Keywords) : Option (Bool × Bool) :=
  match validate focus shape json k (.beyondJson json),
    decode focus shape json k (.beyondJson json) with
  | .error _, _ | .ok _, .error (.shape _) => none
  | .ok trace, .error _ => some (trace.isEmpty, false)
  | .ok trace, .ok g =>
    match scan focus shape g k with
    | .error _ => none
    | .ok result => some (trace.isEmpty, result.isOk)

theorem agrees_iff_of_verdicts (h : verdicts focus shape json k = some (v, w)) :
    WithoutDefect focus shape json k (.beyondJson json) (.beyondJson json) ∧
      (Agrees focus shape json k (.beyondJson json) (.beyondJson json) ↔ v = w) := by
  unfold verdicts at h
  cases hv : validate focus shape json k (.beyondJson json) with
  | error defect =>
    rw [hv] at h
    cases h
  | ok trace =>
    cases hr : decode focus shape json k (.beyondJson json) with
    | error fault =>
      have hfault : (∀ defect, fault ≠ .shape defect) ∧ trace.isEmpty = v ∧ false = w := by
        rw [hv, hr] at h
        cases fault with
        | shape defect => cases h
        | _ =>
          cases h
          exact ⟨fun _ hd => (by cases hd), rfl, rfl⟩
      obtain ⟨hfault, rfl, rfl⟩ := hfault
      exact ⟨.of_rejected hv hr hfault, by simp [Agrees, hv, hr]⟩
    | ok g =>
      cases hs : scan focus shape g k with
      | error defect =>
        simp only [hv, hr, hs] at h
        cases h
      | ok result =>
        simp only [hv, hr, hs, Option.some.injEq, Prod.mk.injEq] at h
        obtain ⟨rfl, rfl⟩ := h
        have hok : (∃ found, result = .ok found) ↔ result.isOk = true := by
          cases result <;> simp [Except.isOk, Except.toBool]
        refine ⟨.of_read hv hr hs, ?_⟩
        rw [Bool.eq_iff_iff]
        simp [Agrees, hv, hr, hs, hok]

/-! ## Agreement -/

theorem scan_eq (h : prepare shape k = .ok shape.drive) :
    scan focus shape g k = scanFocus (.of focus k) g shape.drive := by
  unfold scan
  rw [h]
  rfl

/-- A comparable description that is complete wherever a resource stands conforms exactly if it can
be read to a graph that a scan accepts, whatever fresh labels validation and reading draw. -/
theorem validation_agrees (hL : L.FreshFor json) (hM : M.FreshFor json)
    (hd : WithoutDefect focus shape json k L M) (hc : Comparable (.of focus k) shape.drive json)
    (hcomplete : ∀ g, decode focus shape json k M = .ok g →
      Complete (.of focus k) shape.drive json M g) : Agrees focus shape json k L M := by
  obtain ⟨trace, hv⟩ := hd.validated
  obtain ⟨driver, hprepare, hrun⟩ := ok_of_bind hv
  obtain ⟨rfl, -⟩ := prepare_ok hprepare
  obtain ⟨⟨found, L'⟩, hrun, htrace⟩ := ok_of_bind hrun
  cases htrace
  -- faults of reading are no defects of the shape, and no graph that is read is refused by a scan
  have hread : ∀ defect, focusTriples (.of focus k) shape.drive json M ≠
      .error (.shape defect) := by
    intro defect hfault
    refine hd.read defect ?_
    rw [decode_eq hprepare, hfault]
    rfl
  have hgraph : ∀ g M', focusTriples (.of focus k) shape.drive json M = .ok (g, M') →
      Complete (.of focus k) shape.drive json M g ∧
        ∃ result, scanFocus (.of focus k) g shape.drive = .ok result := by
    intro g M' hg
    have hdecode := (decode_ok_iff hprepare).2 ⟨M', hg⟩
    exact ⟨hcomplete g hdecode, scan_eq hprepare ▸ hd.scanned g hdecode⟩
  have hmain := validates_iff_scans hL hM hc hrun hread hgraph
  unfold Agrees
  rw [hv]
  constructor
  · rintro ⟨trace, htrace, hempty⟩
    cases htrace
    obtain ⟨g, M', h, hg, hresult⟩ := hmain.1 hempty
    exact ⟨g, h, (decode_ok_iff hprepare).2 ⟨M', hg⟩, (scan_eq hprepare).trans hresult⟩
  · rintro ⟨g, h, hg, hresult⟩
    obtain ⟨M', hg⟩ := (decode_ok_iff hprepare).1 hg
    exact ⟨_, rfl, hmain.2 ⟨g, M', h, hg, (scan_eq hprepare).symm.trans hresult⟩⟩

/-! ## A description that is consistent, and some that are not -/

/-- A field from subjects to objects under a name of its own. -/
def member (name : String) (inner : Shape) : Shape := .field ⟨"urn:x:" ++ name, false⟩ none inner

/-- A field that is alone at its level. -/
theorem FieldOf.of_single (ha : Aliases.ofShape V s.keywords = .ok ⟨[(name', f)]⟩)
    (h : FieldOf s V V edge name V' D') :
    edge = f.edge ∧ name = name' ∧ D' = f.shape ∧ ∃ label, .field edge label V' ∈ V.parts := by
  obtain ⟨a, b, label, f', ha', hb, hpart, hname, hget, rfl⟩ := h
  rw [ha] at ha' hb
  cases ha'
  cases hb
  obtain ⟨e, he, rfl⟩ := Option.map_eq_some_iff.1 hname
  have hedge := List.find?_some he
  cases List.mem_singleton.1 (List.mem_of_find?_eq_some he)
  cases List.mem_singleton.1 (Aliases.mem_of_get? hget)
  exact ⟨(by simpa using hedge : f.edge = edge).symm, rfl, rfl, label, hpart⟩

section Sample

/-- What is said of the values of a field that have a field themselves. -/
def described : Shape :=
  .and [.minCount 1, member "q" (.maxCount 1), .datatype Abstract.resource]

def sampleShape : Shape := member "p" (.and [.minCount 1, member "q" (.maxCount 1)])

def sampleMembers : List (String × Json) := [("@id", .string "urn:x:x"), ("q", .string "a")]

/-- A resource and one of its values. -/
def sample : Json := .object [("p", .object sampleMembers)]

/-- Where the value of the value stands. -/
def samplePlace (labels : Labels) : Place :=
  ⟨described, described, "/p", .object sampleMembers, .iri "urn:x:x", labels⟩

def sampleSetting : Setting := ⟨"urn:x:f", .none⟩

theorem drive_sampleShape : sampleShape.drive = member "p" described := rfl

theorem aliases_sample : Aliases.ofShape (member "p" described) .none =
    .ok ⟨[("p", ⟨⟨"urn:x:p", false⟩, none, described⟩)]⟩ := rfl

theorem aliases_described : Aliases.ofShape described .none =
    .ok ⟨[("q", ⟨⟨"urn:x:q", false⟩, none, .maxCount 1⟩)]⟩ := rfl

theorem field_of_sample (h : FieldOf sampleSetting (member "p" described) (member "p" described)
    edge name V' D') :
    edge = ⟨"urn:x:p", false⟩ ∧ name = "p" ∧ V' = described ∧ D' = described := by
  obtain ⟨rfl, rfl, rfl, label, hpart⟩ := h.of_single aliases_sample
  cases List.mem_singleton.1 hpart
  exact ⟨rfl, rfl, rfl, rfl⟩

theorem field_part_of_described {label : Option String}
    (h : .field edge label V' ∈ described.parts) :
    edge = ⟨"urn:x:q", false⟩ ∧ V' = .maxCount 1 := by
  simp only [described, member, Shape.parts, Shape.partsOfAll, List.mem_append, List.mem_singleton,
    Shape.field.injEq, reduceCtorEq, List.not_mem_nil, or_false, false_or] at h
  exact ⟨h.1, h.2.2⟩

theorem field_of_described (h : FieldOf sampleSetting described described edge name V' D') :
    edge = ⟨"urn:x:q", false⟩ ∧ name = "q" ∧ V' = .maxCount 1 ∧ D' = .maxCount 1 := by
  obtain ⟨rfl, rfl, rfl, label, hpart⟩ := h.of_single aliases_described
  exact ⟨rfl, rfl, (field_part_of_described hpart).2, rfl⟩

/-- The two objects of the sample. -/
theorem describes_sample {members : List (String × Json)}
    (h : Describes sampleSetting (member "p" described) sample V D members) :
    V = D ∧ (V = member "p" described ∧ members = [("p", .object sampleMembers)] ∨
      V = described ∧ members = sampleMembers) := by
  induction h with
  | focus heq =>
    cases heq
    exact ⟨rfl, Or.inl ⟨rfl, rfl⟩⟩
  | inside _ hvalue _ _ ih =>
    obtain ⟨rfl, ⟨rfl, rfl⟩ | ⟨rfl, rfl⟩⟩ := ih
    · obtain ⟨edge, name, json, hfield, hlookup, hitem⟩ := hvalue
      obtain ⟨-, rfl, rfl, rfl⟩ := field_of_sample hfield
      cases hlookup
      cases List.mem_singleton.1 hitem
      exact ⟨rfl, Or.inr ⟨rfl, rfl⟩⟩
    · obtain ⟨edge, name, json, hfield, hlookup, hitem⟩ := hvalue
      obtain ⟨-, rfl, rfl, rfl⟩ := field_of_described hfield
      cases hlookup
      cases List.mem_singleton.1 hitem

theorem stops_sample : memberStops sampleSetting
    ⟨[("p", ⟨⟨"urn:x:p", false⟩, none, described⟩)]⟩ (.iri "urn:x:f") "" "p" M
    [("p", .object sampleMembers)] = [⟨"/p", .object sampleMembers, M⟩] := rfl

theorem terms_sample : termsOfValue sampleSetting described "/p" (.object sampleMembers) M =
    .ok ([.iri "urn:x:x"], M) := rfl

theorem leads_from_focus
    (h : Leads sampleSetting (focusPlace sampleSetting (member "p" described) sample M) edge y) :
    y = samplePlace M := by
  obtain ⟨members, b, name, stop, ts, hjson, -, hfield, hb, hstop, hpath, hyjson, hterms, hmem⟩ := h
  obtain ⟨-, rfl, hexpected, hdriver⟩ := field_of_sample hfield
  cases hjson
  cases aliases_sample.symm.trans hb
  cases List.mem_singleton.1 (stops_sample ▸ hstop)
  rw [hdriver, terms_sample] at hterms
  obtain ⟨expected, driver, path, json, term, labels⟩ := y
  cases hterms
  cases hexpected
  cases hdriver
  cases hpath
  cases hyjson
  cases List.mem_singleton.1 hmem
  rfl

/-- The places of the sample: the focus, its value, and values without fields. -/
theorem placed_sample (h : Placed sampleSetting (member "p" described) sample M x) :
    x = focusPlace sampleSetting (member "p" described) sample M ∨ x = samplePlace M ∨
      x.expected = .maxCount 1 := by
  induction h with
  | focus => exact Or.inl rfl
  | inside _ hleads ih =>
    rcases ih with rfl | rfl | hleaf
    · exact Or.inr (Or.inl (leads_from_focus hleads))
    · obtain ⟨members, b, name, stop, ts, -, -, hfield, -⟩ := hleads
      exact Or.inr (Or.inr (field_of_described hfield).2.2.1)
    · obtain ⟨members, b, name, stop, ts, -, -, ⟨a, c, label, f, -, -, hpart, -⟩, -⟩ := hleads
      rw [hleaf] at hpart
      cases List.mem_singleton.1 hpart

theorem comparable_sample : Comparable sampleSetting (member "p" described) sample where
  objects := fun V D members h => by
    obtain ⟨rfl, hmembers⟩ := describes_sample h
    refine ⟨?_, fun a b ha hb m _ => ?_, fun a b ha hb m hm => ?_⟩
    · rcases hmembers with ⟨-, rfl⟩ | ⟨-, rfl⟩ <;> decide
    · rw [ha] at hb
      cases hb
      rfl
    · rcases hmembers with ⟨rfl, rfl⟩ | ⟨rfl, rfl⟩
      · cases aliases_sample.symm.trans ha
        cases List.mem_singleton.1 hm
        exact Or.inr (Or.inl ⟨_, _, described, List.mem_singleton_self _, by decide, rfl⟩)
      · cases aliases_described.symm.trans ha
        cases aliases_described.symm.trans hb
        rcases List.mem_cons.1 hm with rfl | hm
        · have hid : sampleSetting.keywords.keyword? "@id" = some Keyword.id := by decide
          exact Or.inr (Or.inr fun r path L _ => faultless_of_ok
            (fields_keyword (by decide) hid (by decide) fields_nil))
        · cases List.mem_singleton.1 hm
          exact Or.inr (Or.inl ⟨⟨"urn:x:q", false⟩, none, .maxCount 1, by decide, by decide, rfl⟩)
  values := fun V D members V' D' item h hvalue => by
    obtain ⟨rfl, hmembers⟩ := describes_sample h
    obtain ⟨edge, name, json, hfield, hlookup, hitem⟩ := hvalue
    rcases hmembers with ⟨rfl, rfl⟩ | ⟨rfl, rfl⟩
    · obtain ⟨-, rfl, rfl, rfl⟩ := field_of_sample hfield
      cases hlookup
      cases List.mem_singleton.1 hitem
      refine ⟨fun _ _ _ => Iff.rfl, fun hlabels => absurd hlabels (by decide), ?_⟩
      intro _ _ path L ts L' hterms
      rcases terms_object hterms with ⟨r, rfl, hr⟩ | ⟨-, hliterals⟩
      · refine ⟨List.cons_ne_nil _ _, List.forall_mem_singleton.2 (Or.inr (Or.inr ?_))⟩
        exact ⟨sampleMembers, rfl, Or.inl hr⟩
      · exact absurd hliterals (by decide)
    · obtain ⟨-, rfl, rfl, rfl⟩ := field_of_described hfield
      refine ⟨fun _ _ _ => Iff.rfl, fun hlabels => absurd hlabels (by decide), ?_⟩
      rintro ⟨edge, label, inner, hpart⟩
      cases List.mem_singleton.1 hpart

/-- The graph of the sample has the one edge from each of the two resources. -/
theorem complete_sample (h : decode "urn:x:f" sampleShape sample .none M = .ok g) :
    Complete sampleSetting (member "p" described) sample M g := by
  have hdecode : decode "urn:x:f" sampleShape sample .none M = .ok (.ofList
      [⟨.iri "urn:x:f", .iri "urn:x:p", .iri "urn:x:x"⟩,
        ⟨.iri "urn:x:x", .iri "urn:x:q", .string "a"⟩]) := rfl
  rw [hdecode] at h
  cases h
  intro x hx edge label inner hpart u hu
  rw [Graph.mem_ofList] at hu
  rcases placed_sample hx with rfl | rfl | hleaf
  · cases List.mem_singleton.1 hpart
    have hvalue : u = .iri "urn:x:x" := by
      simpa [Edge.triple, focusPlace, sampleSetting] using hu
    refine ⟨samplePlace M, ⟨_, _, "p", ⟨"/p", .object sampleMembers, M⟩, _, rfl, rfl, ?_,
      aliases_sample, ?_, rfl, rfl, terms_sample, List.mem_singleton_self _⟩, hvalue.symm⟩
    · exact ⟨_, _, none, _, aliases_sample, aliases_sample, hpart, rfl, rfl, rfl⟩
    · exact stops_sample ▸ List.mem_singleton_self _
  · obtain ⟨rfl, rfl⟩ := field_part_of_described hpart
    have hvalue : u = .string "a" := by
      simpa [Edge.triple, samplePlace] using hu
    refine ⟨⟨.maxCount 1, .maxCount 1, "/p/q", .string "a", .string "a", M⟩,
      ⟨_, _, "q", ⟨"/p/q", .string "a", M⟩, [.string "a"], rfl, rfl, ?_, aliases_described, ?_,
        rfl, rfl, rfl, List.mem_singleton_self _⟩, hvalue.symm⟩
    · exact ⟨_, _, label, _, aliases_described, aliases_described, hpart, rfl, rfl, rfl⟩
    · have hstops : memberStops sampleSetting
          ⟨[("q", ⟨⟨"urn:x:q", false⟩, none, .maxCount 1⟩)]⟩ (.iri "urn:x:x") "/p" "q" M
          sampleMembers = [⟨"/p/q", .string "a", M⟩] := rfl
      exact hstops ▸ List.mem_singleton_self _
  · rw [hleaf] at hpart
    cases List.mem_singleton.1 hpart

theorem validation_agrees_sample : verdicts "urn:x:f" sampleShape sample .none = some (true, true) ∧
    Agrees "urn:x:f" sampleShape sample .none (.beyondJson sample) (.beyondJson sample) := by
  have hverdicts : verdicts "urn:x:f" sampleShape sample .none = some (true, true) := by
    decide +kernel
  have hsetting : Setting.of "urn:x:f" .none = sampleSetting := rfl
  have hfresh := Labels.freshFor_beyondJson sample
  refine ⟨hverdicts, validation_agrees hfresh hfresh (agrees_iff_of_verdicts hverdicts).1 ?_
    fun g hg => ?_⟩
  · rw [hsetting, drive_sampleShape]
    exact comparable_sample
  · rw [hsetting, drive_sampleShape]
    exact complete_sample hg

end Sample

/-- Validation and a scan are at odds over a description, without a defect of the shape. -/
def Disagrees (focus : String) (shape : Shape) (json : Json) (k : Keywords) : Prop :=
  ∃ L M : Labels, L.FreshFor json ∧ M.FreshFor json ∧ WithoutDefect focus shape json k L M ∧
    ¬ Agrees focus shape json k L M

theorem disagrees_of_verdicts (h : verdicts focus shape json k = some (v, !v)) :
    Disagrees focus shape json k := by
  obtain ⟨hd, hagrees⟩ := agrees_iff_of_verdicts h
  have hfresh := Labels.freshFor_beyondJson json
  refine ⟨_, _, hfresh, hfresh, hd, fun hsame => ?_⟩
  have heq : v = !v := hagrees.1 hsame
  cases v <;> cases heq

/-- What cannot be read is let through: the value of a keyword is not looked at, and a member that
is asked for in another alternative only is not read. Values that reading makes other terms of, and
texts, are not seen as reading sees them: two fields share an edge, and the other one has the
datatype of the value, or a name for the member; a literal stands where a resource may have
fields. -/
theorem validation_disagrees :
    Disagrees "urn:x:f" (member "p" (.maxCount 1)) (.object [("@type", .bool true)]) .none ∧
    Disagrees "urn:x:f" (.or [member "p" (.maxCount 1), member "q" (.maxCount 1)])
      (.object [("p", .string "a"), ("q", .array [.array []])]) .none ∧
    Disagrees "urn:x:f"
      (.and [member "p" (.datatype Xsd.date), member "p" (.anyOf [.term (.string "2020-01-01")])])
      (.object [("p", .string "2020-01-01")]) .none ∧
    Disagrees "urn:x:f"
      (.and [member "p" (member "q" (.maxCount 1)), member "p" (member "r" (.maxCount 1))])
      (.object [("p", .object [("q", .string "a"), ("r", .string "b")])]) .none ∧
    Disagrees "urn:x:f" (member "p" (.and [.datatype Abstract.literal, member "q" (.maxCount 1)]))
      (.object [("p", .bool true)]) .none := by
  have hwrongly : ∀ {shape json}, verdicts "urn:x:f" shape json .none = some (true, false) →
      Disagrees "urn:x:f" shape json .none := disagrees_of_verdicts
  have hneedlessly : ∀ {shape json}, verdicts "urn:x:f" shape json .none = some (false, true) →
      Disagrees "urn:x:f" shape json .none := disagrees_of_verdicts
  refine ⟨hwrongly ?_, hwrongly ?_, hwrongly ?_, hneedlessly ?_, hneedlessly ?_⟩
  all_goals decide +kernel

/-- Validation looks at one place at a time: a resource that is described at two of them has the
values of both in the graph. -/
theorem validation_disagrees_apart :
    Disagrees "urn:x:f" (member "p" (member "q" (.maxCount 1))) (.object [("p", .array
      [.object [("@id", .string "urn:x:x"), ("q", .string "a")],
        .object [("@id", .string "urn:x:x"), ("q", .string "b")]])]) .none :=
  disagrees_of_verdicts (v := true) (by decide +kernel)

end LinkedShapes.Description
