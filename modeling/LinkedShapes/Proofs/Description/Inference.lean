import LinkedShapes.Proofs.Description.Outcomes
import LinkedShapes.Proofs.Shape.Driver

/-!
# Expansion strengthens

What a shape demands of a group of values can be said without tables, traces and reports: `holds`
is the verdict of every scan that has an outcome. Constructors keep what their arguments demand, so
that the demands of a shape and of its expansion can be compared part by part. Tests are the
exception: a conditional with a stronger test turns to the other branch, so that its tests must be
as strong before expansion as after it.

* `Scans.eq_holds`: the verdict of a scan is `holds`.
* `holds_build`, `holds_cond`: what is built demands what it is built of.
* `holds_of_expand`: what holds of the expansion of a shape in normal form holds of the shape.
* `expansion_strengthens`: a group that a scan accepts against the expansion of a redacted shape is
  accepted against the shape.
-/

namespace LinkedShapes.Description

variable {s : Setting} {g : Graph} {terms : List Term} {shape test pass fail : Shape}
variable {shapes : List Shape} {a : Aliases} {k : Keywords} {b : Bool} {c : Connective}
variable {edge : Edge} {label : Option String}

/-! ## What a shape demands -/

mutual

/-- Does a group of terms meet all that a shape demands? -/
def holds (s : Setting) (g : Graph) : Shape → List Term → Bool
  | .and shapes, terms => allHold s g shapes terms
  | .or shapes, terms => anyHolds s g shapes terms
  | .when test pass fail, terms =>
    if holds s g test terms then holds s g pass terms else holds s g fail terms
  | .field edge _ shape, terms => terms.all fun t => holds s g shape (ends g edge t)
  | .link _ shape, terms => holds s g shape terms
  | shape, terms => (shape.check s.focus terms).toOption.any Trace.isEmpty

def allHold (s : Setting) (g : Graph) : List Shape → List Term → Bool
  | [], _ => true
  | shape :: shapes, terms => holds s g shape terms && allHold s g shapes terms

def anyHolds (s : Setting) (g : Graph) : List Shape → List Term → Bool
  | [], _ => false
  | shape :: shapes, terms => holds s g shape terms || anyHolds s g shapes terms

end

theorem holds_and : holds s g (.and shapes) terms = true ↔
    ∀ shape ∈ shapes, holds s g shape terms = true := by
  rw [holds]
  induction shapes with
  | nil => simp [allHold]
  | cons shape shapes ih => rw [allHold, Bool.and_eq_true, ih, List.forall_mem_cons]

theorem holds_or : holds s g (.or shapes) terms = true ↔
    ∃ shape ∈ shapes, holds s g shape terms = true := by
  rw [holds]
  induction shapes with
  | nil => simp [anyHolds]
  | cons shape shapes ih =>
    rw [anyHolds, Bool.or_eq_true, ih]
    simp only [List.mem_cons, exists_eq_or_imp]

theorem holds_field : holds s g (.field edge label shape) terms = true ↔
    ∀ t ∈ terms, holds s g shape (ends g edge t) = true := by
  rw [holds, List.all_eq_true]

theorem holds_leaf (hl : shape.isLeaf = true) :
    holds s g shape terms = (shape.check s.focus terms).toOption.any Trace.isEmpty := by
  cases shape <;> first | rfl | cases hl

/-- The verdict of a scan is whether all holds that the shape demands. -/
theorem Scans.eq_holds (h : Scans s g a terms shape b) : holds s g shape terms = b := by
  induction shape using Shape.induct generalizing a terms b with
  | and shapes ih =>
    cases b with
    | true => exact holds_and.2 fun shape hm => ih shape hm (h.of_and.1 rfl shape hm)
    | false =>
      obtain ⟨shape, hm, hfault⟩ := h.of_and.2 rfl
      rw [Bool.eq_false_iff, Ne, holds_and]
      exact fun hall => Bool.false_ne_true ((ih shape hm hfault).symm.trans (hall shape hm))
  | or shapes ih =>
    cases b with
    | true =>
      obtain ⟨shape, hm, hclean⟩ := h.of_or.1 rfl
      exact holds_or.2 ⟨shape, hm, ih shape hm hclean⟩
    | false =>
      rw [Bool.eq_false_iff, Ne, holds_or]
      rintro ⟨shape, hm, hclean⟩
      exact Bool.false_ne_true ((ih shape hm (h.of_or.2 rfl shape hm)).symm.trans hclean)
  | when test pass fail iht ihp ihf =>
    obtain ⟨c, htest, hbranch⟩ := h.of_when
    rw [holds, iht htest]
    cases c with
    | true => exact ihp hbranch
    | false => exact ihf hbranch
  | field edge label shape ih =>
    obtain ⟨name, -, hall, hany⟩ := h.of_field
    cases b with
    | true =>
      refine holds_field.2 fun t ht => ?_
      obtain ⟨table, -, hscan⟩ := hall rfl t ht
      exact ih hscan
    | false =>
      obtain ⟨t, ht, table, -, hscan⟩ := hany rfl
      rw [Bool.eq_false_iff, Ne, holds_field]
      exact fun hclean => Bool.false_ne_true ((ih hscan).symm.trans (hclean t ht))
  | link iri shape ih =>
    rw [holds]
    exact ih h.of_link
  | leaf shape hl =>
    obtain ⟨trace, hcheck, rfl⟩ := h.of_leaf hl
    rw [holds_leaf hl, hcheck]
    rfl

/-! ## What is built -/

/-- Is a property one of all of the shapes, or of any of them? -/
def Joins (c : Connective) (P : Shape → Prop) (shapes : List Shape) : Prop :=
  match c with
  | .all => ∀ shape ∈ shapes, P shape
  | .any => ∃ shape ∈ shapes, P shape

theorem joins_singleton {P : Shape → Prop} : Joins c P [shape] ↔ P shape := by
  cases c <;> simp [Joins]

theorem joins_eraseDups {P : Shape → Prop} : Joins c P shapes.eraseDups ↔ Joins c P shapes := by
  cases c <;> simp [Joins, List.mem_eraseDups]

theorem joins_flatMap {P : Shape → Prop} {f : Shape → List Shape} :
    Joins c P (shapes.flatMap f) ↔ Joins c (fun shape => Joins c P (f shape)) shapes := by
  cases c <;> simp only [Joins, List.mem_flatMap]
  · constructor
    · exact fun h x hx y hy => h y ⟨x, hx, hy⟩
    · rintro h y ⟨x, hx, hy⟩
      exact h x hx y hy
  · constructor
    · rintro ⟨y, ⟨x, hx, hy⟩, h⟩
      exact ⟨x, hx, y, hy, h⟩
    · rintro ⟨x, hx, y, hy, h⟩
      exact ⟨y, ⟨x, hx, hy⟩, h⟩

theorem holds_wrap : holds s g (c.wrap shapes) terms = true ↔
    Joins c (holds s g · terms = true) shapes := by
  cases c with
  | all => exact holds_and
  | any => exact holds_or

theorem holds_branches : Joins c (holds s g · terms = true) (c.branches shape) ↔
    holds s g shape terms = true := by
  by_cases hjoined : ∃ inner, shape = c.wrap inner
  · obtain ⟨inner, rfl⟩ := hjoined
    rw [Connective.branches_wrap, holds_wrap]
  · rw [Connective.branches_of_ne (not_exists.1 hjoined), joins_singleton]

/-- Joined shapes demand what the connective says, whatever is flattened and left out. -/
theorem holds_build : holds s g (c.build shapes) terms = true ↔
    Joins c (holds s g · terms = true) shapes := by
  have hclose : ∀ xs, holds s g (c.close xs) terms = true ↔
      Joins c (holds s g · terms = true) xs := by
    intro xs
    rcases Connective.close_cases c xs with ⟨x, rfl, heq⟩ | ⟨-, heq⟩
    · rw [heq, joins_singleton]
    · rw [heq, holds_wrap]
  rw [Connective.build_eq, hclose, joins_eraseDups, joins_flatMap]
  simp only [holds_branches]

theorem holds_conj : holds s g (.conj shapes) terms = true ↔
    ∀ shape ∈ shapes, holds s g shape terms = true :=
  holds_build (c := .all)

/-- A conditional that is built demands what its branch does. -/
theorem holds_cond : holds s g (.cond test pass fail) terms =
    if holds s g test terms then holds s g pass terms else holds s g fail terms := by
  rcases Shape.cond_cases test pass fail with ⟨rfl | rfl, heq⟩ | ⟨rfl, heq⟩ | ⟨-, heq⟩
  · rw [heq, if_pos (holds_and.2 fun _ h => absurd h List.not_mem_nil)]
  · rw [heq, ite_self]
  · rw [heq, if_neg fun h => ?_]
    obtain ⟨_, h, -⟩ := holds_or.1 h
    exact absurd h List.not_mem_nil
  · rw [heq, holds]

/-- The implied resources of a field only add to what its shape demands. -/
theorem holds_of_withResource (h : holds s g (.withResource edge shape) terms = true) :
    holds s g shape terms = true := by
  unfold Shape.withResource at h
  split at h
  · exact holds_conj.1 h shape List.mem_cons_self
  · exact h

/-! ## Expansion -/

/-- The tests within a shape are not strengthened by expansion: they hold afterwards wherever they
did. -/
def SteadyTests (s : Setting) (g : Graph) (shape : Shape) : Prop :=
  ∀ test pass fail, .when test pass fail ∈ shape.within →
    ∀ terms, holds s g test terms = true → holds s g test.expand terms = true

theorem SteadyTests.mono {inner : Shape} (h : SteadyTests s g shape)
    (hsub : inner.within ⊆ shape.within) : SteadyTests s g inner :=
  fun t p f hm => h t p f (hsub hm)

/-- Does expansion leave the tests within a shape alone? -/
def testsExpanded (shape : Shape) : Bool :=
  shape.within.all fun
    | .when test _ _ => decide (test.expand = test)
    | _ => true

theorem steadyTests_of_expanded (h : testsExpanded shape = true) : SteadyTests s g shape := by
  intro test pass fail hm terms htest
  have hsame : test.expand = test := of_decide_eq_true (List.all_eq_true.1 h _ hm)
  rwa [hsame]

/-- What holds of the expansion of a shape holds of the shape. -/
theorem holds_of_expand (hn : shape.Normal) (ht : SteadyTests s g shape)
    (h : holds s g shape.expand terms = true) : holds s g shape terms = true := by
  induction shape using Shape.induct generalizing terms with
  | and shapes ih =>
    rw [show (Shape.and shapes).expand = .conj (shapes.map Shape.expand) from
      Shape.expand_wrap (c := .all), holds_conj, List.forall_mem_map] at h
    obtain ⟨-, hall⟩ := Shape.normal_wrap.1 (show (Connective.all.wrap shapes).Normal from hn)
    exact holds_and.2 fun shape hm =>
      ih shape hm (hall shape hm) (ht.mono (Shape.ofLevel_and hm).within) (h shape hm)
  | or shapes ih =>
    rw [show (Shape.or shapes).expand = Connective.any.build (shapes.map Shape.expand) from
      Shape.expand_wrap (c := .any), holds_build] at h
    obtain ⟨-, hall⟩ := Shape.normal_wrap.1 (show (Connective.any.wrap shapes).Normal from hn)
    obtain ⟨x, hx, h⟩ := h
    obtain ⟨shape, hm, rfl⟩ := List.mem_map.1 hx
    exact holds_or.2 ⟨shape, hm,
      ih shape hm (hall shape hm) (ht.mono (Shape.ofLevel_or hm).within) h⟩
  | when test pass fail iht ihp ihf =>
    obtain ⟨-, hntest, hnpass, hnfail⟩ := Shape.normal_when.1 hn
    obtain ⟨hot, hop, hof⟩ := Shape.ofLevel_when test pass fail
    have htest : holds s g test.expand terms = holds s g test terms := by
      rw [Bool.eq_iff_iff]
      exact ⟨iht hntest (ht.mono hot.within), ht _ _ _ (Shape.self_mem_within _) terms⟩
    rw [show (Shape.when test pass fail).expand =
      .cond test.expand pass.expand fail.expand from rfl, holds_cond, htest] at h
    rw [holds]
    split at h
    · next hpass =>
      rw [if_pos hpass]
      exact ihp hnpass (ht.mono hop.within) h
    · next hfail =>
      rw [if_neg hfail]
      exact ihf hnfail (ht.mono hof.within) h
  | field edge label shape ih =>
    rw [Shape.expand_field hn, holds_field] at h
    exact holds_field.2 fun t hm =>
      ih hn.of_field (ht.mono (List.subset_cons_self _ _)) (holds_of_withResource (h t hm))
  | link iri shape ih =>
    rw [show (Shape.link iri shape).expand = .link iri shape.expand from rfl, holds] at h
    rw [holds]
    exact ih hn.of_link (ht.mono Shape.ofLevel_link.within) h
  | leaf shape hl =>
    rw [Shape.expand_eq_conj hl, holds_conj] at h
    exact h shape List.mem_cons_self

/-! ## Groups that scans accept -/

/-- Does a scan accept a group of terms against a shape? -/
def accepts (s : Setting) (g : Graph) (shape : Shape) (terms : List Term) : Bool :=
  let scanned := do scanGroup s g (← Aliases.ofShape shape s.keywords) terms shape
  scanned.toOption.any fun report => report.trace.isEmpty

theorem accepts_iff : accepts s g shape terms = true ↔
    ∃ a, Aliases.ofShape shape s.keywords = .ok a ∧ Scans s g a terms shape true := by
  unfold accepts Scans
  cases Aliases.ofShape shape s.keywords with
  | error e => simp [bind, Except.bind, Except.toOption]
  | ok a =>
    cases hscan : scanGroup s g a terms shape with
    | error e => simp [bind, Except.bind, Except.toOption, hscan]
    | ok report => simp [bind, Except.bind, Except.toOption, hscan]

/-- The patterns of a shape compile, and at every level there is a table with a name for each field,
those that tests look at included. -/
structure Resolved (k : Keywords) (shape : Shape) : Prop where
  patterns : ∀ expression flags, .pattern expression flags ∈ shape.within →
    ∃ p, Pattern.compile expression flags = .ok p
  table : ∃ a, Aliases.ofShape shape k = .ok a ∧ shape.Named a
  nested : ∀ edge label inner, .field edge label inner ∈ shape.within →
    ∃ a, Aliases.ofShape inner k = .ok a ∧ inner.Named a

/-- Has a level a table with a name for each of its fields? -/
def isNamed (k : Keywords) (shape : Shape) : Bool :=
  match Aliases.ofShape shape k with
  | .ok a => shape.parts.all fun
    | .field edge _ _ => (a.nameOf? edge).isSome
    | _ => true
  | .error _ => false

/-- Is a shape resolved? -/
def isResolved (k : Keywords) (shape : Shape) : Bool :=
  isNamed k shape && shape.within.all fun
    | .pattern expression flags => (Pattern.compile expression flags).isOk
    | .field _ _ inner => isNamed k inner
    | _ => true

theorem table_of_isNamed (h : isNamed k shape = true) :
    ∃ a, Aliases.ofShape shape k = .ok a ∧ shape.Named a := by
  unfold isNamed at h
  cases ha : Aliases.ofShape shape k with
  | error e =>
    rw [ha] at h
    cases h
  | ok a =>
    rw [ha] at h
    exact ⟨a, rfl, fun _ _ _ hf => Option.isSome_iff_exists.1 (List.all_eq_true.1 h _ hf)⟩

theorem resolved_of_isResolved (h : isResolved k shape = true) : Resolved k shape := by
  obtain ⟨htable, hall⟩ := Bool.and_eq_true_iff.1 h
  refine ⟨fun expression flags hm => ?_, table_of_isNamed htable, fun _ _ _ hm =>
    table_of_isNamed (List.all_eq_true.1 hall _ hm)⟩
  have hcompiles : (Pattern.compile expression flags).isOk = true := List.all_eq_true.1 hall _ hm
  cases hp : Pattern.compile expression flags with
  | error e =>
    rw [hp] at hcompiles
    cases hcompiles
  | ok p => exact ⟨p, rfl⟩

theorem Resolved.sound (h : Resolved k (shape.redact .conveying)) :
    (shape.redact .conveying).Sound k where
  guards := Shape.guard_not_mem_conveyed
  patterns := h.patterns
  tables := h.nested

/-- Inference only strengthens: what is accepted with the implied constraints made explicit is
accepted without them, unless they strengthen a test. -/
theorem expansion_strengthens {focus : String} (hr : Resolved k (shape.redact .conveying))
    (ht : SteadyTests (.of focus k) g (shape.redact .conveying))
    (h : accepts (.of focus k) g (shape.redact .conveying).expand terms = true) :
    accepts (.of focus k) g (shape.redact .conveying) terms = true := by
  obtain ⟨b, -, hexpanded⟩ := accepts_iff.1 h
  obtain ⟨a, ha, hnamed⟩ := hr.table
  have hok : ∃ report, scanGroup (.of focus k) g a terms (shape.redact .conveying) = .ok report :=
    scanGroup_ok hr.sound hnamed
  obtain ⟨report, hreport⟩ := hok
  refine accepts_iff.2 ⟨a, ha, report, hreport, ?_⟩
  have hverdict : Scans (.of focus k) g a terms (shape.redact .conveying) report.trace.isEmpty :=
    ⟨report, hreport, rfl⟩
  rw [← hverdict.eq_holds]
  exact holds_of_expand (Shape.normal_redact _ shape) ht hexpanded.eq_holds

/-! ## Three scans -/

open Vocabulary

/-- A field that is for conveying only, with a test that expansion leaves alone. -/
def conveyedField : Shape :=
  .and [.when Shape.filterMode (.or [])
    (.field ⟨"urn:x:p", false⟩ none (.when (.minCount 2) (.maxCount 2) (.datatype Xsd.boolean)))]

theorem expansion_strengthens_conveyed :
    let r := conveyedField.redact .conveying
    let g : Graph := .ofList [⟨.iri "urn:x:f", .iri "urn:x:p", .boolean true⟩]
    Resolved .none r ∧ SteadyTests (.of "urn:x:f" .none) g r ∧
      accepts (.of "urn:x:f" .none) g r.expand [.iri "urn:x:f"] = true ∧
      accepts (.of "urn:x:f" .none) g r [.iri "urn:x:f"] = true := by
  intro r g
  have hresolved : Resolved .none r := resolved_of_isResolved (by decide +kernel)
  have hsteady : SteadyTests (.of "urn:x:f" .none) g r :=
    steadyTests_of_expanded (by decide +kernel)
  have hexpanded : accepts (.of "urn:x:f" .none) g r.expand [.iri "urn:x:f"] = true := by
    decide +kernel
  exact ⟨hresolved, hsteady, hexpanded, expansion_strengthens hresolved hsteady hexpanded⟩

/-- Where a test is strengthened, another branch may accept the group, and where branches become
equal, the fields of the test need no name any more. -/
theorem expansion_weakens :
    (let r : Shape := .field ⟨"urn:x:p", false⟩ none
        (.when (.datatype Xsd.boolean) (.maxCount 0) (.and []))
      let g : Graph := .ofList [⟨.iri "urn:x:f", .iri "urn:x:p", .boolean true⟩,
        ⟨.iri "urn:x:f", .iri "urn:x:p", .boolean false⟩]
      r.redact .conveying = r ∧ Resolved .none r ∧
        accepts (.of "urn:x:f" .none) g r.expand [.iri "urn:x:f"] = true ∧
        accepts (.of "urn:x:f" .none) g r [.iri "urn:x:f"] = false) ∧
    (let one := Shape.anyOf [.focus ""]
      let r : Shape := .when (.field ⟨"urn:x:p", false⟩ none (.and [])) one
        (.and [one, .minCount 1])
      r.redact .conveying = r ∧ tablesClosed .none [r, .and []] = true ∧
        SteadyTests (.of "urn:x:f" .none) .empty r ∧
        accepts (.of "urn:x:f" .none) .empty r.expand [.iri "urn:x:f"] = true ∧
        accepts (.of "urn:x:f" .none) .empty r [.iri "urn:x:f"] = false) := by
  refine ⟨⟨by decide +kernel, resolved_of_isResolved (by decide +kernel), by decide +kernel,
    by decide +kernel⟩, by decide +kernel, by decide +kernel,
    steadyTests_of_expanded (by decide +kernel), by decide +kernel, by decide +kernel⟩

end LinkedShapes.Description
