import LinkedShapes.Proofs.Description.Inference

/-!
# Defects of names

Validation and scans ask an alias table for the name of every field they walk over. Tables list
the fields of a level except those in the tests of conditionals, which are walked over like the
others. `addressed_without_defects` says that this is the only gap: where each table also has a
name for the fields in tests, no description and no graph brings up a defect of names.
`test_without_name` has a shape with a table at every level, and a field in a test without a name.

* `Raises`: all errors of a computation have a property. Steps that raise no other errors make
  computations that raise no others.
* `raises_termsOfValue`: reading the terms of a value raises no defect if its shape has a table.
* `raises_validateGroup`, `raises_scanGroup`: walking over a shape goes wrong in the ways that
  `Permits` says, which are no defects of names where all fields have one (`Covered.permits`).
-/

namespace LinkedShapes

/-! ## Errors of computations -/

section Raises

variable {ε σ α β : Type} {P : ε → Prop}

/-- All errors of a computation have a property. -/
def Raises (P : ε → Prop) (m : Except ε α) : Prop := ∀ e, m = .error e → P e

theorem raises_ok {m : Except ε α} {x : α} (h : m = .ok x) : Raises P m := by
  rintro e rfl
  cases h

theorem raises_error {e : ε} (h : P e) : Raises P (.error e : Except ε α) := by
  rintro e' ⟨⟩
  exact h

theorem Raises.mono {Q : ε → Prop} {m : Except ε α} (h : Raises P m) (hpq : ∀ e, P e → Q e) :
    Raises Q m :=
  fun e he => hpq e (h e he)

theorem Raises.bind {m : Except ε α} {f : α → Except ε β} (h : Raises P m)
    (hf : ∀ x, m = .ok x → Raises P (f x)) : Raises P (m >>= f) := by
  intro e he
  cases hm : m with
  | error e' =>
    rw [hm] at he
    cases he
    exact h e hm
  | ok x =>
    rw [hm] at he
    exact hf x hm e he

/-- The same for computations with a state. -/
theorem Raises.run_bind {m : StateT σ (Except ε) α} {f : α → StateT σ (Except ε) β} {S : σ}
    (h : Raises P (m S)) (hf : ∀ x S', m S = .ok (x, S') → Raises P (f x S')) :
    Raises P ((m >>= f) S) :=
  Raises.bind (m := m S) (f := fun p => f p.1 p.2) h fun p hp => hf p.1 p.2 hp

theorem Raises.run_lift {m : Except ε α} {S : σ} (h : Raises P m) :
    Raises P ((liftM m : StateT σ (Except ε) α) S) :=
  Raises.bind (m := m) (f := fun x => .ok (x, S)) h fun _ _ => raises_ok rfl

theorem Raises.map {m : Except ε α} {f : α → β} (h : Raises P m) : Raises P (m.map f) := by
  intro e he
  cases m with
  | error e' =>
    cases he
    exact h e rfl
  | ok x => cases he

theorem Raises.mapError {δ : Type} {Q : δ → Prop} {m : Except ε α} {f : ε → δ} (h : Raises P m)
    (hf : ∀ e, P e → Q (f e)) : Raises Q (m.mapError f) := by
  intro e he
  cases m with
  | error e' =>
    cases he
    exact hf e' (h e' rfl)
  | ok x => cases he

theorem raises_mapM {f : α → Except ε β} {xs : List α} (h : ∀ x ∈ xs, Raises P (f x)) :
    Raises P (xs.mapM f) := by
  induction xs with
  | nil => exact raises_ok rfl
  | cons x xs ih =>
    obtain ⟨hx, hxs⟩ := List.forall_mem_cons.1 h
    rw [List.mapM_cons]
    exact hx.bind fun y _ => (ih hxs).bind fun ys _ => raises_ok rfl

theorem raises_foldlM {f : β → α → Except ε β} {xs : List α} {start : β}
    (h : ∀ x ∈ xs, ∀ y, Raises P (f y x)) : Raises P (xs.foldlM f start) := by
  induction xs generalizing start with
  | nil => exact raises_ok rfl
  | cons x xs ih =>
    obtain ⟨hx, hxs⟩ := List.forall_mem_cons.1 h
    rw [List.foldlM_cons]
    exact (hx start).bind fun y _ => ih hxs

theorem raises_run_foldlM {f : β → α → StateT σ (Except ε) β} {xs : List α} {start : β} {S : σ}
    (h : ∀ x ∈ xs, ∀ y S, Raises P (f y x S)) : Raises P (xs.foldlM f start S) := by
  induction xs generalizing start S with
  | nil => exact raises_ok rfl
  | cons x xs ih =>
    obtain ⟨hx, hxs⟩ := List.forall_mem_cons.1 h
    rw [List.foldlM_cons]
    exact (hx start S).run_bind fun y S' _ => ih hxs

end Raises

/-- Is a defect one of the names of fields? -/
def ShapeError.isNaming : ShapeError → Bool
  | .malformedAlias .. | .reservedAlias .. | .clashingAliases .. | .multipleAliases ..
  | .undefinedAlias .. => true
  | _ => false

/-- Is a defect one of the names of keywords? -/
def ShapeError.isOfKeywords : ShapeError → Bool
  | .unknownKeyword _ | .malformedKeywordAlias .. | .conflictingKeywordAliases .. => true
  | _ => false

namespace Description

open Vocabulary

variable {s : Setting} {shape inner : Shape} {shapes : List Shape} {a b : Aliases}
variable {P : ShapeError → Prop}
variable {path name : String} {L : Labels} {json : Json} {members found : List (String × Json)}
variable {terms : List Term} {values : List Json} {g : Graph} {k : Keywords}

/-! ## Reading terms -/

/-- The errors that are no defects of the shape. -/
abbrev OwnFault (fault : DecodeError) : Prop := fault.isFatal = false

theorem raises_keywordText {keyword : String} : Raises OwnFault (keywordText keyword json) := by
  unfold keywordText
  split
  · exact raises_ok rfl
  · exact raises_error rfl

theorem raises_blankOf {id : String} : Raises OwnFault (blankOf id L) := by
  unfold blankOf
  split <;> exact raises_ok rfl

theorem raises_resource {id : String} : Raises OwnFault (resource s id L) := by
  unfold resource
  split
  · exact raises_blankOf
  · exact raises_ok rfl

theorem TextReading.raises {text : String} {m : Decoding Term}
    (hm : TextReading s shape text m) : Raises OwnFault (m L) := by
  cases hm with
  | label => exact raises_blankOf
  | resource => exact raises_resource
  | untagged _ => exact raises_error rfl
  | iri | tagged _ | typed _ _ | plain => exact raises_ok rfl

theorem raises_namedResource : Raises OwnFault (namedResource s found L) := by
  unfold namedResource
  cases Json.lookup Keyword.id found with
  | none => exact raises_ok rfl
  | some id => exact raises_keywordText.run_lift.run_bind fun _ _ _ => raises_resource

theorem raises_declaredAfter : Raises OwnFault (declaredAfter s a found members) := by
  induction members generalizing found with
  | nil => exact raises_ok rfl
  | cons m members ih =>
    rw [declaredAfter]
    split
    · exact ih
    · split
      · exact ih
      · split
        · exact ih
        · exact raises_error rfl

theorem raises_taggedTexts : Raises OwnFault (taggedTexts path members) := by
  induction members with
  | nil => exact raises_ok rfl
  | cons m members ih =>
    obtain ⟨lang, value⟩ := m
    cases value with
    | string text | null => exact ih.bind fun _ _ => raises_ok rfl
    | bool _ | number _ | object _ => exact raises_error rfl
    | array texts =>
      rw [taggedTexts]
      refine Raises.bind (raises_mapM fun text _ => ?_) fun _ _ => ih.bind fun _ _ => raises_ok rfl
      cases text <;> first | exact raises_ok rfl | exact raises_error rfl

theorem raises_valueObject : Raises OwnFault (valueObject s shape members found json path) := by
  unfold valueObject
  cases members.find? fun m => (s.keywords.keyword? m.1).isNone with
  | some m =>
    dsimp only
    exact raises_error rfl
  | none =>
    dsimp only
    cases json with
    | null | array _ | object _ => exact raises_error rfl
    | string _ | bool _ | number _ =>
      refine Raises.bind (raises_ok rfl) fun lexical _ => ?_
      cases Json.lookup Keyword.type found with
      | some type => exact raises_keywordText.bind fun _ _ => raises_ok rfl
      | none =>
        cases Json.lookup Keyword.language found with
        | some language => exact raises_keywordText.bind fun _ _ => raises_ok rfl
        | none => exact raises_ok rfl

theorem raises_literals : Raises OwnFault (literals s shape members found path) := by
  cases hv : Json.lookup Keyword.value found with
  | none =>
    rw [literals_of_tagged hv]
    exact raises_taggedTexts
  | some value =>
    rw [literals_of_value hv]
    exact raises_valueObject.map

/-- Reading the terms of a value goes wrong like making the table of its shape does, or in a way
that is no defect. -/
theorem raises_termsOfValue {Q : DecodeError → Prop} (hown : ∀ fault, OwnFault fault → Q fault)
    (ht : Raises Q (aliasesOf s shape)) : Raises Q (termsOfValue s shape path json L) := by
  have hvalue : ∀ m : Decoding (List Described), Raises OwnFault (m L) →
      Raises Q ((m >>= fun vs => pure (vs.map (·.1))) L) :=
    fun m hm => (hm.mono hown).run_bind fun _ _ _ => raises_ok rfl
  cases json with
  | object members =>
    -- the table is made first, and the keywords are read before there are terms
    cases ha : aliasesOf s shape with
    | error fault =>
      have hterms : termsOfValue s shape path (.object members) L = .error fault := by
        unfold termsOfValue subject?
        rw [ha]
        rfl
      exact hterms ▸ raises_error (ht fault ha)
    | ok a =>
      have htable := ok_of_aliasesOf ha
      cases hd : declared s a members with
      | error fault =>
        have hterms : termsOfValue s shape path (.object members) L = .error fault := by
          refine bind_of_error ?_
          unfold subject?
          rw [bind_of_ok (lift_of_ok ha), hd]
          rfl
        exact hterms ▸ raises_error (hown fault (raises_declaredAfter fault hd))
      | ok found =>
        rw [termsOfValue_object htable hd]
        refine Raises.mono ?_ hown
        split
        · exact raises_literals.run_lift
        · exact raises_namedResource.run_bind fun _ _ _ => raises_ok rfl
  | null | bool _ | number _ =>
    refine hvalue _ ?_
    rw [value]
    exact raises_ok rfl
  | string text =>
    refine hvalue _ ?_
    rw [value]
    exact (textReading s shape text).raises.run_bind fun _ _ _ => raises_ok rfl
  | array xs =>
    refine hvalue _ ?_
    rw [value]
    exact raises_error rfl

/-- Reading the terms of a value raises no defect if its shape has a table. -/
theorem raises_termsOfValue_of_table (ha : Aliases.ofShape shape s.keywords = .ok a) :
    Raises OwnFault (termsOfValue s shape path json L) :=
  raises_termsOfValue (fun _ h => h) (raises_ok (aliasesOf_of_ok ha))

/-- The defects that are not about the names of fields. -/
abbrev NotNaming (defect : ShapeError) : Prop := defect.isNaming = false

/-! ## Validation and scans -/

/-- A table has a name for each field of a level that is walked over, and so have the tables of the
levels below. -/
structure Covered (k : Keywords) (a : Aliases) (shape : Shape) : Prop where
  named : shape.Named a
  nested : ∀ edge label inner, .field edge label inner ∈ shape.within →
    ∃ b, Aliases.ofShape inner k = .ok b ∧ inner.Named b

/-- Reading that brings up no defect can be attempted. -/
theorem attempt_total {α : Type} {reading : Decoding α} (h : Raises OwnFault (reading L)) :
    ∃ found L', attempt reading L = .ok (found, L') := by
  unfold attempt
  cases hr : reading L with
  | ok p => exact ⟨_, _, rfl⟩
  | error fault =>
    have hfault := h fault hr
    cases fault with
    | shape defect => cases hfault
    | _ => exact ⟨_, _, rfl⟩

/-- The terms of values are found if their shape has a table. -/
theorem termsOfGroup_total (ha : Aliases.ofShape shape s.keywords = .ok a) {index : Nat}
    {issues : List String} :
    ∃ found L', termsOfGroup s shape path index terms issues values L = .ok (found, L') := by
  induction values generalizing index terms issues L with
  | nil => exact ⟨_, L, rfl⟩
  | cons json values ih =>
    obtain ⟨found, L', hfound⟩ : ∃ found L',
        attempt (termsOfValue s shape (path ++ "/" ++ toString index) json) L = .ok (found, L') :=
      attempt_total (raises_termsOfValue_of_table ha)
    rw [termsOfGroup, bind_of_ok hfound]
    cases found with
    | ok found => exact ih
    | error fault => exact ih

theorem raises_check {focus : String} : Raises NotNaming (shape.check focus terms) := by
  cases shape with
  | guard g => exact raises_error rfl
  | pattern expression flags =>
    unfold Shape.check
    refine Raises.bind ?_ fun _ _ => raises_ok rfl
    cases Pattern.compile expression flags with
    | ok p => exact raises_ok rfl
    | error fault => exact raises_error rfl
  | _ => exact raises_ok rfl

theorem fieldAlias_of_nameOf? {edge : Edge} (h : a.nameOf? edge = some name) :
    fieldAlias a edge = .ok name := by
  unfold fieldAlias
  rw [h]

/-- What can go wrong where a shape is walked over goes wrong in the ways of `P`: where the fields
of its level get their names, where the tables below are made and used, where values are read by
the shapes of fields, and where they are checked. -/
structure Permits (P : ShapeError → Prop) (s : Setting) (a : Aliases) (shape : Shape) : Prop where
  named : ∀ edge label inner, .field edge label inner ∈ shape.parts → Raises P (fieldAlias a edge)
  tables : ∀ edge label inner, .field edge label inner ∈ shape.within →
    Raises P (Aliases.ofShape inner s.keywords)
  nested : ∀ edge label inner b, .field edge label inner ∈ shape.within →
    Aliases.ofShape inner s.keywords = .ok b → ∀ edge' label' inner',
      .field edge' label' inner' ∈ inner.parts → Raises P (fieldAlias b edge')
  read : ∀ edge label inner, .field edge label inner ∈ shape.within →
    ∀ path json L, Raises P (attempt (termsOfValue s inner path json) L)
  checked : ∀ leaf ∈ shape.within, leaf.isLeaf = true →
    ∀ terms, Raises P (leaf.check s.focus terms)

theorem Permits.ofLevel (h : Permits P s a shape) (hi : inner.OfLevel shape) :
    Permits P s a inner where
  named := fun edge label s hf => h.named edge label s (hi.parts hf)
  tables := fun edge label s hf => h.tables edge label s (hi.within hf)
  nested := fun edge label s b hf => h.nested edge label s b (hi.within hf)
  read := fun edge label s hf => h.read edge label s (hi.within hf)
  checked := fun leaf hm => h.checked leaf (hi.within hm)

/-- The shape of a field is walked over with the table of its own. -/
theorem Permits.field {edge : Edge} {label : Option String}
    (h : Permits P s a (.field edge label inner)) (ha : Aliases.ofShape inner s.keywords = .ok b) :
    Permits P s b inner where
  named := h.nested edge label inner b (Shape.self_mem_within _) ha
  tables := fun edge label s hf => h.tables edge label s (List.mem_cons_of_mem _ hf)
  nested := fun edge label s b hf => h.nested edge label s b (List.mem_cons_of_mem _ hf)
  read := fun edge label s hf => h.read edge label s (List.mem_cons_of_mem _ hf)
  checked := fun leaf hm => h.checked leaf (List.mem_cons_of_mem _ hm)

theorem Covered.permits (h : Covered s.keywords a shape) : Permits NotNaming s a shape where
  named := fun edge label inner hf => by
    obtain ⟨name, hname⟩ := h.named edge label inner hf
    exact raises_ok (fieldAlias_of_nameOf? hname)
  tables := fun edge label inner hf => by
    obtain ⟨b, hb, -⟩ := h.nested edge label inner hf
    exact raises_ok hb
  nested := fun edge label inner b hf hb edge' label' inner' hf' => by
    obtain ⟨c, hc, hnamed⟩ := h.nested edge label inner hf
    rw [hb] at hc
    cases hc
    obtain ⟨name, hname⟩ := hnamed edge' label' inner' hf'
    exact raises_ok (fieldAlias_of_nameOf? hname)
  read := fun edge label inner hf path json L => by
    obtain ⟨b, hb, -⟩ := h.nested edge label inner hf
    have hread : Raises OwnFault (termsOfValue s inner path json L) :=
      raises_termsOfValue_of_table hb
    obtain ⟨found, L', hfound⟩ := attempt_total hread
    exact raises_ok hfound
  checked := fun _ _ _ _ => raises_check

theorem raises_termsOfGroup {index : Nat} {issues : List String}
    (h : ∀ path json L, Raises P (attempt (termsOfValue s shape path json) L)) :
    Raises P (termsOfGroup s shape path index terms issues values L) := by
  induction values generalizing index terms issues L with
  | nil => exact raises_ok rfl
  | cons json values ih =>
    rw [termsOfGroup]
    refine (h _ json L).run_bind fun found L' _ => ?_
    cases found with
    | ok found => exact ih
    | error fault => exact ih

theorem raises_memberStep {trace : Trace}
    (hread : ∀ path json L, Raises P (attempt (termsOfValue s shape path json) L))
    (htable : Raises P (Aliases.ofShape shape s.keywords))
    (h : ∀ a, Aliases.ofShape shape s.keywords = .ok a → ∀ values terms L,
      Raises P (validateGroup s a values terms shape L)) :
    Raises P (memberStep s name shape trace json L) := by
  by_cases hnull : json = .null
  · subst hnull
    exact raises_ok rfl
  rw [memberStep_of_ne_null hnull]
  cases memberValues name json with
  | error issue => exact raises_ok rfl
  | ok nested =>
    refine Raises.run_bind (raises_termsOfGroup hread) fun found L₁ _ => ?_
    refine htable.run_lift.run_bind fun a L₂ ha => ?_
    exact (h a (ok_of_run_lift ha).1 nested found.1 L₂).run_bind fun _ _ _ => raises_ok rfl

theorem raises_validateAll {trace : Trace}
    (h : ∀ shape ∈ shapes, ∀ L, Raises P (validateGroup s a values terms shape L)) :
    Raises P (validateAll s a values terms trace shapes L) := by
  induction shapes generalizing trace L with
  | nil => exact raises_ok rfl
  | cons shape shapes ih =>
    obtain ⟨hshape, hshapes⟩ := List.forall_mem_cons.1 h
    rw [validateAll]
    exact (hshape L).run_bind fun _ _ _ => ih hshapes

theorem raises_validateAny
    (h : ∀ shape ∈ shapes, ∀ L, Raises P (validateGroup s a values terms shape L)) :
    Raises P (validateAny s a values terms shapes L) := by
  induction shapes generalizing L with
  | nil => exact raises_ok rfl
  | cons shape shapes ih =>
    obtain ⟨hshape, hshapes⟩ := List.forall_mem_cons.1 h
    rw [validateAny]
    refine (hshape L).run_bind fun found L' _ => ?_
    split
    · exact raises_ok rfl
    · exact ih hshapes

/-- Validation of a group goes wrong in the ways that its shape permits. -/
theorem raises_validateGroup (h : Permits P s a shape) :
    Raises P (validateGroup s a values terms shape L) := by
  induction shape using Shape.induct generalizing a values terms L with
  | and shapes ih =>
    rw [validateGroup]
    exact raises_validateAll fun shape hm _ => ih shape hm (h.ofLevel (Shape.ofLevel_and hm))
  | or shapes ih =>
    rw [validateGroup]
    exact raises_validateAny fun shape hm _ => ih shape hm (h.ofLevel (Shape.ofLevel_or hm))
  | when test pass fail iht ihp ihf =>
    obtain ⟨ht, hp, hf⟩ := Shape.ofLevel_when test pass fail
    rw [validateGroup]
    refine (iht (h.ofLevel ht)).run_bind fun tested L' _ => ?_
    split
    · exact ihp (h.ofLevel hp)
    · exact ihf (h.ofLevel hf)
  | field edge label inner ih =>
    have hself := Shape.self_mem_within (.field edge label inner)
    rw [validateGroup_field_eq]
    refine (h.named edge label inner (List.mem_singleton_self _)).run_lift.run_bind
      fun name L' _ => ?_
    exact raises_run_foldlM fun json _ trace L => raises_memberStep
      (h.read edge label inner hself) (h.tables edge label inner hself)
      fun b hb _ _ _ => ih (h.field hb)
  | link iri inner ih =>
    rw [validateGroup_link]
    exact ih (h.ofLevel Shape.ofLevel_link)
  | leaf shape hl =>
    rw [validateGroup_leaf_eq hl]
    exact (h.checked shape (Shape.self_mem_within shape) hl terms).run_lift

theorem raises_scanAll
    (h : ∀ shape ∈ shapes, Raises P (scanGroup s g a terms shape)) :
    Raises P (scanAll s g a terms shapes) := by
  induction shapes with
  | nil => exact raises_ok rfl
  | cons shape shapes ih =>
    obtain ⟨hshape, hshapes⟩ := List.forall_mem_cons.1 h
    rw [scanAll]
    exact hshape.bind fun _ _ => (ih hshapes).bind fun _ _ => raises_ok rfl

/-- A scan of a group goes wrong in the ways that its shape permits. -/
theorem raises_scanGroup (h : Permits P s a shape) :
    Raises P (scanGroup s g a terms shape) := by
  induction shape using Shape.induct generalizing a terms with
  | and shapes ih =>
    rw [scanGroup]
    refine Raises.bind ?_ fun _ _ => raises_ok rfl
    exact raises_scanAll fun shape hm => ih shape hm (h.ofLevel (Shape.ofLevel_and hm))
  | or shapes ih =>
    rw [scanGroup]
    refine Raises.bind ?_ fun _ _ => raises_ok rfl
    exact raises_scanAll fun shape hm => ih shape hm (h.ofLevel (Shape.ofLevel_or hm))
  | when test pass fail iht ihp ihf =>
    obtain ⟨ht, hp, hf⟩ := Shape.ofLevel_when test pass fail
    rw [scanGroup]
    refine (iht (h.ofLevel ht)).bind fun tested _ => ?_
    split
    · exact ihp (h.ofLevel hp)
    · exact ihf (h.ofLevel hf)
  | field edge label inner ih =>
    have hself := Shape.self_mem_within (.field edge label inner)
    rw [scanGroup]
    refine (h.named edge label inner (List.mem_singleton_self _)).bind fun name _ => ?_
    refine raises_foldlM fun source _ report => ?_
    refine (h.tables edge label inner hself).bind fun b hb => ?_
    exact (ih (h.field hb)).bind fun _ _ => raises_ok rfl
  | link iri inner ih =>
    rw [scanGroup_link]
    exact ih (h.ofLevel Shape.ofLevel_link)
  | leaf shape hl =>
    have hcheck : Raises P (do return ⟨← shape.check s.focus terms, .empty⟩ :
        Except ShapeError Report) :=
      (h.checked shape (Shape.self_mem_within shape) hl terms).bind fun _ _ => raises_ok rfl
    cases shape <;> first | exact hcheck | cases hl

/-! ## Operations -/

/-- The description of the focus begins in a wrong way like its table does, or in a way that is no
defect. -/
theorem raises_root {Q : DecodeError → Prop} (hown : ∀ fault, OwnFault fault → Q fault)
    (ht : Raises Q (aliasesOf s shape)) : Raises Q (root s shape json) := by
  cases json with
  | object members =>
    refine ht.bind fun b _ => Raises.mono ?_ hown
    refine Raises.bind raises_declaredAfter fun found _ => ?_
    cases Json.lookup Keyword.id found with
    | none => exact raises_ok rfl
    | some id =>
      refine raises_keywordText.bind fun text _ => ?_
      dsimp only
      split
      · exact raises_error rfl
      · exact raises_ok rfl
  | _ => exact raises_error (hown _ rfl)

theorem raises_keywords : Raises (·.isOfKeywords = true) k.check := by
  have hall : ∀ overrides seen,
      Raises (·.isOfKeywords = true) (Keywords.checkAll seen overrides) := by
    intro overrides
    induction overrides with
    | nil => exact fun _ => raises_ok rfl
    | cons o overrides ih =>
      intro seen
      rw [Keywords.checkAll]
      split
      · exact raises_error rfl
      · split
        · exact raises_error rfl
        · split
          · exact raises_error rfl
          · exact ih _
  exact hall k.overrides []

theorem raises_prepare : Raises NotNaming (prepare shape k) := by
  have hkeywords : Raises NotNaming k.check :=
    raises_keywords.mono fun defect h => by cases defect <;> first | rfl | cases h
  refine hkeywords.bind fun _ _ => Raises.bind ?_ fun _ _ => raises_ok rfl
  unfold Shape.checkRedacted
  split
  · exact raises_error rfl
  · exact raises_ok rfl

/-- A shape has a table, with a name for each field that is walked over, and so have the shapes
of all fields in it. -/
def Addressed (k : Keywords) (shape : Shape) : Prop :=
  ∃ a, Aliases.ofShape shape k = .ok a ∧ Covered k a shape

/-- Are all fields named that are walked over? -/
def isAddressed (k : Keywords) (shape : Shape) : Bool :=
  isNamed k shape && shape.within.all fun
    | .field _ _ inner => isNamed k inner
    | _ => true

theorem addressed_of_isAddressed (h : isAddressed k shape = true) : Addressed k shape := by
  obtain ⟨htable, hall⟩ := Bool.and_eq_true_iff.1 h
  obtain ⟨a, ha, hnamed⟩ := table_of_isNamed htable
  exact ⟨a, ha, hnamed, fun _ _ _ hf => table_of_isNamed (List.all_eq_true.1 hall _ hf)⟩

/-- Where a shape has a table, validation goes on whether or not a description is one of the
focus. -/
theorem validateFocus_eq (ha : Aliases.ofShape shape s.keywords = .ok a) (json : Json) :
    ∃ issues : Trace, issues.Tidy ∧ (issues.isEmpty = true ↔ ∃ p, root s shape json = .ok p) ∧
      ∀ L, validateFocus s shape json L = (do
        let found ← validateGroup s a [json] [.iri s.focus] shape
        return (issues.merge found).merge (unexpectedMembers s a shape [json]) :
      Validating Trace) L := by
  have hrest : ∀ (issues : Trace) L, (do
        let aliases ← Aliases.ofShape shape s.keywords
        let found ← validateGroup s aliases [json] [.iri s.focus] shape
        return (issues.merge found).merge (unexpectedMembers s aliases shape [json]) :
      Validating Trace) L = (do
        let found ← validateGroup s a [json] [.iri s.focus] shape
        return (issues.merge found).merge (unexpectedMembers s a shape [json]) :
      Validating Trace) L := fun issues L => bind_of_ok (lift_of_ok ha)
  unfold validateFocus
  cases hr : root s shape json with
  | ok p => exact ⟨.empty, Trace.tidy_empty, iff_of_true rfl ⟨p, rfl⟩, hrest _⟩
  | error fault =>
    have htable : Raises OwnFault (aliasesOf s shape) := raises_ok (aliasesOf_of_ok ha)
    have hfault := raises_root (fun _ h => h) htable fault hr
    cases fault with
    | shape defect => cases hfault
    | _ =>
      refine ⟨.issue _, Trace.tidy_ofIssues, iff_of_false ?_ nofun, hrest _⟩
      rw [Trace.isEmpty_issue]
      exact Bool.false_ne_true

theorem raises_validateFocus (h : Addressed s.keywords shape) :
    Raises NotNaming (validateFocus s shape json L) := by
  obtain ⟨a, ha, hcovered⟩ := h
  obtain ⟨issues, -, -, heq⟩ := validateFocus_eq ha json
  rw [heq]
  exact (raises_validateGroup hcovered.permits).run_bind fun _ _ _ => raises_ok rfl

/-- Where every field that is walked over has a name, no description and no graph brings up a
defect of names. -/
theorem addressed_without_defects (h : Addressed k shape.drive) (focus : String) :
    (∀ json labels defect,
      validate focus shape json k labels = .error defect → defect.isNaming = false) ∧
      ∀ g defect, scan focus shape g k = .error defect → defect.isNaming = false := by
  constructor
  · intro json labels
    refine raises_prepare.bind fun driver hd => ?_
    obtain ⟨rfl, -⟩ := prepare_ok hd
    exact Raises.bind (raises_validateFocus h) fun _ _ => raises_ok rfl
  · intro g
    refine raises_prepare.bind fun driver hd => ?_
    obtain ⟨rfl, -⟩ := prepare_ok hd
    obtain ⟨a, ha, hcovered⟩ := h
    refine (raises_ok ha).bind fun b hb => ?_
    rw [ha] at hb
    cases hb
    exact (raises_scanGroup hcovered.permits).bind fun _ _ => raises_ok rfl

/-- A field that is tested is also listed elsewhere at its level. -/
def testedField : Shape :=
  .and [.field ⟨"urn:x:p", false⟩ none (.pattern "(" ""),
    .when (.field ⟨"urn:x:p", false⟩ none (.minCount 1)) (.minCount 2) (.and [])]

theorem addressed_without_defects_tested :
    Addressed .none testedField.drive ∧
      (validate "urn:x:f" testedField (.object []) .none default =
        .error (.malformedPattern "(" .malformedExpression) ∧
      (ShapeError.malformedPattern "(" .malformedExpression).isNaming = false) ∧
      scan "urn:x:f" testedField .empty .none =
        .error (.malformedPattern "(" .malformedExpression) ∧
      (ShapeError.malformedPattern "(" .malformedExpression).isNaming = false := by
  have haddressed : Addressed .none testedField.drive :=
    addressed_of_isAddressed (by decide +kernel)
  obtain ⟨hvalidate, hscan⟩ := addressed_without_defects haddressed "urn:x:f"
  have hv : validate "urn:x:f" testedField (.object []) .none default =
      .error (.malformedPattern "(" .malformedExpression) := rfl
  have hs : scan "urn:x:f" testedField .empty .none =
      .error (.malformedPattern "(" .malformedExpression) := rfl
  exact ⟨haddressed, ⟨hv, hvalidate _ _ _ hv⟩, hs, hscan _ _ hs⟩

/-- A field that is only tested is in no table, though there is one at every level. -/
theorem test_without_name :
    let shape : Shape := .when (.field ⟨"urn:x:p", false⟩ none (.and [])) (.minCount 1) (.and [])
    shape.drive = shape ∧ Aliases.ofShape shape .none = .ok ⟨[]⟩ ∧
      Aliases.ofShape (.and []) .none = .ok ⟨[]⟩ ∧
      validate "urn:x:f" shape (.object []) .none default = .error (.undefinedAlias "urn:x:p") ∧
      scan "urn:x:f" shape .empty .none = .error (.undefinedAlias "urn:x:p") := by
  exact ⟨by decide +kernel, by decide +kernel, by decide +kernel, rfl, rfl⟩

end Description

end LinkedShapes
