import LinkedShapes.Proofs.Description.Inference
import LinkedShapes.Proofs.Shape.Probe

/-!
# What the answers of probes promise

A probe passes over the parts of a shape that have no answer to its question. In a conjunction that
does no harm, since all parts hold. An alternative without an answer may hold all the same, and then
the answers of the others say nothing about the group. So an answer is sure if it stays the same
when nothing is taken from alternatives of which one has no answer. Each group that a scan accepts
keeps to the answers that are sure.

* `Probe.sure`: the answer that is left when alternatives without an answer are not passed over.
* `Probe.keeps_of_sure`: groups keep to what is sure, by induction over the shape.
* `probes_sound`: counts, datatypes and languages of the groups that scans accept.
* `probes_unsound_of_silent`: what becomes of them if an alternative has no answer.
-/

namespace LinkedShapes

open Vocabulary

/-! ## Sure answers -/

namespace Probe

variable {β : Type}

/-- The answer of alternatives, if all of them have one and the answers fit. -/
def eitherSure (p : Probe β) (answers : List (Option β)) : Option β :=
  let known := answers.filterMap id
  if answers.all fun answer => answer.any fun b => known.all (p.fit b) then p.either known
  else none

mutual

/-- The answer of a shape, where alternatives have no answer together unless each has one. -/
def sure (p : Probe β) : Shape → Option β
  | .and shapes => (p.ask (.and shapes)).bind fun _ => p.both ((sureOfAll p shapes).filterMap id)
  | .or shapes => (p.ask (.or shapes)).bind fun _ => p.eitherSure (sureOfAll p shapes)
  | .when test pass fail =>
    (p.ask (.when test pass fail)).bind fun _ => p.eitherSure [sure p pass, sure p fail]
  | .link _ shape => sure p shape
  | .field _ _ _ => none
  | shape => p.ask shape

def sureOfAll (p : Probe β) : List Shape → List (Option β)
  | [] => []
  | shape :: shapes => sure p shape :: sureOfAll p shapes

end

/-- Is the answer of the shape sure? -/
def isSure [DecidableEq β] (p : Probe β) (shape : Shape) : Bool := p.sure shape == p.ask shape

/-- What the answers mean for a group: the meaning of a combination follows from the meanings of all
that is combined, or of one of the alternatives. -/
structure Means (p : Probe β) (P : β → Prop) : Prop where
  both : ∀ answers b, p.both answers = some b → (∀ c ∈ answers, P c) → P b
  either : ∀ answers b, p.either answers = some b →
    ∀ c ∈ answers, (∀ d ∈ answers, p.fit c d = true) → P c → P b

theorem sureOfAll_eq_map {p : Probe β} (shapes : List Shape) :
    p.sureOfAll shapes = shapes.map p.sure := by
  induction shapes with
  | nil => rfl
  | cons shape shapes ih => rw [sureOfAll, ih, List.map_cons]

theorem sure_leaf {p : Probe β} {shape : Shape} (h : shape.isLeaf = true) :
    p.sure shape = p.ask shape := by
  cases shape with
  | and _ | or _ | when _ _ _ | field _ _ _ | link _ _ => cases h
  | _ => rfl

/-- Of alternatives that are sure together, each has an answer that fits all others. -/
theorem of_eitherSure {p : Probe β} {answers : List (Option β)} {answer : Option β} {b : β}
    (h : p.eitherSure answers = some b) (ha : answer ∈ answers) :
    ∃ c, answer = some c ∧ c ∈ answers.filterMap id ∧
      (∀ d ∈ answers.filterMap id, p.fit c d = true) ∧
      p.either (answers.filterMap id) = some b := by
  unfold eitherSure at h
  dsimp only at h
  split at h
  · next hall =>
    have hone := List.all_eq_true.1 hall answer ha
    cases answer with
    | none => cases hone
    | some c =>
      rw [Option.any_some, List.all_eq_true] at hone
      exact ⟨c, rfl, List.mem_filterMap.2 ⟨some c, ha, rfl⟩, hone, h⟩
  · cases h

section Groups

open Description

variable {p : Probe β} {P : β → Prop} {s : Setting} {g : Graph} {shape : Shape}
  {shapes : List Shape} {terms : List Term} {b : β}

/-- Groups keep to the answers of shapes without parts. -/
def KeptByLeaves (p : Probe β) (P : β → Prop) (s : Setting) (g : Graph) (terms : List Term) :
    Prop :=
  ∀ shape b, shape.isLeaf = true → holds s g shape terms = true → p.ask shape = some b → P b

/-- An alternative that holds answers for all of them. -/
theorem keeps_of_alternative (hm : p.Means P) {answers : List (Option β)} {answer : Option β}
    (ha : answer ∈ answers) (hk : ∀ c, answer = some c → P c)
    (hb : p.eitherSure answers = some b) : P b := by
  obtain ⟨c, hc, hmem, hfit, heither⟩ := of_eitherSure hb ha
  exact hm.either _ b heither c hmem hfit (hk c hc)

/-- A group for which a shape holds keeps to what the shape surely answers. -/
theorem keeps_of_sure (hm : p.Means P) (hl : KeptByLeaves p P s g terms)
    (h : holds s g shape terms = true) (hb : p.sure shape = some b) : P b := by
  induction shape using Shape.induct generalizing b with
  | and shapes ih =>
    obtain ⟨-, -, hb⟩ := Option.bind_eq_some_iff.1 hb
    rw [sureOfAll_eq_map] at hb
    refine hm.both _ b hb fun c hc => ?_
    obtain ⟨answer, hanswer, hid⟩ := List.mem_filterMap.1 hc
    obtain ⟨shape, hs, rfl⟩ := List.mem_map.1 hanswer
    exact ih shape hs (holds_and.1 h shape hs) hid
  | or shapes ih =>
    obtain ⟨-, -, hb⟩ := Option.bind_eq_some_iff.1 hb
    rw [sureOfAll_eq_map] at hb
    obtain ⟨shape, hs, hshape⟩ := holds_or.1 h
    exact keeps_of_alternative hm (List.mem_map_of_mem hs) (fun _ => ih shape hs hshape) hb
  | when test pass fail _ ihp ihf =>
    obtain ⟨-, -, hb⟩ := Option.bind_eq_some_iff.1 hb
    rw [holds] at h
    -- the branch that the test turns to is the alternative that holds
    split at h
    · exact keeps_of_alternative hm List.mem_cons_self (fun _ => ihp h) hb
    · exact keeps_of_alternative hm (List.mem_cons_of_mem _ List.mem_cons_self) (fun _ => ihf h) hb
  | field edge label shape _ =>
    cases hb
  | link iri shape ih =>
    rw [holds] at h
    exact ih h hb
  | leaf shape hleaf =>
    rw [sure_leaf hleaf] at hb
    exact hl shape b hleaf h hb

/-- A group for which a shape holds keeps to the answer of the shape, if it is sure. -/
theorem keeps_of_isSure [DecidableEq β] (hm : p.Means P) (hl : KeptByLeaves p P s g terms)
    (hs : p.isSure shape = true) (h : holds s g shape terms = true) (hb : p.ask shape = some b) :
    P b :=
  keeps_of_sure hm hl h ((beq_iff_eq.1 hs).trans hb)

end Groups

end Probe

namespace Shape

/-! ## What the answers mean -/

section Meanings

open Description Probe

variable {s : Setting} {g : Graph} {terms : List Term}

/-- All terms carry a language tag, one of the languages if there are any. -/
def SpokenIn (terms : List Term) (langs : OrderedSet String) : Prop :=
  ∀ v ∈ terms, ∃ tag, v.language = some tag ∧ (langs.isEmpty = false → tag ∈ langs)

theorem means_leastValues : leastValues.Means (· ≤ terms.length) where
  both counts n h hall := by
    rw [show leastValues.both counts = reduce max counts from greatest_eq_reduce counts] at h
    exact reduce_of_forall (Q := (· ≤ terms.length)) (fun _ _ hx hy => Nat.max_le.2 ⟨hx, hy⟩) h
      hall
  either counts n h m hm _ hle := by
    rw [show leastValues.either counts = reduce min counts from least_eq_reduce counts] at h
    exact reduce_of_mem (Q := (· ≤ terms.length)) (fun _ _ => Nat.le_trans (Nat.min_le_left _ _))
      (fun _ _ => Nat.le_trans (Nat.min_le_right _ _)) h hm hle

theorem means_mostValues : mostValues.Means (terms.length ≤ ·) where
  both counts n h hall := by
    rw [show mostValues.both counts = reduce min counts from least_eq_reduce counts] at h
    exact reduce_of_forall (Q := (terms.length ≤ ·)) (fun _ _ hx hy => Nat.le_min.2 ⟨hx, hy⟩) h
      hall
  either counts n h m hm _ hle := by
    rw [show mostValues.either counts = reduce max counts from greatest_eq_reduce counts] at h
    exact reduce_of_mem (Q := (terms.length ≤ ·))
      (fun _ _ hx => Nat.le_trans hx (Nat.le_max_left _ _))
      (fun _ _ hy => Nat.le_trans hy (Nat.le_max_right _ _)) h hm hle

theorem means_typeOfValues : typeOfValues.Means fun d => ∀ v ∈ terms, v.isOf d = true where
  both _ d h hall := hall d (mem_of_narrowest h)
  either _ _ h _ he _ hall := eq_of_unique h he ▸ hall

theorem spokenIn_bothLangs {x y : OrderedSet String} (hx : SpokenIn terms x)
    (hy : SpokenIn terms y) : SpokenIn terms (bothLangs x y) := by
  unfold bothLangs
  split
  · exact hy
  · next hsome =>
    split
    · exact hx
    · next hsome' =>
      intro v hv
      obtain ⟨tag, htag, hin⟩ := hx v hv
      obtain ⟨tag', htag', hin'⟩ := hy v hv
      obtain rfl : tag = tag' := Option.some.inj (htag.symm.trans htag')
      refine ⟨tag, htag, fun _ => List.mem_filter.2 ⟨?_, decide_eq_true ?_⟩⟩
      · exact hin (Bool.eq_false_iff.2 hsome)
      · exact hin' (Bool.eq_false_iff.2 hsome')

theorem means_langsOfValues : langsOfValues.Means (SpokenIn terms) where
  both _ _ h hall := reduce_of_forall (fun _ _ => spokenIn_bothLangs) h hall
  either answers langs h c hc hfit hspoken := by
    intro v hv
    obtain ⟨tag, htag, hin⟩ := hspoken v hv
    refine ⟨tag, htag, fun hsome => ?_⟩
    cases hempty : c.isEmpty with
    | false =>
      exact reduce_of_mem (Q := (tag ∈ ·)) (fun _ _ => OrderedSet.mem_union.2 ∘ .inl)
        (fun _ _ => OrderedSet.mem_union.2 ∘ .inr) h hc (hin hempty)
    | true =>
      -- no alternative restricts the languages, so that the whole does not
      have hnone : langs.isEmpty = true := by
        refine reduce_of_forall (Q := fun langs => langs.isEmpty = true) (fun x y hx hy => ?_) h
          fun d hd => ?_
        · unfold OrderedSet.union
          rw [List.isEmpty_iff.1 hy]
          exact hx
        · rw [← beq_iff_eq.1 (hfit d hd)]
          exact hempty
      rw [hnone] at hsome
      cases hsome

/-! ## Groups keep to the answers -/

theorem kept_leastValues : KeptByLeaves leastValues (· ≤ terms.length) s g terms := by
  intro shape n hl h hn
  rw [holds_leaf hl] at h
  cases shape with
  | minCount limit =>
    cases hn
    exact Nat.le_of_not_lt (isEmpty_issueIf.1 h)
  | and _ | or _ | when _ _ _ | field _ _ _ | link _ _ => cases hl
  | _ => cases hn

theorem kept_mostValues : KeptByLeaves mostValues (terms.length ≤ ·) s g terms := by
  intro shape n hl h hn
  rw [holds_leaf hl] at h
  cases shape with
  | maxCount limit =>
    cases hn
    exact Nat.le_of_not_lt (isEmpty_issueIf.1 h)
  | and _ | or _ | when _ _ _ | field _ _ _ | link _ _ => cases hl
  | _ => cases hn

theorem kept_typeOfValues :
    KeptByLeaves typeOfValues (fun d => ∀ v ∈ terms, v.isOf d = true) s g terms := by
  intro shape d hl h hd
  rw [holds_leaf hl] at h
  cases shape with
  | datatype iri =>
    cases hd
    exact isEmpty_each.1 h
  | and _ | or _ | when _ _ _ | field _ _ _ | link _ _ => cases hl
  | _ => cases hd

theorem kept_langsOfValues : KeptByLeaves langsOfValues (SpokenIn terms) s g terms := by
  intro shape langs hl h hlangs
  rw [holds_leaf hl] at h
  cases shape with
  | lang tags =>
    cases hlangs
    intro v hv
    obtain ⟨tag, htag, hin⟩ := (Option.any_eq_true _ _).1 (isEmpty_each.1 h v hv)
    refine ⟨tag, htag, fun hsome => ?_⟩
    rw [hsome, Bool.false_or] at hin
    exact of_decide_eq_true hin
  | and _ | or _ | when _ _ _ | field _ _ _ | link _ _ => cases hl
  | _ => cases hlangs

/-- A group that a scan accepts keeps to the answers of the probes for counts, datatypes and
languages, where these are sure. -/
theorem probes_sound (h : accepts s g shape terms = true) :
    (leastValues.isSure shape = true → ∀ n, shape.minCount? = some n → n ≤ terms.length) ∧
    (mostValues.isSure shape = true → ∀ n, shape.maxCount? = some n → terms.length ≤ n) ∧
    (typeOfValues.isSure shape = true → ∀ d, shape.datatype? = some d →
      ∀ v ∈ terms, v.isOf d = true) ∧
    (langsOfValues.isSure shape = true → ∀ langs, shape.langs? = some langs →
      ∀ v ∈ terms, ∃ tag, v.language = some tag ∧ (langs.isEmpty = false → tag ∈ langs)) := by
  obtain ⟨table, -, hscan⟩ := accepts_iff.1 h
  have hholds : holds s g shape terms = true := hscan.eq_holds
  refine ⟨fun ht n hn => ?_, fun ht n hn => ?_, fun ht d hd => ?_, fun ht langs hlangs => ?_⟩
  · exact keeps_of_isSure (P := (· ≤ terms.length)) means_leastValues kept_leastValues ht
      hholds hn
  · exact keeps_of_isSure (P := (terms.length ≤ ·)) means_mostValues kept_mostValues ht
      hholds hn
  · exact keeps_of_isSure means_typeOfValues kept_typeOfValues ht hholds hd
  · exact keeps_of_isSure means_langsOfValues kept_langsOfValues ht hholds hlangs

/-- Texts in English or Italian, and in Italian where there is one at most. The last alternatives
are not sure of anything, but nothing depends on them. -/
def twoLanguages : Shape :=
  .and [.when (.minCount 2) (.and [.lang (.ofList ["en", "it"]), .maxCount 3])
      (.and [.lang (.ofList ["it"]), .maxCount 1]),
    .or [.and [.datatype Rdf.langString, .minCount 1],
      .link "urn:x:s" (.and [.datatype Rdf.langString, .minCount 2])],
    .or [.minCount 1, .maxCount 5]]

theorem probes_sound_twoLanguages :
    let terms := [Term.langString "hi" "en", Term.langString "ciao" "it"]
    accepts (.of "urn:x:f" .none) .empty twoLanguages terms = true ∧
      1 ≤ terms.length ∧ terms.length ≤ 3 ∧ (∀ v ∈ terms, v.isOf Rdf.langString = true) ∧
      ∀ v ∈ terms, ∃ tag, v.language = some tag ∧ tag ∈ OrderedSet.ofList ["en", "it"] := by
  intro terms
  have haccepts : accepts (.of "urn:x:f" .none) .empty twoLanguages terms = true := by
    decide +kernel
  obtain ⟨hleast, hmost, htype, hlangs⟩ := probes_sound haccepts
  refine ⟨haccepts, hleast (by decide +kernel) 1 (by decide +kernel),
    hmost (by decide +kernel) 3 (by decide +kernel),
    htype (by decide +kernel) _ (by decide +kernel), fun v hv => ?_⟩
  obtain ⟨tag, htag, hin⟩ := hlangs (by decide +kernel) (.ofList ["en", "it"]) (by decide +kernel)
    v hv
  exact ⟨tag, htag, hin (by decide +kernel)⟩

/-- An alternative without an answer is passed over, and the group that it accepts need not keep to
the answer of the others. -/
theorem probes_unsound_of_silent :
    let s : Setting := .of "urn:x:f" .none
    let least : Shape := .or [.minCount 1, .maxCount 0]
    let most : Shape := .or [.maxCount 0, .minCount 1]
    let typed : Shape := .or [.datatype Xsd.string, .minCount 1]
    let spoken : Shape := .or [.lang (.ofList ["en"]), .minCount 1]
    let other := Term.iri "urn:x:o"
    (accepts s .empty least [] = true ∧ least.minCount? = some 1) ∧
      (accepts s .empty most [other] = true ∧ most.maxCount? = some 0) ∧
      (accepts s .empty typed [other] = true ∧ typed.datatype? = some Xsd.string ∧
        other.isOf Xsd.string = false) ∧
      (accepts s .empty spoken [other] = true ∧ spoken.langs? = some (.ofList ["en"]) ∧
        other.language = none) := by
  decide +kernel

end Meanings

end Shape

end LinkedShapes
