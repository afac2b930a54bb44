import LinkedShapes.Proofs.Shape.Normal
import LinkedShapes.Shape.Redaction

/-!
# Redaction

Redaction rebuilds a shape from its redacted parts. As building leaves out what redaction makes
redundant, it does not matter when the guards are answered.

* `Shape.normal_redact`: a redacted shape is in normal form.
* `Shape.redact_build`, `Shape.redact_cond`, `Shape.redact_along`: redaction goes through what
  builds shapes, whatever they are built of.
* `Shape.redact_in_stages`: to redact for one context and then for another is to redact for both.
* `Shape.guard_of_mem_redact`: the guards that are left are those that the context does not answer.
* `Shape.redact_of_normal`: a shape in normal form without guards to answer stays as it is.
-/

namespace LinkedShapes

open Vocabulary

variable {c d : GuardContext} {s : Shape}

namespace GuardContext

/-- The context that answers an axis by the rule of `c` if it has one, and by that of `d` if not. -/
def orElse (c d : GuardContext) : GuardContext := ⟨fun axis => (c.rule axis).or (d.rule axis)⟩

theorem answer_orElse (c d : GuardContext) (g : Guard) :
    (c.orElse d).answer g = (c.answer g).or (d.answer g) := by
  unfold answer orElse
  exact Option.map_or

theorem orElse_self (c : GuardContext) : c.orElse c = c := by
  unfold orElse
  simp only [Option.or_self]

/-- Contexts that answer guards on different axes do not take precedence over each other. -/
theorem orElse_comm (h : ∀ axis, c.rule axis = none ∨ d.rule axis = none) :
    c.orElse d = d.orElse c := by
  unfold orElse
  congr
  funext axis
  rcases h axis with hnone | hnone <;> rw [hnone] <;> simp

end GuardContext

namespace Shape

variable {k : Connective} {test pass fail : Shape} {xs : List Shape} {edge : Edge}
variable {label : Option String}

theorem redactAll_eq_map (shapes : List Shape) : redactAll c shapes = shapes.map (redact c) := by
  induction shapes with
  | nil => rfl
  | cons s shapes ih => rw [redactAll, ih, List.map_cons]

theorem redact_wrap : redact c (k.wrap xs) = k.build (xs.map (redact c)) := by
  cases k <;> rw [← redactAll_eq_map] <;> rfl

/-- The shapes that a guard becomes. -/
theorem redact_guard (g : Guard) : redact c (.guard g) =
    ((c.answer g).map fun holds => if holds then .and [] else .or []).getD (.guard g) := by
  rw [redact]
  split
  · next h => rw [h]; rfl
  · next h => rw [h]; rfl
  · next h => rw [h]; rfl

/-- Among the shapes without parts, redaction looks at guards alone. -/
theorem redact_of_isLeaf (hl : s.isLeaf = true) :
    (∃ g, s = .guard g) ∨ (∀ g, s ≠ .guard g) ∧ ∀ c, redact c s = s := by
  cases s with
  | guard g => exact Or.inl ⟨g, rfl⟩
  | and _ | or _ | when _ _ _ | field _ _ _ | link _ _ => cases hl
  | _ => exact Or.inr ⟨nofun, fun _ => rfl⟩

/-- A redacted shape is in normal form. -/
theorem normal_redact (c : GuardContext) (s : Shape) : Normal (redact c s) := by
  induction s using inductJoined with
  | join k shapes ih =>
    rw [redact_wrap]
    exact normal_build (List.forall_mem_map.2 ih)
  | when test pass fail iht ihp ihf => exact normal_cond iht ihp ihf
  | field edge label s ih => exact normal_along ih
  | link iri s ih => exact .link ih
  | leaf s hl =>
    rcases redact_of_isLeaf hl with ⟨g, rfl⟩ | ⟨-, hsame⟩
    · rw [redact_guard]
      rcases c.answer g with _ | _ | _
      · exact .leaf rfl
      · exact normal_nothing (c := .any)
      · exact normal_nothing (c := .all)
    · rw [hsame]
      exact .leaf hl

/-! ## Redaction goes through what builds shapes -/

/-- The first occurrences among the branches of redacted branches are those among the branches
of the redacted shape. -/
theorem eraseDups_branches_redact (s : Shape) :
    ((k.branches s).flatMap fun b => k.branches (redact c b)).eraseDups =
      (k.branches (redact c s)).eraseDups := by
  by_cases hs : ∃ inner, s = k.wrap inner
  · obtain ⟨inner, rfl⟩ := hs
    rw [Connective.branches_wrap, redact_wrap, Connective.branches_build, List.flatMap_map]
    · exact (eraseDups_eq_self (nodup_eraseDups _)).symm
    · exact List.forall_mem_map.2 fun s _ => normal_redact c s
  · rw [Connective.branches_of_ne (not_exists.1 hs), List.flatMap_singleton]

theorem redact_build : redact c (k.build xs) = k.build (xs.map (redact c)) := by
  have hclose : ∀ ys, redact c (k.close ys) = k.build (ys.map (redact c)) := by
    intro ys
    rcases Connective.close_cases k ys with ⟨s, rfl, heq⟩ | ⟨-, heq⟩
    · rw [heq]
      exact (Connective.build_singleton (normal_redact c s)).symm
    · rw [heq, redact_wrap]
  rw [Connective.build_eq, hclose]
  refine Connective.build_congr ?_
  calc
    _ = ((xs.flatMap k.branches).flatMap fun b => k.branches (redact c b)).eraseDups := by
      rw [List.flatMap_map, eraseDups_flatMap_eraseDups]
    _ = (xs.flatMap fun s => (k.branches s).flatMap fun b =>
          k.branches (redact c b)).eraseDups := by
      rw [List.flatMap_assoc]
    _ = (xs.flatMap fun s => k.branches (redact c s)).eraseDups :=
      eraseDups_flatMap_congr fun s _ => eraseDups_branches_redact s
    _ = ((xs.map (redact c)).flatMap k.branches).eraseDups := by
      rw [List.flatMap_map]

theorem redact_conj : redact c (conj xs) = conj (xs.map (redact c)) :=
  redact_build (k := .all)

theorem redact_cond :
    redact c (cond test pass fail) = cond (redact c test) (redact c pass) (redact c fail) := by
  have hsame : ∀ t p : Shape, cond t p p = p := fun t p => by
    rcases cond_cases t p p with ⟨-, heq⟩ | ⟨-, heq⟩ | ⟨⟨-, -, hne⟩, -⟩
    · exact heq
    · exact heq
    · exact absurd rfl hne
  rcases cond_cases test pass fail with ⟨rfl | rfl, heq⟩ | ⟨rfl, heq⟩ | ⟨-, heq⟩
  · rw [heq]
    rfl
  · rw [heq, hsame]
  · rw [heq]
    show _ = cond (.or []) (redact c pass) (redact c fail)
    rcases cond_cases (.or []) (redact c pass) (redact c fail) with
      ⟨hnone | hpass, heq'⟩ | ⟨-, heq'⟩ | ⟨⟨-, hne, -⟩, -⟩
    · cases hnone
    · rw [heq', hpass]
    · rw [heq']
    · exact absurd rfl hne
  · rw [heq, redact]

theorem redact_along : redact c (along edge label s) = along edge label (redact c s) := by
  rcases along_cases edge label s with ⟨rfl, heq⟩ | ⟨-, heq⟩
  · rw [heq]
    rfl
  · rw [heq, redact]

/-! ## Redaction in stages -/

/-- To redact for one context and then for another is to redact for both, where the first takes
precedence. -/
theorem redact_redact (c d : GuardContext) (s : Shape) :
    redact d (redact c s) = redact (c.orElse d) s := by
  induction s using inductJoined with
  | join k shapes ih =>
    rw [redact_wrap, redact_build, redact_wrap, List.map_map]
    exact congrArg k.build (List.map_congr_left ih)
  | when test pass fail iht ihp ihf =>
    show redact d (cond _ _ _) = cond _ _ _
    rw [redact_cond, iht, ihp, ihf]
  | field edge label s ih =>
    show redact d (along _ _ _) = along _ _ _
    rw [redact_along, ih]
  | link iri s ih =>
    show Shape.link iri (redact d (redact c s)) = .link iri (redact (c.orElse d) s)
    rw [ih]
  | leaf s hl =>
    rcases redact_of_isLeaf hl with ⟨g, rfl⟩ | ⟨-, hsame⟩
    · rw [redact_guard, redact_guard, GuardContext.answer_orElse]
      rcases c.answer g with _ | _ | _
      · exact redact_guard g
      · rfl
      · rfl
    · rw [hsame c, hsame d, hsame]

/-- Redaction can be done in stages: once is as good as twice, and contexts that answer different
axes may come in any order. -/
theorem redact_in_stages (s : Shape) (c d : GuardContext) :
    (s.redact c).redact d = s.redact (c.orElse d) ∧ (s.redact c).redact c = s.redact c ∧
      ((∀ axis, c.rule axis = none ∨ d.rule axis = none) →
        (s.redact c).redact d = (s.redact d).redact c) := by
  refine ⟨redact_redact c d s, ?_, fun h => ?_⟩
  · rw [redact_redact, GuardContext.orElse_self]
  · rw [redact_redact, redact_redact, GuardContext.orElse_comm h]

/-- A draft for other roles and modes, redacted for an editor and for conveying in both orders. -/
theorem redact_in_stages_draft :
    let draft : Shape := .and [.when (guardOf .role ["admin"]) (.minCount 1) (.maxCount 5),
      .field ⟨"urn:x:p", false⟩ none filterMode, .and [.maxCount 5]]
    let editing := GuardContext.silent.withValues .role ["editor"]
    let conveying := GuardContext.silent.withValues .mode [Mode.convey]
    (∀ axis, editing.rule axis = none ∨ conveying.rule axis = none) ∧
      (draft.redact editing).redact conveying = (draft.redact conveying).redact editing ∧
      (draft.redact editing).redact conveying = .maxCount 5 := by
  intro draft editing conveying
  have hapart : ∀ axis, editing.rule axis = none ∨ conveying.rule axis = none := by
    intro axis
    cases axis <;> first | exact Or.inl rfl | exact Or.inr rfl
  exact ⟨hapart, (redact_in_stages draft editing conveying).2.2 hapart, by decide +kernel⟩

/-! ## Guards that are left -/

/-- A guard that is left in a redacted shape stands in the shape, and the context does not cover
its axis. -/
theorem guard_of_mem_redact {g : Guard} (h : .guard g ∈ (redact c s).within) :
    .guard g ∈ s.within ∧ c.answer g = none := by
  induction s using inductJoined with
  | join k shapes ih =>
    rw [redact_wrap] at h
    obtain ⟨r, hr, h⟩ := mem_within_build rfl h
    obtain ⟨s, hs, rfl⟩ := List.mem_map.1 hr
    exact (ih s hs h).imp_left fun hmem => mem_within_wrap.2 (Or.inr ⟨s, hs, hmem⟩)
  | when test pass fail iht ihp ihf =>
    rw [mem_within_when]
    rcases mem_within_cond rfl h with h | h | h
    · exact (iht h).imp_left fun ht => Or.inr (Or.inl ht)
    · exact (ihp h).imp_left fun hp => Or.inr (Or.inr (Or.inl hp))
    · exact (ihf h).imp_left fun hf => Or.inr (Or.inr (Or.inr hf))
  | field edge label s ih =>
    exact (ih (mem_within_along rfl h)).imp_left (List.mem_cons_of_mem _)
  | link iri s ih =>
    have hinner := (mem_within_link.1 h).resolve_left (by rintro ⟨⟩)
    exact (ih hinner).imp_left (List.mem_cons_of_mem _)
  | leaf s hl =>
    rcases redact_of_isLeaf hl with ⟨g', rfl⟩ | ⟨hne, hsame⟩
    · rw [redact_guard] at h
      cases hanswer : c.answer g' with
      | none =>
        rw [hanswer] at h
        cases List.mem_singleton.1 h
        exact ⟨List.mem_singleton_self _, hanswer⟩
      | some holds =>
        rw [hanswer] at h
        cases holds <;> exact absurd h (by simp [within, withinAll])
    · rw [hsame, within_of_isLeaf hl] at h
      exact absurd (List.mem_singleton.1 h).symm (hne g)

/-- A shape in normal form stays as it is if the context answers none of its guards. -/
theorem redact_of_normal (hn : Normal s) (hg : ∀ g, .guard g ∈ s.within → c.answer g = none) :
    redact c s = s := by
  induction s using inductJoined with
  | join k shapes ih =>
    obtain ⟨hflat, hall⟩ := normal_wrap.1 hn
    have hsame : ∀ s ∈ shapes, redact c s = s := by
      exact fun s hs => ih s hs (hall s hs) fun g hmem =>
        hg g (mem_within_wrap.2 (Or.inr ⟨s, hs, hmem⟩))
    rw [redact_wrap, List.map_congr_left hsame, List.map_id'', Connective.build_of_flat hflat]
    exact fun _ => rfl
  | when test pass fail iht ihp ihf =>
    obtain ⟨⟨htest, hnone, hne⟩, ht, hp, hf⟩ := normal_when.1 hn
    have hmem : ∀ {g : Guard}, .guard g ∈ test.within ∨ .guard g ∈ pass.within ∨
        .guard g ∈ fail.within → .guard g ∈ (Shape.when test pass fail).within :=
      fun h => mem_within_when.2 (Or.inr h)
    show cond (redact c test) (redact c pass) (redact c fail) = _
    rw [iht ht fun g h => hg g (hmem (Or.inl h)),
      ihp hp fun g h => hg g (hmem (Or.inr (Or.inl h))),
      ihf hf fun g h => hg g (hmem (Or.inr (Or.inr h)))]
    rcases cond_cases test pass fail with ⟨h | h, -⟩ | ⟨h, -⟩ | ⟨-, heq⟩
    · exact absurd h htest
    · exact absurd h hne
    · exact absurd h hnone
    · exact heq
  | field edge label s ih =>
    obtain ⟨hne, hs⟩ := normal_field.1 hn
    show along edge label (redact c s) = _
    rw [ih hs fun g h => hg g (List.mem_cons_of_mem _ h)]
    rcases along_cases edge label s with ⟨h, -⟩ | ⟨-, heq⟩
    · exact absurd h hne
    · exact heq
  | link iri s ih =>
    show Shape.link iri (redact c s) = _
    rw [ih hn.of_link fun g h => hg g (List.mem_cons_of_mem _ h)]
  | leaf s hl =>
    rcases redact_of_isLeaf hl with ⟨g, rfl⟩ | ⟨-, hsame⟩
    · rw [redact_guard, hg g (self_mem_within _)]
      rfl
    · exact hsame c

end Shape

end LinkedShapes
