import LinkedShapes.Proofs.Distinct
import LinkedShapes.Proofs.Shape

/-!
# Shapes in normal form

The functions that build shapes leave out what is redundant, so that a shape they have built has
nothing left to leave out. `Shape.Normal` says what this means at every level. Conjunctions and
disjunctions are told apart by a `Connective` only, so that both are dealt with at once.

* `Shape.inductJoined`: induction over shapes that does not tell the connectives apart.
* `Shape.normal_build`, `Shape.normal_cond`, `Shape.normal_along`: what is built of shapes in
  normal form is in normal form.
* `Connective.build_singleton`: a shape in normal form is the only branch of either connective.
* `Connective.branches_build`: the branches of a connective are those of its parts.
* `Connective.build_assoc`, `Connective.build_self`, `Connective.build_nothing_left`: the laws of
  connectives, on shapes in normal form.
-/

namespace LinkedShapes

open Shape

variable {s x y z test pass fail : Shape} {xs ys zs : List Shape} {edge : Edge}
variable {label : Option String}

/-! ## Connectives -/

/-- The two ways to join shapes: all of them hold, or any of them does. -/
inductive Connective where
  | all | any

namespace Connective

variable {c : Connective}

/-- The shape of a connective with the given branches. -/
def wrap : Connective → List Shape → Shape
  | .all => .and
  | .any => .or

/-- The branches a shape contributes to a connective. -/
def branches : Connective → Shape → List Shape
  | .all => conjuncts
  | .any => disjuncts

/-- The shape of a connective with branches that are flat and distinct. -/
def close : Connective → List Shape → Shape
  | .all => andOf
  | .any => orOf

/-- The shapes joined by a connective. -/
def build : Connective → List Shape → Shape
  | .all => conj
  | .any => disj

theorem branches_wrap : c.branches (c.wrap xs) = xs := by
  cases c <;> rfl

theorem branches_of_ne (h : ∀ inner, s ≠ c.wrap inner) : c.branches s = [s] := by
  cases c <;> cases s <;> first | rfl | exact absurd rfl (h _)

/-- A shape without parts is not joined. -/
theorem wrap_ne_of_isLeaf (h : s.isLeaf = true) (inner : List Shape) : s ≠ c.wrap inner := by
  rintro rfl
  cases c <;> cases h

theorem branches_of_isLeaf (h : s.isLeaf = true) : c.branches s = [s] :=
  branches_of_ne (wrap_ne_of_isLeaf h)

theorem build_eq : c.build xs = c.close (xs.flatMap c.branches).eraseDups := by
  cases c <;> rfl

theorem close_singleton : c.close [s] = s := by
  cases c <;> rfl

theorem close_of_several (h : xs.length ≠ 1) : c.close xs = c.wrap xs := by
  match xs, h with
  | [], _ | _ :: _ :: _, _ => cases c <;> rfl

/-- A single branch stands for itself, others are wrapped. -/
theorem close_cases (c : Connective) (xs : List Shape) :
    (∃ s, xs = [s] ∧ c.close xs = s) ∨ (xs.length ≠ 1 ∧ c.close xs = c.wrap xs) := by
  by_cases h : xs.length = 1
  · obtain ⟨s, rfl⟩ := List.length_eq_one_iff.1 h
    exact Or.inl ⟨s, rfl, close_singleton⟩
  · exact Or.inr ⟨h, close_of_several h⟩

/-- What is joined depends on the first occurrences of the branches only. -/
theorem build_congr
    (h : (xs.flatMap c.branches).eraseDups = (ys.flatMap c.branches).eraseDups) :
    c.build xs = c.build ys := by
  rw [build_eq, build_eq, h]

/-- Branches that a connective leaves as they are. -/
structure Flat (c : Connective) (xs : List Shape) : Prop where
  several : xs.length ≠ 1
  distinct : xs.Nodup
  unjoined : ∀ s ∈ xs, ∀ inner, s ≠ c.wrap inner

end Connective

/-! ## Normal form -/

namespace Shape

variable {c : Connective}

/-- Induction over shapes, with one case for both connectives. -/
@[elab_as_elim]
theorem inductJoined {P : Shape → Prop}
    (join : ∀ (c : Connective) shapes, (∀ s ∈ shapes, P s) → P (c.wrap shapes))
    (when : ∀ test pass fail, P test → P pass → P fail → P (.when test pass fail))
    (field : ∀ edge label s, P s → P (.field edge label s))
    (link : ∀ iri s, P s → P (.link iri s)) (leaf : ∀ s, s.isLeaf = true → P s) (shape : Shape) :
    P shape :=
  Shape.induct (join .all) (join .any) when field link leaf shape

/-- The shape says nothing that is trivially redundant, at any level. -/
inductive Normal : Shape → Prop
  | and {shapes : List Shape} : Connective.all.Flat shapes → (∀ s ∈ shapes, Normal s) →
      Normal (.and shapes)
  | or {shapes : List Shape} : Connective.any.Flat shapes → (∀ s ∈ shapes, Normal s) →
      Normal (.or shapes)
  | when {test pass fail : Shape} : test ≠ .and [] → test ≠ .or [] → pass ≠ fail →
      Normal test → Normal pass → Normal fail → Normal (.when test pass fail)
  | field {edge : Edge} {label : Option String} {shape : Shape} : shape ≠ .or [] →
      Normal shape → Normal (.field edge label shape)
  | link {iri : String} {shape : Shape} : Normal shape → Normal (.link iri shape)
  | leaf {shape : Shape} : shape.isLeaf = true → Normal shape

theorem normal_wrap : Normal (c.wrap xs) ↔ c.Flat xs ∧ ∀ s ∈ xs, Normal s := by
  cases c <;> constructor
  · rintro (⟨hflat, hall⟩ | _ | _ | _ | _ | hleaf)
    · exact ⟨hflat, hall⟩
    · cases hleaf
  · exact fun h => .and h.1 h.2
  · rintro (_ | ⟨hflat, hall⟩ | _ | _ | _ | hleaf)
    · exact ⟨hflat, hall⟩
    · cases hleaf
  · exact fun h => .or h.1 h.2

theorem normal_when : Normal (.when test pass fail) ↔
    (test ≠ .and [] ∧ test ≠ .or [] ∧ pass ≠ fail) ∧ Normal test ∧ Normal pass ∧ Normal fail := by
  constructor
  · intro h
    cases h with
    | leaf hl => cases hl
    | when h1 h2 h3 ht hp hf => exact ⟨⟨h1, h2, h3⟩, ht, hp, hf⟩
  · rintro ⟨⟨h1, h2, h3⟩, ht, hp, hf⟩
    exact .when h1 h2 h3 ht hp hf

theorem normal_field : Normal (.field edge label s) ↔ s ≠ .or [] ∧ Normal s := by
  constructor
  · intro h
    cases h with
    | leaf hl => cases hl
    | field hne hs => exact ⟨hne, hs⟩
  · exact fun h => .field h.1 h.2

theorem normal_link {iri : String} : Normal (.link iri s) ↔ Normal s := by
  constructor
  · intro h
    cases h with
    | leaf hl => cases hl
    | link hs => exact hs
  · exact .link

theorem Normal.of_when (h : Normal (.when test pass fail)) : Normal pass ∧ Normal fail :=
  (normal_when.1 h).2.2

theorem Normal.of_field (h : Normal (.field edge label s)) : Normal s := (normal_field.1 h).2

theorem Normal.of_link {iri : String} (h : Normal (.link iri s)) : Normal s := normal_link.1 h

/-- The branches of a shape in normal form are in normal form, and not joined themselves. -/
theorem Normal.branches (h : Normal s) :
    ∀ b ∈ c.branches s, Normal b ∧ ∀ inner, b ≠ c.wrap inner := by
  by_cases hs : ∃ inner, s = c.wrap inner
  · obtain ⟨inner, rfl⟩ := hs
    obtain ⟨hflat, hall⟩ := normal_wrap.1 h
    rw [Connective.branches_wrap]
    exact fun b hb => ⟨hall b hb, hflat.unjoined b hb⟩
  · have hne := not_exists.1 hs
    rw [Connective.branches_of_ne hne]
    exact List.forall_mem_singleton.2 ⟨h, hne⟩

end Shape

namespace Connective

variable {c : Connective}

theorem branches_of_mem (h : ∀ x ∈ xs, Normal x) :
    ∀ b ∈ (xs.flatMap c.branches).eraseDups, Normal b ∧ ∀ inner, b ≠ c.wrap inner := by
  intro b hb
  obtain ⟨x, hx, hb⟩ := List.mem_flatMap.1 (List.mem_eraseDups.1 hb)
  exact (h x hx).branches b hb

/-- A shape in normal form is the only branch of either connective. -/
theorem build_singleton (h : Normal s) : c.build [s] = s := by
  rw [build_eq, List.flatMap_singleton]
  by_cases hs : ∃ inner, s = c.wrap inner
  · obtain ⟨inner, rfl⟩ := hs
    obtain ⟨hflat, -⟩ := normal_wrap.1 h
    rw [branches_wrap, eraseDups_eq_self hflat.distinct, close_of_several hflat.several]
  · rw [branches_of_ne (not_exists.1 hs), eraseDups_eq_self (List.nodup_singleton s),
      close_singleton]

/-- Shapes that are not joined themselves are the branches that they contribute. -/
theorem flatMap_branches (h : ∀ s ∈ xs, ∀ inner, s ≠ c.wrap inner) :
    xs.flatMap c.branches = xs := by
  induction xs with
  | nil => rfl
  | cons s xs ih =>
    obtain ⟨hs, hxs⟩ := List.forall_mem_cons.1 h
    rw [List.flatMap_cons, branches_of_ne hs, ih hxs, List.singleton_append]

/-- Branches that are flat are left as they are. -/
theorem build_of_flat (h : c.Flat xs) : c.build xs = c.wrap xs := by
  rw [build_eq, flatMap_branches h.unjoined, eraseDups_eq_self h.distinct,
    close_of_several h.several]

/-- The branches of a connective are those of its parts, each once. -/
theorem branches_build (h : ∀ x ∈ xs, Normal x) :
    c.branches (c.build xs) = (xs.flatMap c.branches).eraseDups := by
  rw [build_eq]
  rcases close_cases c (xs.flatMap c.branches).eraseDups with ⟨s, heq, hclose⟩ | ⟨-, hclose⟩
  · rw [hclose, heq]
    exact branches_of_ne (branches_of_mem h s (heq ▸ List.mem_singleton_self s)).2
  · rw [hclose, branches_wrap]

theorem mem_branches_build (h : ∀ x ∈ xs, Normal x) :
    s ∈ c.branches (c.build xs) ↔ ∃ x ∈ xs, s ∈ c.branches x := by
  rw [branches_build h, List.mem_eraseDups, List.mem_flatMap]

/-! ## The laws of connectives -/

/-- What is joined within may be joined along with the rest. -/
theorem build_append_build (xs zs : List Shape) (h : ∀ y ∈ ys, Normal y) :
    c.build (xs ++ c.build ys :: zs) = c.build (xs ++ (ys ++ zs)) := by
  refine build_congr ?_
  simp only [List.flatMap_append, List.flatMap_cons, branches_build h]
  exact eraseDups_append_congr rfl
    (eraseDups_append_congr (eraseDups_eq_self (nodup_eraseDups _)) rfl)

theorem build_assoc (hx : Normal x) (hy : Normal y) (hz : Normal z) :
    c.build [c.build [x, y], z] = c.build [x, c.build [y, z]] := by
  have hxy : ∀ s ∈ [x, y], Normal s := by simp [hx, hy]
  have hyz : ∀ s ∈ [y, z], Normal s := by simp [hy, hz]
  calc c.build [c.build [x, y], z] = c.build [x, y, z] := build_append_build [] [z] hxy
    _ = c.build [x, c.build [y, z]] := (build_append_build [x] [] hyz).symm

theorem build_self (h : Normal x) : c.build [x, x] = x := by
  have hsame : c.build [x, x] = c.build [x] := by
    refine build_congr ?_
    simp only [List.flatMap_cons, List.flatMap_nil, List.append_nil]
    exact eraseDups_append_self _
  rw [hsame, build_singleton h]

/-- The connective without branches is neutral. -/
theorem build_nothing_left (h : Normal x) : c.build [c.wrap [], x] = x := by
  have hsame : c.build [c.wrap [], x] = c.build [x] := build_congr (by simp [branches_wrap])
  rw [hsame, build_singleton h]

theorem build_nothing_right (h : Normal x) : c.build [x, c.wrap []] = x := by
  have hsame : c.build [x, c.wrap []] = c.build [x] := build_congr (by simp [branches_wrap])
  rw [hsame, build_singleton h]

end Connective

/-! ## What is built is in normal form -/

namespace Shape

variable {c : Connective}

theorem normal_build (h : ∀ x ∈ xs, Normal x) : Normal (c.build xs) := by
  have hbranches := Connective.branches_of_mem (c := c) h
  rw [Connective.build_eq]
  rcases Connective.close_cases c (xs.flatMap c.branches).eraseDups with
    ⟨s, heq, hclose⟩ | ⟨hseveral, hclose⟩
  · rw [hclose]
    exact (hbranches s (heq ▸ List.mem_singleton_self s)).1
  · rw [hclose]
    exact normal_wrap.2 ⟨⟨hseveral, nodup_eraseDups _, fun b hb => (hbranches b hb).2⟩,
      fun b hb => (hbranches b hb).1⟩

theorem isEmptyAnd_iff : s.isEmptyAnd = true ↔ s = .and [] := by
  constructor
  · intro h
    unfold isEmptyAnd at h
    split at h
    · rfl
    · cases h
  · rintro rfl
    rfl

theorem isEmptyOr_iff : s.isEmptyOr = true ↔ s = .or [] := by
  constructor
  · intro h
    unfold isEmptyOr at h
    split at h
    · rfl
    · cases h
  · rintro rfl
    rfl

/-- A conditional is one of its branches if the test is settled or the branches are equal. -/
theorem cond_cases (test pass fail : Shape) :
    (test = .and [] ∨ pass = fail) ∧ cond test pass fail = pass ∨
      test = .or [] ∧ cond test pass fail = fail ∨
      (test ≠ .and [] ∧ test ≠ .or [] ∧ pass ≠ fail) ∧
        cond test pass fail = .when test pass fail := by
  unfold cond
  simp only [Bool.or_eq_true, isEmptyAnd_iff, beq_iff_eq]
  by_cases hpass : test = .and [] ∨ pass = fail
  · exact Or.inl ⟨hpass, if_pos hpass⟩
  rw [if_neg hpass]
  obtain ⟨htest, hne⟩ := not_or.1 hpass
  simp only [isEmptyOr_iff]
  by_cases hfail : test = .or []
  · exact Or.inr (Or.inl ⟨hfail, if_pos hfail⟩)
  · exact Or.inr (Or.inr ⟨⟨htest, hfail, hne⟩, if_neg hfail⟩)

/-- The field of an edge is kept if something can satisfy its shape. -/
theorem along_cases (edge : Edge) (label : Option String) (s : Shape) :
    s = .or [] ∧ along edge label s = .and [] ∨
      s ≠ .or [] ∧ along edge label s = .field edge label s := by
  unfold along
  simp only [isEmptyOr_iff]
  by_cases hs : s = .or []
  · exact Or.inl ⟨hs, if_pos hs⟩
  · exact Or.inr ⟨hs, if_neg hs⟩

theorem normal_cond (ht : Normal test) (hp : Normal pass) (hf : Normal fail) :
    Normal (cond test pass fail) := by
  rcases cond_cases test pass fail with ⟨-, heq⟩ | ⟨-, heq⟩ | ⟨⟨h1, h2, h3⟩, heq⟩
  · rw [heq]
    exact hp
  · rw [heq]
    exact hf
  · rw [heq]
    exact .when h1 h2 h3 ht hp hf

theorem mem_within_wrap {part : Shape} : part ∈ (c.wrap xs).within ↔
    part = c.wrap xs ∨ ∃ s ∈ xs, part ∈ s.within := by
  rw [← mem_withinAll]
  cases c <;> exact List.mem_cons

/-- A shape without parts stands in joined shapes only where it stands in one of them. -/
theorem mem_within_build {leaf : Shape} (hl : leaf.isLeaf = true)
    (h : leaf ∈ (c.build xs).within) : ∃ s ∈ xs, leaf ∈ s.within := by
  have hbranch : ∃ b ∈ (xs.flatMap c.branches).eraseDups, leaf ∈ b.within := by
    rw [Connective.build_eq] at h
    rcases Connective.close_cases c (xs.flatMap c.branches).eraseDups with
      ⟨s, heq, hclose⟩ | ⟨-, hclose⟩
    · rw [hclose] at h
      exact ⟨s, heq ▸ List.mem_singleton_self s, h⟩
    · rw [hclose, mem_within_wrap] at h
      exact h.resolve_left (Connective.wrap_ne_of_isLeaf hl _)
  obtain ⟨b, hb, hmem⟩ := hbranch
  obtain ⟨s, hs, hb⟩ := List.mem_flatMap.1 (List.mem_eraseDups.1 hb)
  refine ⟨s, hs, ?_⟩
  by_cases hjoined : ∃ inner, s = c.wrap inner
  · obtain ⟨inner, rfl⟩ := hjoined
    rw [Connective.branches_wrap] at hb
    exact mem_within_wrap.2 (Or.inr ⟨b, hb, hmem⟩)
  · rw [Connective.branches_of_ne (not_exists.1 hjoined)] at hb
    rwa [← List.mem_singleton.1 hb]

theorem mem_within_cond {leaf : Shape} (hl : leaf.isLeaf = true)
    (h : leaf ∈ (cond test pass fail).within) :
    leaf ∈ test.within ∨ leaf ∈ pass.within ∨ leaf ∈ fail.within := by
  rcases cond_cases test pass fail with ⟨-, heq⟩ | ⟨-, heq⟩ | ⟨-, heq⟩ <;> rw [heq] at h
  · exact Or.inr (Or.inl h)
  · exact Or.inr (Or.inr h)
  · exact (mem_within_when.1 h).resolve_left (by rintro rfl; cases hl)

theorem mem_within_along {leaf : Shape} (hl : leaf.isLeaf = true)
    (h : leaf ∈ (along edge label s).within) : leaf ∈ s.within := by
  rcases along_cases edge label s with ⟨rfl, heq⟩ | ⟨-, heq⟩ <;> rw [heq] at h
  · rw [List.mem_singleton.1 h] at hl
    cases hl
  · exact (mem_within_field.1 h).resolve_left (by rintro rfl; cases hl)

theorem normal_nothing : Normal (c.wrap []) :=
  normal_wrap.2 ⟨⟨by simp, List.nodup_nil, fun _ h => absurd h List.not_mem_nil⟩,
    fun _ h => absurd h List.not_mem_nil⟩

theorem normal_along (h : Normal s) : Normal (along edge label s) := by
  rcases along_cases edge label s with ⟨-, heq⟩ | ⟨hne, heq⟩
  · rw [heq]
    exact normal_nothing (c := .all)
  · rw [heq]
    exact .field hne h

end Shape

end LinkedShapes
