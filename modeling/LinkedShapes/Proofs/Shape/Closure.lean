import LinkedShapes.Proofs.Shape.Driver
import LinkedShapes.Proofs.Shape.Probe
import LinkedShapes.Proofs.Shape.Saturation
import LinkedShapes.Proofs.Sorted

/-!
# Inference is closed, but for booleans

A driver is an expanded shape without guards, so that driving it again expands it again. What that
adds stands in the driver already, unless it follows from a choice between booleans: a bound of one
value where two were allowed. Beside the bound itself, the additions can make branches equal that
were not, so that a connective with nothing but these branches vanishes and joins the one around it.

* `Shape.AgreeDown`: two shapes have the same answer, and so have their fields, down to some depth.
* `Shape.ask_expand_of_orderless`: answers that are combined without regard to order and repetition
  remain, if nothing that is added changes those of conjunctions.
* `Shape.ask_expand_of_keepsApart`: where branches are kept apart, all answers remain.
* `Shape.drive_drive`: what driving a driver again changes.
-/

namespace LinkedShapes.Shape

open Vocabulary

variable {s test pass fail : Shape} {xs : List Shape} {edge : Edge} {label : Option String}
  {f : Field} {c : Connective} {α β : Type}

/-! ## What probes look at -/

mutual

/-- The shapes that probes look at, in a shape and in those of its fields: all that it is made of,
tests of conditionals apart. -/
def sought : Shape → List Shape
  | .and shapes => .and shapes :: soughtInAll shapes
  | .or shapes => .or shapes :: soughtInAll shapes
  | .when test pass fail => .when test pass fail :: (sought pass ++ sought fail)
  | .field edge label shape => .field edge label shape :: sought shape
  | .link iri shape => .link iri shape :: sought shape
  | s => [s]

def soughtInAll : List Shape → List Shape
  | [] => []
  | s :: shapes => sought s ++ soughtInAll shapes

end

theorem self_mem_sought (s : Shape) : s ∈ s.sought := by
  cases s <;> exact List.mem_cons_self

theorem sought_subset_wrap {x : Shape} (hx : x ∈ xs) : x.sought ⊆ (c.wrap xs).sought := by
  have hall : x.sought ⊆ soughtInAll xs := by
    induction xs with
    | nil => exact absurd hx List.not_mem_nil
    | cons y xs ih =>
      rcases List.mem_cons.1 hx with rfl | hx
      · exact List.subset_append_left _ _
      · exact List.Subset.trans (ih hx) (List.subset_append_right _ _)
  cases c <;> exact List.Subset.trans hall (List.subset_cons_self _ _)

theorem sought_subset_when : pass.sought ⊆ (Shape.when test pass fail).sought ∧
    fail.sought ⊆ (Shape.when test pass fail).sought :=
  ⟨fun _ h => List.mem_cons_of_mem _ (List.mem_append_left _ h),
    fun _ h => List.mem_cons_of_mem _ (List.mem_append_right _ h)⟩

theorem sought_subset_of_mem_fields (hf : f ∈ s.fields) : f.shape.sought ⊆ s.sought :=
  of_mem_fields (P := fun x => x.sought ⊆ s.sought) (Q := fun f => f.shape.sought ⊆ s.sought)
    (fun _ _ h _ hx => List.Subset.trans (sought_subset_wrap hx) h)
    (fun _ _ _ h => ⟨List.Subset.trans sought_subset_when.1 h,
      List.Subset.trans sought_subset_when.2 h⟩)
    (fun _ _ => List.Subset.trans (List.subset_cons_self _ _))
    (fun _ _ _ => List.Subset.trans (List.subset_cons_self _ _))
    (List.Subset.refl _) hf

/-! ## Agreement -/

/-- Two shapes have the same answer and, down to the depth, fields on the same edges, with the same
labels, whose shapes have the same answers. -/
def AgreeDown (ask : Shape → α) : Nat → Shape → Shape → Prop
  | 0, x, y => ask x = ask y
  | depth + 1, x, y => ask x = ask y ∧
    (∀ f ∈ x.fields, ∃ g ∈ y.fields, f.edge = g.edge ∧ f.label = g.label ∧
      AgreeDown ask depth f.shape g.shape) ∧
    (∀ g ∈ y.fields, ∃ f ∈ x.fields, f.edge = g.edge ∧ f.label = g.label ∧
      AgreeDown ask depth f.shape g.shape)

theorem mem_fields_withResource : f ∈ (withResource edge s).fields ↔ f ∈ s.fields := by
  unfold withResource
  split
  · simp [mem_fields_conj, fields]
  · exact Iff.rfl

/-- Shapes agree with their expansion, if answers remain when shapes are expanded and when
resources are made explicit. -/
theorem agreeDown_expand {ask : Shape → α} {D : Shape → Prop} (hn : ∀ s, D s → Normal s)
    (hask : ∀ s, D s → ask s.expand = ask s)
    (hfield : ∀ s, D s → ∀ f ∈ s.fields, D f.shape ∧ ask f.expanded.shape = ask f.shape.expand)
    (hs : D s) (depth : Nat) : AgreeDown ask depth s.expand s := by
  -- the shapes of fields are not just expanded, so the induction is on all shapes that have the
  -- answer and the fields of an expansion
  have hlike : ∀ depth s x, D s → ask x = ask s.expand →
      (∀ f, f ∈ x.fields ↔ f ∈ s.expand.fields) → AgreeDown ask depth x s := by
    intro depth
    induction depth with
    | zero => exact fun s x hs hx _ => hx.trans (hask s hs)
    | succ depth ih =>
      intro s x hs hx hfields
      have hbelow : ∀ f ∈ s.fields, AgreeDown ask depth f.expanded.shape f.shape := fun f hf =>
        ih f.shape f.expanded.shape (hfield s hs f hf).1 (hfield s hs f hf).2
          fun _ => mem_fields_withResource
      refine ⟨hx.trans (hask s hs), fun f hf => ?_, fun f hf => ?_⟩
      · obtain ⟨g, hg, rfl⟩ := (mem_fields_expand (hn s hs)).1 ((hfields f).1 hf)
        exact ⟨g, hg, rfl, rfl, hbelow g hg⟩
      · exact ⟨f.expanded, (hfields _).2 ((mem_fields_expand (hn s hs)).2 ⟨f, hf, rfl⟩), rfl, rfl,
          hbelow f hf⟩
  exact hlike depth s s.expand hs rfl fun _ => Iff.rfl

/-! ## What is added to conjunctions -/

/-- What a shape is replaced by when the conjunction is expanded that it is part of. -/
def spread (s : Shape) : List Shape := if s.isLeaf then s :: s.implied else [expand s]

theorem expand_and : expand (.and xs) = conj (xs.flatMap spread) := by
  rw [show expand (.and xs) = conj (xs.map expand) from expand_wrap (c := .all)]
  refine Connective.build_congr (c := .all) ?_
  rw [List.flatMap_map, List.flatMap_assoc]
  refine eraseDups_flatMap_congr fun x _ => ?_
  rw [spread]
  split
  · next hl =>
    rw [expand_eq_conj hl]
    exact (congrArg List.eraseDups
      (Connective.branches_build (c := .all) (normal_with_implied hl))).trans
      (eraseDups_eq_self (nodup_eraseDups _))
  · rw [List.flatMap_singleton]

section Answers

variable {p : Probe β} {a : β}

theorem answers_subset_spread (ih : ∀ x ∈ xs, x.isLeaf = false → p.ask x.expand = p.ask x) :
    xs.filterMap p.ask ⊆ (xs.flatMap spread).filterMap p.ask := by
  intro a ha
  obtain ⟨x, hx, ha⟩ := List.mem_filterMap.1 ha
  cases hl : x.isLeaf with
  | true =>
    refine List.mem_filterMap.2 ⟨x, List.mem_flatMap.2 ⟨x, hx, ?_⟩, ha⟩
    rw [spread, if_pos hl]
    exact List.mem_cons_self
  | false =>
    refine List.mem_filterMap.2 ⟨x.expand, List.mem_flatMap.2 ⟨x, hx, ?_⟩, ?_⟩
    · rw [spread, hl]
      exact List.mem_singleton_self _
    · rw [ih x hx hl, ha]

/-- Answers that expansion adds to complete constraints are bounds of a choice between booleans. -/
theorem mem_answers_spread (hcomplete : Complete xs) (hbooleans : p.ask booleans = none)
    (ih : ∀ x ∈ xs, x.isLeaf = false → p.ask x.expand = p.ask x)
    (ha : a ∈ (xs.flatMap spread).filterMap p.ask) : a ∈ xs.filterMap p.ask ∨
      ChoosesBooleans xs ∧ ∃ limit, 1 ≤ limit ∧ p.ask (.maxCount limit) = some a := by
  obtain ⟨y, hy, ha⟩ := List.mem_filterMap.1 ha
  obtain ⟨x, hx, hy⟩ := List.mem_flatMap.1 hy
  rw [spread] at hy
  split at hy
  · rcases List.mem_cons.1 hy with rfl | hy
    · exact Or.inl (List.mem_filterMap.2 ⟨y, hx, ha⟩)
    · rcases hcomplete x hx y hy with hin | rfl | ⟨hchoice, limit, hlimit, rfl⟩
      · exact Or.inl (List.mem_filterMap.2 ⟨y, hin, ha⟩)
      · rw [hbooleans] at ha
        cases ha
      · exact Or.inr ⟨hchoice, limit, hlimit, ha⟩
  · next hl =>
    rw [List.mem_singleton.1 hy, ih x hx (Bool.eq_false_iff.2 hl)] at ha
    exact Or.inl (List.mem_filterMap.2 ⟨x, hx, ha⟩)

/-! ## Answers without order -/

/-- The bounds of choices between booleans do not change the answers of the conjunctions that they
are added to. -/
def AbsorbsBounds (p : Probe β) (s : Shape) : Prop :=
  ∀ xs, .and xs ∈ s.sought → ChoosesBooleans xs → ∀ limit, 1 ≤ limit →
    ∀ a, p.ask (.maxCount limit) = some a →
      p.both (a :: xs.filterMap p.ask) = p.both (xs.filterMap p.ask)

theorem AbsorbsBounds.mono {t : Shape} (h : AbsorbsBounds p s) (hsub : t.sought ⊆ s.sought) :
    AbsorbsBounds p t :=
  fun xs hxs => h xs (hsub hxs)

/-- Answers that are combined without regard to order and repetition remain, if what is added does
not change those of conjunctions. -/
theorem ask_expand_of_orderless (hc : p.Combines) (ho : p.Orderless)
    (hbooleans : p.ask booleans = none) (hn : Normal s) (hs : Saturated s)
    (hbound : AbsorbsBounds p s) : p.ask s.expand = p.ask s := by
  induction s using Shape.induct with
  | and xs ih =>
    have ih : ∀ x ∈ xs, x.isLeaf = false → p.ask x.expand = p.ask x := fun x hx hl =>
      ih x hx ((normal_wrap (c := .all)).1 hn |>.2 x hx) (hs.of_wrap (c := .all) x hx hl)
        (hbound.mono (sought_subset_wrap (c := .all) hx))
    have hbound := hbound xs (self_mem_sought _)
    rw [expand_and, show conj _ = Connective.all.build _ from rfl, Probe.ask_build hc ho, hc.and]
    obtain ⟨g, _, _, _, hg⟩ := ho .all
    simp only [show p.both = Shape.reduce g from hg] at hbound
    rw [hg, show p.both = Shape.reduce g from hg]
    refine reduce_eq_of_absorbs (answers_subset_spread ih) fun a ha => ?_
    -- what is added is there already, or it is a bound of a choice between booleans
    rcases mem_answers_spread hs.complete hbooleans ih ha with ha | ⟨hchoice, limit, hle, ha⟩
    · exact merge_of_mem ha
    · rw [← reduce_cons, hbound hchoice limit hle a ha]
  | or xs ih =>
    have ih : ∀ x ∈ xs, p.ask x.expand = p.ask x := fun x hx =>
      ih x hx ((normal_wrap (c := .any)).1 hn |>.2 x hx) (hs.of_or x hx)
        (hbound.mono (sought_subset_wrap (c := .any) hx))
    rw [show expand (.or xs) = _ from expand_wrap (c := .any), Probe.ask_build hc ho,
      List.filterMap_map, hc.or]
    exact congrArg p.either (List.filterMap_congr ih)
  | when test pass fail _ ihp ihf =>
    obtain ⟨hnp, hnf⟩ := hn.of_when
    obtain ⟨hsp, hsf⟩ := hs.of_when
    have ihp := ihp hnp hsp (hbound.mono sought_subset_when.1)
    have ihf := ihf hnf hsf (hbound.mono sought_subset_when.2)
    rcases expand_when_cases hn with ⟨hsame, heq⟩ | heq
    · -- of two equal branches, one has the answer of both
      rw [heq, hc.when, ihp]
      have hboth : p.ask fail = p.ask pass := by rw [← ihf, ← hsame, ihp]
      obtain ⟨g, _, _, _, hg⟩ := ho .any
      rw [show p.either = Shape.reduce g from hg, reduce_filterMap_cons, reduce_filterMap_cons,
        hboth, List.filterMap_nil, show Shape.reduce g [] = none from rfl, Option.merge_none_right,
        @Std.IdempotentOp.idempotent _ (Option.merge g)]
    · rw [heq, hc.when, hc.when]
      simp only [List.filterMap_cons, ihp, ihf]
  | field edge label s _ => rw [expand_field hn, hc.field, hc.field]
  | link iri s ih =>
    rw [show expand (.link iri s) = .link iri (expand s) from rfl, hc.link, hc.link]
    exact ih hn.of_link hs.of_link (hbound.mono (List.subset_cons_self _ _))
  | leaf s hl => rw [hs.expand_of_isLeaf hl]

theorem ask_withResource_of_orderless (hc : p.Combines) (ho : p.Orderless)
    (hresource : p.ask (.datatype Abstract.resource) = none) :
    p.ask (withResource edge s) = p.ask s := by
  unfold withResource
  split
  · obtain ⟨g, _, _, _, hg⟩ := ho .all
    rw [show conj _ = Connective.all.build _ from rfl, Probe.ask_build hc ho, hg,
      reduce_filterMap_cons, reduce_filterMap_cons, hresource]
    exact Option.merge_none_right
  · rfl

end Answers

/-! ## Branches that are kept apart -/

/-- Expansion makes no branches of a connective or a conditional equal. -/
structure KeepsApart (s : Shape) : Prop where
  wrap : ∀ (c : Connective) xs, c.wrap xs ∈ s.sought → (xs.map expand).Nodup
  when : ∀ test pass fail, .when test pass fail ∈ s.sought → pass.expand ≠ fail.expand

theorem KeepsApart.mono {t : Shape} (h : KeepsApart s) (hsub : t.sought ⊆ s.sought) :
    KeepsApart t :=
  ⟨fun c xs hxs => h.wrap c xs (hsub hxs), fun t p f hw => h.when t p f (hsub hw)⟩

/-- Are the branches of a shape still different when they are expanded? -/
def hasBranchesApart : Shape → Bool
  | .and shapes | .or shapes => decide (shapes.map expand).Nodup
  | .when _ pass fail => pass.expand != fail.expand
  | _ => true

theorem keepsApart_iff : KeepsApart s ↔ ∀ part ∈ s.sought, part.hasBranchesApart = true := by
  constructor
  · intro h part hpart
    cases part with
    | and xs => exact decide_eq_true (h.wrap .all xs hpart)
    | or xs => exact decide_eq_true (h.wrap .any xs hpart)
    | when test pass fail => exact bne_iff_ne.2 (h.when test pass fail hpart)
    | _ => rfl
  · refine fun h => ⟨fun c xs hxs => ?_, fun test pass fail hw => bne_iff_ne.1 (h _ hw)⟩
    cases c <;> exact of_decide_eq_true (h _ hxs)

instance (s : Shape) : Decidable (KeepsApart s) := decidable_of_iff _ keepsApart_iff.symm

/-- The shape that stands first in what a part of a conjunction is replaced by. -/
def successor (s : Shape) : Shape := if s.isLeaf then s else expand s

theorem successor_mem_spread (s : Shape) : s.successor ∈ s.spread := by
  unfold successor spread
  split
  · exact List.mem_cons_self
  · exact List.mem_singleton_self _

/-- The expansion of a shape is joined and has parts only if the shape is and does. -/
structure KeepsForm (s : Shape) : Prop where
  joined : ∀ c : Connective, (∀ inner, s ≠ c.wrap inner) → ∀ inner, s.expand ≠ c.wrap inner
  parted : s.isLeaf = false → s.expand.isLeaf = false

/-- The parts of a conjunction have different successors, if those with parts keep their form. -/
theorem successor_injOn (hapart : (xs.map expand).Nodup)
    (hform : ∀ x ∈ xs, x.isLeaf = false → KeepsForm x) :
    ∀ x ∈ xs, ∀ y ∈ xs, x.successor = y.successor → x = y := by
  -- a part that is expanded keeps its parts, and so is no constraint that stands for itself
  have hmixed : ∀ x ∈ xs, ∀ y, x.isLeaf = false → y.isLeaf = true → x.expand ≠ y := by
    rintro x hx y hlx hly rfl
    rw [(hform x hx hlx).parted hlx] at hly
    cases hly
  intro x hx y hy h
  unfold successor at h
  cases hlx : x.isLeaf <;> cases hly : y.isLeaf <;> rw [hlx, hly] at h
  · exact List.inj_on_of_nodup_map hapart hx hy h
  · exact absurd h (hmixed x hx y hlx hly)
  · exact absurd h.symm (hmixed y hy x hly hlx)
  · exact h

/-- Where branches are kept apart, conjunctions remain conjunctions. -/
theorem expand_and_of_keepsForm (hflat : Connective.all.Flat xs) (hapart : (xs.map expand).Nodup)
    (hform : ∀ x ∈ xs, x.isLeaf = false → KeepsForm x) :
    expand (.and xs) = .and (xs.flatMap spread).eraseDups := by
  have hunjoined : ∀ y ∈ xs.flatMap spread, ∀ inner, y ≠ Connective.all.wrap inner := by
    intro y hy
    obtain ⟨x, hx, hy⟩ := List.mem_flatMap.1 hy
    unfold spread at hy
    split at hy
    · next hl =>
      exact Connective.wrap_ne_of_isLeaf (isLeaf_with_implied hl y hy)
    · next hl =>
      rw [List.mem_singleton.1 hy]
      exact (hform x hx (Bool.eq_false_iff.2 hl)).joined .all (hflat.unjoined x hx)
  rw [expand_and, show conj _ = Connective.all.build _ from rfl, Connective.build_eq,
    Connective.flatMap_branches hunjoined]
  refine Connective.close_of_several fun hone => ?_
  -- all parts would have the same successor, so that there is none
  obtain ⟨z, hz⟩ := List.length_eq_one_iff.1 hone
  have hsame : ∀ x ∈ xs, x.successor = z := fun x hx => List.mem_singleton.1 <| hz ▸
    List.mem_eraseDups.2 (List.mem_flatMap.2 ⟨x, hx, successor_mem_spread x⟩)
  cases xs with
  | nil => cases hz
  | cons x xs =>
    have hall : ∀ y ∈ x :: xs, y = x := fun y hy =>
      successor_injOn hapart hform y hy x List.mem_cons_self
        ((hsame y hy).trans (hsame x List.mem_cons_self).symm)
    cases hflat.eq_nil hall

theorem expand_or_of_keepsForm (hflat : Connective.any.Flat xs) (hapart : (xs.map expand).Nodup)
    (hform : ∀ x ∈ xs, KeepsForm x) : expand (.or xs) = .or (xs.map expand) := by
  refine (expand_wrap (c := .any)).trans (Connective.build_of_flat ⟨?_, hapart, ?_⟩)
  · rw [List.length_map]
    exact hflat.several
  · exact List.forall_mem_map.2 fun x hx => (hform x hx).joined .any (hflat.unjoined x hx)

theorem keepsForm_of_wrap {ys : List Shape} (h : expand (c.wrap xs) = c.wrap ys) :
    KeepsForm (c.wrap xs) where
  joined k hne inner heq := by
    rw [h] at heq
    cases c <;> cases k <;> first | exact hne _ rfl | cases heq
  parted _ := by
    rw [h]
    cases c <;> rfl

theorem keepsForm_of_unjoined (h : ∀ (c : Connective) inner, s.expand ≠ c.wrap inner)
    (hparts : s.expand.isLeaf = false) : KeepsForm s :=
  ⟨fun c _ => h c, fun _ => hparts⟩

/-- Where branches are kept apart, shapes keep their form. -/
theorem keepsForm_of_keepsApart (hn : Normal s) (hs : Saturated s) (ha : KeepsApart s) :
    KeepsForm s := by
  induction s using Shape.induct with
  | and xs ih =>
    obtain ⟨hflat, hall⟩ := (normal_wrap (c := .all)).1 hn
    exact keepsForm_of_wrap (c := .all) <| expand_and_of_keepsForm hflat
      (ha.wrap .all xs (self_mem_sought _)) fun x hx hl => ih x hx (hall x hx)
        (hs.of_wrap (c := .all) x hx hl) (ha.mono (sought_subset_wrap (c := .all) hx))
  | or xs ih =>
    obtain ⟨hflat, hall⟩ := (normal_wrap (c := .any)).1 hn
    exact keepsForm_of_wrap (c := .any) <| expand_or_of_keepsForm hflat
      (ha.wrap .any xs (self_mem_sought _)) fun x hx => ih x hx (hall x hx)
        (hs.of_or x hx) (ha.mono (sought_subset_wrap (c := .any) hx))
  | when test pass fail _ _ _ =>
    have heq := (expand_when_cases hn).resolve_left fun h =>
      ha.when test pass fail (self_mem_sought _) h.1
    refine keepsForm_of_unjoined (fun k inner => ?_) ?_ <;> rw [heq]
    · cases k <;> exact nofun
    · rfl
  | field edge label s _ =>
    refine keepsForm_of_unjoined (fun k inner => ?_) ?_ <;> rw [expand_field hn]
    · cases k <;> exact nofun
    · rfl
  | link iri s _ => exact keepsForm_of_unjoined (fun k _ => by cases k <;> exact nofun) rfl
  | leaf s hl =>
    have heq := hs.expand_of_isLeaf hl
    exact ⟨fun k hne => heq.symm ▸ hne, fun h => heq.symm ▸ h⟩

section Answers

variable {p : Probe β}

theorem filterMap_ask (ys : List Shape) :
    (ys.filter fun y => (p.ask y).isSome).filterMap p.ask = ys.filterMap p.ask := by
  rw [List.filterMap_filter]
  refine List.filterMap_congr fun y _ => ?_
  cases h : p.ask y <;> simp

/-- Of what takes the place of the operands, only the successors of those with an answer have one,
if additions have no answers. -/
theorem filter_spread_of_silent (hsilent : ∀ x, ∀ y ∈ implied x, p.ask y = none)
    (ih : ∀ x ∈ xs, x.isLeaf = false → p.ask x.expand = p.ask x) :
    (xs.flatMap spread).filter (fun y => (p.ask y).isSome) =
      (xs.filter fun x => (p.ask x).isSome).map successor := by
  induction xs with
  | nil => rfl
  | cons x xs ihxs =>
    obtain ⟨hx, ih⟩ := List.forall_mem_cons.1 ih
    have hspread : x.spread.filter (fun y => (p.ask y).isSome) =
        ([x].filter fun x => (p.ask x).isSome).map successor := by
      unfold spread successor
      cases hl : x.isLeaf with
      | true =>
        have hnone : x.implied.filter (fun y => (p.ask y).isSome) = [] :=
          List.filter_eq_nil_iff.2 fun y hy => by simp [hsilent x y hy]
        cases ha : (p.ask x).isSome <;> simp [ha, hl, hnone]
      | false =>
        have hsame := congrArg Option.isSome (hx hl)
        cases ha : (p.ask x).isSome <;> simp [ha, hl, hsame]
    rw [List.flatMap_cons, List.filter_append, hspread, ihxs ih, ← List.map_append,
      ← List.filter_append, List.singleton_append]

/-- Additions that have no answers leave the answers of a conjunction as they are, one by one. -/
theorem answers_spread_of_silent (hsilent : ∀ x, ∀ y ∈ implied x, p.ask y = none)
    (hxs : xs.Nodup) (hapart : (xs.map expand).Nodup)
    (hform : ∀ x ∈ xs, x.isLeaf = false → KeepsForm x)
    (ih : ∀ x ∈ xs, x.isLeaf = false → p.ask x.expand = p.ask x) :
    (xs.flatMap spread).eraseDups.filterMap p.ask = xs.filterMap p.ask := by
  let asked : Shape → Bool := fun x => (p.ask x).isSome
  have hsuccessor : ∀ x ∈ xs, p.ask x.successor = p.ask x := by
    intro x hx
    unfold successor
    split
    · rfl
    · next hl => exact ih x hx (Bool.eq_false_iff.2 hl)
  -- only the successors have answers, and these are distinct already
  have hnodup : ((xs.filter asked).map successor).Nodup :=
    (hxs.filter asked).map_on fun x hx y hy => successor_injOn hapart hform x
      (List.mem_of_mem_filter hx) y (List.mem_of_mem_filter hy)
  calc (xs.flatMap spread).eraseDups.filterMap p.ask
      = ((xs.flatMap spread).filter asked).eraseDups.filterMap p.ask := by
        rw [← filterMap_ask, eraseDups_filter]
    _ = ((xs.filter asked).map successor).filterMap p.ask := by
        rw [filter_spread_of_silent hsilent ih, eraseDups_eq_self hnodup]
    _ = (xs.filter asked).filterMap p.ask := by
        rw [List.filterMap_map]
        exact List.filterMap_congr fun x hx => hsuccessor x (List.mem_of_mem_filter hx)
    _ = xs.filterMap p.ask := filterMap_ask xs

/-- A way to combine answers for which only matters which answers there are. -/
def SetLike (combine : List β → Option β) : Prop :=
  ∀ answers more, (∀ a, a ∈ more ↔ a ∈ answers) → combine more = combine answers

/-- Where branches are kept apart, answers remain to questions that what is added does not answer,
and those for which only matters which answers there are. -/
theorem ask_expand_of_keepsApart (hc : p.Combines) (hbooleans : p.ask booleans = none)
    (hbounds : ∀ limit, p.ask (.maxCount limit) = none)
    (hp : (∀ x, ∀ y ∈ implied x, p.ask y = none) ∨ SetLike p.both)
    (hn : Normal s) (hs : Saturated s) (ha : KeepsApart s) : p.ask s.expand = p.ask s := by
  have hform : ∀ {x}, Normal x → Saturated x → KeepsApart x → KeepsForm x :=
    keepsForm_of_keepsApart
  induction s using Shape.induct with
  | and xs ih =>
    obtain ⟨hflat, hall⟩ := (normal_wrap (c := .all)).1 hn
    have hparts : ∀ x ∈ xs, x.isLeaf = false → Saturated x ∧ KeepsApart x := fun x hx hl =>
      ⟨hs.of_wrap (c := .all) x hx hl, ha.mono (sought_subset_wrap (c := .all) hx)⟩
    have ih : ∀ x ∈ xs, x.isLeaf = false → p.ask x.expand = p.ask x := fun x hx hl =>
      ih x hx (hall x hx) (hparts x hx hl).1 (hparts x hx hl).2
    have hform : ∀ x ∈ xs, x.isLeaf = false → KeepsForm x := fun x hx hl =>
      hform (hall x hx) (hparts x hx hl).1 (hparts x hx hl).2
    have hapart := ha.wrap .all xs (self_mem_sought _)
    rw [expand_and_of_keepsForm hflat hapart hform, hc.and, hc.and]
    -- what is added has no answer, or one that the conjunction has already, somewhere else
    rcases hp with hsilent | hset
    · rw [answers_spread_of_silent hsilent hflat.distinct hapart hform ih]
    · refine hset _ _ fun a => ?_
      rw [show a ∈ (xs.flatMap spread).eraseDups.filterMap p.ask ↔
        a ∈ (xs.flatMap spread).filterMap p.ask by
          simp only [List.mem_filterMap, List.mem_eraseDups]]
      refine ⟨fun ha => (mem_answers_spread hs.complete hbooleans ih ha).resolve_right ?_,
        fun ha => answers_subset_spread ih ha⟩
      rintro ⟨-, limit, -, ha⟩
      rw [hbounds] at ha
      cases ha
  | or xs ih =>
    obtain ⟨hflat, hall⟩ := (normal_wrap (c := .any)).1 hn
    have hparts : ∀ x ∈ xs, KeepsApart x := fun x hx =>
      ha.mono (sought_subset_wrap (c := .any) hx)
    rw [expand_or_of_keepsForm hflat (ha.wrap .any xs (self_mem_sought _)) fun x hx =>
      hform (hall x hx) (hs.of_or x hx) (hparts x hx), hc.or, hc.or, List.filterMap_map]
    exact congrArg p.either <| List.filterMap_congr fun x hx =>
      ih x hx (hall x hx) (hs.of_or x hx) (hparts x hx)
  | when test pass fail _ ihp ihf =>
    obtain ⟨hnp, hnf⟩ := hn.of_when
    obtain ⟨hsp, hsf⟩ := hs.of_when
    have heq := (expand_when_cases hn).resolve_left fun h =>
      ha.when test pass fail (self_mem_sought _) h.1
    rw [heq, hc.when, hc.when]
    simp only [List.filterMap_cons, ihp hnp hsp (ha.mono sought_subset_when.1),
      ihf hnf hsf (ha.mono sought_subset_when.2)]
  | field edge label s _ => rw [expand_field hn, hc.field, hc.field]
  | link iri s ih =>
    rw [show expand (.link iri s) = .link iri (expand s) from rfl, hc.link, hc.link]
    exact ih hn.of_link hs.of_link (ha.mono (List.subset_cons_self _ _))
  | leaf s hl => rw [hs.expand_of_isLeaf hl]

end Answers

/-! ## Driving a driver -/

theorem setLike_narrowest : SetLike narrowest := fun _ _ h => by
  unfold narrowest
  rw [OrderedSet.ofList_congr h]

theorem clazz?_of_mem_implied {x : Shape} (h : x ∈ s.implied) : x.clazz? = none := by
  rcases implied_cases h with ⟨_, rfl⟩ | ⟨_, rfl⟩ | ⟨_, rfl⟩ | rfl <;> rfl

theorem langs?_of_mem_implied {x : Shape} (h : x ∈ s.implied) : x.langs? = none := by
  rcases implied_cases h with ⟨_, rfl⟩ | ⟨_, rfl⟩ | ⟨_, rfl⟩ | rfl <;> rfl

theorem isLocalized_congr {x y : Shape} (h : oncePerLanguage.ask x = oncePerLanguage.ask y) :
    x.isLocalized = y.isLocalized := by
  unfold oncePerLanguage at h
  cases hx : x.isLocalized <;> cases hy : y.isLocalized <;> simp [hx, hy] at h ⊢

theorem isLocalized_expand (hn : Normal s) (hs : Saturated s) :
    s.expand.isLocalized = s.isLocalized :=
  isLocalized_congr <| ask_expand_of_orderless combines_oncePerLanguage orderless_oncePerLanguage
    rfl hn hs fun _ _ _ _ _ _ h => nomatch h

theorem minCount?_expand (hn : Normal s) (hs : Saturated s) : s.expand.minCount? = s.minCount? :=
  ask_expand_of_orderless combines_leastValues orderless_leastValues rfl hn hs
    fun _ _ _ _ _ _ h => nomatch h

/-- Wherever one of several booleans is chosen, a bound leaves room for one at most. -/
def BoundsBooleans (s : Shape) : Prop :=
  ∀ xs, .and xs ∈ s.sought → ChoosesBooleans xs → ∃ limit, limit ≤ 1 ∧
    maxCount? (.and xs) = some limit

/-- Is one of several booleans chosen by the shape? -/
def isChoiceOfBooleans : Shape → Bool
  | .range values => sharedType? values == some Xsd.boolean
  | _ => false

theorem choosesBooleans_iff : ChoosesBooleans xs ↔ ∃ x ∈ xs, x.isChoiceOfBooleans = true := by
  constructor
  · rintro ⟨values, hmem, hshared⟩
    exact ⟨_, hmem, beq_iff_eq.2 hshared⟩
  · rintro ⟨x, hx, hchoice⟩
    cases x with
    | range values => exact ⟨values, hx, beq_iff_eq.1 hchoice⟩
    | _ => cases hchoice

/-- Is a choice between booleans bounded at the shape? -/
def hasBooleansBounded : Shape → Bool
  | .and shapes => !shapes.any isChoiceOfBooleans || (maxCount? (.and shapes)).any (· ≤ 1)
  | _ => true

theorem boundsBooleans_iff :
    BoundsBooleans s ↔ ∀ part ∈ s.sought, part.hasBooleansBounded = true := by
  have hand : ∀ xs, (Shape.and xs).hasBooleansBounded = true ↔ (ChoosesBooleans xs →
      ∃ limit, limit ≤ 1 ∧ maxCount? (.and xs) = some limit) := fun xs => by
    rw [hasBooleansBounded, Bool.or_eq_true, Bool.not_eq_true', ← Bool.not_eq_true,
      List.any_eq_true, ← choosesBooleans_iff, ← imp_iff_not_or, Option.any_eq_true]
    simp only [decide_eq_true_eq, and_comm]
  constructor
  · intro h part hpart
    cases part with
    | and xs => exact (hand xs).2 (h xs hpart)
    | _ => rfl
  · exact fun h xs hxs => (hand xs).1 (h _ hxs)

instance (s : Shape) : Decidable (BoundsBooleans s) := decidable_of_iff _ boundsBooleans_iff.symm

theorem maxCount?_expand (hn : Normal s) (hs : Saturated s) (hb : BoundsBooleans s) :
    s.expand.maxCount? = s.maxCount? := by
  refine ask_expand_of_orderless combines_mostValues orderless_mostValues rfl hn hs ?_
  intro xs hxs hchoice limit hlimit a ha
  obtain ⟨bound, hle, hbound⟩ := hb xs hxs hchoice
  cases ha
  rw [show maxCount? (.and xs) = _ from combines_mostValues.and xs] at hbound
  show least (limit :: _) = least _
  rw [least_eq_reduce, reduce_cons, ← least_eq_reduce]
  rw [show least _ = _ from hbound, Option.merge_some_some,
    Nat.min_eq_right (Nat.le_trans hle hlimit)]

theorem datatype?_expand (hn : Normal s) (hs : Saturated s) (ha : KeepsApart s) :
    s.expand.datatype? = s.datatype? :=
  ask_expand_of_keepsApart combines_typeOfValues rfl (fun _ => rfl) (Or.inr setLike_narrowest) hn hs
    ha

theorem clazz?_expand (hn : Normal s) (hs : Saturated s) (ha : KeepsApart s) :
    s.expand.clazz? = s.clazz? :=
  ask_expand_of_keepsApart combines_classOfValues rfl (fun _ => rfl)
    (Or.inl fun _ _ => clazz?_of_mem_implied) hn hs ha

theorem langs?_expand (hn : Normal s) (hs : Saturated s) (ha : KeepsApart s) :
    s.expand.langs? = s.langs? :=
  ask_expand_of_keepsApart combines_langsOfValues rfl (fun _ => rfl)
    (Or.inl fun _ _ => langs?_of_mem_implied) hn hs ha

theorem isTagged_expand (hn : Normal s) (hs : Saturated s) (ha : KeepsApart s) :
    s.expand.isTagged = s.isTagged := by
  unfold isTagged
  rw [datatype?_expand hn hs ha, langs?_expand hn hs ha, isLocalized_expand hn hs]

/-- Constraints without parts stay in the conjunction that they are part of. -/
theorem mem_conjuncts_expand {x : Shape} (hl : x.isLeaf = true) (hx : x ∈ s.conjuncts) :
    x ∈ s.expand.conjuncts := by
  have hself : x ∈ x.expand.conjuncts := by
    rw [expand_eq_conj hl]
    refine (Connective.mem_branches_build (c := .all) (normal_with_implied hl)).2
      ⟨x, List.mem_cons_self, ?_⟩
    rw [Connective.branches_of_isLeaf hl]
    exact List.mem_singleton_self x
  by_cases hs : ∃ inner, s = Connective.all.wrap inner
  · obtain ⟨inner, rfl⟩ := hs
    rw [expand_wrap]
    have hall : ∀ y ∈ inner.map expand, Normal y := List.forall_mem_map.2 fun y _ => normal_expand y
    exact (Connective.mem_branches_build (c := .all) hall).2
      ⟨x.expand, List.mem_map_of_mem hx, hself⟩
  · rw [show s.conjuncts = [s] from Connective.branches_of_ne (c := .all) (not_exists.1 hs)] at hx
    rwa [← List.mem_singleton.1 hx]

/-- A constraint that a conjunction has is not added to it. -/
theorem conj_of_mem_conjuncts {x : Shape} (hn : Normal s) (hl : x.isLeaf = true)
    (hx : x ∈ s.conjuncts) : conj [s, x] = s := by
  refine Eq.trans (Connective.build_congr (c := .all) ?_)
    (Connective.build_singleton (c := .all) hn)
  have hself : Connective.all.branches x = [x] := Connective.branches_of_isLeaf hl
  have hx : x ∈ Connective.all.branches s := hx
  have hnothing : [x].removeAll (Connective.all.branches s) = [] :=
    List.filter_eq_nil_iff.2 fun y hy => by
      rw [List.mem_singleton.1 hy]
      simpa using hx
  rw [List.flatMap_cons, List.flatMap_singleton, List.flatMap_singleton, hself,
    List.eraseDups_append, hnothing, List.eraseDups_nil, List.append_nil]

/-- Where branches are kept apart, fields that lead to resources still say so. -/
theorem withResource_expand (hn : Normal s) (hs : Saturated s) (ha : KeepsApart s)
    (hr : Resourced edge s) : withResource edge s.expand = s.expand := by
  have hfields : s.expand.fields.isEmpty = s.fields.isEmpty := by
    have hmem : ∀ f, f ∈ s.expand.fields ↔ ∃ g ∈ s.fields, g.expanded = f := fun _ =>
      mem_fields_expand hn
    rw [Bool.eq_iff_iff, List.isEmpty_iff, List.isEmpty_iff, List.eq_nil_iff_forall_not_mem,
      List.eq_nil_iff_forall_not_mem]
    simp only [hmem, not_exists, not_and]
    exact ⟨fun h f hf => h _ f hf rfl, fun h _ f hf => absurd hf (h f)⟩
  have hleads : leadsToResources edge s.expand = leadsToResources edge s := by
    unfold leadsToResources
    rw [datatype?_expand hn hs ha, hfields]
  unfold withResource
  split
  · next h =>
    exact conj_of_mem_conjuncts (normal_expand s) rfl (mem_conjuncts_expand rfl (hr (hleads ▸ h)))
  · rfl

/-- A driver is driven by expanding it again. -/
theorem drive_drive_eq (s : Shape) : s.drive.drive = s.drive.expand :=
  congrArg expand (redact_of_normal (normal_expand _) fun g hg => absurd hg (guard_not_mem_drive g))

/-- Driving a driver again changes no answer, at its level or below, about the least number of
values and about values per language. It changes none about the greatest number of values, where
choices between booleans are bounded to one of them, and none about datatypes, classes and
languages, where no branches become equal. -/
theorem drive_drive (shape : Shape) (depth : Nat) :
    AgreeDown (fun s => (s.minCount?, s.isLocalized)) depth shape.drive.drive shape.drive ∧
    (BoundsBooleans shape.drive →
      AgreeDown (fun s => s.maxCount?) depth shape.drive.drive shape.drive) ∧
    (KeepsApart shape.drive → AgreeDown (fun s => (s.datatype?, s.clazz?, s.langs?, s.isTagged))
      depth shape.drive.drive shape.drive) := by
  have hn : Normal shape.drive := normal_expand _
  have hs : Saturated shape.drive := saturated_expand _
  rw [drive_drive_eq]
  -- one congruence down the levels, with as much of the invariant as each question needs
  refine ⟨?_, fun hb => ?_, fun ha => ?_⟩
  · refine agreeDown_expand (D := fun s => Normal s ∧ Saturated s) (fun s h => h.1)
      (fun s h => ?_) (fun s h f hf => ⟨⟨h.1.of_mem_fields hf, (h.2.of_mem_fields hf).2⟩, ?_⟩)
      ⟨hn, hs⟩ depth
    · rw [minCount?_expand h.1 h.2, isLocalized_expand h.1 h.2]
    · refine Prod.ext ?_ ?_
      · exact ask_withResource_of_orderless combines_leastValues orderless_leastValues rfl
      · exact isLocalized_congr <|
          ask_withResource_of_orderless combines_oncePerLanguage orderless_oncePerLanguage rfl
  · refine agreeDown_expand (D := fun s => Normal s ∧ Saturated s ∧ BoundsBooleans s)
      (fun s h => h.1) (fun s h => maxCount?_expand h.1 h.2.1 h.2.2)
      (fun s h f hf => ⟨⟨h.1.of_mem_fields hf, (h.2.1.of_mem_fields hf).2,
        fun xs hxs => h.2.2 xs (sought_subset_of_mem_fields hf hxs)⟩, ?_⟩) ⟨hn, hs, hb⟩ depth
    exact ask_withResource_of_orderless combines_mostValues orderless_mostValues rfl
  · refine agreeDown_expand (D := fun s => Normal s ∧ Saturated s ∧ KeepsApart s)
      (fun s h => h.1) (fun s h => ?_) (fun s h f hf => ?_) ⟨hn, hs, ha⟩ depth
    · rw [datatype?_expand h.1 h.2.1 h.2.2, clazz?_expand h.1 h.2.1 h.2.2,
        langs?_expand h.1 h.2.1 h.2.2, isTagged_expand h.1 h.2.1 h.2.2]
    · have hnf := h.1.of_mem_fields hf
      obtain ⟨hr, hsf⟩ := h.2.1.of_mem_fields hf
      have haf := h.2.2.mono (sought_subset_of_mem_fields hf)
      refine ⟨⟨hnf, hsf, haf⟩, ?_⟩
      show _ = (fun s => (s.datatype?, s.clazz?, s.langs?, s.isTagged)) f.shape.expand
      rw [Field.expanded, withResource_expand hnf hsf haf hr]

/-- What is told of an entry: whether it is open, its titles, and the entries that it is part of. -/
def entry : Shape :=
  .and [.field ⟨"urn:x:open", false⟩ none (.datatype Xsd.boolean),
    .field ⟨"urn:x:title", false⟩ none (.or [.lang (.ofList ["en", "it"]), .localized]),
    .field ⟨"urn:x:part", true⟩ none (.and [.when (.minCount 2) (.clazz "urn:x:Book") (.maxCount 1),
      .field ⟨"urn:x:new", false⟩ none (.range (.ofList [.term (.boolean true)]))])]

theorem drive_drive_entry :
    BoundsBooleans entry.drive ∧ KeepsApart entry.drive ∧
    AgreeDown (fun s => (s.minCount?, s.isLocalized)) 2 entry.drive.drive entry.drive ∧
    AgreeDown (fun s => s.maxCount?) 2 entry.drive.drive entry.drive ∧
    AgreeDown (fun s => (s.datatype?, s.clazz?, s.langs?, s.isTagged)) 2
      entry.drive.drive entry.drive := by
  have hbounds : BoundsBooleans entry.drive := by decide +kernel
  have hapart : KeepsApart entry.drive := by decide +kernel
  obtain ⟨hleast, hmost, htypes⟩ := drive_drive entry 2
  exact ⟨hbounds, hapart, hleast, hmost hbounds, htypes hapart⟩

/-- A choice between two booleans is bounded by two values only as long as the driver is not driven
again. An alternative that comes to differ from another one by this bound alone vanishes then, so
that its datatypes are no longer passed over. -/
theorem drive_drive_ne :
    let choice : Shape := .range (.ofList [.term (.boolean false), .term (.boolean true)])
    let either : Shape := .and [.or [.and [.datatype Xsd.boolean, .datatype Xsd.string],
      .and [.datatype Xsd.boolean, .maxCount 2, .datatype Xsd.string]], .datatype Abstract.iri]
    (choice.drive.maxCount? = some 2 ∧ choice.drive.drive.maxCount? = some 1) ∧
      (either.drive.datatype? = some Abstract.iri ∧ either.drive.drive.datatype? = none) := by
  decide +kernel

end LinkedShapes.Shape
