import Mathlib.Data.List.Forall2
import LinkedShapes.Proofs.Description.Runs
import LinkedShapes.Proofs.Graph.Isomorphism

/-!
# Runs that draw labels in another order

Two descriptions that say the same in another order are read alike, but the labels of unnamed
resources are drawn in another order for them. Such runs are compared by telling which label on
the one side stands for which on the other. Runs that follow on one another relate the labels that
each of them draws, whatever the order in which the other side has them.

* `Links`: the labels that two runs draw stand for each other one to one.
* `Mirrors`: wherever one computation succeeds, so does the other, with a result that is the same
  up to labels that stand for each other. `Mirrors.bind` and `Mirrors.trans` put such computations
  together, and `mirrors_sequence` allows for them to be run in another order.
* `isIsomorphic_of_alike`: graphs that are the same up to such labels are isomorphic.
-/

namespace LinkedShapes.Description

open Labels (Spells)

variable {α β γ δ : Type} {ρ ρ' : String → String → Prop} {L L₁ L₂ M M₁ M₂ N N₁ K K₁ : Labels}
variable {root : Json}
variable {t u v : Term} {g g' g'' : Graph}

/-! ## Labels that stand for each other -/

/-- The labels that one run draws and those that another run draws stand for each other, one to
one. -/
structure Links (ρ : String → String → Prop) (L L₁ M M₁ : Labels) : Prop where
  left : L.Leaves L₁
  right : M.Leaves M₁
  drawn : ∀ a b, ρ a b → L.Between L₁ a ∧ M.Between M₁ b
  unique : ∀ a b a' b', ρ a b → ρ a' b' → (a = a' ↔ b = b')

/-- No label stands for another. -/
def nothing : String → String → Prop := fun _ _ => False

/-- The labels that stand for each other in either way. -/
def either (ρ ρ' : String → String → Prop) : String → String → Prop := fun a b => ρ a b ∨ ρ' a b

namespace Links

theorem nothing : Links nothing L L M M :=
  ⟨.refl L, .refl M, fun _ _ => False.elim, fun _ _ _ _ => False.elim⟩

/-- A single label on either side. -/
theorem single :
    Links (fun a b => a = L.label 0 ∧ b = M.label 0) L (L.after 1) M (M.after 1) where
  left := .one L
  right := .one M
  drawn := by
    rintro a b ⟨rfl, rfl⟩
    exact ⟨L.between_one, M.between_one⟩
  unique := by
    rintro a b a' b' ⟨rfl, rfl⟩ ⟨rfl, rfl⟩
    exact iff_of_true rfl rfl

/-- One run after the other, where what the other side draws for them is told apart. -/
theorem either (h : Links ρ L L₁ M M₁) (h' : Links ρ' L₁ L₂ N N₁) (hleaves : K.Leaves K₁)
    (hleft : ∀ b, M.Between M₁ b → K.Between K₁ b) (hright : ∀ b, N.Between N₁ b → K.Between K₁ b)
    (hne : ∀ b b', M.Between M₁ b → N.Between N₁ b' → b ≠ b') :
    Links (either ρ ρ') L L₂ K K₁ := by
  refine ⟨h.left.trans h'.left, hleaves, ?_, ?_⟩
  · rintro a b (hab | hab)
    · obtain ⟨ha, hb⟩ := h.drawn a b hab
      exact ⟨ha.leaves h'.left, hleft b hb⟩
    · obtain ⟨ha, hb⟩ := h'.drawn a b hab
      exact ⟨h.left.between ha, hright b hb⟩
  · rintro a b a' b' (hab | hab) (hab' | hab')
    · exact h.unique a b a' b' hab hab'
    · obtain ⟨ha, hb⟩ := h.drawn a b hab
      obtain ⟨ha', hb'⟩ := h'.drawn a' b' hab'
      exact iff_of_false (ha.ne (.refl L₁) ha') (hne b b' hb hb')
    · obtain ⟨ha, hb⟩ := h'.drawn a b hab
      obtain ⟨ha', hb'⟩ := h.drawn a' b' hab'
      exact iff_of_false (ha'.ne (.refl L₁) ha).symm (hne b' b hb' hb).symm
    · exact h'.unique a b a' b' hab hab'

theorem append (h : Links ρ L L₁ M M₁) (h' : Links ρ' L₁ L₂ M₁ M₂) :
    Links (Description.either ρ ρ') L L₂ M M₂ :=
  h.either h' (h.right.trans h'.right) (fun _ hb => hb.leaves h'.right)
    (fun _ hb => h.right.between hb) fun _ _ hb hb' => hb.ne (.refl M₁) hb'

theorem swap (h : Links ρ L L₁ M₁ M₂) (h' : Links ρ' L₁ L₂ M M₁) :
    Links (Description.either ρ ρ') L L₂ M M₂ :=
  h.either h' (h'.right.trans h.right) (fun _ hb => h'.right.between hb)
    (fun _ hb => hb.leaves h.right) fun _ _ hb hb' => (hb'.ne (.refl M₁) hb).symm

/-- The labels of a third run that stand for those of a second one that stand for those of the
first. -/
theorem comp (h : Links ρ L L₁ M M₁) (h' : Links ρ' M M₁ N N₁) :
    Links (Relation.Comp ρ ρ') L L₁ N N₁ where
  left := h.left
  right := h'.right
  drawn := by
    rintro a c ⟨b, hb, hb'⟩
    exact ⟨(h.drawn a b hb).1, (h'.drawn b c hb').2⟩
  unique := by
    rintro a c a' c' ⟨b, hab, hbc⟩ ⟨b', hab', hbc'⟩
    exact (h.unique a b a' b' hab hab').trans (h'.unique b c b' c' hbc hbc')

end Links

/-! ## Results that are the same up to labels -/

/-- Every element of each list is related to one of the other. -/
def SetLike (R : α → β → Prop) (xs : List α) (ys : List β) : Prop :=
  (∀ x ∈ xs, ∃ y ∈ ys, R x y) ∧ ∀ y ∈ ys, ∃ x ∈ xs, R x y

namespace SetLike

variable {R R' : α → β → Prop} {S : β → γ → Prop} {xs xs' : List α} {ys ys' : List β}
  {zs : List γ}

theorem nil : SetLike R [] [] :=
  ⟨fun _ h => absurd h List.not_mem_nil, fun _ h => absurd h List.not_mem_nil⟩

theorem mono (h : SetLike R xs ys) (hr : ∀ x y, R x y → R' x y) : SetLike R' xs ys := by
  refine ⟨fun x hx => ?_, fun y hy => ?_⟩
  · obtain ⟨y, hy, hxy⟩ := h.1 x hx
    exact ⟨y, hy, hr x y hxy⟩
  · obtain ⟨x, hx, hxy⟩ := h.2 y hy
    exact ⟨x, hx, hr x y hxy⟩

theorem cons {x : α} {y : β} (hxy : R x y) (h : SetLike R xs ys) :
    SetLike R (x :: xs) (y :: ys) := by
  refine ⟨List.forall_mem_cons.2 ⟨⟨y, List.mem_cons_self, hxy⟩, fun x hx => ?_⟩,
    List.forall_mem_cons.2 ⟨⟨x, List.mem_cons_self, hxy⟩, fun y hy => ?_⟩⟩
  · obtain ⟨y', hy', hr⟩ := h.1 x hx
    exact ⟨y', List.mem_cons_of_mem _ hy', hr⟩
  · obtain ⟨x', hx', hr⟩ := h.2 y hy
    exact ⟨x', List.mem_cons_of_mem _ hx', hr⟩

/-- The order and repetitions do not matter. -/
theorem congr (h : SetLike R xs ys) (hx : ∀ x, x ∈ xs' ↔ x ∈ xs) (hy : ∀ y, y ∈ ys' ↔ y ∈ ys) :
    SetLike R xs' ys' := by
  refine ⟨fun x hm => ?_, fun y hm => ?_⟩
  · obtain ⟨y, hmem, hr⟩ := h.1 x ((hx x).1 hm)
    exact ⟨y, (hy y).2 hmem, hr⟩
  · obtain ⟨x, hmem, hr⟩ := h.2 y ((hy y).1 hm)
    exact ⟨x, (hx x).2 hmem, hr⟩

theorem comp (h : SetLike R xs ys) (h' : SetLike S ys zs) :
    SetLike (Relation.Comp R S) xs zs := by
  refine ⟨fun x hx => ?_, fun z hz => ?_⟩
  · obtain ⟨y, hy, hr⟩ := h.1 x hx
    obtain ⟨z, hz, hs⟩ := h'.1 y hy
    exact ⟨z, hz, y, hr, hs⟩
  · obtain ⟨y, hy, hs⟩ := h'.2 z hz
    obtain ⟨x, hx, hr⟩ := h.2 y hy
    exact ⟨x, hx, y, hr, hs⟩

/-- The elements of lists that are related. -/
theorem flatten {xss : List (List α)} {yss : List (List β)} (h : SetLike (SetLike R) xss yss) :
    SetLike R xss.flatten yss.flatten := by
  refine ⟨fun x hx => ?_, fun y hy => ?_⟩
  · obtain ⟨xs, hxs, hx⟩ := List.mem_flatten.1 hx
    obtain ⟨ys, hys, hr⟩ := h.1 xs hxs
    obtain ⟨y, hy, hxy⟩ := hr.1 x hx
    exact ⟨y, List.mem_flatten.2 ⟨ys, hys, hy⟩, hxy⟩
  · obtain ⟨ys, hys, hy⟩ := List.mem_flatten.1 hy
    obtain ⟨xs, hxs, hr⟩ := h.2 ys hys
    obtain ⟨x, hx, hxy⟩ := hr.2 y hy
    exact ⟨x, List.mem_flatten.2 ⟨xs, hxs, hx⟩, hxy⟩

end SetLike

/-- Terms are the same, or blank nodes that were drawn with labels that stand for each other. -/
inductive TermAlike (root : Json) (ρ : String → String → Prop) : Term → Term → Prop
  | same {t : Term} : ¬ Unwritten root t → TermAlike root ρ t t
  | drawn {a b : String} : ¬ Spells root.strings a → ¬ Spells root.strings b → ρ a b →
      TermAlike root ρ (.blankNode a) (.blankNode b)

theorem TermAlike.mono (h : TermAlike root ρ t u) (hle : ∀ a b, ρ a b → ρ' a b) :
    TermAlike root ρ' t u := by
  cases h with
  | same hd => exact .same hd
  | drawn ha hb hr => exact .drawn ha hb (hle _ _ hr)

theorem TermAlike.comp (h : TermAlike root ρ t u) (h' : TermAlike root ρ' u v) :
    TermAlike root (Relation.Comp ρ ρ') t v := by
  cases h with
  | same hd =>
    cases h' with
    | same => exact .same hd
    | drawn ha _ _ => exact absurd ⟨_, ha, rfl⟩ hd
  | @drawn a b ha hb hr =>
    cases h' with
    | same hd => exact absurd ⟨b, hb, rfl⟩ hd
    | drawn _ hc hr' => exact .drawn ha hc ⟨b, hr, hr'⟩

theorem TermAlike.isResource (h : TermAlike root ρ t u) : u.isResource = t.isResource := by
  cases h <;> rfl

/-- Triples are the same up to labels. -/
structure TripleAlike (root : Json) (ρ : String → String → Prop) (t u : Triple) : Prop where
  subject : TermAlike root ρ t.subject u.subject
  predicate : u.predicate = t.predicate
  object : TermAlike root ρ t.object u.object

/-- Graphs are the same up to labels. -/
def GraphAlike (root : Json) (ρ : String → String → Prop) (g h : Graph) : Prop :=
  SetLike (TripleAlike root ρ) g.triples h.triples

/-- Terms and the triples that describe them are the same up to labels. -/
def DescribedAlike (root : Json) (ρ : String → String → Prop) (v w : Described) : Prop :=
  TermAlike root ρ v.1 w.1 ∧ GraphAlike root ρ v.2 w.2

theorem TripleAlike.mono {t u : Triple} (h : TripleAlike root ρ t u) (hle : ∀ a b, ρ a b → ρ' a b) :
    TripleAlike root ρ' t u :=
  ⟨h.subject.mono hle, h.predicate, h.object.mono hle⟩

theorem TripleAlike.comp {t u v : Triple} (h : TripleAlike root ρ t u)
    (h' : TripleAlike root ρ' u v) : TripleAlike root (Relation.Comp ρ ρ') t v :=
  ⟨h.subject.comp h'.subject, h'.predicate.trans h.predicate, h.object.comp h'.object⟩

theorem GraphAlike.mono (h : GraphAlike root ρ g g') (hle : ∀ a b, ρ a b → ρ' a b) :
    GraphAlike root ρ' g g' :=
  SetLike.mono h fun _ _ ht => ht.mono hle

theorem GraphAlike.comp (h : GraphAlike root ρ g g') (h' : GraphAlike root ρ' g' g'') :
    GraphAlike root (Relation.Comp ρ ρ') g g'' :=
  (SetLike.comp h h').mono fun _ _ ⟨_, ht, hu⟩ => ht.comp hu

theorem DescribedAlike.mono {v w : Described} (h : DescribedAlike root ρ v w)
    (hle : ∀ a b, ρ a b → ρ' a b) : DescribedAlike root ρ' v w :=
  ⟨h.1.mono hle, h.2.mono hle⟩

theorem DescribedAlike.comp {u v w : Described} (h : DescribedAlike root ρ u v)
    (h' : DescribedAlike root ρ' v w) : DescribedAlike root (Relation.Comp ρ ρ') u w :=
  ⟨h.1.comp h'.1, h.2.comp h'.2⟩

/-! ## Computations that mirror each other -/

/-- Wherever one computation succeeds, so does the other, with a result that is the same up to the
labels that they draw. -/
def Mirrors (root : Json) (R : (String → String → Prop) → α → β → Prop) (m : Decoding α)
    (m' : Decoding β) : Prop :=
  ∀ L L₁ M x, L.FreshFor root → M.FreshFor root → m L = .ok (x, L₁) →
    ∃ y M₁ ρ, m' M = .ok (y, M₁) ∧ Links ρ L L₁ M M₁ ∧ R ρ x y

namespace Mirrors

variable {R : (String → String → Prop) → α → β → Prop} {S : (String → String → Prop) → β → γ → Prop}
  {T : (String → String → Prop) → γ → δ → Prop} {m : Decoding α} {m' : Decoding β}
  {m'' : Decoding γ}

theorem pure {x : α} {y : β} (h : R nothing x y) : Mirrors root R (pure x) (pure y) := by
  intro L L₁ M x' _ _ hx
  cases hx
  exact ⟨y, M, nothing, rfl, .nothing, h⟩

theorem lift {e : Except DecodeError α} {e' : Except DecodeError β}
    (h : ∀ x, e = .ok x → ∃ y, e' = .ok y ∧ R nothing x y) :
    Mirrors root R (liftM e) (liftM e') := by
  intro L L₁ M x _ _ hx
  obtain ⟨hok, rfl⟩ := ok_of_run_lift hx
  obtain ⟨y, hy, hxy⟩ := h x hok
  exact ⟨y, M, nothing, lift_of_ok hy, .nothing, hxy⟩

theorem bind {f : α → Decoding γ} {f' : β → Decoding δ} (h : Mirrors root R m m')
    (hf : ∀ ρ x y, R ρ x y → Mirrors root (fun ρ' => T (either ρ ρ')) (f x) (f' y)) :
    Mirrors root T (m >>= f) (m' >>= f') := by
  intro L L₂ M z hL hM hz
  obtain ⟨x, L₁, hx, hz⟩ := run_ok_of_bind hz
  obtain ⟨y, M₁, ρ, hy, hlinks, hxy⟩ := h L L₁ M x hL hM hx
  obtain ⟨w, M₂, ρ', hw, hlinks', hzw⟩ := hf ρ x y hxy L₁ L₂ M₁ z
    (hL.leaves hlinks.left) (hM.leaves hlinks.right) hz
  exact ⟨w, M₂, _, (bind_of_ok hy).trans hw, hlinks.append hlinks', hzw⟩

theorem trans {R'' : (String → String → Prop) → α → γ → Prop} (h : Mirrors root R m m')
    (h' : Mirrors root S m' m'')
    (hr : ∀ ρ ρ' x y z, R ρ x y → S ρ' y z → R'' (Relation.Comp ρ ρ') x z) :
    Mirrors root R'' m m'' := by
  intro L L₁ N x hL hN hx
  obtain ⟨y, M₁, ρ, hy, hlinks, hxy⟩ := h L L₁ L x hL hL hx
  obtain ⟨z, N₁, ρ', hz, hlinks', hyz⟩ := h' L M₁ N y hL hN hy
  exact ⟨z, N₁, _, hz, hlinks.comp hlinks', hr ρ ρ' x y z hxy hyz⟩

end Mirrors

/-- A label that is drawn stands for another one that is drawn. -/
theorem mirrors_freshBlank : Mirrors root (TermAlike root) freshBlank freshBlank := by
  intro L L₁ M x hL hM hx
  cases hx
  exact ⟨_, _, _, rfl, .single, .drawn (hL 0) (hM 0) ⟨rfl, rfl⟩⟩

/-! ## Sequences -/

/-- The results of several computations, run one after the other. -/
def sequence : List (Decoding α) → Decoding (List α)
  | [] => pure []
  | m :: ms => do
    let x ← m
    return x :: (← sequence ms)

section Sequence

variable {R : (String → String → Prop) → α → α → Prop} {ms ms' : List (Decoding α)}

theorem mirrors_sequence_cons {m m' : Decoding α}
    (hmono : ∀ ρ ρ' x y, (∀ a b, ρ a b → ρ' a b) → R ρ x y → R ρ' x y) (hm : Mirrors root R m m')
    (h : Mirrors root (fun ρ => SetLike (R ρ)) (sequence ms) (sequence ms')) :
    Mirrors root (fun ρ => SetLike (R ρ)) (sequence (m :: ms)) (sequence (m' :: ms')) := by
  refine hm.bind fun ρ x y hxy => h.bind fun ρ' xs ys hys => .pure ?_
  refine .cons (hmono _ _ _ _ (fun a b hr => Or.inl hr) hxy) (hys.mono fun u v huv => ?_)
  exact hmono _ _ _ _ (fun a b hr => Or.inr (Or.inl hr)) huv

/-- Computations that mirror each other one by one do so in sequence. -/
theorem mirrors_sequence_congr (hmono : ∀ ρ ρ' x y, (∀ a b, ρ a b → ρ' a b) → R ρ x y → R ρ' x y)
    (h : List.Forall₂ (Mirrors root R) ms ms') :
    Mirrors root (fun ρ => SetLike (R ρ)) (sequence ms) (sequence ms') := by
  induction h with
  | nil => exact .pure .nil
  | cons hm _ ih => exact mirrors_sequence_cons hmono hm ih

/-- Two computations may be run in the opposite order. -/
theorem mirrors_sequence_swap {m₁ m₂ : Decoding α}
    (hmono : ∀ ρ ρ' x y, (∀ a b, ρ a b → ρ' a b) → R ρ x y → R ρ' x y)
    (h₁ : Mirrors root R m₁ m₁) (h₂ : Mirrors root R m₂ m₂)
    (h : Mirrors root (fun ρ => SetLike (R ρ)) (sequence ms) (sequence ms')) :
    Mirrors root (fun ρ => SetLike (R ρ)) (sequence (m₁ :: m₂ :: ms))
      (sequence (m₂ :: m₁ :: ms')) := by
  intro L L₃ M zs hL hM hz
  obtain ⟨x, L₁, hx, hz⟩ := run_ok_of_bind hz
  obtain ⟨ws, L₃', hws, hz⟩ := run_ok_of_bind hz
  cases hz
  obtain ⟨y, L₂, hy, hz⟩ := run_ok_of_bind hws
  obtain ⟨xs, L₃', hxs, hz⟩ := run_ok_of_bind hz
  cases hz
  -- the other side starts with the second computation
  have hL₁ : L₁.FreshFor root := by
    obtain ⟨_, _, _, -, hlinks, -⟩ := h₁ L L₁ M x hL hM hx
    exact hL.leaves hlinks.left
  obtain ⟨y', M₁, ρ₂, hy', hlinks₂, hyy⟩ := h₂ L₁ L₂ M y hL₁ hM hy
  have hM₁ := hM.leaves hlinks₂.right
  obtain ⟨x', M₂, ρ₁, hx', hlinks₁, hxx⟩ := h₁ L L₁ M₁ x hL hM₁ hx
  obtain ⟨ys, M₃, ρ₃, hys, hlinks₃, hxys⟩ := h L₂ L₃ M₂ xs (hL₁.leaves hlinks₂.left)
    (hM₁.leaves hlinks₁.right) hxs
  refine ⟨y' :: x' :: ys, M₃, either (either ρ₁ ρ₂) ρ₃, ?_,
    (hlinks₁.swap hlinks₂).append hlinks₃, ?_⟩
  · exact (bind_of_ok hy').trans
      (bind_of_ok ((bind_of_ok hx').trans (bind_of_ok hys)))
  · have hxx := hmono _ (either (either ρ₁ ρ₂) ρ₃) x x' (fun a b hr => Or.inl (Or.inl hr)) hxx
    have hyy := hmono _ (either (either ρ₁ ρ₂) ρ₃) y y' (fun a b hr => Or.inl (Or.inr hr)) hyy
    have hrest := hxys.mono fun u v => hmono _ (either (either ρ₁ ρ₂) ρ₃) u v fun a b => Or.inr
    exact (SetLike.cons hxx (.cons hyy hrest)).congr (fun _ => Iff.rfl)
      fun v => (List.Perm.swap x' y' ys).mem_iff

theorem Mirrors.trans_setLike {m m' m'' : Decoding (List α)}
    (hcomp : ∀ ρ ρ' x y z, R ρ x y → R ρ' y z → R (Relation.Comp ρ ρ') x z)
    (h : Mirrors root (fun ρ => SetLike (R ρ)) m m')
    (h' : Mirrors root (fun ρ => SetLike (R ρ)) m' m'') :
    Mirrors root (fun ρ => SetLike (R ρ)) m m'' :=
  h.trans h' fun ρ ρ' _ _ _ hxy hyz =>
    (hxy.comp hyz).mono fun x z ⟨y, hx, hz⟩ => hcomp ρ ρ' x y z hx hz

/-- Computations that mirror themselves may be run in any order. -/
theorem mirrors_sequence_perm (hmono : ∀ ρ ρ' x y, (∀ a b, ρ a b → ρ' a b) → R ρ x y → R ρ' x y)
    (hcomp : ∀ ρ ρ' x y z, R ρ x y → R ρ' y z → R (Relation.Comp ρ ρ') x z)
    (hself : ∀ m ∈ ms, Mirrors root R m m) (h : ms.Perm ms') :
    Mirrors root (fun ρ => SetLike (R ρ)) (sequence ms) (sequence ms') := by
  induction h with
  | nil => exact .pure .nil
  | cons m _ ih =>
    obtain ⟨hfirst, hrest⟩ := List.forall_mem_cons.1 hself
    exact mirrors_sequence_cons hmono hfirst (ih hrest)
  | swap m₁ m₂ ms =>
    obtain ⟨hfirst, hself⟩ := List.forall_mem_cons.1 hself
    obtain ⟨hsecond, hrest⟩ := List.forall_mem_cons.1 hself
    exact mirrors_sequence_swap hmono hfirst hsecond
      (mirrors_sequence_congr hmono (List.forall₂_same.2 hrest))
  | trans hp _ ih ih' =>
    have hmid := fun m hm => hself m (hp.mem_iff.2 hm)
    exact (ih hself).trans_setLike hcomp (ih' hmid)

/-- Computations that mirror each other in another order do so in sequence. -/
theorem mirrors_sequence {mid : List (Decoding α)}
    (hmono : ∀ ρ ρ' x y, (∀ a b, ρ a b → ρ' a b) → R ρ x y → R ρ' x y)
    (hcomp : ∀ ρ ρ' x y z, R ρ x y → R ρ' y z → R (Relation.Comp ρ ρ') x z)
    (hself : ∀ m ∈ ms, Mirrors root R m m) (hp : ms.Perm mid)
    (h : List.Forall₂ (Mirrors root R) mid ms') :
    Mirrors root (fun ρ => SetLike (R ρ)) (sequence ms) (sequence ms') :=
  (mirrors_sequence_perm hmono hcomp hself hp).trans_setLike hcomp (mirrors_sequence_congr hmono h)

end Sequence

/-! ## Graphs -/

/-- The drawn label that stands for a label, if it was drawn; other labels are kept. -/
noncomputable def paired (root : Json) (ρ : String → String → Prop) (label : String) : String :=
  open Classical in
  if h : ¬ Spells root.strings label ∧ ∃ b, ρ label b then h.2.choose else label

/-- Does a label stand for another that was drawn? -/
def IsLinked (root : Json) (ρ : String → String → Prop) (label : String) : Prop :=
  ¬ Spells root.strings label ∧ ∃ b, ¬ Spells root.strings b ∧ ρ label b

section Renaming

variable {label : String}

theorem paired_of_drawn (hlinks : Links ρ L L₁ M M₁) {a b : String}
    (ha : ¬ Spells root.strings a) (hr : ρ a b) : paired root ρ a = b := by
  have h : ¬ Spells root.strings a ∧ ∃ b, ρ a b := ⟨ha, b, hr⟩
  exact (dif_pos h).trans ((hlinks.unique a _ a b h.2.choose_spec hr).1 rfl)

theorem paired_of_written (h : Spells root.strings label) : paired root ρ label = label :=
  dif_neg fun hd => hd.1 h

theorem TermAlike.rename (hlinks : Links ρ L L₁ M M₁) (h : TermAlike root ρ t u) :
    u = t.rename (paired root ρ) := by
  cases h with
  | same hd =>
    cases t with
    | blankNode label =>
      have hwritten : Spells root.strings label := not_not.1 fun hno => hd ⟨label, hno, rfl⟩
      exact congrArg Term.blankNode (paired_of_written hwritten).symm
    | iri _ | literal _ => rfl
  | drawn ha _ hr => exact congrArg Term.blankNode (paired_of_drawn hlinks ha hr).symm

theorem TripleAlike.rename {t u : Triple} (hlinks : Links ρ L L₁ M M₁)
    (h : TripleAlike root ρ t u) : u = t.rename (paired root ρ) := by
  cases u
  unfold Triple.rename
  rw [← h.subject.rename hlinks, ← h.object.rename hlinks, ← h.predicate]

theorem TermAlike.written_or_linked (h : TermAlike root ρ (.blankNode label) u) :
    Spells root.strings label ∨ IsLinked root ρ label := by
  cases h with
  | same hd => exact Or.inl (not_not.1 fun hno => hd ⟨label, hno, rfl⟩)
  | @drawn _ b ha hb hr => exact Or.inr ⟨ha, b, hb, hr⟩

theorem GraphAlike.written_or_linked (h : GraphAlike root ρ g g') (hl : label ∈ g.blanks) :
    Spells root.strings label ∨ IsLinked root ρ label := by
  obtain ⟨t, ht, heq⟩ := Graph.mem_blanks.1 hl
  obtain ⟨u, -, htu⟩ := h.1 t ht
  rcases heq with heq | heq
  · exact (heq ▸ htu.subject).written_or_linked
  · exact (heq ▸ htu.object).written_or_linked

end Renaming

/-- Labels are renamed one to one: those that are written are none of those that were drawn. -/
theorem GraphAlike.renames (h : GraphAlike root ρ g g') (hlinks : Links ρ L L₁ M M₁) :
    Graph.Renames (paired root ρ) g g' where
  injOn a ha b hb heq := by
    rcases h.written_or_linked ha with hwa | ⟨hna, c, hc, hac⟩ <;>
      rcases h.written_or_linked hb with hwb | ⟨hnb, d, hd, hbd⟩
    · rwa [paired_of_written hwa, paired_of_written hwb] at heq
    · rw [paired_of_written hwa, paired_of_drawn hlinks hnb hbd] at heq
      exact absurd (heq ▸ hwa) hd
    · rw [paired_of_written hwb, paired_of_drawn hlinks hna hac] at heq
      exact absurd (heq ▸ hwb) hc
    · rw [paired_of_drawn hlinks hna hac, paired_of_drawn hlinks hnb hbd] at heq
      exact (hlinks.unique a c b d hac hbd).2 heq
  triples t := by
    constructor
    · intro ht
      obtain ⟨u, hu, hut⟩ := h.2 t ht
      exact ⟨u, hu, hut.rename hlinks⟩
    · rintro ⟨u, hu, rfl⟩
      obtain ⟨v, hv, huv⟩ := h.1 u hu
      rwa [← huv.rename hlinks]

/-- Graphs that are the same up to labels that were drawn are isomorphic. -/
theorem isIsomorphic_of_alike (h : GraphAlike root ρ g g') (hlinks : Links ρ L L₁ M M₁)
    (hg : g.Stored) (hg' : g'.Stored) : g.isIsomorphic g' = true :=
  Graph.isIsomorphic_of_rename hg hg' (h.renames hlinks)

end LinkedShapes.Description
