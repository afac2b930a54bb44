import LinkedShapes.Proofs.Description.Alike

/-!
# Reading with other labels

The labels that are drawn for unnamed resources decide nothing: from any supply, reading a
description ends with the same fault or with a graph that is the same up to these labels.

* `Outcome`: two computations end with related results, or with the same fault.
* `Parallel`: two computations that draw labels end alike from any two supplies.
* `parallel_value`: so does reading a value, by recursion on the value.
* `focusTriples_redrawn`: supplies that are fresh for a description lead to isomorphic graphs.
-/

namespace LinkedShapes.Description

open Vocabulary

variable {s : Setting} {D shape : Shape} {a : Aliases} {path : String} {L M : Labels}
variable {members found : List (String × Json)} {r r' : Term} {f : Field}

/-! ## Computations that end alike -/

/-- Two computations end with related results, or with the same fault. -/
inductive Outcome {ε α β : Type} (R : α → β → Prop) : Except ε α → Except ε β → Prop
  | ok {x : α} {y : β} : R x y → Outcome R (.ok x) (.ok y)
  | error (fault : ε) : Outcome R (.error fault) (.error fault)

namespace Outcome

variable {ε α β γ δ : Type} {R R' : α → β → Prop} {S : γ → δ → Prop} {m : Except ε α}
  {m' : Except ε β}

theorem refl {R : α → α → Prop} (hr : ∀ x, R x x) (m : Except ε α) : Outcome R m m := by
  cases m with
  | error fault => exact .error fault
  | ok x => exact .ok (hr x)

theorem bind {f : α → Except ε γ} {f' : β → Except ε δ} (h : Outcome R m m')
    (hf : ∀ x y, R x y → Outcome S (f x) (f' y)) : Outcome S (m >>= f) (m' >>= f') := by
  cases h with
  | error fault => exact .error fault
  | ok hr => exact hf _ _ hr

theorem map {f : α → γ} {f' : β → δ} (h : Outcome (fun x y => S (f x) (f' y)) m m') :
    Outcome S (m.map f) (m'.map f') := by
  cases h with
  | error fault => exact .error fault
  | ok hr => exact .ok hr

/-- What is known of results that both come about may be added. -/
theorem strengthen (h : Outcome R m m') (hr : ∀ x y, m = .ok x → m' = .ok y → R' x y) :
    Outcome R' m m' := by
  cases h with
  | error fault => exact .error fault
  | ok _ => exact .ok (hr _ _ rfl rfl)

end Outcome

/-- Two computations end alike, from whatever supplies they draw. -/
def Parallel {α β : Type} (R : α → β → Prop) (m : Decoding α) (m' : Decoding β) : Prop :=
  ∀ L M, Outcome (fun x y => R x.1 y.1) (m L) (m' M)

namespace Parallel

variable {α β γ δ : Type} {R : α → β → Prop} {S : γ → δ → Prop} {m : Decoding α}
  {m' : Decoding β}

theorem pure {x : α} {y : β} (h : R x y) : Parallel R (pure x) (pure y) :=
  fun _ _ => .ok h

theorem lift {e : Except DecodeError α} {e' : Except DecodeError β} (h : Outcome R e e') :
    Parallel R (liftM e) (liftM e') := by
  intro L M
  cases h with
  | error fault => exact .error fault
  | ok hr => exact .ok hr

theorem bind {g : α → Decoding γ} {g' : β → Decoding δ} (h : Parallel R m m')
    (hg : ∀ x y, R x y → Parallel S (g x) (g' y)) : Parallel S (m >>= g) (m' >>= g') :=
  fun L M => (h L M).bind fun x y hr => hg x.1 y.1 hr x.2 y.2

/-- What does not draw is the same on both sides. -/
theorem bind_lift {e : Except DecodeError α} {g : α → Decoding γ} {g' : α → Decoding δ}
    (hg : ∀ x, Parallel S (g x) (g' x)) : Parallel S (liftM e >>= g) (liftM e >>= g') := by
  refine (lift (.refl (fun _ => rfl) e)).bind fun x y hxy => ?_
  obtain rfl : x = y := hxy
  exact hg x

theorem throw (fault : DecodeError) : Parallel R (throw fault) (throw fault) :=
  fun _ _ => .error fault

end Parallel

/-! ## Reading ends alike -/

/-- Terms are the same, or both of them are resources. -/
def KindAlike (t u : Term) : Prop := t = u ∨ t.isResource = true ∧ u.isResource = true

theorem parallel_blankOf {id : String} : Parallel KindAlike (blankOf id) (blankOf id) := by
  unfold blankOf
  split
  · exact fun L M => .ok (Or.inr ⟨rfl, rfl⟩)
  · exact .pure (Or.inl rfl)

theorem parallel_resource {id : String} : Parallel KindAlike (resource s id) (resource s id) := by
  unfold resource
  split
  · exact parallel_blankOf
  · exact .pure (Or.inl rfl)

theorem TextReading.parallel {text : String} {m : Decoding Term}
    (hm : TextReading s shape text m) : Parallel KindAlike m m := by
  cases hm with
  | label => exact parallel_blankOf
  | resource => exact parallel_resource
  | untagged _ => exact .throw _
  | iri | tagged _ | typed _ _ | plain => exact .pure (Or.inl rfl)

theorem parallel_namedResource :
    Parallel KindAlike (namedResource s found) (namedResource s found) := by
  unfold namedResource
  cases Json.lookup Keyword.id found with
  | none => exact fun L M => .ok (Or.inr ⟨rfl, rfl⟩)
  | some id => exact .bind_lift fun text => parallel_resource

/-- Values for a field are of the same kinds. -/
def ValuesKindAlike : List Described → List Described → Prop :=
  List.Forall₂ fun v w => KindAlike v.1 w.1

/-- Folds whose steps end alike, whatever they start from, end alike. -/
theorem outcome_foldlM {α β : Type} {R : α → β → Prop} {step : Graph → α → Except DecodeError Graph}
    {step' : Graph → β → Except DecodeError Graph} {xs : List α} {ys : List β}
    (hstep : ∀ x y, R x y → ∀ g g', Outcome (fun _ _ => True) (step g x) (step' g' y))
    (h : List.Forall₂ R xs ys) (g g' : Graph) :
    Outcome (fun _ _ => True) (xs.foldlM step g) (ys.foldlM step' g') := by
  induction h generalizing g g' with
  | nil => exact .ok trivial
  | cons hxy _ ih =>
    rw [List.foldlM_cons, List.foldlM_cons]
    exact (hstep _ _ hxy g g').bind fun x y _ => ih x y

/-- Whether an inverse edge leads to a literal does not depend on the labels of resources. -/
theorem outcome_fieldTriples {vs ws : List Described} (h : ValuesKindAlike vs ws) :
    Outcome (fun _ _ => True) (fieldTriples r f vs) (fieldTriples r' f ws) := by
  cases h with
  | nil => exact .ok trivial
  | cons hv hvs =>
    unfold fieldTriples
    refine outcome_foldlM (R := fun (v w : Described) => KindAlike v.1 w.1)
      (fun v w hvw g g' => ?_) (.cons hv hvs) .empty .empty
    obtain ⟨t, nested⟩ := v
    obtain ⟨u, nested'⟩ := w
    dsimp only
    -- the fault shows the literal, which is the same on both sides
    obtain (rfl : t = u) | ⟨ht, hu⟩ := hvw
    · split
      · exact .error _
      · exact .ok trivial
    · rw [show t.isResource = true from ht, show u.isResource = true from hu, Bool.not_true,
        Bool.and_false]
      exact .ok trivial

theorem outcome_typeTriples {json : Json} :
    Outcome (fun _ _ => True) (typeTriples s r json) (typeTriples s r' json) := by
  rw [typeTriples_eq, typeTriples_eq]
  cases typeTexts json with
  | error fault => exact .error fault
  | ok texts => exact .ok trivial

mutual

/-- Reading a value ends with values of the same kinds, or with the same fault. -/
theorem parallel_value : ∀ (json : Json) (shape : Shape) (path : String),
    Parallel ValuesKindAlike (value s shape path json) (value s shape path json)
  | .null, _, _ => .pure .nil
  | .bool _, _, _ | .number _, _, _ => .pure (.cons (Or.inl rfl) .nil)
  | .string text, shape, path => by
    rw [value]
    exact (textReading s shape text).parallel.bind fun t u h => .pure (.cons h .nil)
  | .array _, _, path => .throw _
  | .object members, shape, path => by
    rw [value]
    refine .bind_lift fun a => .bind_lift fun found => ?_
    split
    · exact .bind_lift fun t => .pure (.cons (Or.inl rfl) .nil)
    · split
      · refine .bind_lift fun ts => .pure ?_
        exact List.forall₂_same.2 fun _ _ => Or.inl rfl
      · refine parallel_namedResource.bind fun t u h => ?_
        exact (parallel_fields members a t u path).bind fun _ _ _ => .pure (.cons h .nil)

theorem parallel_items : ∀ (xs : List Json) (shape : Shape) (path : String) (index : Nat),
    Parallel ValuesKindAlike (items s shape path index xs) (items s shape path index xs)
  | [], _, _, _ => .pure .nil
  | x :: xs, shape, path, index => by
    rw [items]
    refine (parallel_value x shape _).bind fun vs ws h => ?_
    exact (parallel_items xs shape path _).bind fun vs' ws' h' => .pure (List.rel_append h h')

theorem parallel_fields : ∀ (members : List (String × Json)) (a : Aliases) (r r' : Term)
    (path : String), Parallel (fun _ _ => True) (fields s a r path members)
      (fields s a r' path members)
  | [], _, _, _, _ => by
    rw [fields]
    exact .pure trivial
  | (name, json) :: members, a, r, r', path => by
    have htrue : ∀ {g g' : Graph}, Parallel (fun _ _ => True) (pure g) (pure g') := .pure trivial
    have hone : Parallel (fun _ _ => True) (fields s a r path [(name, json)])
        (fields s a r' path [(name, json)]) := by
      cases hg : a.get? name with
      | some f =>
        have hvalues : Parallel ValuesKindAlike (values s f.shape (path ++ "/" ++ name) json)
            (values s f.shape (path ++ "/" ++ name) json) := by
          cases json with
          | array xs => exact parallel_items xs _ _ 0
          | _ => exact parallel_value _ _ _
        rw [fields_values_alone hg, fields_values_alone hg]
        exact hvalues.bind fun vs ws h => .lift (outcome_fieldTriples h)
      | none =>
        cases hk : s.keywords.keyword? name with
        | none =>
          rw [fields_unknown_alone hg hk, fields_unknown_alone hg hk]
          exact .throw _
        | some keyword =>
          rw [fields_keyword_alone hg hk, fields_keyword_alone hg hk]
          split
          · exact .lift outcome_typeTriples
          · exact htrue
    rw [fields_cons, fields_cons (r := r')]
    exact hone.bind fun _ _ _ => (parallel_fields members a r r' path).bind fun _ _ _ => htrue

end

/-! ## Descriptions -/

theorem parallel_focusTriples {json : Json} :
    Parallel (fun _ _ => True) (focusTriples s D json) (focusTriples s D json) := by
  unfold focusTriples
  exact .bind_lift fun found => parallel_fields found.1 found.2 _ _ ""

theorem membersAlike_self : MembersAlike s (fun _ x y => y = x) a members members := by
  refine ⟨members, .refl _, List.forall₂_same.2 fun m _ => ⟨rfl, fun f _ => ?_, fun _ _ _ => id⟩⟩
  cases m.2 with
  | array xs => exact .array (.refl xs) (List.forall₂_same.2 fun _ _ => rfl)
  | _ => exact .alone nofun nofun rfl

/-- Every description is read like itself. -/
theorem readsAlike_self : ReadsAlike s fun _ x y => y = x where
  refl := fun _ => rfl
  leaf := fun h _ _ => h
  object := by
    rintro shape members y rfl
    refine ⟨members, rfl, fun a found _ hd => ⟨found, hd, rfl, ?_, fun _ => rfl, fun _ => ?_⟩⟩
    · exact fun _ path path' ts hts => ⟨ts, (literals_spec hts).2 path', fun _ => Iff.rfl⟩
    · exact membersAlike_self

/-- Reading a description ends with the same fault or with isomorphic graphs, whatever supplies the
labels are drawn from, as long as none of these is written in the description. -/
theorem focusTriples_redrawn {json : Json} (hL : L.FreshFor json) (hM : M.FreshFor json) :
    Outcome (fun x y => x.1.isIsomorphic y.1 = true) (focusTriples s D json L)
      (focusTriples s D json M) := by
  refine (parallel_focusTriples L M).strengthen fun x y hx hy => ?_
  -- both runs succeed, so that the second is the one that mirrors the first
  obtain ⟨g, L'⟩ := x
  obtain ⟨h, M'⟩ := y
  unfold focusTriples at hx hy
  obtain ⟨⟨members, a⟩, L₁, hroot, hg⟩ := run_ok_of_bind hx
  obtain ⟨hr, rfl⟩ := ok_of_run_lift hroot
  rw [bind_of_ok (lift_of_ok hr)] at hy
  obtain ⟨rfl, -⟩ := object_of_root hr
  obtain ⟨g', M₁, hg', hiso⟩ := fields_of_focus_alike readsAlike_self membersAlike_self hL hM hg
  obtain ⟨rfl, rfl⟩ := Prod.mk.inj (Except.ok.inj (hg'.symm.trans hy))
  exact hiso

end LinkedShapes.Description
