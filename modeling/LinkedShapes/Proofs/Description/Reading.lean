import LinkedShapes.Description.Decoding
import LinkedShapes.Proofs.Alias

/-!
# Reading, form by form

What reading makes of the forms that descriptions are made of, one lemma for each form. The
premises say what the parts are read as, so that a proof about a whole description never opens the
definition of reading.

* `value_resource`, `value_literal`, `value_tagged`: the three kinds of objects.
* `items_cons`, `fields_field`, `fields_keyword`: the items of an array, the members of an object.
* `declaredAfter_skip`, `declaredAfter_cons_new`: the keywords among the members of an object.
-/

namespace LinkedShapes.Description

open Vocabulary

variable {s : Setting} {shape : Shape} {a : Aliases} {path name keyword : String}
variable {L L' L'' : Labels} {r : Term} {g rest : Graph} {json : Json}
variable {members found : List (String × Json)}

/-! ## Computations -/

section Computations

variable {ε σ α β : Type} {m : StateT σ (Except ε) α} {f : α → StateT σ (Except ε) β} {x : α}
  {S S' : σ}

theorem bind_of_ok (h : m S = .ok (x, S')) : (m >>= f) S = f x S' := by
  show (m S >>= fun p => f p.1 p.2) = _
  rw [h]
  rfl

theorem bind_of_error {fault : ε} (h : m S = .error fault) : (m >>= f) S = .error fault := by
  show (m S >>= fun p => f p.1 p.2) = _
  rw [h]
  rfl

theorem lift_of_ok {e : Except ε α} (h : e = .ok x) :
    (liftM e : StateT σ (Except ε) α) S = .ok (x, S) := by
  rw [h]
  rfl

end Computations

theorem aliasesOf_of_ok (h : Aliases.ofShape shape s.keywords = .ok a) :
    aliasesOf s shape = .ok a := by
  unfold aliasesOf
  rw [h]
  rfl

/-! ## Keywords of an object -/

theorem objectKeyword?_of_get? {f : Field} (h : a.get? name = some f) :
    objectKeyword? s a name = none := by
  unfold objectKeyword? Aliases.contains
  rw [h]
  rfl

theorem objectKeyword?_of_keyword? (hg : a.get? name = none)
    (hk : s.keywords.keyword? name = some keyword) (ho : keyword ∈ objectKeywords) :
    objectKeyword? s a name = some keyword := by
  unfold objectKeyword? Aliases.contains
  rw [hg, hk]
  simp [ho]

theorem objectKeyword?_of_not_mem (hg : a.get? name = none)
    (hk : s.keywords.keyword? name = some keyword) (ho : keyword ∉ objectKeywords) :
    objectKeyword? s a name = none := by
  unfold objectKeyword? Aliases.contains
  rw [hg, hk]
  simp [ho]

/-- Members that are no keywords of an object declare nothing. -/
theorem declaredAfter_skip (h : ∀ m ∈ members, objectKeyword? s a m.1 = none) :
    declaredAfter s a found members = .ok found := by
  induction members with
  | nil => rfl
  | cons m members ih =>
    unfold declaredAfter
    rw [h m List.mem_cons_self]
    exact ih fun m hm => h m (List.mem_cons_of_mem _ hm)

theorem declaredAfter_cons_skip (h : objectKeyword? s a name = none) :
    declaredAfter s a found ((name, json) :: members) = declaredAfter s a found members := by
  rw [declaredAfter, h]

/-- A keyword that is met for the first time is noted. -/
theorem declaredAfter_cons_new (h : objectKeyword? s a name = some keyword)
    (hf : Json.lookup keyword found = none) :
    declaredAfter s a found ((name, json) :: members) =
      declaredAfter s a (found ++ [(keyword, json)]) members := by
  rw [declaredAfter, h]
  simp only [hf]

/-! ## Values -/

theorem values_of_not_array (h : ∀ xs, json ≠ .array xs) :
    values s shape path json = value s shape path json := by
  unfold values
  split
  · next xs => exact absurd rfl (h xs)
  · rfl

theorem value_string {text : String} {t : Term} (h : textTerm s shape text L = .ok (t, L')) :
    value s shape path (.string text) L = .ok ([(t, .empty)], L') := by
  rw [value, bind_of_ok h]
  rfl

/-- An object that describes a resource. -/
theorem value_resource (ha : Aliases.ofShape shape s.keywords = .ok a)
    (hd : declared s a members = .ok found) (hv : Json.lookup Keyword.value found = none)
    (ht : found ≠ [] ∨ shape.isTagged = false) (hn : namedResource s found L = .ok (r, L'))
    (hf : fields s a r path members L' = .ok (g, L'')) :
    value s shape path (.object members) L = .ok ([(r, g)], L'') := by
  have hl : isLiteralObject shape found = false := by
    unfold isLiteralObject
    rw [hv, Bool.or_eq_false_iff]
    refine ⟨rfl, ?_⟩
    rcases ht with hne | ht
    · rw [List.isEmpty_eq_false_iff.2 hne, Bool.false_and]
    · rw [ht, Bool.and_false]
  rw [value, bind_of_ok (lift_of_ok (aliasesOf_of_ok ha)), bind_of_ok (lift_of_ok hd)]
  simp only [hv, hl, Bool.false_eq_true, if_false]
  rw [bind_of_ok hn, bind_of_ok hf]
  rfl

/-- An object that stands for one literal. -/
theorem value_literal {t : Term} (ha : Aliases.ofShape shape s.keywords = .ok a)
    (hd : declared s a members = .ok found) (hv : Json.lookup Keyword.value found = some json)
    (ho : valueObject s shape members found json path = .ok t) :
    value s shape path (.object members) L = .ok ([(t, .empty)], L) := by
  rw [value, bind_of_ok (lift_of_ok (aliasesOf_of_ok ha)), bind_of_ok (lift_of_ok hd)]
  simp only [hv]
  rw [bind_of_ok (lift_of_ok ho)]
  rfl

/-- An object from languages to texts. -/
theorem value_tagged {ts : List Term} (ha : Aliases.ofShape shape s.keywords = .ok a)
    (hd : declared s a members = .ok []) (ht : shape.isTagged = true)
    (ho : taggedTexts path members = .ok ts) :
    value s shape path (.object members) L = .ok (ts.map (·, .empty), L) := by
  have hl : isLiteralObject shape [] = true := by
    unfold isLiteralObject
    rw [ht]
    rfl
  have hv : Json.lookup Keyword.value [] = none := rfl
  rw [value, bind_of_ok (lift_of_ok (aliasesOf_of_ok ha)), bind_of_ok (lift_of_ok hd)]
  simp only [hv, hl, if_true]
  rw [bind_of_ok (lift_of_ok ho)]
  rfl

/-! ## Items and members -/

theorem items_nil {index : Nat} : items s shape path index [] L = .ok ([], L) := by
  rw [items]
  rfl

theorem items_cons {index : Nat} {xs : List Json} {vs ws : List Described}
    (hv : value s shape (path ++ "/" ++ toString index) json L = .ok (vs, L'))
    (hi : items s shape path (index + 1) xs L' = .ok (ws, L'')) :
    items s shape path index (json :: xs) L = .ok (vs ++ ws, L'') := by
  rw [items, bind_of_ok hv, bind_of_ok hi]
  rfl

theorem fields_nil : fields s a r path [] L = .ok (.empty, L) := by
  rw [fields]
  rfl

/-- A member that is a field adds the triples of its values. -/
theorem fields_field {f : Field} {vs : List Described} (hg : a.get? name = some f)
    (hv : values s f.shape (path ++ "/" ++ name) json L = .ok (vs, L'))
    (ht : fieldTriples r f vs = .ok g) (hf : fields s a r path members L' = .ok (rest, L'')) :
    fields s a r path ((name, json) :: members) L = .ok (g.merge rest, L'') := by
  -- what follows the values is the same for an array and for a value alone
  have hrest : ∀ m : Decoding (List Described), m L = .ok (vs, L') →
      (m >>= fun found => (liftM (fieldTriples r f found) : Decoding Graph) >>= fun graph =>
        fields s a r path members >>= fun rest => pure (graph.merge rest)) L =
          .ok (g.merge rest, L'') := by
    intro m hm
    rw [bind_of_ok hm, bind_of_ok (lift_of_ok ht), bind_of_ok hf]
    rfl
  rw [fields]
  simp only [hg]
  split
  · exact hrest _ hv
  · next hne => exact hrest _ (values_of_not_array hne ▸ hv)

/-- A member that is a keyword adds nothing, types apart. -/
theorem fields_keyword (hg : a.get? name = none) (hk : s.keywords.keyword? name = some keyword)
    (ht : keyword ≠ Keyword.type) (hf : fields s a r path members L = .ok (rest, L')) :
    fields s a r path ((name, json) :: members) L = .ok (Graph.empty.merge rest, L') := by
  rw [fields]
  simp only [hg, hk, if_neg ht]
  rw [bind_of_ok rfl, bind_of_ok hf]
  rfl

end LinkedShapes.Description
