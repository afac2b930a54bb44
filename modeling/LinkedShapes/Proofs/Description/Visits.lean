import LinkedShapes.Description.Encoding
import LinkedShapes.Proofs.Graph.Store

/-!
# The edges that a description follows

Writing a description follows the fields of a shape through the graph and goes on from every
resource that is not on the trail. `Source.visits` lists the edges that it follows, in order.

The list tells how each value is written. A blank node that is met again behind an edge is
described under its label, and so are values on the trail and values that have no description; all
other blank nodes are `anonymous`. A renaming `Follows` a list of visits if it takes the anonymous
nodes to the labels that reading draws for them and leaves alone what is written by its label.
-/

namespace LinkedShapes

/-- Is a resource written by its identifier alone, with no description? -/
def Shape.isBare (shape : Shape) : Bool := shape.isInlineable && shape.fields.isEmpty

/-! ## Edges -/

/-- The triple that leads along a kind of edge from one end to the other. -/
def Edge.triple (e : Edge) (source target : Term) : Triple :=
  if e.inverse then ⟨target, .iri e.iri, source⟩ else ⟨source, .iri e.iri, target⟩

/-- The labels drawn next, as blank nodes. -/
def Labels.drawn (L : Labels) (n : Nat) : List Term :=
  (List.range n).map fun i => .blankNode (L.label i)

theorem Labels.drawn_append (L : Labels) (m n : Nat) :
    L.drawn (m + n) = L.drawn m ++ (L.after m).drawn n := by
  have hshift : ∀ i, (L.after m).label i = L.label (m + i) := fun i =>
    congrArg L.label (Nat.add_comm i m)
  simp only [drawn, List.range_add, List.map_append, List.map_map, hshift]
  rfl

theorem Labels.length_drawn (L : Labels) (n : Nat) : (L.drawn n).length = n := by
  rw [drawn, List.length_map, List.length_range]

namespace Description

/-! ## Visits -/

/-- An edge that a description follows, and the resources being described where it is met. -/
structure Visit where
  field : Field
  source : Term
  value : Term
  trail : List Term
  /-- Is the value met again behind the edge? -/
  again : Bool
deriving DecidableEq

namespace Visit

/-- The triple of the edge, with its ends renamed. -/
def triple (ρ : Term → Term) (x : Visit) : Triple := x.field.edge.triple (ρ x.source) (ρ x.value)

/-- Is a blank node written by its label here? -/
def isLabelled (x : Visit) : Bool :=
  x.value.isBlank && (decide (x.value ∈ x.trail) || x.field.shape.isBare || x.again)

/-- Is a resource written as a plain text here? -/
def isText (x : Visit) : Bool :=
  x.field.shape.isInlineable && (decide (x.value ∈ x.trail) || x.field.shape.fields.isEmpty)

/-- Is a blank node described without its label here? -/
def isAnonymous (x : Visit) : Bool :=
  x.value.isBlank && !(decide (x.value ∈ x.trail) || x.field.shape.isBare || x.again)

theorem isAnonymous_of_not_isBlank {x : Visit} (h : x.value.isBlank = false) :
    x.isAnonymous = false := by
  rw [isAnonymous, h, Bool.false_and]

theorem isLabelled_of_not_isBlank {x : Visit} (h : x.value.isBlank = false) :
    x.isLabelled = false := by
  rw [isLabelled, h, Bool.false_and]

/-- A blank node that is written by its label is not anonymous. -/
theorem isAnonymous_of_isLabelled {x : Visit} (h : x.isLabelled = true) :
    x.isAnonymous = false := by
  unfold isLabelled at h
  unfold isAnonymous
  rw [(Bool.and_eq_true_iff.1 h).2, Bool.not_true, Bool.and_false]

/-- A blank node that is written as a plain text is written by its label. -/
theorem isLabelled_of_isText {x : Visit} (hb : x.value.isBlank = true) (h : x.isText = true) :
    x.isLabelled = true := by
  obtain ⟨hi, h⟩ := Bool.and_eq_true_iff.1 h
  unfold isLabelled Shape.isBare
  rw [hb, hi, Bool.true_and, Bool.true_and, h]
  rfl

end Visit

/-- The blank nodes that are described without their labels, in order. -/
def anonymous (xs : List Visit) : List Term := (xs.filter Visit.isAnonymous).map Visit.value

theorem anonymous_append (xs ys : List Visit) :
    anonymous (xs ++ ys) = anonymous xs ++ anonymous ys := by
  unfold anonymous
  rw [List.filter_append, List.map_append]

theorem anonymous_cons_of_pos {x : Visit} {xs : List Visit} (h : x.isAnonymous = true) :
    anonymous (x :: xs) = x.value :: anonymous xs := by
  unfold anonymous
  rw [List.filter_cons_of_pos h, List.map_cons]

theorem anonymous_cons_of_neg {x : Visit} {xs : List Visit} (h : x.isAnonymous = false) :
    anonymous (x :: xs) = anonymous xs := by
  unfold anonymous
  rw [List.filter_cons_of_neg (by simp [h])]

theorem anonymous_eq_nil {xs : List Visit} (h : ∀ x ∈ xs, x.value.isBlank = false) :
    anonymous xs = [] := by
  unfold anonymous
  rw [List.map_eq_nil_iff, List.filter_eq_nil_iff]
  intro x hx
  rw [Visit.isAnonymous_of_not_isBlank (h x hx)]
  exact Bool.false_ne_true

/-- Is a resource of the trail met in the visits? -/
def Refers (xs : List Visit) (trail : List Term) (t : Term) : Prop :=
  t.isResource = true ∧ t ∈ trail ∧ ∃ x ∈ xs, x.value = t

theorem refers_append {xs ys : List Visit} {trail : List Term} {t : Term} :
    Refers (xs ++ ys) trail t ↔ Refers xs trail t ∨ Refers ys trail t := by
  unfold Refers
  simp only [List.mem_append, or_and_right, exists_or, and_or_left]

theorem not_refers_nil {trail : List Term} {t : Term} : ¬ Refers [] trail t := by
  rintro ⟨-, -, x, hx, -⟩
  exact List.not_mem_nil hx

/-- The labels that are written are among the texts. -/
def Spelled (src : Source) (xs : List Visit) (texts : List String) : Prop :=
  ∀ x ∈ xs, x.isLabelled = true → src.idText x.value ∈ texts

theorem Spelled.append {src : Source} {xs ys : List Visit} {texts texts' : List String}
    (hx : Spelled src xs texts) (hy : Spelled src ys texts') :
    Spelled src (xs ++ ys) (texts ++ texts') := by
  intro x hmem hl
  rcases List.mem_append.1 hmem with hmem | hmem
  · exact List.mem_append_left _ (hx x hmem hl)
  · exact List.mem_append_right _ (hy x hmem hl)

theorem Spelled.mono {src : Source} {xs : List Visit} {texts texts' : List String}
    (h : Spelled src xs texts) (ht : ∀ t ∈ texts, t ∈ texts') : Spelled src xs texts' :=
  fun x hx hl => ht _ (h x hx hl)

theorem spelled_nil {src : Source} {texts : List String} : Spelled src [] texts :=
  fun _ hx => absurd hx List.not_mem_nil

/-! ## Visits of a description -/

/-- What is visited behind a value, unless it is a literal or on the trail. -/
def behind (visits : Term → Shape → List Term → List Visit) (shape : Shape) (trail : List Term)
    (v : Term) : List Visit :=
  if v.isLiteral = true ∨ v ∈ trail then [] else visits v shape trail

/-- The visit to a value of a field. -/
def visit (visits : Term → Shape → List Term → List Visit) (resource : Term) (trail : List Term)
    (field : Field) (v : Term) : Visit :=
  ⟨field, resource, v, trail, (behind visits field.shape trail v).any (·.value == v)⟩

namespace Source

variable (src : Source)

/-- The fields by which a resource is described, with their names. -/
def table (shape : Shape) : List (String × Field) :=
  match Aliases.ofShape shape src.keywords with
  | .ok aliases => aliases.entries
  | .error _ => []

/-- The values of a field. -/
def follow (resource : Term) (field : Field) : List Term :=
  src.graph.targets resource field.edge.iri field.edge.inverse

/-- The visits to the values of a field. -/
def fieldVisits (visits : Term → Shape → List Term → List Visit) (resource : Term)
    (trail : List Term) (field : Field) : List Visit :=
  (src.follow resource field).flatMap fun v =>
    visit visits resource trail field v :: behind visits field.shape trail v

/-- The edges that the description of a resource follows, down to a number of levels. -/
def visits : Nat → Term → Shape → List Term → List Visit
  | 0, _, _, _ => []
  | levels + 1, resource, shape, trail =>
    (src.table shape).flatMap fun e =>
      src.fieldVisits (visits levels) resource (resource :: trail) e.2

theorem table_of_ok {src : Source} {shape : Shape} {a : Aliases}
    (h : Aliases.ofShape shape src.keywords = .ok a) : src.table shape = a.entries := by
  unfold table
  rw [h]

theorem ok_of_mem_table {src : Source} {shape : Shape} {e : String × Field}
    (h : e ∈ src.table shape) :
    ∃ a, Aliases.ofShape shape src.keywords = .ok a ∧ e ∈ a.entries := by
  unfold table at h
  split at h
  · next a ha => exact ⟨a, ha, h⟩
  · exact absurd h List.not_mem_nil

/-- The values that are visited first are those of the fields. -/
theorem mem_visits_of_follow {src : Source} {levels : Nat} {resource v : Term} {shape : Shape}
    {trail : List Term} {e : String × Field} (he : e ∈ src.table shape)
    (hv : v ∈ src.follow resource e.2) :
    visit (src.visits levels) resource (resource :: trail) e.2 v ∈
      src.visits (levels + 1) resource shape trail := by
  refine List.mem_flatMap.2 ⟨e, he, List.mem_flatMap.2 ⟨v, hv, ?_⟩⟩
  exact List.mem_cons_self

/-- What is visited behind a value of a field is visited. -/
theorem mem_visits_of_behind {src : Source} {levels : Nat} {resource v : Term} {shape : Shape}
    {trail : List Term} {e : String × Field} {y : Visit} (he : e ∈ src.table shape)
    (hv : v ∈ src.follow resource e.2)
    (hy : y ∈ behind (src.visits levels) e.2.shape (resource :: trail) v) :
    y ∈ src.visits (levels + 1) resource shape trail := by
  refine List.mem_flatMap.2 ⟨e, he, List.mem_flatMap.2 ⟨v, hv, ?_⟩⟩
  exact List.mem_cons_of_mem _ hy

/-- A visit leads to a value of its field. -/
theorem value_mem_follow {src : Source} {levels : Nat} {resource : Term} {shape : Shape}
    {trail : List Term} {x : Visit} (hx : x ∈ src.visits levels resource shape trail) :
    x.value ∈ src.follow x.source x.field := by
  induction levels generalizing resource shape trail with
  | zero => exact absurd hx List.not_mem_nil
  | succ levels ih =>
    obtain ⟨e, he, hx⟩ := List.mem_flatMap.1 hx
    obtain ⟨v, hv, hx⟩ := List.mem_flatMap.1 hx
    rcases List.mem_cons.1 hx with rfl | hx
    · exact hv
    · unfold behind at hx
      split at hx
      · exact absurd hx List.not_mem_nil
      · exact ih hx

end Source

/-! ## Renamings -/

/-- The supply of labels after visits have been read. -/
def labelsAfter (L : Labels) (xs : List Visit) : Labels := L.after (anonymous xs).length

/-- A renaming that reading gives rise to, if it starts with the given supply of labels. -/
structure Follows (ρ : Term → Term) (L : Labels) (xs : List Visit) : Prop where
  iri : ∀ i, ρ (.iri i) = .iri i
  literal : ∀ l, ρ (.literal l) = .literal l
  resource : ∀ t, t.isResource = true → (ρ t).isResource = true
  drawn : (anonymous xs).map ρ = L.drawn (anonymous xs).length
  labelled : ∀ x ∈ xs, x.isLabelled = true → ρ x.value = x.value

namespace Follows

variable {ρ : Term → Term} {L : Labels} {x : Visit} {xs ys : List Visit}

theorem left (h : Follows ρ L (xs ++ ys)) : Follows ρ L xs where
  iri := h.iri
  literal := h.literal
  resource := h.resource
  drawn := by
    have hd := h.drawn
    rw [anonymous_append, List.length_append, Labels.drawn_append, List.map_append] at hd
    exact (List.append_inj hd (by rw [List.length_map, Labels.length_drawn])).1
  labelled := fun x hx => h.labelled x (List.mem_append_left _ hx)

theorem right (h : Follows ρ L (xs ++ ys)) : Follows ρ (labelsAfter L xs) ys where
  iri := h.iri
  literal := h.literal
  resource := h.resource
  drawn := by
    have hd := h.drawn
    rw [anonymous_append, List.length_append, Labels.drawn_append, List.map_append] at hd
    exact (List.append_inj hd (by rw [List.length_map, Labels.length_drawn])).2
  labelled := fun x hx => h.labelled x (List.mem_append_right _ hx)

/-- Behind a value that no label is drawn for, the supply is the same. -/
theorem tail (h : Follows ρ L (x :: xs)) (hx : x.isAnonymous = false) : Follows ρ L xs where
  iri := h.iri
  literal := h.literal
  resource := h.resource
  drawn := by
    have hd := h.drawn
    rw [anonymous_cons_of_neg hx] at hd
    exact hd
  labelled := fun y hy => h.labelled y (List.mem_cons_of_mem _ hy)

/-- An anonymous node takes the next label, and what is behind it those that follow. -/
theorem draw (h : Follows ρ L (x :: xs)) (hx : x.isAnonymous = true) :
    ρ x.value = .blankNode (L.label 0) ∧ Follows ρ (L.after 1) xs := by
  have hd := h.drawn
  rw [anonymous_cons_of_pos hx, List.length_cons, Nat.add_comm, Labels.drawn_append,
    List.map_cons] at hd
  obtain ⟨hself, hrest⟩ := List.cons.inj hd
  exact ⟨hself, h.iri, h.literal, h.resource, hrest,
    fun y hy => h.labelled y (List.mem_cons_of_mem _ hy)⟩

/-- A value keeps its name unless it is a blank node whose label is not written. -/
theorem self (h : Follows ρ L (x :: xs)) (hx : x.value.isBlank = true → x.isLabelled = true) :
    ρ x.value = x.value := by
  cases hv : x.value with
  | iri i => exact h.iri i
  | literal l => exact h.literal l
  | blankNode label =>
    rw [← hv]
    exact h.labelled x List.mem_cons_self (hx (by rw [hv]; rfl))

end Follows

theorem labelsAfter_append {L : Labels} {xs ys : List Visit} :
    labelsAfter L (xs ++ ys) = labelsAfter (labelsAfter L xs) ys := by
  unfold labelsAfter
  rw [anonymous_append, List.length_append, Labels.after_after]

theorem labelsAfter_cons_of_neg {L : Labels} {x : Visit} {xs : List Visit}
    (h : x.isAnonymous = false) : labelsAfter L (x :: xs) = labelsAfter L xs := by
  unfold labelsAfter
  rw [anonymous_cons_of_neg h]

theorem labelsAfter_cons_of_pos {L : Labels} {x : Visit} {xs : List Visit}
    (h : x.isAnonymous = true) : labelsAfter L (x :: xs) = labelsAfter (L.after 1) xs := by
  unfold labelsAfter
  rw [anonymous_cons_of_pos h, List.length_cons, Labels.after_after, Nat.add_comm 1]

end Description

end LinkedShapes
