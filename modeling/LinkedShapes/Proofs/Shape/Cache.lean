import LinkedShapes.Proofs.Alias
import LinkedShapes.Shape.Driver

/-!
# The cache of drivers keeps what was used last

A cache marks its entries with times. What it is meant to be has none: `Recency` is the list of
the shapes with their drivers, the one that was used last in front, cut off at the capacity. Both
answer the same `Call`s of several callers, one after the other; between the calls by which a
caller looks a driver up and keeps the one computed instead, other callers come in.

* `DriverCache.Ordered`: the entries of a cache by falling times of use, with distinct shapes.
* `DriverCache.keeper_simulates`: each operation on a cache is that on the list of its entries.
* `Keeper.Simulates.run`: hence so is a run of calls.
* `driverCache_transparent`: no caller can tell a cache from the list; and all that a cache gives
  away are drivers, as long as it is given only drivers.
-/

namespace LinkedShapes

variable {σ τ : Type} {capacity : Nat} {shape driver : Shape}

/-! ## Keepers of drivers -/

/-- A way to keep drivers for shapes in a store of the type `σ`. -/
structure Keeper (σ : Type) where
  get : σ → Shape → Option Shape × σ
  insert : σ → Shape → Shape → σ
  getOrCompute : σ → Shape → Shape × σ
  clear : σ → σ
  size : σ → Nat
  isEmpty : σ → Bool

/-- Drivers in a cache. -/
def DriverCache.keeper : Keeper DriverCache where
  get := DriverCache.get
  insert := DriverCache.insert
  getOrCompute := DriverCache.getOrCompute
  clear := DriverCache.clear
  size := DriverCache.size
  isEmpty := DriverCache.isEmpty

/-- Shapes and the drivers kept for them, the one used last in front. -/
abbrev Recency := List (Shape × Shape)

namespace Recency

def forget (kept : Recency) (shape : Shape) : Recency := kept.filter (·.1 != shape)

/-- A shape that is looked up moves to the front. -/
def get (kept : Recency) (shape : Shape) : Option Shape × Recency :=
  match kept.lookup shape with
  | some driver => (some driver, (shape, driver) :: kept.forget shape)
  | none => (none, kept)

/-- A new driver comes to the front, and what exceeds the capacity goes. -/
def insert (capacity : Nat) (kept : Recency) (shape driver : Shape) : Recency :=
  ((shape, driver) :: kept.forget shape).take (max capacity 1)

def getOrCompute (capacity : Nat) (kept : Recency) (shape : Shape) : Shape × Recency :=
  match kept.get shape with
  | (some driver, kept) => (driver, kept)
  | (none, kept) => (shape.drive, kept.insert capacity shape shape.drive)

/-- Drivers in a list that holds at most `capacity` of them, or one. -/
def keeper (capacity : Nat) : Keeper Recency where
  get := get
  insert := insert capacity
  getOrCompute := getOrCompute capacity
  clear := fun _ => []
  size := List.length
  isEmpty := List.isEmpty

end Recency

/-! ## Calls -/

/-- What callers do, one call at a time. -/
inductive Call where
  | get (shape : Shape)
  | insert (shape driver : Shape)
  | getOrCompute (shape : Shape)
  | clear
  /-- A caller looks for a driver; without one, the caller begins to compute it. -/
  | lookUp (caller : Nat) (shape : Shape)
  /-- A caller that has computed a driver keeps it. -/
  | keep (caller : Nat)

/-- What is seen of a call: the shape whose driver it asks for, the driver that it gets, and the
size of the store afterwards. -/
structure Sight where
  asked : Option Shape
  answer : Option Shape
  size : Nat
  isEmpty : Bool
deriving DecidableEq

namespace Keeper

/-- A store, and the shapes whose drivers the callers are computing. -/
structure State (σ : Type) where
  store : σ
  pending : Nat → Option Shape

/-- The state in which nobody is computing anything. -/
def State.idle (store : σ) : State σ := ⟨store, fun _ => none⟩

variable {k : Keeper σ} {l : Keeper τ}

/-- What is seen once a call has left a store. -/
def sight (k : Keeper σ) (asked answer : Option Shape) (store : σ) : Sight :=
  ⟨asked, answer, k.size store, k.isEmpty store⟩

/-- One call. -/
def step (k : Keeper σ) (s : State σ) : Call → Sight × State σ
  | .get shape =>
    let (answer, store) := k.get s.store shape
    (k.sight (some shape) answer store, { s with store })
  | .insert shape driver =>
    let store := k.insert s.store shape driver
    (k.sight none none store, { s with store })
  | .getOrCompute shape =>
    let (driver, store) := k.getOrCompute s.store shape
    (k.sight (some shape) (some driver) store, { s with store })
  | .clear =>
    let store := k.clear s.store
    (k.sight none none store, { s with store })
  | .lookUp caller shape =>
    let (answer, store) := k.get s.store shape
    let pending := if answer.isSome then none else some shape
    (k.sight (some shape) answer store, ⟨store, Function.update s.pending caller pending⟩)
  | .keep caller =>
    match s.pending caller with
    | some shape =>
      let store := k.insert s.store shape shape.drive
      (k.sight (some shape) (some shape.drive) store,
        ⟨store, Function.update s.pending caller none⟩)
    | none => (k.sight none none s.store, s)

/-- Calls, one after the other. -/
def run (k : Keeper σ) (s : State σ) : List Call → List Sight × State σ
  | [] => ([], s)
  | call :: calls =>
    let (sight, s) := k.step s call
    let (sights, s) := k.run s calls
    (sight :: sights, s)

/-! ## Simulation -/

/-- The stores that `R` relates answer alike, and every operation leads to related stores. -/
structure Simulates (k : Keeper σ) (l : Keeper τ) (R : σ → τ → Prop) : Prop where
  get : ∀ {s t}, R s t → ∀ shape, (k.get s shape).1 = (l.get t shape).1 ∧
    R (k.get s shape).2 (l.get t shape).2
  insert : ∀ {s t}, R s t → ∀ shape driver, R (k.insert s shape driver) (l.insert t shape driver)
  getOrCompute : ∀ {s t}, R s t → ∀ shape,
    (k.getOrCompute s shape).1 = (l.getOrCompute t shape).1 ∧
      R (k.getOrCompute s shape).2 (l.getOrCompute t shape).2
  clear : ∀ {s t}, R s t → R (k.clear s) (l.clear t)
  size : ∀ {s t}, R s t → k.size s = l.size t
  isEmpty : ∀ {s t}, R s t → k.isEmpty s = l.isEmpty t

namespace Simulates

variable {R : σ → τ → Prop} {s : State σ} {t : State τ}

theorem sight {store : σ} {other : τ} (h : Simulates k l R) (hst : R store other)
    (asked answer : Option Shape) : k.sight asked answer store = l.sight asked answer other := by
  rw [Keeper.sight, Keeper.sight, h.size hst, h.isEmpty hst]

/-- A call looks the same, and the callers go on computing the same drivers. -/
theorem step (h : Simulates k l R) (hst : R s.store t.store) (hp : s.pending = t.pending)
    (call : Call) :
    (k.step s call).1 = (l.step t call).1 ∧
      R (k.step s call).2.store (l.step t call).2.store ∧
      (k.step s call).2.pending = (l.step t call).2.pending := by
  cases call with
  | get shape =>
    obtain ⟨hanswer, hstores⟩ := h.get hst shape
    refine ⟨?_, hstores, hp⟩
    simp only [Keeper.step, hanswer, h.sight hstores]
  | insert shape driver =>
    have hstores := h.insert hst shape driver
    exact ⟨h.sight hstores _ _, hstores, hp⟩
  | getOrCompute shape =>
    obtain ⟨hanswer, hstores⟩ := h.getOrCompute hst shape
    refine ⟨?_, hstores, hp⟩
    simp only [Keeper.step, hanswer, h.sight hstores]
  | clear =>
    have hstores := h.clear hst
    exact ⟨h.sight hstores _ _, hstores, hp⟩
  | lookUp caller shape =>
    obtain ⟨hanswer, hstores⟩ := h.get hst shape
    refine ⟨?_, hstores, ?_⟩
    · simp only [Keeper.step, hanswer, h.sight hstores]
    · simp only [Keeper.step, hanswer, hp]
  | keep caller =>
    simp only [Keeper.step, hp]
    cases t.pending caller with
    | none => exact ⟨h.sight hst _ _, hst, hp⟩
    | some shape =>
      have hstores := h.insert hst shape shape.drive
      exact ⟨h.sight hstores _ _, hstores, rfl⟩

/-- Calls look the same. -/
theorem run (h : Simulates k l R) (hst : R s.store t.store) (hp : s.pending = t.pending)
    (calls : List Call) :
    (k.run s calls).1 = (l.run t calls).1 ∧ R (k.run s calls).2.store (l.run t calls).2.store := by
  induction calls generalizing s t with
  | nil => exact ⟨rfl, hst⟩
  | cons call calls ih =>
    obtain ⟨hsight, hstores, hpending⟩ := h.step hst hp call
    obtain ⟨hsights, hrest⟩ := ih hstores hpending
    exact ⟨congrArg₂ List.cons hsight hsights, hrest⟩

end Simulates

end Keeper

/-! ## The entries of a cache -/

namespace DriverCache

variable {c : DriverCache} {order : List DriverEntry} {e : DriverEntry}

/-- What an entry keeps. -/
def pair (e : DriverEntry) : Shape × Shape := (e.shape, e.driver)

/-- `order` is what a cache holds, by falling times of use. -/
structure Ordered (capacity : Nat) (c : DriverCache) (order : List DriverEntry) : Prop where
  perm : c.entries.Perm order
  falling : order.Pairwise fun e f => f.lastUse < e.lastUse
  past : ∀ e ∈ order, e.lastUse < c.clock
  distinct : (order.map (·.shape)).Nodup
  capacity_eq : c.capacity = max capacity 1
  bounded : order.length ≤ c.capacity

namespace Ordered

theorem empty : Ordered capacity (.empty capacity) [] where
  perm := .nil
  falling := .nil
  past := fun _ he => absurd he List.not_mem_nil
  distinct := List.nodup_nil
  capacity_eq := rfl
  bounded := Nat.zero_le _

theorem size_eq (h : Ordered capacity c order) : c.size = order.length := h.perm.length_eq

/-- A shape has one entry. -/
theorem eq_of_shape_eq (h : Ordered capacity c order) {f : DriverEntry} (he : e ∈ order)
    (hf : f ∈ order) (heq : f.shape = e.shape) : f = e :=
  List.inj_on_of_nodup_map h.distinct hf he heq

theorem shape_notMem_filter : shape ∉ (order.filter (·.shape != shape)).map (·.shape) := by
  intro hmem
  obtain ⟨e, he, rfl⟩ := List.mem_map.1 hmem
  simpa using (List.mem_filter.1 he).2

/-- The entry of a shape, and the other ones. -/
theorem perm_cons_filter (h : Ordered capacity c order) (he : e ∈ order) :
    order.Perm (e :: order.filter (·.shape != e.shape)) := by
  have hnodup : order.Nodup := .of_map _ h.distinct
  refine (List.perm_ext_iff_of_nodup hnodup (List.nodup_cons.2 ⟨?_, hnodup.filter _⟩)).2 fun f => ?_
  · exact fun hmem => shape_notMem_filter (List.mem_map_of_mem hmem)
  · rw [List.mem_cons, List.mem_filter]
    constructor
    · intro hf
      by_cases heq : f.shape = e.shape
      · exact Or.inl (h.eq_of_shape_eq he hf heq)
      · exact Or.inr ⟨hf, by simpa using heq⟩
    · rintro (rfl | ⟨hf, -⟩)
      · exact he
      · exact hf

theorem find?_of_mem (h : Ordered capacity c order) (he : e ∈ order) :
    c.entries.find? (·.shape == e.shape) = some e := by
  cases hf : c.entries.find? (·.shape == e.shape) with
  | none =>
    have hne := List.find?_eq_none.1 hf e (h.perm.mem_iff.2 he)
    simp at hne
  | some f =>
    have hmem := h.perm.mem_iff.1 (List.mem_of_find?_eq_some hf)
    have hshape : f.shape = e.shape := by simpa using List.find?_some hf
    rw [h.eq_of_shape_eq he hmem hshape]

theorem find?_of_notMem (h : Ordered capacity c order) (hnew : shape ∉ order.map (·.shape)) :
    c.find? shape = none := by
  have hnone : c.entries.find? (·.shape == shape) = none := by
    refine List.find?_eq_none.2 fun e he heq => hnew ?_
    rw [← beq_iff_eq.1 heq]
    exact List.mem_map_of_mem (h.perm.mem_iff.1 he)
  rw [DriverCache.find?, hnone]
  rfl

/-- A cache has the driver for a shape that the list has. -/
theorem find?_eq (h : Ordered capacity c order) (shape : Shape) :
    c.find? shape = (order.map pair).lookup shape := by
  have hkeys : (order.map pair).map (·.1) = order.map (·.shape) := by
    rw [List.map_map]
    rfl
  -- the list has one entry for each shape, so the first match is the only one
  by_cases hmem : shape ∈ order.map (·.shape)
  · obtain ⟨e, he, rfl⟩ := List.mem_map.1 hmem
    have hpair : pair e ∈ order.map pair := List.mem_map_of_mem he
    rw [DriverCache.find?, h.find?_of_mem he]
    exact (lookup_of_mem (hkeys ▸ h.distinct) hpair).symm
  · rw [h.find?_of_notMem hmem, eq_comm]
    refine List.lookup_eq_none_iff.2 fun p hp => ?_
    rw [bne_iff_ne]
    rintro rfl
    exact hmem (hkeys ▸ List.mem_map_of_mem hp)

theorem map_pair_filter :
    (order.filter (·.shape != shape)).map pair = Recency.forget (order.map pair) shape := by
  rw [Recency.forget, List.filter_map]
  rfl

/-- An entry that is marked anew comes to the front. -/
theorem promote (h : Ordered capacity c order) (he : e ∈ order) (new : DriverEntry)
    (mark : DriverEntry → DriverEntry) (hshape : new.shape = e.shape)
    (huse : new.lastUse = c.clock) (hnew : mark e = new)
    (hothers : ∀ f, f.shape ≠ e.shape → mark f = f) :
    Ordered capacity { c with clock := c.clock + 1, entries := c.entries.map mark }
      (new :: order.filter (·.shape != e.shape)) := by
  have hmark : (order.filter (·.shape != e.shape)).map mark =
      order.filter (·.shape != e.shape) := by
    refine (List.map_congr_left fun f hf => hothers f ?_).trans (List.map_id _)
    simpa using (List.mem_filter.1 hf).2
  constructor
  · have hperm := (h.perm.trans (h.perm_cons_filter he)).map mark
    rwa [List.map_cons, hnew, hmark] at hperm
  · refine List.pairwise_cons.2 ⟨fun f hf => ?_, h.falling.filter _⟩
    rw [huse]
    exact h.past f (List.mem_of_mem_filter hf)
  · refine List.forall_mem_cons.2 ⟨huse ▸ Nat.lt_succ_self _, fun f hf => ?_⟩
    exact Nat.lt_succ_of_lt (h.past f (List.mem_of_mem_filter hf))
  · rw [List.map_cons, List.nodup_cons, hshape]
    exact ⟨shape_notMem_filter, h.distinct.sublist (List.filter_sublist.map _)⟩
  · exact h.capacity_eq
  · exact (h.perm_cons_filter he).length_eq ▸ h.bounded

/-- A new entry comes to the front of a cache that has room. -/
theorem push (h : Ordered capacity c order) (hnew : shape ∉ order.map (·.shape))
    (hroom : order.length < c.capacity) (driver : Shape) :
    Ordered capacity
      { c with clock := c.clock + 1, entries := ⟨shape, driver, c.clock⟩ :: c.entries }
      (⟨shape, driver, c.clock⟩ :: order) where
  perm := h.perm.cons _
  falling := List.pairwise_cons.2 ⟨h.past, h.falling⟩
  past := List.forall_mem_cons.2
    ⟨Nat.lt_succ_self _, fun f hf => Nat.lt_succ_of_lt (h.past f hf)⟩
  distinct := List.nodup_cons.2 ⟨hnew, h.distinct⟩
  capacity_eq := h.capacity_eq
  bounded := hroom

/-- The oldest use is that of the last entry. -/
theorem oldestUse_eq (h : Ordered capacity c (order ++ [e])) : c.oldestUse = e.lastUse := by
  have hleast : ∀ (es : List DriverEntry) (time : Nat), (∀ f ∈ es, e.lastUse ≤ f.lastUse) →
      e.lastUse ≤ time → e.lastUse ≤ es.foldl (fun time f => min time f.lastUse) time := by
    intro es
    induction es with
    | nil => exact fun _ _ htime => htime
    | cons f es ih =>
      intro time hes htime
      obtain ⟨hf, hes⟩ := List.forall_mem_cons.1 hes
      exact ih _ hes (Nat.le_min.2 ⟨htime, hf⟩)
  have hswap := h.perm.foldl_eq' (f := fun time f => min time f.lastUse)
    (fun f _ g _ time => by omega) c.clock
  have hfalling := (List.pairwise_append.1 h.falling).2.2
  rw [oldestUse, hswap, List.foldl_append]
  refine Nat.min_eq_right (hleast order c.clock (fun f hf => ?_) ?_)
  · exact Nat.le_of_lt (hfalling f hf e (List.mem_singleton_self e))
  · exact Nat.le_of_lt (h.past e (List.mem_append_right _ (List.mem_singleton_self e)))

/-- What is evicted is the last entry. -/
theorem evict (h : Ordered capacity c (order ++ [e])) : Ordered capacity c.evict order := by
  have hfalling := List.pairwise_append.1 h.falling
  have hfilter : (order ++ [e]).filter (·.lastUse != c.oldestUse) = order := by
    rw [h.oldestUse_eq, List.filter_append, List.filter_eq_self.2, List.filter_eq_nil_iff.2,
      List.append_nil]
    · intro f hf
      simp [List.mem_singleton.1 hf]
    · intro f hf
      have := hfalling.2.2 f hf e (List.mem_singleton_self e)
      simp; omega
  have hsub : order.Sublist (order ++ [e]) := List.sublist_append_left order [e]
  constructor
  · exact hfilter ▸ h.perm.filter _
  · exact hfalling.1
  · exact fun f hf => h.past f (hsub.subset hf)
  · exact h.distinct.sublist (hsub.map _)
  · exact h.capacity_eq
  · exact Nat.le_trans hsub.length_le h.bounded

/-- A cache keeps no more than it has room for. -/
theorem take_map_pair (h : Ordered capacity c order) :
    (order.map pair).take (max capacity 1) = order.map pair := by
  refine List.take_of_length_le ?_
  rw [List.length_map, ← h.capacity_eq]
  exact h.bounded

/-- The driver of a shape that is kept is replaced, and its entry comes to the front. -/
theorem insert_kept (h : Ordered capacity c order) (he : e ∈ order) (driver : Shape) :
    Ordered capacity (c.insert e.shape driver)
      (⟨e.shape, driver, c.clock⟩ :: order.filter (·.shape != e.shape)) := by
  have hfound : (c.find? e.shape).isSome = true := by
    rw [DriverCache.find?, h.find?_of_mem he]
    rfl
  rw [DriverCache.insert, if_pos hfound]
  exact h.promote he ⟨e.shape, driver, c.clock⟩
    (fun f => if f.shape == e.shape then { f with driver := driver, lastUse := c.clock } else f)
    rfl rfl (by simp) fun f hf => if_neg (by simpa using hf)

/-- A cache with room keeps a new shape besides the others. -/
theorem insert_new (h : Ordered capacity c order) (hnew : shape ∉ order.map (·.shape))
    (hroom : ¬ c.capacity ≤ c.size) (driver : Shape) :
    Ordered capacity (c.insert shape driver) (⟨shape, driver, c.clock⟩ :: order) := by
  have hpushed := h.push hnew (h.size_eq ▸ Nat.lt_of_not_le hroom) driver
  simp only [DriverCache.insert, h.find?_of_notMem hnew, Option.isSome_none, Bool.false_eq_true,
    if_false]
  rwa [if_neg hroom]

/-- A full cache gives up its last entry for a new shape. -/
theorem insert_full (h : Ordered capacity c (order ++ [e]))
    (hnew : shape ∉ (order ++ [e]).map (·.shape)) (hfull : c.capacity ≤ c.size)
    (driver : Shape) :
    Ordered capacity (c.insert shape driver) (⟨shape, driver, c.clock⟩ :: order) := by
  have hrest : shape ∉ order.map (·.shape) := fun hmem =>
    hnew (List.map_append ▸ List.mem_append_left _ hmem)
  have hroom : order.length < c.evict.capacity := by
    rw [h.evict.capacity_eq, ← h.capacity_eq]
    exact Nat.lt_of_lt_of_le (by simp) h.bounded
  have hpushed := h.evict.push hrest hroom driver
  simp only [DriverCache.insert, h.find?_of_notMem hnew, Option.isSome_none, Bool.false_eq_true,
    if_false]
  rw [if_pos hfull]
  exact hpushed

end Ordered

/-! ## A cache is a list of pairs -/

/-- `kept` lists what a cache keeps by last use. -/
def Lists (capacity : Nat) (c : DriverCache) (kept : Recency) : Prop :=
  ∃ order, Ordered capacity c order ∧ order.map pair = kept

theorem Lists.get {kept : Recency} (h : Lists capacity c kept) (shape : Shape) :
    (c.get shape).1 = (kept.get shape).1 ∧
      Lists capacity (c.get shape).2 (kept.get shape).2 := by
  obtain ⟨order, h, rfl⟩ := h
  unfold DriverCache.get Recency.get
  rw [h.find?_eq]
  cases hl : (order.map pair).lookup shape with
  | none => exact ⟨rfl, order, h, rfl⟩
  | some driver =>
    obtain ⟨e, he, hpair⟩ := List.mem_map.1 (mem_of_lookup hl)
    obtain ⟨rfl, rfl⟩ := Prod.mk.inj hpair
    have hpromoted := h.promote he { e with lastUse := c.clock }
      (fun f => if f.shape == e.shape then { f with lastUse := c.clock } else f)
      rfl rfl (if_pos (beq_self_eq_true _)) fun f hf => if_neg (by simpa using hf)
    refine ⟨rfl, _, hpromoted, ?_⟩
    rw [List.map_cons, Ordered.map_pair_filter]
    rfl

theorem Lists.insert {kept : Recency} (h : Lists capacity c kept) (shape driver : Shape) :
    Lists capacity (c.insert shape driver) (kept.insert capacity shape driver) := by
  obtain ⟨order, h, rfl⟩ := h
  rw [Recency.insert, ← Ordered.map_pair_filter]
  by_cases hmem : shape ∈ order.map (·.shape)
  · obtain ⟨e, he, rfl⟩ := List.mem_map.1 hmem
    have hkept := h.insert_kept he driver
    exact ⟨_, hkept, hkept.take_map_pair.symm⟩
  have hothers : order.filter (·.shape != shape) = order := by
    refine List.filter_eq_self.2 fun e he => ?_
    rw [bne_iff_ne]
    rintro rfl
    exact hmem (List.mem_map_of_mem he)
  rw [hothers]
  by_cases hfull : c.capacity ≤ c.size
  · have hlength : order.length = max capacity 1 := by
      rw [← h.capacity_eq]
      exact Nat.le_antisymm h.bounded (h.size_eq ▸ hfull)
    obtain ⟨rest, e, rfl⟩ := (List.eq_nil_or_concat' order).resolve_left fun hnil => by
      rw [hnil, List.length_nil] at hlength
      omega
    refine ⟨_, h.insert_full hmem hfull driver, ?_⟩
    -- the list gives up its last pair for the new one, too
    rw [List.length_append, List.length_singleton] at hlength
    rw [← hlength, List.take_succ_cons, List.map_append, List.take_left' (List.length_map _)]
    rfl
  · have hinserted := h.insert_new hmem hfull driver
    exact ⟨_, hinserted, hinserted.take_map_pair.symm⟩

theorem Lists.size {kept : Recency} (h : Lists capacity c kept) : c.size = kept.length := by
  obtain ⟨order, h, rfl⟩ := h
  rw [h.size_eq, List.length_map]

theorem Lists.isEmpty {kept : Recency} (h : Lists capacity c kept) :
    c.isEmpty = kept.isEmpty := by
  obtain ⟨order, h, rfl⟩ := h
  rw [DriverCache.isEmpty, h.perm.isEmpty_eq, List.isEmpty_map]

theorem Lists.clear {kept : Recency} (h : Lists capacity c kept) : Lists capacity c.clear [] := by
  obtain ⟨order, h, -⟩ := h
  exact ⟨[], ⟨.nil, .nil, fun _ he => absurd he List.not_mem_nil, List.nodup_nil, h.capacity_eq,
    Nat.zero_le _⟩, rfl⟩

theorem Lists.getOrCompute {kept : Recency} (h : Lists capacity c kept) (shape : Shape) :
    (c.getOrCompute shape).1 = (kept.getOrCompute capacity shape).1 ∧
      Lists capacity (c.getOrCompute shape).2 (kept.getOrCompute capacity shape).2 := by
  obtain ⟨hanswer, hstores⟩ := h.get shape
  unfold DriverCache.getOrCompute Recency.getOrCompute
  cases hc : c.get shape with
  | mk found c' =>
    cases hk : kept.get shape with
    | mk found' kept' =>
      rw [hc, hk] at hanswer hstores
      obtain rfl : found = found' := hanswer
      cases found with
      | some driver => exact ⟨rfl, hstores⟩
      | none => exact ⟨rfl, hstores.insert shape shape.drive⟩

/-- A cache is the list of what it keeps. -/
theorem keeper_simulates (capacity : Nat) :
    keeper.Simulates (Recency.keeper capacity) (Lists capacity) where
  get := Lists.get
  insert := Lists.insert
  getOrCompute := Lists.getOrCompute
  clear := Lists.clear
  size := Lists.size
  isEmpty := Lists.isEmpty

end DriverCache

/-! ## What is given away -/

/-- Who asks for the driver of a shape and gets one gets the driver of that shape. -/
def Sight.Faithful (sight : Sight) : Prop :=
  ∀ shape ∈ sight.asked, ∀ driver ∈ sight.answer, driver = shape.drive

/-- A call that keeps no other driver for a shape than its own. -/
def Call.Faithful (call : Call) : Prop :=
  ∀ shape driver, call = .insert shape driver → driver = shape.drive

namespace Recency

variable {kept : Recency}

/-- What is kept for a shape is its driver. -/
def Faithful (kept : Recency) : Prop := ∀ p ∈ kept, p.2 = p.1.drive

theorem Faithful.insert (h : kept.Faithful) (hd : driver = shape.drive) :
    (kept.insert capacity shape driver).Faithful := by
  intro p hp
  rcases List.mem_cons.1 (List.mem_of_mem_take hp) with rfl | hp
  · exact hd
  · exact h p (List.mem_of_mem_filter hp)

theorem Faithful.get (h : kept.Faithful) (shape : Shape) :
    (∀ driver ∈ (kept.get shape).1, driver = shape.drive) ∧ (kept.get shape).2.Faithful := by
  unfold Recency.get
  cases hl : kept.lookup shape with
  | none => exact ⟨nofun, h⟩
  | some driver =>
    have hdriver : driver = shape.drive := h _ (mem_of_lookup hl)
    refine ⟨fun _ hd => Option.mem_some.1 hd ▸ hdriver, fun p hp => ?_⟩
    rcases List.mem_cons.1 hp with rfl | hp
    · exact hdriver
    · exact h p (List.mem_of_mem_filter hp)

theorem Faithful.getOrCompute (h : kept.Faithful) (shape : Shape) :
    (kept.getOrCompute capacity shape).1 = shape.drive ∧
      (kept.getOrCompute capacity shape).2.Faithful := by
  obtain ⟨hanswer, hkept⟩ := h.get shape
  unfold Recency.getOrCompute
  cases hg : kept.get shape with
  | mk found kept' =>
    rw [hg] at hanswer hkept
    cases found with
    | some driver => exact ⟨hanswer driver rfl, hkept⟩
    | none => exact ⟨rfl, hkept.insert rfl⟩

theorem Faithful.step {s : Keeper.State Recency} (h : s.store.Faithful) {call : Call}
    (hcall : call.Faithful) :
    ((keeper capacity).step s call).1.Faithful ∧
      ((keeper capacity).step s call).2.store.Faithful := by
  cases call with
  | get shape =>
    obtain ⟨hanswer, hkept⟩ := h.get shape
    exact ⟨fun _ hs driver hd => Option.mem_some.1 hs ▸ hanswer driver hd, hkept⟩
  | insert shape driver => exact ⟨nofun, h.insert (hcall shape driver rfl)⟩
  | getOrCompute shape =>
    obtain ⟨hanswer, hkept⟩ := h.getOrCompute shape
    exact ⟨fun _ hs _ hd => Option.mem_some.1 hs ▸ Option.mem_some.1 hd ▸ hanswer, hkept⟩
  | clear => exact ⟨nofun, fun _ hp => absurd hp List.not_mem_nil⟩
  | lookUp caller shape =>
    obtain ⟨hanswer, hkept⟩ := h.get shape
    exact ⟨fun _ hs driver hd => Option.mem_some.1 hs ▸ hanswer driver hd, hkept⟩
  | keep caller =>
    simp only [Keeper.step]
    cases s.pending caller with
    | none => exact ⟨nofun, h⟩
    | some shape =>
      exact ⟨fun _ hs _ hd => Option.mem_some.1 hs ▸ (Option.mem_some.1 hd).symm, h.insert rfl⟩

theorem Faithful.run {s : Keeper.State Recency} (h : s.store.Faithful) {calls : List Call}
    (hcalls : ∀ call ∈ calls, call.Faithful) :
    ∀ sight ∈ ((keeper capacity).run s calls).1, sight.Faithful := by
  induction calls generalizing s with
  | nil => exact fun _ hs => absurd hs List.not_mem_nil
  | cons call calls ih =>
    obtain ⟨hcall, hcalls⟩ := List.forall_mem_cons.1 hcalls
    obtain ⟨hsight, hkept⟩ := h.step hcall
    exact List.forall_mem_cons.2 ⟨hsight, ih hkept hcalls⟩

end Recency

/-- However calls come in, a cache answers like the list of what was used last: its entries by
falling times of use are that list, of distinct shapes and never longer than the capacity. Drivers
come out of it as long as only drivers go in. -/
theorem driverCache_transparent (capacity : Nat) (calls : List Call) :
    let cached := DriverCache.keeper.run (.idle (.empty capacity)) calls
    let listed := (Recency.keeper capacity).run (.idle []) calls
    cached.1 = listed.1 ∧
      (∃ order : List DriverEntry, order.Perm cached.2.store.entries ∧
        order.Pairwise (fun e f => f.lastUse < e.lastUse) ∧
        order.map (fun e => (e.shape, e.driver)) = listed.2.store) ∧
      (listed.2.store.map (·.1)).Nodup ∧ listed.2.store.length ≤ max capacity 1 ∧
      ((∀ shape driver, .insert shape driver ∈ calls → driver = shape.drive) →
        ∀ sight ∈ cached.1, ∀ shape ∈ sight.asked, ∀ driver ∈ sight.answer,
          driver = shape.drive) := by
  intro cached listed
  have hstart : DriverCache.Lists capacity (.empty capacity) [] :=
    ⟨[], DriverCache.Ordered.empty, rfl⟩
  have hrun : cached.1 = listed.1 ∧ DriverCache.Lists capacity cached.2.store listed.2.store :=
    (DriverCache.keeper_simulates capacity).run hstart rfl calls
  obtain ⟨hsights, order, hordered, hkept⟩ := hrun
  refine ⟨hsights, ⟨order, hordered.perm.symm, hordered.falling, hkept⟩, ?_, ?_, fun hcalls => ?_⟩
  · rw [← hkept, List.map_map]
    exact hordered.distinct
  · rw [← hkept, List.length_map, ← hordered.capacity_eq]
    exact hordered.bounded
  · rw [hsights]
    refine Recency.Faithful.run (fun _ hp => absurd hp List.not_mem_nil) ?_
    rintro call hcall shape driver rfl
    exact hcalls shape driver hcall

/-- Two callers and room for one driver: the driver that is kept while the other one is being
computed has to go. -/
theorem driverCache_transparent_interleaved :
    let one : Shape := .minCount 1
    let two : Shape := .field ⟨"urn:x:p", false⟩ none (.guardOf .task ["update"])
    let calls : List Call :=
      [.insert one one.drive, .lookUp 0 two, .get one, .lookUp 1 one, .keep 0, .getOrCompute one]
    let sights := (DriverCache.keeper.run (.idle (.empty 0)) calls).1
    sights = [⟨none, none, 1, false⟩, ⟨some two, none, 1, false⟩,
        ⟨some one, some one.drive, 1, false⟩, ⟨some one, some one.drive, 1, false⟩,
        ⟨some two, some two.drive, 1, false⟩, ⟨some one, some one.drive, 1, false⟩] ∧
      sights = ((Recency.keeper 0).run (.idle []) calls).1 ∧
      ∀ sight ∈ sights, ∀ shape ∈ sight.asked, ∀ driver ∈ sight.answer, driver = shape.drive := by
  intro one two calls sights
  obtain ⟨hlisted, -, -, -, hdrivers⟩ := driverCache_transparent 0 calls
  refine ⟨by decide +kernel, hlisted, hdrivers fun shape driver h => ?_⟩
  simp only [calls, List.mem_cons, Call.insert.injEq, reduceCtorEq, List.not_mem_nil, or_false] at h
  obtain ⟨rfl, rfl⟩ := h
  rfl

end LinkedShapes
