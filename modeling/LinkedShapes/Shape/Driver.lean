import LinkedShapes.Shape.Inference
import LinkedShapes.Shape.Redaction

/-!
# Driver shapes

Descriptions are read and written by the driver of a shape: the shape redacted for conveying in
any role, task and area, then expanded.

## The cache

Drivers may be kept in a cache of bounded size. Every entry carries the time of its last use;
when the cache is full, the entry that was used least recently makes room for a new one.
-/

namespace LinkedShapes

namespace Shape

/-- The driver of a shape. -/
def drive (shape : Shape) : Shape := expand (redact .conveying shape)

end Shape

/-- A shape, its driver, and the time the entry was last used. -/
structure DriverEntry where
  shape : Shape
  driver : Shape
  lastUse : Nat
deriving DecidableEq

/-- A cache of drivers; `clock` is later than every use. -/
structure DriverCache where
  capacity : Nat
  clock : Nat
  entries : List DriverEntry
deriving DecidableEq

namespace DriverCache

/-- The cache without entries; it can hold `capacity` of them, and at least one. -/
def empty (capacity : Nat) : DriverCache := ⟨max capacity 1, 0, []⟩

/-- The capacity of a cache that asks for no other. -/
def defaultCapacity : Nat := 256

def size (c : DriverCache) : Nat := c.entries.length

def isEmpty (c : DriverCache) : Bool := c.entries.isEmpty

/-- The driver kept for a shape. -/
def find? (c : DriverCache) (shape : Shape) : Option Shape :=
  (c.entries.find? (·.shape == shape)).map (·.driver)

/-- Note that a shape has been used. -/
def touch (c : DriverCache) (shape : Shape) : DriverCache :=
  { c with
    clock := c.clock + 1
    entries := c.entries.map fun e =>
      if e.shape == shape then { e with lastUse := c.clock } else e }

/-- The driver kept for a shape; looking it up counts as a use. -/
def get (c : DriverCache) (shape : Shape) : Option Shape × DriverCache :=
  match c.find? shape with
  | some driver => (some driver, c.touch shape)
  | none => (none, c)

/-- The time of the use that is the longest ago. -/
def oldestUse (c : DriverCache) : Nat :=
  c.entries.foldl (fun time e => min time e.lastUse) c.clock

/-- The cache without the entry that was used least recently. -/
def evict (c : DriverCache) : DriverCache :=
  { c with entries := c.entries.filter (·.lastUse != c.oldestUse) }

/-- Keep a driver for a shape, in place of the one kept before. -/
def insert (c : DriverCache) (shape driver : Shape) : DriverCache :=
  if (c.find? shape).isSome then
    { c with
      clock := c.clock + 1
      entries := c.entries.map fun e =>
        if e.shape == shape then { e with driver := driver, lastUse := c.clock } else e }
  else
    let room := if c.capacity ≤ c.size then c.evict else c
    { room with
      clock := room.clock + 1
      entries := ⟨shape, driver, room.clock⟩ :: room.entries }

/-- The driver of a shape: the one that is kept, or else a new one that is kept from now on. -/
def getOrCompute (c : DriverCache) (shape : Shape) : Shape × DriverCache :=
  match c.get shape with
  | (some driver, c) => (driver, c)
  | (none, c) => (shape.drive, c.insert shape shape.drive)

/-- The cache with its entries forgotten. -/
def clear (c : DriverCache) : DriverCache := { c with entries := [] }

end DriverCache

end LinkedShapes
