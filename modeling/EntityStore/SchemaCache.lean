-- The cache of column types: what the tables of each connection look like.
-- It holds a bounded number of tables, and drops the one not used for
-- longest.
import EntityStore.Entity

namespace EntityStore

/-- A table of a connection. -/
structure TableKey where
  connection : String
  table : String
  deriving DecidableEq, Repr

structure SchemaCache where
  /-- How many tables there are at most. -/
  capacity : Nat
  enabled : Bool
  /-- The known tables, the one used last in front. -/
  entries : List (TableKey × Columns) := []
  /-- How often a table was known. The counts have no largest number: those of 64
  bits begin again only behind 2^64 calls. -/
  hits : Nat := 0
  misses : Nat := 0

namespace SchemaCache

/-- An empty cache. There is room for one table at least. -/
def make (capacity : Nat) (enabled : Bool) : SchemaCache := ⟨max capacity 1, enabled, [], 0, 0⟩

/-! ## Entries -/

/-- The entries without a table. -/
def others (c : SchemaCache) (k : TableKey) : List (TableKey × Columns) :=
  c.entries.filter fun e => e.1 ≠ k

/-- The columns of a table that is known. The table counts as used. -/
def get? (c : SchemaCache) (k : TableKey) : Option Columns × SchemaCache :=
  if !c.enabled then (none, c)
  else
    match c.entries.find? fun e => e.1 = k with
    | some e => (some e.2, { c with entries := e :: c.others k })
    | none => (none, c)

/-- The table becomes known, if the cache is enabled. -/
def put (c : SchemaCache) (k : TableKey) (columns : Columns) : SchemaCache :=
  if !c.enabled then c
  else { c with entries := ((k, columns) :: c.others k).take c.capacity }

/-! ## Loading -/

/-- The columns of a table, from the cache or from a loader that may fail.
A failure leaves the entries as they were. -/
def fetch {σ ε : Type} (c : SchemaCache) (k : TableKey) (load : σ → Except ε Columns × σ) (s : σ) :
    Except ε Columns × SchemaCache × σ :=
  match c.get? k with
  | (some columns, c) => (.ok columns, { c with hits := c.hits + 1 }, s)
  | (none, c) =>
    let c := { c with misses := c.misses + 1 }
    match load s with
    | (.ok columns, s) => (.ok columns, c.put k columns, s)
    | (.error e, s) => (.error e, c, s)

/-! ## Forgetting -/

/-- Forgets a table of every connection. -/
def invalidate (c : SchemaCache) (table : String) : SchemaCache :=
  { c with entries := c.entries.filter fun e => e.1.table ≠ table }

def invalidateAll (c : SchemaCache) : SchemaCache := { c with entries := [] }

/-- A cache that is switched off forgets everything. -/
def setEnabled (c : SchemaCache) (enabled : Bool) : SchemaCache :=
  { c with enabled := enabled, entries := if enabled then c.entries else [] }

end SchemaCache

end EntityStore
