-- Tables held in memory. No two rows of a table share the values of one of
-- its keys, as far as these are not null.
import EntityStore.Database.Basic
import EntityStore.Value.Order

namespace EntityStore

/-! ## Faults of tables -/

namespace TableFault

def missingTable (table : String) : TableFault :=
  ⟨some 1146, some "42S02", s!"Table '{table}' doesn't exist"⟩

def unknownColumn (column : String) : TableFault :=
  ⟨some 1054, some "42S22", s!"Unknown column '{column}' in 'field list'"⟩

def strayAggregate (label : String) : TableFault :=
  ⟨some 1111, none, s!"aggregate '{label}' outside of a grouped query"⟩

def unsupportedItem (expression : String) : TableFault :=
  ⟨some 1064, some "42000", s!"unsupported select expression '{expression}'"⟩

end TableFault

namespace Tables

/-! ## Tables -/

/-- Columns whose values together occur in one row only. -/
structure Key where
  name : String
  columns : List String

/-- What a table looks like. -/
structure Shape where
  name : String
  columns : Columns
  primaryKey : String
  uniqueKeys : List Key := []

/-- The shape of a table. The primary key is a column of whole numbers,
unless it is given as another one. -/
def Shape.make (name primaryKey : String) (columns : Columns) (uniqueKeys : List Key) : Shape where
  name := name
  columns := Fields.extend [(primaryKey, .integer)] columns
  primaryKey := primaryKey
  uniqueKeys := uniqueKeys

/-- A count as a number of 64 bits. Behind the largest number the count goes on
from the least one. -/
def word (n : Int) : Int := if n ≤ Value.maxInt then n else Int.bmod n 0x10000000000000000

structure Table where
  shape : Shape
  rows : List Row := []
  /-- The count behind the primary keys so far. As a number of 64 bits it is the
  primary key of the next row that comes without one. -/
  nextId : Int := 1

/-! ## Keys -/

/-- All keys, the primary one first. -/
def Shape.keys (s : Shape) : List Key := ⟨"PRIMARY", [s.primaryKey]⟩ :: s.uniqueKeys

/-- The values of a row under a key. Where one of them is null, the row has
none. -/
def Key.of? (k : Key) (row : Row) : Option (List Value) :=
  k.columns.mapM fun c => (row.get? c).filter fun v => !v.isNull

/-- The row has the values under the columns. -/
def hasValues (row : Row) (columns : List String) (vs : List Value) : Bool :=
  (columns.zip vs).all fun (c, v) => (row.get? c).any fun w => Value.agrees w v

/-- The place of the first row that passes a test, where one place is left
out. -/
def position? (test : Row → Bool) (rows : List Row) (skip : Option Nat) : Option Nat :=
  (rows.zipIdx.find? fun (row, i) => some i != skip && test row).map (·.2)

/-- A key that two rows share. -/
structure Conflict where
  /-- The place of the stored row. -/
  place : Nat
  values : List Value
  key : String

/-- The first stored row that shares a key with another row, where one place
is left out. -/
def Shape.conflict? (s : Shape) (rows : List Row) (row : Row) (skip : Option Nat) :
    Option Conflict :=
  s.keys.findSome? fun k => do
    let vs ← k.of? row
    let i ← position? (hasValues · k.columns vs) rows skip
    return ⟨i, vs, k.name⟩

/-- The fault of a shared key. -/
def Conflict.fault (c : Conflict) : TableFault :=
  .duplicateEntry ("-".intercalate (c.values.map Value.key)) c.key

/-! ## Columns -/

def Shape.checkColumn (s : Shape) (column : String) : Except TableFault Unit :=
  if Fields.contains s.columns column then .ok () else .error (.unknownColumn column)

/-- A row with null in all columns. -/
def Shape.blank (s : Shape) : Row := Fields.mapValues (fun _ => Value.null) s.columns

end Tables

/-- The tables of a database by their names. -/
abbrev Tables := Fields Tables.Table

/-- The table with a name. -/
def Tables.find (ts : Tables) (name : String) : Except TableFault Tables.Table :=
  match Fields.get? ts name with
  | some t => .ok t
  | none => .error (.missingTable name)

end EntityStore
