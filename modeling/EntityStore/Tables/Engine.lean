-- A database held in memory. It keeps a log of what it was asked for, and
-- fails where it is told to.
import EntityStore.Tables.Queries
import EntityStore.Tables.Writes

namespace EntityStore.Tables

/-! ## Faults to come -/

/-- A fault that statements meet instead of being run. -/
structure Injected where
  fault : TableFault
  /-- How often it is met; without a number, until it is cleared. -/
  remaining : Option Nat
  writesOnly : Bool := false

def Injected.appliesTo (i : Injected) (s : Sql.Statement) : Bool := !i.writesOnly || s.isWrite

/-- What is left of a fault that was met. -/
def Injected.met (i : Injected) : List Injected :=
  match i.remaining with
  | none => [i]
  | some n => if n ≤ 1 then [] else [{ i with remaining := some (n - 1) }]

/-- The first fault that a statement meets, and the faults after it. -/
def takeFault? (s : Sql.Statement) : List Injected → Option (TableFault × List Injected)
  | [] => none
  | i :: rest =>
    if i.appliesTo s then some (i.fault, i.met ++ rest)
    else (takeFault? s rest).map fun (f, left) => (f, i :: left)

/-! ## The engine -/

/-- A statement that was asked for. -/
structure LogEntry where
  role : Role
  kind : String
  table : String
  failed : Bool

structure Engine where
  tables : Tables := []
  faults : List Injected := []
  log : List LogEntry := []
  reconnects : Nat := 0
  describes : Nat := 0

namespace Engine

def create (e : Engine) (s : Shape) : Engine :=
  { e with tables := Fields.insert e.tables s.name { shape := s } }

def rows (e : Engine) (table : String) : List Row :=
  ((Fields.get? e.tables table).map Table.rows).getD []

/-- Puts a table in the place of the one with its name. -/
def store (ts : Tables) (name : String) (t : Table) : Tables := Fields.insert ts name t

/-- Inserts documents into a table one by one. Those before a failure
stay. -/
def seed (e : Engine) (table : String) (docs : List Json) : Except TableFault Nat × Engine :=
  match e.tables.find table with
  | .error f => (.error f, e)
  | .ok t =>
    let (r, t) := Tables.seed t docs 0
    (r, { e with tables := store e.tables table t })

/-! ## Running statements -/

/-- A write to one table. -/
def write (ts : Tables) (name : String) (f : Table → Except TableFault Written) :
    Except TableFault (Output × Tables) := do
  let (n, t) ← f (← ts.find name)
  return (.affected n, store ts name t)

/-- What a statement gives, and the tables after it. -/
def apply (ts : Tables) (s : Sql.Statement) : Except TableFault (Output × Tables) :=
  match s with
  | .select q => do return (.rows (← Tables.select ts q), ts)
  | .count q => do return (.counted (← Tables.count ts q), ts)
  | .insert i => write ts i.table (insert · i)
  | .update u => write ts u.table (update · u)
  | .delete d => write ts d.table fun t => .ok (delete t d)

/-- Runs a statement, or meets a fault instead. A failure leaves the tables
as they were. -/
def run (e : Engine) (s : Sql.Statement) : Except TableFault Output × Engine :=
  match takeFault? s e.faults with
  | some (f, left) => (.error f, { e with faults := left })
  | none =>
    match apply e.tables s with
    | .ok (out, ts) => (.ok out, { e with tables := ts })
    | .error f => (.error f, e)

/-- A write to one table in place. The table is what the write leaves, also where
it stops. -/
def writeInPlace (ts : Tables) (name : String) (f : Table → Except Stop Nat × Table) :
    Except Stop Output × Tables :=
  match ts.find name with
  | .error fault => (.error (.fault fault), ts)
  | .ok t =>
    let (r, t) := f t
    (r.map .affected, store ts name t)

/-- What a statement gives that changes the tables in place, and what it leaves of
them. -/
def applyInPlace (checks : Bool) (ts : Tables) (s : Sql.Statement) :
    Except Stop Output × Tables :=
  match s with
  | .select q => ((Tables.select ts q).mapError .fault |>.map .rows, ts)
  | .count q => ((Tables.count ts q).mapError .fault |>.map .counted, ts)
  | .insert i => writeInPlace ts i.table (InPlace.insert checks · i)
  | .update u => writeInPlace ts u.table (InPlace.update · u)
  | .delete d => writeInPlace ts d.table (InPlace.delete · d)

/-- Runs a statement that changes the tables in place, or meets a fault
instead. -/
def runInPlace (checks : Bool) (e : Engine) (s : Sql.Statement) : Except Stop Output × Engine :=
  match takeFault? s e.faults with
  | some (f, left) => (.error (.fault f), { e with faults := left })
  | none =>
    let (r, ts) := applyInPlace checks e.tables s
    (r, { e with tables := ts })

/-- Runs a statement and notes it in the log. -/
def execute (role : Role) (s : Sql.Statement) (e : Engine) : Except TableFault Output × Engine :=
  let (r, e) := e.run s
  let failed := match r with
    | .ok _ => false
    | .error _ => true
  (r, { e with log := e.log ++ [⟨role, s.kind, s.table, failed⟩] })

/-- The columns of a table. -/
def describe (table : String) (e : Engine) : Except TableFault Columns × Engine :=
  ((e.tables.find table).map (·.shape.columns), { e with describes := e.describes + 1 })

/-- The engine as a database. -/
def database : Database Engine where
  connection := "memory"
  execute := execute
  reconnect _ e := (.ok (), { e with reconnects := e.reconnects + 1 })
  describe := describe

end Engine

end EntityStore.Tables
