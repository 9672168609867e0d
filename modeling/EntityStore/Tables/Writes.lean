-- Writes to a table held in memory. Each takes the table to its next state,
-- or fails and leaves it as it was.
import EntityStore.Sql.Evaluation
import EntityStore.Tables.Basic

namespace EntityStore.Tables

/-- How many rows a write affects, and the table after it. -/
abbrev Written := Nat × Table

/-! ## Inserts -/

/-- A table while rows come in, and how many were affected so far. -/
structure Filling where
  rows : List Row
  nextId : Int
  affected : Nat := 0

/-- A row of values under columns. -/
def incomingRow (s : Shape) (columns : List String) (vs : List Value) : Row :=
  Fields.extend s.blank (columns.zip vs)

/-- The count behind a primary key. As numbers of 64 bits it is the larger one of
the count so far and of the number behind the key. -/
def countPast (nextId id : Int) : Int := nextId + max 0 (word (id + 1) - word nextId)

/-- The row with a primary key, and the count behind it. -/
def assignId (s : Shape) (row : Row) (nextId : Int) : Row × Int :=
  match row.get? s.primaryKey with
  | none => (row.insert s.primaryKey (.int (word nextId)), nextId + 1)
  | some .null => (row.insert s.primaryKey (.int (word nextId)), nextId + 1)
  | some (.int id) => (row, countPast nextId id)
  | some _ => (row, nextId)

/-- The row with a new value under a column, and whether it was another one
before. -/
def assign (row : Row) (column : String) (v : Value) : Row × Bool :=
  if row.get? column == some v then (row, false) else (row.insert column v, true)

/-- The row with all assignments, and whether one of them changed it. -/
def assignAll (row : Row) (assignments : List (String × Value)) : Row × Bool :=
  assignments.foldl
    (fun (row, changed) (c, v) =>
      let (row, now) := assign row c v
      (row, changed || now))
    (row, false)

/-- What a stored row takes over from another one. -/
def takeOver (incoming : Row) (columns : List String) : List (String × Value) :=
  columns.filterMap fun c => (incoming.get? c).map (c, ·)

/-- One more row comes in. Where its key is there already, the stored row
takes over the given columns, or the insert fails. -/
def place (s : Shape) (columns onDuplicate : List String) (f : Filling) (vs : List Value) :
    Except TableFault Filling :=
  let (row, nextId) := assignId s (incomingRow s columns vs) f.nextId
  match s.conflict? f.rows row none with
  | none => .ok ⟨f.rows ++ [row], nextId, f.affected + 1⟩
  | some conflict =>
    if onDuplicate.isEmpty then .error conflict.fault
    else
      let (stored, changed) :=
        assignAll ((f.rows[conflict.place]?).getD []) (takeOver row onDuplicate)
      .ok ⟨f.rows.set conflict.place stored, nextId, f.affected + if changed then 2 else 0⟩

def insert (t : Table) (s : Sql.Insert) : Except TableFault Written := do
  s.columns.forM t.shape.checkColumn
  let f ← s.rows.foldlM (place t.shape s.columns s.onDuplicate) ⟨t.rows, t.nextId, 0⟩
  return (f.affected, { t with rows := f.rows, nextId := f.nextId })

/-! ## Updates -/

/-- Changes the rows that are left, behind those that are done. -/
def updateRows (s : Shape) (u : Sql.Update) (done : List Row) :
    List Row → Nat → Except TableFault (Nat × List Row)
  | [], n => .ok (n, done)
  | row :: rest, n =>
    if !u.predicate.holds row then updateRows s u (done ++ [row]) rest n
    else
      let (next, changed) := assignAll row u.assignments
      if !changed then updateRows s u (done ++ [row]) rest n
      else
        match s.conflict? (done ++ next :: rest) next (some done.length) with
        | some conflict => .error conflict.fault
        | none => updateRows s u (done ++ [next]) rest (n + 1)

def update (t : Table) (u : Sql.Update) : Except TableFault Written := do
  u.assignments.forM fun (c, _) => t.shape.checkColumn c
  let (n, rows) ← updateRows t.shape u [] t.rows 0
  return (n, { t with rows := rows })

/-! ## Deletions -/

def delete (t : Table) (d : Sql.Delete) : Written :=
  let kept := t.rows.filter fun row => !d.predicate.holds row
  (t.rows.length - kept.length, { t with rows := kept })

/-! ## Writes in place -/

/-- What ends a write before it is done. -/
inductive Stop where
  | fault (f : TableFault)
  /-- A number behind the largest one of 64 bits, where sums are checked. -/
  | overflow

/-- A table while a statement writes to it, with the variables of the
statement. -/
structure Working extends Filling where
  stored : Table

namespace InPlace

/-- A copy of the rows of a table and of its next primary key. -/
def start (t : Table) : Working where
  rows := t.rows
  nextId := t.nextId
  stored := t

/-- The variables become the table. -/
def commit (w : Working) : Table := { w.stored with rows := w.rows, nextId := w.nextId }

/-- Takes one step after the other, up to one that stops. -/
def steps {α : Type} (step : Working → α → Option Stop × Working) :
    List α → Working → Option Stop × Working
  | [], w => (none, w)
  | x :: xs, w =>
    match step w x with
    | (none, w) => steps step xs w
    | (some stop, w) => (some stop, w)

/-- What is affected by steps that start from a table, and the table after
them. -/
def finish : Option Stop × Working → Except Stop Nat × Table
  | (none, w) => (.ok w.affected, commit w)
  | (some stop, w) => (.error stop, w.stored)

/-- The number of 64 bits behind another one, if there is one or sums are not
checked. -/
def succ? (checks : Bool) (n : Int) : Option Int :=
  if checks && n == Value.maxInt then none else some (word (n + 1))

/-- The row with a primary key, and the next primary key of the table. -/
def assignId (checks : Bool) (s : Shape) (row : Row) (nextId : Int) : Option (Row × Int) :=
  match row.get? s.primaryKey with
  | none => (succ? checks nextId).map (row.insert s.primaryKey (.int nextId), ·)
  | some .null => (succ? checks nextId).map (row.insert s.primaryKey (.int nextId), ·)
  | some (.int id) => (succ? checks id).map fun n => (row, max nextId n)
  | some _ => some (row, nextId)

def place (checks : Bool) (s : Shape) (columns onDuplicate : List String) (w : Working)
    (vs : List Value) : Option Stop × Working :=
  match assignId checks s (incomingRow s columns vs) w.nextId with
  | none => (some .overflow, w)
  | some (row, nextId) =>
    let w := { w with nextId := nextId }
    match s.conflict? w.rows row none with
    | none => (none, { w with rows := w.rows ++ [row], affected := w.affected + 1 })
    | some conflict =>
      if onDuplicate.isEmpty then (some (.fault conflict.fault), w)
      else
        let (stored, changed) :=
          assignAll ((w.rows[conflict.place]?).getD []) (takeOver row onDuplicate)
        (none, { w with
          rows := w.rows.set conflict.place stored
          affected := w.affected + if changed then 2 else 0 })

def insert (checks : Bool) (t : Table) (s : Sql.Insert) : Except Stop Nat × Table :=
  match s.columns.forM t.shape.checkColumn with
  | .error f => (.error (.fault f), t)
  | .ok () => finish (steps (place checks t.shape s.columns s.onDuplicate) s.rows (start t))

/-- The row at a place is changed before it is compared with the others. -/
def updateRow (s : Shape) (u : Sql.Update) (w : Working) (i : Nat) : Option Stop × Working :=
  let row := (w.rows[i]?).getD []
  if !u.predicate.holds row then (none, w)
  else
    let (next, changed) := assignAll row u.assignments
    if !changed then (none, w)
    else
      let w := { w with rows := w.rows.set i next }
      match s.conflict? w.rows next (some i) with
      | some conflict => (some (.fault conflict.fault), w)
      | none => (none, { w with affected := w.affected + 1 })

def update (t : Table) (u : Sql.Update) : Except Stop Nat × Table :=
  match u.assignments.forM fun (c, _) => t.shape.checkColumn c with
  | .error f => (.error (.fault f), t)
  | .ok () => finish (steps (updateRow t.shape u) (List.range' 0 t.rows.length) (start t))

def delete (t : Table) (d : Sql.Delete) : Except Stop Nat × Table :=
  (.ok (Tables.delete t d).1, (Tables.delete t d).2)

end InPlace

/-! ## First rows -/

/-- The value of a document as a column of the table stores it. -/
def Shape.bind (s : Shape) (column : String) (doc : Json) : Value :=
  if doc.isNull then .null else if s.columns.isJson column then .json doc else .ofJson doc

/-- The insert of one document. -/
def seedInsert (s : Shape) (doc : Fields Json) : Sql.Insert where
  table := s.name
  columns := doc.keys
  rows := [doc.map fun (c, j) => s.bind c j]

/-- Inserts documents one by one. Those before a failure stay. -/
def seed (t : Table) : List Json → Nat → Except TableFault Nat × Table
  | [], n => (.ok n, t)
  | .obj doc :: rest, n =>
    match insert t (seedInsert t.shape doc) with
    | .ok (k, t) => seed t rest (n + k)
    | .error e => (.error e, t)
  | _ :: _, _ => (.error (.plain s!"seed row for '{t.shape.name}' is not an object"), t)

end EntityStore.Tables
