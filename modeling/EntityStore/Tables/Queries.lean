-- Queries over tables held in memory. An output that is written as text may be all columns of
-- a table, or one column, perhaps under another name.
import EntityStore.Sql.Evaluation
import EntityStore.Sql.Text
import EntityStore.Tables.Basic
import EntityStore.Text.Ranges

namespace EntityStore.Tables

/-! ## Texts -/

/-- The text around the last occurrence of another one, in any case of the
letters of ASCII. -/
def splitLastChars (needle : List Char) : List Char → Option (List Char × List Char)
  | [] => none
  | c :: rest =>
    match splitLastChars needle rest with
    | some (before, after) => some (c :: before, after)
    | none =>
      if needle.isPrefixOf ((c :: rest).map Char.toLower) then
        some ([], (c :: rest).drop needle.length)
      else none

/-- An expression and its name, where it has one. -/
def splitLabel (expression : String) : String × Option String :=
  match splitLastChars " as ".toList expression.toList with
  | some (source, label) =>
    (Text.trim (String.ofList source), some (Text.trim (String.ofList label)))
  | none => (expression, none)

/-- A name without the quotes around it. -/
def unquote (name : String) : String :=
  String.ofList (Text.trimWhere (· == Sql.identQuote) (Text.trim name).toList)

/-! ## Expressions -/

inductive Expression where
  /-- All columns of a table. -/
  | allOf (qualifier : String)
  | column (c : Sql.Column) (label : String)

/-- The column that a text names. -/
def column? (source : String) : Option Sql.Column :=
  if source.toList.any fun c => c == '(' || c == ' ' || c == '\'' then none
  else
    match (Text.split '.' source).map unquote with
    | [name] => some (.plain name)
    | [qualifier, name] => some (.qualified qualifier name)
    | _ => none

/-- The meaning of an output that is given as text. -/
def Expression.read (text : String) : Except TableFault Expression :=
  let text := Text.trim text
  match Text.dropBack? ".*" text with
  | some qualifier => .ok (.allOf (unquote qualifier))
  | none =>
    let (source, label) := splitLabel text
    match column? source with
    | some c => .ok (.column c ((label.map unquote).getD c.name))
    | none => .error (.unsupportedItem text)

open Sql (Query Join Item Direction Column)

/-! ## Joined rows -/

/-- The columns of a row under their full names. -/
def qualified (qualifier : String) (row : Row) : Row :=
  Fields.ofList (row.map fun (c, v) => (qualifier ++ "." ++ c, v))

/-- The columns of a row under their names and under their full names. -/
def withQualified (qualifier : String) (row : Row) : Row :=
  Fields.extend row (qualified qualifier row)

/-- The columns that a join compares are there and equal. -/
def meets (j : Join) (row : Row) : Bool :=
  match j.leftColumn, j.rightColumn with
  | some l, some r =>
    match row.get? l, row.get? r with
    | some a, some b => Value.agrees a b
    | _, _ => false
  | _, _ => false

/-- Two rows are joined. -/
def joins (j : Join) (left right : Row) : Bool :=
  j.kind = .cross || meets j (Fields.extend left right)

/-- The rows that a row on the left is joined to. -/
def joinedRows (j : Join) (right : List Row) (left : Row) : List Row :=
  let found := (right.filter (joins j left)).map (Fields.extend left)
  if found.isEmpty && j.kind = .left then [left] else found

/-- All joined rows. Rows of the right table that no row is joined to come
last, where the join keeps them. -/
def joinRows (j : Join) (left right : List Row) : List Row :=
  let alone := if j.kind = .right then right.filter fun r => !left.any (joins j · r) else []
  left.flatMap (joinedRows j right) ++ alone

/-- The rows of one more table. -/
def joinTable (ts : Tables) (left : List Row) (j : Join) : Except TableFault (List Row) := do
  let t ← ts.find j.table
  return joinRows j left (t.rows.map (qualified j.reference))

/-- The rows of all tables of a query that its predicate lets pass. -/
def sourceRows (ts : Tables) (q : Query) : Except TableFault (List Row) := do
  let base ← ts.find q.table
  let rows ←
    if q.joins.isEmpty then pure base.rows
    else q.joins.foldlM (joinTable ts) (base.rows.map (withQualified q.reference))
  return match q.predicate with
    | some p => rows.filter fun row => p.holds row
    | none => rows

/-! ## Outputs -/

/-- The columns that do not go by a full name. -/
def bareColumns (row : Row) : Row := List.filter (fun p => !Text.hasChar '.' p.1) row

/-- The columns of a table, without its name in front. -/
def columnsOf (qualifier : String) (row : Row) : List (String × Value) :=
  row.filterMap fun (c, v) => (Text.dropFront? (qualifier ++ ".") c).map (·, v)

/-- The columns that an expression puts out. -/
def Expression.columns (q : Query) (row : Row) : Expression → List (String × Value)
  | .allOf qualifier =>
    if qualifier = q.reference then bareColumns row else columnsOf qualifier row
  | .column c label => [(label, c.valueOrNull row)]

/-- The columns that an output puts out for a row. -/
def itemColumns (q : Query) (row : Row) (item : Item) : Except TableFault (List (String × Value)) :=
  match item with
  | .column c _ => .ok [(item.outputName, c.valueOrNull row)]
  | .raw expression => do return (← Expression.read expression).columns q row
  | .aggregate _ label => .error (.strayAggregate label)

/-- The row that is put out for a row. -/
def outputRow (q : Query) (row : Row) : Except TableFault Row :=
  if q.items.isEmpty then .ok (bareColumns row)
  else do return Fields.ofList (← q.items.mapM (itemColumns q row)).flatten

/-! ## Groups -/

/-- The query is about groups of rows. -/
def isGrouped (q : Query) : Bool := !q.groupBy.isEmpty || q.items.any Item.isAggregate

/-- A row joins the group of its key, or makes a new group. -/
def addToGroup (key : List Value) (row : Row) :
    List (List Value × List Row) → List (List Value × List Row)
  | [] => [(key, [row])]
  | (k, rows) :: rest =>
    if (Value.orderLists k key).isEq then (k, rows ++ [row]) :: rest
    else (k, rows) :: addToGroup key row rest

/-- The rows by the values of the columns that group them, in the order of
their first rows. Without such columns all rows are one group. -/
def groups (q : Query) (rows : List Row) : List (List Row) :=
  if q.groupBy.isEmpty then [rows]
  else
    (rows.foldl (fun gs row => addToGroup (q.groupBy.map (·.valueOrNull row)) row gs) []).map (·.2)

/-- The columns that an output puts out for a group. -/
def groupColumns (q : Query) (rows : List Row) (item : Item) :
    Except TableFault (List (String × Value)) :=
  match item with
  | .aggregate a label => .ok [(label, a.value rows)]
  | item => itemColumns q (rows.headD []) item

/-- The row that is put out for a group. -/
def groupRow (q : Query) (rows : List Row) : Except TableFault Row :=
  if q.items.isEmpty then .ok (rows.headD [])
  else do return Fields.ofList (← q.items.mapM (groupColumns q rows)).flatten

/-! ## Order -/

/-- The order of two rows whose values under a column are given. -/
def orderBy (orders : List (Column × Direction)) (a b : Column → Value) : Ordering :=
  orders.foldl
    (fun o (c, d) => o.then (match d with
      | .asc => Value.sortOrder (a c) (b c)
      | .desc => Value.sortOrder (b c) (a c)))
    .eq

/-- What a group is sorted by: one of its outputs, or a column of its first
row. -/
def groupValue (out first : Row) (c : Column) : Value :=
  if c.qualifier.isNone && c.path.isNone then
    match out.get? c.name with
    | some v => v
    | none => c.valueOrNull first
  else c.valueOrNull first

/-! ## Results -/

/-- All rows that a query puts out, in order. -/
def outputRows (q : Query) (rows : List Row) : Except TableFault (List Row) :=
  if isGrouped q then do
    let out ← (groups q rows).mapM fun g => do return (← groupRow q g, g.headD [])
    let sorted := out.mergeSort fun a b =>
      (orderBy q.orderBy (groupValue a.1 a.2) (groupValue b.1 b.2)).isLE
    return sorted.map (·.1)
  else
    (rows.mergeSort fun a b =>
      (orderBy q.orderBy (·.valueOrNull a) (·.valueOrNull b)).isLE).mapM (outputRow q)

/-- A part of a list. -/
def slice {α : Type} (offset : Nat) (limit : Option Nat) (xs : List α) : List α :=
  let rest := xs.drop offset
  match limit with
  | some n => rest.take n
  | none => rest

/-- The rows of a query. -/
def select (ts : Tables) (q : Query) : Except TableFault (List Row) := do
  let rows ← sourceRows ts q
  let out ← outputRows q rows
  return slice q.offset q.limit (if q.distinct then out.eraseDups else out)

/-- How many rows a query has, whatever its page. -/
def count (ts : Tables) (q : Query) : Except TableFault Nat := do
  let rows ← sourceRows ts q
  if !q.groupBy.isEmpty then return (groups q rows).length
  else if q.distinct then
    let out ← rows.mapM (outputRow q)
    return out.eraseDups.length
  else return rows.length

end EntityStore.Tables
