-- Statements for a database, as data: queries with their columns,
-- predicates, joins and groups, and the three kinds of writes.
import EntityStore.Error
import EntityStore.Text.Splitting
import EntityStore.Value.Basic

namespace EntityStore.Sql

/-! ## Columns -/

/-- A column, perhaps of one table of several, and perhaps a path into the
document that it holds. -/
structure Column where
  qualifier : Option String := none
  name : String
  path : Option String := none
  deriving DecidableEq, Repr

namespace Column

def plain (name : String) : Column := ⟨none, name, none⟩

def qualified (qualifier name : String) : Column := ⟨some qualifier, name, none⟩

/-- The column without the path into its document. -/
def whole (c : Column) : Column := { c with path := none }

/-- The last name of a column: that of the path if there is one. -/
def leaf (c : Column) : String :=
  match c.path with
  | some path => (Text.split '.' path).getLastD path
  | none => c.name

end Column

/-! ## Predicates -/

inductive Predicate where
  | eq (c : Column) (v : Value)
  | ne (c : Column) (v : Value)
  | lt (c : Column) (v : Value)
  | le (c : Column) (v : Value)
  | gt (c : Column) (v : Value)
  | ge (c : Column) (v : Value)
  | isIn (c : Column) (vs : List Value)
  | notIn (c : Column) (vs : List Value)
  | between (c : Column) (low high : Value)
  | isNull (c : Column)
  | notNull (c : Column)
  | like (c : Column) (pattern : String)
  | notLike (c : Column) (pattern : String)
  | regexp (c : Column) (pattern : String)
  | notRegexp (c : Column) (pattern : String)
  /-- The document in the column contains the value. -/
  | contains (c : Column) (v : Value)
  | all (ps : List Predicate)
  | any (ps : List Predicate)
  | not (p : Predicate)

namespace Predicate

/-- One more part, which has to hold too. -/
def and : Predicate → Predicate → Predicate
  | .all ps, q => .all (ps ++ [q])
  | p, q => .all [p, q]

/-- One more part, of which one has to hold. -/
def or : Predicate → Predicate → Predicate
  | .any ps, q => .any (ps ++ [q])
  | p, q => .any [p, q]

/-- All parts together. No parts make no predicate, and one part stands for
itself. -/
def allOf : List Predicate → Option Predicate
  | [] => none
  | [p] => some p
  | ps => some (.all ps)

/-- One of the parts. No parts make no predicate, and one part stands for
itself. -/
def anyOf : List Predicate → Option Predicate
  | [] => none
  | [p] => some p
  | ps => some (.any ps)

mutual

/-- How deep the parts of a predicate are nested. -/
def depth : Predicate → Nat
  | .not p => 1 + p.depth
  | .all ps => 1 + depths ps
  | .any ps => 1 + depths ps
  | _ => 1

/-- The greatest depth of a list of predicates. -/
def depths : List Predicate → Nat
  | [] => 0
  | p :: ps => max p.depth (depths ps)

end

/-- Deeper predicates are refused. -/
def maxDepth : Nat := 32

def checkDepth (p : Predicate) : Except QueryError Unit :=
  if p.depth > maxDepth then .error (.tooDeep p.depth maxDepth) else .ok ()

end Predicate

/-! ## Queries -/

inductive Direction where
  | asc
  | desc
  deriving DecidableEq, Repr

inductive JoinKind where
  | inner
  | left
  | right
  | cross
  deriving DecidableEq, Repr

/-- A table joined to the ones before it, by two columns that are equal. -/
structure Join where
  table : String
  label : Option String := none
  kind : JoinKind := .inner
  leftColumn : Option String := none
  rightColumn : Option String := none
  deriving DecidableEq, Repr

/-- The name that the rest of the query uses for the joined table. -/
def Join.reference (j : Join) : String := j.label.getD j.table

/-- A value of a group of rows. -/
inductive Aggregate where
  | count
  | countDistinct (c : Column)
  | sum (c : Column)
  | min (c : Column)
  | max (c : Column)
  | avg (c : Column)
  deriving DecidableEq, Repr

/-- One output of a query. -/
inductive Item where
  | column (c : Column) (label : Option String)
  /-- An expression as the caller wrote it. -/
  | raw (expression : String)
  | aggregate (a : Aggregate) (label : String)
  deriving DecidableEq, Repr

namespace Item

def isAggregate : Item → Bool
  | .aggregate _ _ => true
  | _ => false

/-- The name of an output. -/
def outputName : Item → String
  | .column _ (some label) => label
  | .column c none => c.leaf
  | .raw expression => expression
  | .aggregate _ label => label

end Item

structure Query where
  /-- The outputs; none stand for all columns. -/
  items : List Item := []
  distinct : Bool := false
  table : String := ""
  label : Option String := none
  joins : List Join := []
  predicate : Option Predicate := none
  groupBy : List Column := []
  orderBy : List (Column × Direction) := []
  limit : Option Nat := none
  offset : Nat := 0

namespace Query

/-- The name that the rest of the query uses for its first table. -/
def reference (q : Query) : String := q.label.getD q.table

/-- One more predicate, which has to hold too. -/
def restrict (q : Query) (p : Predicate) : Query :=
  { q with predicate := some (match q.predicate with
    | some existing => existing.and p
    | none => p) }

/-- One more predicate, if there is one. -/
def restrict? (q : Query) (p : Option Predicate) : Query :=
  match p with
  | some p => q.restrict p
  | none => q

/-- One more column to sort by. -/
def sortBy (q : Query) (c : Column) (d : Direction) : Query :=
  { q with orderBy := q.orderBy ++ [(c, d)] }

/-- All rows of the query, in no order. -/
def unpaged (q : Query) : Query := { q with orderBy := [], limit := none, offset := 0 }

end Query

/-! ## Writes -/

structure Insert where
  table : String
  columns : List String
  rows : List (List Value)
  /-- The columns that a row takes over where its key is there already. -/
  onDuplicate : List String := []

structure Update where
  table : String
  assignments : List (String × Value)
  predicate : Predicate

structure Delete where
  table : String
  predicate : Predicate

/-! ## Statements -/

inductive Statement where
  | select (q : Query)
  | count (q : Query)
  | insert (s : Insert)
  | update (s : Update)
  | delete (s : Delete)

namespace Statement

def isWrite : Statement → Bool
  | .select _ => false
  | .count _ => false
  | _ => true

def table : Statement → String
  | .select q => q.table
  | .count q => q.table
  | .insert s => s.table
  | .update s => s.table
  | .delete s => s.table

def kind : Statement → String
  | .select _ => "select"
  | .count _ => "count"
  | .insert _ => "insert"
  | .update _ => "update"
  | .delete _ => "delete"

end Statement

end EntityStore.Sql
