-- The text of a statement. It is written as pieces: words of the language,
-- quoted names, and places for parameters. A value never becomes a word, so
-- no value can change what a statement means.
import EntityStore.Sql.Statement

namespace EntityStore.Sql

/-! ## Pieces -/

inductive Piece where
  /-- Words and signs of the language. -/
  | word (s : String)
  /-- A name in quotes. -/
  | ident (name : String)
  /-- An expression as the caller wrote it. -/
  | raw (s : String)
  /-- A place for a value. -/
  | param (v : Value)

/-- The sign that quotes names. -/
def identQuote : Char := '\x60'

/-- A name in quotes. A quote inside is written twice. -/
def quoteIdent (name : String) : String :=
  String.ofList (identQuote ::
    name.toList.flatMap (fun c => if c = identQuote then [c, c] else [c]) ++ [identQuote])

namespace Piece

def text : Piece → String
  | .word s => s
  | .ident name => quoteIdent name
  | .raw s => s
  | .param _ => "?"

def param? : Piece → Option Value
  | .param v => some v
  | _ => none

/-- The text of a list of pieces. -/
def join (ps : List Piece) : String := String.join (ps.map text)

/-- The parameters of a list of pieces, in the order of their places. -/
def params (ps : List Piece) : List Value := ps.filterMap param?

/-- Lists of pieces with a word between them. -/
def separate (word : String) : List (List Piece) → List Piece
  | [] => []
  | [ps] => ps
  | ps :: rest => ps ++ .word word :: separate word rest

end Piece

open Piece (separate)

/-! ## Columns and values -/

/-- A path into a document, as a parameter. -/
def pathParam (path : String) : Piece := .param (.text ("$." ++ path))

/-- A column without a path. -/
def Column.basePieces (c : Column) : List Piece :=
  match c.qualifier with
  | some q => [.ident q, .word ".", .ident c.name]
  | none => [.ident c.name]

def Column.pieces (c : Column) : List Piece :=
  match c.path with
  | none => c.basePieces
  | some path =>
    .word "JSON_UNQUOTE(JSON_EXTRACT(" :: c.basePieces ++ [.word ", ", pathParam path, .word "))"]

/-- A name with points, each part in quotes. -/
def dottedPieces (reference : String) : List Piece :=
  separate "." ((Text.split '.' reference).map fun part => [.ident part])

/-- Values in brackets. -/
def listPieces (vs : List Value) : List Piece :=
  .word "(" :: separate ", " (vs.map fun v => [.param v]) ++ [.word ")"]

/-! ## Predicates -/

/-- A comparison. Nothing compares with null: an equality asks for null
instead, and every other comparison for a value. -/
def comparisonPieces (c : Column) (sign : String) (v : Value) : List Piece :=
  if v.isNull then c.pieces ++ [.word (if sign == "=" then " IS NULL" else " IS NOT NULL")]
  else c.pieces ++ [.word (" " ++ sign ++ " "), .param v]

/-- Parts with a word between them. Brackets stand around two parts or more
that are themselves a part. -/
def junctionPieces (word none? : String) (nested : Bool) (parts : List (List Piece)) :
    List Piece :=
  match parts with
  | [] => [.word none?]
  | [ps] => ps
  | parts =>
    if nested then .word "(" :: separate word parts ++ [.word ")"] else separate word parts

mutual

/-- The text of a predicate; `nested` says that it is part of another. -/
def Predicate.pieces (nested : Bool) : Predicate → List Piece
  | .eq c v => comparisonPieces c "=" v
  | .ne c v => comparisonPieces c "!=" v
  | .lt c v => comparisonPieces c "<" v
  | .le c v => comparisonPieces c "<=" v
  | .gt c v => comparisonPieces c ">" v
  | .ge c v => comparisonPieces c ">=" v
  | .isIn c vs =>
    if vs.isEmpty then [.word "1 = 0"] else c.pieces ++ .word " IN " :: listPieces vs
  | .notIn c vs =>
    if vs.isEmpty then [.word "1 = 1"] else c.pieces ++ .word " NOT IN " :: listPieces vs
  | .between c low high =>
    c.pieces ++ [.word " BETWEEN ", .param low, .word " AND ", .param high]
  | .isNull c => c.pieces ++ [.word " IS NULL"]
  | .notNull c => c.pieces ++ [.word " IS NOT NULL"]
  | .like c p => c.pieces ++ [.word " LIKE ", .param (.text p)]
  | .notLike c p => c.pieces ++ [.word " NOT LIKE ", .param (.text p)]
  | .regexp c p => c.pieces ++ [.word " REGEXP ", .param (.text p)]
  | .notRegexp c p => c.pieces ++ [.word " NOT REGEXP ", .param (.text p)]
  | .contains c v =>
    let path := match c.path with
      | some path => [.word ", ", pathParam path]
      | none => []
    .word "JSON_CONTAINS(" :: c.basePieces ++
      [.word ", ", .param (.text v.toJson.compact)] ++ path ++ [.word ")"]
  | .all ps => junctionPieces " AND " "1 = 1" nested (partPieces ps)
  | .any ps => junctionPieces " OR " "1 = 0" nested (partPieces ps)
  | .not p => .word "NOT (" :: p.pieces false ++ [.word ")"]

/-- The texts of the parts of a predicate. -/
def partPieces : List Predicate → List (List Piece)
  | [] => []
  | p :: ps => p.pieces true :: partPieces ps

end

/-! ## Queries -/

def Aggregate.pieces : Aggregate → List Piece
  | .count => [.word "COUNT(*)"]
  | .countDistinct c => .word "COUNT(DISTINCT " :: c.pieces ++ [.word ")"]
  | .sum c => .word "SUM(" :: c.pieces ++ [.word ")"]
  | .min c => .word "MIN(" :: c.pieces ++ [.word ")"]
  | .max c => .word "MAX(" :: c.pieces ++ [.word ")"]
  | .avg c => .word "AVG(" :: c.pieces ++ [.word ")"]

/-- A second name, if there is one. -/
def labelPieces : Option String → List Piece
  | some label => [.word " AS ", .ident label]
  | none => []

/-- An output. A path into a document is named after its last part. -/
def Item.pieces : Item → List Piece
  | .column c label => c.pieces ++ labelPieces (label.or (c.path.map fun _ => c.leaf))
  | .raw expression => [.raw expression]
  | .aggregate a label => a.pieces ++ labelPieces (some label)

def Query.selectPieces (q : Query) : List Piece :=
  let items := if q.items.isEmpty then
      if q.joins.isEmpty then [.word "*"] else [.ident q.reference, .word ".*"]
    else separate ", " (q.items.map Item.pieces)
  .word "SELECT " :: (if q.distinct then [.word "DISTINCT "] else []) ++ items

def JoinKind.words : JoinKind → String
  | .inner => " INNER JOIN "
  | .left => " LEFT JOIN "
  | .right => " RIGHT JOIN "
  | .cross => " CROSS JOIN "

/-- A join. All but a cross join need both columns. -/
def Join.pieces (j : Join) : Except QueryError (List Piece) :=
  let head := .word j.kind.words :: .ident j.table :: labelPieces j.label
  if j.kind = .cross then .ok head
  else
    match j.leftColumn, j.rightColumn with
    | some left, some right =>
      .ok (head ++ .word " ON " :: dottedPieces left ++ .word " = " :: dottedPieces right)
    | _, _ => .error (.invalid s!"join on '{j.table}' needs both join columns")

/-- The tables, the predicate and the groups of a query. -/
def Query.fromPieces (q : Query) : Except QueryError (List Piece) := do
  if q.table.isEmpty then throw (.invalid "query has no table")
  let joins ← q.joins.mapM Join.pieces
  let filter ← match q.predicate with
    | some p => do
      p.checkDepth
      pure (.word " WHERE " :: p.pieces false)
    | none => pure []
  let groups := if q.groupBy.isEmpty then []
    else .word " GROUP BY " :: separate ", " (q.groupBy.map Column.pieces)
  return .word " FROM " :: .ident q.table :: labelPieces q.label ++ joins.flatten ++ filter ++
    groups

def Direction.words : Direction → String
  | .asc => " ASC"
  | .desc => " DESC"

/-- The largest limit, which an offset without a limit has to name. -/
def noLimit : Nat := 0xffffffffffffffff

/-- The page of a query. An offset needs a limit. -/
def pageWords (limit : Option Nat) (offset : Nat) : List Piece :=
  match limit, offset with
  | some n, 0 => [.word s!" LIMIT {n}"]
  | some n, k => [.word s!" LIMIT {n} OFFSET {k}"]
  | none, 0 => []
  | none, k => [.word s!" LIMIT {noLimit} OFFSET {k}"]

def Query.pieces (q : Query) : Except QueryError (List Piece) := do
  let tables ← q.fromPieces
  let order := if q.orderBy.isEmpty then []
    else .word " ORDER BY " ::
      separate ", " (q.orderBy.map fun (c, d) => c.pieces ++ [.word d.words])
  return q.selectPieces ++ tables ++ order ++ pageWords q.limit q.offset

/-- The count of a query. Groups and distinct rows are counted as the rows
of an inner query. -/
def Query.countPieces (q : Query) : Except QueryError (List Piece) := do
  let head := [.word "SELECT COUNT(*) AS ", .ident "count"]
  if q.distinct || !q.groupBy.isEmpty then
    let inner ← q.unpaged.pieces
    return head ++ .word " FROM (" :: inner ++ [.word ") AS ", .ident "counted"]
  else
    let tables ← q.unpaged.fromPieces
    return head ++ tables

/-! ## Writes -/

/-- The rows of an insert, each with a value for each column. -/
def rowPieces (columns : Nat) (i : Nat) : List (List Value) → Except QueryError (List (List Piece))
  | [] => .ok []
  | row :: rest =>
    if row.length ≠ columns then
      .error (.invalid s!"row {i} has {row.length} values for {columns} columns")
    else (rowPieces columns (i + 1) rest).map (listPieces row :: ·)

def Insert.pieces (s : Insert) : Except QueryError (List Piece) := do
  if s.columns.isEmpty || s.rows.isEmpty then
    throw (.invalid s!"insert into '{s.table}' has no rows")
  let rows ← rowPieces s.columns.length 0 s.rows
  let takeOver (c : String) : List Piece := [.ident c, .word " = VALUES(", .ident c, .word ")"]
  let onDuplicate := if s.onDuplicate.isEmpty then []
    else .word " ON DUPLICATE KEY UPDATE " :: separate ", " (s.onDuplicate.map takeOver)
  return .word "INSERT INTO " :: .ident s.table :: .word " (" ::
    separate ", " (s.columns.map fun c => [.ident c]) ++ .word ") VALUES " ::
    separate ", " rows ++ onDuplicate

def Update.pieces (s : Update) : Except QueryError (List Piece) := do
  if s.assignments.isEmpty then throw (.invalid s!"update of '{s.table}' has no assignments")
  let assign (a : String × Value) : List Piece := [.ident a.1, .word " = ", .param a.2]
  return .word "UPDATE " :: .ident s.table :: .word " SET " ::
    separate ", " (s.assignments.map assign) ++ .word " WHERE " :: s.predicate.pieces false

def Delete.pieces (s : Delete) : Except QueryError (List Piece) := do
  s.predicate.checkDepth
  return .word "DELETE FROM " :: .ident s.table :: .word " WHERE " :: s.predicate.pieces false

/-! ## Statements -/

def Statement.pieces : Statement → Except QueryError (List Piece)
  | .select q => q.pieces
  | .count q => q.countPieces
  | .insert s => s.pieces
  | .update s => s.pieces
  | .delete s => s.pieces

/-- A statement as a database takes it: its text, and its parameters in the
order of their places. -/
structure Rendered where
  text : String
  params : List Value

def Statement.render (s : Statement) : Except QueryError Rendered :=
  s.pieces.map fun ps => ⟨Piece.join ps, Piece.params ps⟩

/-! ## Texts to read -/

/-- A text in quotes. A quote inside is written twice. -/
def quoteText (s : String) : String :=
  String.ofList ('\'' :: s.toList.flatMap (fun c => if c = '\'' then [c, c] else [c]) ++ ['\''])

/-- A value as a person reads it in a statement. -/
def literal : Value → String
  | .null => "NULL"
  | .bool b => if b then "1" else "0"
  | .int n => toString n
  | .float x => Decimal.Layout.plain.write x
  | .text s => quoteText s
  | .json doc => quoteText doc.compact

/-- The text with each question mark replaced by the next value. -/
def fillPlaces : List Char → List Value → List Char
  | [], _ => []
  | '?' :: rest, v :: vs => (literal v).toList ++ fillPlaces rest vs
  | c :: rest, vs => c :: fillPlaces rest vs

/-- The statement with its parameters in place, to be read only. -/
def Rendered.filled (r : Rendered) : String := String.ofList (fillPlaces r.text.toList r.params)

end EntityStore.Sql
