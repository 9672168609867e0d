-- What the names of fields mean in a statement, filters as predicates of statements, and
-- writes of records as statements. A field is a column, a path into the document of a column,
-- or a column of a joined table. The name of the entity's own table may stand in front where
-- tables are joined.
import EntityStore.Entity
import EntityStore.Filter.Basic
import EntityStore.Pattern.Regex.Reader
import EntityStore.Pattern.Wildcard
import EntityStore.Sql.Statement

namespace EntityStore.Plan

/-- What a field is named for. Filters may use the paths of documents only
where the entity allows it. -/
inductive Purpose where
  | filter
  | output
  deriving DecidableEq, Repr

/-- The names that a statement knows. -/
structure Scope where
  entity : Entity
  /-- The columns of the entity's table; none are known when there are none. -/
  columns : Columns
  /-- The names of joined tables. With one of them the entity's own table
  goes by its name too. -/
  joined : List String := []

namespace Scope

/-- The scope of a statement with joins. -/
def withJoins (s : Scope) (joins : List Sql.Join) : Scope :=
  { s with joined := joins.map Sql.Join.reference }

/-- The statement has more than one table. -/
def hasJoins (s : Scope) : Bool := !s.joined.isEmpty

/-- The name stands for a table of the statement. -/
def isTable (s : Scope) (name : String) : Bool :=
  s.hasJoins && (name == s.entity.storage || s.joined.contains name)

/-- The name that columns of the entity's table are qualified by. -/
def qualifier? (s : Scope) : Option String := if s.hasJoins then some s.entity.storage else none

/-- The column is known, or nothing is known of the columns. -/
def checkColumn (s : Scope) (column : String) : Except AccessError Unit :=
  if s.columns.isEmpty || Fields.contains s.columns column then .ok ()
  else .error (.query (.columnNotFound s.entity.storage column))

/-- The path into the document of a column may be used. -/
def checkPath (s : Scope) (purpose : Purpose) (head field : String) : Except AccessError Unit :=
  if !s.columns.isEmpty && !s.columns.isJson head then
    .error (.query (.invalid s!"column '{head}' is not a JSON column"))
  else if purpose = .filter && !s.entity.allowsJsonFilter head field then
    .error (.fieldNotAllowed s.entity.name field)
  else .ok ()

/-- The parts of a path as one text. -/
def dotted (parts : List String) : String := ".".intercalate parts

/-- The column that a field of the entity's own table means. -/
def ownColumn (s : Scope) (purpose : Purpose) (head : String) (rest : List String) :
    Except AccessError Sql.Column := do
  s.checkColumn head
  match rest with
  | [] => return ⟨s.qualifier?, head, none⟩
  | rest =>
    s.checkPath purpose head (dotted (head :: rest))
    return ⟨s.qualifier?, head, some (dotted rest)⟩

/-- The column that the parts of a field mean. -/
def resolveParts (s : Scope) (purpose : Purpose) : List String → Except AccessError Sql.Column
  | [] => s.ownColumn purpose "" []
  | [head] => s.ownColumn purpose head []
  | head :: next :: rest =>
    if s.isTable head then
      if head = s.entity.storage then resolveParts s purpose (next :: rest)
      else .ok (.qualified head (dotted (next :: rest)))
    else s.ownColumn purpose head (next :: rest)

/-- The column that a field means. -/
def resolve (s : Scope) (purpose : Purpose) (field : String) : Except AccessError Sql.Column :=
  s.resolveParts purpose (Text.split '.' field)

/-- The value of a document as a column stores it. -/
def bind (s : Scope) (column : String) (doc : Option Json) : Value :=
  match doc with
  | none => .null
  | some .null => .null
  | some doc => if s.columns.isJson column then .json doc else .ofJson doc

end Scope

open Sql (Column Predicate)

/-! ## Conditions -/

/-- The document in the column contains one of the values. -/
def containsAny (c : Column) (vs : List Value) : Predicate :=
  (Predicate.anyOf (vs.map (.contains c ·))).getD (.isIn c [])

/-- The LIKE pattern of a value. -/
def likePattern (v : Value) : String := Like.pattern v.patternText

/-- The value is a pattern and not a value to be found as it is. -/
def isPattern (v : Value) : Bool := Text.hasChar Like.star v.patternText

/-- One of the values, where those with a star are patterns. -/
def inOrLikes (c : Column) (vs : List Value) : Option Predicate :=
  let exact := vs.filter fun v => !isPattern v
  let patterns := vs.filter isPattern
  Predicate.anyOf ((if exact.isEmpty then [] else [.isIn c exact]) ++
    patterns.map fun v => .like c (likePattern v))

/-- The predicate of a condition on a column that holds documents, where it
differs from that on other columns. -/
def documentPredicate? (c : Column) (op : Filter.Operator) (operand : Filter.Operand) :
    Option Predicate :=
  match op, operand with
  | .eq, .scalar v => some (.contains c v)
  | .neq, .scalar v => some (.not (.contains c v))
  | .isIn, .list vs => some (containsAny c vs)
  | .notIn, .list vs => some (.not (containsAny c vs))
  | _, _ => none

/-- The predicate of a condition on a column that does not hold documents. -/
def valuePredicate? (c : Column) (op : Filter.Operator) (operand : Filter.Operand) :
    Option Predicate :=
  match op, operand with
  | .eq, .scalar v => some (.eq c v)
  | .neq, .scalar v => some (.ne c v)
  | .lt, .scalar v => some (.lt c v)
  | .lte, .scalar v => some (.le c v)
  | .gt, .scalar v => some (.gt c v)
  | .gte, .scalar v => some (.ge c v)
  | .isIn, .list vs => some (.isIn c vs)
  | .notIn, .list vs => some (.notIn c vs)
  | .between, .range low high => some (.between c low high)
  | .exists, _ => some (.notNull c)
  | .notNull, _ => some (.notNull c)
  | .notExists, _ => some (.isNull c)
  | .like, .scalar v => some (.like c (likePattern v))
  | .notLike, .scalar v => some (.notLike c (likePattern v))
  | .regexp, .scalar v => some (.regexp c (Regex.whole v.patternText))
  | .notRegexp, .scalar v => some (.notRegexp c (Regex.whole v.patternText))
  | _, _ => none

namespace Scope

/-- The column holds documents, and is meant as a whole. -/
def isDocument (s : Scope) (c : Column) : Bool := c.path.isNone && s.columns.isJson c.name

/-- The predicate of a condition. -/
def condition (s : Scope) (cond : Filter.Condition) : Except AccessError Predicate := do
  let c ← s.resolve .filter cond.field
  match cond.operator, cond.operand with
  | .inOrLikes, .list vs =>
    match inOrLikes c vs with
    | some p => return p
    | none => throw (.invalidFilter s!"in_or_likes on '{cond.field}' has no values")
  | op, operand =>
    let special := if s.isDocument c then documentPredicate? c op operand else none
    match special.or (valuePredicate? c op operand) with
    | some p => return p
    | none => throw cond.misfit

/-! ## Groups -/

/-- The predicate of a group. -/
def group (s : Scope) (g : Filter.Group) : Except AccessError (Option Predicate) := do
  let ps ← g.conditions.mapM s.condition
  return match g.effective with
    | .and => Predicate.allOf ps
    | .or => Predicate.anyOf ps

/-- The parts of conjunctions, in place of the conjunctions. -/
def flatten (ps : List Predicate) : List Predicate :=
  ps.flatMap fun
    | .all qs => qs
    | p => [p]

/-- The predicate of all groups together. Where nothing filters there is
none. -/
def groups (s : Scope) (gs : List Filter.Group) : Except AccessError (Option Predicate) := do
  let parts ← (gs.filter fun g => !g.isEmpty).mapM s.group
  let p := Predicate.allOf (flatten (parts.filterMap id))
  match p.elim (.ok ()) Predicate.checkDepth with
  | .ok () => return p
  | .error e => throw (.query e)

end Scope

end EntityStore.Plan

namespace EntityStore.Plan.Scope

/-- The row of a document under the columns. What the document does not
have is null. -/
def row (s : Scope) (columns : List String) (doc : Fields Json) : List Value :=
  columns.map fun c => s.bind c (doc.get? c)

/-- The insert of documents. Rows whose key is there already take over the
given columns. -/
def insert (s : Scope) (docs : List (Fields Json)) (onDuplicate : List String) :
    Except AccessError Sql.Insert := do
  let columns := Fields.allKeys docs
  columns.forM s.checkColumn
  return {
    table := s.entity.storage
    columns := columns
    rows := docs.map (s.row columns)
    onDuplicate := onDuplicate }

/-- The update of the record with an identity. -/
def update (s : Scope) (id : Value) (changes : Fields Json) : Except AccessError Sql.Update := do
  changes.keys.forM s.checkColumn
  return {
    table := s.entity.storage
    assignments := changes.map fun (c, doc) => (c, s.bind c (some doc))
    predicate := .eq (.plain s.entity.idField) id }

/-- The deletion of the records that pass the groups. All records are never
deleted. -/
def delete (s : Scope) (gs : List Filter.Group) : Except AccessError Sql.Delete := do
  match ← s.groups gs with
  | some p => return { table := s.entity.storage, predicate := p }
  | none => throw (.noFilter s.entity.name)

end EntityStore.Plan.Scope
