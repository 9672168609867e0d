-- Documents that write statements. A choice is an object whose only member
-- is named for it, or its name alone.
import EntityStore.Sql.Text
import EntityStore.Wire.Values

namespace EntityStore.Sql

open Wire (Reader list nullable member text)

/-! ## Parts -/

/-- The name of a choice and what it holds. -/
def choice? : Reader (String × Json)
  | .obj [(name, body)] => some (name, body)
  | .str name => some (name, .null)
  | _ => none

def value? : Reader Value := fun j => some (.ofJson j)

/-- Two documents in a list. -/
def pair? {α β : Type} (first : Reader α) (second : Reader β) : Reader (α × β)
  | .arr [a, b] => do return (← first a, ← second b)
  | _ => none

def Column.ofWire? : Reader Column := fun j => do
  let ms ← j.members?
  return {
    qualifier := ← member ms "qualifier" (nullable text) (some none)
    name := ← member ms "column" text none
    path := ← member ms "json_path" (nullable text) (some none) }

/-! ## Predicates -/

/-- A predicate that compares a column with what a list holds behind it. -/
def comparison? (name : String) (c : Column) (args : List Json) : Option Predicate :=
  match name, args with
  | "Eq", [v] => some (.eq c (.ofJson v))
  | "Ne", [v] => some (.ne c (.ofJson v))
  | "Lt", [v] => some (.lt c (.ofJson v))
  | "Lte", [v] => some (.le c (.ofJson v))
  | "Gt", [v] => some (.gt c (.ofJson v))
  | "Gte", [v] => some (.ge c (.ofJson v))
  | "Like", [.str p] => some (.like c p)
  | "NotLike", [.str p] => some (.notLike c p)
  | "Regexp", [.str p] => some (.regexp c p)
  | "NotRegexp", [.str p] => some (.notRegexp c p)
  | "JsonContains", [v] => some (.contains c (.ofJson v))
  | "In", [.arr vs] => some (.isIn c (vs.map Value.ofJson))
  | "NotIn", [.arr vs] => some (.notIn c (vs.map Value.ofJson))
  | "Between", [low, high] => some (.between c (.ofJson low) (.ofJson high))
  | _, _ => none

/-- A predicate on a column alone. -/
def test? (name : String) (body : Json) : Option Predicate := do
  let c ← Column.ofWire? body
  match name with
  | "IsNull" => return .isNull c
  | "IsNotNull" => return .notNull c
  | _ => none

namespace Predicate

mutual

/-- The predicate that a document writes. -/
def ofWire? : Json → Option Predicate
  | .obj [(name, .arr items)] =>
    if name = "And" then (listOfWire? items).map .all
    else if name = "Or" then (listOfWire? items).map .any
    else
      match items with
      | [] => none
      | column :: args => (Column.ofWire? column).bind fun c => comparison? name c args
  | .obj [(name, body)] => if name = "Not" then (ofWire? body).map .not else test? name body
  | _ => none

/-- The predicates that documents write. -/
def listOfWire? : List Json → Option (List Predicate)
  | [] => some []
  | j :: rest => do return (← ofWire? j) :: (← listOfWire? rest)

end

end Predicate

/-! ## Queries -/

def Aggregate.ofWire? : Reader Aggregate := fun j => do
  let (name, body) ← choice? j
  match name with
  | "Count" => return .count
  | "CountDistinct" => return .countDistinct (← Column.ofWire? body)
  | "Sum" => return .sum (← Column.ofWire? body)
  | "Min" => return .min (← Column.ofWire? body)
  | "Max" => return .max (← Column.ofWire? body)
  | "Avg" => return .avg (← Column.ofWire? body)
  | _ => none

def Item.ofWire? : Reader Item := fun j => do
  let (name, body) ← choice? j
  match name with
  | "Raw" => return .raw (← body.text?)
  | "Column" =>
    let ms ← body.members?
    return .column (← member ms "column" Column.ofWire? none)
      (← member ms "alias" (nullable text) (some none))
  | "Aggregate" =>
    let ms ← body.members?
    return .aggregate (← member ms "aggregate" Aggregate.ofWire? none)
      (← member ms "alias" text none)
  | _ => none

def joinKind? : Reader JoinKind := Wire.name fun
  | "Inner" => some .inner
  | "Left" => some .left
  | "Right" => some .right
  | "Cross" => some .cross
  | _ => none

def Direction.ofWire? : Reader Direction := Wire.name fun
  | "Asc" => some .asc
  | "Desc" => some .desc
  | _ => none

def join? : Reader Join := fun j => do
  let ms ← j.members?
  return {
    table := ← member ms "table" text none
    label := ← member ms "alias" (nullable text) (some none)
    kind := ← member ms "join_type" joinKind? none
    leftColumn := ← member ms "left_column" (nullable text) (some none)
    rightColumn := ← member ms "right_column" (nullable text) (some none) }

def Query.ofWire? : Reader Query := fun j => do
  let ms ← j.members?
  return {
    items := ← member ms "select" (list Item.ofWire?) (some [])
    distinct := ← member ms "distinct" Json.bool? (some false)
    table := ← member ms "table" text none
    label := ← member ms "table_alias" (nullable text) (some none)
    joins := ← member ms "joins" (list join?) (some [])
    predicate := ← member ms "predicate" (nullable Predicate.ofWire?) (some none)
    groupBy := ← member ms "group_by" (list Column.ofWire?) (some [])
    orderBy := ← member ms "order_by" (list (pair? Column.ofWire? Direction.ofWire?)) (some [])
    limit := ← member ms "limit" (nullable Json.nat?) (some none)
    offset := ← member ms "offset" Json.nat? (some 0) }

/-! ## Writes -/

def insert? : Reader Insert := fun j => do
  let ms ← j.members?
  return {
    table := ← member ms "table" text none
    columns := ← member ms "columns" (list text) none
    rows := ← member ms "rows" (list (list value?)) none
    onDuplicate := ← member ms "on_duplicate_update" (list text) (some []) }

def update? : Reader Update := fun j => do
  let ms ← j.members?
  return {
    table := ← member ms "table" text none
    assignments := ← member ms "assignments" (list (pair? text value?)) none
    predicate := ← member ms "predicate" Predicate.ofWire? none }

def delete? : Reader Delete := fun j => do
  let ms ← j.members?
  return {
    table := ← member ms "table" text none
    predicate := ← member ms "predicate" Predicate.ofWire? none }

/-! ## Statements -/

/-- The statement that a document writes. -/
def Statement.ofWire? : Reader Statement := fun j => do
  let (name, body) ← choice? j
  match name with
  | "Select" => return .select (← Query.ofWire? body)
  | "Count" => return .count (← Query.ofWire? body)
  | "Insert" => return .insert (← insert? body)
  | "Update" => return .update (← update? body)
  | "Delete" => return .delete (← delete? body)
  | _ => none

/-- The document that shows a statement and its text. -/
def Statement.toWire (s : Statement) (r : Rendered) : Json :=
  Json.object [
    ("kind", .str s.kind),
    ("table", .str s.table),
    ("write", .bool s.isWrite),
    ("sql", .str r.text),
    ("params", Wire.listOf Value.toWire r.params),
    ("interpolated", .str r.filled)]

end EntityStore.Sql
