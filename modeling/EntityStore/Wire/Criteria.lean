-- Documents that write conditions, groups of filters and the other parts of criteria, and
-- those that show criteria.
import EntityStore.Filter.Builder
import EntityStore.Wire.Contract
import EntityStore.Wire.Values

namespace EntityStore.Filter

/-! ## Operands -/

/-- The operand that the members of a document write. -/
def Operand.ofWire (j : Json) : Operand :=
  match j.get? "scalar", j.get? "list", j.get? "range" with
  | some v, _, _ => .scalar (.ofWire v)
  | none, some vs, _ => .list ((vs.items?.getD []).map Value.ofWire)
  | none, none, some r => .range (r.valueAt "from") (r.valueAt "to")
  | none, none, none => .absent

/-- The members that write an operand. -/
def Operand.members : Operand → List (String × Json)
  | .absent => []
  | .scalar v => [("scalar", v.toWire)]
  | .list vs => [("list", Wire.listOf Value.toWire vs)]
  | .range low high => [("range", Json.object [("from", low.toWire), ("to", high.toWire)])]

def Operand.toWire (operand : Operand) : Json := Json.object operand.members

/-! ## Conditions -/

/-- The operator of a condition on a field. -/
def Operator.ofWire (field name : String) : Except AccessError Operator :=
  match ofName? name with
  | some op => .ok op
  | none => .error (.unknownOperator field name)

/-- The condition that a document writes. A raw one is not checked. -/
def Condition.ofWire (j : Json) : Except AccessError Condition := do
  let field := j.textAt "field"
  let v := j.field "value"
  match j.textAt "make" with
  | "eq" => return .eq field (.ofWire v)
  | "in" => return .inList field (j.valuesAt "value")
  | "between" => return .between field (v.valueAt "from") (v.valueAt "to")
  | _ =>
    let op ← Operator.ofWire field (j.textAt "operator")
    if j.flagAt "raw" then return ⟨field, op, .ofWire j⟩
    make field op (.ofWire j)

def Condition.toWire (c : Condition) : Json :=
  Json.object ([("field", .str c.field), ("operator", .str c.operator.name)] ++ c.operand.members)

/-! ## Groups -/

/-- The logic of a group, which is a conjunction unless it says otherwise. -/
def Logic.ofWire (j : Json) : Logic := if j.textAt "logic" = "or" then .or else .and

/-- The group that a document writes. -/
def Group.ofWire (j : Json) : Except AccessError Group := do
  return ⟨.ofWire j, ← (j.itemsAt "conditions").mapM Condition.ofWire⟩

/-- The groups that a member writes. -/
def Group.listAt (j : Json) (k : String) : Except AccessError (List Group) :=
  (j.itemsAt k).mapM ofWire

def Group.toWire (g : Group) : Json :=
  Json.object [
    ("logic", .str g.logic.name),
    ("effective", .str g.effective.name),
    ("fields", Json.texts g.fields),
    ("conditions", Wire.listOf Condition.toWire g.conditions)]

/-! ## Filters of a field -/

/-- A list of operators with their operands. -/
def Input.entriesOfWire (field : String) (js : List Json) :
    Except AccessError (List (Operator × Operand)) :=
  js.mapM fun e => do return (← Operator.ofWire field (e.textAt "operator"), .ofWire e)

/-- The filter that a document makes, where it says how. -/
def Input.made? (j : Json) : Except AccessError (Option Input) := do
  let op := Operator.ofWire (j.textAt "field") (j.textAt "operator")
  match j.textAt "make" with
  | "eq" => return some (.equality (j.valueAt "value"))
  | "range" => return some (.range (some (j.valueAt "from")) (some (j.valueAt "to")))
  | "op" => return some (.operator (← op) (.scalar (j.valueAt "value")))
  | "list" => return some (.operator (← op) (.list (j.valuesAt "values")))
  | "flag" => return some (.operator (← op) .absent)
  | "operators" =>
    return some (.operators (← entriesOfWire (j.textAt "field") (j.itemsAt "entries")))
  | _ => return none

def Input.toWire : Input → Json
  | .equality v => Json.object [("equality", v.toWire)]
  | .range low high =>
    Json.object [("range", .arr [Wire.optionOf Value.toWire low, Wire.optionOf Value.toWire high])]
  | .operator op operand => Json.object [("op", .str op.name), ("value", operand.toWire)]
  | .operators entries =>
    Wire.listOf (fun (op, operand) => .arr [.str op.name, operand.toWire]) entries

end EntityStore.Filter

namespace EntityStore

open Wire (listOf optionOf)

/-! ## Sorts, pages and joins -/

def SortBy.ofWire (j : Json) : SortBy where
  field := j.textAt "field"
  direction := if j.textAt "direction" = "desc" then .desc else .asc
  mode := (j.textAt? "mode").bind SortMode.ofName?

def SortBy.toWire (s : SortBy) : Json :=
  Json.object [("field", .str s.field), ("direction", .str s.direction.name),
    ("mode", optionOf (fun m => .str m.name) s.mode)]

/-- The page that a document writes. -/
def Page.ofWire (j : Json) : Except AccessError Page := make (j.natOr "page" 0) (j.intAt "limit" 0)

def Page.toWire (p : Page) : Json :=
  Json.object [
    ("page", Json.ofNat p.number),
    ("limit", .int ((p.limit.map Int.ofNat).getD unboundedLimit)),
    ("offset", Json.ofNat p.offset),
    ("bounded", optionOf Json.ofNat p.limit),
    ("unbounded", .bool p.limit.isNone)]

def Sql.JoinKind.ofName (name : String) : Sql.JoinKind :=
  match name with
  | "left" => .left
  | "right" => .right
  | "cross" => .cross
  | _ => .inner

def Sql.Join.ofWire (j : Json) : Sql.Join where
  table := j.textAt "table"
  label := j.textAt? "alias"
  kind := .ofName (j.textAt "type")
  leftColumn := j.textAt? "left"
  rightColumn := j.textAt? "right"

def Sql.Join.toWire (j : Sql.Join) : Json :=
  Json.object [("table", .str j.table), ("as", .str j.reference),
    ("left", optionOf Json.str j.leftColumn), ("right", optionOf Json.str j.rightColumn)]

/-! ## Text searches and collapsing -/

def FullText.toWire (t : FullText) : Json :=
  Json.object [("fields", Json.texts t.fields), ("value", .str t.text),
    ("match_type", .str t.matchType.name), ("parameters", .obj t.parameters)]

def Collapse.ofWire (j : Json) : Collapse where
  field := j.textAt "field"
  countField := j.textAt "cardinality_field"
  innerHits := j.textAt? "inner_hits"

def Collapse.toWire (c : Collapse) : Json :=
  Json.object [("field", .str c.field), ("cardinality_field", .str c.countField),
    ("inner_hits", optionOf Json.str c.innerHits)]

/-! ## Aggregations -/

namespace Aggregation

def Kind.name : Kind → String
  | .terms => "terms"
  | .histogram => "histogram"
  | .metric _ => "metric"
  | .filter _ => "filter"
  | .composite => "composite"

/-- What a kind of aggregation has besides its name. -/
def Kind.detail : Kind → Json
  | .metric m => .str m.name
  | .filter gs => listOf Filter.Group.toWire gs
  | _ => .null

def Target.toWire : Target → Json
  | .field f => .str f
  | .fields sources => .obj (sources.mapValues Json.str)

/-- Fields by other names, as a member writes them. -/
def sourcesOfWire (j : Json) : Fields String :=
  (j.membersAt "sources").mapValues fun f => f.text?.getD ""

/-- The aggregation that a document makes. -/
def ofWire (j : Json) : Except AccessError Aggregation := do
  let f := j.textAt "field"
  match j.textAt "make" with
  | "histogram" => return histogram f ((j.given? "interval").bind fun v => (Value.ofWire v).number?)
  | "metric" => return metric f ((Metric.ofName? (j.textAt "metric")).getD .avg)
  | "filter" => return filtered f (← Filter.Group.listAt j "groups")
  | "composite" => return composite f (sourcesOfWire j)
  | _ => return terms f

def toWire (a : Aggregation) : Json :=
  Json.object [
    ("name", .str a.name),
    ("kind", .str a.kind.name),
    ("detail", a.kind.detail),
    ("target", a.target.toWire),
    ("primary", optionOf Json.str a.primaryField?),
    ("bucket_limit", optionOf Json.ofNat a.bucketLimit),
    ("interval", optionOf Wire.float a.interval),
    ("after_key", Json.ofOption a.afterKey)]

end Aggregation

/-! ## Criteria -/

/-- The document that shows criteria. -/
def Criteria.toWire (c : Criteria) : Json :=
  Json.object [
    ("filter", listOf Filter.Group.toWire c.filters),
    ("has_filters", .bool c.hasFilters),
    ("post_filter", listOf Filter.Group.toWire c.postFilters),
    ("sorts", listOf SortBy.toWire c.sorts),
    ("pagination", c.page.toWire),
    ("aggregations", listOf Aggregation.toWire c.aggregations),
    ("full_text", listOf FullText.toWire c.fullText),
    ("include", Json.texts c.included),
    ("exclude", Json.texts c.excluded),
    ("scroll_after", optionOf Value.toWire c.scrollAfter),
    ("collapse", optionOf Collapse.toWire c.collapse),
    ("joins", listOf Sql.Join.toWire c.joins),
    ("raw_selects", Json.texts c.rawItems),
    ("distinct", .bool c.distinct),
    ("group_by", Json.texts c.groupBy)]

end EntityStore
