-- The contract for criteria: the document that callers write for a search.
import EntityStore.Criteria.Basic
import EntityStore.Wire.Values

namespace EntityStore.Wire

/-! ## Parts of criteria -/

/-- A condition before its operator is known. -/
structure Condition where
  field : String
  operator : String
  operand : Option Json

def condition : Reader Condition := fun j => do
  let ms ← record ["field", "operator", "value"] j
  return {
    field := ← member ms "field" text none
    operator := ← member ms "operator" text none
    operand := (ms.get? "value").filter fun v => !v.isNull }

structure Group where
  logic : Filter.Logic
  conditions : List Condition

def logic : Reader Filter.Logic := name fun
  | "and" => some .and
  | "or" => some .or
  | _ => none

def group : Reader Group := fun j => do
  let ms ← record ["condition", "group"] j
  return {
    logic := ← member ms "condition" logic (some .and)
    conditions := ← member ms "group" (list condition) none }

def direction : Reader Sql.Direction := name fun
  | "asc" => some .asc
  | "desc" => some .desc
  | _ => none

/-- A sort. Its direction has two names, of which one is used. -/
def sort : Reader SortBy := fun j => do
  let ms ← record ["field", "direction", "mode"] j
  if ms.contains "direction" && ms.contains "order" then none
  let other ← member ms "order" direction (some .asc)
  return {
    field := ← member ms "field" text none
    direction := ← member ms "direction" direction (some other)
    mode := ← member ms "mode" (nullable (name SortMode.ofName?)) (some none) }

/-- A page number and a limit. -/
def page : Reader (Nat × Int) := fun j => do
  let ms ← record ["page", "limit"] j
  let number ← member ms "page" (whole 0 0xffffffff) none
  let limit ← member ms "limit" (whole (-0x8000000000000000) 0x7fffffffffffffff) none
  return (number.toNat, limit)

def fullText : Reader FullText := fun j => do
  let ms ← record ["fields", "value", "match_type", "parameters"] j
  return {
    fields := ← member ms "fields" (list text) none
    text := ← member ms "value" text none
    matchType := ← member ms "match_type" (name MatchType.ofName?) (some .bestFields)
    parameters := ← member ms "parameters" Json.members? (some []) }

def collapse : Reader Collapse := fun j => do
  let ms ← record ["field", "cardinality_field", "inner_hits"] j
  return {
    field := ← member ms "field" text none
    countField := ← member ms "cardinality_field" text none
    innerHits := ← member ms "inner_hits" (nullable text) (some none) }

/-- What one aggregation is over: a field, or fields by other names. -/
inductive Source where
  | field (name : String)
  | named (sources : Fields String)

def source : Reader Source
  | .str s => some (.field s)
  | j => (object text j).map .named

/-- Aggregations: one field, fields, or sources by the kind of aggregation. -/
inductive Aggregations where
  | field (name : String)
  | fields (names : List String)
  | byKind (sources : Fields (List Source))

def aggregations : Reader Aggregations
  | .str s => some (.field s)
  | .arr items => (items.mapM text).map .fields
  | j => (object (list source) j).map .byKind

/-- All of the wire form, before anything in it is checked. -/
structure Contract where
  filters : List Group
  sorts : List SortBy
  page : Option (Nat × Int)
  aggregations : Option Aggregations
  postFilters : List Group
  fullText : List FullText
  excluded : List String

def contract : Reader Contract := fun j => do
  let ms ← record ["filter", "sort", "pagination", "aggregation", "post_filter", "full_text",
    "exclude_fields"] j
  return {
    filters := ← member ms "filter" (list group) (some [])
    sorts := ← member ms "sort" (list sort) (some [])
    page := ← member ms "pagination" (nullable page) (some none)
    aggregations := ← member ms "aggregation" (nullable aggregations) (some none)
    postFilters := ← member ms "post_filter" (list group) (some [])
    fullText := ← member ms "full_text" (list fullText) (some [])
    excluded := ← member ms "exclude_fields" (list text) (some []) }

/-! ## Meaning -/

/-- The operand that a document writes for an operator. A value for an
operator that takes none is left out. -/
def operandOf (op : Filter.Operator) (raw : Option Json) : Filter.Operand :=
  if !op.takesValue then .absent
  else
    match op, raw with
    | _, none => .absent
    | .between, some (.obj members) =>
      let bound (k : String) : Value := ((Fields.get? members k).map Value.ofJson).getD .null
      .range (bound "from") (bound "to")
    | op, some (.arr items) =>
      if op.takesList then .list (items.map Value.ofJson) else .scalar (Value.ofJson (.arr items))
    | _, some j => .scalar (Value.ofJson j)

def Condition.resolve (c : Condition) : Except AccessError Filter.Condition :=
  match Filter.Operator.ofName? c.operator with
  | none => .error (.unknownOperator c.field c.operator)
  | some op => Filter.Condition.make c.field op (operandOf op c.operand)

def Group.resolve (g : Group) : Except AccessError Filter.Group :=
  (g.conditions.mapM Condition.resolve).map fun cs => ⟨g.logic, cs⟩

/-- The groups that have conditions. -/
def resolveGroups (gs : List Group) : Except AccessError (List Filter.Group) :=
  (gs.filter fun g => !g.conditions.isEmpty).mapM Group.resolve

/-- The aggregation of a kind over a field, with a name. -/
def aggregationOf (kind label field : String) : Except AccessError Aggregation :=
  match kind with
  | "terms" => .ok ((Aggregation.terms field).named label)
  | "histogram" => .ok ((Aggregation.histogram field none).named label)
  | "composite" => .ok (.composite label [(label, field)])
  | kind =>
    match Metric.ofName? kind with
    | some m => .ok ((Aggregation.metric field m).named label)
    | none => .error (.invalidFilter s!"unknown aggregation type '{kind}'")

def Source.resolve (kind : String) : Source → Except AccessError Aggregation
  | .field f => aggregationOf kind f f
  | .named [(label, f)] => aggregationOf kind label f
  | .named sources =>
    .error (.invalidFilter
      s!"aliased '{kind}' aggregation needs exactly one alias, got {sources.length}")

/-- The aggregations asked for, those of one kind together and the kinds in
the order of their names. -/
def Aggregations.resolve : Aggregations → Except AccessError (List Aggregation)
  | .field f => .ok [.terms f]
  | .fields fs => .ok (fs.map .terms)
  | .byKind sources =>
    (List.mapM (fun (kind, ss) => List.mapM (Source.resolve kind) ss) sources).map List.flatten

/-- The criteria of a wire form. -/
def Contract.resolve (w : Contract) : Except AccessError Criteria := do
  let filters ← resolveGroups w.filters
  let postFilters ← resolveGroups w.postFilters
  let page ← match w.page with
    | some (number, limit) => Page.make number limit
    | none => pure {}
  let aggregations ← match w.aggregations with
    | some a => a.resolve
    | none => pure []
  return {
    filters := filters
    postFilters := postFilters
    sorts := w.sorts
    page := page
    aggregations := aggregations
    fullText := w.fullText
    excluded := w.excluded }

/-- The shape of a document, or the error of a document without it. -/
def readContract (j : Json) : Except AccessError Contract :=
  match contract j with
  | some w => .ok w
  | none => .error (.shape "unexpected shape")

end EntityStore.Wire

/-- The criteria that a document writes. -/
def EntityStore.Criteria.ofJson (j : EntityStore.Json) :
    Except EntityStore.AccessError EntityStore.Criteria := do
  (← EntityStore.Wire.readContract j).resolve
