-- Aggregations as a document store takes them. Around the aggregation
-- itself stand up to three wrappers of its name: the nested path, the filter
-- of the aggregation, and the post filters that it sees.
import EntityStore.Search.Conditions
import EntityStore.Settings

namespace EntityStore.Search

/-! ## Layouts -/

/-- What the answer to an aggregation looks like. -/
inductive Shape where
  | buckets
  | metric
  | stats
  | composite
  deriving DecidableEq, Repr

def Shape.name : Shape → String
  | .buckets => "buckets"
  | .metric => "metric"
  | .stats => "stats"
  | .composite => "composite"

/-- The shape has buckets. -/
def Shape.hasBuckets (s : Shape) : Bool := s = .buckets || s = .composite

/-- Where the answer to an aggregation stands, and what it looks like. -/
structure Layout where
  name : String
  shape : Shape
  /-- Post filters are wrapped around it. -/
  facet : Bool
  /-- A filter of its own is wrapped around it. -/
  filter : Bool
  nested : Option String

/-- How many wrappers there are. -/
def Layout.wrappers (l : Layout) : Nat :=
  l.facet.toNat + l.filter.toNat + l.nested.isSome.toNat

/-! ## Cores -/

/-- The name under which records that share a value are counted once. -/
def distinctName : String := "_collapse_cardinality"

/-- The name under which all records are counted so. -/
def totalName : String := "_total_distinct"

/-- The count of the different values of a field. -/
def cardinality (field : String) : Json := single "cardinality" (single "field" (.str field))

/-- The aggregation itself, without what is wrapped around it. -/
def core (settings : Settings) (a : Aggregation) : Except AccessError (String × Json × Shape) :=
  let buckets (f : String) : String × Json × Shape :=
    ("terms", Json.object [("field", .str f),
      ("size", Json.ofNat (a.bucketLimit.getD (settings.bucketLimitFor f)))], .buckets)
  match a.kind, a.target with
  | .terms, .field f => .ok (buckets f)
  | .filter _, .field f => .ok (buckets f)
  | .histogram, .field f =>
    .ok ("histogram", Json.object [("field", .str f),
      ("interval", Value.toJson (.float (a.interval.getD settings.histogramInterval))),
      ("min_doc_count", .int 0)], .buckets)
  | .metric m, .field f =>
    .ok (m.name, single "field" (.str f), if m = .stats then .stats else .metric)
  | .composite, .fields sources =>
    let source (s : String × String) : Json :=
      single s.1 (single "terms" (single "field" (.str s.2)))
    .ok ("composite", Json.object ([
      ("size", Json.ofNat (a.bucketLimit.getD settings.compositePage)),
      ("sources", .arr (sources.map source))] ++ optional "after" a.afterKey), .composite)
  | _, _ => .error a.misfit

/-- What counts the records of each bucket that share a value once. -/
def distinctPart (nested : Option String) (field : String) : Json :=
  let count := if nested.isSome then
      Json.object [("reverse_nested", .obj []), ("aggs", single distinctName (cardinality field))]
    else cardinality field
  single distinctName count

/-! ## Wrappers -/

/-- An aggregation inside another one of the same name. -/
def wrap (name kind : String) (body inner : Json) : Json :=
  Json.object [(kind, body), ("aggs", single name inner)]

/-- The path that all fields of an aggregation lie under. -/
def commonPath (e : Entity) (a : Aggregation) : Except AccessError (Option String) :=
  match a.target.names.map e.nestedPath? with
  | [] => .ok none
  | path :: rest =>
    if rest.all (· == path) then .ok path
    else .error (.invalidFilter s!"aggregation '{a.name}' mixes fields from different nested paths")

/-- The filter that the aggregation has of its own. -/
def ownFilter (e : Entity) (a : Aggregation) : Except AccessError (Option Query) :=
  match a.kind with
  | .filter gs => do return some ((← groups e false gs).getD .matchAll)
  | _ => .ok none

/-- The post filters that the aggregation sees. -/
def seenFilter (e : Entity) (post : List Filter.Group) (a : Aggregation) :
    Except AccessError (Option Query) :=
  groups e false (Filter.Group.withoutFields (a.target.names.flatMap e.facetFields) post)

/-- An aggregation with what is wrapped around it, and its layout. -/
def aggregation (e : Entity) (settings : Settings) (c : Criteria) (a : Aggregation) :
    Except AccessError (Json × Layout) := do
  let nested ← commonPath e a
  let (kind, body, shape) ← core settings a
  let distinct := if shape.hasBuckets then c.collapse.map (·.countField) else none
  let node := Json.object ((kind, body) :: optional "aggs" (distinct.map (distinctPart nested)))
  let node := match nested with
    | some path => wrap a.name "nested" (single "path" (.str path)) node
    | none => node
  let filtered := fun (q : Option Query) (node : Json) => match q with
    | some q => wrap a.name "filter" q.toJson node
    | none => node
  let own ← ownFilter e a
  let seen ← seenFilter e c.postFilters a
  return (filtered seen (filtered own node), {
    name := a.name
    shape := shape
    facet := seen.isSome
    filter := own.isSome
    nested := nested })

/-! ## All aggregations -/

/-- The count of all records, where those that share a value count once. -/
def totalDistinct (post : Option Query) (field : String) : Json :=
  match post with
  | some q => wrap totalName "filter" q.toJson (cardinality field)
  | none => cardinality field

/-- The aggregations of some criteria with their layouts. -/
def aggregations (e : Entity) (settings : Settings) (c : Criteria) (post : Option Query) :
    Except AccessError (Fields Json × List Layout) := do
  let built ← c.aggregations.mapM (aggregation e settings c)
  let nodes := Fields.ofList (built.map fun (node, layout) => (layout.name, node))
  let nodes := match c.collapse with
    | some collapse => nodes.insert totalName (totalDistinct post collapse.countField)
    | none => nodes
  return (nodes, built.map (·.2))

end EntityStore.Search
