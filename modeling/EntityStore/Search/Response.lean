-- Reading the answers of a document store.
import EntityStore.Criteria.Aggregation
import EntityStore.Search.Plan

namespace EntityStore.Search

open Aggregation (Bucket Result Stats)

/-! ## Hits -/

/-- The field of a row that holds the nested objects of a hit. -/
def innerHitsName : String := "_inner_hits"

/-- The documents of a list of hits. -/
def hitSources (hits : Json) : List Json :=
  (((hits.at? ["hits", "hits"]).bind Json.items?).getD []).filterMap (·.get? "_source")

/-- The row of a hit: its document, with its identity and the nested objects
that came with it. -/
def row (idField : String) (hit : Json) : Fields Json :=
  let doc := ((hit.get? "_source").bind Json.members?).getD []
  let doc := match hit.get? "_id" with
    | some id => if doc.contains idField then doc else doc.insert idField id
    | none => doc
  match (hit.get? "inner_hits").bind Json.members? with
  | some inner =>
    doc.insert innerHitsName (.obj (inner.mapValues fun hits => .arr (hitSources hits)))
  | none => doc

/-- The number of all hits, which an answer writes in one of two forms. -/
def totalHits (hits : Json) : Nat :=
  match hits.get? "total" with
  | some (.obj members) => ((Fields.get? members "value").bind Json.nat?).getD 0
  | some n => n.nat?.getD 0
  | none => 0

/-! ## Aggregations -/

/-- How many records of a bucket there are when those that share a value
count once. -/
def distinctCount (bucket : Json) : Option Nat := do
  let count ← bucket.get? distinctName
  ((count.get? "value").or (count.at? [distinctName, "value"])).bind Json.nat?

def bucket (b : Json) : Bucket where
  key := Json.ofOption (b.get? "key")
  count := ((b.get? "doc_count").bind Json.nat?).getD 0
  distinct := distinctCount b

def buckets (node : Json) : List Bucket :=
  (((node.get? "buckets").bind Json.items?).getD []).map bucket

/-- A number of a node. -/
def numberAt (node : Json) (k : String) : Option Float := (node.get? k).bind Json.number?

def stats (node : Json) : Stats where
  count := ((node.get? "count").bind Json.nat?).getD 0
  min := numberAt node "min"
  max := numberAt node "max"
  avg := numberAt node "avg"
  sum := (numberAt node "sum").getD 0.0

/-- The node inside so many wrappers. -/
def unwrap (name : String) : Nat → Json → Except AccessError Json
  | 0, node => .ok node
  | n + 1, node =>
    match node.get? name with
    | some inner => unwrap name n inner
    | none => .error (.decode s!"aggregation '{name}' lost its wrapper")

/-- What the answer to an aggregation says. -/
def result (l : Layout) (node : Json) : Except AccessError Result := do
  let node ← unwrap l.name l.wrappers node
  return match l.shape with
    | .buckets => .buckets (buckets node)
    | .composite => .composite (buckets node) (node.get? "after_key")
    | .metric => .metric (numberAt node "value")
    | .stats => .stats (stats node)

/-- What the answers to the aggregations say. One that is not answered is
left out. -/
def results (nodes : Fields Json) (ls : List Layout) : Except AccessError (Fields Result) := do
  let answered ← ls.mapM fun l => do
    match nodes.get? l.name with
    | some node => return some (l.name, ← result l node)
    | none => return none
  return Fields.ofList (answered.filterMap id)

/-- The count of all records, where those that share a value count once. -/
def distinctTotal? (nodes : Fields Json) (wrapped : Bool) : Option Nat := do
  let node ← nodes.get? totalName
  let node ← if wrapped then node.get? totalName else some node
  (node.get? "value").bind Json.nat?

/-! ## Answers -/

/-- What an answer says. -/
def Plan.outcome (p : Plan) (idField : String) (raw : Json) : Except AccessError Outcome := do
  let hits ← match raw.get? "hits" with
    | some hits => pure hits
    | none => throw (.decode "search response has no hits")
  let nodes := ((raw.get? "aggregations").bind Json.members?).getD []
  let aggregations ← results nodes p.layouts
  let distinct := p.distinctWrapped.bind (distinctTotal? nodes)
  return {
    rows := (((hits.get? "hits").bind Json.items?).getD []).map (row idField)
    total := distinct.getD (totalHits hits)
    aggregations := aggregations }

end EntityStore.Search
