-- Criteria as queries: one for the page, one for the count of all records,
-- and one for each aggregation.
import EntityStore.Criteria.Basic
import EntityStore.Plan.Conditions
import EntityStore.Settings
import EntityStore.Sql.Text

namespace EntityStore

/-- The query of an aggregation. -/
structure Plan.AggregationQuery where
  aggregation : Aggregation
  query : Sql.Query

/-- The queries of a search. -/
structure Plan where
  page : Sql.Query
  count : Sql.Query
  aggregations : List Plan.AggregationQuery

namespace Plan

open Sql (Column Item Predicate Query)

/-- What a relational store cannot do. -/
def unsupported (clause : String) : AccessError := .query (.unsupported "relational" clause)

/-! ## Outputs -/

/-- The names of the outputs of aggregation queries. -/
def keyName : String := "key"

def countName : String := "doc_count"

def metricName : String := "value"

namespace Scope

/-- The fields that are put out: those included, or all known columns, and
without those excluded. None stand for all. -/
def outputFields (s : Scope) (c : Criteria) : List String :=
  if !c.included.isEmpty then c.included.filter fun f => !c.excluded.contains f
  else if c.excluded.isEmpty then []
  else (Fields.keys s.columns).filter fun f => !c.excluded.contains f

/-- The outputs of a search. Raw outputs come with all columns of the
entity's table, unless fields are named. -/
def outputs (s : Scope) (c : Criteria) : Except AccessError (List Item) := do
  let columns ← (s.outputFields c).mapM (s.resolve .output)
  let items := columns.map (Item.column · none)
  if c.rawItems.isEmpty then return items
  let own := if items.isEmpty then [.raw (Sql.quoteIdent s.entity.storage ++ ".*")] else items
  return own ++ c.rawItems.map .raw

/-! ## Predicates -/

/-- The text is in one of the fields. -/
def fullText (s : Scope) (t : FullText) : Except AccessError (Option Predicate) := do
  let columns ← t.fields.mapM (s.resolve .filter)
  return Predicate.anyOf (columns.map (.like · (Like.pattern t.text)))

/-- The parts of the predicate that aggregations see too. -/
def commonParts (s : Scope) (c : Criteria) : Except AccessError (List Predicate) := do
  let filter ← s.groups c.filters
  let texts ← c.fullText.mapM s.fullText
  return filter.toList ++ texts.filterMap id

/-! ## The page -/

/-- The columns that the page is sorted by. -/
def sorts (s : Scope) (sorts : List SortBy) : Except AccessError (List (Column × Sql.Direction)) :=
  sorts.mapM fun sort => do return (← s.resolve .output sort.field, sort.direction)

/-- The page of a query: the records after a known identity, in the order
of identities, or a part of all records in the order of the sorts. -/
def page (s : Scope) (c : Criteria) (q : Query) : Except AccessError Query :=
  match c.scrollAfter with
  | some last => do
    let id ← s.resolve .output s.entity.idField
    return { (q.restrict (.gt id last)).sortBy id .asc with limit := c.page.limit }
  | none => do
    return { q with
      orderBy := ← s.sorts c.sorts
      limit := c.page.limit
      offset := c.page.offset }

/-! ## Aggregations -/

/-- One bucket for each value of a column, the fullest ones first. -/
def bucketQuery (column : Column) (limit : Nat) : Query where
  items := [.column column (some keyName), .aggregate .count countName]
  groupBy := [column]
  orderBy := [(.plain countName, .desc)]
  limit := some limit

/-- One bucket for each combination of values, in the order of values. -/
def combinationQuery (columns : List (String × Column)) (limit : Nat) : Query where
  items := columns.map (fun (label, column) => .column column (some label)) ++
    [.aggregate .count countName]
  groupBy := columns.map (·.2)
  orderBy := columns.map fun (_, column) => (column, .asc)
  limit := some limit

/-- The outputs of a metric. -/
def metricItems (m : Metric) (c : Column) : List Item :=
  match m with
  | .avg => [.aggregate (.avg c) metricName]
  | .min => [.aggregate (.min c) metricName]
  | .max => [.aggregate (.max c) metricName]
  | .sum => [.aggregate (.sum c) metricName]
  | .valueCount => [.aggregate .count metricName]
  | .stats => [.aggregate .count "count", .aggregate (.min c) "min", .aggregate (.max c) "max",
      .aggregate (.avg c) "avg", .aggregate (.sum c) "sum"]

/-- The metric counts rows, and so must leave out those without a value. -/
def countsRows (m : Metric) : Bool := m = .valueCount || m = .stats

/-- The query of an aggregation, and what its predicate has besides the
common parts. -/
def aggregationQuery (s : Scope) (settings : Settings) (a : Aggregation) :
    Except AccessError (Query × List Predicate) :=
  match a.kind, a.target with
  | .terms, .field f => do
    let column ← s.resolve .output f
    return (bucketQuery column (a.bucketLimit.getD (settings.bucketLimitFor f)), [])
  | .filter _, .field f => do
    let column ← s.resolve .output f
    return (bucketQuery column (a.bucketLimit.getD (settings.bucketLimitFor f)), [])
  | .metric m, .field f => do
    let column ← s.resolve .output f
    return ({ items := metricItems m column }, if countsRows m then [.notNull column] else [])
  | .composite, .fields sources =>
    if a.afterKey.isSome then .error (unsupported "composite after_key")
    else do
      let columns ← List.mapM (fun (label, f) => do return (label, ← s.resolve .output f)) sources
      return (combinationQuery columns (a.bucketLimit.getD settings.compositePage), [])
  | .histogram, _ => .error (unsupported s!"histogram aggregation '{a.name}'")
  | _, _ => .error a.misfit

/-- The groups that an aggregation adds of its own. -/
def ownGroups (s : Scope) (a : Aggregation) : Except AccessError (Option Predicate) :=
  match a.kind with
  | .filter groups => s.groups groups
  | _ => .ok none

/-- The query of an aggregation over the records that the parts of a
predicate let pass. -/
def aggregation (s : Scope) (settings : Settings) (parts : List Predicate) (a : Aggregation) :
    Except AccessError AggregationQuery := do
  let own ← s.ownGroups a
  let (q, more) ← s.aggregationQuery settings a
  let q := { q with table := s.entity.storage }
  return ⟨a, q.restrict? (Predicate.allOf (parts ++ own.toList ++ more))⟩

/-- The fields whose post filters an aggregation does not see. -/
def unseenFields (s : Scope) (a : Aggregation) : List String :=
  a.target.names.flatMap s.entity.facetFields

/-- The query of an aggregation of some criteria. -/
def facet (s : Scope) (settings : Settings) (c : Criteria) (common : List Predicate)
    (a : Aggregation) : Except AccessError AggregationQuery := do
  let post ← s.groups (Filter.Group.withoutFields (s.unseenFields a) c.postFilters)
  s.aggregation settings (common ++ post.toList) a

/-! ## All queries -/

/-- The queries of some criteria. -/
def plan (s : Scope) (settings : Settings) (c : Criteria) : Except AccessError Plan := do
  if c.collapse.isSome then throw (unsupported "collapse")
  let s := s.withJoins c.joins
  let items ← s.outputs c
  let groupBy ← c.groupBy.mapM (s.resolve .output)
  let base : Query := {
    items := items
    distinct := c.distinct
    table := s.entity.storage
    joins := c.joins
    groupBy := groupBy }
  let common ← s.commonParts c
  let post ← s.groups c.postFilters
  let count := base.restrict? (Predicate.allOf (common ++ post.toList))
  let page ← s.page c count
  let aggregations ← c.aggregations.mapM (s.facet settings c common)
  return ⟨page, count, aggregations⟩

end Scope

end Plan

end EntityStore
