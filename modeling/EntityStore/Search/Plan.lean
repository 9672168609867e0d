-- Requests to a document store, the documents that write them, and criteria
-- as requests.
import EntityStore.Search.Aggregations
import EntityStore.Search.Query

namespace EntityStore.Search

/-! ## Sorting -/

/-- A field to sort by, which may lie in the objects under a path. -/
structure SortKey where
  field : String
  direction : Sql.Direction := .asc
  mode : Option SortMode := none
  /-- The path, and which of its objects count. -/
  nested : Option (String × Option Query) := none

def SortKey.toJson (k : SortKey) : Json :=
  let nested := k.nested.map fun (path, filter) =>
    Json.object (("path", .str path) :: optional "filter" (filter.map Query.toJson))
  single k.field (Json.object (("order", .str k.direction.name) ::
    optional "mode" (k.mode.map fun m => .str m.name) ++ optional "nested" nested))

/-! ## Requests -/

/-- The fields of a document that come with a hit. -/
structure SourceFilter where
  includes : List String
  excludes : List String

def SourceFilter.toJson (s : SourceFilter) : Json :=
  Json.object [("includes", Json.texts s.includes), ("excludes", Json.texts s.excludes)]

def collapseJson (c : Collapse) : Json :=
  Json.object (("field", .str c.field) ::
    optional "inner_hits" (c.innerHits.map fun name => single "name" (.str name)))

structure Request where
  index : String
  query : Query := .matchAll
  /-- A filter that aggregations do not see. -/
  postFilter : Option Query := none
  sort : List SortKey := []
  start : Nat := 0
  size : Nat := 0
  /-- The sort values after which the hits go on. -/
  after : Option (List Json) := none
  source : Option SourceFilter := none
  aggregations : Fields Json := []
  collapse : Option Collapse := none

/-- The document of a request. -/
def Request.toJson (r : Request) : Json :=
  Json.object ([
      ("query", r.query.toJson),
      ("from", Json.ofNat r.start),
      ("size", Json.ofNat r.size),
      ("track_total_hits", .bool true)] ++
    unlessEmpty "sort" (r.sort.map SortKey.toJson) ++
    optional "post_filter" (r.postFilter.map Query.toJson) ++
    optional "search_after" (r.after.map .arr) ++
    optional "_source" (r.source.map SourceFilter.toJson) ++
    (if r.aggregations.isEmpty then [] else [("aggs", .obj r.aggregations)]) ++
    optional "collapse" (r.collapse.map collapseJson))

/-! ## Plans -/

/-- A request, and how its answer is to be read. -/
structure Plan where
  request : Request
  layouts : List Layout
  /-- Whether the count that replaces the total stands in a wrapper, if
  there is such a count. -/
  distinctWrapped : Option Bool

/-! ## Clauses of other stores -/

/-- A clause that only a relational store knows. -/
def foreignClause? (c : Criteria) : Option String :=
  if !c.joins.isEmpty then some "joins"
  else if !c.rawItems.isEmpty then some "raw select expressions"
  else if !c.groupBy.isEmpty then some "group by"
  else if c.distinct then some "distinct"
  else none

/-! ## The page -/

/-- A sort by a field. Under a nested path only the objects count that every
hit has to have anyway. -/
def sortKey (e : Entity) (ps : List Partition) (s : SortBy) : SortKey :=
  match e.nestedPath? s.field with
  | some path =>
    let clauses := requiredUnder ps path
    let filter := if clauses.isEmpty then none else some (conjunction clauses)
    { field := s.field, direction := s.direction, mode := s.mode, nested := some (path, filter) }
  | none => { field := s.field, direction := s.direction }

/-- How many hits a page has. It ends at the last result that may be
reached. -/
def pageSize (settings : Settings) (p : Page) : Nat :=
  let left := settings.maxWindow - p.offset
  min (p.limit.getD left) left

/-- The request with its page: the hits after a known identity, in the order
of identities, or a part of all hits in the order of the sorts. -/
def page (e : Entity) (settings : Settings) (c : Criteria) (ps : List Partition) (r : Request) :
    Request :=
  match c.scrollAfter with
  | some last => { r with
      sort := [{ field := e.idField }]
      after := some [last.toJson]
      start := 0
      size := c.page.limit.getD settings.maxWindow }
  | none => { r with
      sort := c.sorts.map (sortKey e ps)
      start := c.page.offset
      size := pageSize settings c.page }

/-! ## Requests -/

/-- A text search as a query. -/
def multiMatch (t : FullText) : Query := .multiMatch t.text t.fields t.matchType t.parameters

def sourceFilter (c : Criteria) : Option SourceFilter :=
  if c.included.isEmpty && c.excluded.isEmpty then none else some ⟨c.included, c.excluded⟩

/-- The request of some criteria. -/
def plan (e : Entity) (settings : Settings) (c : Criteria) : Except AccessError Plan := do
  if let some clause := foreignClause? c then
    throw (.query (.unsupported "document" clause))
  let ps ← partitions e c.filters
  let main := { junction e true ps with must := c.fullText.map multiMatch }
  let post ← groups e false c.postFilters
  let (aggregations, layouts) ← aggregations e settings c post
  return {
    request := page e settings c ps {
      index := e.storage
      query := main.query
      postFilter := post
      source := sourceFilter c
      aggregations := aggregations
      collapse := c.collapse }
    layouts := layouts
    distinctWrapped := c.collapse.map fun _ => post.isSome }

end EntityStore.Search
