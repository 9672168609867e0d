-- A request is read from the document that writes it. Its queries may lose
-- parameters on the way, and nothing else does.
import EntityStore.Indices.Request
import EntityStore.Proofs.Search.Reading
import EntityStore.Search.Plan

namespace EntityStore.Indices

open Search (get?_object get?_optional get?_unlessEmpty)

/-! ## Clauses -/

theorem clause?_toJson (q : Option Search.Query) :
    clause? (q.map Search.Query.toJson) = .ok (q.map Search.Query.asRead) := by
  cases q with
  | none => rfl
  | some p => rw [Option.map_some, clause?, Search.Query.ofJson_toJson_eq p, Option.map_some]

/-! ## Sorting -/

/-- What hits are sorted by where a search asks for the values of a field. -/
def SortKey.ofField (field : String) (d : Sql.Direction) : SortKey where
  field := field
  descending := d = .desc
  mode := if d = .desc then .max else .min
  nested := none

theorem SortKey.read_toJson (field : String) (d : Sql.Direction) :
    SortKey.read (Search.SortKey.toJson { field := field, direction := d }) =
      .ok (.ofField field d) := by
  have hjson : Search.SortKey.toJson { field := field, direction := d } =
      .obj [(field, .obj [("order", .str d.name)])] := rfl
  rw [hjson, SortKey.read]
  cases d <;> rfl

/-! ## Requests -/

/-- The members of the document of a request. -/
theorem get?_request (r : Search.Request) (k : String) :
    r.toJson.get? k =
      (if k = "collapse" then r.collapse.map Search.collapseJson else none).or
      ((if k = "aggs" ∧ r.aggregations ≠ [] then some (.obj r.aggregations) else none).or
      ((if k = "_source" then r.source.map Search.SourceFilter.toJson else none).or
      ((if k = "search_after" then r.after.map .arr else none).or
      ((if k = "post_filter" then r.postFilter.map Search.Query.toJson else none).or
      ((if k = "sort" ∧ r.sort.map Search.SortKey.toJson ≠ [] then
        some (.arr (r.sort.map Search.SortKey.toJson)) else none).or
      (Fields.get? (Fields.ofList [("query", r.query.toJson), ("from", Json.ofNat r.start),
        ("size", Json.ofNat r.size), ("track_total_hits", .bool true)]) k)))))) := by
  have haggs : Fields.get? (Fields.ofList
      (if r.aggregations.isEmpty then [] else [("aggs", Json.obj r.aggregations)])) k =
      if k = "aggs" ∧ r.aggregations ≠ [] then some (.obj r.aggregations) else none := by
    cases r.aggregations <;> simp [Fields.get?_ofList_cons, Fields.get?_ofList_nil]
  simp only [Search.Request.toJson, get?_object, Fields.get?_ofList_append, haggs,
    get?_optional, get?_unlessEmpty]

/-- The keys that the documents of keys write. -/
def keysOf (keys : List Json) : List (Option Value) :=
  keys.map fun k => if k.isNull then none else some (Value.ofJson k)

/-- What a request asks for once it is read, where its sorts are read as these. -/
def Request.asRead (r : Search.Request) (sorts : List SortKey) : Request where
  query := r.query.asRead
  postFilter := r.postFilter.map Search.Query.asRead
  sorts := sorts
  breakdowns := if r.aggregations.isEmpty then none else some (Breakdown.readAll r.aggregations)
  after := r.after.map keysOf
  collapse := r.collapse.map (·.field)
  collapseName := r.collapse.bind (·.innerHits)
  offset := r.start
  limit := r.size
  shown := r.source.map Search.SourceFilter.toJson

theorem get?_collapseJson (c : Collapse) (k : String) :
    (Search.collapseJson c).get? k =
      (if k = "inner_hits" then c.innerHits.map fun name => Search.single "name" (.str name)
        else none).or (if k = "field" then some (.str c.field) else none) := by
  rw [Search.collapseJson, get?_object, Fields.get?_ofList_cons, get?_optional]

theorem at?_collapse (r : Search.Request) :
    (r.toJson.at? ["collapse", "field"]).bind Json.text? = r.collapse.map (·.field) ∧
      (r.toJson.at? ["collapse", "inner_hits", "name"]).bind Json.text? =
        r.collapse.bind (·.innerHits) := by
  have hcollapse : r.toJson.get? "collapse" = r.collapse.map Search.collapseJson := by
    simp [get?_request, Fields.get?_ofList_cons, Fields.get?_ofList_nil]
  simp only [Json.at?, hcollapse]
  cases r.collapse with
  | none => exact ⟨rfl, rfl⟩
  | some c =>
    simp only [Option.map_some, Option.bind_some, get?_collapseJson]
    refine ⟨rfl, ?_⟩
    cases c.innerHits <;> rfl

/-- Whether the document of a request can be read depends on its sorts alone. -/
theorem Request.ofJson_toJson (r : Search.Request) :
    ofJson r.toJson = ((r.sort.map Search.SortKey.toJson).mapM SortKey.read).map (asRead r) := by
  have hget := get?_request r
  simp only [Fields.get?_ofList_cons, Fields.get?_ofList_nil] at hget
  have hquery : r.toJson.get? "query" = (some r.query).map Search.Query.toJson := by simp [hget]
  have hpost : r.toJson.get? "post_filter" = r.postFilter.map Search.Query.toJson := by
    simp [hget]
  have hsort : r.toJson.itemsAt "sort" = r.sort.map Search.SortKey.toJson := by
    rw [Json.itemsAt, hget]
    cases r.sort <;> simp [Json.items?]
  have haggs : (r.toJson.get? "aggs").bind Json.members? =
      if r.aggregations.isEmpty then none else some r.aggregations := by
    rw [hget]
    cases r.aggregations <;> simp [Json.members?]
  have hafter : readAfter r.toJson = r.after.map keysOf := by
    have hkeys : r.toJson.get? "search_after" = r.after.map .arr := by simp [hget]
    rw [readAfter, hkeys]
    cases r.after <;> rfl
  have hfrom : r.toJson.get? "from" = some (Json.ofNat r.start) := by simp [hget]
  have hsize : r.toJson.get? "size" = some (Json.ofNat r.size) := by simp [hget]
  have hsource : r.toJson.get? "_source" = r.source.map Search.SourceFilter.toJson := by
    simp [hget]
  rw [ofJson, hquery, hpost, clause?_toJson, clause?_toJson, hsort, haggs, hafter,
    (at?_collapse r).1, (at?_collapse r).2, hsource, Json.natOr, Json.natOr, Json.natAt?,
    Json.natAt?, hfrom, hsize]
  cases (r.sort.map Search.SortKey.toJson).mapM SortKey.read with
  | error f => rfl
  | ok sorts =>
    unfold asRead
    cases r.aggregations.isEmpty <;> rfl

/-! ## Pages -/

/-- A request for one page of the hits of a query, without more. -/
def Request.ofPage (q : Search.Query) (post : Option Search.Query) (sorts : List SortBy)
    (offset limit : Nat) : Request where
  query := q
  postFilter := post
  sorts := sorts.map fun s => .ofField s.field s.direction
  breakdowns := none
  after := none
  collapse := none
  collapseName := none
  offset := offset
  limit := limit
  shown := none

/-- The same request as the one who searches writes it. -/
def pageRequest (index : String) (q : Search.Query) (post : Option Search.Query)
    (sorts : List SortBy) (offset limit : Nat) : Search.Request where
  index := index
  query := q
  postFilter := post
  sort := sorts.map fun s => { field := s.field, direction := s.direction }
  start := offset
  size := limit

theorem read_sorts (index : String) (q : Search.Query) (post : Option Search.Query)
    (sorts : List SortBy) (offset limit : Nat) :
    ((pageRequest index q post sorts offset limit).sort.map Search.SortKey.toJson).mapM
      SortKey.read = .ok (sorts.map fun s => .ofField s.field s.direction) := by
  rw [pageRequest, List.map_map, List.mapM_map]
  exact mapM_eq_ok fun s _ => SortKey.read_toJson s.field s.direction

/-- A request for a page is read as what it asks for. -/
theorem Request.ofJson_pageRequest (index : String) {q : Search.Query}
    {post : Option Search.Query} (sorts : List SortBy) (offset limit : Nat) (hq : q.Readable)
    (hpost : ∀ p ∈ post, p.Readable) :
    Request.ofJson (pageRequest index q post sorts offset limit).toJson =
      .ok (.ofPage q post sorts offset limit) := by
  have hquery : q.asRead = q := q.asRead_of_readable hq
  have hfilter : post.map Search.Query.asRead = post := by
    cases post with
    | none => rfl
    | some p => rw [Option.map_some, p.asRead_of_readable (hpost p rfl)]
  rw [ofJson_toJson, read_sorts]
  show Except.ok (asRead _ _) = _
  unfold asRead ofPage
  dsimp only [pageRequest]
  rw [hquery, hfilter]
  rfl

end EntityStore.Indices
