-- The hits of a search, the part of each document that is shown, and the
-- document that shows all of them.
import EntityStore.Indices.Basic
import EntityStore.Indices.Request
import EntityStore.Indices.Summary
import EntityStore.Json.Members
import EntityStore.Text.Splitting

namespace EntityStore.Indices

/-! ## Shown members -/

/-- Copies what a path leads to, with the objects on the way. -/
def copyPath (source : Fields Json) : List String → Fields Json → Fields Json
  | [], shown => shown
  | [k], shown =>
    match source.get? k with
    | some v => shown.insert k v
    | none => shown
  | k :: rest, shown =>
    match source.get? k with
    | some (.obj members) =>
      match (shown.get? k).getD (.obj []) with
      | .obj inner => shown.insert k (.obj (copyPath members rest inner))
      | _ => shown
    | _ => shown

/-- Removes what a path leads to. -/
def removePath : List String → Fields Json → Fields Json
  | [], shown => shown
  | [k], shown => shown.erase k
  | k :: rest, shown =>
    match shown.get? k with
    | some (.obj inner) => shown.insert k (.obj (removePath rest inner))
    | _ => shown

/-- The members that are included, or all of them, without those that are
excluded. -/
def projectMembers (included excluded : List String) (source : Fields Json) : Fields Json :=
  let shown :=
    if included.isEmpty then source
    else included.foldl (fun shown path => copyPath source (Text.split '.' path) shown) []
  excluded.foldl (fun shown path => removePath (Text.split '.' path) shown) shown

/-- The part of a document that a filter of members shows. -/
def project (filter : Json) (source : Json) : Json :=
  match source with
  | .obj members =>
    .obj (projectMembers (filter.textsAt "includes") (filter.textsAt "excludes") members)
  | j => j

/-! ## Hits -/

/-- A document that was found, and the keys it is sorted by. -/
structure Hit where
  document : Document
  keys : List (Option Value)

namespace Request

/-! ## Finding -/

/-- The documents that the query finds. Breakdowns are made of all of
them. -/
def found (r : Request) (ix : Index) : List Document :=
  ix.documents.filter fun d => finds r.query d.source

/-- The hit of a document. -/
def hit (r : Request) (d : Document) : Hit := ⟨d, r.sorts.map fun s => s.value? d.source⟩

/-- A hit lies behind the keys that the hits begin after. -/
def isAfter (r : Request) (h : Hit) : Bool :=
  r.after.all fun keys => (orderHits r.sorts h.keys keys).isGT

/-- All hits in order. -/
def hits (r : Request) (ix : Index) : List Hit :=
  let passed := (r.found ix).filter fun d => r.postFilter.all fun q => finds q d.source
  let sorted := (passed.map r.hit).mergeSort fun a b => (orderHits r.sorts a.keys b.keys).isLE
  sorted.filter r.isAfter

/-! ## Collapsing -/

/-- What hits are collapsed by: the first value in a field. -/
def collapseKey (field : String) (h : Hit) : String :=
  ((valuesAt h.document.source field).head?.map textOf).getD ""

/-- The first hits of their keys. -/
def firsts (field : String) : List Hit → List String → List Hit
  | [], _ => []
  | h :: rest, seen =>
    let key := collapseKey field h
    if seen.contains key then firsts field rest seen else h :: firsts field rest (key :: seen)

/-- The hits that stay when they are collapsed. -/
def collapsed (r : Request) (hs : List Hit) : List Hit :=
  match r.collapse with
  | some field => firsts field hs []
  | none => hs

/-- All hits that were collapsed into one, by the name that they go by. -/
def collapsedInto (r : Request) (all : List Hit) (h : Hit) : List (String × Json) :=
  match r.collapse, r.collapseName with
  | some field, some name =>
    let members := all.filter fun other => collapseKey field other == collapseKey field h
    [(name, hitList (members.map fun m =>
      .obj [("_id", .str m.document.id), ("_source", m.document.source)]))]
  | _, _ => []

/-! ## Documents of answers -/

/-- The document of a key. -/
def keyJson (key : Option Value) : Json := (key.map Value.toJson).getD .null

/-- The document of a hit, which may have hits of its own. -/
def hitJson (r : Request) (name : String) (all : List Hit) (h : Hit) : Json :=
  let source := h.document.source
  let inner := Fields.extend (addInnerHits source r.query []) (r.collapsedInto all h)
  Json.object (
    [("_index", .str name), ("_id", .str h.document.id), ("_score", .null),
      ("_source", r.shown.elim source fun filter => project filter source)] ++
    (if r.sorts.isEmpty then [] else [("sort", .arr (h.keys.map keyJson))]) ++
    (if inner.isEmpty then [] else [("inner_hits", .obj inner)]))

/-- What breakdowns make of the documents that the query finds. -/
def summary (r : Request) (ix : Index) : Except IndexFault (Option (Fields Json)) :=
  match r.breakdowns with
  | none => .ok none
  | some bs =>
    let roots := (r.found ix).map Document.source
    (Breakdown.summaries roots bs (rootParts roots)).map some

/-- The answer to a search of an index with a name. The hits are counted
before they are collapsed. -/
def answer (r : Request) (name : String) (ix : Index) : Except IndexFault Json := do
  let summary ← r.summary ix
  let all := r.hits ix
  let shown := ((r.collapsed all).drop r.offset).take r.limit
  let hits := Json.object [
    ("total", Json.object [("value", Json.ofNat all.length), ("relation", .str "eq")]),
    ("max_score", .null),
    ("hits", .arr (shown.map (r.hitJson name all)))]
  return Json.object ([("took", .int 0), ("timed_out", .bool false), ("hits", hits)] ++
    (summary.map fun s => ("aggregations", .obj s)).toList)

end Request

end EntityStore.Indices
