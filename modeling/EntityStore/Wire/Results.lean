-- Documents that show results: errors and faults, what searches give, and
-- what became of writes.
import EntityStore.Database.Basic
import EntityStore.Documents.Basic
import EntityStore.Search.Plan
import EntityStore.Store.Basic
import EntityStore.Wire.Values

namespace EntityStore

open Wire (listOf optionOf)

/-! ## Errors -/

def ConflictReport.toWire (r : ConflictReport) : Json :=
  Json.object [("entity", .str r.entity), ("conflicts", .obj (r.conflicts.mapValues Json.obj))]

/-- The document of an error. What is wrong with a shape is not said. -/
def AccessError.toWire (e : AccessError) : Json :=
  let message := match e with
    | .shape _ => []
    | e => [("message", Json.str e.message)]
  let report := match e with
    | .conflict r => [("report", r.toWire)]
    | _ => []
  Json.object ([("error", .str e.code), ("validation", .bool e.isValidation)] ++ message ++ report)

def QueryError.toWire (e : QueryError) : Json :=
  Json.object [("error", .str e.code), ("message", .str e.message)]

/-- The fault that a document writes. -/
def TableFault.ofWire (j : Json) : TableFault :=
  ⟨j.natAt? "code", j.textAt? "sql_state", j.textAt "message"⟩

def TableFault.toWire (f : TableFault) : Json :=
  Json.object [("error", .str "driver"), ("code", optionOf Json.ofNat f.code),
    ("sql_state", optionOf Json.str f.state), ("message", .str f.message)]

def IndexFault.ofWire (j : Json) : IndexFault := ⟨j.natAt? "status", j.textAt "message"⟩

def IndexFault.toWire (f : IndexFault) : Json :=
  Json.object [("error", .str "store"), ("status", optionOf Json.ofNat f.status),
    ("message", .str f.text)]

/-! ## Searches -/

namespace Aggregation

def Bucket.toWire (b : Bucket) : Json :=
  Json.object ([("key", b.key), ("doc_count", Json.ofNat b.count)] ++
    (b.distinct.map fun n => ("distinct_count", Json.ofNat n)).toList)

def Stats.toWire (s : Stats) : Json :=
  Json.object [("count", Json.ofNat s.count), ("min", optionOf Wire.float s.min),
    ("max", optionOf Wire.float s.max), ("avg", optionOf Wire.float s.avg),
    ("sum", Wire.float s.sum)]

/-- The name of the kind of a result, and its document. -/
def Result.content : Result → String × Json
  | .buckets bs => ("buckets", listOf Bucket.toWire bs)
  | .metric x => ("metric", optionOf Wire.float x)
  | .stats s => ("stats", s.toWire)
  | .composite bs after => ("composite",
      Json.object [("buckets", listOf Bucket.toWire bs), ("after_key", Json.ofOption after)])

def Result.toWire (r : Result) : Json :=
  Json.object [
    ("kind", .str r.content.1),
    ("value", r.content.2),
    ("metric", optionOf Wire.float r.metric?),
    ("effective", listOf (fun b => Json.ofNat b.effective) r.bucketList)]

/-- The documents of results by their names. -/
def resultsToWire (rs : Fields Result) : Json := .obj (rs.mapValues Result.toWire)

end Aggregation

def Outcome.toWire (o : Outcome) : Json :=
  Json.object [("rows", listOf Json.obj o.rows), ("total", Json.ofNat o.total),
    ("aggregations", Aggregation.resultsToWire o.aggregations)]

/-- The document that shows a request and how its answer is read. -/
def Search.Plan.toWire (p : Plan) : Json :=
  let layout (l : Layout) : Json :=
    Json.object [("name", .str l.name), ("shape", .str l.shape.name), ("facet", .bool l.facet),
      ("filter", .bool l.filter), ("nested", optionOf Json.str l.nested)]
  Json.object [("index", .str p.request.index), ("body", p.request.toJson),
    ("layout", listOf layout p.layouts), ("total_distinct", optionOf Json.bool p.distinctWrapped)]

/-! ## Writes and statements -/

/-- The document that shows what became of the items of a write. -/
def writeReportToWire (items : WriteReport) : Json :=
  let item (i : ItemReport) : Json := .arr [.bool i.persisted, optionOf Value.toWire i.id]
  Json.object [("persisted", Json.ofNat (items.filter (·.persisted)).length),
    ("items", listOf item items)]

def Output.toWire (out : Output) : Json :=
  let body := match out with
    | .rows rs => ("rows", listOf Row.toWire rs)
    | .affected n => ("affected", Json.ofNat n)
    | .counted n => ("counted", Json.ofNat n)
  Json.object [("count", Json.ofNat out.count), body]

namespace DocumentWrite

/-- The write of a document that another document describes. -/
def ofWire? (j : Json) : Option DocumentWrite :=
  let doc := j.membersAt "document"
  match j.textAt "action", j.textAt? "id" with
  | "create", id => some (.create id doc)
  | "index", id => some (.index id doc)
  | "upsert", some id => some (.upsert id doc)
  | "update", some id => some (.update id doc)
  | _, _ => none

def toWire (w : DocumentWrite) : Json :=
  let (action, id, doc) := match w with
    | .create id doc => ("create", id, doc)
    | .index id doc => ("index", id, doc)
    | .upsert id doc => ("upsert", some id, doc)
    | .update id doc => ("update", some id, doc)
  Json.object [("action", .str action), ("id", optionOf Json.str id), ("document", .obj doc)]

end DocumentWrite

def WriteStatus.ofWire (j : Json) : WriteStatus :=
  ⟨j.textAt? "id", j.natOr "status" 0, j.textAt? "error"⟩

def WriteStatus.toWire (s : WriteStatus) : Json :=
  Json.object [("id", optionOf Json.str s.id), ("status", Json.ofNat s.status),
    ("error", optionOf Json.str s.error), ("success", .bool s.isSuccess)]

end EntityStore
