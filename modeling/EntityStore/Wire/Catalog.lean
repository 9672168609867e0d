-- Documents that write entities, columns and settings.
import EntityStore.Entity
import EntityStore.Settings
import EntityStore.Wire.Values

namespace EntityStore

/-! ## Columns -/

namespace ColumnType

def name : ColumnType → String
  | .text => "text"
  | .integer => "integer"
  | .float => "float"
  | .decimal => "decimal"
  | .boolean => "boolean"
  | .timestamp => "timestamp"
  | .json => "json"

/-- All column types. -/
def all : List ColumnType := [.text, .integer, .float, .decimal, .boolean, .timestamp, .json]

def ofName? (s : String) : Option ColumnType := all.find? fun t => t.name == s

end ColumnType

namespace Columns

/-- The columns that a document writes, by the names of their types. -/
def ofWire (j : Json) : Columns :=
  (j.members?.getD []).mapValues fun t => (t.text?.bind ColumnType.ofName?).getD .text

def toWire (columns : Columns) : Json := .obj (Fields.mapValues (fun t => .str t.name) columns)

end Columns

/-! ## Entities -/

/-- The entity that a document describes. -/
def Entity.ofWire (j : Json) : Entity where
  name := j.textOr "name" "product"
  storage := j.textOr "storage" "products"
  idField := j.textOr "id_field" "id"
  columns := .ofWire (j.field "columns")
  jsonFilters := j.textsAt "json_filters"
  uniqueFields := j.textsAt "unique"
  uniqueScope := j.textsAt "unique_scope"
  lockedField := j.textAt? "locked"
  requiredFields := j.textsAt "required"
  nestedPaths := j.textsAt "nested"
  innerHits := j.textsAt "inner_hits"
  facets := (j.membersAt "facets").mapValues fun fs => (fs.items?.getD []).filterMap Json.text?

/-! ## Settings -/

/-- The settings that a document describes: those of a profile, with some of
its own. -/
def Settings.ofWire (j : Json) : Settings :=
  let base := if j.textAt "profile" = "development" then development else production
  let interval := (j.given? "histogram_interval").bind fun v => (Value.ofWire v).number?
  { bucketLimit := j.natOr "default_bucket_size" base.bucketLimit
    bucketLimits := (j.membersAt "bucket_sizes").mapValues fun n => n.nat?.getD 0
    histogramInterval := interval.getD base.histogramInterval
    compositePage := j.natOr "composite_page_size" base.compositePage
    maxWindow := j.natOr "max_result_window" base.maxWindow
    maxReconnects := j.natOr "max_reconnects" base.maxReconnects
    maxDeadlocks := j.natOr "max_deadlocks" base.maxDeadlocks
    backoffMillis := j.natOr "backoff_ms" base.backoffMillis
    cacheSchemas := j.flagOr "schema_cache" base.cacheSchemas
    cachedSchemas := j.natOr "schema_cache_capacity" base.cachedSchemas
    readReplicas := j.flagOr "replica_reads" base.readReplicas
    lenientOperators := j.flagOr "lenient" base.lenientOperators }

/-- The document that describes settings, but for the limits of single
fields. -/
def Settings.toWire (s : Settings) : Fields Json := Fields.ofList [
  ("default_bucket_size", Json.ofNat s.bucketLimit),
  ("histogram_interval", Wire.float s.histogramInterval),
  ("composite_page_size", Json.ofNat s.compositePage),
  ("max_result_window", Json.ofNat s.maxWindow),
  ("max_reconnects", Json.ofNat s.maxReconnects),
  ("max_deadlocks", Json.ofNat s.maxDeadlocks),
  ("backoff_ms", Json.ofNat s.backoffMillis),
  ("schema_cache", .bool s.cacheSchemas),
  ("schema_cache_capacity", Json.ofNat s.cachedSchemas),
  ("replica_reads", .bool s.readReplicas),
  ("lenient", .bool s.lenientOperators)]

end EntityStore
