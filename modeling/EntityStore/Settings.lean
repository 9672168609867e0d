-- Settings: the bounds and switches of an application.
import EntityStore.Error

namespace EntityStore

structure Settings where
  bucketLimit : Nat := 100
  /-- Bucket limits of single fields. -/
  bucketLimits : Fields Nat := []
  histogramInterval : Float := 10.0
  compositePage : Nat := 100
  /-- The last result that a page of a document search may reach. -/
  maxWindow : Nat := 10000
  maxReconnects : Nat := 3
  maxDeadlocks : Nat := 5
  /-- The unit of the waits after deadlocks, in milliseconds. -/
  backoffMillis : Nat := 1000
  cacheSchemas : Bool := true
  cachedSchemas : Nat := 256
  readReplicas : Bool := true
  /-- An operator that is not known makes a filter an equality. -/
  lenientOperators : Bool := false

namespace Settings

def production : Settings := {}

def development : Settings :=
  { cacheSchemas := false, readReplicas := false, maxDeadlocks := 2, backoffMillis := 50 }

/-- The bucket limit of a field: its own or the common one. -/
def bucketLimitFor (s : Settings) (field : String) : Nat :=
  (s.bucketLimits.get? field).getD s.bucketLimit

/-- The first thing wrong with the settings. -/
def problem? (s : Settings) : Option String :=
  if s.bucketLimit = 0 then some "default_bucket_size must be positive"
  else
    match s.bucketLimits.find? fun p => p.2 == 0 with
    | some (field, _) => some s!"bucket size override for '{field}' must be positive"
    | none =>
      if !(s.histogramInterval.isFinite && s.histogramInterval > 0.0) then
        some "histogram_default_interval must be a positive number"
      else if s.maxWindow = 0 then some "max_result_window must be positive"
      else if s.compositePage = 0 then some "composite_page_size must be positive"
      else if s.cacheSchemas && s.cachedSchemas = 0 then
        some "schema_cache_capacity must be positive when the cache is enabled"
      else none

def validate (s : Settings) : Except AccessError Unit :=
  match s.problem? with
  | some message => .error (.invalidSettings message)
  | none => .ok ()

end Settings

end EntityStore
