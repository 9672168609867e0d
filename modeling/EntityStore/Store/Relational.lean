-- A database as a store. What a write has stored is read again from the
-- primary, so that the report tells the truth.
import EntityStore.Database.Basic
import EntityStore.Database.Retry
import EntityStore.Plan.Conditions
import EntityStore.Plan.Search
import EntityStore.SchemaCache
import EntityStore.Store.Basic
import EntityStore.Value.Order

namespace EntityStore

/-- A database that holds the records of an entity. -/
structure Relational (σ : Type) where
  entity : Entity
  settings : Settings
  database : Database σ

namespace Relational

/-! ## States -/

/-- The state of a database, and what is known of it. -/
structure State (σ : Type) where
  timed : Retry.Timed σ
  cache : SchemaCache
  router : Router

/-- The first state over a state of a database. -/
def State.initial {σ : Type} (settings : Settings) (s : σ) : State σ where
  timed := ⟨s, []⟩
  cache := .make settings.cachedSchemas settings.cacheSchemas
  router := ⟨settings.readReplicas, 0⟩

variable {σ : Type}

/-! ## Reaching the database -/

/-- The columns of a table as the database tells them. -/
def describe (r : Relational σ) (t : Retry.Timed σ) : Except AccessError Columns × Retry.Timed σ :=
  match r.database.describe r.entity.storage t.state with
  | (.ok columns, s) => (.ok columns, { t with state := s })
  | (.error f, s) => (.error (.fatal f.message), { t with state := s })

/-- The columns of the entity's table. Where the entity declares a column
too, its type counts. -/
def columns (r : Relational σ) : Call (State σ) Columns :=
  Call.mk fun s =>
    let key : TableKey := ⟨r.database.connection, r.entity.storage⟩
    let (found, cache, timed) := s.cache.fetch key r.describe s.timed
    (found.map fun columns => Fields.extend columns r.entity.columns,
      { s with cache := cache, timed := timed })

/-- Runs a statement on the connection that it belongs to. -/
def run (r : Relational σ) (statement : Sql.Statement) : Call (State σ) Output :=
  Call.mk fun s =>
    let role := s.router.route statement.isWrite
    let (out, timed) := Retry.run r.database (.ofSettings r.settings) role statement s.timed
    (out, { s with timed := timed })

/-- A call whose statements all run on the primary. -/
def onPrimary {α : Type} (c : Call (State σ) α) : Call (State σ) α :=
  Call.mk fun s =>
    let (out, s) := c.on { s with router := s.router.force }
    (out, { s with router := s.router.release })

/-- The names that statements on the entity's table know. -/
def scope (r : Relational σ) (columns : Columns) : Plan.Scope where
  entity := r.entity
  columns := columns

/-! ## Searches -/

/-- The number of a value as a count. -/
def countOf (v : Option Value) : Nat :=
  match v.bind Value.numeric? with
  | some x => if x > 0.0 then x.toUInt64.toNat else 0
  | none => 0

/-- The number under a name. -/
def numberAt (row : Row) (name : String) : Option Float := (row.get? name).bind Value.numeric?

def stats (row : Row) : Aggregation.Stats where
  count := countOf (row.get? "count")
  min := numberAt row "min"
  max := numberAt row "max"
  avg := numberAt row "avg"
  sum := (numberAt row "sum").getD 0.0

/-- The bucket of a row. -/
def bucket (key : Json) (row : Row) : Aggregation.Bucket where
  key := key
  count := countOf (row.get? Plan.countName)

/-- The key of a bucket of one value. -/
def singleKey (row : Row) : Json := Json.ofOption ((row.get? Plan.keyName).map Value.toJson)

/-- The key of a bucket of several values. -/
def combinedKey (row : Row) : Json :=
  .obj ((List.filter (fun p => p.1 != Plan.countName) row).map fun (k, v) => (k, v.toJson))

/-- What the rows of an aggregation say. -/
def result (a : Aggregation) (rows : List Row) : Aggregation.Result :=
  match a.kind with
  | .metric .stats => .stats ((rows.head?.map stats).getD {})
  | .metric _ => .metric (rows.head?.bind (numberAt · Plan.metricName))
  | .composite => .composite (rows.map fun row => bucket (combinedKey row) row) none
  | _ => .buckets (rows.map fun row => bucket (singleKey row) row)

/-- The queries of some criteria. -/
def plan (r : Relational σ) (c : Criteria) : Call (State σ) Plan := do
  let columns ← r.columns
  Call.lift ((r.scope columns).plan r.settings c)

/-- Runs the query of an aggregation. -/
def aggregate (r : Relational σ) (q : Plan.AggregationQuery) :
    Call (State σ) (String × Aggregation.Result) := do
  let rows := (← r.run (.select q.query)).rowList
  return (q.aggregation.name, result q.aggregation rows)

def search (r : Relational σ) (c : Criteria) : Call (State σ) Outcome := do
  let plan ← r.plan c
  let rows := (← r.run (.select plan.page)).rowList
  let total := (← r.run (.count plan.count)).count
  let aggregations ← plan.aggregations.mapM r.aggregate
  return {
    rows := rows.map Row.toJson
    total := total
    aggregations := Fields.ofList aggregations }

/-! ## Confirming writes -/

/-- A member that is there and not null. -/
def carried? (doc : Fields Json) (field : String) : Option Value :=
  (Json.present? doc field).map Value.ofJson

/-- The field by which inserted items are found again: the identity, or the
first unique field that all of them have. -/
def confirmationKey (e : Entity) (docs : List (Fields Json)) : String :=
  let all (field : String) : Bool := docs.all fun doc => (carried? doc field).isSome
  if all e.idField then e.idField else (e.uniqueFields.find? all).getD e.idField

/-- The identities of stored records by the key texts of a field. -/
def identities (e : Entity) (field : String) (rows : List (Fields Json)) :
    Fields (Option Value) :=
  Fields.ofList (rows.filterMap fun row =>
    (row.get? field).map fun v => ((Value.ofJson v).key, carried? row e.idField))

/-- The report on an item, by what is stored. -/
def itemReport (field : String) (stored : Fields (Option Value)) (doc : Fields Json) :
    ItemReport :=
  match carried? doc field with
  | none => ⟨true, none⟩
  | some key =>
    match stored.get? key.key with
    | some id => ⟨true, id⟩
    | none => ⟨false, none⟩

/-- The report on written items, by what the primary has stored. -/
def confirm (r : Relational σ) (field : String) (docs : List (Fields Json)) :
    Call (State σ) WriteReport := do
  let rows ← onPrimary (Store.findWith r.search field (docs.filterMap (carried? · field)))
  let stored := identities r.entity field rows
  return docs.map (itemReport field stored)

/-! ## Writes -/

def insert (r : Relational σ) (docs : List (Fields Json)) : Call (State σ) WriteReport := do
  let columns ← r.columns
  let s ← Call.lift ((r.scope columns).insert docs [])
  let _ ← r.run (.insert s)
  r.confirm (confirmationKey r.entity docs) docs

def upsert (r : Relational σ) (docs : List (Fields Json)) (field : String)
    (updated : List String) : Call (State σ) WriteReport := do
  let columns ← r.columns
  let s ← Call.lift ((r.scope columns).insert docs updated)
  let _ ← r.run (.insert s)
  r.confirm field docs

def update (r : Relational σ) (changes : List (Value × Fields Json)) :
    Call (State σ) WriteReport := do
  let columns ← r.columns
  let statements ← Call.lift (changes.mapM fun (id, doc) => (r.scope columns).update id doc)
  statements.forM fun s => do
    let _ ← r.run (.update s)
  r.confirm r.entity.idField (changes.map fun (id, _) => [(r.entity.idField, id.toJson)])

def delete (r : Relational σ) (groups : List Filter.Group) : Call (State σ) Nat := do
  let columns ← r.columns
  let s ← Call.lift ((r.scope columns).delete groups)
  return (← r.run (.delete s)).count

/-- The store of a database. -/
def store (r : Relational σ) : Store (State σ) where
  entity := r.entity
  settings := r.settings
  search := r.search
  insert := r.insert
  upsert := r.upsert
  update := r.update
  delete := r.delete

end Relational

end EntityStore
