-- A page of a table held in memory: the rows that pass the filters, in the
-- order of the sorts.
import EntityStore.Proofs.Plan.Groups
import EntityStore.Proofs.Store.Flat
import EntityStore.Proofs.Tables.Pages
import EntityStore.Store.Relational
import EntityStore.Tables.Engine

namespace EntityStore

/-! ## Statements that succeed -/

/-- A statement that succeeds is run once. -/
theorem Retry.run_of_ok {σ : Type} {db : Database σ} {role : Role} {s : Sql.Statement}
    {t : Timed σ} {out : Output} {state : σ} (policy : Policy)
    (h : db.execute role s t.state = (.ok out, state)) :
    Retry.run db policy role s t = (.ok out, { t with state := state }) := by
  have hroom : ¬ countLimit ≤ ({} : Attempts).executed.executions := by decide
  rw [Retry.run, Retry.go, if_neg hroom, h]

/-- An engine without faults gives what a statement asks for. -/
theorem Tables.Engine.execute_of_apply {e : Tables.Engine} {s : Sql.Statement} {out : Output}
    {ts : Tables} (role : Role) (hfaults : e.faults = [])
    (hout : Tables.Engine.apply e.tables s = .ok (out, ts)) :
    ∃ next, Tables.Engine.execute role s e = (.ok out, next) ∧ next.tables = ts ∧
      next.faults = [] := by
  have hrun : e.run s = (.ok out, { e with tables := ts }) := by
    rw [run, hfaults, takeFault?]
    dsimp only
    rw [hout]
  unfold execute
  rw [hrun]
  exact ⟨_, rfl, rfl, hfaults⟩

/-- A table that is not known is asked for. -/
theorem SchemaCache.fetch_of_miss {σ ε : Type} {c : SchemaCache} {k : TableKey}
    {load : σ → Except ε Columns × σ} {s t : σ} {columns : Columns} (hmiss : (c.get? k).1 = none)
    (hload : load s = (.ok columns, t)) : ∃ next, c.fetch k load s = (.ok columns, next, t) := by
  unfold fetch
  cases hget : c.get? k with
  | mk found cache =>
    rw [hget] at hmiss
    dsimp only at hmiss ⊢
    rw [hmiss]
    dsimp only
    rw [hload]
    exact ⟨_, rfl⟩

theorem SchemaCache.get?_make (capacity : Nat) (enabled : Bool) (k : TableKey) :
    ((make capacity enabled).get? k).1 = none := by
  cases enabled <;> rfl

namespace Relational

open Sql (Column Direction Predicate Query passes)

variable {entity : Entity} {settings : Settings} {ts : Tables} {s : State Tables.Engine}

/-- An entity whose records an engine in memory holds. -/
def inMemory (entity : Entity) (settings : Settings) : Relational Tables.Engine where
  entity := entity
  settings := settings
  database := Tables.Engine.database

/-- The engine has these tables, and will meet no fault. -/
structure Ready (ts : Tables) (s : State Tables.Engine) : Prop where
  tables : s.timed.state.tables = ts
  faults : s.timed.state.faults = []

/-- A query gives its output and leaves the tables as they are. -/
theorem run_of_apply (entity : Entity) (settings : Settings) (h : Ready ts s)
    {statement : Sql.Statement} {out : Output}
    (hout : Tables.Engine.apply ts statement = .ok (out, ts)) :
    ∃ next, ((inMemory entity settings).run statement).on s = (.ok out, next) ∧
      Ready ts next := by
  rw [← h.tables] at hout
  obtain ⟨engine, hengine, htables, hfaults⟩ := Tables.Engine.execute_of_apply
    (s.router.route statement.isWrite) h.faults hout
  have hexecute : (inMemory entity settings).database.execute (s.router.route statement.isWrite)
      statement s.timed.state = (.ok out, engine) := hengine
  have hrun := Retry.run_of_ok (.ofSettings settings) hexecute
  refine ⟨{ s with timed := { s.timed with state := engine } }, ?_, htables.trans h.tables, hfaults⟩
  rw [run, Call.on, Call.mk]
  exact congrArg (fun p => (p.1, { s with timed := p.2 })) hrun

/-- What is known of the columns of a table that is described for the first
time. -/
theorem columns_initial (settings : Settings) {engine : Tables.Engine}
    (hfaults : engine.faults = []) {t : Tables.Table} (ht : engine.tables.find entity.storage = .ok t) :
    ∃ next, ((inMemory entity settings).columns).on (.initial settings engine) =
      (.ok (Fields.extend t.shape.columns entity.columns), next) ∧ Ready engine.tables next := by
  have hload : (inMemory entity settings).describe ⟨engine, []⟩ = (.ok t.shape.columns,
      ⟨{ engine with describes := engine.describes + 1 }, []⟩) := by
    have hdescribe : (inMemory entity settings).database.describe entity.storage engine =
        (.ok t.shape.columns, { engine with describes := engine.describes + 1 }) := by
      have hcall : (inMemory entity settings).database.describe entity.storage engine =
          ((engine.tables.find entity.storage).map (·.shape.columns),
            { engine with describes := engine.describes + 1 }) := rfl
      rw [hcall, ht]
      rfl
    have hentity : (inMemory entity settings).entity = entity := rfl
    rw [describe, hentity, hdescribe]
  obtain ⟨cache, hfetch⟩ := SchemaCache.fetch_of_miss
    (SchemaCache.get?_make settings.cachedSchemas settings.cacheSchemas
      ⟨Tables.Engine.database.connection, entity.storage⟩) hload
  refine ⟨⟨⟨{ engine with describes := engine.describes + 1 }, []⟩, cache,
    ⟨settings.readReplicas, 0⟩⟩, ?_, rfl, hfaults⟩
  have hcolumns : ((inMemory entity settings).columns).on (.initial settings engine) = (fun
      (found, cache, timed) => (found.map fun columns => Fields.extend columns entity.columns,
        (⟨timed, cache, ⟨settings.readReplicas, 0⟩⟩ : State Tables.Engine)))
      ((SchemaCache.make settings.cachedSchemas settings.cacheSchemas).fetch
        ⟨Tables.Engine.database.connection, entity.storage⟩ (inMemory entity settings).describe
        ⟨engine, []⟩) := rfl
  rw [hcolumns, hfetch]
  rfl

/-! ## Queries -/

variable {filters postFilters : List Filter.Group} {sorts : List SortBy} {page : Page}

section

variable {columns : Columns} {f p : Option Predicate} {orders : List (Column × Direction)}

theorem commonParts_ofPage
    (hfilters : ((inMemory entity settings).scope columns).groups filters = .ok f) :
    ((inMemory entity settings).scope columns).commonParts
      (.ofPage filters postFilters sorts page) = .ok f.toList := by
  refine bind_eq_ok_iff.mpr ⟨f, hfilters, bind_eq_ok_iff.mpr ⟨[], rfl, ?_⟩⟩
  exact congrArg Except.ok (List.append_nil _)

theorem restrict?_ofTable (table : String) (p : Option Predicate) :
    ({ table := table } : Query).restrict? p = .ofTable table p := by
  cases p <;> rfl

theorem page_ofPage (table : String)
    (hsorts : ((inMemory entity settings).scope columns).sorts sorts = .ok orders) :
    ((inMemory entity settings).scope columns).page (.ofPage filters postFilters sorts page)
      (.ofTable table p) = .ok (.ofPage table p orders page.limit page.offset) := by
  have hpage : ((inMemory entity settings).scope columns).page
      (.ofPage filters postFilters sorts page) (.ofTable table p) = do
    let orders ← ((inMemory entity settings).scope columns).sorts sorts
    return .ofPage table p orders page.limit page.offset := rfl
  rw [hpage, hsorts]
  rfl

/-- The queries for a page are about one table and its predicate. -/
theorem plan_ofPage
    (hfilters : ((inMemory entity settings).scope columns).groups filters = .ok f)
    (hpost : ((inMemory entity settings).scope columns).groups postFilters = .ok p)
    (hsorts : ((inMemory entity settings).scope columns).sorts sorts = .ok orders) :
    ((inMemory entity settings).scope columns).plan settings
      (.ofPage filters postFilters sorts page) = .ok {
        page := .ofPage entity.storage (Predicate.allOf (f.toList ++ p.toList)) orders page.limit
          page.offset
        count := .ofTable entity.storage (Predicate.allOf (f.toList ++ p.toList))
        aggregations := [] } := by
  have hpage : ((inMemory entity settings).scope columns).page
      (.ofPage filters postFilters sorts page)
      (.ofTable entity.storage (Predicate.allOf (f.toList ++ p.toList))) = .ok _ :=
    page_ofPage entity.storage hsorts
  rw [← restrict?_ofTable] at hpage ⊢
  refine bind_eq_ok_iff.mpr ⟨[], rfl, bind_eq_ok_iff.mpr ⟨[], rfl, bind_eq_ok_iff.mpr
    ⟨_, commonParts_ofPage hfilters, bind_eq_ok_iff.mpr ⟨_, hpost, bind_eq_ok_iff.mpr
      ⟨_, hpage, ?_⟩⟩⟩⟩⟩
  rfl

end

/-! ## Answers -/

/-- A search gives what its two queries give. -/
theorem search_of_queries {c : Criteria} {columns : Columns} {next : State Tables.Engine}
    {page count : Query} {rows : List Row} {n : Nat}
    (hcolumns : ((inMemory entity settings).columns).on s = (.ok columns, next))
    (hready : Ready ts next)
    (hplan : ((inMemory entity settings).scope columns).plan settings c = .ok ⟨page, count, []⟩)
    (hrows : Tables.select ts page = .ok rows) (hcount : Tables.count ts count = .ok n) :
    (((inMemory entity settings).search c).on s).1 =
      .ok { rows := rows.map Row.toJson, total := n } := by
  have hplanned : ((inMemory entity settings).plan c).on s = (.ok ⟨page, count, []⟩, next) := by
    rw [plan, Call.on_bind hcolumns, Call.on_lift]
    exact congrArg (·, next) hplan
  have hselect : Tables.Engine.apply ts (.select page) = .ok (.rows rows, ts) :=
    bind_eq_ok_iff.mpr ⟨rows, hrows, rfl⟩
  have hcounted : Tables.Engine.apply ts (.count count) = .ok (.counted n, ts) :=
    bind_eq_ok_iff.mpr ⟨n, hcount, rfl⟩
  obtain ⟨second, hselect, hsecond⟩ := run_of_apply entity settings hready hselect
  obtain ⟨third, hcounted, -⟩ := run_of_apply entity settings hsecond hcounted
  rw [search, Call.on_bind hplanned, Call.on_bind hselect, Call.on_bind hcounted]
  rfl

variable (settings page) in
/-- A search of a table gives the page of the rows that pass. -/
theorem search_ofPage {engine : Tables.Engine} (hfaults : engine.faults = []) {t : Tables.Table}
    (ht : engine.tables.find entity.storage = .ok t) {f p : Option Predicate}
    {orders : List (Column × Direction)}
    (hfilters : ((inMemory entity settings).scope
      (Fields.extend t.shape.columns entity.columns)).groups filters = .ok f)
    (hpost : ((inMemory entity settings).scope
      (Fields.extend t.shape.columns entity.columns)).groups postFilters = .ok p)
    (hsorts : ((inMemory entity settings).scope
      (Fields.extend t.shape.columns entity.columns)).sorts sorts = .ok orders) :
    let found := (t.rows.filter fun row => passes f row && passes p row).mergeSort
      (Tables.ranks orders)
    (((inMemory entity settings).search (.ofPage filters postFilters sorts page)).on
      (.initial settings engine)).1 = .ok {
        rows := (Tables.slice page.offset page.limit (found.map Tables.bareColumns)).map Row.toJson
        total := found.length } := by
  intro found
  obtain ⟨next, hcolumns, hready⟩ := columns_initial settings hfaults ht
  have hpasses : ∀ row, passes (Predicate.allOf (f.toList ++ p.toList)) row =
      (passes f row && passes p row) := by
    intro row
    rw [Bool.eq_iff_iff, Sql.passes_allOf_iff, Bool.and_eq_true]
    cases f <;> cases p <;> simp [passes]
  have hfound : (t.rows.filter (passes (Predicate.allOf (f.toList ++ p.toList)))).mergeSort
      (Tables.ranks orders) = found := by
    rw [List.filter_congr fun row _ => hpasses row]
  have hlength : (t.rows.filter (passes (Predicate.allOf (f.toList ++ p.toList)))).length =
      found.length := by
    rw [← hfound, List.length_mergeSort]
  rw [search_of_queries hcolumns hready (plan_ofPage hfilters hpost hsorts)
    (Tables.select_ofPage ht _ _) (Tables.count_ofTable ht), hfound, hlength]

end Relational

end EntityStore
