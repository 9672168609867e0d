-- What a search gives from an engine that is calm. It depends on what the
-- engine holds and on nothing else, and so it is the same each time.
import EntityStore.Proofs.Indices.Answers
import EntityStore.Proofs.Plan.Queries
import EntityStore.Proofs.Store.Documents
import EntityStore.Proofs.Store.Faults

namespace EntityStore

open Call (Gives Leads)

/-! ## Tables -/

namespace Relational

variable {entity : Entity} {settings : Settings} {t : Tables.Table} {columns : Columns}
  {ts : Tables}

/-- What the query of an aggregation says. -/
def aggregate? (ts : Tables) (q : Plan.AggregationQuery) :
    Option (String × Aggregation.Result) :=
  (Tables.select ts q.query).toOption.map fun rows =>
    (q.aggregation.name, result q.aggregation rows)

/-- What the queries of a search give together. -/
def answer? (ts : Tables) (p : Plan) : Option Outcome :=
  (Tables.select ts p.page).toOption.bind fun rows =>
    (Tables.count ts p.count).toOption.bind fun total =>
      (p.aggregations.mapM (aggregate? ts)).map fun aggregations => {
        rows := rows.map Row.toJson
        total := total
        aggregations := Fields.ofList aggregations }

theorem gives_query {statement : Sql.Statement} (hread : statement.isWrite = false) :
    Gives (Holds True entity t columns ts) ((inMemory entity settings).run statement)
      ((Tables.Engine.apply ts statement).toOption.map (·.1)) := by
  intro s hs
  have hleads : Leads (Holds True entity t columns ts) ((inMemory entity settings).run statement)
      _ _ := leads_query hread
  have hend := hleads s hs
  cases hon : ((inMemory entity settings).run statement).on s with
  | mk r next =>
    rw [hon] at hend
    cases r with
    | ok out =>
      rw [hend.1]
      exact ⟨rfl, hend.2⟩
    | error e =>
      obtain ⟨hholds, hfails⟩ := hend
      obtain ⟨f, hf⟩ := hfails trivial
      rw [hf]
      exact ⟨rfl, hholds⟩

theorem gives_plan (c : Criteria) :
    Gives (Holds True entity t columns ts) ((inMemory entity settings).plan c)
      (((inMemory entity settings).scope columns).plan settings c).toOption :=
  Gives.bind leads_columns.gives fun _ => Call.gives_lift _

theorem gives_select (q : Sql.Query) :
    Gives (Holds True entity t columns ts) ((inMemory entity settings).run (.select q))
      ((Tables.select ts q).toOption.map .rows) := by
  have happly : Tables.Engine.apply ts (.select q) = do
    let rows ← Tables.select ts q
    return (.rows rows, ts) := rfl
  refine (gives_query rfl).congr ?_
  rw [happly]
  cases Tables.select ts q <;> rfl

theorem gives_count (q : Sql.Query) :
    Gives (Holds True entity t columns ts) ((inMemory entity settings).run (.count q))
      ((Tables.count ts q).toOption.map .counted) := by
  have happly : Tables.Engine.apply ts (.count q) = do
    let n ← Tables.count ts q
    return (.counted n, ts) := rfl
  refine (gives_query rfl).congr ?_
  rw [happly]
  cases Tables.count ts q <;> rfl

theorem gives_search (entity : Entity) (settings : Settings) (c : Criteria) :
    Gives (Holds True entity t columns ts) ((inMemory entity settings).search c)
      ((((inMemory entity settings).scope columns).plan settings c).toOption.bind
        (answer? ts)) := by
  have haggregate : ∀ q, Gives (Holds True entity t columns ts)
      ((inMemory entity settings).aggregate q) (aggregate? ts q) := by
    intro q
    refine ((gives_select q.query).bind fun out => Call.gives_pure _).congr ?_
    unfold aggregate?
    cases Tables.select ts q.query <;> rfl
  refine (gives_plan c).bind fun plan => ?_
  refine ((gives_select plan.page).bind fun rows => (gives_count plan.count).bind fun n =>
    (Call.gives_mapM fun q _ => haggregate q).bind fun _ => Call.gives_pure _).congr ?_
  unfold answer?
  cases Tables.select ts plan.page with
  | error f => rfl
  | ok rows =>
    cases Tables.count ts plan.count with
    | error f => rfl
    | ok n => cases plan.aggregations.mapM (aggregate? ts) <;> rfl

/-! ## The entity's table -/

theorem tables_columns (s : State Tables.Engine) :
    ((inMemory entity settings).columns.on s).2.timed.state.tables = s.timed.state.tables := by
  have hdescribe : ∀ u : Retry.Timed Tables.Engine,
      ((inMemory entity settings).describe u).2.state.tables = u.state.tables := by
    intro u
    unfold describe
    split <;> rename_i hcall <;> obtain ⟨-, rfl⟩ := Prod.mk.inj hcall <;> rfl
  have hon : ((inMemory entity settings).columns.on s).2.timed =
      (s.cache.fetch ⟨Tables.Engine.database.connection, entity.storage⟩
        (inMemory entity settings).describe s.timed).2.2 := rfl
  rw [hon]
  rcases s.cache.fetch_state ⟨Tables.Engine.database.connection, entity.storage⟩
    (inMemory entity settings).describe s.timed with hsame | hdescribed
  · rw [hsame]
  · rw [hdescribed, hdescribe]

/-- A page is a page of the entity's table. -/
theorem table_of_plan {scope : Plan.Scope} {c : Criteria} {plan : Plan}
    (h : scope.plan settings c = .ok plan) : plan.page.table = scope.entity.storage := by
  obtain ⟨items, groupBy, common, post, hplanned⟩ := Plan.Scope.planned_of_plan h
  obtain ⟨p, orders, limit, offset, hpage⟩ := hplanned.page_base
  rw [hpage]
  rfl

/-- A statement that gives an output was run on the tables. -/
theorem apply_of_run {statement : Sql.Statement} {s next : State Tables.Engine} {out : Output}
    (h : ((inMemory entity settings).run statement).on s = (.ok out, next)) :
    Tables.Engine.apply s.timed.state.tables statement = .ok (out, next.timed.state.tables) := by
  have hcalm : False → s.timed.state.faults = [] := nofun
  have hran := Retry.ran_go (.ofSettings settings) (s.router.route statement.isWrite) statement
    s.timed hcalm
  have hon : ((inMemory entity settings).run statement).on s =
      (fun p => (p.1, { s with timed := p.2 }))
        (Retry.go Tables.Engine.database (.ofSettings settings)
          (s.router.route statement.isWrite) statement .execute {} s.timed) := rfl
  rw [hon] at h
  obtain ⟨hout, rfl⟩ := Prod.mk.inj h
  rw [hout] at hran
  exact hran.2

theorem tables_of_run {statement : Sql.Statement} {s next : State Tables.Engine} {out : Output}
    (hread : statement.isWrite = false)
    (h : ((inMemory entity settings).run statement).on s = (.ok out, next)) :
    next.timed.state.tables = s.timed.state.tables :=
  apply_of_isRead hread (apply_of_run h)

/-- A search that gives an outcome has put the queries of its plan to the tables,
whatever faults were met on the way. -/
theorem exists_answer_of_search {c : Criteria} {s : State Tables.Engine} {out : Outcome}
    (h : (((inMemory entity settings).search c).on s).1 = .ok out) :
    ∃ columns plan rows, ((inMemory entity settings).columns.on s).1 = .ok columns ∧
      ((inMemory entity settings).scope columns).plan settings c = .ok plan ∧
      Tables.select s.timed.state.tables plan.page = .ok rows ∧ out.rows = rows.map Row.toJson ∧
      Tables.count s.timed.state.tables plan.count = .ok out.total := by
  cases hon : ((inMemory entity settings).search c).on s with
  | mk r next =>
    rw [hon] at h
    obtain rfl : r = .ok out := h
    obtain ⟨plan, s₁, hplanned, hon⟩ := Call.exists_of_on_bind hon
    obtain ⟨columns, s₀, hcolumns, hlift⟩ := Call.exists_of_on_bind hplanned
    obtain ⟨hplan, rfl⟩ := Prod.mk.inj hlift
    obtain ⟨rows, s₂, hrows, hon⟩ := Call.exists_of_on_bind hon
    obtain ⟨counted, s₃, hcounted, hon⟩ := Call.exists_of_on_bind hon
    obtain ⟨aggregations, s₄, -, hon⟩ := Call.exists_of_on_bind hon
    obtain rfl := Except.ok.inj (Prod.mk.inj hon).1
    have htables : s₀.timed.state.tables = s.timed.state.tables := by
      rw [← tables_columns s, hcolumns]
    obtain ⟨all, hselect, hall⟩ := bind_eq_ok_iff.mp (apply_of_run hrows)
    obtain ⟨rfl, -⟩ := Prod.mk.inj (Except.ok.inj hall)
    obtain ⟨n, hn, hcounted⟩ := bind_eq_ok_iff.mp (apply_of_run hcounted)
    obtain ⟨rfl, -⟩ := Prod.mk.inj (Except.ok.inj hcounted)
    rw [tables_of_run rfl hrows, htables] at hn
    exact ⟨columns, plan, all, by rw [hcolumns], hplan, htables ▸ hselect, rfl, hn⟩

theorem exists_of_search {c : Criteria} {s : State Tables.Engine} {out : Outcome}
    (h : (((inMemory entity settings).search c).on s).1 = .ok out) :
    ∃ columns plan rows, ((inMemory entity settings).columns.on s).1 = .ok columns ∧
      ((inMemory entity settings).scope columns).plan settings c = .ok plan ∧
      Tables.select s.timed.state.tables plan.page = .ok rows ∧
      Tables.count s.timed.state.tables plan.count = .ok out.total := by
  obtain ⟨columns, plan, rows, hcolumns, hplan, hselect, -, hcount⟩ := exists_answer_of_search h
  exact ⟨columns, plan, rows, hcolumns, hplan, hselect, hcount⟩

/-- Where a search gives an outcome, the entity's table is there. -/
theorem exists_table_of_search {c : Criteria} {s : State Tables.Engine} {out : Outcome}
    (h : (((inMemory entity settings).search c).on s).1 = .ok out) :
    ∃ t, s.timed.state.tables.find entity.storage = .ok t := by
  obtain ⟨columns, plan, rows, -, hplan, hselect, -⟩ := exists_of_search h
  obtain ⟨found, hfound, -⟩ := bind_eq_ok_iff.mp hselect
  obtain ⟨t, ht, -⟩ := bind_eq_ok_iff.mp hfound
  have htable : plan.page.table = entity.storage := table_of_plan hplan
  exact ⟨t, htable ▸ ht⟩

theorem holds_of_search {c : Criteria} {s : State Tables.Engine} {out : Outcome}
    (hfaults : s.timed.state.faults = [])
    (h : (((inMemory entity settings).search c).on s).1 = .ok out) :
    ∃ t, Holds True entity t (knownColumns entity t s) s.timed.state.tables s := by
  obtain ⟨t, ht⟩ := exists_table_of_search h
  exact ⟨t, ⟨rfl, fun _ => hfaults⟩, ht, rfl⟩

end Relational

/-! ## Indices -/

namespace Documents

/-- The engine has these indices, and will meet no fault. -/
structure Calm (indices : Fields Indices.Index) (e : Indices.Engine) : Prop where
  indices : e.indices = indices
  faults : e.faults = []

theorem Calm.find {e t : Indices.Engine} {name : String} {ix : Indices.Index}
    (h : Calm e.indices t) (hix : e.find name = .ok ix) : t.find name = .ok ix := by
  rw [← hix, Indices.Engine.find, Indices.Engine.find, Indices.Engine.index?, h.indices]
  rfl

/-- What indices answer to the request of a search. -/
def answer? (idField : String) (indices : Fields Indices.Index) (p : Search.Plan) :
    Option Outcome :=
  (Indices.Engine.answer { indices := indices } p.request.index p.request.toJson).toOption.bind
    fun raw => (p.outcome idField raw).toOption

theorem gives_search (entity : Entity) (settings : Settings) {indices : Fields Indices.Index}
    (c : Criteria) :
    Gives (Calm indices) ((inMemory entity settings).search c)
      ((Search.plan entity settings c).toOption.bind (answer? entity.idField indices)) := by
  have hcall : ∀ name body, Gives (Calm indices) (call (Indices.Engine.search name body))
      (Indices.Engine.answer { indices := indices } name body).toOption := by
    rintro name body e ⟨hindices, hfaults⟩
    have hon : Indices.Engine.search name body e =
        (Indices.Engine.answer { indices := indices } name body,
          { e with searches := e.searches ++ [body] }) := by
      unfold Indices.Engine.search
      dsimp only
      rw [hfaults]
      subst hindices
      rfl
    unfold call Call.mk Call.on
    dsimp only
    rw [hon]
    cases Indices.Engine.answer { indices := indices } name body <;>
      exact ⟨rfl, hindices, hfaults⟩
  exact (Call.gives_lift _).bind fun p => (hcall _ _).bind fun raw => Call.gives_lift _

theorem of_on_call {σ α : Type} {f : σ → Except IndexFault α × σ} {s t : σ} {x : α}
    (h : (call f).on s = (.ok x, t)) : f s = (.ok x, t) := by
  unfold call Call.mk Call.on at h
  dsimp only at h
  split at h <;> rename_i hf
  · cases h
    exact hf
  · cases h

/-- A search that gives an outcome has read it from the answer to its request. -/
theorem exists_of_search {entity : Entity} {settings : Settings} {c : Criteria}
    {e : Indices.Engine} {out : Outcome}
    (h : (((inMemory entity settings).search c).on e).1 = .ok out) :
    ∃ p raw, Search.plan entity settings c = .ok p ∧
      (e.search p.request.index p.request.toJson).1 = .ok raw ∧
      p.outcome entity.idField raw = .ok out := by
  cases hon : ((inMemory entity settings).search c).on e with
  | mk r next =>
    rw [hon] at h
    obtain rfl : r = .ok out := h
    obtain ⟨p, e₁, hlift, hon⟩ := Call.exists_of_on_bind hon
    obtain ⟨hplan, rfl⟩ := Prod.mk.inj hlift
    obtain ⟨raw, e₂, hcall, hon⟩ := Call.exists_of_on_bind hon
    exact ⟨p, raw, hplan, congrArg (·.1) (of_on_call hcall), (Prod.mk.inj hon).1⟩

/-- What indices would answer to the request of a search for hits behind some
keys, if they showed all of them. -/
def whole? (idField : String) (indices : Fields Indices.Index) (p : Search.Plan)
    (after : Option (List (Option Value))) : Option Outcome :=
  (Indices.Engine.find { indices := indices } p.request.index).toOption.bind fun ix =>
    (Indices.Request.ofJson p.request.toJson).toOption.bind fun q =>
      { q with after := after }.whole? p idField p.request.index ix

theorem answer?_part (idField : String) (indices : Fields Indices.Index) (p : Search.Plan)
    (start size : Nat) (after : Option (List Json)) :
    answer? idField indices { p with request := p.request.part start size after } =
      (whole? idField indices p (after.map Indices.keysOf)).map fun out =>
        { out with rows := (out.rows.drop start).take size } := by
  have hread := Indices.Request.ofJson_part p.request start size after
  unfold answer? whole? Indices.Engine.answer
  dsimp only
  rw [hread]
  show Option.bind (Except.toOption (Indices.Engine.find _ p.request.index >>= _)) _ = _
  cases Indices.Engine.find { indices := indices } p.request.index with
  | error f => rfl
  | ok ix =>
    cases Indices.Request.ofJson p.request.toJson with
    | error f => rfl
    | ok q =>
      exact Indices.outcome_answer p idField p.request.index ix
        (q.part start size (after.map Indices.keysOf))

end Documents

end EntityStore
