-- A store over an engine in memory. Reading leaves all tables as they are, a
-- write that fails does too, and what is known of the columns of the entity's
-- table stays what it is. A call on an engine that is calm, that is, one that
-- no fault is waiting for, fails only when it has to.
import EntityStore.Proofs.Calls
import EntityStore.Proofs.Database.Retry
import EntityStore.Proofs.Plan.Additions
import EntityStore.Proofs.Store.Relational

namespace EntityStore

/-! ## Finding -/

theorem Store.keeps_findWith {σ : Type} {P : σ → Prop} {search : Criteria → Call σ Outcome}
    (hsearch : ∀ c, Call.Keeps P (search c)) (field : String) (vs : List Value) :
    Call.Keeps P (findWith search field vs) := by
  unfold findWith
  split
  · exact Call.keeps_pure []
  · exact (hsearch _).bind fun out => Call.keeps_pure out.rows

/-! ## Known columns -/

/-- A table that is in the cache stays there with its columns. -/
theorem SchemaCache.get?_again {c next : SchemaCache} {k : TableKey} {columns : Columns}
    (h : c.get? k = (some columns, next)) (hits : Nat) :
    ({ next with hits := hits }.get? k).1 = some columns := by
  unfold get? at h
  split at h
  · cases h
  · rename_i henabled
    split at h
    · rename_i e hfind
      obtain ⟨hcolumns, rfl⟩ := Prod.mk.inj h
      have hkey : e.1 = k := by simpa using List.find?_some hfind
      rw [get?, if_neg henabled, List.find?_cons_of_pos (by simpa using hkey)]
      exact hcolumns
    · cases h

/-- A table that is put into the cache is known with its columns, if it is
known at all. -/
theorem SchemaCache.get?_put (c : SchemaCache) (k : TableKey) (columns : Columns) :
    ((c.put k columns).get? k).1.getD columns = columns := by
  unfold put get?
  cases henabled : c.enabled with
  | false => simp [henabled]
  | true =>
    cases hcapacity : c.capacity with
    | zero => simp
    | succ n => simp

/-- What is loaded into the cache is what is known of a table from then
on. -/
theorem SchemaCache.fetch_eq {σ ε : Type} (c : SchemaCache) (k : TableKey)
    {load : σ → Except ε Columns × σ} {s t : σ} {columns : Columns}
    (hload : load s = (.ok columns, t)) :
    ∃ next u, c.fetch k load s = (.ok ((c.get? k).1.getD columns), next, u) ∧ (u = s ∨ u = t) ∧
      (next.get? k).1.getD columns = (c.get? k).1.getD columns := by
  cases hget : c.get? k with
  | mk found cache =>
    cases found with
    | some cached =>
      refine ⟨{ cache with hits := cache.hits + 1 }, s, ?_, .inl rfl, ?_⟩
      · rw [fetch, hget]
        rfl
      · rw [get?_again hget]
    | none =>
      refine ⟨{ cache with misses := cache.misses + 1 }.put k columns, t, ?_, .inr rfl, ?_⟩
      · rw [fetch, hget]
        dsimp only
        rw [hload]
        rfl
      · exact get?_put _ k columns

namespace Relational

open Call (Leads Keeps)

/-- What statements know of the columns of a table: what the cache has, or
what the database tells, and what the entity declares. -/
def knownColumns (entity : Entity) (t : Tables.Table) (s : State Tables.Engine) : Columns :=
  Fields.extend
    ((s.cache.get? ⟨Tables.Engine.database.connection, entity.storage⟩).1.getD t.shape.columns)
    entity.columns

/-- The engine has these tables, and where it is calm it will meet no fault. -/
structure Stands (calm : Prop) (ts : Tables) (s : State Tables.Engine) : Prop where
  tables : s.timed.state.tables = ts
  faults : calm → s.timed.state.faults = []

/-- The engine has these tables, one of them is the entity's, and these columns
are known of it. -/
structure Holds (calm : Prop) (entity : Entity) (t : Tables.Table) (columns : Columns)
    (ts : Tables) (s : State Tables.Engine) : Prop extends Stands calm ts s where
  find : ts.find entity.storage = .ok t
  known : knownColumns entity t s = columns

variable {calm : Prop} {entity : Entity} {settings : Settings} {t : Tables.Table}
  {columns : Columns} {ts : Tables}

theorem describe_of_holds (settings : Settings) {s : State Tables.Engine}
    (h : Holds calm entity t columns ts s) :
    ∃ next, (inMemory entity settings).describe s.timed = (.ok t.shape.columns, next) ∧
      next.state.tables = ts ∧ (calm → next.state.faults = []) := by
  have hfind : s.timed.state.tables.find entity.storage = .ok t := by rw [h.tables]; exact h.find
  have hdescribe : (inMemory entity settings).database.describe entity.storage s.timed.state =
      (.ok t.shape.columns,
        { s.timed.state with describes := s.timed.state.describes + 1 }) := by
    have hcall : (inMemory entity settings).database.describe entity.storage s.timed.state =
        ((s.timed.state.tables.find entity.storage).map (·.shape.columns),
          { s.timed.state with describes := s.timed.state.describes + 1 }) := rfl
    rw [hcall, hfind]
    rfl
  refine ⟨⟨{ s.timed.state with describes := s.timed.state.describes + 1 }, s.timed.waits⟩, ?_,
    h.tables, h.faults⟩
  have hentity : (inMemory entity settings).entity = entity := rfl
  rw [describe, hentity, hdescribe]

theorem leads_columns : Leads (Holds calm entity t columns ts) (inMemory entity settings).columns
    (fun found s => found = columns ∧ Holds calm entity t columns ts s) (fun _ => False) := by
  intro s hs
  obtain ⟨timed, hload, htables, hfaults⟩ := describe_of_holds settings hs
  obtain ⟨cache, u, hfetch, hu, hcache⟩ := s.cache.fetch_eq
    ⟨Tables.Engine.database.connection, entity.storage⟩ hload
  have hcolumns : (inMemory entity settings).columns.on s =
      (.ok (knownColumns entity t s), { s with cache := cache, timed := u }) := by
    have hcall : (inMemory entity settings).columns.on s = (fun (found, cache, timed) =>
        (Except.map (fun columns => Fields.extend columns entity.columns) found,
          ({ s with cache := cache, timed := timed } : State Tables.Engine)))
        (s.cache.fetch ⟨Tables.Engine.database.connection, entity.storage⟩
          (inMemory entity settings).describe s.timed) := rfl
    rw [hcall, hfetch]
    rfl
  rw [hcolumns]
  refine ⟨hs.known, ⟨?_, ?_⟩, hs.find, ?_⟩
  · rcases hu with rfl | rfl
    · exact hs.tables
    · exact htables
  · rcases hu with rfl | rfl
    · exact hs.faults
    · exact hfaults
  · rw [← hs.known, knownColumns, knownColumns, hcache]

end Relational

/-! ## Statements -/

/-- What running a statement comes to: it gives what it asks for, or it fails
and the tables stay. Where no fault is waiting for it, it fails only when it has
to. -/
def Tables.Engine.Ran {ε : Type} (calm : Prop) (ts : Tables) (s : Sql.Statement)
    (r : Except ε Output) (next : Tables.Engine) : Prop :=
  (calm → next.faults = []) ∧
    match r with
    | .ok out => Tables.Engine.apply ts s = .ok (out, next.tables)
    | .error _ => next.tables = ts ∧ (calm → ∃ f, Tables.Engine.apply ts s = .error f)

theorem Tables.Engine.ran_execute {calm : Prop} {e next : Tables.Engine} {s : Sql.Statement}
    {role : Role} {r : Except TableFault Output} (hfaults : calm → e.faults = [])
    (h : Tables.Engine.execute role s e = (r, next)) : Ran calm e.tables s r next := by
  unfold execute run at h
  cases htake : takeFault? s e.faults with
  | some met =>
    rw [htake] at h
    obtain ⟨rfl, rfl⟩ := Prod.mk.inj h
    have hnot : ¬ calm := by
      intro hcalm
      rw [hfaults hcalm] at htake
      cases htake
    exact ⟨fun hcalm => absurd hcalm hnot, rfl, fun hcalm => absurd hcalm hnot⟩
  | none =>
    rw [htake] at h
    dsimp only at h
    cases happly : Tables.Engine.apply e.tables s with
    | ok p =>
      rw [happly] at h
      obtain ⟨rfl, rfl⟩ := Prod.mk.inj h
      exact ⟨hfaults, happly⟩
    | error f =>
      rw [happly] at h
      obtain ⟨rfl, rfl⟩ := Prod.mk.inj h
      exact ⟨hfaults, rfl, fun _ => ⟨f, happly⟩⟩

-- After a lost connection or a deadlock the statement is run again, and it
-- meets the same tables each time. Without faults to come it is run again only
-- after it has failed on them.
theorem Retry.ran_go (p : Policy) (role : Role) (s : Sql.Statement) (t : Timed Tables.Engine)
    {calm : Prop} (hfaults : calm → t.state.faults = []) :
    Tables.Engine.Ran calm t.state.tables s (go Tables.Engine.database p role s .execute {} t).1
      (go Tables.Engine.database p role s .execute {} t).2.state := by
  refine run_induction (I := fun _ a (t' : Timed Tables.Engine) =>
      t'.state.tables = t.state.tables ∧ (calm → t'.state.faults = []) ∧
        (a.executions ≠ 0 → calm → ∃ f, Tables.Engine.apply t.state.tables s = .error f))
    (Q := fun r t' => Tables.Engine.Ran calm t.state.tables s r t'.state) ?_ ?_ ?_
    ⟨rfl, hfaults, fun hne => absurd rfl hne⟩
  · rintro b t' ⟨htables, hnone, hfailed⟩ hspent
    exact ⟨hnone, htables, hfailed (Attempts.executions_ne_zero hspent)⟩
  · rintro b t' ⟨htables, hnone, -⟩ -
    cases hexecute : Tables.Engine.database.execute role s t'.state with
    | mk r next =>
      have hran := Tables.Engine.ran_execute hnone hexecute
      rw [htables] at hran
      cases r with
      | ok out => exact hran
      | error f =>
        exact resumes_of_forall (fun _ _ _ => hran) fun _ _ _ => ⟨hran.2.1, hran.1, fun _ => hran.2.2⟩
  · exact fun _ _ h => h

namespace Relational

open Call (Leads Keeps)

variable {calm : Prop} {entity : Entity} {settings : Settings} {t : Tables.Table}
  {columns : Columns} {ts : Tables}

/-- A statement that gives an output was run on the tables. One that fails
left them as they were. -/
theorem leads_run (statement : Sql.Statement) :
    Leads (Holds calm entity t columns ts) ((inMemory entity settings).run statement)
      (fun out s => ∃ after, Tables.Engine.apply ts statement = .ok (out, after) ∧
        Stands calm after s ∧ knownColumns entity t s = columns)
      (fun s => Holds calm entity t columns ts s ∧
        (calm → ∃ f, Tables.Engine.apply ts statement = .error f)) := by
  intro s hs
  have hran := Retry.ran_go (.ofSettings settings) (s.router.route statement.isWrite) statement
    s.timed hs.faults
  rw [hs.tables] at hran
  have hon : ((inMemory entity settings).run statement).on s =
      (fun p => (p.1, { s with timed := p.2 }))
        (Retry.go Tables.Engine.database (.ofSettings settings)
          (s.router.route statement.isWrite) statement .execute {} s.timed) := rfl
  rw [hon]
  cases hgo : Retry.go Tables.Engine.database (.ofSettings settings)
      (s.router.route statement.isWrite) statement .execute {} s.timed with
  | mk r timed =>
    rw [hgo] at hran
    cases r with
    | ok out => exact ⟨_, hran.2, ⟨rfl, hran.1⟩, hs.known⟩
    | error e => exact ⟨⟨⟨hran.2.1, hran.1⟩, hs.find, hs.known⟩, hran.2.2⟩

/-- A query leaves the tables as they are. -/
theorem apply_of_isRead {statement : Sql.Statement} {out : Output} {after : Tables}
    (hread : statement.isWrite = false)
    (h : Tables.Engine.apply ts statement = .ok (out, after)) : after = ts := by
  cases statement with
  | select q =>
    obtain ⟨rows, -, h⟩ := bind_eq_ok_iff.mp h
    cases h
    rfl
  | count q =>
    obtain ⟨n, -, h⟩ := bind_eq_ok_iff.mp h
    cases h
    rfl
  | insert i => cases hread
  | update u => cases hread
  | delete d => cases hread

theorem leads_query {statement : Sql.Statement} (hread : statement.isWrite = false) :
    Leads (Holds calm entity t columns ts) ((inMemory entity settings).run statement)
      (fun out s => Tables.Engine.apply ts statement = .ok (out, ts) ∧
        Holds calm entity t columns ts s)
      (fun s => Holds calm entity t columns ts s ∧
        (calm → ∃ f, Tables.Engine.apply ts statement = .error f)) := by
  intro s hs
  refine Leads.weaken (leads_run statement) ?_ (fun _ h => h) s hs
  rintro out next ⟨after, happly, hready, hknown⟩
  obtain rfl := apply_of_isRead hread happly
  exact ⟨happly, hready, hs.find, hknown⟩

/-! ## Searches -/

/-- A search ends in what its plan and all queries of it end in. -/
theorem ends_search_of {σ : Type} {r : Relational σ} {P : State σ → Prop}
    {F : AccessError → State σ → Prop} {c : Criteria}
    (hplan : Call.Ends P (r.plan c) (fun plan s => P s ∧
      Call.Ends P (r.run (.select plan.page)) (fun _ => P) F ∧
      Call.Ends P (r.run (.count plan.count)) (fun _ => P) F ∧
      ∀ a ∈ plan.aggregations, Call.Ends P (r.run (.select a.query)) (fun _ => P) F) F) :
    Call.Ends P (r.search c) (fun _ => P) F := by
  refine hplan.bind fun plan s ⟨hs, hpage, hcount, haggregations⟩ => ?_
  have haggregate : ∀ a ∈ plan.aggregations, Call.Ends P (r.aggregate a) (fun _ => P) F :=
    fun a ha => (haggregations a ha).bind fun _ => Call.ends_pure fun _ hs => hs
  refine (hpage.bind fun _ => hcount.bind fun _ => ?_) s hs
  exact (Call.ends_mapM haggregate).bind fun _ => Call.ends_pure fun _ hs => hs

/-- A search keeps what its queries and the look at the columns keep. -/
theorem keeps_search_of {σ : Type} {r : Relational σ} {P : State σ → Prop}
    (hcolumns : Keeps P r.columns)
    (hquery : ∀ statement : Sql.Statement, statement.isWrite = false → Keeps P (r.run statement))
    (c : Criteria) : Keeps P (r.search c) := by
  have hplan : Keeps P (r.plan c) := hcolumns.bind fun _ => Call.keeps_lift _
  exact ends_search_of (hplan.weaken
    (fun _ _ hs => ⟨hs, hquery _ rfl, hquery _ rfl, fun _ _ => hquery _ rfl⟩) fun _ hs => hs)

/-- A search leaves the tables as they are, whatever it is for. -/
theorem keeps_search (c : Criteria) :
    Keeps (Holds calm entity t columns ts) ((inMemory entity settings).search c) :=
  keeps_search_of (leads_columns.weaken (fun _ _ h => h.2) fun _ h => h.elim)
    (fun _ hread => (leads_query hread).weaken (fun _ _ h => h.2) fun _ h => h.1) c

theorem leads_plan {c : Criteria} {plan : Plan}
    (hplan : ((inMemory entity settings).scope columns).plan settings c = .ok plan) :
    Leads (Holds calm entity t columns ts) ((inMemory entity settings).plan c)
      (fun found s => found = plan ∧ Holds calm entity t columns ts s) (fun _ => False) := by
  refine leads_columns.andThen (Call.leads_lift ?_ ?_)
  · exact fun x hx s hs => ⟨Except.ok.inj (hx.symm.trans hplan), hs⟩
  · intro e he
    cases he.symm.trans hplan

theorem leads_queried {statement : Sql.Statement} {out : Output}
    (hread : statement.isWrite = false)
    (hout : Tables.Engine.apply ts statement = .ok (out, ts)) :
    Leads (Holds calm entity t columns ts) ((inMemory entity settings).run statement)
      (fun found s => found = out ∧ Holds calm entity t columns ts s) (fun _ => ¬ calm) := by
  refine (leads_query hread).weaken ?_ ?_
  · rintro found s ⟨hfound, hs⟩
    exact ⟨(Prod.mk.inj (Except.ok.inj (hfound.symm.trans hout))).1, hs⟩
  · rintro s ⟨-, hfails⟩ hcalm
    obtain ⟨f, hf⟩ := hfails hcalm
    cases hf.symm.trans hout

/-- A search without aggregations gives what its two queries give, unless it
meets a fault. -/
theorem leads_search {c : Criteria} {page count : Sql.Query} {rows : List Row} {n : Nat}
    (hplan : ((inMemory entity settings).scope columns).plan settings c = .ok ⟨page, count, []⟩)
    (hrows : Tables.select ts page = .ok rows) (hcount : Tables.count ts count = .ok n) :
    Leads (Holds calm entity t columns ts) ((inMemory entity settings).search c)
      (fun out s => out = { rows := rows.map Row.toJson, total := n } ∧
        Holds calm entity t columns ts s) (fun _ => ¬ calm) := by
  have hselect : Tables.Engine.apply ts (.select page) = .ok (.rows rows, ts) :=
    bind_eq_ok_iff.mpr ⟨rows, hrows, rfl⟩
  have hcounted : Tables.Engine.apply ts (.count count) = .ok (.counted n, ts) :=
    bind_eq_ok_iff.mpr ⟨n, hcount, rfl⟩
  refine ((leads_plan hplan).weakenError fun _ h => h.elim).andThen ?_
  refine (leads_queried rfl hselect).andThen ((leads_queried rfl hcounted).andThen ?_)
  exact Call.leads_pure fun _ hs => ⟨rfl, hs⟩

theorem Holds.routed {s : State Tables.Engine} (h : Holds calm entity t columns ts s)
    (router : Router) : Holds calm entity t columns ts { s with router := router } :=
  ⟨⟨h.tables, h.faults⟩, h.find, h.known⟩

/-- A call that runs on the primary ends in what it ends in anywhere. -/
theorem ends_onPrimary {σ α : Type} {c : Call (State σ) α} {P : State σ → Prop}
    {Q : α → State σ → Prop} {F : AccessError → State σ → Prop} (h : Call.Ends P c Q F)
    (hP : ∀ s router, P s → P { s with router := router })
    (hQ : ∀ x s router, Q x s → Q x { s with router := router })
    (hF : ∀ e s router, F e s → F e { s with router := router }) :
    Call.Ends P (onPrimary c) Q F := by
  intro s hs
  have hon : (onPrimary c).on s = (fun p => (p.1, { p.2 with router := p.2.router.release }))
    (c.on { s with router := s.router.force }) := rfl
  rw [hon]
  cases hc : c.on { s with router := s.router.force } with
  | mk r next =>
    cases r with
    | ok x => exact hQ _ _ _ (h.of_ok (hP _ _ hs) hc)
    | error e => exact hF _ _ _ (h.of_error (hP _ _ hs) hc)

/-- A call that runs on the primary leads to what it leads to anywhere. -/
theorem leads_onPrimary {α : Type} {c : Call (State Tables.Engine) α}
    {Q : α → State Tables.Engine → Prop} {E : State Tables.Engine → Prop}
    (h : Leads (Holds calm entity t columns ts) c Q E)
    (hQ : ∀ x s router, Q x s → Q x { s with router := router })
    (hE : ∀ s router, E s → E { s with router := router }) :
    Leads (Holds calm entity t columns ts) (onPrimary c) Q E :=
  ends_onPrimary h (fun _ router hs => hs.routed router) hQ fun _ => hE

/-! ## Rows that pass groups -/

/-- The records that the rows that pass are. -/
def recordsPassing (t : Tables.Table) (p : Option Sql.Predicate) : List (Fields Json) :=
  (t.rows.filter (Sql.passes p)).map fun row => (Tables.bareColumns row).toJson

section

variable {g : Filter.Group} {gs : List Filter.Group} {p : Option Sql.Predicate}

theorem plan_ofGroups (hgroups : ((inMemory entity settings).scope columns).groups gs = .ok p)
    (number : Nat) :
    ((inMemory entity settings).scope columns).plan settings (.ofPage gs [] [] ⟨number, none⟩) =
      .ok ⟨.ofPage entity.storage p [] none 0, .ofTable entity.storage p, []⟩ := by
  let scope := (inMemory entity settings).scope columns
  have hpost : scope.groups [] = .ok none := rfl
  have hsorts : scope.sorts [] = .ok [] := rfl
  have hplan : scope.plan settings (.ofPage gs [] [] ⟨number, none⟩) = .ok _ :=
    plan_ofPage hgroups hpost hsorts
  have hall : Sql.Predicate.allOf (p.toList ++ (none : Option Sql.Predicate).toList) = p := by
    cases p <;> rfl
  rw [hall] at hplan
  exact hplan

/-- A search for all records that pass some groups finds the rows that pass their
predicate. -/
theorem leads_ofGroups (hgroups : ((inMemory entity settings).scope columns).groups gs = .ok p)
    (number : Nat) :
    Leads (Holds calm entity t columns ts)
      ((inMemory entity settings).search (.ofPage gs [] [] ⟨number, none⟩))
      (fun out s => out.rows = recordsPassing t p ∧ Holds calm entity t columns ts s)
      (fun _ => ¬ calm) := by
  intro s hs
  have hselect : Tables.select ts (.ofPage entity.storage p [] none 0) = .ok _ :=
    Tables.select_ofPage hs.find none 0
  -- Without sorts all rows rank alike, so sorting leaves them in their places.
  have hranks : (t.rows.filter (Sql.passes p)).Pairwise fun a b => Tables.ranks [] a b = true :=
    List.pairwise_of_forall fun _ _ => rfl
  rw [List.mergeSort_of_pairwise hranks] at hselect
  refine (leads_search (plan_ofGroups hgroups number) hselect
    (Tables.count_ofTable hs.find)).weaken ?_ (fun _ h => h) s hs
  rintro out next ⟨rfl, hnext⟩
  exact ⟨List.map_map .., hnext⟩

theorem plan_ofGroup (hgroups : ((inMemory entity settings).scope columns).groups [g] = .ok p) :
    ((inMemory entity settings).scope columns).plan settings (.ofGroup g) =
      .ok ⟨.ofPage entity.storage p [] none 0, .ofTable entity.storage p, []⟩ :=
  plan_ofGroups hgroups 1

theorem leads_ofGroup (hgroups : ((inMemory entity settings).scope columns).groups [g] = .ok p) :
    Leads (Holds calm entity t columns ts) ((inMemory entity settings).search (.ofGroup g))
      (fun out s => out.rows = recordsPassing t p ∧ Holds calm entity t columns ts s)
      (fun _ => ¬ calm) :=
  leads_ofGroups hgroups 1

/-- A search for one group that gives an outcome could tell the predicate of
the group. -/
theorem leads_ofGroup_passing (g : Filter.Group) :
    Leads (Holds calm entity t columns ts) ((inMemory entity settings).search (.ofGroup g))
      (fun out s => (∃ p, ((inMemory entity settings).scope columns).groups [g] = .ok p ∧
        out.rows = recordsPassing t p) ∧ Holds calm entity t columns ts s)
      (fun _ => True) := by
  cases hgroups : ((inMemory entity settings).scope columns).groups [g] with
  | ok p =>
    exact (leads_ofGroup hgroups).weaken (fun _ _ h => ⟨⟨p, rfl, h.1⟩, h.2⟩) fun _ _ => trivial
  | error e =>
    have hplan : Leads (Holds calm entity t columns ts)
        ((inMemory entity settings).plan (.ofGroup g)) (fun _ _ => False) (fun _ => True) := by
      refine (leads_columns.weakenError fun _ _ => trivial).andThen
        (Call.leads_lift (fun plan hplan => ?_) fun _ _ _ _ => trivial)
      obtain ⟨_, -, hplan⟩ := bind_eq_ok_iff.mp hplan
      obtain ⟨_, -, hplan⟩ := bind_eq_ok_iff.mp hplan
      obtain ⟨_, hcommon, -⟩ := bind_eq_ok_iff.mp hplan
      obtain ⟨p, hp, -⟩ := bind_eq_ok_iff.mp hcommon
      cases hgroups.symm.trans hp
    exact hplan.bind fun _ _ h => h.elim

end

/-! ## Rows with one of several values -/

/-- The row has one of the values under a column, as statements that know
the columns ask for it. -/
def hasOneOf (columns : Columns) (field : String) (vs : List Value) (row : Row) : Bool :=
  if columns.isJson field then
    vs.any fun v => (Sql.Predicate.contains (.plain field) v).holds row
  else (Sql.Predicate.isIn (.plain field) vs).holds row

theorem hasOneOf_iff {field : String} {row : Row} {vs : List Value}
    (hscalar : columns.isJson field = false) :
    hasOneOf columns field vs row = true ↔
      ∃ w, row.get? field = some w ∧ ∃ v ∈ vs, Value.agrees w v = true := by
  have hvalue : (Sql.Column.plain field).value? row = row.get? field := rfl
  rw [hasOneOf, hscalar, if_neg Bool.false_ne_true, Sql.Predicate.holds, hvalue,
    Option.any_eq_true]
  simp only [List.any_eq_true]

theorem hasOneOf_nil {field : String} {row : Row} : hasOneOf columns field [] row = false := by
  simp [hasOneOf, Sql.Predicate.holds]

theorem resolve_name (entity : Entity) (settings : Settings) (purpose : Plan.Purpose) {f : String}
    (hname : Text.hasChar '.' f = false)
    (hknown : (columns.isEmpty || Fields.contains columns f) = true) :
    ((inMemory entity settings).scope columns).resolve purpose f = .ok (.plain f) := by
  have hcheck : ((inMemory entity settings).scope columns).checkColumn f = .ok () :=
    if_pos hknown
  rw [Plan.Scope.resolve, Text.split_of_hasChar_eq_false hname, Plan.Scope.resolveParts,
    Plan.Scope.ownColumn, hcheck]
  rfl

theorem eq_plain_of_resolve {purpose : Plan.Purpose} {f : String} {column : Sql.Column}
    (hname : Text.hasChar '.' f = false)
    (h : ((inMemory entity settings).scope columns).resolve purpose f = .ok column) :
    column = .plain f := by
  rw [Plan.Scope.resolve, Text.split_of_hasChar_eq_false hname, Plan.Scope.resolveParts] at h
  obtain ⟨_, -, h⟩ := bind_eq_ok_iff.mp h
  cases h
  rfl

theorem conditionHolds_inList {field : String} {vs : List Value} {row : Row}
    (hname : Text.hasChar '.' field = false)
    (hknown : (columns.isEmpty || Fields.contains columns field) = true) :
    ((inMemory entity settings).scope columns).ConditionHolds row (.inList field vs) ↔
      hasOneOf columns field vs row = true := by
  have hresolve := resolve_name entity settings .filter hname hknown
  have hdocument : ((inMemory entity settings).scope columns).isDocument (.plain field) =
      columns.isJson field := rfl
  rw [Filter.conditionHolds_inList_iff, hasOneOf]
  constructor
  · rintro ⟨column, hcolumn, h⟩
    rw [hresolve] at hcolumn
    cases hcolumn
    rw [hdocument] at h
    split
    · rename_i hjson
      rw [if_pos hjson] at h
      exact List.any_eq_true.mpr h
    · rename_i hjson
      rw [if_neg hjson] at h
      exact h
  · intro h
    refine ⟨_, hresolve, ?_⟩
    rw [hdocument]
    split
    · rename_i hjson
      rw [if_pos hjson] at h
      exact List.any_eq_true.mp h
    · rename_i hjson
      rw [if_neg hjson] at h
      exact h

/-- The records that the rows with one of the values are. -/
def recordsWith (columns : Columns) (t : Tables.Table) (field : String) (vs : List Value) :
    List (Fields Json) :=
  (t.rows.filter (hasOneOf columns field vs)).map fun row => (Tables.bareColumns row).toJson

theorem leads_having {field : String} {vs : List Value}
    (hname : Text.hasChar '.' field = false)
    (hknown : (columns.isEmpty || Fields.contains columns field) = true) :
    Leads (Holds calm entity t columns ts)
      ((inMemory entity settings).search (Store.having field vs))
      (fun out s => out.rows = recordsWith columns t field vs ∧ Holds calm entity t columns ts s)
      (fun _ => ¬ calm) := by
  let scope := (inMemory entity settings).scope columns
  have hcompile : scope.Compile [.all [.inList field vs]] := by
    simp only [Plan.Scope.Compile, List.forall_mem_singleton, Filter.Group.all]
    exact ⟨_, Plan.Scope.condition_eq_ok_iff.mpr
      ⟨_, resolve_name entity settings .filter hname hknown, Filter.predicate?_isIn⟩⟩
  obtain ⟨p, hgroups, -, hpasses⟩ := Plan.Scope.groups_eq_ok hcompile
  have hrows : ∀ row, Sql.passes p row = hasOneOf columns field vs row := by
    intro row
    rw [Bool.eq_iff_iff, hpasses, List.forall_mem_singleton, Filter.groupHolds_all_iff,
      List.forall_mem_singleton]
    exact conditionHolds_inList hname hknown
  have hsame : recordsPassing t p = recordsWith columns t field vs := by
    rw [recordsPassing, List.filter_congr fun row _ => hrows row]
    rfl
  rw [← hsame]
  exact leads_ofGroup hgroups

/-- Looking for records by a column finds the rows that have one of the
values there. -/
theorem leads_findWith {field : String} {vs : List Value}
    (hfield : vs ≠ [] → Text.hasChar '.' field = false ∧
      (columns.isEmpty || Fields.contains columns field) = true) :
    Leads (Holds calm entity t columns ts)
      (Store.findWith (inMemory entity settings).search field vs)
      (fun rows s => rows = recordsWith columns t field vs ∧ Holds calm entity t columns ts s)
      (fun _ => ¬ calm) := by
  unfold Store.findWith
  split
  · rename_i hempty
    obtain rfl := List.isEmpty_iff.mp hempty
    refine Call.leads_pure fun s hs => ⟨?_, hs⟩
    simp [recordsWith, hasOneOf_nil]
  · rename_i hempty
    obtain ⟨hname, hknown⟩ := hfield fun hnil => hempty (List.isEmpty_iff.mpr hnil)
    exact (leads_having hname hknown).bind fun out => Call.leads_pure fun _ h => h

end Relational

end EntityStore
