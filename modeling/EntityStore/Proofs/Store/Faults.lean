-- The errors that statements fail with, where the caller is at fault, and what an engine in
-- memory is asked for. Only a repeated key is such an error, and only a write meets one,
-- unless a fault that waits for reads says so. So a read that may be planned never fails with
-- an error of the caller, and what it finds of a refused path it finds before it asks the
-- engine. The log of the engine grows by one entry for each attempt at a statement, and a
-- search sends no statement that is a write.
import EntityStore.Proofs.Plan.Queries
import EntityStore.Proofs.Store.Writing

namespace EntityStore

/-! ## Faults that wait -/

namespace Tables.Engine

/-- No fault that waits for reads is one of a repeated key. -/
def Quiet (e : Engine) : Prop :=
  ∀ i ∈ e.faults, i.writesOnly = false → i.fault.classify ≠ .duplicateKey

/-- A fault that is met was waiting for the statement, and all faults that are
left were waiting before. -/
theorem takeFault?_eq_some {s : Sql.Statement} {faults left : List Injected} {f : TableFault}
    (h : takeFault? s faults = some (f, left)) :
    (∃ i ∈ faults, i.appliesTo s = true ∧ i.fault = f) ∧
      ∀ j ∈ left, ∃ i ∈ faults, i.writesOnly = j.writesOnly ∧ i.fault = j.fault := by
  induction faults generalizing left with
  | nil => cases h
  | cons i rest ih =>
    rw [takeFault?] at h
    split at h
    · rename_i happlies
      cases h
      refine ⟨⟨i, List.mem_cons_self, happlies, rfl⟩, fun j hj => ?_⟩
      rcases List.mem_append.mp hj with hmet | hrest
      · refine ⟨i, List.mem_cons_self, ?_⟩
        unfold Injected.met at hmet
        split at hmet
        · rw [List.mem_singleton.mp hmet]
          exact ⟨rfl, rfl⟩
        · split at hmet
          · cases hmet
          · rw [List.mem_singleton.mp hmet]
            exact ⟨rfl, rfl⟩
      · exact ⟨j, List.mem_cons_of_mem i hrest, rfl, rfl⟩
    · obtain ⟨⟨met, others⟩, hothers, heq⟩ := Option.map_eq_some_iff.mp h
      cases heq
      obtain ⟨⟨k, hk, hmet⟩, hleft⟩ := ih hothers
      refine ⟨⟨k, List.mem_cons_of_mem i hk, hmet⟩, fun j hj => ?_⟩
      rcases List.mem_cons.mp hj with rfl | hj
      · exact ⟨j, List.mem_cons_self, rfl, rfl⟩
      · obtain ⟨k, hk, hsame⟩ := hleft j hj
        exact ⟨k, List.mem_cons_of_mem i hk, hsame⟩

theorem Quiet.execute {e : Engine} (h : e.Quiet) (role : Role) (s : Sql.Statement) :
    (Engine.execute role s e).2.Quiet := by
  unfold Engine.execute run
  cases htake : takeFault? s e.faults with
  | some met =>
    obtain ⟨f, left⟩ := met
    intro j hj hreads
    obtain ⟨i, hi, hwrites, hfault⟩ := (takeFault?_eq_some htake).2 j hj
    rw [← hfault]
    exact h i hi (hwrites.trans hreads)
  | none =>
    dsimp only
    cases happly : apply e.tables s with
    | ok p => exact h
    | error f => exact h

/-- A read whose answer is there fails only for a fault that waits. -/
theorem Quiet.classify_ne {e next : Engine} (h : e.Quiet) {role : Role} {s : Sql.Statement}
    {f : TableFault} {out : Output} {ts : Tables} (hread : s.isWrite = false)
    (happly : apply e.tables s = .ok (out, ts)) (hfault : Engine.execute role s e = (.error f, next)) :
    f.classify ≠ .duplicateKey := by
  unfold Engine.execute run at hfault
  cases htake : takeFault? s e.faults with
  | some met =>
    rw [htake] at hfault
    cases hfault
    obtain ⟨⟨i, hi, happlies, hmet⟩, -⟩ := takeFault?_eq_some htake
    rw [← hmet]
    refine h i hi ?_
    simpa [Injected.appliesTo, hread] using happlies
  | none =>
    rw [htake] at hfault
    dsimp only at hfault
    rw [happly] at hfault
    cases hfault

end Tables.Engine

/-! ## Errors of statements -/

namespace Retry

variable {p : Policy} {a b : Attempts} {table : String} {f : TableFault} {e : AccessError}

/-- A fault ends in an error of the caller only where it is one of a repeated
key. -/
theorem Policy.fail_of_after (h : p.after a table f = (b, .fail e)) (he : e.isValidation = true) :
    f.classify = .duplicateKey ∧ e = .duplicateKey table f.message := by
  unfold Policy.after at h
  cases hc : f.classify with
  | duplicateKey =>
    rw [hc] at h
    cases h
    exact ⟨rfl, rfl⟩
  | connectionLost =>
    rw [hc] at h
    dsimp only at h
    split at h
    · cases h
      cases he
    · split at h <;> cases h
      cases he
  | deadlock =>
    rw [hc] at h
    dsimp only at h
    split at h
    · cases h
      cases he
    · split at h <;> cases h
      cases he
  | fatal =>
    rw [hc] at h
    cases h
    cases he

/-- A statement that fails with an error of the caller has met a repeated
key. -/
theorem error_of_run {σ : Type} (db : Database σ) (p : Policy) (role : Role) (s : Sql.Statement)
    (t : Timed σ) (he : (run db p role s t).1 = .error e) (hcaller : e.isValidation = true) :
    ∃ message, e = .duplicateKey s.table message := by
  refine run_induction (I := fun _ _ _ => True) (Q := fun r _ => r = .error e →
    ∃ message, e = .duplicateKey s.table message) ?_ ?_ ?_ trivial he
  · rintro a t - - ⟨⟩
    cases hcaller
  · intro a t _ _
    split
    · rintro ⟨⟩
    · refine resumes_of_forall (fun b e' hafter heq => ?_) fun _ _ _ => trivial
      cases heq
      exact ⟨_, (Policy.fail_of_after hafter hcaller).2⟩
  · intro a t _
    split
    · trivial
    · refine resumes_of_forall (fun b e' hafter heq => ?_) fun _ _ _ => trivial
      cases heq
      exact ⟨_, (Policy.fail_of_after hafter hcaller).2⟩

/-- Reads of a quiet engine keep it quiet, and do not fail with an error of the
caller where their answer is there. -/
theorem quiet_of_run {ts : Tables} (p : Policy) (role : Role) (s : Sql.Statement)
    {t : Timed Tables.Engine} (htables : t.state.tables = ts) (h : t.state.Quiet) :
    (run Tables.Engine.database p role s t).2.state.Quiet ∧
      (s.isWrite = false → ∀ out, Tables.Engine.apply ts s = .ok (out, ts) →
        ∀ e, (run Tables.Engine.database p role s t).1 = .error e → e.isValidation = false) := by
  refine run_induction
    (I := fun _ _ (t : Timed Tables.Engine) => t.state.tables = ts ∧ t.state.Quiet)
    (Q := fun r (t : Timed Tables.Engine) => t.state.Quiet ∧ (s.isWrite = false → ∀ out,
      Tables.Engine.apply ts s = .ok (out, ts) → ∀ e, r = .error e → e.isValidation = false))
    ?_ ?_ ?_ ⟨htables, h⟩
  · rintro a t ⟨-, hquiet⟩ -
    refine ⟨hquiet, ?_⟩
    rintro - - - e ⟨⟩
    rfl
  · rintro a t ⟨htables, hquiet⟩ -
    cases hexecute : Tables.Engine.database.execute role s t.state with
    | mk r next =>
      have hnext : next.Quiet := by
        have hkept := hquiet.execute role s
        rw [show Tables.Engine.execute role s t.state = (r, next) from hexecute] at hkept
        exact hkept
      cases r with
      | ok out => exact ⟨hnext, fun _ _ _ e he => by cases he⟩
      | error f =>
        have hran := Tables.Engine.ran_execute
          (False.elim : False → t.state.faults = []) hexecute
        refine resumes_of_forall (fun b e hafter => ⟨hnext, fun hread out happly e' he' => ?_⟩)
          fun _ _ _ => ⟨hran.2.1.trans htables, hnext⟩
        cases he'
        by_contra hcaller
        have hkey := (Policy.fail_of_after hafter (by simpa using hcaller)).1
        rw [← htables] at happly
        exact hquiet.classify_ne hread happly hexecute hkey
  · exact fun _ _ h => h

end Retry

/-! ## Known columns -/

/-- A look at the columns of a table goes to the database at most once. -/
theorem SchemaCache.fetch_state {σ ε : Type} (c : SchemaCache) (k : TableKey)
    (load : σ → Except ε Columns × σ) (s : σ) :
    (c.fetch k load s).2.2 = s ∨ (c.fetch k load s).2.2 = (load s).2 := by
  unfold fetch
  cases c.get? k with
  | mk found cache =>
    cases found with
    | some columns => exact .inl rfl
    | none =>
      dsimp only
      cases hload : load s with
      | mk r t =>
        cases r with
        | ok columns => exact .inr rfl
        | error e => exact .inr rfl

namespace Relational

open Call (Ends Leads Keeps)

variable {entity : Entity} {settings : Settings} {t : Tables.Table} {columns : Columns}
  {ts : Tables} {field : String} {e : AccessError}

/-- A look at the columns keeps what a description of the table keeps. -/
theorem keeps_columns_of {P : Tables.Engine → Prop}
    (hdescribe : ∀ e, P e → P { e with describes := e.describes + 1 }) :
    Keeps (fun s => P s.timed.state) (inMemory entity settings).columns := by
  have hdescribed : ∀ u : Retry.Timed Tables.Engine, P u.state →
      P ((inMemory entity settings).describe u).2.state := by
    intro u hu
    unfold describe
    split <;> rename_i hcall <;> obtain ⟨-, rfl⟩ := Prod.mk.inj hcall <;> exact hdescribe _ hu
  intro s hs
  have hstate := s.cache.fetch_state ⟨Tables.Engine.database.connection, entity.storage⟩
    (inMemory entity settings).describe s.timed
  have hon : ((inMemory entity settings).columns.on s).2.timed =
      (s.cache.fetch ⟨Tables.Engine.database.connection, entity.storage⟩
        (inMemory entity settings).describe s.timed).2.2 := rfl
  have hkept : P ((inMemory entity settings).columns.on s).2.timed.state := by
    rw [hon]
    rcases hstate with hsame | hasked
    · rw [hsame]
      exact hs
    · rw [hasked]
      exact hdescribed s.timed hs
  cases hcall : (inMemory entity settings).columns.on s with
  | mk r next =>
    rw [hcall] at hkept
    cases r with
    | ok found => exact hkept
    | error e => exact hkept

theorem keeps_quiet_columns :
    Keeps (fun s => s.timed.state.Quiet) (inMemory entity settings).columns :=
  keeps_columns_of fun _ h => h

/-! ## Statements -/

/-- As `Holds`, and no fault that waits for reads is one of a repeated key. -/
structure Watched (entity : Entity) (t : Tables.Table) (columns : Columns) (ts : Tables)
    (s : State Tables.Engine) : Prop extends Holds False entity t columns ts s where
  quiet : s.timed.state.Quiet

theorem Watched.routed {s : State Tables.Engine} (h : Watched entity t columns ts s)
    (router : Router) : Watched entity t columns ts { s with router := router } :=
  ⟨h.toHolds.routed router, h.quiet⟩

theorem ends_columns : Ends (Watched entity t columns ts) (inMemory entity settings).columns
    (fun found s => found = columns ∧ Watched entity t columns ts s) (fun _ _ => False) := by
  intro s hs
  exact (Ends.and leads_columns keeps_quiet_columns).weaken
    (fun _ _ h => ⟨h.1.1, h.1.2, h.2⟩) (fun _ _ h => h.1) s ⟨hs.toHolds, hs.quiet⟩

/-- A statement that fails leaves the tables as they were. -/
theorem ends_run (statement : Sql.Statement) :
    Ends (Watched entity t columns ts) ((inMemory entity settings).run statement)
      (fun out s => ∃ after, Tables.Engine.apply ts statement = .ok (out, after) ∧
        Stands False after s ∧ knownColumns entity t s = columns ∧ s.timed.state.Quiet)
      (fun e s => Watched entity t columns ts s ∧
        (e.isValidation = true → ∃ message, e = .duplicateKey statement.table message) ∧
        (statement.isWrite = false → ∀ out,
          Tables.Engine.apply ts statement = .ok (out, ts) → e.isValidation = false)) := by
  intro s hs
  have hlead := @leads_run False entity settings t columns ts statement s hs.toHolds
  have hquiet := Retry.quiet_of_run (.ofSettings settings) (s.router.route statement.isWrite)
    statement hs.tables hs.quiet
  have hcaller := fun e => Retry.error_of_run (e := e) Tables.Engine.database
    (.ofSettings settings) (s.router.route statement.isWrite) statement s.timed
  have hon : ((inMemory entity settings).run statement).on s =
      (fun p => (p.1, { s with timed := p.2 }))
        (Retry.run Tables.Engine.database (.ofSettings settings)
          (s.router.route statement.isWrite) statement s.timed) := rfl
  rw [hon] at hlead ⊢
  cases hrun : Retry.run Tables.Engine.database (.ofSettings settings)
      (s.router.route statement.isWrite) statement s.timed with
  | mk r timed =>
    rw [hrun] at hlead hquiet hcaller
    cases r with
    | ok out =>
      obtain ⟨after, happly, hstands, hknown⟩ := hlead
      exact ⟨after, happly, hstands, hknown, hquiet.1⟩
    | error e =>
      exact ⟨⟨hlead.1, hquiet.1⟩, fun he => hcaller e rfl he,
        fun hread out happly => hquiet.2 hread out happly e rfl⟩

theorem ends_query {statement : Sql.Statement} {out : Output} (hread : statement.isWrite = false)
    (happly : Tables.Engine.apply ts statement = .ok (out, ts)) :
    Ends (Watched entity t columns ts) ((inMemory entity settings).run statement)
      (fun _ => Watched entity t columns ts)
      (fun e s => Watched entity t columns ts s ∧ e.isValidation = false) := by
  intro s hs
  refine (ends_run statement).weaken ?_ (fun e s h => ⟨h.1, h.2.2 hread out happly⟩) s hs
  rintro found next ⟨after, hfound, hstands, hknown, hquiet⟩
  obtain rfl := apply_of_isRead hread hfound
  exact ⟨⟨hstands, hs.find, hknown⟩, hquiet⟩

end Relational

end EntityStore

namespace EntityStore

/-! ## Statements in a log -/

namespace Tables.Engine

variable {log : List LogEntry} {e : Engine} {s : Sql.Statement}

theorem log_run (e : Engine) (s : Sql.Statement) : (e.run s).2.log = e.log := by
  unfold run
  split
  · rfl
  · split <;> rfl

theorem kind_of_isRead (h : s.isWrite = false) : s.kind = "select" ∨ s.kind = "count" := by
  cases s with
  | select q => exact .inl rfl
  | count q => exact .inr rfl
  | insert i => cases h
  | update u => cases h
  | delete d => cases h

/-- Since its log was this one the engine was asked for reads alone. -/
def ReadSince (log : List LogEntry) (e : Engine) : Prop :=
  ∃ reads, e.log = log ++ reads ∧ ∀ r ∈ reads, r.kind = "select" ∨ r.kind = "count"

theorem readSince_self (e : Engine) : ReadSince e.log e :=
  ⟨[], (List.append_nil _).symm, List.forall_mem_nil _⟩

theorem ReadSince.execute (h : ReadSince log e) (hread : s.isWrite = false) (role : Role) :
    ReadSince log (Engine.execute role s e).2 := by
  obtain ⟨reads, hlog, hreads⟩ := h
  obtain ⟨failed, hnoted⟩ : ∃ failed, (Engine.execute role s e).2.log =
      e.log ++ [⟨role, s.kind, s.table, failed⟩] := by
    rw [← log_run e s]
    exact ⟨_, rfl⟩
  refine ⟨reads ++ [⟨role, s.kind, s.table, failed⟩], ?_, ?_⟩
  · rw [hnoted, hlog, List.append_assoc]
  · rw [List.forall_mem_append, List.forall_mem_singleton]
    exact ⟨hreads, kind_of_isRead hread⟩

end Tables.Engine

-- Each attempt at a statement is noted, and opening a connection is not.
theorem Retry.readSince_of_run {log : List Tables.LogEntry} {s : Sql.Statement}
    {t : Timed Tables.Engine} (p : Policy) (role : Role) (hread : s.isWrite = false)
    (h : t.state.ReadSince log) :
    (run Tables.Engine.database p role s t).2.state.ReadSince log := by
  refine run_induction (I := fun _ _ (t : Timed Tables.Engine) => t.state.ReadSince log)
    (Q := fun _ (t : Timed Tables.Engine) => t.state.ReadSince log) (fun _ _ h _ => h) ?_
    (fun _ _ h => h) h
  intro a t ht _
  have hnext := ht.execute hread role
  split <;> rename_i hexecute <;> rw [show Tables.Engine.execute role s t.state = _ from hexecute]
    at hnext
  · exact hnext
  · exact resumes_of_forall (fun _ _ _ => hnext) fun _ _ _ => hnext

namespace Relational

open Call (Keeps)

variable {entity : Entity} {settings : Settings} {log : List Tables.LogEntry}

theorem keeps_readSince_run {statement : Sql.Statement} (hread : statement.isWrite = false) :
    Keeps (fun s => s.timed.state.ReadSince log) ((inMemory entity settings).run statement) := by
  intro s hs
  have hrun := Retry.readSince_of_run (.ofSettings settings) (s.router.route statement.isWrite)
    hread hs
  have hon : ((inMemory entity settings).run statement).on s =
      (fun p => (p.1, { s with timed := p.2 }))
        (Retry.run Tables.Engine.database (.ofSettings settings)
          (s.router.route statement.isWrite) statement s.timed) := rfl
  rw [hon]
  split <;> rename_i hcall <;> obtain ⟨-, rfl⟩ := Prod.mk.inj hcall <;> exact hrun

/-- A search asks the engine for reads alone. -/
theorem keeps_readSince_search (c : Criteria) :
    Keeps (fun s => s.timed.state.ReadSince log) ((inMemory entity settings).search c) :=
  keeps_search_of (keeps_columns_of fun _ h => h) (fun _ hread => keeps_readSince_run hread) c

end Relational

end EntityStore
