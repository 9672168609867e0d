-- What a store asks its database for, one statement after the other. A trace notes each
-- statement that the database executes, with its connection, and where a call of the store
-- begins. All calls and batches give what they give without the trace.
import EntityStore.Batch.Write
import EntityStore.Proofs.Calls
import EntityStore.Proofs.Database.Retry
import EntityStore.Store.Relational

namespace EntityStore

/-! ## Calls that mirror others -/

namespace Call

variable {σ τ α β : Type} {view : τ → σ}

/-- On a state that stands for another one the call gives what the other call
gives there. -/
def Mirrors (view : τ → σ) (c : Call τ α) (d : Call σ α) : Prop :=
  ∀ t, d.on (view t) = ((c.on t).1, view (c.on t).2)

theorem mirrors_lift (r : Except AccessError α) : Mirrors view (lift r) (lift r) := fun _ => rfl

theorem mirrors_pure (x : α) : Mirrors view (pure x) (pure x) := fun _ => rfl

theorem mirrors_throw (e : AccessError) : Mirrors view (throw e : Call τ α) (throw e) := fun _ => rfl

theorem Mirrors.bind {c : Call τ α} {d : Call σ α} {f : α → Call τ β} {g : α → Call σ β}
    (h : Mirrors view c d) (hf : ∀ x, Mirrors view (f x) (g x)) :
    Mirrors view (c >>= f) (d >>= g) := by
  intro t
  have hd := h t
  cases hc : c.on t with
  | mk r u =>
    rw [hc] at hd
    cases r with
    | ok x => rw [on_bind hc, on_bind hd, hf x u]
    | error e => rw [on_bind_error hc, on_bind_error hd]

theorem mirrors_mapM {f : α → Call τ β} {g : α → Call σ β} (h : ∀ x, Mirrors view (f x) (g x))
    (xs : List α) : Mirrors view (xs.mapM f) (xs.mapM g) := by
  induction xs with
  | nil => exact mirrors_pure []
  | cons x xs ih =>
    rw [List.mapM_cons, List.mapM_cons]
    exact (h x).bind fun _ => ih.bind fun _ => mirrors_pure _

theorem mirrors_forM {f : α → Call τ PUnit} {g : α → Call σ PUnit}
    (h : ∀ x, Mirrors view (f x) (g x)) (xs : List α) :
    Mirrors view (xs.forM f) (xs.forM g) := by
  induction xs with
  | nil => exact mirrors_pure _
  | cons x xs ih => exact (h x).bind fun _ => ih

end Call

/-- A look at the columns of a table gives what it gives where the loader
mirrors another one. -/
theorem SchemaCache.fetch_view {σ τ ε : Type} {view : τ → σ} (load : σ → Except ε Columns × σ)
    (mirror : τ → Except ε Columns × τ) (h : ∀ t, load (view t) = ((mirror t).1, view (mirror t).2))
    (c : SchemaCache) (k : TableKey) (t : τ) : c.fetch k load (view t) =
      ((c.fetch k mirror t).1, (c.fetch k mirror t).2.1, view (c.fetch k mirror t).2.2) := by
  unfold fetch
  cases c.get? k with
  | mk found cache =>
    cases found with
    | some columns => rfl
    | none =>
      dsimp only
      rw [h]
      cases mirror t with
      | mk r u => cases r <;> rfl

/-! ## Stores that mirror others -/

/-- Each call of the store mirrors that of the other store. -/
structure Store.Mirrors {σ τ : Type} (view : τ → σ) (st : Store τ) (plain : Store σ) : Prop where
  entity : st.entity = plain.entity
  search : ∀ c, Call.Mirrors view (st.search c) (plain.search c)
  insert : ∀ docs, Call.Mirrors view (st.insert docs) (plain.insert docs)
  upsert : ∀ docs field updated,
    Call.Mirrors view (st.upsert docs field updated) (plain.upsert docs field updated)
  update : ∀ changes, Call.Mirrors view (st.update changes) (plain.update changes)
  delete : ∀ groups, Call.Mirrors view (st.delete groups) (plain.delete groups)

section

open Call (Mirrors mirrors_lift mirrors_pure mirrors_throw)

variable {σ τ : Type} {view : τ → σ} {st : Store τ} {plain : Store σ}

theorem Store.mirrors_findWith {search : Criteria → Call τ Outcome}
    {other : Criteria → Call σ Outcome} (h : ∀ c, Call.Mirrors view (search c) (other c))
    (field : String) (vs : List Value) :
    Call.Mirrors view (findWith search field vs) (findWith other field vs) := by
  unfold findWith
  split
  · exact mirrors_pure _
  · exact (h _).bind fun _ => mirrors_pure _

namespace Batch

variable (b : Batch)

theorem mirrors_checkUnlessDirect (h : st.Mirrors view plain) (field : String)
    (docs : List (Fields Json)) :
    Mirrors view (b.checkUnlessDirect st field docs) (b.checkUnlessDirect plain field docs) := by
  unfold checkUnlessDirect checkUnique
  rw [h.entity]
  dsimp only
  split
  · exact mirrors_pure ()
  · split
    · exact mirrors_pure ()
    · split
      · refine (mirrors_pure _).bind fun candidates => ?_
        split
        · exact mirrors_throw _
        · exact mirrors_pure ()
      · refine (h.search _).bind fun out => (mirrors_pure out.rows).bind fun candidates => ?_
        split
        · exact mirrors_throw _
        · exact mirrors_pure ()

theorem mirrors_create (h : st.Mirrors view plain) :
    Mirrors view (b.create st) (b.create plain) := by
  unfold create
  rw [h.entity]
  exact (mirrors_lift _).bind fun _ => (mirrors_lift _).bind fun _ =>
    (mirrors_checkUnlessDirect b h _ _).bind fun _ => (h.insert _).bind fun _ => mirrors_pure _

theorem mirrors_update (h : st.Mirrors view plain) :
    Mirrors view (b.update st) (b.update plain) := by
  have hwrite : ∀ changed : List Change, Mirrors view
      (do
        b.checkUnlessDirect st plain.entity.idField (changed.map (·.record.fields))
        return reconcile plain.entity (changed.map (·.record.fields))
          (← st.update (changed.map fun c => (c.id, c.delta))))
      (do
        b.checkUnlessDirect plain plain.entity.idField (changed.map (·.record.fields))
        return reconcile plain.entity (changed.map (·.record.fields))
          (← plain.update (changed.map fun c => (c.id, c.delta)))) := fun changed =>
    (mirrors_checkUnlessDirect b h _ _).bind fun _ => (h.update _).bind fun _ => mirrors_pure _
  unfold update
  rw [h.entity]
  refine (mirrors_lift _).bind fun _ => (mirrors_lift _).bind fun ids =>
    (Store.mirrors_findWith h.search _ ids).bind fun rows => (mirrors_lift _).bind fun _ => ?_
  dsimp only
  split
  · exact (mirrors_throw _).bind fun _ => hwrite _
  · exact hwrite _

theorem mirrors_upsert (h : st.Mirrors view plain) :
    Mirrors view (b.upsert st) (b.upsert plain) := by
  unfold upsert
  rw [h.entity]
  exact (mirrors_lift _).bind fun _ => (mirrors_lift _).bind fun keys =>
    (Store.mirrors_findWith h.search _ keys).bind fun _ =>
      (mirrors_checkUnlessDirect b h _ _).bind fun _ => (h.upsert _ _ _).bind fun _ =>
        mirrors_pure _

end Batch

end

/-! ## Work -/

/-- What a store is asked for: a call of its own, or a batch. -/
inductive Work : Type → Type where
  | search (c : Criteria) : Work Outcome
  | insert (docs : List (Fields Json)) : Work WriteReport
  | upsert (docs : List (Fields Json)) (field : String) (updated : List String) : Work WriteReport
  | update (changes : List (Value × Fields Json)) : Work WriteReport
  | delete (groups : List Filter.Group) : Work Nat
  | createBatch (b : Batch) : Work (List Record)
  | updateBatch (b : Batch) : Work (List Record)
  | upsertBatch (b : Batch) : Work (List Record)

/-- The work as a call of a store. -/
def Work.on {σ : Type} (st : Store σ) : {α : Type} → Work α → Call σ α
  | _, .search c => st.search c
  | _, .insert docs => st.insert docs
  | _, .upsert docs field updated => st.upsert docs field updated
  | _, .update changes => st.update changes
  | _, .delete groups => st.delete groups
  | _, .createBatch b => b.create st
  | _, .updateBatch b => b.update st
  | _, .upsertBatch b => b.upsert st

theorem Store.Mirrors.work {σ τ α : Type} {view : τ → σ} {st : Store τ} {plain : Store σ}
    (h : st.Mirrors view plain) (w : Work α) : Call.Mirrors view (w.on st) (w.on plain) := by
  cases w with
  | search c => exact h.search c
  | insert docs => exact h.insert docs
  | upsert docs field updated => exact h.upsert docs field updated
  | update changes => exact h.update changes
  | delete groups => exact h.delete groups
  | createBatch b => exact b.mirrors_create h
  | updateBatch b => exact b.mirrors_update h
  | upsertBatch b => exact b.mirrors_upsert h

/-! ## Notes -/

/-- What is noted of a store at work. -/
inductive Note where
  /-- A call of the store begins. -/
  | call
  | executed (role : Role) (s : Sql.Statement)

/-- The database with a trace of the statements that it executes. -/
def Database.traced {σ : Type} (db : Database σ) : Database (σ × List Note) where
  connection := db.connection
  execute role s t :=
    let (r, state) := db.execute role s t.1
    (r, state, t.2 ++ [.executed role s])
  reconnect role t :=
    let (r, state) := db.reconnect role t.1
    (r, state, t.2)
  describe table t :=
    let (r, state) := db.describe table t.1
    (r, state, t.2)

/-! ## Statements -/

namespace Retry

variable {σ : Type} {db : Database σ} {p : Policy} {role : Role} {s : Sql.Statement}

/-- The state without the trace. -/
def Timed.untraced (t : Timed (σ × List Note)) : Timed σ := ⟨t.state.1, t.waits⟩

theorem untraced_of_resume {whole : Except AccessError Output × Timed σ} {a : Attempts}
    {f : TableFault} {t : Timed (σ × List Note)}
    (h : resume db p role s a f t.untraced = whole) :
    Resumes p s.table (fun phase a t => go db p role s phase a t.untraced = whole)
      (fun r t => (r, t.untraced) = whole) a f t := by
  unfold Resumes
  unfold resume at h
  cases hafter : p.after a s.table f with
  | mk b next =>
    rw [hafter] at h
    cases next <;> exact h

/-- The trace changes nothing of a run. -/
theorem run_untraced (db : Database σ) (p : Policy) (role : Role) (s : Sql.Statement)
    (t : Timed (σ × List Note)) : run db p role s t.untraced =
      ((run db.traced p role s t).1, (run db.traced p role s t).2.untraced) := by
  refine (run_induction
    (I := fun phase a u => go db p role s phase a u.untraced = run db p role s t.untraced)
    (Q := fun r u => (r, u.untraced) = run db p role s t.untraced) ?_ ?_ ?_ rfl).symm
  · intro a u h hspent
    rw [go_execute, if_pos hspent] at h
    exact h
  · intro a u h hroom
    rw [go_execute, if_neg hroom] at h
    have hcall : db.traced.execute role s u.state = ((db.execute role s u.state.1).1,
      (db.execute role s u.state.1).2, u.state.2 ++ [.executed role s]) := rfl
    rw [hcall]
    cases hr : db.execute role s u.state.1 with
    | mk r state =>
      have hplain : db.execute role s u.untraced.state = (r, state) := hr
      rw [hplain] at h
      cases r with
      | ok out => exact h
      | error f => exact untraced_of_resume h
  · intro a u h
    rw [go_reconnect] at h
    have hcall : db.traced.reconnect role u.state = ((db.reconnect role u.state.1).1,
      (db.reconnect role u.state.1).2, u.state.2) := rfl
    rw [hcall]
    cases hr : db.reconnect role u.state.1 with
    | mk r state =>
      have hplain : db.reconnect role u.untraced.state = (r, state) := hr
      rw [hplain] at h
      cases r with
      | ok _ => exact h
      | error f => exact untraced_of_resume h

end Retry

namespace Relational

variable {σ : Type}

/-! ## States -/

namespace State

/-- The state with an empty trace. -/
def traced (s : State σ) : State (σ × List Note) :=
  ⟨⟨(s.timed.state, []), s.timed.waits⟩, s.cache, s.router⟩

/-- The state without the trace. -/
def untraced (s : State (σ × List Note)) : State σ := ⟨s.timed.untraced, s.cache, s.router⟩

def trace (s : State (σ × List Note)) : List Note := s.timed.state.2

/-- The state with a note that a call of the store begins. -/
def called (s : State (σ × List Note)) : State (σ × List Note) :=
  { s with timed := { s.timed with state := (s.timed.state.1, s.trace ++ [.call]) } }

end State

/-! ## Calls -/

/-- The entity in a database with a trace. -/
def traced (r : Relational σ) : Relational (σ × List Note) where
  entity := r.entity
  settings := r.settings
  database := r.database.traced

/-- A call that notes where it begins. -/
def noting {α : Type} (c : Call (State (σ × List Note)) α) : Call (State (σ × List Note)) α :=
  Call.mk fun s => c.on s.called

/-- The store with a trace of its calls and of their statements. -/
def tracedStore (r : Relational σ) : Store (State (σ × List Note)) where
  entity := r.entity
  settings := r.settings
  search c := noting (r.traced.search c)
  insert docs := noting (r.traced.insert docs)
  upsert docs field updated := noting (r.traced.upsert docs field updated)
  update changes := noting (r.traced.update changes)
  delete groups := noting (r.traced.delete groups)

section

open Call (Mirrors mirrors_lift mirrors_pure mirrors_mapM mirrors_forM)

variable (r : Relational σ) {α : Type}

theorem describe_untraced (t : Retry.Timed (σ × List Note)) :
    r.describe t.untraced = ((r.traced.describe t).1, (r.traced.describe t).2.untraced) := by
  have hcall : r.traced.database.describe r.entity.storage t.state =
      ((r.database.describe r.entity.storage t.state.1).1,
        (r.database.describe r.entity.storage t.state.1).2, t.state.2) := rfl
  have hentity : r.traced.entity = r.entity := rfl
  have hstate : t.untraced.state = t.state.1 := rfl
  unfold describe
  rw [hentity, hcall, hstate]
  cases r.database.describe r.entity.storage t.state.1 with
  | mk found state => cases found <;> rfl

theorem mirrors_columns : Mirrors State.untraced r.traced.columns r.columns := by
  intro t
  have hfetch := SchemaCache.fetch_view r.describe r.traced.describe r.describe_untraced t.cache
    ⟨r.database.connection, r.entity.storage⟩ t.timed
  exact congrArg (fun x => (x.1.map fun columns => Fields.extend columns r.entity.columns,
    (⟨x.2.2, x.2.1, t.router⟩ : State σ))) hfetch

theorem mirrors_run (s : Sql.Statement) : Mirrors State.untraced (r.traced.run s) (r.run s) := by
  intro t
  have hrun := Retry.run_untraced r.database (.ofSettings r.settings) (t.router.route s.isWrite) s
    t.timed
  exact congrArg (fun x => (x.1, (⟨x.2, t.cache, t.router⟩ : State σ))) hrun

omit r in
theorem mirrors_onPrimary {c : Call (State (σ × List Note)) α} {d : Call (State σ) α}
    (h : Mirrors State.untraced c d) : Mirrors State.untraced (onPrimary c) (onPrimary d) := by
  intro t
  have hforced := h { t with router := t.router.force }
  exact congrArg (fun x => (x.1, ({ x.2 with router := x.2.router.release } : State σ))) hforced

theorem mirrors_search (c : Criteria) :
    Mirrors State.untraced (r.traced.search c) (r.search c) := by
  have hplan : Mirrors State.untraced (r.traced.plan c) (r.plan c) :=
    r.mirrors_columns.bind fun _ => mirrors_lift _
  have haggregate : ∀ q, Mirrors State.untraced (r.traced.aggregate q) (r.aggregate q) :=
    fun q => (r.mirrors_run _).bind fun _ => mirrors_pure _
  exact hplan.bind fun plan => (r.mirrors_run _).bind fun _ => (r.mirrors_run _).bind fun _ =>
    (mirrors_mapM haggregate plan.aggregations).bind fun _ => mirrors_pure _

theorem mirrors_confirm (field : String) (docs : List (Fields Json)) :
    Mirrors State.untraced (r.traced.confirm field docs) (r.confirm field docs) :=
  (mirrors_onPrimary (Store.mirrors_findWith r.mirrors_search field _)).bind fun _ =>
    mirrors_pure _

theorem mirrors_insert (docs : List (Fields Json)) :
    Mirrors State.untraced (r.traced.insert docs) (r.insert docs) :=
  r.mirrors_columns.bind fun _ => (mirrors_lift _).bind fun _ => (r.mirrors_run _).bind fun _ =>
    r.mirrors_confirm _ docs

theorem mirrors_upsert (docs : List (Fields Json)) (field : String) (updated : List String) :
    Mirrors State.untraced (r.traced.upsert docs field updated) (r.upsert docs field updated) :=
  r.mirrors_columns.bind fun _ => (mirrors_lift _).bind fun _ => (r.mirrors_run _).bind fun _ =>
    r.mirrors_confirm field docs

theorem mirrors_update (changes : List (Value × Fields Json)) :
    Mirrors State.untraced (r.traced.update changes) (r.update changes) :=
  r.mirrors_columns.bind fun _ => (mirrors_lift _).bind fun statements =>
    (mirrors_forM (fun _ => (r.mirrors_run _).bind fun _ => mirrors_pure _) statements).bind
      fun _ => r.mirrors_confirm _ _

theorem mirrors_delete (groups : List Filter.Group) :
    Mirrors State.untraced (r.traced.delete groups) (r.delete groups) :=
  r.mirrors_columns.bind fun _ => (mirrors_lift _).bind fun _ => (r.mirrors_run _).bind fun _ =>
    mirrors_pure _

end

/-- The trace changes nothing of what the calls of the store give. -/
theorem mirrors_tracedStore (r : Relational σ) :
    r.tracedStore.Mirrors State.untraced r.store where
  entity := rfl
  search c t := r.mirrors_search c t.called
  insert docs t := r.mirrors_insert docs t.called
  upsert docs field updated t := r.mirrors_upsert docs field updated t.called
  update changes t := r.mirrors_update changes t.called
  delete groups t := r.mirrors_delete groups t.called

end Relational

end EntityStore
