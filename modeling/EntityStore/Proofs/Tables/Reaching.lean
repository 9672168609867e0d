-- What an engine can become, whatever is asked of it from its start. Each row of
-- each of its tables has the columns of the table and no others, and a statement
-- that fails leaves all tables as they were.
import EntityStore.Proofs.Tables.InPlace
import EntityStore.Proofs.Tables.Steps

namespace EntityStore

namespace Tables

/-! ## What is asked of an engine -/

/-- Something that is asked of an engine. -/
inductive Action where
  | create (name primaryKey : String) (columns : Columns) (uniqueKeys : List Key)
  | seed (table : String) (docs : List Json)
  | execute (role : Role) (statement : Sql.Statement)
  | inject (fault : Injected)
  | clearFaults
  | reconnect (role : Role)
  | describe (table : String)

/-- The engine after the action, whether it succeeds or not. -/
def Action.run (e : Engine) : Action → Engine
  | .create name primaryKey columns uniqueKeys =>
    e.create (.make name primaryKey columns uniqueKeys)
  | .seed table docs => (e.seed table docs).2
  | .execute role statement => (e.execute role statement).2
  | .inject fault => { e with faults := e.faults ++ [fault] }
  | .clearFaults => { e with faults := [] }
  | .reconnect role => (Engine.database.reconnect role e).2
  | .describe table => (e.describe table).2

/-- What an engine without tables can become. -/
inductive Reachable : Engine → Prop
  | start : Reachable {}
  | step {e : Engine} (h : Reachable e) (action : Action) : Reachable (action.run e)

variable {s : Shape} {row : Row} {t next : Table} {n : Nat}

/-! ## Rows in order -/

theorem ordered_assignAll (h : row.Ordered) (ps : List (String × Value)) :
    (assignAll row ps).1.Ordered := by
  induction ps generalizing row with
  | nil => exact h
  | cons p ps ih =>
    rw [assignAll_cons]
    refine ih ?_
    unfold assign
    split
    · exact h
    · exact h.insert p.1 p.2

theorem ordered_assignId (h : row.Ordered) (nextId : Int) : (assignId s row nextId).1.Ordered := by
  unfold assignId
  split
  · exact h.insert ..
  · exact h.insert ..
  · exact h
  · exact h

theorem ordered_arrival (h : s.columns.Ordered) (columns : List String) (vs : List Value)
    (nextId : Int) : (arrival s columns vs nextId).Ordered :=
  ordered_assignId ((h.map fun _ _ => Value.null).extend _) nextId

/-! ## Tables of engines -/

/-- A table whose columns are in order, its primary key among them, and whose rows
are in order and fit it. -/
structure Regular (t : Table) : Prop where
  columns : t.shape.columns.Ordered
  primaryKey : t.shape.primaryKey ∈ t.shape.columns.keys
  complete : Complete t.shape t
  ordered : ∀ row ∈ t.rows, row.Ordered

theorem Regular.keys_eq (h : Regular t) (hrow : row ∈ t.rows) :
    row.keys = t.shape.columns.keys :=
  (h.ordered row hrow).keys_eq h.columns (h.complete.fits row hrow)

theorem regular_make (name primaryKey : String) (columns : Columns) (uniqueKeys : List Key) :
    Regular { shape := .make name primaryKey columns uniqueKeys } where
  columns := Fields.Ordered.extend (List.pairwise_singleton ..) columns
  primaryKey := Fields.mem_keys_extend.mpr (.inl List.mem_cons_self)
  complete := ⟨rfl, nofun⟩
  ordered := nofun

/-- A write that keeps the shape of a table keeps it regular when its rows stay
complete and in order. -/
theorem Regular.of_complete (h : Regular t) (hcomplete : Complete t.shape next)
    (hordered : ∀ row ∈ next.rows, row.Ordered) : Regular next := by
  have hshape := hcomplete.shape
  exact ⟨hshape ▸ h.columns, hshape ▸ h.primaryKey, hshape.symm ▸ hcomplete, hordered⟩

theorem Regular.insert (h : Regular t) {i : Sql.Insert} (hinsert : insert t i = .ok (n, next)) :
    Regular next := by
  refine h.of_complete (h.complete.insert h.primaryKey hinsert) ?_
  obtain ⟨-, f, hfold, rfl⟩ := insert_eq_ok hinsert
  exact forall_of_foldlM hfold (fun vs _ nextId _ => ordered_arrival h.columns i.columns vs nextId)
    (fun _ _ _ _ _ hrow _ => ordered_assignAll hrow _) h.ordered

theorem Regular.update (h : Regular t) {u : Sql.Update} (hupdate : update t u = .ok (n, next)) :
    Regular next := by
  refine h.of_complete (h.complete.update hupdate) fun row hrow => ?_
  obtain ⟨-, hchanges⟩ := rows_of_update hupdate
  obtain ⟨i, hi, rfl⟩ := List.getElem_of_mem hrow
  have hi' : i < t.rows.length := hchanges.length_eq ▸ hi
  have hstored : t.rows[i].Ordered := h.ordered _ (List.getElem_mem hi')
  have hchanged : Changes u t.rows[i] next.rows[i] := hchanges.get hi' hi
  rcases hchanged with hsame | ⟨-, hnew⟩
  · rwa [hsame]
  · rw [hnew]
    exact ordered_assignAll hstored _

theorem Regular.delete (h : Regular t) (d : Sql.Delete) : Regular (delete t d).2 :=
  h.of_complete (h.complete.delete d) fun row hrow => h.ordered row (List.mem_filter.mp hrow).1

theorem Regular.seed (h : Regular t) (docs : List Json) : Regular (seed t docs 0).2 :=
  seed_keeps h (fun _ _ _ _ hinsert ht => ht.insert hinsert) docs

/-! ## What all tables keep -/

/-- All tables are regular. -/
def AllRegular (ts : Tables) : Prop := ∀ name t, ts.find name = .ok t → Regular t

variable {ts after : Tables} {name : String} {out : Output} {e : Engine}

theorem AllRegular.store (h : AllRegular ts) (hnext : Regular next) :
    AllRegular (Engine.store ts name next) := by
  intro other t ht
  by_cases hname : other = name
  · rw [hname, find, Engine.store, Fields.get?_insert_self] at ht
    cases ht
    exact hnext
  · rw [find, Engine.store, Fields.get?_insert, if_neg hname] at ht
    exact h other t ht

theorem AllRegular.write (h : AllRegular ts) {w : Table → Except TableFault Written}
    (hkept : ∀ t n next, w t = .ok (n, next) → Regular t → Regular next)
    (hwrite : Engine.write ts name w = .ok (out, after)) : AllRegular after := by
  obtain ⟨t, ht, hwrite⟩ := bind_eq_ok_iff.mp hwrite
  obtain ⟨⟨n, next⟩, hw, hwrite⟩ := bind_eq_ok_iff.mp hwrite
  cases hwrite
  exact h.store (hkept t n next hw (h name t ht))

theorem AllRegular.apply (h : AllRegular ts) {st : Sql.Statement}
    (happly : Engine.apply ts st = .ok (out, after)) : AllRegular after := by
  cases st with
  | select q =>
    obtain ⟨_, -, happly⟩ := bind_eq_ok_iff.mp happly
    cases happly
    exact h
  | count q =>
    obtain ⟨_, -, happly⟩ := bind_eq_ok_iff.mp happly
    cases happly
    exact h
  | insert i => exact h.write (fun _ _ _ hw ht => ht.insert hw) happly
  | update u => exact h.write (fun _ _ _ hw ht => ht.update hw) happly
  | delete d =>
    refine h.write (fun _ _ _ hw ht => ?_) happly
    cases hw
    exact ht.delete d

/-- What one action keeps. -/
theorem AllRegular.action (h : AllRegular e.tables) (action : Action) :
    AllRegular (action.run e).tables := by
  cases action with
  | create name primaryKey columns uniqueKeys =>
    exact h.store (regular_make name primaryKey columns uniqueKeys)
  | seed table docs =>
    unfold Action.run Engine.seed
    dsimp only
    split
    · exact h
    · rename_i t ht
      exact h.store ((h table t ht).seed docs)
  | execute role st =>
    show AllRegular (e.run st).2.tables
    unfold Engine.run
    split
    · exact h
    · split
      · rename_i happly
        exact h.apply happly
      · exact h
  | inject fault => exact h
  | clearFaults => exact h
  | reconnect role => exact h
  | describe table => exact h

theorem Reachable.run (h : Reachable e) (actions : List Action) :
    Reachable (actions.foldl Action.run e) := by
  induction actions generalizing e with
  | nil => exact h
  | cons action actions ih => exact ih (h.step action)

theorem Reachable.allRegular (h : Reachable e) : AllRegular e.tables := by
  induction h with
  | start => exact nofun
  | step _ action ih => exact ih.action action

/-! ## Failures -/

/-- A statement that meets a fault or fails leaves all tables as they were. -/
theorem Engine.tables_execute_of_error {role : Role} {st : Sql.Statement} {f : TableFault}
    (h : (e.execute role st).1 = .error f) : (e.execute role st).2.tables = e.tables := by
  have hrun : (e.run st).1 = .error f := h
  show (e.run st).2.tables = e.tables
  unfold Engine.run at hrun ⊢
  split at hrun
  · rfl
  · split at hrun
    · cases hrun
    · rfl

/-! ## Tables in order -/

theorem ordered_store (h : Fields.Ordered ts) : Fields.Ordered (Engine.store ts name t) :=
  h.insert name t

theorem ordered_apply (h : Fields.Ordered ts) {st : Sql.Statement}
    (happly : Engine.apply ts st = .ok (out, after)) : Fields.Ordered after := by
  have hwrite : ∀ {name w}, Engine.write ts name w = .ok (out, after) → Fields.Ordered after := by
    intro name w hwrite
    obtain ⟨t, -, hwrite⟩ := bind_eq_ok_iff.mp hwrite
    obtain ⟨⟨n, next⟩, -, hwrite⟩ := bind_eq_ok_iff.mp hwrite
    cases hwrite
    exact ordered_store h
  cases st with
  | select q =>
    obtain ⟨_, -, happly⟩ := bind_eq_ok_iff.mp happly
    cases happly
    exact h
  | count q =>
    obtain ⟨_, -, happly⟩ := bind_eq_ok_iff.mp happly
    cases happly
    exact h
  | insert i => exact hwrite happly
  | update u => exact hwrite happly
  | delete d => exact hwrite happly

/-- The tables of an engine are in the order of their names. -/
theorem Reachable.ordered (h : Reachable e) : Fields.Ordered e.tables := by
  induction h with
  | start => exact List.Pairwise.nil
  | @step e _ action ih =>
    cases action with
    | create name primaryKey columns uniqueKeys => exact ordered_store ih
    | seed table docs =>
      unfold Action.run Engine.seed
      dsimp only
      split
      · exact ih
      · exact ordered_store ih
    | execute role st =>
      show Fields.Ordered (e.run st).2.tables
      unfold Engine.run
      split
      · exact ih
      · split
        · rename_i happly
          exact ordered_apply ih happly
        · exact ih
    | inject fault => exact ih
    | clearFaults => exact ih
    | reconnect role => exact ih
    | describe table => exact ih

/-- Whatever was asked of an engine, each row has the columns of its table, each
once and in their order, and a statement that fails changes no table: no row, no
order of rows, and no next primary key. That holds as well of a statement that
changes the tables in place, at whichever row it stops, and also where it stops at
a number behind the largest one. Without such stops it does in place what it does
to the tables as a whole, and they are all that checked sums add. -/
theorem rows_keep_their_columns_and_failures_leave_no_trace (h : Reachable e) :
    (∀ name t, e.tables.find name = .ok t → ∀ row ∈ t.rows,
      Fields.keys row = Fields.keys t.shape.columns) ∧
    (∀ role st f, (e.execute role st).1 = .error f → (e.execute role st).2.tables = e.tables) ∧
    (∀ checks st stop, (e.runInPlace checks st).1 = .error stop →
      (e.runInPlace checks st).2.tables = e.tables) ∧
    (∀ st, Engine.applyInPlace false (narrowed e.tables) st =
      settleAll e.tables (Engine.apply e.tables st)) ∧
    ∀ st, Engine.applyInPlace true e.tables st = Engine.applyInPlace false e.tables st ∨
      Engine.applyInPlace true e.tables st = (.error .overflow, e.tables) :=
  ⟨fun name t ht _ hrow => (h.allRegular name t ht).keys_eq hrow,
    fun _ _ _ herror => Engine.tables_execute_of_error herror,
    fun _ _ _ hstop => Engine.tables_runInPlace_of_stop h.ordered hstop,
    Engine.applyInPlace_eq h.ordered, Engine.applyInPlace_checked h.ordered⟩

/-- Two products come in at once after a fault was met. The first one finds its
place, the second one has the sku of a stored row. -/
theorem half_of_an_insert_leaves_no_trace :
    let actions : List Action := [.create "products" "id" [("sku", .text)] [⟨"uniq_sku", ["sku"]⟩],
      .seed "products" [.obj [("sku", .str "A")]], .inject ⟨.plain "gone", some 1, true⟩,
      .execute .primary (.delete ⟨"products", .all []⟩)]
    let e := actions.foldl Action.run {}
    let st : Sql.Statement := .insert ⟨"products", ["sku"], [[.text "B"], [.text "A"]], []⟩
    e.rows "products" = [[("id", .int 1), ("sku", .text "A")]] ∧
    (e.execute .primary st).1 = .error (.duplicateEntry "A" "uniq_sku") ∧
    (e.execute .primary st).2.tables = e.tables ∧
    (e.runInPlace true st).2.tables = e.tables ∧
    ∀ name t, e.tables.find name = .ok t → ∀ row ∈ t.rows,
      Fields.keys row = Fields.keys t.shape.columns := by
  intro actions e st
  have hreachable : Reachable e := Reachable.start.run actions
  have herror : (e.execute .primary st).1 = .error (.duplicateEntry "A" "uniq_sku") := rfl
  obtain ⟨hcolumns, hfailures, hstops, -, -⟩ :=
    rows_keep_their_columns_and_failures_leave_no_trace hreachable
  exact ⟨rfl, herror, hfailures .primary st _ herror, hstops true st _ rfl, hcolumns⟩

end Tables

end EntityStore
