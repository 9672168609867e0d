-- Errors of the caller, by the call of a store over an engine in memory that
-- fails with them. A search fails with one only for a field that filters may not
-- use. A write that has been run is read again, so it may fail with one after
-- all, and an update of several records may fail between its statements.
import EntityStore.Proofs.Store.Faults

namespace EntityStore

/-- The tables after all statements, run one after the other. -/
def Tables.Engine.applyAll (statements : List Sql.Statement) (ts : Tables) :
    Except TableFault Tables :=
  statements.foldlM (fun ts s => (apply ts s).map (·.2)) ts

namespace Relational

open Call (Ends Leads Keeps)

variable {entity : Entity} {settings : Settings} {t : Tables.Table} {columns : Columns}
  {ts : Tables} {field : String} {e : AccessError}

/-! ## Searches -/

theorem keeps_watched_search (c : Criteria) :
    Keeps (Watched entity t columns ts) ((inMemory entity settings).search c) := by
  refine keeps_search_of ?_ (fun statement hread => ?_) c
  · exact ends_columns.weaken (fun _ _ h => h.2) fun _ _ h => h.elim
  · intro s hs
    refine (ends_run statement).weaken ?_ (fun _ _ h => h.1) s hs
    rintro out next ⟨after, happly, hstands, hknown, hquiet⟩
    obtain rfl := apply_of_isRead hread happly
    exact ⟨⟨hstands, hs.find, hknown⟩, hquiet⟩

/-- A search for the values of a field is planned where the field means a
column, and fails as the field does where it means none. -/
theorem plan_having_of_resolve (entity : Entity) (settings : Settings) (columns : Columns)
    (field : String) (vs : List Value) :
    match ((inMemory entity settings).scope columns).resolve .filter field with
    | .ok _ => ∃ p, ((inMemory entity settings).scope columns).plan settings
        (Store.having field vs) = .ok ⟨.ofPage entity.storage p [] none 0,
          .ofTable entity.storage p, []⟩
    | .error e => ((inMemory entity settings).scope columns).plan settings
        (Store.having field vs) = .error e := by
  let scope := (inMemory entity settings).scope columns
  cases hresolve : ((inMemory entity settings).scope columns).resolve .filter field with
  | ok column =>
    have hcompile : scope.Compile [.all [.inList field vs]] := by
      simp only [Plan.Scope.Compile, List.forall_mem_singleton, Filter.Group.all]
      exact ⟨_, Plan.Scope.condition_eq_ok_iff.mpr
        ⟨_, hresolve, Filter.predicate?_isIn⟩⟩
    obtain ⟨p, hgroups, -, -⟩ := Plan.Scope.groups_eq_ok hcompile
    exact ⟨p, plan_ofGroup hgroups⟩
  | error e =>
    have hcondition : scope.condition (.inList field vs) = .error e :=
      bind_eq_error_iff.mpr (.inl hresolve)
    have hgroup : scope.group (.all [.inList field vs]) = .error e := by
      refine bind_eq_error_iff.mpr (.inl ?_)
      rw [Filter.Group.all, List.mapM_cons, hcondition]
      rfl
    have hgroups : scope.groups [.all [.inList field vs]] = .error e := by
      refine bind_eq_error_iff.mpr (.inl ?_)
      rw [List.filter_cons_of_pos rfl, List.mapM_cons, hgroup]
      rfl
    exact bind_eq_error_iff.mpr (.inr ⟨[], rfl, bind_eq_error_iff.mpr (.inr ⟨[], rfl,
      bind_eq_error_iff.mpr (.inl (bind_eq_error_iff.mpr (.inl hgroups)))⟩)⟩)

theorem ends_plan (c : Criteria) :
    Ends (Watched entity t columns ts) ((inMemory entity settings).plan c)
      (fun plan s => ((inMemory entity settings).scope columns).plan settings c = .ok plan ∧
        Watched entity t columns ts s)
      (fun e s => ((inMemory entity settings).scope columns).plan settings c = .error e ∧
        Watched entity t columns ts s) :=
  (ends_columns.weaken (fun _ _ h => h) fun _ _ h => h.elim).andThen
    (Call.ends_lift (fun _ hok _ hs => ⟨hok, hs⟩) fun _ herror _ hs => ⟨herror, hs⟩)

/-- An error of the caller is the one that a filter by a field meets. -/
def RefusedFor (entity : Entity) (settings : Settings) (columns : Columns) (field : String)
    (e : AccessError) : Prop :=
  e.isValidation = true →
    ((inMemory entity settings).scope columns).resolve .filter field = .error e

theorem ends_having (vs : List Value) :
    Ends (Watched entity t columns ts) ((inMemory entity settings).search (Store.having field vs))
      (fun _ s => (∃ c, ((inMemory entity settings).scope columns).resolve .filter field = .ok c) ∧
        Watched entity t columns ts s)
      (fun e s => RefusedFor entity settings columns field e ∧ Watched entity t columns ts s) := by
  have hplan := plan_having_of_resolve entity settings columns field vs
  cases hresolve : ((inMemory entity settings).scope columns).resolve .filter field with
  | error e =>
    rw [hresolve] at hplan
    refine Ends.bind (R := fun _ _ => False) ((ends_plan _).weaken ?_ ?_) fun _ _ h => h.elim
    · rintro plan s ⟨hok, -⟩
      cases hok.symm.trans hplan
    · rintro e' s ⟨herror, hs⟩
      refine ⟨fun _ => ?_, hs⟩
      rw [hresolve, Except.error.inj (herror.symm.trans hplan)]
  | ok c =>
    rw [hresolve] at hplan
    obtain ⟨p, hp⟩ := hplan
    refine (ends_search_of (F := fun e s => Watched entity t columns ts s ∧
      e.isValidation = false) ((ends_plan _).weaken ?_ ?_)).weaken
        (fun _ _ hs => ⟨⟨c, rfl⟩, hs⟩) ?_
    · rintro plan s ⟨hok, hs⟩
      cases hok.symm.trans hp
      have hselect : Tables.Engine.apply ts (.select (.ofPage entity.storage p [] none 0)) =
          .ok (_, ts) := bind_eq_ok_iff.mpr ⟨_, Tables.select_ofPage hs.find none 0, rfl⟩
      have hcount : Tables.Engine.apply ts (.count (.ofTable entity.storage p)) = .ok (_, ts) :=
        bind_eq_ok_iff.mpr ⟨_, Tables.count_ofTable hs.find, rfl⟩
      exact ⟨hs, ends_query rfl hselect, ends_query rfl hcount,
        fun _ ha => absurd ha List.not_mem_nil⟩
    · rintro e s ⟨herror, -⟩
      cases herror.symm.trans hp
    · rintro e s ⟨hs, hstore⟩
      refine ⟨fun hcaller => ?_, hs⟩
      rw [hstore] at hcaller
      cases hcaller

theorem ends_findWith (vs : List Value) :
    Ends (Watched entity t columns ts)
      (Store.findWith (inMemory entity settings).search field vs)
      (fun _ s => (vs ≠ [] →
          ∃ c, ((inMemory entity settings).scope columns).resolve .filter field = .ok c) ∧
        Watched entity t columns ts s)
      (fun e s => RefusedFor entity settings columns field e ∧ Watched entity t columns ts s) := by
  unfold Store.findWith
  split
  · rename_i hempty
    exact Call.ends_pure fun s hs => ⟨fun hne => absurd (List.isEmpty_iff.mp hempty) hne, hs⟩
  · exact (ends_having vs).bind fun _ => Call.ends_pure fun s h => ⟨fun _ => h.1, h.2⟩

/-! ## Writes -/

theorem ends_confirm (docs : List (Fields Json)) :
    Ends (Watched entity t columns ts) ((inMemory entity settings).confirm field docs)
      (fun _ _ => True)
      (fun e s => RefusedFor entity settings columns field e ∧ Watched entity t columns ts s) := by
  refine (ends_onPrimary (ends_findWith _) (fun _ router hs => hs.routed router)
    (fun _ _ router h => ⟨h.1, h.2.routed router⟩)
    fun _ _ router h => ⟨h.1, h.2.routed router⟩).bind fun _ => Call.ends_pure fun _ _ => trivial

/-- The insert of some documents has been run, and the field that confirms it
was refused. -/
def RefusedAfter (entity : Entity) (settings : Settings) (columns : Columns) (ts : Tables)
    (docs : List (Fields Json)) (field : String) (updated : List String) (e : AccessError)
    (s : State Tables.Engine) : Prop :=
  ((inMemory entity settings).scope columns).resolve .filter field = .error e ∧
    ∃ i out, ((inMemory entity settings).scope columns).insert docs updated = .ok i ∧
      Tables.Engine.apply ts (.insert i) = .ok (out, s.timed.state.tables)

/-- An upsert that fails with an error of the caller has left the tables as
they were, or was refused when it was read again. -/
theorem ends_upsert (docs : List (Fields Json)) (updated : List String) :
    Ends (Watched entity t columns ts) ((inMemory entity settings).upsert docs field updated)
      (fun _ _ => True)
      (fun e s => e.isValidation = true → s.timed.state.tables = ts ∨
        RefusedAfter entity settings columns ts docs field updated e s) := by
  intro s hs
  have hfind := hs.find
  revert s
  refine (ends_columns.weaken (fun _ _ h => h) fun _ _ h => h.elim).andThen ?_
  refine Call.ends_lift_bind (fun _ _ s hs _ => .inl hs.tables) fun i hi => ?_
  obtain ⟨hi', -⟩ := insert_eq_ok hi
  have htable : i.table = entity.storage := by rw [hi']
  refine ((ends_run (.insert i)).weaken (fun _ _ h => h) fun _ s h _ => .inl h.1.tables).bind
    fun out => ?_
  rintro s ⟨after, happly, hready, hknown, hquiet⟩
  obtain ⟨n, next, hinsert, rfl⟩ := Tables.Engine.write_eq_ok (htable ▸ hfind) happly
  have hshape : next.shape = t.shape := by
    obtain ⟨-, f, -, rfl⟩ := Tables.insert_eq_ok hinsert
    rfl
  rw [htable] at happly hready
  refine (ends_confirm docs).weaken (fun _ _ h => h) ?_ s
    ⟨holds_store hready hknown hshape, hquiet⟩
  exact fun e s h he => .inr ⟨h.1 he, i, out, hi, by rw [h.2.tables]; exact happly⟩

/-- After some of the statements had been run on the tables, the next one met a
repeated key. -/
def StoppedAfter (done : List Sql.Update) (entity : Entity) (ts : Tables) (us : List Sql.Update)
    (e : AccessError) (s : State Tables.Engine) : Prop :=
  ∃ u rest message, us = done ++ u :: rest ∧
    Tables.Engine.applyAll (done.map .update) ts = .ok s.timed.state.tables ∧
    e = .duplicateKey entity.storage message

theorem StoppedAfter.cons {u : Sql.Update} {done us : List Sql.Update} {out : Output}
    {after : Tables} {s : State Tables.Engine}
    (happly : Tables.Engine.apply ts (.update u) = .ok (out, after))
    (h : StoppedAfter done entity after us e s) :
    StoppedAfter (u :: done) entity ts (u :: us) e s := by
  obtain ⟨v, rest, message, rfl, hdone, hkey⟩ := h
  refine ⟨v, rest, message, rfl, ?_, hkey⟩
  rw [Tables.Engine.applyAll, List.map_cons, List.foldlM_cons, happly]
  exact hdone

theorem ends_updates {us : List Sql.Update} (hus : ∀ u ∈ us, u.table = entity.storage) :
    Ends (Watched entity t columns ts)
      (us.forM fun u => do
        let _ ← (inMemory entity settings).run (.update u))
      (fun _ s => ∃ next after, Watched entity next columns after s)
      (fun e s => e.isValidation = true → ∃ done, StoppedAfter done entity ts us e s) := by
  induction us generalizing t ts with
  | nil => exact Call.ends_pure fun s hs => ⟨t, ts, hs⟩
  | cons u us ih =>
    rw [List.forall_mem_cons] at hus
    -- What was run before the rest of the statements was run before them all.
    refine Ends.bind (R := fun _ s => ∃ out next after,
      Tables.Engine.apply ts (.update u) = .ok (out, after) ∧ Watched entity next columns after s)
      (Ends.bind (R := fun _ s => ∃ out next after,
        Tables.Engine.apply ts (.update u) = .ok (out, after) ∧
          Watched entity next columns after s) ?_ fun _ => Call.ends_pure fun _ h => h) fun _ => ?_
    · intro s hs
      refine (ends_run (.update u)).weaken ?_ ?_ s hs
      · rintro out s ⟨after, happly, hready, hknown, hquiet⟩
        obtain ⟨n, next, hupdate, hafter⟩ := Tables.Engine.write_eq_ok (hus.1 ▸ hs.find) happly
        rw [hus.1] at hafter
        subst hafter
        exact ⟨out, next, _, happly,
          holds_store hready hknown (Tables.rows_of_update hupdate).1, hquiet⟩
      · rintro e s ⟨hs, hcaller, -⟩ he
        obtain ⟨message, rfl⟩ := hcaller he
        exact ⟨[], u, us, message, rfl, by rw [hs.tables]; rfl,
          by rw [Sql.Statement.table, hus.1]⟩
    · rintro s ⟨out, middle, after, happly, hs⟩
      refine (ih hus.2).weaken (fun _ _ h => h) ?_ s hs
      intro e s hstopped he
      obtain ⟨done, hdone⟩ := hstopped he
      exact ⟨u :: done, hdone.cons happly⟩

/-- An update that fails with an error of the caller has left the tables as
they were, has stopped at a repeated key, or was refused when it was read
again. -/
theorem ends_update (changes : List (Value × Fields Json)) :
    Ends (Watched entity t columns ts) ((inMemory entity settings).update changes)
      (fun _ _ => True)
      (fun e s => e.isValidation = true → s.timed.state.tables = ts ∨
        (∃ done ≠ [],
          StoppedAfter done entity ts (changes.map (updateOf entity settings columns)) e s) ∨
        ((inMemory entity settings).scope columns).resolve .filter entity.idField = .error e) := by
  refine (ends_columns.weaken (fun _ _ h => h) fun _ _ h => h.elim).andThen ?_
  refine Call.ends_lift_bind (fun _ _ s hs _ => .inl hs.tables) fun us hus => ?_
  obtain rfl : us = changes.map (updateOf entity settings columns) :=
    eq_map_of_mapM hus fun _ _ => eq_updateOf
  have htable : ∀ u ∈ changes.map (updateOf entity settings columns), u.table = entity.storage := by
    rw [List.forall_mem_map]
    exact fun _ _ => rfl
  refine ((ends_updates htable).weaken (fun _ _ h => h) fun e s h he => ?_).bind fun _ => ?_
  · obtain ⟨done, hdone⟩ := h he
    cases done with
    | nil =>
      obtain ⟨-, -, -, -, hsame, -⟩ := hdone
      exact .inl (Except.ok.inj hsame).symm
    | cons u done => exact .inr (.inl ⟨u :: done, List.cons_ne_nil u done, hdone⟩)
  · rintro s ⟨next, after, hs⟩
    exact (ends_confirm _).weaken (fun _ _ h => h) (fun e s h he => .inr (.inr (h.1 he))) s hs

end Relational

end EntityStore
