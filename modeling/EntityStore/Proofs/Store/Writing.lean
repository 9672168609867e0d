-- Writes of a store over an engine in memory, as what they leave of the
-- entity's table.
import EntityStore.Proofs.Store.Confirming
import EntityStore.Proofs.Tables.Inserting

namespace EntityStore

/-! ## Writing to one table -/

namespace Tables.Engine

variable {ts after : Tables} {t : Table} {out : Output}

theorem find_store (ts : Tables) (name : String) (t : Table) :
    (store ts name t).find name = .ok t := by
  rw [Tables.find, store, Fields.get?_insert_self]

/-- A write that succeeds puts the changed table in the place of the old
one. -/
theorem write_eq_ok {name : String} {f : Table → Except TableFault Written}
    (hfind : ts.find name = .ok t) (h : write ts name f = .ok (out, after)) :
    ∃ n next, f t = .ok (n, next) ∧ after = store ts name next := by
  obtain ⟨found, hfound, h⟩ := bind_eq_ok_iff.mp h
  cases hfind.symm.trans hfound
  obtain ⟨⟨n, next⟩, hf, h⟩ := bind_eq_ok_iff.mp h
  cases h
  exact ⟨n, next, hf, rfl⟩

theorem write_eq_error {name : String} {f : Table → Except TableFault Written}
    {fault : TableFault} (hfind : ts.find name = .ok t) (h : write ts name f = .error fault) :
    f t = .error fault := by
  rcases bind_eq_error_iff.mp h with h | ⟨found, hfound, h⟩
  · cases hfind.symm.trans h
  · cases hfind.symm.trans hfound
    rcases bind_eq_error_iff.mp h with h | ⟨_, -, h⟩
    · exact h
    · cases h

end Tables.Engine

namespace Relational

open Call (Leads Keeps)

variable {calm : Prop} {entity : Entity} {settings : Settings} {t : Tables.Table}
  {columns : Columns} {ts : Tables}

theorem holds_store {next : Tables.Table} {s : State Tables.Engine}
    (hready : Stands calm (Tables.Engine.store ts entity.storage next) s)
    (hknown : knownColumns entity t s = columns) (hshape : next.shape = t.shape) :
    Holds calm entity next columns (Tables.Engine.store ts entity.storage next) s :=
  ⟨hready, Tables.Engine.find_store .., by rw [← hknown, knownColumns, knownColumns, hshape]⟩

/-! ## Statements of items -/

theorem insert_eq_ok {docs : List (Fields Json)} {updated : List String} {i : Sql.Insert}
    (h : ((inMemory entity settings).scope columns).insert docs updated = .ok i) :
    i = ⟨entity.storage, Fields.allKeys docs,
      docs.map (((inMemory entity settings).scope columns).row (Fields.allKeys docs)), updated⟩ ∧
    ∀ doc ∈ docs, ∀ f ∈ doc.keys, (columns.isEmpty || Fields.contains columns f) = true := by
  obtain ⟨_, hcheck, h⟩ := bind_eq_ok_iff.mp h
  cases h
  refine ⟨rfl, fun doc hdoc f hf => ?_⟩
  have hmem : f ∈ Fields.allKeys docs := Fields.mem_allKeys.mpr ⟨doc, hdoc, hf⟩
  generalize Fields.allKeys docs = fs at hcheck hmem
  induction fs with
  | nil => cases hmem
  | cons g fs ih =>
    obtain ⟨_, hg, hrest⟩ := bind_eq_ok_iff.mp hcheck
    rcases List.mem_cons.mp hmem with rfl | hmem
    · unfold Plan.Scope.checkColumn at hg
      split at hg
      · assumption
      · cases hg
    · exact ih hrest hmem

/-- The row that comes in for an item among others. -/
def incoming (entity : Entity) (settings : Settings) (columns : Columns) (s : Tables.Shape)
    (docs : List (Fields Json)) (doc : Fields Json) : Row :=
  Tables.incomingRow s (Fields.allKeys docs)
    (((inMemory entity settings).scope columns).row (Fields.allKeys docs) doc)

theorem get?_incoming {s : Tables.Shape} {docs : List (Fields Json)} {doc : Fields Json}
    (hdoc : doc ∈ docs)
    (hcolumns : ∀ c ∈ Fields.allKeys docs, Fields.contains s.columns c = true) (c : String) :
    (incoming entity settings columns s docs doc).get? c =
      if Fields.contains s.columns c then
        some (((inMemory entity settings).scope columns).bind c (doc.get? c))
      else none := by
  refine Tables.get?_incomingRow
    (fun c => ((inMemory entity settings).scope columns).bind c (doc.get? c)) hcolumns ?_ c
  intro d hd
  have hnone : doc.get? d = none := by
    rw [Fields.get?_eq_none_iff]
    exact fun hk => hd (Fields.mem_allKeys.mpr ⟨doc, hdoc, hk⟩)
  rw [hnone]
  rfl

/-! ## Reading what was written -/

theorem keeps_confirm (field : String) (docs : List (Fields Json)) :
    Keeps (Holds calm entity t columns ts) ((inMemory entity settings).confirm field docs) := by
  refine Call.Keeps.bind ?_ fun _ => Call.keeps_pure _
  exact leads_onPrimary (Store.keeps_findWith keeps_search _ _) (fun _ _ r hs => hs.routed r)
    fun _ r hs => hs.routed r

/-- The report on some items, by the rows of the table. -/
def reportOf (entity : Entity) (columns : Columns) (t : Tables.Table) (field : String)
    (docs : List (Fields Json)) : WriteReport :=
  docs.map (itemReport field (identities entity field
    (recordsWith columns t field (docs.filterMap (carried? · field)))))

/-! ## Upserts -/

/-- The insert of some items, where stored rows take over these fields. -/
def insertOf (entity : Entity) (settings : Settings) (columns : Columns)
    (docs : List (Fields Json)) (updated : List String) : Sql.Insert :=
  ⟨entity.storage, Fields.allKeys docs,
    docs.map (((inMemory entity settings).scope columns).row (Fields.allKeys docs)), updated⟩

theorem insert_eq_error {docs : List (Fields Json)} {updated : List String} {e : AccessError}
    (h : ((inMemory entity settings).scope columns).insert docs updated = .error e) :
    ∃ f ∈ Fields.allKeys docs, (columns.isEmpty || Fields.contains columns f) = false := by
  have hcheck : (Fields.allKeys docs).forM
      ((inMemory entity settings).scope columns).checkColumn = .error e := by
    rcases bind_eq_error_iff.mp h with h | ⟨_, -, h⟩
    · exact h
    · cases h
  generalize Fields.allKeys docs = fs at hcheck
  induction fs with
  | nil => cases hcheck
  | cons f fs ih =>
    rcases bind_eq_error_iff.mp hcheck with hf | ⟨_, -, hrest⟩
    · refine ⟨f, List.mem_cons_self, ?_⟩
      rw [← Bool.not_eq_true]
      intro hknown
      have hok : ((inMemory entity settings).scope columns).checkColumn f = .ok () := if_pos hknown
      cases hf.symm.trans hok
    · obtain ⟨g, hg, hunknown⟩ := ih hrest
      exact ⟨g, List.mem_cons_of_mem f hg, hunknown⟩

/-- On a calm engine an upsert runs one insert on the entity's table and
reports on the items by what the table has then. It fails only where a field
is not known or the insert fails, and leaves the tables as they were. -/
theorem leads_write (hplain : ∀ c ∈ t.shape.columns.keys, Text.hasChar '.' c = false)
    (docs : List (Fields Json)) (field : String) (updated : List String) :
    Leads (Holds True entity t columns ts) ((inMemory entity settings).upsert docs field updated)
      (fun report s => ∃ n next,
        Tables.insert t (insertOf entity settings columns docs updated) = .ok (n, next) ∧
        report = reportOf entity columns next field docs ∧
        Holds True entity next columns (Tables.Engine.store ts entity.storage next) s)
      (fun s => s.timed.state.tables = ts ∧
        ((∃ f ∈ Fields.allKeys docs, (columns.isEmpty || Fields.contains columns f) = false) ∨
          ∃ fault, Tables.insert t (insertOf entity settings columns docs updated) =
            .error fault)) := by
  intro s hs
  have hfind := hs.find
  revert s
  refine (leads_columns.weakenError fun _ h => h.elim).andThen ?_
  refine Call.Leads.bind (R := fun i s => i = insertOf entity settings columns docs updated ∧
    (∀ doc ∈ docs, ∀ f ∈ doc.keys, (columns.isEmpty || Fields.contains columns f) = true) ∧
    Holds True entity t columns ts s) (Call.leads_lift ?_ ?_) fun i => ?_
  · exact fun i hi s hs => ⟨(insert_eq_ok hi).1, (insert_eq_ok hi).2, hs⟩
  · exact fun e he s hs => ⟨hs.tables, .inl (insert_eq_error he)⟩
  rintro s ⟨rfl, hknown, hs⟩
  revert s
  refine Call.Leads.bind (R := fun _ s => ∃ n next,
    Tables.insert t (insertOf entity settings columns docs updated) = .ok (n, next) ∧
    Holds True entity next columns (Tables.Engine.store ts entity.storage next) s)
    ((leads_run _).weaken ?_ ?_) fun out => ?_
  · rintro out s ⟨after, happly, hready, hcolumns⟩
    obtain ⟨n, next, hinsert, rfl⟩ := Tables.Engine.write_eq_ok hfind happly
    obtain ⟨-, f, -, rfl⟩ := Tables.insert_eq_ok hinsert
    exact ⟨n, _, hinsert, holds_store hready hcolumns rfl⟩
  · rintro s ⟨hs, hfails⟩
    obtain ⟨fault, hfault⟩ := hfails trivial
    exact ⟨hs.tables, .inr ⟨fault, Tables.Engine.write_eq_error hfind hfault⟩⟩
  · rintro s ⟨n, next, hinsert, hs⟩
    obtain ⟨hnamed, f, -, rfl⟩ := Tables.insert_eq_ok hinsert
    refine (leads_confirm fun doc hdoc v hv => ?_).weaken ?_ (fun _ h => absurd trivial h) s hs
    · have hmem := mem_keys_of_carried hv
      exact ⟨hplain field (Fields.contains_iff.mp
        (hnamed field (Fields.mem_allKeys.mpr ⟨doc, hdoc, hmem⟩))), hknown doc hdoc field hmem⟩
    · rintro report s ⟨rfl, hs⟩
      exact ⟨n, _, hinsert, rfl, hs⟩

/-- An upsert that gives a report has run one insert on the entity's table. -/
theorem leads_upsert (docs : List (Fields Json)) (field : String) (updated : List String) :
    Leads (Holds calm entity t columns ts) ((inMemory entity settings).upsert docs field updated)
      (fun _ s => ∃ n next, Tables.insert t ⟨entity.storage, Fields.allKeys docs,
          docs.map (((inMemory entity settings).scope columns).row (Fields.allKeys docs)),
          updated⟩ = .ok (n, next) ∧
        s.timed.state.tables = Tables.Engine.store ts entity.storage next)
      (fun _ => True) := by
  intro s hs
  have hfind := hs.find
  revert s
  refine (leads_columns.weakenError fun _ _ => trivial).andThen ?_
  refine Call.leads_lift_bind (fun _ _ => trivial) fun i hi => ?_
  obtain ⟨rfl, -⟩ := insert_eq_ok hi
  refine ((leads_run _).weakenError fun _ _ => trivial).bind fun out => ?_
  rintro s ⟨after, happly, hready, hcolumns⟩
  obtain ⟨n, next, hinsert, rfl⟩ := Tables.Engine.write_eq_ok hfind happly
  have hshape : next.shape = t.shape := by
    obtain ⟨-, f, -, rfl⟩ := Tables.insert_eq_ok hinsert
    rfl
  refine (keeps_confirm field docs).weaken ?_ (fun _ _ => trivial) s
    (holds_store hready hcolumns hshape)
  exact fun _ s hs => ⟨n, next, hinsert, hs.tables⟩

/-! ## Updates -/

/-- The entity's table is this one, and statements know these columns. -/
def Left (calm : Prop) (entity : Entity) (columns : Columns) (next : Tables.Table)
    (s : State Tables.Engine) : Prop :=
  ∃ ts, Holds calm entity next columns ts s

theorem leads_runUpdate {u : Sql.Update} (hu : u.table = entity.storage) :
    Leads (Left calm entity columns t) ((inMemory entity settings).run (.update u))
      (fun _ s => ∃ n next, Tables.update t u = .ok (n, next) ∧ Left calm entity columns next s)
      (fun _ => True) := by
  rintro s ⟨ts, hs⟩
  refine (leads_run (.update u)).weaken ?_ (fun _ _ => trivial) s hs
  rintro out next ⟨after, happly, hready, hknown⟩
  obtain ⟨n, changed, hupdate, rfl⟩ := Tables.Engine.write_eq_ok (hu ▸ hs.find) happly
  rw [hu] at hready
  exact ⟨n, changed, hupdate, _, holds_store hready hknown (Tables.rows_of_update hupdate).1⟩

theorem leads_updates {us : List Sql.Update} (hus : ∀ u ∈ us, u.table = entity.storage) :
    Leads (Left calm entity columns t)
      (us.forM fun u => do
        let _ ← (inMemory entity settings).run (.update u))
      (fun _ s => ∃ next, Tables.updateAll us t = .ok next ∧ Left calm entity columns next s)
      (fun _ => True) := by
  induction us generalizing t with
  | nil => exact Call.leads_pure fun s hs => ⟨t, rfl, hs⟩
  | cons u us ih =>
    rw [List.forall_mem_cons] at hus
    refine Leads.bind (R := fun _ s => ∃ n next, Tables.update t u = .ok (n, next) ∧
      Left calm entity columns next s) ((leads_runUpdate hus.1).bind fun _ =>
        Call.leads_pure fun _ h => h) fun _ => ?_
    rintro s ⟨n, middle, hupdate, hs⟩
    refine (ih hus.2).weaken ?_ (fun _ _ => trivial) s hs
    rintro _ after ⟨next, hall, hnext⟩
    refine ⟨next, ?_, hnext⟩
    rw [Tables.updateAll, List.foldlM_cons, hupdate]
    exact hall

/-- The statement that changes the record with an identity. -/
def updateOf (entity : Entity) (settings : Settings) (columns : Columns)
    (change : Value × Fields Json) : Sql.Update where
  table := entity.storage
  assignments := change.2.map fun (c, j) =>
    (c, ((inMemory entity settings).scope columns).bind c (some j))
  predicate := .eq (.plain entity.idField) change.1

theorem eq_updateOf {change : Value × Fields Json} {u : Sql.Update}
    (h : ((inMemory entity settings).scope columns).update change.1 change.2 = .ok u) :
    u = updateOf entity settings columns change := by
  obtain ⟨_, -, h⟩ := bind_eq_ok_iff.mp h
  cases h
  rfl

/-- An update that gives a report has run one statement for each change. -/
theorem leads_update (changes : List (Value × Fields Json)) :
    Leads (Left calm entity columns t) ((inMemory entity settings).update changes)
      (fun _ s => ∃ next, Tables.updateAll
          (changes.map (updateOf entity settings columns)) t = .ok next ∧
        Left calm entity columns next s)
      (fun _ => True) := by
  have hcolumns : Leads (Left calm entity columns t) (inMemory entity settings).columns
      (fun found s => found = columns ∧ Left calm entity columns t s) (fun _ => True) := by
    rintro s ⟨ts, hs⟩
    exact leads_columns.weaken (fun _ _ h => ⟨h.1, ts, h.2⟩) (fun _ _ => trivial) s hs
  refine hcolumns.andThen (Call.leads_lift_bind (fun _ _ => trivial) fun us hus => ?_)
  obtain rfl : us = changes.map (updateOf entity settings columns) :=
    eq_map_of_mapM hus fun _ _ => eq_updateOf
  have htable : ∀ u ∈ changes.map (updateOf entity settings columns), u.table = entity.storage := by
    rw [List.forall_mem_map]
    exact fun _ _ => rfl
  refine (leads_updates htable).bind fun _ => ?_
  rintro s ⟨next, hall, ts, hs⟩
  exact (keeps_confirm _ _).weaken (fun _ s hs => ⟨next, hall, ts, hs⟩) (fun _ _ => trivial) s hs

end Relational

end EntityStore
