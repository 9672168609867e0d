-- What a store over an engine in memory says of a write when it reads it
-- again: an item whose row is in the table is reported as persisted.
import EntityStore.Proofs.Store.Holding
import EntityStore.Proofs.Value.Stored

namespace EntityStore

/-- The last value that a list has under a name is the one that counts. -/
theorem Fields.get?_ofList_of_last {α : Type} {ps qs : List (String × α)} {k : String} {v : α}
    (hlast : ∀ q ∈ qs, q.1 ≠ k) : get? (ofList (ps ++ (k, v) :: qs)) k = some v := by
  have hnone : get? (ofList qs) k = none := by
    rw [get?_eq_none_iff, mem_keys_ofList]
    intro hk
    obtain ⟨q, hq, rfl⟩ := List.mem_map.mp hk
    exact hlast q hq rfl
  rw [get?_ofList_append, get?_ofList_cons, hnone]
  simp

namespace Relational

open Call (Leads)

variable {calm : Prop} {entity : Entity} {settings : Settings} {t : Tables.Table}
  {columns : Columns} {ts : Tables} {field : String} {row : Row}

/-! ## Rows as records -/

theorem get?_record (hname : Text.hasChar '.' field = false) :
    (Row.toJson (Tables.bareColumns row)).get? field = (row.get? field).map Value.toJson := by
  rw [Row.toJson, Fields.get?_mapValues]
  exact congrArg _ ((Fields.get?_filter (fun c => !Text.hasChar '.' c) row field).trans
    (if_pos (by rw [hname]; rfl)))

/-- What a record has under a field is what its row has there. -/
theorem get?_record_eq_some {j : Json}
    (h : (Row.toJson (Tables.bareColumns row)).get? field = some j) :
    ∃ v, row.get? field = some v ∧ j = v.toJson := by
  rw [Row.toJson, Fields.get?_mapValues] at h
  obtain ⟨v, hv, rfl⟩ := Option.map_eq_some_iff.mp h
  have hget : (Tables.bareColumns row).get? field = _ :=
    Fields.get?_filter (fun c => !Text.hasChar '.' c) row field
  rw [hget] at hv
  split at hv
  · exact ⟨v, hv, rfl⟩
  · cases hv

/-- A row that holds a document as its column binds it is found by the value
of the document. -/
theorem hasOneOf_of_bind {j : Json} {vs : List Value} (hj : j.isNull = false)
    (hsound : j.isSound = true)
    (hrow : row.get? field =
      some (((inMemory entity settings).scope columns).bind field (some j)))
    (hmem : Value.ofJson j ∈ vs) : hasOneOf columns field vs row = true := by
  have hbind : ((inMemory entity settings).scope columns).bind field (some j) =
      if columns.isJson field then .json j else .ofJson j := by
    cases j with
    | null => cases hj
    | _ => rfl
  rw [hbind] at hrow
  unfold hasOneOf
  split
  · rename_i hjson
    rw [if_pos hjson] at hrow
    have hdocument : (Sql.Column.plain field).document? row = some j := by
      have hstored : (Sql.Column.plain field).document? row =
          (row.get? field).bind fun v => v.document?.bind fun doc => some doc := rfl
      rw [hstored, hrow]
      rfl
    refine List.any_eq_true.mpr ⟨_, hmem, ?_⟩
    rw [Sql.Predicate.holds, hdocument]
    exact Value.covers_ofJson hsound
  · rename_i hjson
    rw [if_neg hjson] at hrow
    have hvalue : (Sql.Column.plain field).value? row = row.get? field := rfl
    rw [Sql.Predicate.holds, hvalue, hrow]
    exact List.any_eq_true.mpr ⟨_, hmem, Value.agrees_ofJson_self hj⟩

theorem key_bind (entity : Entity) (settings : Settings) (columns : Columns) (field : String)
    {j : Json} (hsound : j.isSound = true) :
    (Value.ofJson
      (((inMemory entity settings).scope columns).bind field (some j)).toJson).key =
      (Value.ofJson j).key := by
  unfold Plan.Scope.bind
  split
  · rename_i hnone
    cases hnone
  · rename_i hnull
    cases hnull
    rfl
  · rename_i doc _ hdoc
    cases hdoc
    split
    · rfl
    · exact Value.key_ofJson_toJson hsound

/-! ## Reports -/

theorem carried?_eq_some {doc : Fields Json} {v : Value} (h : carried? doc field = some v) :
    ∃ j, doc.get? field = some j ∧ j.isNull = false ∧ v = .ofJson j := by
  obtain ⟨j, hj, rfl⟩ := Option.map_eq_some_iff.mp h
  obtain ⟨hget, hnull⟩ := Option.filter_eq_some_iff.mp hj
  exact ⟨j, hget, by simpa using hnull, rfl⟩

theorem mem_keys_of_carried {doc : Fields Json} {v : Value} (h : carried? doc field = some v) :
    field ∈ doc.keys := by
  obtain ⟨j, hget, -⟩ := carried?_eq_some h
  exact Fields.contains_iff.mp (by rw [Fields.contains, hget]; rfl)

theorem leads_confirm {docs : List (Fields Json)}
    (hfield : ∀ doc ∈ docs, ∀ v, carried? doc field = some v → Text.hasChar '.' field = false ∧
      (columns.isEmpty || Fields.contains columns field) = true) :
    Leads (Holds calm entity t columns ts) ((inMemory entity settings).confirm field docs)
      (fun report s => report = docs.map (itemReport field (identities entity field
        (recordsWith columns t field (docs.filterMap (carried? · field))))) ∧
        Holds calm entity t columns ts s) (fun _ => ¬ calm) := by
  have hknown : docs.filterMap (carried? · field) ≠ [] → Text.hasChar '.' field = false ∧
      (columns.isEmpty || Fields.contains columns field) = true := by
    intro hne
    obtain ⟨v, hv⟩ := List.exists_mem_of_ne_nil _ hne
    obtain ⟨doc, hdoc, hcarried⟩ := List.mem_filterMap.mp hv
    exact hfield doc hdoc v hcarried
  have hfind : Leads (Holds calm entity t columns ts) (onPrimary (Store.findWith
      (inMemory entity settings).search field (docs.filterMap (carried? · field)))) _ _ :=
    leads_onPrimary (leads_findWith hknown) (fun _ _ router h => ⟨h.1, h.2.routed router⟩)
      fun _ _ h => h
  exact hfind.andThen (Call.leads_pure fun s hs => ⟨rfl, hs⟩)

/-- Of the rows that are found and have one key text the last one gives the
identity. -/
theorem get?_identities_of_last {vs : List Value} {before later : List Row} {v : Value}
    (hname : Text.hasChar '.' field = false) (hrows : t.rows = before ++ row :: later)
    (hhas : hasOneOf columns field vs row = true) (hvalue : row.get? field = some v)
    (hlast : ∀ r ∈ later, ∀ w, r.get? field = some w →
      (Value.ofJson w.toJson).key ≠ (Value.ofJson v.toJson).key) :
    (identities entity field (recordsWith columns t field vs)).get? (Value.ofJson v.toJson).key =
      some (carried? (Row.toJson (Tables.bareColumns row)) entity.idField) := by
  have hown : ((Row.toJson (Tables.bareColumns row)).get? field).map (fun j =>
      ((Value.ofJson j).key, carried? (Row.toJson (Tables.bareColumns row)) entity.idField)) =
      some ((Value.ofJson v.toJson).key,
        carried? (Row.toJson (Tables.bareColumns row)) entity.idField) := by
    rw [get?_record hname, hvalue]
    rfl
  rw [identities, recordsWith, hrows, List.filter_append, List.filter_cons_of_pos hhas,
    List.map_append, List.map_cons, List.filterMap_append]
  simp only [List.filterMap_cons, hown]
  apply Fields.get?_ofList_of_last
  intro p hp
  obtain ⟨record, hrecord, hp⟩ := List.mem_filterMap.mp hp
  obtain ⟨r, hr, rfl⟩ := List.mem_map.mp hrecord
  obtain ⟨j, hj, rfl⟩ := Option.map_eq_some_iff.mp hp
  obtain ⟨w, hw, rfl⟩ := get?_record_eq_some hj
  exact hlast r (List.mem_filter.mp hr).1 w hw

/-- An item is persisted when its row is among those that are read again. -/
theorem persisted_of_row {doc : Fields Json} {vs : List Value}
    (hname : Text.hasChar '.' field = false) (hrow : row ∈ t.rows)
    (hsound : ∀ p ∈ doc, p.2.isSound = true)
    (hcarried : ∀ v, carried? doc field = some v → v ∈ vs)
    (hstored : ∀ j, doc.get? field = some j → j.isNull = false → row.get? field =
      some (((inMemory entity settings).scope columns).bind field (some j))) :
    (itemReport field (identities entity field (recordsWith columns t field vs)) doc).persisted =
      true := by
  unfold itemReport
  cases hfound : carried? doc field with
  | none => rfl
  | some v =>
    obtain ⟨j, hj, rfl⟩ := Option.map_eq_some_iff.mp hfound
    obtain ⟨hget, hnull⟩ := Option.filter_eq_some_iff.mp hj
    rw [Bool.not_eq_true'] at hnull
    have hvalue := hstored j hget hnull
    have hjsound : j.isSound = true := hsound _ (Fields.mem_of_get? hget)
    have hhas : hasOneOf columns field vs row = true :=
      hasOneOf_of_bind hnull hjsound hvalue (hcarried _ hfound)
    have hmem : (Tables.bareColumns row).toJson ∈ recordsWith columns t field vs :=
      List.mem_map.mpr ⟨row, List.mem_filter.mpr ⟨hrow, hhas⟩, rfl⟩
    have hcontains : Fields.contains
        (identities entity field (recordsWith columns t field vs)) (Value.ofJson j).key = true := by
      rw [Fields.contains_iff, identities, Fields.mem_keys_ofList]
      refine List.mem_map.mpr ⟨((Value.ofJson j).key,
        carried? (Row.toJson (Tables.bareColumns row)) entity.idField), ?_, rfl⟩
      refine List.mem_filterMap.mpr ⟨_, hmem, ?_⟩
      rw [get?_record hname, hvalue, ← key_bind entity settings columns field hjsound]
      rfl
    obtain ⟨id, hid⟩ := Option.isSome_iff_exists.mp hcontains
    dsimp only
    rw [hid]

end Relational

end EntityStore
