-- The identities in the records that a write to a table gives. A record has
-- the identity of its item or else the one that is read again from its row, and
-- a later item may have written over the row in the meantime.
import EntityStore.Proofs.Batch.Arriving
import EntityStore.Proofs.Store.Finding

namespace EntityStore

open Call (Ends Leads Keeps)
open Flat (IsName)

/-- The store finds records for each identity that one of these records
has. -/
def Store.Knows {σ : Type} (st : Store σ) (s : σ) (records : List Record) : Prop :=
  ∀ r ∈ records, ∀ id, Json.present? r.fields st.entity.idField = some id →
    ∃ found next, (st.findBy st.entity.idField [.ofJson id]).on s = (.ok found, next) ∧ found ≠ []

/-! ## Rows with an identity -/

namespace Relational

variable {entity : Entity} {settings : Settings} {t : Tables.Table} {columns : Columns}
  {ts : Tables} {field : String} {row : Row}

/-- The table has a row with an identity. -/
def HasIdentity (entity : Entity) (columns : Columns) (t : Tables.Table) (id : Json) : Prop :=
  ∃ row ∈ t.rows, hasOneOf columns entity.idField [.ofJson id] row = true

theorem hasIdentity_of_agrees {id : Json} {w : Value}
    (hscalar : columns.isJson entity.idField = false) (hrow : row ∈ t.rows)
    (hw : row.get? entity.idField = some w) (hagrees : Value.agrees w (.ofJson id) = true) :
    HasIdentity entity columns t id :=
  ⟨row, hrow, (hasOneOf_iff hscalar).mpr ⟨w, hw, _, List.mem_singleton_self _, hagrees⟩⟩

theorem knows_of_hasIdentity {records : List Record} {s : State Tables.Engine}
    (hname : IsName entity.idField) (hknown : Fields.contains columns entity.idField = true)
    (hs : Holds True entity t columns ts s)
    (hrecords : ∀ r ∈ records, ∀ id, Json.present? r.fields entity.idField = some id →
      HasIdentity entity columns t id) :
    (inMemory entity settings).store.Knows s records := by
  intro r hr id hid
  obtain ⟨row, hrow, hhas⟩ := hrecords r hr id hid
  obtain ⟨next, hon, -⟩ := on_findBy settings [.ofJson id] hname
    (Bool.or_eq_true_iff.mpr (.inr hknown)) hs
  refine ⟨_, next, hon, ?_⟩
  exact List.ne_nil_of_mem (List.mem_map_of_mem (List.mem_filter.mpr ⟨hrow, hhas⟩))

/-- What is read again for a key is the identity of a record with that key. -/
theorem get?_identities_eq_some {key : String} {rows : List (Fields Json)} {id : Option Value}
    (h : (identities entity field rows).get? key = some id) :
    ∃ record ∈ rows, id = carried? record entity.idField ∧
      ∃ j, record.get? field = some j ∧ (Value.ofJson j).key = key := by
  obtain ⟨record, hrecord, hpair⟩ := List.mem_filterMap.mp (Batch.mem_of_get?_ofList h)
  obtain ⟨j, hj, heq⟩ := Option.map_eq_some_iff.mp hpair
  cases heq
  exact ⟨record, hrecord, rfl, j, hj, rfl⟩

/-- An item that is reported as persisted has been found again by its key. -/
theorem exists_of_persisted {stored : Fields (Option Value)} {doc : Fields Json} {key : Value}
    (h : (itemReport field stored doc).persisted = true) (hkey : carried? doc field = some key) :
    ∃ id, stored.get? key.key = some id := by
  unfold itemReport at h
  rw [hkey] at h
  dsimp only at h
  split at h
  · rename_i id hid
    exact ⟨id, hid⟩
  · cases h

/-- The identity that a report gives is that of a row. -/
theorem hasIdentity_of_report {vs : List Value} {doc : Fields Json} {v : Value} {id : Json}
    (hscalar : columns.isJson entity.idField = false)
    (hv : (itemReport field (identities entity field (recordsWith columns t field vs)) doc).id =
      some v) (hid : id = v.toJson) (hnull : id.isNull = false) :
    HasIdentity entity columns t id := by
  obtain ⟨key, -, hget⟩ := Batch.id_of_itemReport hv
  obtain ⟨record, hrecord, hcarried, -⟩ := get?_identities_eq_some hget
  obtain ⟨row, hrow, rfl⟩ := List.mem_map.mp hrecord
  obtain ⟨j, hj, hjnull, rfl⟩ := carried?_eq_some hcarried.symm
  obtain ⟨w, hw, rfl⟩ := get?_record_eq_some hj
  rw [hid] at hnull
  refine hasIdentity_of_agrees hscalar (List.mem_filter.mp hrow).1 hw ?_
  rw [hid, Value.ofJson_toJson_of_isNull (hnull.trans hjnull.symm)]
  exact Value.agrees_ofJson_toJson hjnull

end Relational

/-! ## Records with an identity -/

namespace Batch

open Relational (inMemory Holds knownColumns HasIdentity reportOf recordsWith identities
  itemReport carried?)

variable {entity : Entity} {settings : Settings} {t next : Tables.Table} {columns : Columns}
  {ts : Tables} {b : Batch} {existing : Fields (Fields Json)} {doc : Fields Json} {row : Row}
  {k : Kind}

theorem written?_eq_some {idField : String} {report : ItemReport} {r : Record} {id : Json}
    (h : written? idField doc (some report) = some r) (hid : Json.present? doc idField = some id) :
    report.persisted = true ∧ r = .ofStored doc := by
  obtain ⟨persisted, given⟩ := report
  unfold written? at h
  split at h
  · rename_i heq
    cases heq
    cases h
    rw [hid]
    exact ⟨rfl, rfl⟩
  · rename_i heq
    cases heq
    cases h
    exact ⟨rfl, rfl⟩
  · cases h

/-- The identities of records are found if those are that the items were
written with. The others are read from rows. -/
theorem hasIdentity_of_reported {field : String} {docs : List (Fields Json)} {r : Record}
    {id : Json} (hscalar : columns.isJson entity.idField = false)
    (hown : ∀ doc ∈ docs, ∀ id, Json.present? doc entity.idField = some id →
      (itemReport field (identities entity field (recordsWith columns t field
        (docs.filterMap (carried? · field)))) doc).persisted = true →
      HasIdentity entity columns t id)
    (hr : r ∈ reconcile entity docs (reportOf entity columns t field docs))
    (hid : Json.present? r.fields entity.idField = some id) : HasIdentity entity columns t id := by
  rw [reportOf, reconcile_map] at hr
  obtain ⟨doc, hdoc, hwritten⟩ := List.mem_filterMap.mp hr
  cases hpresent : Json.present? doc entity.idField with
  | none =>
    obtain ⟨v, hv, hread⟩ := id_of_written hpresent hwritten hid
    have hnull : id.isNull = false := by simpa using (Option.filter_eq_some_iff.mp hid).2
    exact Relational.hasIdentity_of_report hscalar hv hread hnull
  | some own =>
    obtain ⟨hpersisted, rfl⟩ := written?_eq_some hwritten hpresent
    exact hown doc hdoc id hid hpersisted

/-! ## Creating in a table -/

theorem leads_create_knows (settings : Settings) (b : Batch)
    (hnames : ∀ c ∈ t.shape.columns.keys, IsName c)
    (hcolumn : entity.idField ∈ t.shape.columns.keys)
    (hknown : Fields.contains columns entity.idField = true)
    (hscalar : columns.isJson entity.idField = false)
    (hsound : ∀ doc ∈ b.items, ∀ p ∈ doc, p.2.isSound = true) :
    Leads (Holds True entity t columns ts) (b.create (inMemory entity settings).store)
      (fun records s => (inMemory entity settings).store.Knows s records) (fun _ => True) := by
  have hinsert : Ends (Holds True entity t columns ts)
      ((inMemory entity settings).store.insert b.items) _ (fun _ _ => True) :=
    (Relational.leads_write hnames b.items (Relational.confirmationKey entity b.items)
      []).weakenError fun _ _ => trivial
  refine (ends_create_of (fun _ _ _ => trivial) Relational.keeps_search hinsert).weaken ?_
    fun _ _ h => h
  rintro _ s ⟨_, ⟨n, next, hwritten, rfl, hs⟩, rfl⟩
  refine Relational.knows_of_hasIdentity (hnames _ hcolumn) hknown hs fun r hr id hid =>
    hasIdentity_of_reported hscalar (fun doc hdoc own hown _ => ?_) hr hid
  obtain ⟨hnamed, rows, nextId, rfl, hincoming⟩ := Tables.insert_of_plain rfl hwritten
  obtain ⟨row, hrow, n, hn, rfl, hlast⟩ :=
    exists_of_mem_forall₂ (List.forall₂_map_left_iff.mp hincoming) hdoc
  have hstores : Relational.Stores entity settings columns t nextId doc _ :=
    Relational.stores_of_incoming hdoc hnamed hn hlast
  obtain ⟨hget, hnull⟩ := Option.filter_eq_some_iff.mp hown
  rw [Bool.not_eq_true'] at hnull
  exact ⟨_, List.mem_append_right _ hrow, Relational.hasOneOf_of_bind hnull
    (hsound doc hdoc _ (Fields.mem_of_get? hget))
    (Relational.stored_of_stores hstores hget hnull) (List.mem_singleton_self _)⟩

/-! ## Upserting in a table -/

/-- No item takes the identity of a row away from it. The items are met by the
identity, or they come without one, or the identity is the only key of the
table and all items have one. -/
inductive KeepsIdentities (b : Batch) (e : Entity) (t : Tables.Table) : Prop
  | byIdentity {k : Kind} (field : b.meetingField e = e.idField)
      (items : ∀ doc ∈ b.items, k.Allows (valueOf doc e.idField))
      (rows : ∀ row ∈ t.rows, k.Allows ((row.get? e.idField).getD .null))
  | withoutIdentities (items : e.idField ∉ Fields.allKeys b.items)
  | onlyKey {k : Kind} (primary : t.shape.primaryKey = e.idField) (only : t.shape.uniqueKeys = [])
      (items : ∀ doc ∈ b.items, k.Has (valueOf doc e.idField))
      (rows : ∀ row ∈ t.rows, ∃ v, row.get? e.idField = some v ∧ k.Has v)

/-- Where the items are met by the identity, the row that an item was found
again by has its identity. -/
theorem hasIdentity_of_met (hscalar : columns.isJson entity.idField = false)
    (hrows : ∀ row ∈ next.rows, k.Allows ((row.get? entity.idField).getD .null)) {id : Json}
    {vs : List Value} (hid : Json.present? doc entity.idField = some id)
    (hhas : k.Has (.ofJson id))
    (hpersisted : (itemReport entity.idField (identities entity entity.idField
      (recordsWith columns next entity.idField vs)) doc).persisted = true) :
    HasIdentity entity columns next id := by
  have hcarried : carried? doc entity.idField = some (.ofJson id) := by
    rw [carried?, hid]
    rfl
  obtain ⟨found, hfound⟩ := Relational.exists_of_persisted hpersisted hcarried
  obtain ⟨record, hrecord, -, j, hj, hkey⟩ := Relational.get?_identities_eq_some hfound
  obtain ⟨row, hrow, rfl⟩ := List.mem_map.mp hrecord
  obtain ⟨hrow, hone⟩ := List.mem_filter.mp hrow
  obtain ⟨w, hw, rfl⟩ := Relational.get?_record_eq_some hj
  obtain ⟨w', hw', v, -, hagrees⟩ := (Relational.hasOneOf_iff hscalar).mp hone
  cases hw.symm.trans hw'
  have hallows := hrows row hrow
  rw [hw, Option.getD_some] at hallows
  have hasValue : k.Has w := by
    rcases hallows with rfl | hasValue
    · cases hagrees
    · exact hasValue
  rw [hasValue.ofJson_toJson] at hkey
  refine Relational.hasIdentity_of_agrees hscalar hrow hw ?_
  rw [hasValue.key_inj hhas hkey]
  exact (hhas.agrees_iff hhas).mpr rfl

/-- An item that is written with an identity comes in with it. -/
theorem get?_arrives_identity (h : Upserted b entity settings columns existing t next)
    (hscalar : columns.isJson entity.idField = false) (hdoc : doc ∈ b.items) {id : Json}
    (hid : Json.present? (b.written entity existing doc) entity.idField = some id) {n : Int}
    (hn : t.nextId ≤ n) :
    (b.arrives entity settings columns existing t doc n).get? entity.idField = some (.ofJson id) := by
  obtain ⟨hget, hnull⟩ := Option.filter_eq_some_iff.mp hid
  rw [Bool.not_eq_true'] at hnull
  obtain ⟨last, hstores⟩ := h.stores hdoc hn
  rw [Relational.stored_of_stores hstores hget hnull, bind_of_scalar hscalar hnull]

/-- The items are written with identities of a kind. -/
theorem has_of_written (hitems : ∀ doc ∈ b.items, k.Allows (valueOf doc entity.idField))
    (hstored : ∀ row ∈ t.rows, k.Allows ((row.get? entity.idField).getD .null))
    (hdoc : doc ∈ b.items) {id : Json} (hfield : b.meetingField entity = entity.idField ∨
      ∀ row ∈ t.rows, ∃ v, row.get? entity.idField = some v)
    (hname : IsName entity.idField)
    (hid : Json.present? (b.written entity (b.met entity columns t) doc) entity.idField = some id) :
    k.Has (.ofJson id) := by
  obtain ⟨hget, hnull⟩ := Option.filter_eq_some_iff.mp hid
  rw [Bool.not_eq_true'] at hnull
  suffices hallows : k.Allows (.ofJson id) by
    refine hallows.resolve_left fun hnone => ?_
    rw [← Value.isNull_iff, Value.isNull_ofJson, hnull] at hnone
    cases hnone
  have hget : (b.written entity (b.met entity columns t) doc).get? entity.idField = some id := hget
  cases hmet : (b.met entity columns t).get? (valueOf doc (b.meetingField entity)).key with
  | none =>
    rw [written, completed_of_new hmet] at hget
    have hvalue := hitems doc hdoc
    rw [valueOf, hget] at hvalue
    exact hvalue
  | some stored =>
    obtain ⟨row, hrow, rfl, j, hj, -⟩ := met_eq_some hmet
    obtain ⟨w, hw⟩ : ∃ w, row.get? entity.idField = some w := by
      rcases hfield with hfield | hall
      · rw [hfield] at hj
        obtain ⟨w, hw, -⟩ := Relational.get?_record_eq_some hj
        exact ⟨w, hw⟩
      · exact hall row hrow
    have hrecord : (Row.toJson (Tables.bareColumns row)).get? entity.idField = some w.toJson := by
      rw [Relational.get?_record hname, hw]
      rfl
    cases hget.symm.trans (get?_completed_identity hmet hrecord)
    have hvalue := hstored row hrow
    rw [hw, Option.getD_some] at hvalue
    rcases hvalue with rfl | hvalue
    · cases hnull
    · rw [hvalue.ofJson_toJson]
      exact .inr hvalue

theorem exists_present_of_has {f : String} (h : k.Has (valueOf doc f)) :
    ∃ j, Json.present? doc f = some j := by
  cases hget : doc.get? f with
  | none =>
    rw [valueOf, hget] at h
    exact absurd h k.not_has_null
  | some j =>
    rw [valueOf, hget, Option.map_some, Option.getD_some] at h
    refine ⟨j, ?_⟩
    rw [Json.present?, hget, Option.filter_some, ← Value.isNull_ofJson, h.isNull]
    rfl

/-- By the identity every item is written with one. -/
theorem exists_present_of_byIdentity (hscalar : columns.isJson entity.idField = false)
    (hkeys : b.HasKeys (b.meetingField entity)) (hfield : b.meetingField entity = entity.idField)
    (hrows : ∀ row ∈ t.rows, k.Allows ((row.get? entity.idField).getD .null))
    (hdoc : doc ∈ b.items) :
    ∃ id, Json.present? (b.written entity (b.met entity columns t) doc) entity.idField =
      some id := by
  cases hmet : (b.met entity columns t).get? (valueOf doc (b.meetingField entity)).key with
  | none =>
    obtain ⟨j, hj, hnull⟩ := hkeys doc hdoc
    rw [written, completed_of_new hmet, Json.present?, ← hfield, hj, Option.filter_some, hnull]
    exact ⟨j, rfl⟩
  | some stored =>
    obtain ⟨row, hrow, rfl, hone, j, hj, -⟩ := found_of_met hmet
    rw [hfield] at hj hone
    obtain ⟨w, hw, rfl⟩ := Relational.get?_record_eq_some hj
    obtain ⟨w', hw', v, -, hagrees⟩ := (Relational.hasOneOf_iff hscalar).mp hone
    cases hw.symm.trans hw'
    have hvalue := hrows row hrow
    rw [hw, Option.getD_some] at hvalue
    rcases hvalue with rfl | hvalue
    · cases hagrees
    · have hnull : w.toJson.isNull = false := by
        rw [← Value.isNull_ofJson, hvalue.ofJson_toJson, hvalue.isNull]
      have hget : (b.written entity (b.met entity columns t) doc).get? entity.idField =
          some w.toJson := get?_completed_identity hmet hj
      rw [Json.present?, hget, Option.filter_some, hnull]
      exact ⟨w.toJson, rfl⟩

/-- With identities in all rows every item is written with one, if each has
one. -/
theorem exists_present_of_onlyKey (hname : IsName entity.idField)
    (hitems : ∀ doc ∈ b.items, k.Has (valueOf doc entity.idField))
    (hrows : ∀ row ∈ t.rows, ∃ v, row.get? entity.idField = some v ∧ k.Has v)
    (hdoc : doc ∈ b.items) :
    ∃ id, Json.present? (b.written entity (b.met entity columns t) doc) entity.idField =
      some id := by
  cases hmet : (b.met entity columns t).get? (valueOf doc (b.meetingField entity)).key with
  | none =>
    rw [written, completed_of_new hmet]
    exact exists_present_of_has (hitems doc hdoc)
  | some stored =>
    obtain ⟨row, hrow, rfl, -⟩ := met_eq_some hmet
    obtain ⟨v, hv, hvalue⟩ := hrows row hrow
    have hnull : v.toJson.isNull = false := by
      rw [← Value.isNull_ofJson, hvalue.ofJson_toJson, hvalue.isNull]
    have hrecord : (Row.toJson (Tables.bareColumns row)).get? entity.idField = some v.toJson := by
      rw [Relational.get?_record hname, hv]
      rfl
    have hget : (b.written entity (b.met entity columns t) doc).get? entity.idField =
        some v.toJson := get?_completed_identity hmet hrecord
    rw [Json.present?, hget, Option.filter_some, hnull]
    exact ⟨v.toJson, rfl⟩

section

variable (h : Upserted b entity settings columns (b.met entity columns t) t next)
  (hname : IsName entity.idField) (hscalar : columns.isJson entity.idField = false)

include h hname hscalar

theorem hasIdentity_of_byIdentity (hfield : b.meetingField entity = entity.idField)
    (hitems : ∀ doc ∈ b.items, k.Allows (valueOf doc entity.idField))
    (hrows : ∀ row ∈ t.rows, k.Allows ((row.get? entity.idField).getD .null))
    (hdoc : doc ∈ b.items) {id : Json} {vs : List Value}
    (hid : Json.present? (b.written entity (b.met entity columns t) doc) entity.idField = some id)
    (hpersisted : (itemReport entity.idField (identities entity entity.idField
      (recordsWith columns next entity.idField vs))
      (b.written entity (b.met entity columns t) doc)).persisted = true) :
    HasIdentity entity columns next id := by
  have hnext : ∀ row ∈ next.rows, k.Allows ((row.get? entity.idField).getD .null) := by
    refine h.forall_row (fun d hd n hn => ?_) (fun d hd n hn row hrow _ => ?_) hrows
    · obtain ⟨own, hown⟩ := exists_present_of_byIdentity hscalar h.present hfield hrows hd
      rw [get?_arrives_identity h hscalar hd hown hn]
      exact .inr (has_of_written hitems hrows hd (.inl hfield) hname hown)
    · have hkept : (b.overwrites entity settings columns (b.met entity columns t) t d n row).get?
          entity.idField = row.get? entity.idField :=
        Tables.get?_takeFrom_of_not_mem (hfield ▸ not_mem_takenOver_self)
      rwa [hkept]
  exact hasIdentity_of_met hscalar hnext hid
    (has_of_written hitems hrows hdoc (.inl hfield) hname hid) hpersisted

omit hname in
theorem hasIdentity_of_withoutIdentities (hitems : entity.idField ∉ Fields.allKeys b.items)
    (hdoc : doc ∈ b.items) {id : Json}
    (hid : Json.present? (b.written entity (b.met entity columns t) doc) entity.idField =
      some id) : HasIdentity entity columns next id := by
  have hnone : ∀ f j, doc.get? f = some j → f ≠ entity.idField := by
    rintro f j hj rfl
    refine hitems (Fields.mem_allKeys.mpr ⟨doc, hdoc, Fields.contains_iff.mp ?_⟩)
    rw [Fields.contains, hj]
    rfl
  obtain ⟨hget, hnull⟩ := Option.filter_eq_some_iff.mp hid
  rw [Bool.not_eq_true'] at hnull
  cases hmet : (b.met entity columns t).get? (valueOf doc (b.meetingField entity)).key with
  | none =>
    rw [written, completed_of_new hmet] at hget
    exact absurd rfl (hnone _ id hget)
  | some stored =>
    obtain ⟨row, hrow, rfl, -⟩ := met_eq_some hmet
    obtain ⟨own, hown, -⟩ := h.present doc hdoc
    rw [written, get?_completed_identity_of_not_mem hmet (hnone _ own hown).symm hitems] at hget
    obtain ⟨w, hw, rfl⟩ := Relational.get?_record_eq_some hget
    obtain ⟨later, hlater, hkept⟩ := h.exists_row (P := fun r => r.get? entity.idField = some w)
      (fun d _ n _ r hr _ => (Tables.get?_takeFrom_of_not_mem fun hmem =>
        hitems (mem_of_mem_takenOver hmem).1).trans hr) ⟨row, hrow, hw⟩
    exact Relational.hasIdentity_of_agrees hscalar hlater hkept (Value.agrees_ofJson_toJson hnull)

/-! ### The identity as the only key -/

variable (hprimary : t.shape.primaryKey = entity.idField) (honly : t.shape.uniqueKeys = [])
  (hitems : ∀ doc ∈ b.items, k.Has (valueOf doc entity.idField))
  (hrows : ∀ row ∈ t.rows, ∃ v, row.get? entity.idField = some v ∧ k.Has v)

include hitems hrows

omit h hscalar in
theorem exists_identity_of_onlyKey (hdoc : doc ∈ b.items) : ∃ own,
    Json.present? (b.written entity (b.met entity columns t) doc) entity.idField = some own ∧
      k.Has (.ofJson own) := by
  obtain ⟨own, hown⟩ := exists_present_of_onlyKey hname hitems hrows hdoc
  refine ⟨own, hown, has_of_written (fun d hd => .inr (hitems d hd)) (fun row hrow => ?_) hdoc
    (.inr fun row hrow => ?_) hname hown⟩
  · obtain ⟨v, hv, hvalue⟩ := hrows row hrow
    rw [hv]
    exact .inr hvalue
  · obtain ⟨v, hv, -⟩ := hrows row hrow
    exact ⟨v, hv⟩

include hprimary honly

/-- A row that shares its key with an item has the identity of the item, and
keeps it. -/
theorem get?_overwrites_identity (hdoc : doc ∈ b.items) {n : Int} (hn : t.nextId ≤ n) {row : Row}
    {v : Value} (hv : row.get? entity.idField = some v) (hvalue : k.Has v)
    (hshares : Tables.SharesKey t.shape row
      (b.arrives entity settings columns (b.met entity columns t) t doc n)) :
    (b.arrives entity settings columns (b.met entity columns t) t doc n).get? entity.idField =
        some v ∧
      (b.overwrites entity settings columns (b.met entity columns t) t doc n row).get?
        entity.idField = some v := by
  obtain ⟨own, hown, hhas⟩ := exists_identity_of_onlyKey hname hitems hrows hdoc
  have harrives := get?_arrives_identity h hscalar hdoc hown hn
  obtain ⟨w, u, hw, hu, hagrees⟩ := Tables.agrees_of_sharesKey honly hshares
  rw [hprimary] at hw hu
  cases hw.symm.trans hv
  cases hu.symm.trans harrives
  obtain rfl := (hvalue.agrees_iff hhas).mp hagrees
  refine ⟨harrives, (Tables.get?_takeFrom_of_shows fun u hu => ?_).trans hv⟩
  cases hu.symm.trans harrives
  exact ⟨_, hv, Value.beq_self _⟩

theorem hasIdentity_of_onlyKey (hdoc : doc ∈ b.items) {id : Json}
    (hid : Json.present? (b.written entity (b.met entity columns t) doc) entity.idField =
      some id) : HasIdentity entity columns next id := by
  obtain ⟨_, hown, hhas⟩ := exists_identity_of_onlyKey hname hitems hrows hdoc
  cases hid.symm.trans hown
  have harrives : ∀ n, t.nextId ≤ n →
      (b.arrives entity settings columns (b.met entity columns t) t doc n).get? entity.idField =
        some (.ofJson id) := fun n hn => get?_arrives_identity h hscalar hdoc hid hn
  have hkeep : ∀ d ∈ b.items, ∀ n, t.nextId ≤ n → ∀ row v, row.get? entity.idField = some v →
      k.Has v → Tables.SharesKey t.shape row
        (b.arrives entity settings columns (b.met entity columns t) t d n) →
      (b.overwrites entity settings columns (b.met entity columns t) t d n row).get?
        entity.idField = some v := fun d hd n hn row v hv hvalue hshares =>
    (get?_overwrites_identity h hname hscalar hprimary honly hitems hrows hd hn hv hvalue hshares).2
  have hthere : ∃ row ∈ next.rows, row.get? entity.idField = some (.ofJson id) := by
    refine h.exists_of_own (Q := fun r => ∃ v, r.get? entity.idField = some v ∧ k.Has v) hdoc
      (fun d hd n hn => ?_) ?_ hrows harrives ?_
      fun d hd n hn row hP hshares => hkeep d hd n hn row _ hP hhas hshares
    · obtain ⟨own, hown, hvalue⟩ := exists_identity_of_onlyKey hname hitems hrows hd
      exact ⟨_, get?_arrives_identity h hscalar hd hown hn, hvalue⟩
    · rintro d hd n hn row ⟨v, hv, hvalue⟩ hshares
      exact ⟨v, hkeep d hd n hn row v hv hvalue hshares, hvalue⟩
    · rintro n hn row ⟨v, hv, hvalue⟩ hshares
      obtain ⟨hcame, hafter⟩ := get?_overwrites_identity h hname hscalar hprimary honly hitems hrows
        hdoc hn hv hvalue hshares
      exact hafter.trans (hcame.symm.trans (harrives n hn))
  obtain ⟨row, hrow, hrowId⟩ := hthere
  exact Relational.hasIdentity_of_agrees hscalar hrow hrowId ((hhas.agrees_iff hhas).mpr rfl)

end

/-- An identity that an item was written with is that of a row in the end, if
the item was persisted. -/
theorem KeepsIdentities.hasIdentity (hkeeps : KeepsIdentities b entity t)
    (h : Upserted b entity settings columns (b.met entity columns t) t next)
    (hname : IsName entity.idField) (hscalar : columns.isJson entity.idField = false)
    (hdoc : doc ∈ b.items) {id : Json} {vs : List Value}
    (hid : Json.present? (b.written entity (b.met entity columns t) doc) entity.idField = some id)
    (hpersisted : (itemReport (b.meetingField entity) (identities entity (b.meetingField entity)
      (recordsWith columns next (b.meetingField entity) vs))
      (b.written entity (b.met entity columns t) doc)).persisted = true) :
    HasIdentity entity columns next id := by
  cases hkeeps with
  | byIdentity hfield hitems hrows =>
    rw [hfield] at hpersisted
    exact hasIdentity_of_byIdentity h hname hscalar hfield hitems hrows hdoc hid hpersisted
  | withoutIdentities hitems => exact hasIdentity_of_withoutIdentities h hscalar hitems hdoc hid
  | onlyKey hprimary honly hitems hrows =>
    exact hasIdentity_of_onlyKey h hname hscalar hprimary honly hitems hrows hdoc hid

theorem leads_upsert_knows (settings : Settings) (hkeeps : KeepsIdentities b entity t)
    (hnames : ∀ c ∈ t.shape.columns.keys, IsName c)
    (hcover : ∀ c ∈ t.shape.columns.keys, Fields.contains columns c = true)
    (hcolumn : entity.idField ∈ t.shape.columns.keys)
    (hscalar : columns.isJson entity.idField = false) {s : Relational.State Tables.Engine}
    (hs : Holds True entity t columns ts s) :
    Leads (fun s' => s' = s) (b.upsert (inMemory entity settings).store)
      (fun records s => (inMemory entity settings).store.Knows s records) (fun _ => True) := by
  refine (leads_upsert_met hnames hcover hs).weaken ?_ fun _ h => h
  rintro _ after ⟨next, hupserted, hafter, rfl⟩
  refine Relational.knows_of_hasIdentity (hnames _ hcolumn) (hcover _ hcolumn) hafter
    fun r hr id hid => hasIdentity_of_reported hscalar ?_ hr hid
  simp only [List.forall_mem_map]
  exact fun doc hdoc id hid => hkeeps.hasIdentity hupserted (hnames _ hcolumn) hscalar hdoc hid

end Batch

end EntityStore
