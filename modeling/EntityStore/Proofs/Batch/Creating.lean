-- Creating a batch in a table. Either the call fails and no table has
-- changed, or every item has become one row behind the rows that were there,
-- and one record is given for each item.
import EntityStore.Proofs.Batch.Checking
import EntityStore.Proofs.Store.Flat
import EntityStore.Proofs.Store.Writing

namespace EntityStore

theorem exists_of_mem_forall₂ {α β : Type} {R : α → β → Prop} {as : List α} {bs : List β}
    (h : List.Forall₂ R as bs) {a : α} (ha : a ∈ as) : ∃ b ∈ bs, R a b := by
  induction h with
  | nil => cases ha
  | @cons c b as bs hcb _ ih =>
    rcases List.mem_cons.mp ha with rfl | ha
    · exact ⟨b, List.mem_cons_self, hcb⟩
    · obtain ⟨b', hb', hab⟩ := ih ha
      exact ⟨b', List.mem_cons_of_mem b hb', hab⟩

theorem getElem?_of_forall₂ {α β : Type} {R : α → β → Prop} {as : List α} {bs : List β}
    (h : List.Forall₂ R as bs) {i : Nat} {b : β} (hb : bs[i]? = some b) :
    ∃ a, as[i]? = some a ∧ R a b := by
  induction h generalizing i with
  | nil => cases hb
  | @cons a c as bs hac _ ih =>
    cases i with
    | zero =>
      cases hb
      exact ⟨a, rfl, hac⟩
    | succ i => exact ih hb

namespace Relational

open Call (Leads Keeps)
open Flat (IsName)

variable {entity : Entity} {settings : Settings} {t : Tables.Table} {columns : Columns}
  {ts : Tables}

/-! ## What a new row is -/

/-- A row is what the table makes of an item. Every field of the item is a
column. Each column has the item's value, as statements that know the columns
bind it, and null where the item has none. Only the primary key of an item
that comes without one is given by the table, whose count goes on behind it. -/
structure Stores (entity : Entity) (settings : Settings) (columns : Columns) (t : Tables.Table)
    (last : Int) (doc : Fields Json) (row : Row) : Prop where
  named : ∀ f ∈ doc.keys, Fields.contains t.shape.columns f = true
  value : ∀ c, c ≠ t.shape.primaryKey → row.get? c =
    if Fields.contains t.shape.columns c then
      some (((inMemory entity settings).scope columns).bind c (doc.get? c))
    else none
  key : if (Json.present? doc t.shape.primaryKey).isSome then
      row.get? t.shape.primaryKey = some (((inMemory entity settings).scope columns).bind
        t.shape.primaryKey (doc.get? t.shape.primaryKey))
    else ∃ n, t.nextId ≤ n ∧ n < last ∧
      row.get? t.shape.primaryKey = some (.int (Tables.word n))

theorem isNull_bind {c : String} {doc : Fields Json} :
    (((inMemory entity settings).scope columns).bind c (doc.get? c)).isNull =
      (Json.present? doc c).isNone := by
  rw [Json.present?]
  cases Fields.get? doc c with
  | none => rfl
  | some j =>
    unfold Plan.Scope.bind
    cases j with
    | null => rfl
    | int n =>
      dsimp only
      split
      · rfl
      · rw [Value.ofJson]
        split <;> rfl
    | _ =>
      dsimp only
      split <;> rfl

theorem stores_of_incoming {docs : List (Fields Json)} {doc : Fields Json} (hdoc : doc ∈ docs)
    (hcolumns : ∀ c ∈ Fields.allKeys docs, Fields.contains t.shape.columns c = true) {n last : Int}
    (hn : t.nextId ≤ n)
    (hlast : (Tables.assignId t.shape (incoming entity settings columns t.shape docs doc) n).2 ≤
      last) :
    Stores entity settings columns t last doc
      (Tables.assignId t.shape (incoming entity settings columns t.shape docs doc) n).1 := by
  have hrow : ∀ c, (incoming entity settings columns t.shape docs doc).get? c = _ :=
    get?_incoming hdoc hcolumns
  have hnamed : ∀ f ∈ doc.keys, Fields.contains t.shape.columns f = true :=
    fun f hf => hcolumns f (Fields.mem_allKeys.mpr ⟨doc, hdoc, hf⟩)
  refine ⟨hnamed, fun c hc => (Tables.get?_assignId_of_ne hc).trans (hrow c), ?_⟩
  have hself := Tables.get?_assignId_self t.shape
    (incoming entity settings columns t.shape docs doc) n
  have hkey := hrow t.shape.primaryKey
  have hnull : (((inMemory entity settings).scope columns).bind t.shape.primaryKey
      (doc.get? t.shape.primaryKey)).isNull = _ := isNull_bind
  split
  · rename_i hpresent
    obtain ⟨j, hj⟩ := Option.isSome_iff_exists.mp hpresent
    obtain ⟨hget, -⟩ := Option.filter_eq_some_iff.mp hj
    have hcontains : Fields.contains t.shape.columns t.shape.primaryKey = true :=
      hnamed _ (Fields.contains_iff.mp (by rw [Fields.contains, hget]; rfl))
    rw [if_pos hcontains] at hkey
    rw [hj, Option.isNone_some] at hnull
    rw [hkey, Option.getD_some, hnull] at hself
    exact hself
  · rename_i hpresent
    rw [Bool.not_eq_true, Option.isSome_eq_false_iff] at hpresent
    rw [hpresent] at hnull
    have hid : (((incoming entity settings columns t.shape docs doc).get?
        t.shape.primaryKey).getD .null).isNull = true := by
      rw [hkey]
      split
      · exact hnull
      · rfl
    rw [hid] at hself
    rw [Tables.assignId_of_isNull hid] at hlast
    exact ⟨n, hn, Int.lt_of_lt_of_le (Int.lt_succ n) hlast, hself⟩

/-! ## The insert -/

/-- The names of the table's columns are no paths. -/
def Plain (t : Tables.Table) : Prop := ∀ c ∈ t.shape.columns.keys, IsName c

/-- The values of the fields can be written down. -/
def SoundFields (doc : Fields Json) : Prop := ∀ p ∈ doc, p.2.isSound = true

/-- The row of an item is found again by the field that confirms it. -/
theorem stored_of_stores {doc : Fields Json} {row : Row} {last : Int}
    (h : Stores entity settings columns t last doc row) {field : String} {j : Json}
    (hj : doc.get? field = some j) (hnull : j.isNull = false) :
    row.get? field = some (((inMemory entity settings).scope columns).bind field (some j)) := by
  have hmem : field ∈ doc.keys := Fields.contains_iff.mp (by rw [Fields.contains, hj]; rfl)
  by_cases hfield : field = t.shape.primaryKey
  · subst hfield
    have hpresent : (Json.present? doc t.shape.primaryKey).isSome = true := by
      rw [Json.present?, hj]
      simp [Option.filter, hnull]
    have hkey := h.key
    rw [if_pos hpresent, hj] at hkey
    exact hkey
  · rw [h.value field hfield, if_pos (h.named field hmem), hj]

/-- What is said of the items of a batch that was stored: each has a row
behind the rows that were there, and each is reported as persisted. -/
structure Inserted (entity : Entity) (settings : Settings) (columns : Columns) (t : Tables.Table)
    (ts : Tables) (docs : List (Fields Json)) (report : WriteReport) (s : State Tables.Engine) :
    Prop where
  rows : ∃ rows nextId, s.timed.state.tables = Tables.Engine.store ts entity.storage
      { t with rows := t.rows ++ rows, nextId := nextId } ∧
    List.Forall₂ (Stores entity settings columns t nextId) docs rows
  report : List.Forall₂ (fun _ r => r.persisted = true) docs report

/-- An item whose row is in the table is reported as persisted. -/
theorem persisted_of_stores {next : Tables.Table} {docs : List (Fields Json)} {row : Row}
    {doc : Fields Json} {last : Int} (hplain : Plain t) (hsound : SoundFields doc) (hdoc : doc ∈ docs)
    (hrow : row ∈ next.rows) (hstores : Stores entity settings columns t last doc row) (field : String) :
    (itemReport field (identities entity field (recordsWith columns next field
      (docs.filterMap (carried? · field)))) doc).persisted = true := by
  cases hcarried : carried? doc field with
  | none => rw [itemReport, hcarried]
  | some v =>
    have hname : IsName field := hplain field (Fields.contains_iff.mp
      (hstores.named field (mem_keys_of_carried hcarried)))
    exact persisted_of_row hname hrow hsound
      (fun v hv => List.mem_filterMap.mpr ⟨doc, hdoc, hv⟩)
      fun j hj hnull => stored_of_stores hstores hj hnull

theorem leads_insert {docs : List (Fields Json)} (hplain : Plain t)
    (hsound : ∀ doc ∈ docs, SoundFields doc) :
    Leads (Holds True entity t columns ts) ((inMemory entity settings).insert docs)
      (Inserted entity settings columns t ts docs) (fun s => s.timed.state.tables = ts) := by
  refine (leads_write hplain docs (confirmationKey entity docs) []).weaken ?_ fun _ h => h.1
  rintro report s ⟨n, next, hinsert, rfl, hs⟩
  obtain ⟨hnamed, rows, nextId, rfl, hincoming⟩ := Tables.insert_of_plain rfl hinsert
  have hrows : List.Forall₂ (Stores entity settings columns t nextId) docs rows := by
    refine ((List.forall₂_and_left docs rows).mpr
      ⟨fun _ h => h, List.forall₂_map_left_iff.mp hincoming⟩).imp ?_
    rintro doc row ⟨hdoc, n, hn, rfl, hlast⟩
    exact stores_of_incoming hdoc hnamed hn hlast
  refine ⟨⟨rows, nextId, hs.tables, hrows⟩, ?_⟩
  rw [reportOf, List.forall₂_map_right_iff, List.forall₂_same]
  intro doc hdoc
  obtain ⟨row, hmem, hstores⟩ := exists_of_mem_forall₂ hrows hdoc
  exact persisted_of_stores hplain (hsound doc hdoc) hdoc (List.mem_append_right _ hmem) hstores _

end Relational

namespace Batch

open Call (Ends Leads Keeps)
open Relational (inMemory Holds knownColumns Inserted Stores Plain SoundFields carried? itemReport)

variable {entity : Entity} {settings : Settings} {t : Tables.Table} {columns : Columns}
  {ts : Tables}

/-! ## Records of items -/

/-- A record is that of an item: the item itself, and the identity that the
table gave it where the item has none. -/
def IsRecordOf (e : Entity) (doc : Fields Json) (r : Record) : Prop :=
  r = .ofStored doc ∨
    Json.present? doc e.idField = none ∧ ∃ id, r = .ofStored (doc.insert e.idField id)

theorem written?_of_persisted (e : Entity) (doc : Fields Json) {r : ItemReport}
    (h : r.persisted = true) :
    ∃ record, written? e.idField doc (some r) = some record ∧ IsRecordOf e doc record := by
  obtain ⟨persisted, id⟩ := r
  subst h
  cases id with
  | none => exact ⟨_, rfl, .inl rfl⟩
  | some id =>
    refine ⟨_, rfl, ?_⟩
    split
    · rename_i hnone
      exact .inr ⟨Option.isNone_iff_eq_none.mp hnone, id.toJson, rfl⟩
    · exact .inl rfl

-- The places count from the start of the whole report, so the induction on
-- the items runs behind the part of the report that is done.
theorem forall₂_written (e : Entity) {docs : List (Fields Json)} {report : WriteReport}
    (h : List.Forall₂ (fun _ r => r.persisted = true) docs report) (done : WriteReport) :
    List.Forall₂ (IsRecordOf e) docs ((docs.zipIdx done.length).filterMap fun p =>
      written? e.idField p.1 (done ++ report)[p.2]?) := by
  induction h generalizing done with
  | nil => exact .nil
  | @cons doc r docs report hr _ ih =>
    obtain ⟨record, hrecord, hof⟩ := written?_of_persisted e doc hr
    have hplace : (done ++ r :: report)[done.length]? = some r := by simp
    have hrest := ih (done ++ [r])
    rw [List.length_append, List.length_singleton, List.append_assoc, List.singleton_append]
      at hrest
    rw [List.zipIdx_cons, List.filterMap_cons]
    dsimp only
    rw [hplace, hrecord]
    exact .cons hof hrest

/-- Each item that was persisted has one record, in the order of the items. -/
theorem forall₂_reconcile (e : Entity) {docs : List (Fields Json)} {report : WriteReport}
    (h : List.Forall₂ (fun _ r => r.persisted = true) docs report) :
    List.Forall₂ (IsRecordOf e) docs (reconcile e docs report) := by
  have hrecords := forall₂_written e h []
  rw [reconcile, numbered, List.filterMap_map]
  exact hrecords

/-! ## Records of reports -/

section

variable {docs : List (Fields Json)} {e : Entity} {doc : Fields Json} {g : Fields Json → ItemReport}

/-- The records of items whose reports are made of the items. -/
theorem reconcile_map (e : Entity) (docs : List (Fields Json)) (g : Fields Json → ItemReport) :
    reconcile e docs (docs.map g) =
      docs.filterMap fun doc => written? e.idField doc (some (g doc)) := by
  have hitems : (numbered docs).map (·.2) = docs := (map_numbered id docs).trans (List.map_id docs)
  have hplaces : ∀ p ∈ numbered docs, (docs.map g)[p.1]? = some (g p.2) := by
    intro p hp
    obtain ⟨q, hq, rfl⟩ := List.mem_map.mp hp
    rw [List.getElem?_map, List.mem_zipIdx_iff_getElem?.mp hq]
    rfl
  have hreports : reconcile e docs (docs.map g) =
      (numbered docs).filterMap fun p => written? e.idField p.2 (some (g p.2)) := by
    refine List.filterMap_congr ?_
    rintro ⟨i, doc⟩ hp
    dsimp only
    rw [hplaces (i, doc) hp]
  rw [hreports]
  conv => rhs; rw [← hitems, List.filterMap_map]
  rfl

/-- Where all items are persisted each has its record. -/
theorem forall₂_reconcile_map (e : Entity) (h : ∀ doc ∈ docs, (g doc).persisted = true) :
    List.Forall₂ (fun doc r => written? e.idField doc (some (g doc)) = some r) docs
      (reconcile e docs (docs.map g)) := by
  rw [reconcile_map]
  induction docs with
  | nil => exact .nil
  | cons doc docs ih =>
    rw [List.forall_mem_cons] at h
    obtain ⟨r, hr, -⟩ := written?_of_persisted e doc h.1
    simp only [List.filterMap_cons, hr]
    exact .cons hr (ih h.2)

/-- A record of an item without an identity has the one of the report. -/
theorem id_of_written {report : ItemReport} {r : Record} {id : Json}
    (hwithout : Json.present? doc e.idField = none)
    (h : written? e.idField doc (some report) = some r)
    (hid : Json.present? r.fields e.idField = some id) :
    ∃ v, report.id = some v ∧ id = v.toJson := by
  obtain ⟨persisted, given⟩ := report
  unfold written? at h
  split at h
  · rename_i v heq
    cases heq
    cases h
    have hget : Json.present? (doc.insert e.idField v.toJson) e.idField = some id := by
      rw [hwithout] at hid
      exact hid
    rw [Json.present?, Fields.get?_insert_self] at hget
    exact ⟨v, rfl, (Option.some.inj (Option.filter_eq_some_iff.mp hget).1).symm⟩
  · rename_i heq
    cases h
    cases hwithout.symm.trans hid
  · cases h

theorem id_of_itemReport {field : String} {stored : Fields (Option Value)} {v : Value}
    (h : (itemReport field stored doc).id = some v) :
    ∃ key, carried? doc field = some key ∧ stored.get? key.key = some (some v) := by
  unfold itemReport at h
  split at h
  · cases h
  · rename_i key hkey
    split at h
    · rename_i id hid
      dsimp only at h
      exact ⟨key, hkey, by rw [hid, h]⟩
    · cases h

end

/-! ## The batch -/

section

variable {σ : Type} {st : Store σ} {P : σ → Prop} {F : AccessError → σ → Prop}
  {Q : WriteReport → σ → Prop} {b : Batch}

/-- A create that passes its checks inserts all items. -/
theorem ends_create_checked {C : Prop} (hF : ∀ e s, P s → F e s)
    (hcheck : Ends P (b.checkUnlessDirect st st.entity.idField b.items) (fun _ s => C ∧ P s) F)
    (hinsert : Ends P (st.insert b.items) Q F) :
    Ends P (b.create st)
      (fun records s => C ∧ ∃ report, Q report s ∧ records = reconcile st.entity b.items report)
      F := by
  unfold create
  refine Call.ends_lift_bind (fun e _ => hF e) fun _ _ =>
    Call.ends_lift_bind (fun e _ => hF e) fun _ _ => hcheck.bind fun _ => ?_
  rintro s ⟨hchecked, hs⟩
  revert s
  exact hinsert.bind fun report => Call.ends_pure fun s hs => ⟨hchecked, report, hs, rfl⟩

/-- What a create ends in, whatever was checked. -/
theorem ends_create_of (hF : ∀ e s, P s → F e s) (hsearch : ∀ c, Keeps P (st.search c))
    (hinsert : Ends P (st.insert b.items) Q F) :
    Ends P (b.create st)
      (fun records s => ∃ report, Q report s ∧ records = reconcile st.entity b.items report) F :=
  (ends_create_checked (C := True) hF (Ends.weaken (keeps_checkUnlessDirect hsearch b _ _)
    (fun _ _ hs => ⟨trivial, hs⟩) hF) hinsert).weaken (fun _ _ h => h.2) fun _ _ h => h

end

theorem leads_create (settings : Settings) (b : Batch) (hplain : Plain t)
    (hsound : ∀ doc ∈ b.items, SoundFields doc) :
    Leads (Holds True entity t columns ts) (b.create (inMemory entity settings).store)
      (fun records s => ∃ report, Inserted entity settings columns t ts b.items report s ∧
        records = reconcile entity b.items report) (fun s => s.timed.state.tables = ts) :=
  ends_create_of (fun _ _ hs => hs.tables) Relational.keeps_search
    (Relational.leads_insert hplain hsound)

/-- A created batch is stored whole or not at all. A call that fails leaves
all tables as they were. A call that succeeds puts one row for each item
behind the rows of the table, in the order of the items, and gives one record
for each item in the same order. Numbers that the table gives have 64 bits, and
behind the largest one they go on from the least one. Where sums are checked for
this, the insert stops there instead and leaves no trace. -/
theorem a_created_batch_is_stored_whole_or_not_at_all (entity : Entity) (settings : Settings)
    (b : Batch) (s : Relational.State Tables.Engine) {t : Tables.Table}
    (hfaults : s.timed.state.faults = [])
    (hfind : s.timed.state.tables.find entity.storage = .ok t)
    (hnames : ∀ c ∈ t.shape.columns.keys, Text.hasChar '.' c = false)
    (hsound : ∀ doc ∈ b.items, ∀ p ∈ doc, p.2.isSound = true) :
    match (b.create (inMemory entity settings).store).on s with
    | (.error _, after) => after.timed.state.tables = s.timed.state.tables
    | (.ok records, after) => ∃ rows nextId,
        after.timed.state.tables.find entity.storage =
          .ok { t with rows := t.rows ++ rows, nextId := nextId } ∧
        List.Forall₂ (Stores entity settings (knownColumns entity t s) t nextId) b.items rows ∧
        List.Forall₂ (IsRecordOf entity) b.items records := by
  have hs : Holds True entity t (knownColumns entity t s) s.timed.state.tables s :=
    ⟨⟨rfl, fun _ => hfaults⟩, hfind, rfl⟩
  split
  · rename_i after hon
    exact (leads_create settings b hnames hsound).of_error hs hon
  · rename_i records after hon
    obtain ⟨report, hinserted, rfl⟩ :=
      (leads_create settings b hnames hsound).of_ok hs hon
    obtain ⟨rows, nextId, htables, hrows⟩ := hinserted.rows
    refine ⟨rows, nextId, ?_, hrows, forall₂_reconcile entity hinserted.report⟩
    rw [htables]
    exact Tables.Engine.find_store ..

/-- Two items for an empty table, one of them with an identity of its own. -/
theorem two_created_items_are_stored_whole :
    let entity : Entity := { name := "product", storage := "products" }
    let t : Tables.Table := { shape := .make "products" "id" [("name", .text)] [] }
    let s : Relational.State Tables.Engine := .initial {} { tables := [("products", t)] }
    let b : Batch := { items := [[("name", .str "Oak")], [("id", .int 7), ("name", .str "Pine")]] }
    ∃ records after, (b.create (inMemory entity {}).store).on s = (.ok records, after) ∧
      ∃ rows nextId,
        after.timed.state.tables.find "products" =
          .ok { t with rows := rows, nextId := nextId } ∧
        List.Forall₂ (Stores entity {} (knownColumns entity t s) t nextId) b.items rows ∧
        List.Forall₂ (IsRecordOf entity) b.items records := by
  intro entity t s b
  have hwhole := a_created_batch_is_stored_whole_or_not_at_all entity {} b s (t := t) rfl rfl
    (by decide) (by decide)
  obtain ⟨records, after, hon⟩ : ∃ records after,
      (b.create (inMemory entity {}).store).on s = (.ok records, after) :=
    Call.exists_of_isOk (by decide +kernel)
  rw [hon] at hwhole
  exact ⟨records, after, hon, hwhole⟩

end Batch

end EntityStore
