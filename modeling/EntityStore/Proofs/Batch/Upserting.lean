-- Upserting a batch. The items are completed from stored records that are
-- read once, before any of them is written, and then written one after the
-- other. In a table a row changes only when a row with one of its keys comes
-- in, and which rows these are is known best where the batch goes by the
-- primary key.
import EntityStore.Proofs.Batch.Checking
import EntityStore.Proofs.Batch.Patching
import EntityStore.Proofs.Store.Writing
import EntityStore.Proofs.Tables.Placing

namespace EntityStore.Batch

open Call (Ends Leads Keeps)
open Flat (IsName)
open Relational (inMemory Holds knownColumns recordsWith)

variable {entity : Entity} {settings : Settings} {t : Tables.Table} {columns : Columns}
  {ts : Tables} {b : Batch}

/-! ## Any store -/

/-- The field by which the items meet stored records. -/
def meetingField (b : Batch) (e : Entity) : String := b.keyField.getD e.idField

/-- An item as it is written, where these are the stored records by their
keys. -/
def written (b : Batch) (e : Entity) (existing : Fields (Fields Json)) (doc : Fields Json) :
    Fields Json :=
  b.completed e (b.meetingField e) (Fields.allKeys b.items) existing doc
    (valueOf doc (b.meetingField e))

/-- The fields that stored records take over. -/
def takenOver (b : Batch) (e : Entity) (existing : Fields (Fields Json)) : List String :=
  updatedFields e (b.meetingField e) (Fields.allKeys b.items)
    ((b.items.map (valueOf · (b.meetingField e))).any fun k => existing.contains k.key)

theorem mem_of_mem_takenOver {e : Entity} {existing : Fields (Fields Json)} {f : String}
    (h : f ∈ b.takenOver e existing) : f ∈ Fields.allKeys b.items ∧ f ≠ b.meetingField e := by
  unfold takenOver updatedFields at h
  split at h
  · simpa using List.mem_filter.mp h
  · simpa using List.mem_filter.mp (List.mem_filter.mp h).1

/-- The key itself is not taken over. -/
theorem not_mem_takenOver_self {e : Entity} {existing : Fields (Fields Json)} :
    b.meetingField e ∉ b.takenOver e existing :=
  fun h => (mem_of_mem_takenOver h).2 rfl

/-- The stored records that a store has for the keys of the items. -/
def found {σ : Type} (b : Batch) (st : Store σ) : Call σ (List (Fields Json)) :=
  st.findBy (b.meetingField st.entity) (b.items.map (valueOf · (b.meetingField st.entity)))

theorem keeps_found {σ : Type} {P : σ → Prop} {st : Store σ} (hsearch : ∀ c, Keeps P (st.search c))
    (b : Batch) : Keeps P (b.found st) :=
  Store.keeps_findWith hsearch _ _

/-- Every item has a value in a field. -/
def HasKeys (b : Batch) (field : String) : Prop :=
  ∀ doc ∈ b.items, ∃ j, doc.get? field = some j ∧ j.isNull = false

theorem HasKeys.isNull {field : String} (h : b.HasKeys field) {doc : Fields Json}
    (hdoc : doc ∈ b.items) {j : Json} (hj : doc.get? field = some j) : j.isNull = false := by
  obtain ⟨i, hi, hnull⟩ := h doc hdoc
  cases hj.symm.trans hi
  exact hnull

theorem HasKeys.ne {field f : String} (h : b.HasKeys field) {doc : Fields Json}
    (hdoc : doc ∈ b.items) (hf : doc.get? f = none) : f ≠ field := by
  rintro rfl
  obtain ⟨i, hi, -⟩ := h doc hdoc
  cases hf.symm.trans hi

theorem items_eq_nil {operation : String} {e : AccessError}
    (h : b.checkFilled operation = .error e) : b.items = [] := by
  unfold checkFilled at h
  split at h
  · rename_i hempty
    exact List.isEmpty_iff.mp hempty
  · cases h

theorem not_hasKeys {field : String} {e : AccessError} (h : b.keys field = .error e) :
    ¬ b.HasKeys field := by
  intro hkeys
  obtain ⟨doc, hdoc, hnone⟩ := exists_of_keys_eq_error h
  obtain ⟨j, hj, hnull⟩ := hkeys doc hdoc
  rw [Json.present?, hj, Option.filter_some, hnull] at hnone
  cases hnone

/-- A batch that is not refused for being empty has items. -/
theorem items_ne_nil {operation : String} (h : b.checkFilled operation = .ok ()) : b.items ≠ [] := by
  intro hnil
  rw [checkFilled, hnil] at h
  cases h

/-- An upsert reads the stored records of all items, checks the items completed
from these records, and then writes them. -/
theorem ends_upsert_checked {σ : Type} {st : Store σ} {P₀ P : σ → Prop}
    {F : AccessError → σ → Prop} {R C : List (Fields Json) → Prop}
    {Q : List (Fields Json) → WriteReport → σ → Prop}
    (hF : ∀ e s, b.items = [] ∨ ¬ b.HasKeys (b.meetingField st.entity) → P₀ s → F e s)
    (hfound : Ends P₀ (b.found st) (fun rows s => R rows ∧ P s) F)
    (hcheck : ∀ rows, R rows → Ends P (b.checkUnlessDirect st (b.meetingField st.entity)
      (b.items.map (b.written st.entity (indexBy (b.meetingField st.entity) rows))))
      (fun _ s => C rows ∧ P s) F)
    (hwrite : ∀ rows, b.items ≠ [] → R rows → Ends P (st.upsert
      (b.items.map (b.written st.entity (indexBy (b.meetingField st.entity) rows)))
      (b.meetingField st.entity)
      (b.takenOver st.entity (indexBy (b.meetingField st.entity) rows))) (Q rows) F) :
    Ends P₀ (b.upsert st)
      (fun records s => b.HasKeys (b.meetingField st.entity) ∧ ∃ rows report, R rows ∧ C rows ∧
        Q rows report s ∧ records = reconcile st.entity
          (b.items.map (b.written st.entity (indexBy (b.meetingField st.entity) rows))) report)
      F := by
  unfold upsert
  refine Call.ends_lift_bind (fun e he s => hF e s (.inl (items_eq_nil he))) fun _ hfilled =>
    Call.ends_lift_bind (fun e he s => hF e s (.inr (not_hasKeys he))) fun keys hkeys => ?_
  have ⟨hvalues, hpresent⟩ : keys = b.items.map (valueOf · (b.meetingField st.entity)) ∧ _ :=
    keys_eq_ok hkeys
  subst hvalues
  refine hfound.bind fun rows => ?_
  have hdocs : ((b.items.zip (b.items.map (valueOf · (b.meetingField st.entity)))).map fun p =>
      b.completed st.entity (b.meetingField st.entity) (Fields.allKeys b.items)
        (indexBy (b.meetingField st.entity) rows) p.1 p.2) =
      b.items.map (b.written st.entity (indexBy (b.meetingField st.entity) rows)) := by
    rw [zip_map_self, List.map_map]
    rfl
  rintro s ⟨hrows, hs⟩
  -- The call zips the items with their keys, which come from the same items.
  have hchecked := hcheck rows hrows
  have hwritten := hwrite rows (items_ne_nil hfilled) hrows
  rw [← hdocs] at hchecked hwritten
  revert s
  refine hchecked.bind fun _ => ?_
  rintro s ⟨hC, hs⟩
  revert s
  refine hwritten.bind fun report => Call.ends_pure fun s hs =>
    ⟨hpresent, rows, report, hrows, hC, hs, ?_⟩
  exact congrArg (reconcile st.entity · report) hdocs

/-- What an upsert ends in, whatever was checked. -/
theorem ends_upsert_of {σ : Type} {st : Store σ} {P₀ P : σ → Prop} {F : AccessError → σ → Prop}
    {R : List (Fields Json) → Prop} {Q : List (Fields Json) → σ → Prop}
    (hF₀ : ∀ e s, P₀ s → F e s) (hF : ∀ e s, P s → F e s) (hsearch : ∀ c, Keeps P (st.search c))
    (hfound : Ends P₀ (b.found st) (fun rows s => R rows ∧ P s) F)
    (hwrite : ∀ rows, b.items ≠ [] → R rows → Ends P (st.upsert
      (b.items.map (b.written st.entity (indexBy (b.meetingField st.entity) rows)))
      (b.meetingField st.entity)
      (b.takenOver st.entity (indexBy (b.meetingField st.entity) rows))) (fun _ => Q rows) F) :
    Ends P₀ (b.upsert st)
      (fun _ s => b.HasKeys (b.meetingField st.entity) ∧ ∃ rows, R rows ∧ Q rows s) F := by
  refine (ends_upsert_checked (C := fun _ => True) (Q := fun rows _ => Q rows)
    (fun e s _ => hF₀ e s) hfound (fun rows _ => ?_) hwrite).weaken ?_ fun _ _ h => h
  · exact Ends.weaken (keeps_checkUnlessDirect hsearch b _ _) (fun _ _ hs => ⟨trivial, hs⟩) hF
  · rintro _ s ⟨hpresent, rows, report, hrows, -, hs, -⟩
    exact ⟨hpresent, rows, hrows, hs⟩

theorem leads_upsert_of {σ : Type} {st : Store σ} {P₀ P E : σ → Prop}
    {R : List (Fields Json) → Prop} {Q : List (Fields Json) → σ → Prop}
    (hE₀ : ∀ s, P₀ s → E s) (hE : ∀ s, P s → E s) (hsearch : ∀ c, Keeps P (st.search c))
    (hfound : Leads P₀ (b.found st) (fun rows s => R rows ∧ P s) E)
    (hwrite : ∀ rows, R rows → Leads P (st.upsert
      (b.items.map (b.written st.entity (indexBy (b.meetingField st.entity) rows)))
      (b.meetingField st.entity)
      (b.takenOver st.entity (indexBy (b.meetingField st.entity) rows))) (fun _ => Q rows) E) :
    Leads P₀ (b.upsert st)
      (fun _ s => b.HasKeys (b.meetingField st.entity) ∧ ∃ rows, R rows ∧ Q rows s) E :=
  ends_upsert_of (fun _ => hE₀) (fun _ => hE) hsearch hfound fun rows _ => hwrite rows

/-! ## A store over tables -/

variable {existing : Fields (Fields Json)}

def statement (b : Batch) (e : Entity) (settings : Settings) (columns : Columns)
    (existing : Fields (Fields Json)) : Sql.Insert where
  table := e.storage
  columns := Fields.allKeys (b.items.map (b.written e existing))
  rows := (b.items.map (b.written e existing)).map (((inMemory e settings).scope columns).row
    (Fields.allKeys (b.items.map (b.written e existing))))
  onDuplicate := b.takenOver e existing

/-- What is known of an upsert that gave records. -/
structure Upserted (b : Batch) (e : Entity) (settings : Settings) (columns : Columns)
    (existing : Fields (Fields Json)) (t next : Tables.Table) : Prop where
  present : b.HasKeys (b.meetingField e)
  inserted : ∃ n, Tables.insert t (b.statement e settings columns existing) = .ok (n, next)

/-- An upsert that gives records has found the stored records of the items,
and run the insert of all items. -/
theorem leads_upsert {s : Relational.State Tables.Engine} (hs : Holds False entity t columns ts s) :
    Leads (fun s' => s' = s) (b.upsert (inMemory entity settings).store)
      (fun _ after => ∃ rows next,
        ((b.found (inMemory entity settings).store).on s).1 = .ok rows ∧
        Upserted b entity settings columns (indexBy (b.meetingField entity) rows) t next ∧
        after.timed.state.tables.find entity.storage = .ok next)
      (fun _ => True) := by
  have hsearch : ∀ c, Keeps (Holds False entity t columns ts)
      ((inMemory entity settings).store.search c) := Relational.keeps_search
  have hfound := ((keeps_found hsearch b).startingAt hs).weakenError fun _ _ => trivial
  refine (leads_upsert_of (fun _ _ => trivial) (fun _ _ => trivial) hsearch hfound fun rows _ =>
    Relational.leads_upsert _ _ _).weaken ?_ fun _ _ => trivial
  rintro _ after ⟨hpresent, rows, hrows, n, next, hinsert, htables⟩
  refine ⟨rows, next, hrows, ⟨hpresent, n, hinsert⟩, ?_⟩
  rw [htables]
  exact Tables.Engine.find_store ..

/-- The row that comes in for an item. -/
def comesIn (b : Batch) (e : Entity) (settings : Settings) (columns : Columns)
    (existing : Fields (Fields Json)) (t : Tables.Table) (doc : Fields Json) : Row :=
  Relational.incoming e settings columns t.shape (b.items.map (b.written e existing))
    (b.written e existing doc)

variable {next : Tables.Table} {doc : Fields Json} {row : Row}

theorem Upserted.named (h : Upserted b entity settings columns existing t next) :
    ∀ c ∈ Fields.allKeys (b.items.map (b.written entity existing)),
      Fields.contains t.shape.columns c = true := by
  obtain ⟨n, hinsert⟩ := h.inserted
  exact (Tables.insert_eq_ok hinsert).1

theorem Upserted.filled (h : Upserted b entity settings columns existing t next) :
    ∃ f, ((b.items.map (b.written entity existing)).map
        (((inMemory entity settings).scope columns).row
          (Fields.allKeys (b.items.map (b.written entity existing))))).foldlM
        (Tables.place t.shape (Fields.allKeys (b.items.map (b.written entity existing)))
          (b.takenOver entity existing)) ⟨t.rows, t.nextId, 0⟩ = .ok f ∧
      next.rows = f.rows ∧ next.nextId = f.nextId := by
  obtain ⟨n, hinsert⟩ := h.inserted
  obtain ⟨-, f, hfold, rfl⟩ := Tables.insert_eq_ok hinsert
  exact ⟨f, hfold, rfl, rfl⟩

theorem Upserted.get?_comesIn (h : Upserted b entity settings columns existing t next)
    (hdoc : doc ∈ b.items) (c : String) :
    (b.comesIn entity settings columns existing t doc).get? c =
      if Fields.contains t.shape.columns c then
        some (((inMemory entity settings).scope columns).bind c
          ((b.written entity existing doc).get? c))
      else none :=
  Relational.get?_incoming (List.mem_map_of_mem hdoc) h.named c

/-- A row has a key of the table in common with the row that comes in for an
item, whichever primary key that row is given if it comes without one. The
count of it is one of those up to the last one. -/
def Meets (b : Batch) (e : Entity) (settings : Settings) (columns : Columns)
    (existing : Fields (Fields Json)) (t : Tables.Table) (last : Int) (doc : Fields Json)
    (row : Row) : Prop :=
  ∃ n, t.nextId ≤ n ∧ n ≤ last ∧ Tables.SharesKey t.shape row
    (Tables.assignId t.shape (b.comesIn e settings columns existing t doc) n).1

theorem Upserted.keeps_unmet (h : Upserted b entity settings columns existing t next) {i : Nat}
    (hrow : t.rows[i]? = some row)
    (hunmet : ∀ doc ∈ b.items,
      ¬ b.Meets entity settings columns existing t next.nextId doc row) :
    next.rows[i]? = some row := by
  obtain ⟨f, hfold, hrows, hlast⟩ := h.filled
  rw [hrows]
  obtain ⟨_, hkept, rfl⟩ := Tables.row_of_foldlM (P := fun r => r = row) hfold hrow rfl (by
    simp only [List.forall_mem_map]
    rintro doc hdoc n hn hle _ rfl hshares
    exact absurd ⟨n, hn, hlast ▸ hle, hshares⟩ (hunmet doc hdoc))
  exact hkept

/-! ## The rows that are met -/

/-- The stored records that the items meet in a table, by their keys. -/
def met (b : Batch) (e : Entity) (columns : Columns) (t : Tables.Table) : Fields (Fields Json) :=
  indexBy (b.meetingField e)
    (recordsWith columns t (b.meetingField e) (b.items.map (valueOf · (b.meetingField e))))

/-- No name of a field is a path. -/
def NamesFields (b : Batch) : Prop := ∀ f ∈ Fields.allKeys b.items, IsName f

/-- The stored record that is met under a key is that of a row that was found
by the keys of the batch. -/
theorem found_of_met {e : Entity} {key : String} {stored : Fields Json}
    (h : (b.met e columns t).get? key = some stored) :
    ∃ row ∈ t.rows, stored = Row.toJson (Tables.bareColumns row) ∧
      Relational.hasOneOf columns (b.meetingField e) (b.items.map (valueOf · (b.meetingField e)))
        row = true ∧
      ∃ j, stored.get? (b.meetingField e) = some j ∧ (Value.ofJson j).key = key := by
  obtain ⟨hstored, hkey⟩ := indexBy_eq_some h
  obtain ⟨row, hrow, rfl⟩ := List.mem_map.mp hstored
  obtain ⟨hmem, hhas⟩ := List.mem_filter.mp hrow
  exact ⟨row, hmem, rfl, hhas, hkey⟩

theorem met_eq_some {e : Entity} {key : String} {stored : Fields Json}
    (h : (b.met e columns t).get? key = some stored) :
    ∃ row ∈ t.rows, stored = Row.toJson (Tables.bareColumns row) ∧
      ∃ j, stored.get? (b.meetingField e) = some j ∧ (Value.ofJson j).key = key := by
  obtain ⟨row, hrow, hstored, -, hkey⟩ := found_of_met h
  exact ⟨row, hrow, hstored, hkey⟩

/-- Every item is written with its key. -/
theorem mem_keys_written {e : Entity} {existing : Fields (Fields Json)}
    (hkeys : b.HasKeys (b.meetingField e)) (hdoc : doc ∈ b.items) :
    b.meetingField e ∈ (b.written e existing doc).keys := by
  rw [← Fields.contains_iff, Fields.contains, written]
  cases hmet : existing.get? (valueOf doc (b.meetingField e)).key with
  | none =>
    obtain ⟨j, hj, -⟩ := hkeys doc hdoc
    rw [completed_of_new hmet, hj]
    rfl
  | some stored =>
    rw [get?_completed_key hmet]
    split
    · cases Fields.get? stored (b.meetingField e) <;> rfl
    · rfl

/-- On a calm engine an upsert that gives records has met the rows with the
keys of its items, its check has held, and it gives the records by what the
table has after its insert. -/
theorem leads_upsert_met_of {C : Fields (Fields Json) → Prop}
    (hcheck : ∀ existing, Leads (Holds True entity t columns ts)
      (b.checkUnlessDirect (inMemory entity settings).store (b.meetingField entity)
        (b.items.map (b.written entity existing)))
      (fun _ s => C existing ∧ Holds True entity t columns ts s) (fun _ => True))
    (hnames : ∀ c ∈ t.shape.columns.keys, IsName c)
    (hcover : ∀ c ∈ t.shape.columns.keys, Fields.contains columns c = true)
    {s : Relational.State Tables.Engine} (hs : Holds True entity t columns ts s) :
    Leads (fun s' => s' = s) (b.upsert (inMemory entity settings).store)
      (fun records after => C (b.met entity columns t) ∧ ∃ next,
        Upserted b entity settings columns (b.met entity columns t) t next ∧
        Holds True entity next columns (Tables.Engine.store ts entity.storage next) after ∧
        records = reconcile entity (b.items.map (b.written entity (b.met entity columns t)))
          (Relational.reportOf entity columns next (b.meetingField entity)
            (b.items.map (b.written entity (b.met entity columns t)))))
      (fun _ => True) := by
  have hsearch : ∀ c, Keeps (Holds True entity t columns ts)
      ((inMemory entity settings).store.search c) := Relational.keeps_search
  have hfound := ((keeps_found hsearch b).startingAt hs).weakenError fun _ _ => trivial
  refine Ends.weaken (ends_upsert_checked
    (C := fun rows => C (indexBy (b.meetingField entity) rows)) (fun _ _ _ _ => trivial) hfound
    (fun rows _ => hcheck _) fun rows _ _ => (Relational.leads_write hnames _ _ _).weakenError
      fun _ _ => trivial) ?_ fun _ _ _ => trivial
  · rintro _ after ⟨hpresent, rows, _, hrows, hchecked, ⟨n, next, hinsert, rfl, hafter⟩, rfl⟩
    have hupserted : Upserted b entity settings columns (indexBy (b.meetingField entity) rows) t
      next := ⟨hpresent, n, hinsert⟩
    -- The key is a column, so the search that found the rows was one for it.
    have hfield : b.items ≠ [] → b.meetingField entity ∈ t.shape.columns.keys := by
      intro hne
      obtain ⟨doc, hdoc⟩ := List.exists_mem_of_ne_nil _ hne
      exact Fields.contains_iff.mp (hupserted.named _ (Fields.mem_allKeys.mpr
        ⟨_, List.mem_map_of_mem hdoc, mem_keys_written hpresent hdoc⟩))
    have hfind : Leads (Holds True entity t columns ts)
        (b.found (inMemory entity settings).store) _ _ :=
      Relational.leads_findWith fun hvs => by
        have hmem := hfield fun hnil => hvs (by rw [hnil]; rfl)
        exact ⟨hnames _ hmem, Bool.or_eq_true_iff.mpr (.inr (hcover _ hmem))⟩
    obtain ⟨rfl, -⟩ := hfind.of_ok hs (Prod.ext hrows rfl)
    exact ⟨hchecked, next, hupserted, hafter, rfl⟩

theorem leads_upsert_met (hnames : ∀ c ∈ t.shape.columns.keys, IsName c)
    (hcover : ∀ c ∈ t.shape.columns.keys, Fields.contains columns c = true)
    {s : Relational.State Tables.Engine} (hs : Holds True entity t columns ts s) :
    Leads (fun s' => s' = s) (b.upsert (inMemory entity settings).store)
      (fun records after => ∃ next,
        Upserted b entity settings columns (b.met entity columns t) t next ∧
        Holds True entity next columns (Tables.Engine.store ts entity.storage next) after ∧
        records = reconcile entity (b.items.map (b.written entity (b.met entity columns t)))
          (Relational.reportOf entity columns next (b.meetingField entity)
            (b.items.map (b.written entity (b.met entity columns t)))))
      (fun _ => True) := by
  have hcheck : ∀ existing, Keeps (Holds True entity t columns ts)
      (b.checkUnlessDirect (inMemory entity settings).store (b.meetingField entity)
        (b.items.map (b.written entity existing))) := fun _ =>
    keeps_checkUnlessDirect Relational.keeps_search b _ _
  refine (leads_upsert_met_of (C := fun _ => True) (fun existing => (hcheck existing).weaken
    (fun _ _ hs => ⟨trivial, hs⟩) fun _ _ => trivial) hnames hcover hs).weaken ?_ fun _ h => h
  exact fun _ _ h => h.2

section

variable {k : Kind} {v : Value} {stored : Fields Json}

/-- Among values of a kind the record under a key is that of a found row which has
the value with this key. -/
theorem indexed_eq_of_kind {field : String} {vs : List Value} (hname : IsName field)
    (hfound : ∀ row ∈ t.rows, Relational.hasOneOf columns field vs row = true →
      ∃ w, row.get? field = some w ∧ k.Has w)
    (hv : k.Has v)
    (h : (indexBy field (recordsWith columns t field vs)).get? v.key = some stored) :
    ∃ row ∈ t.rows, stored = Row.toJson (Tables.bareColumns row) ∧
      row.get? field = some v ∧ Relational.hasOneOf columns field vs row = true := by
  obtain ⟨hstored, j, hj, hkey⟩ := indexBy_eq_some h
  obtain ⟨row, hmem, rfl⟩ := List.mem_map.mp hstored
  obtain ⟨hrow, hone⟩ := List.mem_filter.mp hmem
  obtain ⟨w, hw, hhas⟩ := hfound row hrow hone
  rw [Relational.get?_record hname, hw] at hj
  cases hj
  rw [hhas.ofJson_toJson] at hkey
  exact ⟨row, hrow, rfl, by rw [hw, hhas.key_inj hv hkey], hone⟩

/-- Several records with a key would leave the last one. Where only one row has
the value with this key, its record is the one under the key. -/
theorem indexed_of_row_of_kind {field : String} {vs : List Value} (hname : IsName field)
    (hfound : ∀ row ∈ t.rows, Relational.hasOneOf columns field vs row = true →
      ∃ w, row.get? field = some w ∧ k.Has w)
    (hv : k.Has v) (hrow : row ∈ t.rows) (hkey : row.get? field = some v)
    (hone : Relational.hasOneOf columns field vs row = true)
    (honly : ∀ r ∈ t.rows, r.get? field = some v → r = row) :
    (indexBy field (recordsWith columns t field vs)).get? v.key =
      some (Row.toJson (Tables.bareColumns row)) := by
  have hcontains :
      Fields.contains (indexBy field (recordsWith columns t field vs)) v.key = true := by
    rw [Fields.contains_iff, indexBy, Fields.mem_keys_ofList]
    refine List.mem_map.mpr ⟨(v.key, Row.toJson (Tables.bareColumns row)), ?_, rfl⟩
    refine List.mem_filterMap.mpr ⟨Row.toJson (Tables.bareColumns row), ?_, ?_⟩
    · exact List.mem_map.mpr ⟨row, List.mem_filter.mpr ⟨hrow, hone⟩, rfl⟩
    · rw [Relational.get?_record hname, hkey, Option.map_some, Option.map_some, hv.ofJson_toJson]
  obtain ⟨found, hget⟩ := Option.isSome_iff_exists.mp hcontains
  obtain ⟨other, hother, rfl, hotherKey, -⟩ := indexed_eq_of_kind hname hfound hv hget
  rw [honly other hother hotherKey] at hget
  exact hget

/-- A row that a search for scalar values has found has one of them. -/
theorem has_of_hasOneOf {field : String} {vs : List Value} (hscalar : columns.isJson field = false)
    (hallows : k.Allows ((row.get? field).getD .null))
    (hone : Relational.hasOneOf columns field vs row = true) :
    ∃ w, row.get? field = some w ∧ k.Has w := by
  obtain ⟨w, hw, u, -, hagrees⟩ := (Relational.hasOneOf_iff hscalar).mp hone
  rw [hw, Option.getD_some] at hallows
  refine ⟨w, hw, hallows.resolve_left ?_⟩
  rintro rfl
  cases hagrees

/-- Among values of a kind an item meets a row that has its key. -/
theorem met_eq_of_kind (hname : IsName (b.meetingField entity))
    (hscalar : columns.isJson (b.meetingField entity) = false)
    (hrows : ∀ row ∈ t.rows, k.Allows ((row.get? (b.meetingField entity)).getD .null))
    (hv : k.Has v) (hmet : (b.met entity columns t).get? v.key = some stored) :
    ∃ row ∈ t.rows, stored = Row.toJson (Tables.bareColumns row) ∧
      row.get? (b.meetingField entity) = some v := by
  obtain ⟨row, hrow, hstored, hkey, -⟩ := indexed_eq_of_kind hname
    (fun row hrow => has_of_hasOneOf hscalar (hrows row hrow)) hv hmet
  exact ⟨row, hrow, hstored, hkey⟩

theorem met_of_no_row_of_kind (hname : IsName (b.meetingField entity))
    (hscalar : columns.isJson (b.meetingField entity) = false)
    (hrows : ∀ row ∈ t.rows, k.Allows ((row.get? (b.meetingField entity)).getD .null))
    (hv : k.Has v) (hnew : ∀ row ∈ t.rows, row.get? (b.meetingField entity) ≠ some v) :
    (b.met entity columns t).get? v.key = none := by
  rw [Option.eq_none_iff_forall_ne_some]
  intro stored hstored
  obtain ⟨row, hrow, -, hkey⟩ := met_eq_of_kind hname hscalar hrows hv hstored
  exact hnew row hrow hkey

/-- Where only one row has its key an item meets that row. -/
theorem met_of_row_of_kind (hname : IsName (b.meetingField entity))
    (hscalar : columns.isJson (b.meetingField entity) = false)
    (hrows : ∀ row ∈ t.rows, k.Allows ((row.get? (b.meetingField entity)).getD .null))
    (hdoc : doc ∈ b.items) (hv : k.Has (valueOf doc (b.meetingField entity)))
    (hrow : row ∈ t.rows)
    (hkey : row.get? (b.meetingField entity) = some (valueOf doc (b.meetingField entity)))
    (honly : ∀ r ∈ t.rows,
      r.get? (b.meetingField entity) = some (valueOf doc (b.meetingField entity)) → r = row) :
    (b.met entity columns t).get? (valueOf doc (b.meetingField entity)).key =
      some (Row.toJson (Tables.bareColumns row)) :=
  indexed_of_row_of_kind hname (fun row hrow => has_of_hasOneOf hscalar (hrows row hrow)) hv hrow
    hkey ((Relational.hasOneOf_iff hscalar).mpr
      ⟨_, hkey, _, List.mem_map.mpr ⟨doc, hdoc, rfl⟩, (hv.agrees_iff hv).mpr rfl⟩) honly

end

/-- A batch is upserted by the primary key of its table. The primary keys of the
rows, all different, and those of the items are values of one kind, and an item
shares a unique key of the table only with rows of its own primary key. -/
structure ByPrimaryKey (b : Batch) (e : Entity) (settings : Settings) (columns : Columns)
    (t : Tables.Table) (k : Kind) : Prop where
  field : b.meetingField e = t.shape.primaryKey
  aligned : Tables.Aligned t.shape t.rows
    (b.items.map (b.comesIn e settings columns (b.met e columns t) t))
  name : IsName t.shape.primaryKey
  known : Fields.contains columns t.shape.primaryKey = true
  scalar : columns.isJson t.shape.primaryKey = false
  rows : Tables.Keyed t.shape k t.rows
  items : ∀ doc ∈ b.items, k.Allows (valueOf doc t.shape.primaryKey)

variable {k : Kind} {stored : Fields Json}

theorem ByPrimaryKey.has (h : ByPrimaryKey b entity settings columns t k) (hdoc : doc ∈ b.items) {j : Json}
    (hj : doc.get? t.shape.primaryKey = some j) (hnull : j.isNull = false) :
    valueOf doc t.shape.primaryKey = .ofJson j ∧ k.Has (valueOf doc t.shape.primaryKey) := by
  have hvalue : valueOf doc t.shape.primaryKey = .ofJson j := by
    rw [valueOf, hj]
    rfl
  refine ⟨hvalue, (h.items doc hdoc).resolve_left ?_⟩
  rw [hvalue, ← Value.isNull_iff, Value.isNull_ofJson, hnull]
  exact Bool.false_ne_true

theorem ByPrimaryKey.allows (h : ByPrimaryKey b entity settings columns t k) :
    ∀ row ∈ t.rows, k.Allows ((row.get? (b.meetingField entity)).getD .null) := by
  intro row hrow
  obtain ⟨v, hv, hhas⟩ := h.rows.has row hrow
  rw [h.field, hv]
  exact .inr hhas

/-- An item meets the row that has its key. -/
theorem ByPrimaryKey.met_eq (h : ByPrimaryKey b entity settings columns t k) {v : Value} (hv : k.Has v)
    (hmet : (b.met entity columns t).get? v.key = some stored) :
    ∃ row ∈ t.rows, stored = Row.toJson (Tables.bareColumns row) ∧
      row.get? t.shape.primaryKey = some v := by
  rw [← h.field]
  exact met_eq_of_kind (h.field ▸ h.name) (h.field ▸ h.scalar) h.allows hv hmet

theorem ByPrimaryKey.met_of_row (h : ByPrimaryKey b entity settings columns t k) (hdoc : doc ∈ b.items)
    (hv : k.Has (valueOf doc t.shape.primaryKey)) (hrow : row ∈ t.rows)
    (hkey : row.get? t.shape.primaryKey = some (valueOf doc t.shape.primaryKey)) :
    (b.met entity columns t).get? (valueOf doc t.shape.primaryKey).key =
      some (Row.toJson (Tables.bareColumns row)) := by
  have honly : ∀ r ∈ t.rows,
      r.get? t.shape.primaryKey = some (valueOf doc t.shape.primaryKey) → r = row := by
    intro r hr hsame
    obtain ⟨i, hi⟩ := List.mem_iff_getElem?.mp hr
    obtain ⟨j, hj⟩ := List.mem_iff_getElem?.mp hrow
    obtain rfl := h.rows.same_place hi hj (hsame.trans hkey.symm)
    exact Option.some.inj (hi.symm.trans hj)
  rw [← h.field] at hv hkey honly ⊢
  exact met_of_row_of_kind (h.field ▸ h.name) (h.field ▸ h.scalar) h.allows hdoc hv hrow hkey honly

theorem ByPrimaryKey.met_of_no_row (h : ByPrimaryKey b entity settings columns t k) {v : Value}
    (hv : k.Has v) (hnew : ∀ row ∈ t.rows, row.get? t.shape.primaryKey ≠ some v) :
    (b.met entity columns t).get? v.key = none := by
  rw [← h.field] at hnew
  exact met_of_no_row_of_kind (h.field ▸ h.name) (h.field ▸ h.scalar) h.allows hv hnew

/-! ## The items as they are written -/

/-- An item is written under its own key. -/
theorem ByPrimaryKey.get?_written (h : ByPrimaryKey b entity settings columns t k) (hdoc : doc ∈ b.items)
    {j : Json} (hj : doc.get? t.shape.primaryKey = some j) (hnull : j.isNull = false) :
    ∃ i, (b.written entity (b.met entity columns t) doc).get? t.shape.primaryKey = some i ∧
      i.isNull = false ∧ Value.ofJson i = valueOf doc t.shape.primaryKey := by
  obtain ⟨hvalue, hv⟩ := h.has hdoc hj hnull
  have hown : ((valueOf doc t.shape.primaryKey).toJson).isNull = false ∧
      Value.ofJson (valueOf doc t.shape.primaryKey).toJson = valueOf doc t.shape.primaryKey := by
    have hread := hv.ofJson_toJson
    refine ⟨?_, hread⟩
    rw [← Value.isNull_ofJson, hread]
    exact hv.isNull
  unfold written
  rw [h.field]
  cases hmet : (b.met entity columns t).get? (valueOf doc t.shape.primaryKey).key with
  | none =>
    rw [completed_of_new hmet]
    exact ⟨j, hj, hnull, hvalue.symm⟩
  | some stored =>
    obtain ⟨row, hrow, rfl, hkey⟩ := h.met_eq hv hmet
    have hstored : (Row.toJson (Tables.bareColumns row)).get? t.shape.primaryKey =
        some (valueOf doc t.shape.primaryKey).toJson := by
      rw [Relational.get?_record h.name, hkey]
      rfl
    refine ⟨(valueOf doc t.shape.primaryKey).toJson, ?_, hown⟩
    rw [get?_completed_key hmet, hstored]
    split <;> rfl

theorem bind_of_scalar {c : String} {j : Json} (hscalar : columns.isJson c = false)
    (hnull : j.isNull = false) :
    ((inMemory entity settings).scope columns).bind c (some j) = .ofJson j := by
  have hjson : ((inMemory entity settings).scope columns).columns.isJson c = false := hscalar
  unfold Plan.Scope.bind
  split
  · rename_i hnone
    cases hnone
  · rename_i hsome
    cases hsome
    cases hnull
  · rename_i doc _ hsome
    cases hsome
    rw [hjson, if_neg Bool.false_ne_true]

theorem Upserted.key_comesIn
    (h : Upserted b entity settings columns (b.met entity columns t) t next)
    (hkey : ByPrimaryKey b entity settings columns t k) (hdoc : doc ∈ b.items) :
    (b.comesIn entity settings columns (b.met entity columns t) t doc).get? t.shape.primaryKey =
        some (valueOf doc t.shape.primaryKey) ∧
      k.Has (valueOf doc t.shape.primaryKey) := by
  obtain ⟨j, hj, hnull⟩ := h.present doc hdoc
  rw [hkey.field] at hj
  obtain ⟨i, hi, hinull, hvalue⟩ := hkey.get?_written hdoc hj hnull
  have hmem : t.shape.primaryKey ∈
      Fields.allKeys (b.items.map (b.written entity (b.met entity columns t))) :=
    Fields.mem_allKeys.mpr ⟨_, List.mem_map_of_mem hdoc,
      Fields.contains_iff.mp (by rw [Fields.contains, hi]; rfl)⟩
  refine ⟨?_, (hkey.has hdoc hj hnull).2⟩
  rw [h.get?_comesIn hdoc, if_pos (h.named _ hmem), hi, bind_of_scalar hkey.scalar hinull, hvalue]

theorem ByPrimaryKey.not_mem_takenOver (h : ByPrimaryKey b entity settings columns t k) :
    t.shape.primaryKey ∉ b.takenOver entity (b.met entity columns t) :=
  h.field ▸ not_mem_takenOver_self

theorem Upserted.toldApart
    (h : Upserted b entity settings columns (b.met entity columns t) t next)
    (hkey : ByPrimaryKey b entity settings columns t k) :
    Tables.ToldApart t.shape k (b.takenOver entity (b.met entity columns t)) t.rows
      (b.items.map (b.comesIn entity settings columns (b.met entity columns t) t)) := by
  refine ⟨hkey.not_mem_takenOver, ?_, hkey.aligned⟩
  rw [List.forall_mem_append, List.forall_mem_map]
  exact ⟨hkey.rows.has, fun doc hdoc => ⟨_, h.key_comesIn hkey hdoc⟩⟩

/-- The rows that come in are those of the items. -/
theorem comesIn_mem :
    ∀ vs ∈ (b.items.map (b.written entity existing)).map (((inMemory entity settings).scope
        columns).row (Fields.allKeys (b.items.map (b.written entity existing)))),
      Tables.incomingRow t.shape (Fields.allKeys (b.items.map (b.written entity existing))) vs ∈
        b.items.map (b.comesIn entity settings columns existing t) := by
  simp only [List.forall_mem_map]
  exact fun doc hdoc => List.mem_map_of_mem hdoc

/-- What holds of a row still holds of it after an upsert, when it is kept
each time that an item with its key comes in. -/
theorem Upserted.keeps_row (h : Upserted b entity settings columns (b.met entity columns t) t next)
    (hkey : ByPrimaryKey b entity settings columns t k) {i : Nat} (hrow : t.rows[i]? = some row)
    {P : Row → Prop} (hP : P row)
    (hstep : ∀ doc ∈ b.items,
      row.get? t.shape.primaryKey = some (valueOf doc t.shape.primaryKey) → ∀ r, P r →
        P (Tables.takeFrom (b.takenOver entity (b.met entity columns t)) r
          (b.comesIn entity settings columns (b.met entity columns t) t doc))) :
    ∃ after, next.rows[i]? = some after ∧ P after := by
  obtain ⟨f, hfold, hrows, -⟩ := h.filled
  rw [hrows]
  have hmem := List.mem_of_getElem? hrow
  obtain ⟨after, hafter, -, hPafter⟩ := (h.toldApart hkey).row_of_foldlM comesIn_mem hfold hrow
    (Tables.madeOf_of_mem (List.mem_append_left _ hmem)) hP (by
      simp only [List.forall_mem_map]
      intro doc hdoc hsame
      have hown : (b.comesIn entity settings columns (b.met entity columns t) t doc).get?
          t.shape.primaryKey = _ := (h.key_comesIn hkey hdoc).1
      exact hstep doc hdoc (hsame.symm.trans hown))
  exact ⟨after, hafter, hPafter⟩

theorem Upserted.keeps_unnamed
    (h : Upserted b entity settings columns (b.met entity columns t) t next)
    (hkey : ByPrimaryKey b entity settings columns t k) {i : Nat} (hrow : t.rows[i]? = some row)
    (hunnamed : ∀ doc ∈ b.items, (row.get? t.shape.primaryKey).map Value.key ≠
      some (valueOf doc t.shape.primaryKey).key) :
    next.rows[i]? = some row := by
  obtain ⟨_, hafter, rfl⟩ := h.keeps_row hkey hrow (P := fun r => r = row) rfl
    fun doc hdoc hsame => absurd (by rw [hsame]; rfl) (hunnamed doc hdoc)
  exact hafter

/-- The stored records of a known field that is no path are those of the rows
that have one of the keys. -/
theorem met_of_found {s : Relational.State Tables.Engine} (hs : Holds False entity t columns ts s)
    (hname : IsName (b.meetingField entity))
    (hknown : Fields.contains columns (b.meetingField entity) = true) {rows : List (Fields Json)}
    (hrows : ((b.found (inMemory entity settings).store).on s).1 = .ok rows) :
    indexBy (b.meetingField entity) rows = b.met entity columns t := by
  have hcolumn : (columns.isEmpty || Fields.contains columns (b.meetingField entity)) = true := by
    rw [hknown, Bool.or_true]
  have hfound : Leads (Holds False entity t columns ts)
      (b.found (inMemory entity settings).store) _ _ :=
    Relational.leads_findWith fun _ => ⟨hname, hcolumn⟩
  obtain ⟨rfl, -⟩ := hfound.of_ok hs (Prod.ext hrows rfl)
  rfl

theorem ByPrimaryKey.existing_eq (h : ByPrimaryKey b entity settings columns t k)
    {s : Relational.State Tables.Engine} (hs : Holds False entity t columns ts s)
    {rows : List (Fields Json)}
    (hrows : ((b.found (inMemory entity settings).store).on s).1 = .ok rows) :
    indexBy (b.meetingField entity) rows = b.met entity columns t :=
  met_of_found hs (h.field ▸ h.name) (h.field ▸ h.known) hrows

theorem ByPrimaryKey.leads_upsert (h : ByPrimaryKey b entity settings columns t k) (ts : Tables) :
    Leads (Holds False entity t columns ts) (b.upsert (inMemory entity settings).store)
      (fun _ s => ∃ next, Upserted b entity settings columns (b.met entity columns t) t next ∧
        s.timed.state.tables.find entity.storage = .ok next)
      (fun _ => True) := by
  intro s hs
  refine (Batch.leads_upsert hs).weaken ?_ (fun _ _ => trivial) s rfl
  rintro _ after ⟨rows, next, hrows, hupserted, hnext⟩
  rw [h.existing_eq hs hrows] at hupserted
  exact ⟨next, hupserted, hnext⟩

end EntityStore.Batch
