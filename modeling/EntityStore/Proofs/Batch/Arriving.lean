-- The rows that the items of an upsert come into a table as, whatever keys
-- the table has. Some batches go by a column which tells the rows of their table
-- apart, as the primary key does and every other key of one column. There an item
-- is for the row with its key, and is written with its own fields and those of
-- that row.
import EntityStore.Proofs.Batch.Creating
import EntityStore.Proofs.Batch.Upserting
import EntityStore.Proofs.Plan.Binding
import EntityStore.Proofs.Tables.Apart

namespace EntityStore.Batch

open Relational (inMemory Stores)

variable {entity : Entity} {settings : Settings} {columns : Columns} {t next : Tables.Table}
  {b : Batch} {existing : Fields (Fields Json)} {doc : Fields Json} {P : Row → Prop}

/-- The row of an item as it is placed, where the next primary key is a given
one. -/
def arrives (b : Batch) (e : Entity) (settings : Settings) (columns : Columns)
    (existing : Fields (Fields Json)) (t : Tables.Table) (doc : Fields Json) (n : Int) : Row :=
  (Tables.assignId t.shape (b.comesIn e settings columns existing t doc) n).1

/-- What a stored row becomes when an item comes in that shares a key with
it. -/
def overwrites (b : Batch) (e : Entity) (settings : Settings) (columns : Columns)
    (existing : Fields (Fields Json)) (t : Tables.Table) (doc : Fields Json) (n : Int) (row : Row) :
    Row :=
  Tables.takeFrom (b.takenOver e existing) row (b.arrives e settings columns existing t doc n)

theorem Upserted.stores (h : Upserted b entity settings columns existing t next)
    (hdoc : doc ∈ b.items) {n : Int} (hn : t.nextId ≤ n) :
    ∃ last, Stores entity settings columns t last (b.written entity existing doc)
      (b.arrives entity settings columns existing t doc n) :=
  ⟨_, Relational.stores_of_incoming (List.mem_map_of_mem hdoc) h.named hn (Int.le_refl _)⟩

/-- A row of some sort is still there after an upsert when no item that shares
a key with it makes it another sort. -/
theorem Upserted.exists_row (h : Upserted b entity settings columns existing t next)
    (hstep : ∀ doc ∈ b.items, ∀ n, t.nextId ≤ n → ∀ row, P row →
      Tables.SharesKey t.shape row (b.arrives entity settings columns existing t doc n) →
        P (b.overwrites entity settings columns existing t doc n row))
    (hrow : ∃ row ∈ t.rows, P row) : ∃ row ∈ next.rows, P row := by
  obtain ⟨f, hfold, hrows, -⟩ := h.filled
  rw [hrows]
  refine Tables.exists_of_foldlM hfold ?_ hrow
  simp only [List.forall_mem_map]
  exact hstep

/-- All rows are of some sort after an upsert when those of the items are, and
no item makes a row that it shares a key with another sort. -/
theorem Upserted.forall_row (h : Upserted b entity settings columns existing t next)
    (hnew : ∀ doc ∈ b.items, ∀ n, t.nextId ≤ n →
      P (b.arrives entity settings columns existing t doc n))
    (hstep : ∀ doc ∈ b.items, ∀ n, t.nextId ≤ n → ∀ row, P row →
      Tables.SharesKey t.shape row (b.arrives entity settings columns existing t doc n) →
        P (b.overwrites entity settings columns existing t doc n row))
    (hrows : ∀ row ∈ t.rows, P row) : ∀ row ∈ next.rows, P row := by
  obtain ⟨f, hfold, hnext, -⟩ := h.filled
  rw [hnext]
  refine Tables.forall_of_foldlM hfold ?_ ?_ hrows
  · simp only [List.forall_mem_map]
    exact hnew
  · simp only [List.forall_mem_map]
    exact hstep

/-- The row of an item is there when the item has come in, or a row that shares
a key with it has taken over from it, and what later items keep of it is there
in the end. -/
theorem Upserted.exists_of_own (h : Upserted b entity settings columns existing t next)
    {Q : Row → Prop} (hdoc : doc ∈ b.items)
    (hnew : ∀ doc ∈ b.items, ∀ n, t.nextId ≤ n →
      Q (b.arrives entity settings columns existing t doc n))
    (hkeep : ∀ doc ∈ b.items, ∀ n, t.nextId ≤ n → ∀ row, Q row →
      Tables.SharesKey t.shape row (b.arrives entity settings columns existing t doc n) →
        Q (b.overwrites entity settings columns existing t doc n row))
    (hrows : ∀ row ∈ t.rows, Q row)
    (hown : ∀ n, t.nextId ≤ n → P (b.arrives entity settings columns existing t doc n))
    (htaken : ∀ n, t.nextId ≤ n → ∀ row, Q row →
      Tables.SharesKey t.shape row (b.arrives entity settings columns existing t doc n) →
        P (b.overwrites entity settings columns existing t doc n row))
    (hstep : ∀ doc ∈ b.items, ∀ n, t.nextId ≤ n → ∀ row, P row →
      Tables.SharesKey t.shape row (b.arrives entity settings columns existing t doc n) →
        P (b.overwrites entity settings columns existing t doc n row)) :
    ∃ row ∈ next.rows, P row := by
  obtain ⟨before, later, hitems⟩ := List.mem_iff_append.mp hdoc
  obtain ⟨f, hfold, hnext, -⟩ := h.filled
  rw [hnext]
  have hsplit : ∀ (w : Fields Json → Fields Json) (g : Fields Json → List Value),
      (b.items.map w).map g = (before.map w).map g ++ g (w doc) :: (later.map w).map g := by
    intro w g
    rw [hitems]
    simp
  rw [hsplit] at hfold
  obtain ⟨own, mid, hbefore, hplace, hlater⟩ := Tables.foldlM_append_cons hfold
  have hbeforeItems : ∀ d ∈ before, d ∈ b.items := fun d hd => by simp [hitems, hd]
  have hlaterItems : ∀ d ∈ later, d ∈ b.items := fun d hd => by simp [hitems, hd]
  have hle : t.nextId ≤ own.nextId := Tables.nextId_of_foldlM hbefore
  obtain ⟨hmid, hplaced⟩ := Tables.place_eq_ok hplace
  have hthere : ∃ row ∈ mid.rows, P row := by
    rcases hplaced with ⟨-, hrows'⟩ | ⟨i, stored, hstored, hshares, hrows'⟩
    · rw [hrows']
      exact ⟨_, List.mem_append_right _ (List.mem_singleton_self _), hown _ hle⟩
    · have hQ : ∀ row ∈ own.rows, Q row := by
        refine Tables.forall_of_foldlM hbefore ?_ ?_ hrows
        · simp only [List.forall_mem_map]
          exact fun d hd => hnew d (hbeforeItems d hd)
        · simp only [List.forall_mem_map]
          exact fun d hd => hkeep d (hbeforeItems d hd)
      have hi : i < own.rows.length := (List.getElem?_eq_some_iff.mp hstored).1
      rw [hrows']
      exact ⟨_, List.mem_of_getElem? (List.getElem?_set_self hi),
        htaken _ hle stored (hQ stored (List.mem_of_getElem? hstored)) hshares⟩
  refine Tables.exists_of_foldlM hlater ?_ hthere
  simp only [List.forall_mem_map]
  exact fun d hd n hn => hstep d (hlaterItems d hd) n (Int.le_trans (Int.le_trans hle hmid) hn)

end EntityStore.Batch

namespace EntityStore.Batch

open Flat (IsName)
open Relational (inMemory)
open Tables (valueAt)

variable {entity : Entity} {settings : Settings} {t : Tables.Table} {columns : Columns}
  {b : Batch} {existing : Fields (Fields Json)} {k : Kind} {doc : Fields Json} {row : Row}
  {f : String} {n : Int}

/-! ## Columns -/

/-- All fields that are written are columns of the table. -/
def Fits (b : Batch) (e : Entity) (existing : Fields (Fields Json)) (t : Tables.Table) : Prop :=
  ∀ f ∈ Fields.allKeys (b.items.map (b.written e existing)), Fields.contains t.shape.columns f = true

theorem Fits.contains (hfits : Fits b entity existing t) (hdoc : doc ∈ b.items)
    (hf : f ∈ (b.written entity existing doc).keys) :
    Fields.contains t.shape.columns f = true :=
  hfits f (Fields.mem_allKeys.mpr ⟨_, List.mem_map_of_mem hdoc, hf⟩)

theorem Fits.get?_comesIn (hfits : Fits b entity existing t) (hdoc : doc ∈ b.items) (c : String) :
    (b.comesIn entity settings columns existing t doc).get? c =
      if Fields.contains t.shape.columns c then
        some (((inMemory entity settings).scope columns).bind c
          ((b.written entity existing doc).get? c))
      else none :=
  Relational.get?_incoming (List.mem_map_of_mem hdoc) hfits c

/-- Under each name an item comes in with what it is written with. -/
theorem Fits.valueAt_comesIn (hfits : Fits b entity existing t) (hdoc : doc ∈ b.items)
    (c : String) : valueAt (b.comesIn entity settings columns existing t doc) c =
      ((inMemory entity settings).scope columns).bind c
        ((b.written entity existing doc).get? c) := by
  rw [valueAt, hfits.get?_comesIn hdoc]
  split
  · rfl
  · rename_i hcolumn
    have hnone : (b.written entity existing doc).get? c = none :=
      Fields.get?_eq_none_iff.mpr fun hc => hcolumn (hfits.contains hdoc hc)
    rw [hnone]
    rfl

/-! ## Primary keys -/

theorem get?_arrives_of_ne (hf : f ≠ t.shape.primaryKey) :
    (b.arrives entity settings columns existing t doc n).get? f =
      (b.comesIn entity settings columns existing t doc).get? f :=
  Tables.get?_assignId_of_ne hf

theorem valueAt_arrives_of_ne (hf : f ≠ t.shape.primaryKey) :
    valueAt (b.arrives entity settings columns existing t doc n) f =
      valueAt (b.comesIn entity settings columns existing t doc) f :=
  congrArg (·.getD .null) (get?_arrives_of_ne hf)

theorem valueAt_arrives_primary :
    valueAt (b.arrives entity settings columns existing t doc n) t.shape.primaryKey =
      if (valueAt (b.comesIn entity settings columns existing t doc) t.shape.primaryKey).isNull
        then .int (Tables.word n)
        else valueAt (b.comesIn entity settings columns existing t doc) t.shape.primaryKey :=
  Tables.valueAt_of_some (Tables.get?_assignId_self ..)

/-- An item with a primary key comes in as it is. -/
theorem arrives_of_present
    (h : valueAt (b.comesIn entity settings columns existing t doc) t.shape.primaryKey ≠ .null) :
    b.arrives entity settings columns existing t doc n =
      b.comesIn entity settings columns existing t doc := by
  unfold arrives Tables.assignId
  split
  · rename_i hnone
    rw [valueAt, hnone] at h
    exact absurd rfl h
  · rename_i hnone
    rw [valueAt, hnone] at h
    exact absurd rfl h
  · rfl
  · rfl

/-! ## Items and their rows -/

/-- The row has the key of the item. -/
def IsFor (b : Batch) (e : Entity) (doc : Fields Json) (row : Row) : Prop :=
  row.get? (b.meetingField e) = some (valueOf doc (b.meetingField e))

/-- What an item is written with under a field when it is for a row: its own
value, unless the row locks the field or has an identity there, or else the
value of the row. -/
def source (b : Batch) (e : Entity) (doc : Fields Json) (row : Row) (f : String) : Option Json :=
  if f ∉ lockedFields e (Row.toJson (Tables.bareColumns row)) b.overrideLocked ∧
      (f = e.idField → row.get? f = none)
    then (doc.get? f).or ((row.get? f).map Value.toJson)
    else (row.get? f).map Value.toJson

/-- It is the item's own value or that of the row. -/
theorem source_eq_some {w : Value} (hw : row.get? f = some w) :
    ∃ j, b.source entity doc row f = some j ∧ (doc.get? f = some j ∨ j = w.toJson) := by
  rw [source, hw, Option.map_some]
  split
  · cases hj : doc.get? f with
    | none => exact ⟨_, rfl, .inr rfl⟩
    | some j => exact ⟨j, rfl, .inl rfl⟩
  · exact ⟨_, rfl, .inr rfl⟩

/-- An item has no other key than its row, whose identity it is written
with. -/
theorem source_identity {w : Value} (hw : row.get? entity.idField = some w) :
    b.source entity doc row entity.idField = some w.toJson := by
  rw [source, if_neg, hw, Option.map_some]
  rintro ⟨-, hnone⟩
  cases (hnone rfl).symm.trans hw

/-- A batch goes by a column that tells the rows of its table apart. Its items
have different keys of one kind there. -/
structure ByColumn (b : Batch) (e : Entity) (columns : Columns) (t : Tables.Table)
    (k : Kind) : Prop where
  names : b.NamesFields
  identity : IsName e.idField
  scalar : columns.isJson (b.meetingField e) = false
  items : ∀ doc ∈ b.items, k.Has (valueOf doc (b.meetingField e))
  different : b.items.Pairwise fun doc other =>
    valueOf doc (b.meetingField e) ≠ valueOf other (b.meetingField e)
  rows : Tables.Apart (b.meetingField e) k t.rows

namespace ByColumn

variable (h : ByColumn b entity columns t k)

include h

theorem get?_key (hdoc : doc ∈ b.items) : ∃ j, doc.get? (b.meetingField entity) = some j ∧
    j.isNull = false ∧ Value.ofJson j = valueOf doc (b.meetingField entity) := by
  have hhas := h.items doc hdoc
  cases hget : doc.get? (b.meetingField entity) with
  | none =>
    rw [valueOf, hget] at hhas
    exact absurd hhas k.not_has_null
  | some j =>
    have hvalue : valueOf doc (b.meetingField entity) = .ofJson j := by
      rw [valueOf, hget]
      rfl
    rw [hvalue] at hhas ⊢
    exact ⟨j, rfl, by rw [← Value.isNull_ofJson, hhas.isNull], rfl⟩

theorem hasKeys : b.HasKeys (b.meetingField entity) := by
  intro doc hdoc
  obtain ⟨j, hj, hnull, -⟩ := h.get?_key hdoc
  exact ⟨j, hj, hnull⟩

theorem mem_allKeys (hdoc : doc ∈ b.items) : b.meetingField entity ∈ Fields.allKeys b.items := by
  obtain ⟨j, hj, -⟩ := h.get?_key hdoc
  exact Fields.mem_allKeys.mpr ⟨doc, hdoc, Fields.contains_iff.mp (by rw [Fields.contains, hj]; rfl)⟩

theorem isName (hdoc : doc ∈ b.items) : IsName (b.meetingField entity) :=
  h.names _ (h.mem_allKeys hdoc)

/-- Two rows of one item are the same. -/
theorem eq_of_isFor (hdoc : doc ∈ b.items) {r : Row} (hrow : row ∈ t.rows) (hr : r ∈ t.rows)
    (hfor : b.IsFor entity doc row) (hsame : b.IsFor entity doc r) : r = row :=
  h.rows.told.eq_of_value (h.items doc hdoc) hr hrow hsame hfor

/-! ## The items as they are written -/

/-- An item meets its row. -/
theorem met_of_row (hdoc : doc ∈ b.items) (hrow : row ∈ t.rows) (hfor : b.IsFor entity doc row) :
    (b.met entity columns t).get? (valueOf doc (b.meetingField entity)).key =
      some (Row.toJson (Tables.bareColumns row)) :=
  met_of_row_of_kind (h.isName hdoc) h.scalar h.rows.allows hdoc (h.items doc hdoc) hrow hfor
    fun _ hr hsame => h.eq_of_isFor hdoc hrow hr hfor hsame

/-- An item that is for no row is written as it is. -/
theorem written_of_no_row (hdoc : doc ∈ b.items)
    (hnew : ∀ row ∈ t.rows, ¬ b.IsFor entity doc row) :
    b.written entity (b.met entity columns t) doc = doc :=
  completed_of_new (met_of_no_row_of_kind (h.isName hdoc) h.scalar h.rows.allows
    (h.items doc hdoc) hnew)

theorem get?_written_of_row (hdoc : doc ∈ b.items) (hrow : row ∈ t.rows)
    (hfor : b.IsFor entity doc row) (hf : f ∈ Fields.allKeys b.items)
    (hne : f ≠ b.meetingField entity) :
    (b.written entity (b.met entity columns t) doc).get? f =
      some (Json.ofOption (b.source entity doc row f)) := by
  rw [written, get?_completed_of_mem (h.met_of_row hdoc hrow hfor) h.names hne hf, source,
    Relational.get?_record (h.names f hf)]
  simp only [Option.map_eq_none_iff]

/-- A field that is none of the batch is only written for the identity of the
item's row. -/
theorem get?_written_of_not_mem (hdoc : doc ∈ b.items) (hf : f ∉ Fields.allKeys b.items)
    (hid : f ≠ entity.idField) : (b.written entity (b.met entity columns t) doc).get? f = none := by
  have hne : f ≠ b.meetingField entity := fun heq => hf (heq ▸ h.mem_allKeys hdoc)
  by_cases hold : ∃ row ∈ t.rows, b.IsFor entity doc row
  · obtain ⟨row, hrow, hfor⟩ := hold
    rw [written, get?_completed (h.met_of_row hdoc hrow hfor) h.names hne hid, if_neg hf]
  · rw [h.written_of_no_row hdoc fun row hrow hfor => hold ⟨row, hrow, hfor⟩,
      Fields.get?_eq_none_iff]
    exact fun hmem => hf (Fields.mem_allKeys.mpr ⟨doc, hdoc, hmem⟩)

/-- An item is written under its own key. -/
theorem bind_written_key (settings : Settings) (hdoc : doc ∈ b.items) :
    ((inMemory entity settings).scope columns).bind (b.meetingField entity)
        ((b.written entity (b.met entity columns t) doc).get? (b.meetingField entity)) =
      valueOf doc (b.meetingField entity) := by
  obtain ⟨j, hj, hnull, hvalue⟩ := h.get?_key hdoc
  have hhas := h.items doc hdoc
  have hown : (valueOf doc (b.meetingField entity)).toJson.isNull = false := by
    rw [← Value.isNull_ofJson, hhas.ofJson_toJson, hhas.isNull]
  by_cases hold : ∃ row ∈ t.rows, b.IsFor entity doc row
  · obtain ⟨row, hrow, hfor⟩ := hold
    have hstored : (Row.toJson (Tables.bareColumns row)).get? (b.meetingField entity) =
        some (valueOf doc (b.meetingField entity)).toJson := by
      rw [Relational.get?_record (h.isName hdoc), hfor]
      rfl
    rw [written, get?_completed_key (h.met_of_row hdoc hrow hfor), hstored, Option.some_or,
      ite_self, bind_of_scalar h.scalar hown, hhas.ofJson_toJson]
  · rw [h.written_of_no_row hdoc fun row hrow hfor => hold ⟨row, hrow, hfor⟩, hj,
      bind_of_scalar h.scalar hnull, hvalue]

/-- Under a field of the batch, and under the identity, the column of an item
that is for a row binds what is said by the row and the item. -/
theorem bind_written_of_row (settings : Settings) (hdoc : doc ∈ b.items) (hrow : row ∈ t.rows)
    (hfor : b.IsFor entity doc row) (hf : f ∈ Fields.allKeys b.items ∨ f = entity.idField)
    (hne : f ≠ b.meetingField entity) :
    ((inMemory entity settings).scope columns).bind f
        ((b.written entity (b.met entity columns t) doc).get? f) =
      ((inMemory entity settings).scope columns).bind f (b.source entity doc row f) := by
  by_cases hmem : f ∈ Fields.allKeys b.items
  · rw [h.get?_written_of_row hdoc hrow hfor hmem hne, Plan.Scope.bind_ofOption]
  · obtain rfl := hf.resolve_left hmem
    have hnone : doc.get? entity.idField = none :=
      Fields.get?_eq_none_iff.mpr fun hk => hmem (Fields.mem_allKeys.mpr ⟨doc, hdoc, hk⟩)
    rw [written, get?_completed_identity_of_not_mem (h.met_of_row hdoc hrow hfor) hne hmem,
      Relational.get?_record h.identity, source, hnone, Option.none_or, ite_self]

/-- The names that an item is written with. -/
theorem mem_keys_written (hdoc : doc ∈ b.items) (hrow : row ∈ t.rows)
    (hfor : b.IsFor entity doc row) :
    f ∈ (b.written entity (b.met entity columns t) doc).keys ↔
      f ∈ Fields.allKeys b.items ∨ f = entity.idField ∧ row.get? f ≠ none := by
  have hmet := h.met_of_row hdoc hrow hfor
  rw [← Fields.contains_iff, Fields.contains]
  by_cases hmem : f ∈ Fields.allKeys b.items
  · simp only [hmem, true_or, iff_true]
    by_cases hne : f = b.meetingField entity
    · subst hne
      exact Fields.contains_iff.mpr (Batch.mem_keys_written h.hasKeys hdoc)
    · rw [h.get?_written_of_row hdoc hrow hfor hmem hne]
      rfl
  · have hne : f ≠ b.meetingField entity := fun heq => hmem (heq ▸ h.mem_allKeys hdoc)
    by_cases hid : f = entity.idField
    · subst hid
      rw [written, get?_completed_identity_of_not_mem hmet hne hmem,
        Relational.get?_record h.identity, Option.isSome_map, Option.isSome_iff_ne_none]
      simp [hmem]
    · rw [h.get?_written_of_not_mem hdoc hmem hid]
      simp [hmem, hid]

end ByColumn

end EntityStore.Batch
