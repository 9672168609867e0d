-- Where the items of a batch come to that goes by a column which tells the rows
-- of its table apart. As long as an item shares no key with other items and
-- other rows, its own row takes over from it, or it comes in as a new one.
import EntityStore.Proofs.Batch.Arriving
import EntityStore.Proofs.Batch.Locks

namespace EntityStore.Batch

open Flat (IsName)
open Relational (inMemory)
open Tables (valueAt SharesKey Agree)

variable {entity : Entity} {settings : Settings} {t next : Tables.Table} {columns : Columns}
  {b : Batch} {k : Kind} {doc : Fields Json} {row : Row} {f : String} {n m : Int}

/-! ## Items that come in -/

/-- The row of an item that is completed from the table itself. -/
abbrev enters (b : Batch) (e : Entity) (settings : Settings) (columns : Columns)
    (t : Tables.Table) (doc : Fields Json) : Row :=
  b.comesIn e settings columns (b.met e columns t) t doc

/-- This row as it is placed, where the next primary key is a given one. -/
abbrev entersAs (b : Batch) (e : Entity) (settings : Settings) (columns : Columns)
    (t : Tables.Table) (doc : Fields Json) (n : Int) : Row :=
  b.arrives e settings columns (b.met e columns t) t doc n

/-- What a row becomes when an item takes its place. -/
abbrev taken (b : Batch) (e : Entity) (settings : Settings) (columns : Columns)
    (t : Tables.Table) (doc : Fields Json) (n : Int) (row : Row) : Row :=
  b.overwrites e settings columns (b.met e columns t) t doc n row

/-- A stored value under the field counts as equal to the value of its item, or
to itself as it is read again, only when it is the same. -/
def Exact (b : Batch) (e : Entity) (settings : Settings) (columns : Columns) (t : Tables.Table)
    (f : String) : Prop :=
  ∀ doc ∈ b.items, ∀ row ∈ t.rows, b.IsFor e doc row → ∀ w, row.get? f = some w →
    ∀ j, doc.get? f = some j ∨ j = w.toJson →
      (w == ((inMemory e settings).scope columns).bind f (some j)) = true →
        w = ((inMemory e settings).scope columns).bind f (some j)

/-- An item shares keys of the table only with the row that it is for. No other
item and no other row has a key in common with it, whichever primary keys of 64
bits they are given. -/
structure Alone (b : Batch) (e : Entity) (settings : Settings) (columns : Columns)
    (t : Tables.Table) : Prop where
  rows : ∀ doc ∈ b.items, ∀ row ∈ t.rows,
    b.Meets e settings columns (b.met e columns t) t Value.maxInt doc row → b.IsFor e doc row
  items : ∀ doc ∈ b.items, ∀ other ∈ b.items,
    valueOf doc (b.meetingField e) ≠ valueOf other (b.meetingField e) →
      ∀ n m, t.nextId ≤ n → n ≤ Value.maxInt → t.nextId ≤ m → m ≤ Value.maxInt → n ≠ m →
        ¬ SharesKey t.shape (b.entersAs e settings columns t doc n)
          (b.entersAs e settings columns t other m)

/-- A table with its batch. The batch goes by a column with a key of its own
and carries the primary key only as its key or as the identity. All rows have
primary keys, whole numbers only once, and everything that is stored or comes
in can be written down and read again. -/
structure Orderly (b : Batch) (e : Entity) (settings : Settings) (columns : Columns)
    (t : Tables.Table) (k : Kind) : Prop extends ByColumn b e columns t k where
  keyed : ∃ key ∈ t.shape.keys, key.columns = [b.meetingField e]
  exact : ∀ key ∈ t.shape.keys, ∀ c ∈ key.columns, b.Exact e settings columns t c
  carried : t.shape.primaryKey ∈ Fields.allKeys b.items →
    b.meetingField e = t.shape.primaryKey ∨ e.idField = t.shape.primaryKey
  primary : Fields.contains t.shape.columns t.shape.primaryKey = true ∧
    columns.isJson t.shape.primaryKey = false
  present : ∀ row ∈ t.rows, ∃ p, row.get? t.shape.primaryKey = some p ∧ p.toJson.isNull = false
  numbers : Tables.Told Tables.IsNumber t.shape.primaryKey t.rows
  sound : ∀ doc ∈ b.items, ∀ p ∈ doc, p.2.isSound = true
  settled : ∀ row ∈ t.rows, SoundRow row ∧ Settled e settings columns row

namespace ByColumn

variable (h : ByColumn b entity columns t k)

include h

/-- The stored rows of some items take over all fields of the batch but the
key. -/
theorem mem_takenOver (hdoc : doc ∈ b.items) (hrow : row ∈ t.rows)
    (hfor : b.IsFor entity doc row) :
    f ∈ b.takenOver entity (b.met entity columns t) ↔
      f ∈ Fields.allKeys b.items ∧ f ≠ b.meetingField entity := by
  have hany : ((b.items.map (valueOf · (b.meetingField entity))).any fun key =>
      (b.met entity columns t).contains key.key) = true := by
    refine List.any_eq_true.mpr ⟨_, List.mem_map_of_mem hdoc, ?_⟩
    rw [Fields.contains, h.met_of_row hdoc hrow hfor]
    rfl
  unfold takenOver updatedFields
  rw [if_pos hany]
  simp

variable (hfits : b.Fits entity (b.met entity columns t) t)

include hfits

theorem get?_enters_key (hdoc : doc ∈ b.items) :
    (b.enters entity settings columns t doc).get? (b.meetingField entity) =
      some (valueOf doc (b.meetingField entity)) := by
  rw [hfits.get?_comesIn hdoc, if_pos (hfits.contains hdoc (Batch.mem_keys_written h.hasKeys hdoc)),
    h.bind_written_key settings hdoc]

theorem get?_entersAs_key (hdoc : doc ∈ b.items) :
    (b.entersAs entity settings columns t doc n).get? (b.meetingField entity) =
      some (valueOf doc (b.meetingField entity)) :=
  Tables.get?_arrival (h.get?_enters_key hfits hdoc) (h.items doc hdoc) n

theorem valueAt_enters_of_row (hdoc : doc ∈ b.items) (hrow : row ∈ t.rows)
    (hfor : b.IsFor entity doc row) (hf : f ∈ Fields.allKeys b.items ∨ f = entity.idField)
    (hne : f ≠ b.meetingField entity) :
    valueAt (b.enters entity settings columns t doc) f =
      ((inMemory entity settings).scope columns).bind f (b.source entity doc row f) := by
  rw [hfits.valueAt_comesIn hdoc, h.bind_written_of_row settings hdoc hrow hfor hf hne]

theorem valueAt_enters_of_no_row (hdoc : doc ∈ b.items)
    (hnew : ∀ row ∈ t.rows, ¬ b.IsFor entity doc row) :
    valueAt (b.enters entity settings columns t doc) f =
      ((inMemory entity settings).scope columns).bind f (doc.get? f) := by
  rw [hfits.valueAt_comesIn hdoc, h.written_of_no_row hdoc hnew]

theorem valueAt_enters_of_not_mem (hdoc : doc ∈ b.items) (hf : f ∉ Fields.allKeys b.items)
    (hid : f ≠ entity.idField) : valueAt (b.enters entity settings columns t doc) f = .null := by
  rw [hfits.valueAt_comesIn hdoc, h.get?_written_of_not_mem hdoc hf hid]
  rfl

end ByColumn

namespace Orderly

section

variable (h : Orderly b entity settings columns t k)

include h

theorem sound_get? (hdoc : doc ∈ b.items) {j : Json} (hj : doc.get? f = some j) :
    j.isSound = true :=
  h.sound doc hdoc (f, j) (Fields.mem_of_get? hj)

theorem sound_source (hdoc : doc ∈ b.items) (hrow : row ∈ t.rows) {j : Json}
    (hj : b.source entity doc row f = some j) : j.isSound = true := by
  have hstored : ∀ i, (row.get? f).map Value.toJson = some i → i.isSound = true := by
    intro i hi
    obtain ⟨w, hw, rfl⟩ := Option.map_eq_some_iff.mp hi
    exact (h.settled row hrow).1 (f, w) (Fields.mem_of_get? hw)
  rw [source] at hj
  split at hj
  · rcases Option.or_eq_some_iff.mp hj with hj | ⟨-, hj⟩
    · exact h.sound_get? hdoc hj
    · exact hstored j hj
  · exact hstored j hj

/-- The value of an item's row under an exact field is bound as itself. -/
theorem bind_toJson (hexact : b.Exact entity settings columns t f) (hdoc : doc ∈ b.items)
    (hrow : row ∈ t.rows) (hfor : b.IsFor entity doc row) {w : Value} (hw : row.get? f = some w) :
    ((inMemory entity settings).scope columns).bind f (some w.toJson) = w :=
  (hexact doc hdoc row hrow hfor w hw _ (.inr rfl)
    ((h.settled row hrow).2 (f, w) (Fields.mem_of_get? hw))).symm

end

variable (h : Orderly b entity settings columns t k)
  (hfits : b.Fits entity (b.met entity columns t) t)

include h hfits

/-! ## Primary keys -/

/-- An item for a row comes in with the primary key of that row, where this is
the key of the batch or the identity. -/
theorem primary_enters (hid : b.meetingField entity = t.shape.primaryKey ∨
      entity.idField = t.shape.primaryKey) (hdoc : doc ∈ b.items) (hrow : row ∈ t.rows)
    (hfor : b.IsFor entity doc row) :
    valueAt (b.enters entity settings columns t doc) t.shape.primaryKey =
        valueAt row t.shape.primaryKey ∧
      valueAt row t.shape.primaryKey ≠ .null := by
  obtain ⟨p, hp, hnull⟩ := h.present row hrow
  rw [Tables.valueAt_of_some hp]
  refine ⟨?_, by rintro rfl; cases hnull⟩
  by_cases hkey : b.meetingField entity = t.shape.primaryKey
  · rw [← hkey, Tables.valueAt_of_some (h.get?_enters_key hfits hdoc)]
    rw [← hkey] at hp
    exact Option.some.inj (hfor.symm.trans hp)
  · have hid := hid.resolve_left hkey
    have hexact := h.exact _ List.mem_cons_self _ (List.mem_singleton_self t.shape.primaryKey)
    rw [h.valueAt_enters_of_row hfits hdoc hrow hfor (.inr hid.symm) (Ne.symm hkey)]
    have hsource : b.source entity doc row t.shape.primaryKey = some p.toJson := by
      rw [← hid] at hp ⊢
      exact source_identity hp
    rw [hsource, h.bind_toJson hexact hdoc hrow hfor hp]

/-! ## Rows that take over -/

/-- A row keeps its primary key when it takes over from its item. -/
theorem primary_taken (hdoc : doc ∈ b.items) (hrow : row ∈ t.rows) (hfor : b.IsFor entity doc row) :
    (b.taken entity settings columns t doc n row).get? t.shape.primaryKey =
      row.get? t.shape.primaryKey := by
  by_cases hmem : t.shape.primaryKey ∈ b.takenOver entity (b.met entity columns t)
  · obtain ⟨hunion, hne⟩ := mem_of_mem_takenOver hmem
    have hid : entity.idField = t.shape.primaryKey := (h.carried hunion).resolve_left hne.symm
    obtain ⟨hsame, hnull⟩ := h.primary_enters hfits (.inr hid) hdoc hrow hfor
    obtain ⟨p, hp, -⟩ := h.present row hrow
    refine Tables.get?_takeFrom_of_shows fun v hv => ?_
    rw [arrives_of_present (hsame ▸ hnull)] at hv
    rw [Tables.valueAt_of_some hv, Tables.valueAt_of_some hp] at hsame
    exact ⟨p, hp, by rw [hsame]; exact Value.beq_self p⟩
  · exact Tables.get?_takeFrom_of_not_mem hmem

/-- Under a field of the batch a row keeps its value, which is equal to what the
item is written with, or takes it over. -/
theorem get?_taken (hdoc : doc ∈ b.items) (hrow : row ∈ t.rows) (hfor : b.IsFor entity doc row)
    (hf : f ∈ Fields.allKeys b.items) (hne : f ≠ b.meetingField entity)
    (hprimary : f ≠ t.shape.primaryKey) :
    ((b.taken entity settings columns t doc n row).get? f = row.get? f ∧
        Tables.Shows row f (((inMemory entity settings).scope columns).bind f
          (b.source entity doc row f))) ∨
      (b.taken entity settings columns t doc n row).get? f =
        some (((inMemory entity settings).scope columns).bind f (b.source entity doc row f)) := by
  have hcomes : (b.entersAs entity settings columns t doc n).get? f =
      some (((inMemory entity settings).scope columns).bind f (b.source entity doc row f)) := by
    have hcolumn := hfits.contains hdoc ((h.mem_keys_written hdoc hrow hfor).mpr (.inl hf))
    rw [get?_arrives_of_ne hprimary, hfits.get?_comesIn hdoc, if_pos hcolumn,
      h.bind_written_of_row settings hdoc hrow hfor (.inl hf) hne]
  have hcases : (b.taken entity settings columns t doc n row).get? f = row.get? f ∧ _ ∨ _ :=
    Tables.get?_takeFrom_eq_or
  rcases hcases with ⟨hkept, hshows⟩ | ⟨v, hv, htaken⟩
  · exact .inl ⟨hkept, hshows ((h.mem_takenOver hdoc hrow hfor).mpr ⟨hf, hne⟩) _ hcomes⟩
  · exact .inr (htaken.trans (hv.symm.trans hcomes))

/-- Under an exact field a row has the value of its item after it took over
from it. -/
theorem valueAt_taken (hexact : b.Exact entity settings columns t f) (hdoc : doc ∈ b.items)
    (hrow : row ∈ t.rows) (hfor : b.IsFor entity doc row)
    (hf : f ∈ Fields.allKeys b.items ∨ f = entity.idField) (hne : f ≠ b.meetingField entity)
    (hprimary : f ≠ t.shape.primaryKey) :
    valueAt (b.taken entity settings columns t doc n row) f =
      valueAt (b.enters entity settings columns t doc) f := by
  rw [h.valueAt_enters_of_row hfits hdoc hrow hfor hf hne]
  by_cases hmem : f ∈ Fields.allKeys b.items
  · rcases h.get?_taken hfits hdoc hrow hfor hmem hne hprimary with ⟨hkept, w, hw, heq⟩ | htaken
    · obtain ⟨j, hj, hown⟩ : ∃ j, b.source entity doc row f = some j ∧ _ := source_eq_some hw
      rw [hj] at heq ⊢
      rw [Tables.valueAt_of_some (hkept.trans hw)]
      exact hexact doc hdoc row hrow hfor w hw j hown heq
    · exact Tables.valueAt_of_some htaken
  · obtain rfl := hf.resolve_left hmem
    have hkept : (b.taken entity settings columns t doc n row).get? entity.idField =
        row.get? entity.idField :=
      Tables.get?_takeFrom_of_not_mem fun htaken => hmem (mem_of_mem_takenOver htaken).1
    rw [valueAt, hkept]
    cases hw : row.get? entity.idField with
    | none =>
      have hnone : doc.get? entity.idField = none :=
        Fields.get?_eq_none_iff.mpr fun hk => hmem (Fields.mem_allKeys.mpr ⟨doc, hdoc, hk⟩)
      rw [source, hnone, hw, Option.map_none, Option.or_none, ite_self]
      rfl
    | some w =>
      rw [source_identity hw, h.bind_toJson hexact hdoc hrow hfor hw, Option.getD_some]

/-! ## Items beside each other -/

/-- The row of an item that was placed shares no key with another item. -/
theorem not_sharesKey_of_lands (halone : b.Alone entity settings columns t) {other : Fields Json}
    (hdoc : doc ∈ b.items) (hother : other ∈ b.items)
    (hne : valueOf doc (b.meetingField entity) ≠ valueOf other (b.meetingField entity))
    (hn : t.nextId ≤ n) (hm : t.nextId ≤ m) (hmax : m < Value.maxInt)
    (hnumber : valueAt (b.enters entity settings columns t doc) t.shape.primaryKey = .null →
      n ≤ Value.maxInt ∧ n ≠ m)
    (hlands : (∃ old ∈ t.rows, b.IsFor entity doc old ∧
        row = b.taken entity settings columns t doc n old) ∨
      row = b.entersAs entity settings columns t doc n) :
    ¬ SharesKey t.shape row (b.entersAs entity settings columns t other m) := by
  intro hshares
  obtain ⟨key, hkey, hagree⟩ := Tables.sharesKey_iff.mp hshares
  -- An item with a primary key of its own comes in the same under any number.
  obtain ⟨i, hi, hle, him, hsame⟩ : ∃ i, t.nextId ≤ i ∧ i ≤ Value.maxInt ∧ i ≠ m ∧
      b.entersAs entity settings columns t doc i = b.entersAs entity settings columns t doc n := by
    by_cases hnull : valueAt (b.enters entity settings columns t doc) t.shape.primaryKey = .null
    · obtain ⟨hle, hnm⟩ := hnumber hnull
      exact ⟨n, hn, hle, hnm, rfl⟩
    · exact ⟨m + 1, by omega, by omega, by omega,
        (arrives_of_present hnull).trans (arrives_of_present hnull).symm⟩
  refine halone.items doc hdoc other hother hne i m hi hle hm (Int.le_of_lt hmax) him
    (Tables.sharesKey_iff.mpr ⟨key, hkey, fun c hc => ?_⟩)
  rw [hsame]
  have hshared := hagree c hc
  rcases hlands with ⟨old, hold, hfor, rfl⟩ | rfl
  · by_cases hcolumn : c = b.meetingField entity
    · subst hcolumn
      have hown : (b.taken entity settings columns t doc n old).get? (b.meetingField entity) = _ :=
        (Tables.get?_takeFrom_of_not_mem not_mem_takenOver_self).trans hfor
      rw [Agree, Tables.valueAt_of_some hown,
        Tables.valueAt_of_some (h.get?_entersAs_key hfits hother),
        (h.items doc hdoc).agrees_iff (h.items other hother)] at hshared
      exact absurd hshared hne
    · by_cases hprimary : c = t.shape.primaryKey
      · subst hprimary
        have hstored : valueAt (b.taken entity settings columns t doc n old) t.shape.primaryKey =
            valueAt old t.shape.primaryKey := by
          rw [valueAt, h.primary_taken hfits hdoc hold hfor]
          rfl
        rw [Agree, hstored] at hshared
        have hother := halone.rows other hother old hold
          ⟨m, hm, Int.le_of_lt hmax, Tables.sharesKey_primary hshared⟩
        exact absurd (Option.some.inj (hfor.symm.trans hother)) hne
      · by_cases hmem : c ∈ Fields.allKeys b.items ∨ c = entity.idField
        · rw [Agree, h.valueAt_taken hfits (h.exact key hkey c hc) hdoc hold hfor hmem hcolumn
            hprimary] at hshared
          rw [Agree, valueAt_arrives_of_ne hprimary]
          exact hshared
        · rw [not_or] at hmem
          refine absurd hshared (Tables.not_agree_of_null ?_)
          rw [valueAt_arrives_of_ne hprimary]
          exact h.valueAt_enters_of_not_mem hfits hother hmem.1 hmem.2
  · exact hshared

end Orderly

/-! ## The table after the upsert -/

/-- The columns that the statement of an upsert names. -/
def sentColumns (b : Batch) (e : Entity) (columns : Columns) (t : Tables.Table) : List String :=
  Fields.allKeys (b.items.map (b.written e (b.met e columns t)))

/-- The values that the statement has for an item, under all these columns. -/
def sentValues (b : Batch) (e : Entity) (settings : Settings) (columns : Columns)
    (t : Tables.Table) (doc : Fields Json) : List Value :=
  ((inMemory e settings).scope columns).row (b.sentColumns e columns t)
    (b.written e (b.met e columns t) doc)

/-- The values for an item land in the row. -/
def LandsIn (b : Batch) (e : Entity) (settings : Settings) (columns : Columns) (t : Tables.Table)
    (last : Int) (doc : Fields Json) (row : Row) : Prop :=
  Tables.Lands t.shape (b.meetingField e) (b.sentColumns e columns t)
    (b.takenOver e (b.met e columns t)) t.rows t.nextId last (b.sentValues e settings columns t doc)
    row

/-- Where an item comes to: its row takes over from it, or there is none and
the item comes in as a new one. A number that it is given is below the last
one. -/
def Landed (b : Batch) (e : Entity) (settings : Settings) (columns : Columns) (t : Tables.Table)
    (last : Int) (doc : Fields Json) (row : Row) : Prop :=
  ∃ n, t.nextId ≤ n ∧
    (valueAt (b.enters e settings columns t doc) t.shape.primaryKey = .null → n < last) ∧
    ((∃ old ∈ t.rows, b.IsFor e doc old ∧ row = b.taken e settings columns t doc n old) ∨
      (∀ old ∈ t.rows, ¬ b.IsFor e doc old) ∧ row = b.entersAs e settings columns t doc n)

/-- What is known of a table after a batch has come in: each item has come to
a row, and each row is one that an item has come to or an old one. -/
structure Settles (b : Batch) (e : Entity) (settings : Settings) (columns : Columns)
    (t : Tables.Table) (k : Kind) (next : Tables.Table) : Prop where
  shape : next.shape = t.shape
  rows : Tables.Apart (b.meetingField e) k next.rows
  numbers : Tables.Told Tables.IsNumber t.shape.primaryKey next.rows
  least : t.nextId ≤ next.nextId
  landed : ∀ doc ∈ b.items, ∃ row ∈ next.rows,
    b.Landed e settings columns t next.nextId doc row
  origin : ∀ row ∈ next.rows,
    (∃ doc ∈ b.items, b.Landed e settings columns t next.nextId doc row) ∨ row ∈ t.rows

theorem Upserted.fits (h : Upserted b entity settings columns (b.met entity columns t) t next) :
    b.Fits entity (b.met entity columns t) t :=
  h.named

namespace Orderly

variable (h : Orderly b entity settings columns t k)

include h

theorem isFor_of_landed (hfits : b.Fits entity (b.met entity columns t) t) (hdoc : doc ∈ b.items)
    {last : Int} (hlanded : b.Landed entity settings columns t last doc row) :
    b.IsFor entity doc row := by
  obtain ⟨n, -, -, ⟨old, -, hfor, rfl⟩ | ⟨-, rfl⟩⟩ := hlanded
  · exact (Tables.get?_takeFrom_of_not_mem not_mem_takenOver_self).trans hfor
  · exact h.get?_entersAs_key hfits hdoc

theorem landed_of_lands (hfits : b.Fits entity (b.met entity columns t) t) (hdoc : doc ∈ b.items)
    {last : Int} (hlands : b.LandsIn entity settings columns t last doc row) :
    b.Landed entity settings columns t last doc row := by
  have hvalue : (b.enters entity settings columns t doc).get? (b.meetingField entity) = _ :=
    h.get?_enters_key hfits hdoc
  obtain ⟨n, hn, hlt, hcame⟩ := hlands
  refine ⟨n, hn, hlt, ?_⟩
  rcases hcame with ⟨old, hold, hsame, rfl⟩ | ⟨hnew, rfl⟩
  · exact .inl ⟨old, hold, hsame.trans hvalue, rfl⟩
  · exact .inr ⟨fun old hold hfor => hnew old hold (hfor.trans hvalue.symm), rfl⟩

theorem addressed (halone : b.Alone entity settings columns t)
    (hfits : b.Fits entity (b.met entity columns t) t) (hdoc : doc ∈ b.items) :
    Tables.Addressed t.shape (b.meetingField entity) k (b.sentColumns entity columns t)
      (b.takenOver entity (b.met entity columns t)) t.rows t.nextId
      (b.sentValues entity settings columns t doc) (valueOf doc (b.meetingField entity)) where
  value := h.get?_enters_key hfits hdoc
  has := h.items doc hdoc
  own := fun row hrow n hn hlt hshares =>
    halone.rows doc hdoc row hrow ⟨n, hn, Int.le_of_lt hlt, hshares⟩
  primary := fun _ hrow hfor _ _ => h.primary_taken hfits hdoc hrow hfor

theorem beside (halone : b.Alone entity settings columns t)
    (hfits : b.Fits entity (b.met entity columns t) t) :
    b.items.Pairwise fun doc other =>
      Tables.Beside t.shape (b.meetingField entity) (b.sentColumns entity columns t)
        (b.takenOver entity (b.met entity columns t)) t.rows t.nextId
        (b.sentValues entity settings columns t doc)
        (b.sentValues entity settings columns t other) := by
  refine h.different.imp_of_mem fun {doc other} hdoc hother hne => ⟨?_, ?_⟩
  · rw [(h.addressed halone hfits hdoc).value, (h.addressed halone hfits hother).value]
    exact fun hsame => hne (Option.some.inj hsame)
  · intro row last hlands m hm hlast hmax
    obtain ⟨n, hn, hlt, hcame⟩ := h.landed_of_lands hfits hdoc hlands
    refine h.not_sharesKey_of_lands hfits halone hdoc hother hne hn hm hmax (fun hnull => ?_)
      (hcame.imp_right And.right)
    have hbefore := hlt hnull
    omega

/-- After a batch has come in, each item has come to a row of its own. -/
theorem settles (halone : b.Alone entity settings columns t)
    (hupserted : Upserted b entity settings columns (b.met entity columns t) t next)
    (hroom : next.nextId < Value.maxInt) : b.Settles entity settings columns t k next := by
  have hfits := hupserted.fits
  obtain ⟨n, hinsert⟩ := hupserted.inserted
  obtain ⟨-, f, hfold, rfl⟩ := Tables.insert_eq_ok hinsert
  have hmap : (b.items.map (b.written entity (b.met entity columns t))).map
      (((inMemory entity settings).scope columns).row (b.sentColumns entity columns t)) =
        b.items.map (b.sentValues entity settings columns t) := List.map_map ..
  have hfilled : Tables.Filled t.shape (b.meetingField entity) k (b.sentColumns entity columns t)
      (b.takenOver entity (b.met entity columns t)) t.rows t.nextId
      ([] ++ b.items.map (b.sentValues entity settings columns t)) f := by
    refine Tables.Filled.foldlM (Tables.filled_of_apart h.rows h.numbers 0) h.keyed
      not_mem_takenOver_self ?_ ?_ (hmap ▸ hfold) hroom
    · rw [List.nil_append, List.forall_mem_map]
      exact fun doc hdoc => ⟨_, h.addressed halone hfits hdoc⟩
    · rw [List.nil_append, List.pairwise_map]
      exact h.beside halone hfits
  refine ⟨rfl, hfilled.apart, hfilled.numbers, hfilled.least, fun doc hdoc => ?_,
    fun row hrow => ?_⟩
  · obtain ⟨row, hrow, hlands⟩ := hfilled.lands _ (List.mem_map_of_mem hdoc)
    exact ⟨row, hrow, h.landed_of_lands hfits hdoc hlands⟩
  · rcases hfilled.origin row hrow with ⟨vs, hvs, hlands⟩ | ⟨hold, -⟩
    · obtain ⟨doc, hdoc, rfl⟩ := List.mem_map.mp hvs
      exact .inl ⟨doc, hdoc, h.landed_of_lands hfits hdoc hlands⟩
    · exact .inr hold

end Orderly

end EntityStore.Batch
