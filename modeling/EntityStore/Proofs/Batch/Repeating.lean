-- The second run of a batch. Each item is for the row now that it has come to,
-- and is written with what this row shows already, so nothing changes.
import EntityStore.Proofs.Batch.Landing

namespace EntityStore.Batch

open Relational (inMemory)
open Tables (valueAt SharesKey Agree Shows)

variable {entity : Entity} {settings : Settings} {t next : Tables.Table} {columns : Columns}
  {b : Batch} {k : Kind} {doc : Fields Json} {row : Row} {f : String} {n m last : Int}

/-- An item that carries the marker of locked fields lists all fields there
that its row has locked. -/
def KeepsLocks (b : Batch) (e : Entity) (t : Tables.Table) : Prop :=
  ∀ doc ∈ b.items, ∀ row ∈ t.rows, b.IsFor e doc row → ∀ marker, e.lockedField = some marker →
    ∀ j, doc.get? marker = some j →
      ∀ f ∈ lockedFields e (Row.toJson (Tables.bareColumns row)) b.overrideLocked,
        f ∈ lockedBy (some j)

theorem ByColumn.again (h : ByColumn b entity columns t k)
    (hs : b.Settles entity settings columns t k next) : ByColumn b entity columns next k :=
  { h with rows := hs.rows }

/-- All fields of the batch are columns of the table. -/
theorem ByColumn.contains_of_mem (h : ByColumn b entity columns t k)
    (hfits : b.Fits entity (b.met entity columns t) t) (hf : f ∈ Fields.allKeys b.items) :
    Fields.contains t.shape.columns f = true := by
  obtain ⟨doc, hdoc, hkey⟩ := Fields.mem_allKeys.mp hf
  refine hfits.contains hdoc ?_
  by_cases hold : ∃ row ∈ t.rows, b.IsFor entity doc row
  · obtain ⟨row, hrow, hfor⟩ := hold
    exact (h.mem_keys_written hdoc hrow hfor).mpr (.inl hf)
  · rwa [h.written_of_no_row hdoc fun row hrow hfor => hold ⟨row, hrow, hfor⟩]

namespace Orderly

variable (h : Orderly b entity settings columns t k)
  (hfits : b.Fits entity (b.met entity columns t) t)

include h hfits

/-! ## Locked fields -/

/-- A row that takes over from its item keeps its locked fields locked. -/
theorem locked_taken (hlocks : b.KeepsLocks entity t) (hdoc : doc ∈ b.items) (hrow : row ∈ t.rows)
    (hfor : b.IsFor entity doc row)
    (hf : f ∈ lockedFields entity (Row.toJson (Tables.bareColumns row)) b.overrideLocked) :
    f ∈ lockedFields entity (Row.toJson (Tables.bareColumns
      (b.taken entity settings columns t doc n row))) b.overrideLocked := by
  obtain ⟨marker, w, hmarker, hoverride, hname, hw, hlisted⟩ := mem_lockedFields_record.mp hf
  suffices hstays : ∃ v, (b.taken entity settings columns t doc n row).get? marker = some v ∧
      f ∈ lockedBy (some v.toJson) by
    obtain ⟨v, hv, hlists⟩ := hstays
    exact mem_lockedFields_record.mpr ⟨marker, v, hmarker, hoverride, hname, hv, hlists⟩
  by_cases hprimary : marker = t.shape.primaryKey
  · refine ⟨w, ?_, hlisted⟩
    rw [← hw, hprimary]
    exact h.primary_taken hfits hdoc hrow hfor
  · by_cases hmem : marker ∈ b.takenOver entity (b.met entity columns t)
    · obtain ⟨hunion, hne⟩ := mem_of_mem_takenOver hmem
      rcases h.get?_taken hfits hdoc hrow hfor hunion hne hprimary with ⟨hkept, -⟩ | htaken
      · exact ⟨w, hkept.trans hw, hlisted⟩
      · obtain ⟨j, hj, hown⟩ : ∃ j, b.source entity doc row marker = some j ∧ _ :=
          source_eq_some hw
        refine ⟨_, htaken, ?_⟩
        rw [hj, lockedBy_bind]
        rcases hown with hown | rfl
        · exact hlocks doc hdoc row hrow hfor marker hmarker j hown f hf
        · exact hlisted
    · exact ⟨w, (Tables.get?_takeFrom_of_not_mem hmem).trans hw, hlisted⟩

/-! ## Rows that items have come to -/

/-- What an item comes in with was bound from something that can be written
down. -/
theorem exists_sound (hdoc : doc ∈ b.items)
    (hf : f ∈ Fields.allKeys b.items ∨ f = entity.idField) (hne : f ≠ b.meetingField entity) :
    ∃ x : Option Json, (∀ j, x = some j → j.isSound = true) ∧
      valueAt (b.enters entity settings columns t doc) f =
        ((inMemory entity settings).scope columns).bind f x := by
  by_cases hold : ∃ row ∈ t.rows, b.IsFor entity doc row
  · obtain ⟨row, hrow, hfor⟩ := hold
    exact ⟨_, fun j hj => h.sound_source hdoc hrow hj,
      h.valueAt_enters_of_row hfits hdoc hrow hfor hf hne⟩
  · exact ⟨_, fun j hj => h.sound_get? hdoc hj,
      h.valueAt_enters_of_no_row hfits hdoc fun row hrow hfor => hold ⟨row, hrow, hfor⟩⟩

theorem bind_toJson_enters (hdoc : doc ∈ b.items)
    (hf : f ∈ Fields.allKeys b.items ∨ f = entity.idField) (hne : f ≠ b.meetingField entity) :
    ((inMemory entity settings).scope columns).bind f
        (some (valueAt (b.enters entity settings columns t doc) f).toJson) =
      valueAt (b.enters entity settings columns t doc) f := by
  obtain ⟨x, hsound, hx⟩ : ∃ x : Option Json, (∀ j, x = some j → j.isSound = true) ∧
      valueAt (b.enters entity settings columns t doc) f = _ := h.exists_sound hfits hdoc hf hne
  rw [hx, Plan.Scope.bind_toJson_bind hsound]

/-- Under a field of the batch the row of an item has a value, which is equal to
what came in and to what it is bound as when it is read. -/
theorem get?_landed (hdoc : doc ∈ b.items)
    (hlanded : b.Landed entity settings columns t last doc row) (hf : f ∈ Fields.allKeys b.items)
    (hne : f ≠ b.meetingField entity) (hprimary : f ≠ t.shape.primaryKey) :
    ∃ w, row.get? f = some w ∧
      (w == valueAt (b.enters entity settings columns t doc) f) = true ∧
      (w == ((inMemory entity settings).scope columns).bind f (some w.toJson)) = true := by
  have hcame : row.get? f = some (valueAt (b.enters entity settings columns t doc) f) →
      ∃ w, row.get? f = some w ∧
        (w == valueAt (b.enters entity settings columns t doc) f) = true ∧
        (w == ((inMemory entity settings).scope columns).bind f (some w.toJson)) = true := by
    intro hvalue
    refine ⟨_, hvalue, Value.beq_self _, ?_⟩
    rw [h.bind_toJson_enters hfits hdoc (.inl hf) hne]
    exact Value.beq_self _
  obtain ⟨n, -, -, ⟨old, hold, hfor, rfl⟩ | ⟨hnew, rfl⟩⟩ := hlanded
  · rw [h.valueAt_enters_of_row hfits hdoc hold hfor (.inl hf) hne] at hcame ⊢
    rcases h.get?_taken hfits hdoc hold hfor hf hne hprimary with ⟨hkept, w, hw, heq⟩ | htaken
    · exact ⟨w, hkept.trans hw, heq, (h.settled old hold).2 (f, w) (Fields.mem_of_get? hw)⟩
    · exact hcame htaken
  · refine hcame ?_
    rw [get?_arrives_of_ne hprimary, hfits.valueAt_comesIn hdoc, hfits.get?_comesIn hdoc,
      if_pos (h.contains_of_mem hfits hf)]

/-- Under an exact field the row of an item has what came in. -/
theorem valueAt_landed (hexact : b.Exact entity settings columns t f) (hdoc : doc ∈ b.items)
    (hlanded : b.Landed entity settings columns t last doc row)
    (hf : f ∈ Fields.allKeys b.items ∨ f = entity.idField) (hne : f ≠ b.meetingField entity)
    (hprimary : f ≠ t.shape.primaryKey) :
    valueAt row f = valueAt (b.enters entity settings columns t doc) f := by
  obtain ⟨n, -, -, ⟨old, hold, hfor, rfl⟩ | ⟨-, rfl⟩⟩ := hlanded
  · exact h.valueAt_taken hfits hexact hdoc hold hfor hf hne hprimary
  · exact valueAt_arrives_of_ne hprimary

/-- Read as the stored row of its item, a row that the item has come to says
again what it has, or what the item said before. -/
theorem source_landed (hlocks : b.KeepsLocks entity t) (hdoc : doc ∈ b.items)
    (hlanded : b.Landed entity settings columns t last doc row)
    (hne : f ≠ b.meetingField entity) (hprimary : f ≠ t.shape.primaryKey) :
    b.source entity doc row f = (row.get? f).map Value.toJson ∨
      ∃ j, b.source entity doc row f = some j ∧
        valueAt (b.enters entity settings columns t doc) f =
          ((inMemory entity settings).scope columns).bind f (some j) := by
  rw [source]
  split
  · rename_i hfree
    cases hj : doc.get? f with
    | none => exact .inl (Option.none_or ..)
    | some j =>
      refine .inr ⟨j, rfl, ?_⟩
      have hf : f ∈ Fields.allKeys b.items := Fields.mem_allKeys.mpr
        ⟨doc, hdoc, Fields.contains_iff.mp (by rw [Fields.contains, hj]; rfl)⟩
      obtain ⟨w, hw, -⟩ := h.get?_landed hfits hdoc hlanded hf hne hprimary
      have hid : f ≠ entity.idField := by
        intro hid
        cases (hfree.2 hid).symm.trans hw
      obtain ⟨n, -, -, ⟨old, hold, hfor, rfl⟩ | ⟨hnew, rfl⟩⟩ := hlanded
      · have hunlocked := fun hlocked => hfree.1 (h.locked_taken hfits hlocks hdoc hold hfor hlocked)
        rw [h.valueAt_enters_of_row hfits hdoc hold hfor (.inl hf) hne, source,
          if_pos ⟨hunlocked, fun heq => absurd heq hid⟩, hj, Option.some_or]
      · rw [h.valueAt_enters_of_no_row hfits hdoc hnew, hj]
  · exact .inl rfl

/-- The row of an item has a primary key. Where that is the identity, it is
bound as itself when it is read. -/
theorem primary_landed (hdoc : doc ∈ b.items)
    (hlanded : b.Landed entity settings columns t last doc row) (hroom : last < Value.maxInt)
    (hne : t.shape.primaryKey ≠ b.meetingField entity) (hid : entity.idField = t.shape.primaryKey) :
    ∃ p, row.get? t.shape.primaryKey = some p ∧ p ≠ .null ∧
      ((inMemory entity settings).scope columns).bind t.shape.primaryKey (some p.toJson) = p := by
  have hexact := h.exact _ List.mem_cons_self _ (List.mem_singleton_self t.shape.primaryKey)
  obtain ⟨n, -, hlt, ⟨old, hold, hfor, rfl⟩ | ⟨-, rfl⟩⟩ := hlanded
  · obtain ⟨p, hp, hnull⟩ := h.present old hold
    refine ⟨p, (h.primary_taken hfits hdoc hold hfor).trans hp, ?_, h.bind_toJson hexact hdoc hold hfor hp⟩
    rintro rfl
    cases hnull
  · refine ⟨_, Tables.get?_assignId_self .., ?_⟩
    have hkept := h.bind_toJson_enters hfits hdoc (.inr hid.symm) hne
    split
    · rename_i hnull
      refine ⟨nofun, ?_⟩
      have hlast := hlt (Value.isNull_iff.mp hnull)
      rw [Tables.word_of_le (by omega), Value.toJson, bind_of_scalar h.primary.2 rfl, Value.ofJson,
        if_pos (by omega)]
    · rename_i hnull
      exact ⟨fun heq => hnull (Value.isNull_iff.mpr heq), hkept⟩

theorem exists_arrived (hdoc : doc ∈ b.items)
    (hlanded : b.Landed entity settings columns t last doc row)
    (hid : entity.idField = t.shape.primaryKey) :
    ∃ n, t.nextId ≤ n ∧
      (valueAt (b.enters entity settings columns t doc) t.shape.primaryKey = .null → n < last) ∧
      valueAt row t.shape.primaryKey =
        valueAt (b.entersAs entity settings columns t doc n) t.shape.primaryKey := by
  obtain ⟨n, hn, hlt, ⟨old, hold, hfor, rfl⟩ | ⟨-, rfl⟩⟩ := hlanded
  · obtain ⟨hsame, hnull⟩ := h.primary_enters hfits (.inr hid) hdoc hold hfor
    have hcomes : b.entersAs entity settings columns t doc n =
        b.enters entity settings columns t doc := arrives_of_present (hsame ▸ hnull)
    refine ⟨n, hn, hlt, ?_⟩
    rw [hcomes, hsame, valueAt, h.primary_taken hfits hdoc hold hfor]
    rfl
  · exact ⟨n, hn, hlt, rfl⟩

/-! ## Items that come in again -/

theorem fits_again (hs : b.Settles entity settings columns t k next) :
    b.Fits entity (b.met entity columns next) next := by
  intro f hf
  obtain ⟨_, hmem, hkey⟩ := Fields.mem_allKeys.mp hf
  obtain ⟨doc, hdoc, rfl⟩ := List.mem_map.mp hmem
  obtain ⟨row, hrow, hlanded⟩ := hs.landed doc hdoc
  have hfor := h.isFor_of_landed hfits hdoc hlanded
  have hcomes : ∀ n v, (b.entersAs entity settings columns t doc n).get? f = some v →
      Fields.contains t.shape.columns f = true := by
    intro n v hv
    by_cases hprimary : f = t.shape.primaryKey
    · rw [hprimary]
      exact h.primary.1
    · rw [get?_arrives_of_ne hprimary, hfits.get?_comesIn hdoc] at hv
      split at hv
      · assumption
      · cases hv
  rw [hs.shape]
  rcases ((h.again hs).mem_keys_written hdoc hrow hfor).mp hkey with hunion | ⟨rfl, hsome⟩
  · exact h.contains_of_mem hfits hunion
  · obtain ⟨w, hw⟩ := Option.ne_none_iff_exists'.mp hsome
    obtain ⟨n, -, -, ⟨old, hold, hold', rfl⟩ | ⟨-, rfl⟩⟩ := hlanded
    · have hcases : (b.taken entity settings columns t doc n old).get? entity.idField =
          old.get? entity.idField ∧ _ ∨ _ := Tables.get?_takeFrom_eq_or
      rcases hcases with ⟨hkept, -⟩ | ⟨v, hv, -⟩
      · exact hfits.contains hdoc ((h.mem_keys_written hdoc hold hold').mpr
          (.inr ⟨rfl, hkept ▸ hsome⟩))
      · exact hcomes n v hv
    · exact hcomes n w hw

variable (hs : b.Settles entity settings columns t k next) (hlocks : b.KeepsLocks entity t)

include hs hlocks

/-- The row of an item shows what the item comes in with again. -/
theorem shows_again (hdoc : doc ∈ b.items) (hrow : row ∈ next.rows)
    (hlanded : b.Landed entity settings columns t last doc row)
    (hf : f ∈ Fields.allKeys b.items) (hne : f ≠ b.meetingField entity)
    (hprimary : f ≠ t.shape.primaryKey) :
    Shows row f (valueAt (b.enters entity settings columns next doc) f) := by
  obtain ⟨w, hw, hcame, hread⟩ := h.get?_landed hfits hdoc hlanded hf hne hprimary
  refine ⟨w, hw, ?_⟩
  rw [(h.again hs).valueAt_enters_of_row (h.fits_again hfits hs) hdoc hrow
    (h.isFor_of_landed hfits hdoc hlanded) (.inl hf) hne]
  rcases h.source_landed hfits hlocks hdoc hlanded hne hprimary with hsame | ⟨j, hj, hvalue⟩
  · rw [hsame, hw]
    exact hread
  · rw [hj, ← hvalue]
    exact hcame

/-- Under an exact field an item comes in with the same value again. The
primary key is left out where it is an identity that items may come without. -/
theorem enters_again (hexact : b.Exact entity settings columns t f)
    (hprimary : f = t.shape.primaryKey → f = entity.idField → f = b.meetingField entity)
    (hdoc : doc ∈ b.items) (hrow : row ∈ next.rows)
    (hlanded : b.Landed entity settings columns t last doc row) :
    valueAt (b.enters entity settings columns next doc) f =
      valueAt (b.enters entity settings columns t doc) f := by
  have hfits' := h.fits_again hfits hs
  by_cases hne : f = b.meetingField entity
  · rw [hne, Tables.valueAt_of_some ((h.again hs).get?_enters_key hfits' hdoc),
      Tables.valueAt_of_some (h.get?_enters_key hfits hdoc)]
  by_cases hf : f ∈ Fields.allKeys b.items ∨ f = entity.idField
  · have hother : f ≠ t.shape.primaryKey := by
      rintro rfl
      have hid : entity.idField = t.shape.primaryKey := hf.elim
        (fun hunion => (h.carried hunion).resolve_left (Ne.symm hne)) Eq.symm
      exact hne (hprimary rfl hid.symm)
    have hvalue := h.valueAt_landed hfits hexact hdoc hlanded hf hne hother
    rw [(h.again hs).valueAt_enters_of_row hfits' hdoc hrow
      (h.isFor_of_landed hfits hdoc hlanded) hf hne]
    rcases h.source_landed hfits hlocks hdoc hlanded hne hother with hsame | ⟨j, hj, hcame⟩
    · rw [hsame, ← h.bind_toJson_enters hfits hdoc hf hne, ← hvalue, valueAt]
      cases hw : row.get? f with
      | none => rfl
      | some w => rfl
    · rw [hj, hcame]
  · obtain ⟨hunion, hid⟩ := not_or.mp hf
    rw [(h.again hs).valueAt_enters_of_not_mem hfits' hdoc hunion hid,
      h.valueAt_enters_of_not_mem hfits hdoc hunion hid]

omit hlocks in
/-- Where the primary key is the identity, an item comes in again with the one
of its row. -/
theorem primary_again (hdoc : doc ∈ b.items) (hrow : row ∈ next.rows)
    (hlanded : b.Landed entity settings columns t next.nextId doc row)
    (hroom : next.nextId < Value.maxInt) (hne : t.shape.primaryKey ≠ b.meetingField entity)
    (hid : entity.idField = t.shape.primaryKey) :
    valueAt (b.enters entity settings columns next doc) t.shape.primaryKey =
        valueAt row t.shape.primaryKey ∧
      valueAt row t.shape.primaryKey ≠ .null := by
  obtain ⟨p, hp, hnull, hread⟩ := h.primary_landed hfits hdoc hlanded hroom hne hid
  rw [Tables.valueAt_of_some hp]
  refine ⟨?_, hnull⟩
  have hsource : b.source entity doc row t.shape.primaryKey = some p.toJson := by
    rw [← hid] at hp ⊢
    exact source_identity hp
  rw [(h.again hs).valueAt_enters_of_row (h.fits_again hfits hs) hdoc hrow
    (h.isFor_of_landed hfits hdoc hlanded) (.inr hid.symm) hne, hsource, hread]

omit hlocks in
/-- Where the primary key is neither the key of the batch nor the identity, items
come in again without one. -/
theorem primary_again_eq_null (hdoc : doc ∈ b.items)
    (hne : t.shape.primaryKey ≠ b.meetingField entity) (hid : entity.idField ≠ t.shape.primaryKey) :
    valueAt (b.enters entity settings columns t doc) t.shape.primaryKey = .null ∧
      valueAt (b.enters entity settings columns next doc) t.shape.primaryKey = .null := by
  have hunion : t.shape.primaryKey ∉ Fields.allKeys b.items := fun hmem =>
    (h.carried hmem).elim (fun heq => hne heq.symm) hid
  exact ⟨h.valueAt_enters_of_not_mem hfits hdoc hunion (Ne.symm hid),
    (h.again hs).valueAt_enters_of_not_mem (h.fits_again hfits hs) hdoc hunion (Ne.symm hid)⟩

omit hlocks in
/-- Items come in again with primary keys of their own, or all come in again
without one. -/
theorem keys_again (hroom : next.nextId < Value.maxInt) :
    (∀ doc ∈ b.items,
      valueAt (b.enters entity settings columns next doc) t.shape.primaryKey ≠ .null) ∨
    ∀ doc ∈ b.items,
      valueAt (b.enters entity settings columns next doc) t.shape.primaryKey = .null := by
  by_cases hne : t.shape.primaryKey = b.meetingField entity
  · refine .inl fun doc hdoc hnull => ?_
    rw [hne, Tables.valueAt_of_some ((h.again hs).get?_enters_key (h.fits_again hfits hs) hdoc)]
      at hnull
    exact k.not_has_null (hnull ▸ h.items doc hdoc)
  by_cases hid : entity.idField = t.shape.primaryKey
  · refine .inl fun doc hdoc hnull => ?_
    obtain ⟨row, hrow, hlanded⟩ := hs.landed doc hdoc
    obtain ⟨hsame, hpresent⟩ := h.primary_again hfits hs hdoc hrow hlanded hroom hne hid
    exact hpresent (hsame.symm.trans hnull)
  · exact .inr fun doc hdoc => (h.primary_again_eq_null hfits hs hdoc hne hid).2

omit hlocks in
/-- An item comes in again with the primary key that it came in with before,
under the number that it was given then or under one behind all those that were
given. -/
theorem number_again (hroom : next.nextId < Value.maxInt) (hdoc : doc ∈ b.items)
    (hrow : row ∈ next.rows)
    (hlanded : b.Landed entity settings columns t next.nextId doc row) (hm : next.nextId ≤ m)
    (hlt : valueAt (b.enters entity settings columns next doc) t.shape.primaryKey = .null →
      m < Value.maxInt) :
    ∃ i, t.nextId ≤ i ∧ i < Value.maxInt ∧
      (next.nextId ≤ i ∨ entity.idField = t.shape.primaryKey ∧
        row.get? t.shape.primaryKey = some (.int i)) ∧
      valueAt (b.entersAs entity settings columns next doc m) t.shape.primaryKey =
        valueAt (b.entersAs entity settings columns t doc i) t.shape.primaryKey := by
  have hfits' := h.fits_again hfits hs
  have hagain : valueAt (b.entersAs entity settings columns next doc m) t.shape.primaryKey =
      if (valueAt (b.enters entity settings columns next doc) t.shape.primaryKey).isNull
        then .int (Tables.word m)
        else valueAt (b.enters entity settings columns next doc) t.shape.primaryKey :=
    hs.shape ▸ valueAt_arrives_primary
  by_cases hne : t.shape.primaryKey = b.meetingField entity
  · refine ⟨next.nextId, hs.least, hroom, .inl (Int.le_refl _), ?_⟩
    rw [hne, Tables.valueAt_of_some ((h.again hs).get?_entersAs_key hfits' hdoc),
      Tables.valueAt_of_some (h.get?_entersAs_key hfits hdoc)]
  by_cases hid : entity.idField = t.shape.primaryKey
  · obtain ⟨hsame, hpresent⟩ := h.primary_again hfits hs hdoc hrow hlanded hroom hne hid
    obtain ⟨n, hn, hbelow, hcame⟩ := h.exists_arrived hfits hdoc hlanded hid
    rw [hsame, if_neg (mt Value.isNull_iff.mp hpresent), hcame] at hagain
    by_cases hnull : valueAt (b.enters entity settings columns t doc) t.shape.primaryKey = .null
    · have hlast := hbelow hnull
      refine ⟨n, hn, by omega, .inr ⟨hid, ?_⟩, hagain⟩
      rw [Tables.get?_of_valueAt_ne hpresent, hcame, valueAt_arrives_primary,
        if_pos (Value.isNull_iff.mpr hnull), Tables.word_of_le (by omega)]
    · have hnumber : b.entersAs entity settings columns t doc n =
          b.entersAs entity settings columns t doc next.nextId :=
        (arrives_of_present hnull).trans (arrives_of_present hnull).symm
      exact ⟨next.nextId, hs.least, hroom, .inl (Int.le_refl _), hnumber ▸ hagain⟩
  · obtain ⟨hbefore, hafter⟩ := h.primary_again_eq_null hfits hs hdoc hne hid
    refine ⟨m, Int.le_trans hs.least hm, hlt hafter, .inl hm, ?_⟩
    rw [hagain, valueAt_arrives_primary, hbefore, hafter]

/-- A row that shares a key with an item that comes in again is the row of the
item. -/
theorem isFor_of_sharesKey (halone : b.Alone entity settings columns t)
    (hroom : next.nextId < Value.maxInt) (hdoc : doc ∈ b.items) {r : Row}
    (hr : r ∈ next.rows) (hm : next.nextId ≤ m)
    (hlt : valueAt (b.enters entity settings columns next doc) t.shape.primaryKey = .null →
      m < Value.maxInt)
    (hshares : SharesKey next.shape r (b.entersAs entity settings columns next doc m)) :
    b.IsFor entity doc r := by
  obtain ⟨row, hrow, hlanded⟩ := hs.landed doc hdoc
  obtain ⟨i, hi, hmax, hnumber, hprimary⟩ :=
    h.number_again hfits hs hroom hdoc hrow hlanded hm hlt
  have hshared : SharesKey t.shape r (b.entersAs entity settings columns t doc i) := by
    rw [hs.shape] at hshares
    obtain ⟨key, hkey, hagree⟩ := Tables.sharesKey_iff.mp hshares
    refine Tables.sharesKey_iff.mpr ⟨key, hkey, fun c hc => ?_⟩
    have hsame : valueAt (b.entersAs entity settings columns next doc m) c =
        valueAt (b.entersAs entity settings columns t doc i) c := by
      by_cases hne : c = t.shape.primaryKey
      · rw [hne, hprimary]
      · have hagain : valueAt (b.entersAs entity settings columns next doc m) c = _ :=
          valueAt_arrives_of_ne (hs.shape.symm ▸ hne)
        rw [hagain, valueAt_arrives_of_ne hne, h.enters_again hfits hs hlocks
          (h.exact key hkey c hc) (fun heq => absurd heq hne) hdoc hrow hlanded]
    rw [Agree, ← hsame]
    exact hagree c hc
  rcases hs.origin r hr with ⟨other, hother, hcame⟩ | hold
  · by_cases hsame : valueOf other (b.meetingField entity) = valueOf doc (b.meetingField entity)
    · exact (h.isFor_of_landed hfits hother hcame).trans (congrArg some hsame)
    obtain ⟨n, hn, hbelow, hlands⟩ := hcame
    refine absurd hshared (h.not_sharesKey_of_lands hfits halone hother hdoc hsame hn hi hmax ?_
      (hlands.imp_right And.right))
    intro hnull
    have hlast := hbelow hnull
    refine ⟨by omega, ?_⟩
    rintro rfl
    rcases hnumber with hbehind | ⟨hid, hown⟩
    · omega
    · -- Both were given the number, so they came to one row.
      have hgiven : r.get? t.shape.primaryKey = some (.int n) := by
        rcases hlands with ⟨old, hold, hfor, rfl⟩ | ⟨-, rfl⟩
        · obtain ⟨hkept, hpresent⟩ := h.primary_enters hfits (.inr hid) hother hold hfor
          exact absurd (hkept.symm.trans hnull) hpresent
        · have hself : (b.entersAs entity settings columns t other n).get? t.shape.primaryKey = _ :=
            Tables.get?_assignId_self ..
          rw [hself, Tables.word_of_le (Int.le_of_lt hmax)]
          exact congrArg some (if_pos (Value.isNull_iff.mpr hnull))
      obtain rfl := hs.numbers.eq_of_value ⟨n, rfl⟩ hr hrow hgiven hown
      exact hsame (Option.some.inj ((h.isFor_of_landed hfits hother ⟨n, hn, hbelow, hlands⟩).symm.trans
        (h.isFor_of_landed hfits hdoc hlanded)))
  · exact halone.rows doc hdoc r hold ⟨i, hi, Int.le_of_lt hmax, hshared⟩

/-- The insert of the items that come in again changes no row of the table,
where the batch has other fields besides its key. -/
theorem inserts_again (halone : b.Alone entity settings columns t)
    (hroom : next.nextId + b.items.length ≤ Value.maxInt) (hitems : b.items ≠ [])
    (hfields : ∃ f ∈ Fields.allKeys b.items, f ≠ b.meetingField entity) :
    ∃ n last, Tables.insert next (Relational.insertOf entity settings columns
      (b.items.map (b.written entity (b.met entity columns next)))
      (b.takenOver entity (b.met entity columns next))) = .ok (n, { next with nextId := last }) := by
  have hfits' := h.fits_again hfits hs
  have hsome : b.takenOver entity (b.met entity columns next) ≠ [] := by
    obtain ⟨doc, hdoc⟩ := List.exists_mem_of_ne_nil _ hitems
    obtain ⟨row, hrow, hlanded⟩ := hs.landed doc hdoc
    obtain ⟨f, hf, hne⟩ := hfields
    exact List.ne_nil_of_mem (((h.again hs).mem_takenOver hdoc hrow
      (h.isFor_of_landed hfits hdoc hlanded)).mpr ⟨hf, hne⟩)
  have hlast : next.nextId < Value.maxInt := by
    have hlength := List.length_pos_of_ne_nil hitems
    omega
  refine Tables.insert_of_shown Value.maxInt hfits' hsome ?_ ?_ ?_
  · simp only [Relational.insertOf, List.forall_mem_map, List.length_map]
    have hkeys := h.keys_again hfits hs hlast
    rw [← hs.shape] at hkeys
    exact hkeys.imp_right fun hkeyless => ⟨hkeyless, hroom⟩
  · simp only [Relational.insertOf, List.forall_mem_map]
    intro doc hdoc n
    obtain ⟨row, hrow, hlanded⟩ := hs.landed doc hdoc
    exact ⟨row, hrow, Tables.sharesKey_of_value (hs.shape ▸ h.keyed) (h.items doc hdoc)
      (h.isFor_of_landed hfits hdoc hlanded) ((h.again hs).get?_entersAs_key hfits' hdoc)⟩
  · simp only [Relational.insertOf, List.forall_mem_map]
    intro doc hdoc n hn hlt r hr hshares
    obtain ⟨row, hrow, hlanded⟩ := hs.landed doc hdoc
    obtain rfl := (h.again hs).eq_of_isFor hdoc hrow hr (h.isFor_of_landed hfits hdoc hlanded)
      (h.isFor_of_sharesKey hfits hs hlocks halone hlast hdoc hr hn (hs.shape ▸ hlt) hshares)
    refine Tables.takeFrom_of_shows fun c hc v hv => ?_
    obtain ⟨hunion, hne⟩ := mem_of_mem_takenOver hc
    by_cases hprimary : c = t.shape.primaryKey
    · subst hprimary
      have hid := (h.carried hunion).resolve_left hne.symm
      obtain ⟨hsame, hpresent⟩ := h.primary_again hfits hs hdoc hrow hlanded hlast hne hid
      have hcomes : b.entersAs entity settings columns next doc n =
          b.enters entity settings columns next doc :=
        arrives_of_present (hs.shape.symm ▸ hsame ▸ hpresent)
      have hcame : valueAt (b.enters entity settings columns next doc) t.shape.primaryKey = v :=
        Tables.valueAt_of_some (hcomes ▸ hv)
      exact ⟨_, Tables.get?_of_valueAt_ne hpresent, by
        rw [← hsame, hcame]
        exact Value.beq_self v⟩
    · have hcame : valueAt (b.enters entity settings columns next doc) c = v := by
        rw [← valueAt_arrives_of_ne (hs.shape.symm ▸ hprimary)]
        exact Tables.valueAt_of_some hv
      exact hcame ▸ h.shows_again hfits hs hlocks hdoc hrow hlanded hunion hne hprimary

end Orderly

end EntityStore.Batch
