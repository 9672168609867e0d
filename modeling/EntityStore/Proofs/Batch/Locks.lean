-- Updating a batch, and the fields that it may not change. The stored records of
-- all items are read once, and what the items change of them is written, one
-- statement for each change. What the marker of a stored row lists stays as it is
-- where no name is a path into a locked field, and where the items whose statements
-- match the row are those that have found its record.
import EntityStore.Proofs.Batch.Upserting
import EntityStore.Proofs.Record
import EntityStore.Proofs.Tables.Inserting

namespace EntityStore.Batch

open Call (Ends Leads Keeps)
open Flat (IsName)
open Relational (inMemory Holds knownColumns)
open Tables (valueAt)

variable {entity : Entity} {settings : Settings} {t : Tables.Table} {b : Batch}

/-! ## Any store -/

/-- The stored records that a store has for the identities of the items. -/
def known {σ : Type} (b : Batch) (st : Store σ) : Call σ (List (Fields Json)) :=
  st.findBy st.entity.idField (b.items.map (valueOf · st.entity.idField))

/-- What the items change, where these are the stored records. -/
def changesOf (b : Batch) (e : Entity) (rows : List (Fields Json)) : List Change :=
  b.changes e (indexBy e.idField rows) (b.items.map (valueOf · e.idField))

/-- An update reads the stored records of all items, checks that each item has
one, and then writes what the items change of these records. -/
theorem ends_update_checked {σ : Type} {st : Store σ} {P₀ P : σ → Prop}
    {F : AccessError → σ → Prop} {R : List (Fields Json) → Prop}
    {Q : List (Fields Json) → σ → Prop}
    (hF₀ : ∀ e s, P₀ s → F e s) (hF : ∀ e s, P s → F e s) (hsearch : ∀ c, Keeps P (st.search c))
    (hknown : Ends P₀ (b.known st) (fun rows s => R rows ∧ P s) F)
    (hwrite : ∀ rows, b.items ≠ [] → R rows → Ends P (st.update
      ((b.changesOf st.entity rows).map fun c => (c.id, c.delta))) (fun _ => Q rows) F) :
    Ends P₀ (b.update st)
      (fun _ s => b.items ≠ [] ∧ b.HasKeys st.entity.idField ∧ ∃ rows, R rows ∧
        checkKnown st.entity (b.items.map (valueOf · st.entity.idField))
          (indexBy st.entity.idField rows) = .ok () ∧ Q rows s) F := by
  unfold update
  refine Call.ends_lift_bind (fun e _ => hF₀ e) fun _ hfilled =>
    Call.ends_lift_bind (fun e _ => hF₀ e) fun keys hkeys => ?_
  have ⟨hvalues, hpresent⟩ : keys = b.items.map (valueOf · st.entity.idField) ∧ _ :=
    keys_eq_ok hkeys
  subst hvalues
  have hitems := items_ne_nil hfilled
  refine hknown.bind fun rows => ?_
  rintro s ⟨hrows, hs⟩
  have hwritten := hwrite rows hitems hrows
  revert s
  refine Call.ends_lift_bind (fun e _ => hF e) fun _ hchecked => ?_
  dsimp only
  split
  · exact Ends.bind (R := fun _ _ => False) (fun s hs => hF _ s hs) fun _ _ h => h.elim
  · refine (Ends.weaken (keeps_checkUnlessDirect hsearch b _ _) (fun _ _ hs => hs) hF).bind
      fun _ => ?_
    exact hwritten.bind fun report => Call.ends_pure fun s hs =>
      ⟨hitems, hpresent, rows, hrows, hchecked, hs⟩

/-- What an update ends in, whatever was checked. -/
theorem ends_update_of {σ : Type} {st : Store σ} {P₀ P : σ → Prop} {F : AccessError → σ → Prop}
    {R : List (Fields Json) → Prop} {Q : List (Fields Json) → σ → Prop}
    (hF₀ : ∀ e s, P₀ s → F e s) (hF : ∀ e s, P s → F e s) (hsearch : ∀ c, Keeps P (st.search c))
    (hknown : Ends P₀ (b.known st) (fun rows s => R rows ∧ P s) F)
    (hwrite : ∀ rows, b.items ≠ [] → R rows → Ends P (st.update
      ((b.changesOf st.entity rows).map fun c => (c.id, c.delta))) (fun _ => Q rows) F) :
    Ends P₀ (b.update st)
      (fun _ s => b.HasKeys st.entity.idField ∧ ∃ rows, R rows ∧ Q rows s) F := by
  refine (ends_update_checked hF₀ hF hsearch hknown hwrite).weaken ?_ fun _ _ h => h
  rintro _ s ⟨-, hpresent, rows, hrows, -, hs⟩
  exact ⟨hpresent, rows, hrows, hs⟩

/-- The change of an item is a patch of the stored record under its key. -/
theorem mem_changesOf {rows : List (Fields Json)} {c : Change} (h : c ∈ b.changesOf entity rows) :
    ∃ doc ∈ b.items, c.id = valueOf doc entity.idField ∧ ∃ stored,
      (indexBy entity.idField rows).get? (valueOf doc entity.idField).key = some stored ∧
      c.record = patch entity b.overrideLocked stored doc
        (doc.keys.filter fun f => f != entity.idField) := by
  obtain ⟨⟨doc, id⟩, hpair, hchange⟩ := List.mem_filterMap.mp h
  rw [zip_map_self] at hpair
  obtain ⟨d, hd, heq⟩ := List.mem_map.mp hpair
  cases heq
  obtain ⟨stored, hstored, hchange⟩ := Option.bind_eq_some_iff.mp hchange
  dsimp only at hchange
  split at hchange
  · cases hchange
    exact ⟨doc, hd, rfl, stored, hstored, rfl⟩
  · cases hchange

/-! ## Tables -/

variable {next : Tables.Table} {columns : Columns} {ts : Tables} {doc : Fields Json} {row r : Row}
  {marker f g : String} {n last : Int} {existing : Fields (Fields Json)}
  {records : List (Fields Json)}

/-- An update that gives records has found the stored records of the items,
and run a statement for each change. -/
theorem leads_update {s : Relational.State Tables.Engine} (hs : Holds False entity t columns ts s) :
    Leads (fun s' => s' = s) (b.update (inMemory entity settings).store)
      (fun _ after => b.HasKeys entity.idField ∧ ∃ records next,
        ((b.known (inMemory entity settings).store).on s).1 = .ok records ∧
        Tables.updateAll ((b.changesOf entity records).map fun c =>
          Relational.updateOf entity settings columns (c.id, c.delta)) t = .ok next ∧
        after.timed.state.tables.find entity.storage = .ok next)
      (fun _ => True) := by
  have hsearch : ∀ c, Keeps (Holds False entity t columns ts)
      ((inMemory entity settings).store.search c) := Relational.keeps_search
  have hknown : Keeps (Holds False entity t columns ts)
      (b.known (inMemory entity settings).store) := Store.keeps_findWith hsearch _ _
  have hfound := (hknown.startingAt hs).weakenError fun _ _ => trivial
  refine (ends_update_of (fun _ _ _ => trivial) (fun _ _ _ => trivial) hsearch hfound
    fun records _ _ s hs => Relational.leads_update _ s ⟨ts, hs⟩).weaken ?_ fun _ _ _ => trivial
  rintro _ s ⟨hpresent, records, hrecords, next, hall, after, hafter⟩
  rw [List.map_map] at hall
  exact ⟨hpresent, records, next, hrecords, hall, by rw [hafter.tables]; exact hafter.find⟩

/-! ## What is locked -/

/-- The fields that a row lists as locked. -/
def lockedIn (marker : String) (row : Row) : List String :=
  lockedBy ((row.get? marker).map Value.toJson)

theorem lockedFields_record (hmarker : entity.lockedField = some marker) (hname : IsName marker)
    (row : Row) :
    lockedFields entity (Row.toJson (Tables.bareColumns row)) false = lockedIn marker row := by
  rw [lockedFields, hmarker, lockedIn, ← Relational.get?_record hname]
  rfl

/-- A row locks what the value under the marker lists, unless locks are
overridden. -/
theorem mem_lockedFields_record {override : Bool} {f : String} :
    f ∈ lockedFields entity (Row.toJson (Tables.bareColumns row)) override ↔
      ∃ marker w, entity.lockedField = some marker ∧ override = false ∧ IsName marker ∧
        row.get? marker = some w ∧ f ∈ lockedBy (some w.toJson) := by
  constructor
  · intro hf
    rw [lockedFields] at hf
    split at hf
    · rename_i marker hmarker
      split at hf
      · cases hf
      · rename_i hoverride
        cases hstored : (Row.toJson (Tables.bareColumns row)).get? marker with
        | none =>
          rw [hstored] at hf
          cases hf
        | some j =>
          have hname : IsName marker := by
            by_contra hpath
            have hnone : (Tables.bareColumns row).get? marker = none :=
              (Fields.get?_filter (fun c => !Text.hasChar '.' c) row marker).trans
                (if_neg (by simpa [IsName] using hpath))
            rw [Row.toJson, Fields.get?_mapValues, hnone] at hstored
            cases hstored
          rw [hstored] at hf
          obtain ⟨w, hw, rfl⟩ := Relational.get?_record_eq_some hstored
          exact ⟨marker, w, hmarker, by simpa using hoverride, hname, hw, hf⟩
    · cases hf
  · rintro ⟨marker, w, hmarker, rfl, hname, hw, hf⟩
    rw [lockedFields, hmarker]
    dsimp only
    rw [if_neg Bool.false_ne_true, Relational.get?_record hname, hw]
    exact hf

/-- The columns bind what the row holds as it is. -/
def Settled (e : Entity) (settings : Settings) (columns : Columns) (row : Row) : Prop :=
  ∀ p ∈ row, (p.2 == ((inMemory e settings).scope columns).bind p.1 (some p.2.toJson)) = true

/-- A later row has the values of an earlier one in the fields that the
earlier one lists as locked. -/
def KeepsLocked (marker : String) (row later : Row) : Prop :=
  ∀ g ∈ lockedIn marker row, ∀ v, row.get? g = some v → later.get? g = some v

theorem KeepsLocked.get?_eq (h : KeepsLocked marker row r) (hg : g ∈ lockedIn marker row)
    (hsome : (row.get? g).isSome) : r.get? g = row.get? g := by
  obtain ⟨v, hv⟩ := Option.isSome_iff_exists.mp hsome
  exact (h g hg v hv).trans hv.symm

theorem KeepsLocked.trans_of_get? (h : KeepsLocked marker row r) {later : Row}
    (hsame : ∀ g ∈ lockedIn marker row, ∀ v, row.get? g = some v → later.get? g = r.get? g) :
    KeepsLocked marker row later :=
  fun g hg v hv => (hsame g hg v hv).trans (h g hg v hv)

/-- No name of the batch is a path to or into one of these fields. -/
def NoPathInto (b : Batch) (fields : List String) : Prop :=
  ∀ f ∈ Fields.allKeys b.items, ∀ g ∈ fields, f = g ∨ root? f = some g → IsName f

theorem NoPathInto.eq_of_root? {fields : List String} (h : b.NoPathInto fields)
    (hf : f ∈ Fields.allKeys b.items) (hg : g ∈ fields) (hroot : root? f = some g) : f = g := by
  rw [root?_of_isName (h f hf g hg (.inr hroot))] at hroot
  exact Option.some.inj hroot

/-- The stored record that is found under the key of an item is that of a row. -/
def Finds (existing : Fields (Fields Json)) (field : String) (doc : Fields Json) (row : Row) :
    Prop :=
  existing.get? (valueOf doc field).key = some (Row.toJson (Tables.bareColumns row))

/-! ## Updates -/

theorem not_mem_delta {c : Change} (hsame : c.record.fields.get? f = c.record.clean.get? f)
    (hsound : ∀ j, c.record.clean.get? f = some j → j.isSound = true) :
    ∀ p ∈ c.delta, p.1 ≠ f := by
  rintro p hp rfl
  obtain ⟨f, hf, rfl⟩ := List.mem_map.mp hp
  have hchanged := (List.mem_filter.mp hf).2
  rw [Record.isKept_of_get?_eq hsame hsound] at hchanged
  cases hchanged

/-- The values of the row can be written down. -/
def SoundRow (row : Row) : Prop := ∀ p ∈ row, p.2.toJson.isSound = true

theorem isSound_record (h : SoundRow row) {f : String} {j : Json}
    (hj : (Row.toJson (Tables.bareColumns row)).get? f = some j) : j.isSound = true := by
  obtain ⟨p, hp, heq⟩ := List.mem_map.mp (Fields.mem_of_get? hj)
  cases heq
  exact h p (List.mem_filter.mp hp).1

/-- A change of a row leaves its identity and its locked fields alone. -/
theorem not_mem_delta_of_patch (hmarker : entity.lockedField = some marker) (hname : IsName marker)
    (hoverride : b.overrideLocked = false) (hsound : SoundRow row)
    (hpaths : b.NoPathInto (entity.idField :: lockedIn marker row)) (hdoc : doc ∈ b.items)
    {c : Change} (hrecord : c.record = patch entity b.overrideLocked
      (Row.toJson (Tables.bareColumns row)) doc (doc.keys.filter fun f => f != entity.idField))
    (hg : g ∈ entity.idField :: lockedIn marker row) : ∀ p ∈ c.delta, p.1 ≠ g := by
  have hclean : c.record.clean = Row.toJson (Tables.bareColumns row) := by
    rw [hrecord, clean_patch]
  apply not_mem_delta
  · rw [hclean, hrecord]
    refine get?_patch_of_apart fun f hf hroot => ?_
    obtain ⟨hmem, hne⟩ := List.mem_filter.mp hf
    obtain rfl := hpaths.eq_of_root? (Fields.mem_allKeys.mpr ⟨doc, hdoc, hmem⟩) hg hroot
    rw [hoverride, lockedFields_record hmarker hname]
    rcases List.mem_cons.mp hg with rfl | hg
    · simp at hne
    · exact hg
  · intro j hj
    rw [hclean] at hj
    exact isSound_record hsound hj

theorem keeps_locked_of_updateAll (hmarker : entity.lockedField = some marker)
    (hname : IsName marker) (hoverride : b.overrideLocked = false)
    (hall : Tables.updateAll ((b.changesOf entity records).map fun c =>
      Relational.updateOf entity settings columns (c.id, c.delta)) t = .ok next) {i : Nat}
    (hrow : t.rows[i]? = some row) (hsound : SoundRow row)
    (hpaths : b.NoPathInto (entity.idField :: lockedIn marker row))
    (hfinds : ∀ doc ∈ b.items,
      (row.get? entity.idField).any (fun w => Value.agrees w (valueOf doc entity.idField)) = true →
        Finds (indexBy entity.idField records) entity.idField doc row) :
    ∃ later, next.rows[i]? = some later ∧ KeepsLocked marker row later := by
  -- A statement may find the row again after an earlier one has changed it, so
  -- the identity is kept along with the locked fields.
  obtain ⟨later, hlater, -, hkeeps⟩ := Tables.row_of_updateAll (P := fun r =>
    r.get? entity.idField = row.get? entity.idField ∧ KeepsLocked marker row r) hall hrow
    ⟨rfl, fun _ _ _ hw => hw⟩ (by
      rw [List.forall_mem_map]
      rintro c hc r ⟨hid, hkeeps⟩ hholds
      obtain ⟨doc, hdoc, hcid, stored, hstored, hrecord⟩ := mem_changesOf hc
      have hagrees : (r.get? entity.idField).any (fun w => Value.agrees w c.id) = true := hholds
      rw [hid, hcid] at hagrees
      obtain rfl := Option.some.inj (hstored.symm.trans (hfinds doc hdoc hagrees))
      have hkept : ∀ g ∈ entity.idField :: lockedIn marker row,
          (Tables.assignAll r (Relational.updateOf entity settings columns
            (c.id, c.delta)).assignments).1.get? g = r.get? g := by
        intro g hg
        apply Tables.get?_assignAll_of_not_mem
        simp only [Relational.updateOf, List.forall_mem_map]
        exact not_mem_delta_of_patch hmarker hname hoverride hsound hpaths hdoc hrecord hg
      rw [List.forall_mem_cons] at hkept
      exact ⟨hkept.1.trans hid, hkeeps.trans_of_get? fun g hg _ _ => hkept.2 g hg⟩)
  exact ⟨later, hlater, hkeeps⟩

/-! ## Upserts -/

/-- The row that comes in for an item, with the given primary key if it has none
of its own. -/
def arrivesAs (b : Batch) (e : Entity) (settings : Settings) (columns : Columns)
    (existing : Fields (Fields Json)) (t : Tables.Table) (doc : Fields Json) (n : Int) : Row :=
  (Tables.assignId t.shape (b.comesIn e settings columns existing t doc) n).1

/-- What can become of a row by items that have found it: they share a key with
it as it has become by then, and it takes over from them. -/
inductive Becomes (b : Batch) (e : Entity) (settings : Settings) (columns : Columns)
    (existing : Fields (Fields Json)) (t : Tables.Table) (last : Int) (row : Row) : Row → Prop
  | same : Becomes b e settings columns existing t last row row
  | taken {r : Row} {doc : Fields Json} {n : Int} :
      Becomes b e settings columns existing t last row r → doc ∈ b.items →
      Finds existing (b.meetingField e) doc row → t.nextId ≤ n → n ≤ last →
      Tables.SharesKey t.shape r (b.arrivesAs e settings columns existing t doc n) →
      Becomes b e settings columns existing t last row
        (Tables.takeFrom (b.takenOver e existing) r
          (b.arrivesAs e settings columns existing t doc n))

/-- An item that has found a row is written with what the row has in its locked
fields. -/
theorem get?_written_of_locked (hmarker : entity.lockedField = some marker)
    (hname : IsName marker) (hoverride : b.overrideLocked = false)
    (hpaths : b.NoPathInto (lockedIn marker row)) (hfinds : Finds existing (b.meetingField entity)
      doc row) (hg : g ∈ lockedIn marker row) (htaken : g ∈ b.takenOver entity existing) {w : Value}
    (hw : row.get? g = some w) : (b.written entity existing doc).get? g = some w.toJson := by
  obtain ⟨hunion, hne⟩ := mem_of_mem_takenOver htaken
  rw [written, get?_completed_of_apart hfinds hne hunion,
    Relational.get?_record (hpaths g hunion g hg (.inl rfl)), hw]
  · rfl
  · intro f hf hroot
    rw [hoverride, lockedFields_record hmarker hname, hpaths.eq_of_root? hf hg hroot]
    exact hg

theorem Upserted.get?_comesIn_of_written
    (h : Upserted b entity settings columns existing t next) (hdoc : doc ∈ b.items) {j : Json}
    (hj : (b.written entity existing doc).get? g = some j) :
    (b.comesIn entity settings columns existing t doc).get? g =
      some (((inMemory entity settings).scope columns).bind g (some j)) := by
  have hmem : g ∈ Fields.allKeys (b.items.map (b.written entity existing)) :=
    Fields.mem_allKeys.mpr ⟨_, List.mem_map_of_mem hdoc,
      Fields.contains_iff.mp (by rw [Fields.contains, hj]; rfl)⟩
  rw [h.get?_comesIn hdoc, if_pos (h.named g hmem), hj]

theorem Upserted.keeps_locked (h : Upserted b entity settings columns existing t next)
    (hmarker : entity.lockedField = some marker) (hname : IsName marker)
    (hoverride : b.overrideLocked = false) {i : Nat} (hrow : t.rows[i]? = some row)
    (hsettled : Settled entity settings columns row)
    (hprimary : row.get? t.shape.primaryKey ≠ some .null)
    (hpaths : b.NoPathInto (lockedIn marker row))
    (hfinds : ∀ r, Becomes b entity settings columns existing t next.nextId row r →
      ∀ doc ∈ b.items, b.Meets entity settings columns existing t next.nextId doc r →
        Finds existing (b.meetingField entity) doc row) :
    ∃ later, next.rows[i]? = some later ∧ KeepsLocked marker row later := by
  obtain ⟨f, hfold, hrows, hlast⟩ := h.filled
  rw [hrows]
  obtain ⟨later, hlater, -, hkeeps⟩ := Tables.row_of_foldlM (P := fun r =>
    Becomes b entity settings columns existing t next.nextId row r ∧ KeepsLocked marker row r)
    hfold hrow ⟨.same, fun _ _ _ hw => hw⟩ (by
      simp only [List.forall_mem_map]
      rintro doc hdoc n hn hle r ⟨hbecomes, hkeeps⟩ hshares
      have hfound := hfinds r hbecomes doc hdoc ⟨n, hn, hlast ▸ hle, hshares⟩
      refine ⟨hbecomes.taken hdoc hfound hn (hlast ▸ hle) hshares,
        hkeeps.trans_of_get? fun g hg w hw => ?_⟩
      -- A locked field that is taken over comes in with its stored value.
      by_cases htaken : g ∈ b.takenOver entity existing
      · have hcame := h.get?_comesIn_of_written hdoc
          (get?_written_of_locked hmarker hname hoverride hpaths hfound hg htaken hw)
        have hbound : (w == ((inMemory entity settings).scope columns).bind g (some w.toJson)) =
            true := hsettled (g, w) (Fields.mem_of_get? hw)
        refine Tables.get?_takeFrom_of_shows fun v hv => ?_
        have harrived : (b.arrivesAs entity settings columns existing t doc n).get? g = _ :=
          Tables.get?_assignId_of_some hcame fun hkey hnull => ?_
        · cases harrived.symm.trans hv
          exact ⟨w, hkeeps g hg w hw, hbound⟩
        · rw [hnull] at hbound
          refine hprimary ?_
          rw [← hkey, hw, Value.isNull_iff.mp (Value.isNull_of_beq hbound)]
      · exact Tables.get?_takeFrom_of_not_mem htaken)
  exact ⟨later, hlater, hkeeps⟩

/-- In a table without unique keys, for a batch that goes by the primary key, a
row keeps its primary key whatever becomes of it, and only items whose keys agree
with it meet it. -/
theorem finds_of_agrees (hunique : t.shape.uniqueKeys = [])
    (hfield : b.meetingField entity = t.shape.primaryKey)
    (hkeys : ∀ doc ∈ b.items, (valueAt (b.comesIn entity settings columns existing t doc)
      t.shape.primaryKey).isNull = false)
    (hfinds : ∀ doc ∈ b.items, (row.get? t.shape.primaryKey).any
        (fun w => Value.agrees w (valueAt (b.comesIn entity settings columns existing t doc)
          t.shape.primaryKey)) = true →
      Finds existing t.shape.primaryKey doc row) :
    ∀ r, Becomes b entity settings columns existing t last row r → ∀ doc ∈ b.items,
      b.Meets entity settings columns existing t last doc r →
        Finds existing (b.meetingField entity) doc row := by
  rintro r hbecomes doc hdoc ⟨n, -, -, hshares⟩
  have hkept : r.get? t.shape.primaryKey = row.get? t.shape.primaryKey := by
    clear hshares
    induction hbecomes with
    | same => rfl
    | taken _ _ _ _ _ _ ih =>
      exact (Tables.get?_takeFrom_of_not_mem (hfield ▸ not_mem_takenOver_self)).trans ih
  have hnull : valueAt (b.comesIn entity settings columns existing t doc) t.shape.primaryKey ≠
      .null := fun h => by simpa [h, Value.isNull] using hkeys doc hdoc
  obtain ⟨w, v, hw, hv, hagrees⟩ := Tables.agrees_of_sharesKey hunique hshares
  obtain rfl := Option.some.inj ((Tables.get?_assignId_of_some
    (Tables.get?_of_valueAt_ne hnull) fun _ => hnull).symm.trans hv)
  rw [hfield]
  exact hfinds doc hdoc (by rw [← hkept, hw]; exact hagrees)

/-! ## Both writes -/

/-- What a row lists as locked is what it was before, after an update of a batch
that gave records and after an upsert. The keys of the items may be any values.
Asked is that no name of the batch is a path into a locked field, and that every
item that the statements match with the row has found it: its key is the text
that the record of the row is found under. -/
theorem locked_fields_stay_as_they_are (b : Batch) (settings : Settings)
    (s : Relational.State Tables.Engine)
    (hfind : s.timed.state.tables.find entity.storage = .ok t)
    (hmarker : entity.lockedField = some marker) (hname : IsName marker)
    (hoverride : b.overrideLocked = false) :
    (match (b.update (inMemory entity settings).store).on s with
    | (.ok _, after) => ∃ records next,
        ((b.known (inMemory entity settings).store).on s).1 = .ok records ∧
        after.timed.state.tables.find entity.storage = .ok next ∧
        ∀ (i : Nat) (row : Row), t.rows[i]? = some row → SoundRow row →
          b.NoPathInto (entity.idField :: lockedIn marker row) →
          (∀ doc ∈ b.items, (row.get? entity.idField).any
              (fun w => Value.agrees w (valueOf doc entity.idField)) = true →
            Finds (indexBy entity.idField records) entity.idField doc row) →
          ∃ later, next.rows[i]? = some later ∧ KeepsLocked marker row later
    | (.error _, _) => True) ∧
    (match (b.upsert (inMemory entity settings).store).on s with
    | (.ok _, after) => ∃ records next,
        ((b.found (inMemory entity settings).store).on s).1 = .ok records ∧
        after.timed.state.tables.find entity.storage = .ok next ∧
        ∀ (i : Nat) (row : Row), t.rows[i]? = some row →
          Settled entity settings (knownColumns entity t s) row →
          row.get? t.shape.primaryKey ≠ some .null → b.NoPathInto (lockedIn marker row) →
          (∀ r, Becomes b entity settings (knownColumns entity t s)
              (indexBy (b.meetingField entity) records) t next.nextId row r →
            ∀ doc ∈ b.items, b.Meets entity settings (knownColumns entity t s)
                (indexBy (b.meetingField entity) records) t next.nextId doc r →
              Finds (indexBy (b.meetingField entity) records) (b.meetingField entity) doc row) →
          ∃ later, next.rows[i]? = some later ∧ KeepsLocked marker row later
    | (.error _, _) => True) := by
  have hs : Holds False entity t (knownColumns entity t s) s.timed.state.tables s :=
    ⟨⟨rfl, False.elim⟩, hfind, rfl⟩
  constructor
  · split
    · rename_i _ after hon
      obtain ⟨-, records, next, hrecords, hall, hnext⟩ := (leads_update hs).of_ok rfl hon
      exact ⟨records, next, hrecords, hnext, fun i row hrow hsound hpaths hfinds =>
        keeps_locked_of_updateAll hmarker hname hoverride hall hrow hsound hpaths hfinds⟩
    · trivial
  · split
    · rename_i _ after hon
      obtain ⟨records, next, hrecords, hupserted, hnext⟩ := (leads_upsert hs).of_ok rfl hon
      exact ⟨records, next, hrecords, hnext, fun i row hrow hsettled hprimary hpaths hfinds =>
        hupserted.keeps_locked hmarker hname hoverride hrow hsettled hprimary hpaths hfinds⟩
    · trivial

/-- A product whose name is locked keeps it, whatever the batch says. One product is named by a
number and one by a text. -/
theorem a_locked_name_stays_as_it_is :
    let entity : Entity := { name := "product", storage := "products", lockedField := some "locks" }
    let b : Batch := { items := [[("id", .str "A"), ("name", .str "Ash"), ("stock", .int 3)]] }
    let row (id : Value) (name : String) : Row := [("id", id),
      ("locks", .json (.arr [.str "name"])), ("name", .text name), ("stock", .int 2)]
    let t : Tables.Table := {
      shape := .make "products" "id" [("locks", .json), ("name", .text), ("stock", .integer)] []
      rows := [row (.text "A") "Oak", row (.int 1) "Pine"] }
    let s : Relational.State Tables.Engine := .initial {} { tables := [("products", t)] }
    ∀ write ∈ [b.update (inMemory entity {}).store, b.upsert (inMemory entity {}).store],
      ∃ records after, write.on s = (.ok records, after) ∧
        ∃ next, after.timed.state.tables.find "products" = .ok next ∧
          ∀ (i : Nat) (row : Row), t.rows[i]? = some row →
            ∃ later, next.rows[i]? = some later ∧ later.get? "name" = row.get? "name" := by
  intro entity b row t s
  have hs : Holds False entity t (knownColumns entity t s) s.timed.state.tables s :=
    ⟨⟨rfl, False.elim⟩, rfl, rfl⟩
  have hsound : ∀ row ∈ t.rows, SoundRow row := by
    unfold SoundRow
    decide
  have hsettled : ∀ row ∈ t.rows, Settled entity {} (knownColumns entity t s) row := by
    unfold Settled
    decide
  have hprimary : ∀ row ∈ t.rows, row.get? t.shape.primaryKey ≠ some .null := by
    rw [List.forall_mem_cons, List.forall_mem_singleton]
    exact ⟨nofun, nofun⟩
  have hpaths : ∀ row ∈ t.rows, b.NoPathInto ("id" :: lockedIn "locks" row) := by
    unfold NoPathInto
    decide
  have hkeys : ∀ doc ∈ b.items, (valueAt (b.comesIn entity {} (knownColumns entity t s)
      (b.met entity (knownColumns entity t s) t) t doc) t.shape.primaryKey).isNull = false := by
    decide +kernel
  -- The item has found the first row, and is equal to the second one in no query.
  have hfound : ∀ doc ∈ b.items,
      Finds (b.met entity (knownColumns entity t s) t) "id" doc (row (.text "A") "Oak") := by
    rw [List.forall_mem_singleton]
    rfl
  have hupdates : ∀ row ∈ t.rows, ∀ doc ∈ b.items,
      (row.get? "id").any (fun w => Value.agrees w (valueOf doc "id")) = true →
        Finds (b.met entity (knownColumns entity t s) t) "id" doc row := by
    rw [List.forall_mem_cons]
    refine ⟨fun doc hdoc _ => hfound doc hdoc, ?_⟩
    rw [List.forall_mem_singleton, List.forall_mem_singleton]
    exact fun h => absurd h (by decide)
  have hupserts : ∀ row ∈ t.rows, ∀ doc ∈ b.items,
      (row.get? "id").any (fun w => Value.agrees w (valueAt (b.comesIn entity {}
        (knownColumns entity t s) (b.met entity (knownColumns entity t s) t) t doc) "id")) = true →
        Finds (b.met entity (knownColumns entity t s) t) "id" doc row := by
    rw [List.forall_mem_cons]
    refine ⟨fun doc hdoc _ => hfound doc hdoc, ?_⟩
    rw [List.forall_mem_singleton, List.forall_mem_singleton]
    exact fun h => absurd h (by decide +kernel)
  have hlocked : ∀ row ∈ t.rows, "name" ∈ lockedIn "locks" row ∧ (row.get? "name").isSome := by
    decide
  have hname : ∀ row ∈ t.rows, ∀ later, KeepsLocked "locks" row later →
      later.get? "name" = row.get? "name" :=
    fun row hrow later hkeeps => hkeeps.get?_eq (hlocked row hrow).1 (hlocked row hrow).2
  obtain ⟨hupdate, hupsert⟩ :=
    locked_fields_stay_as_they_are b {} s (rfl : s.timed.state.tables.find entity.storage = .ok t)
      (rfl : entity.lockedField = some "locks") (by decide) rfl
  rw [List.forall_mem_cons, List.forall_mem_singleton]
  constructor
  · obtain ⟨given, after, hon⟩ : ∃ given after,
        (b.update (inMemory entity {}).store).on s = (.ok given, after) :=
      Call.exists_of_isOk (by decide +kernel)
    rw [hon] at hupdate
    obtain ⟨records, next, hrecords, hnext, hrows⟩ := hupdate
    have hmet : indexBy "id" records = b.met entity (knownColumns entity t s) t :=
      met_of_found (b := b) hs (by decide) (by decide) hrecords
    refine ⟨given, after, hon, next, hnext, fun i row hrow => ?_⟩
    have hmem := List.mem_of_getElem? hrow
    obtain ⟨later, hlater, hkeeps⟩ := hrows i row hrow (hsound row hmem) (hpaths row hmem)
      (hmet ▸ hupdates row hmem)
    exact ⟨later, hlater, hname row hmem later hkeeps⟩
  · obtain ⟨given, after, hon⟩ : ∃ given after,
        (b.upsert (inMemory entity {}).store).on s = (.ok given, after) :=
      Call.exists_of_isOk (by decide +kernel)
    rw [hon] at hupsert
    obtain ⟨records, next, hrecords, hnext, hrows⟩ := hupsert
    have hmet : indexBy (b.meetingField entity) records = b.met entity (knownColumns entity t s) t :=
      met_of_found hs (by decide) (by decide) hrecords
    rw [hmet] at hrows
    refine ⟨given, after, hon, next, hnext, fun i row hrow => ?_⟩
    have hmem := List.mem_of_getElem? hrow
    obtain ⟨later, hlater, hkeeps⟩ := hrows i row hrow (hsettled row hmem) (hprimary row hmem)
      (fun f hf g hg => hpaths row hmem f hf g (List.mem_cons_of_mem _ hg))
      (finds_of_agrees rfl rfl hkeys (hupserts row hmem))
    exact ⟨later, hlater, hname row hmem later hkeeps⟩

/-- A path into a locked field is another name than that of the field, so it is
not locked. -/
example :
    let entity : Entity := { name := "product", storage := "products", lockedField := some "locks" }
    let b : Batch := { items := [[("id", .int 1), ("price.msrp", .int 20)]] }
    let row (msrp : Int) : Row := [("id", .int 1), ("locks", .json (.arr [.str "price"])),
      ("price", .json (.obj [("msrp", .int msrp)]))]
    let t : Tables.Table := {
      shape := .make "products" "id" [("locks", .json), ("price", .json)] []
      rows := [row 10] }
    let s : Relational.State Tables.Engine := .initial {} { tables := [("products", t)] }
    (((b.update (inMemory entity {}).store).on s).2.timed.state.rows "products" == [row 20]) =
      true := by
  decide +kernel

/-- A key that is equal to that of a row in a query, but is another text, does not find
the row, so nothing of it is locked. -/
example :
    let entity : Entity := { name := "product", storage := "products", lockedField := some "locks" }
    let b : Batch := { items := [[("id", .bool true), ("name", .str "Pine")]] }
    let row (name : String) : Row := [("id", .int 1), ("locks", .json (.arr [.str "name"])),
      ("name", .text name)]
    let t : Tables.Table := {
      shape := .make "products" "id" [("locks", .json), ("name", .text)] []
      rows := [row "Oak"] }
    let s : Relational.State Tables.Engine := .initial {} { tables := [("products", t)] }
    (((b.upsert (inMemory entity {}).store).on s).2.timed.state.rows "products" == [row "Pine"]) =
      true := by
  decide +kernel

end EntityStore.Batch
