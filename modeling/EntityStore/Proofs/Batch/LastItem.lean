-- What an upsert by the primary key makes of the rows that it names. Items
-- that share a key are all completed from the row as it was before the batch,
-- so the last of them decides on every field of the batch, also on those that
-- it does not have.
import EntityStore.Proofs.Batch.Upserting

namespace EntityStore.Batch

open Flat (IsName)
open Relational (inMemory knownColumns)

variable {entity : Entity} {settings : Settings} {t next : Tables.Table} {columns : Columns}
  {b : Batch} {k : Kind} {doc : Fields Json}

/-! ## Items as they come in -/

variable {f : String}

/-- Where nothing is locked an item is written with its own fields, and with
the stored ones where the item is that of a stored record. -/
theorem get?_written_of_ne (hkey : ByPrimaryKey b entity settings columns t k)
    (hid : entity.idField = t.shape.primaryKey) (hlocked : entity.lockedField = none)
    (hnames : b.NamesFields) (hf : f ∈ Fields.allKeys b.items) (hne : f ≠ t.shape.primaryKey) :
    (b.written entity (b.met entity columns t) doc).get? f =
      match (b.met entity columns t).get? (valueOf doc t.shape.primaryKey).key with
      | none => doc.get? f
      | some stored => some (Json.ofOption ((doc.get? f).or (stored.get? f))) := by
  unfold written
  rw [hkey.field]
  cases hmet : (b.met entity columns t).get? (valueOf doc t.shape.primaryKey).key with
  | none => rw [completed_of_new hmet]
  | some stored =>
    have hnone : lockedFields entity stored b.overrideLocked = [] := by
      rw [lockedFields, hlocked]
    rw [get?_completed hmet hnames hne (hid ▸ hne), if_pos hf, hnone]
    simp

theorem Upserted.contains_of_mem
    (h : Upserted b entity settings columns (b.met entity columns t) t next)
    (hkey : ByPrimaryKey b entity settings columns t k) (hid : entity.idField = t.shape.primaryKey)
    (hlocked : entity.lockedField = none) (hnames : b.NamesFields)
    (hf : f ∈ Fields.allKeys b.items) (hne : f ≠ t.shape.primaryKey) :
    Fields.contains t.shape.columns f = true := by
  obtain ⟨doc, hdoc, hmem⟩ := Fields.mem_allKeys.mp hf
  obtain ⟨j, hj⟩ := Option.isSome_iff_exists.mp (Fields.contains_iff.mpr hmem)
  apply h.named
  refine Fields.mem_allKeys.mpr ⟨_, List.mem_map_of_mem hdoc, Fields.contains_iff.mp ?_⟩
  rw [Fields.contains, get?_written_of_ne hkey hid hlocked hnames hf hne, hj]
  split <;> rfl

theorem mem_takenOver (hkey : ByPrimaryKey b entity settings columns t k)
    (hlocked : entity.lockedField = none) (hf : f ∈ Fields.allKeys b.items)
    (hne : f ≠ t.shape.primaryKey) : f ∈ b.takenOver entity (b.met entity columns t) := by
  unfold takenOver updatedFields
  rw [hkey.field, hlocked]
  have hmem : f ∈ (Fields.allKeys b.items).filter fun f => f != t.shape.primaryKey :=
    List.mem_filter.mpr ⟨hf, bne_iff_ne.mpr hne⟩
  split
  · exact hmem
  · exact List.mem_filter.mpr ⟨hmem, rfl⟩

/-- The row that the last item with a key leaves shows what the item is written
with. -/
theorem Upserted.last (h : Upserted b entity settings columns (b.met entity columns t) t next)
    (hkey : ByPrimaryKey b entity settings columns t k) (hid : entity.idField = t.shape.primaryKey)
    (hlocked : entity.lockedField = none) (hnames : b.NamesFields)
    {before later : List (Fields Json)} (hitems : b.items = before ++ doc :: later)
    (hlast : ∀ d ∈ later,
      (valueOf d t.shape.primaryKey).key ≠ (valueOf doc t.shape.primaryKey).key) :
    ∃ row ∈ next.rows, row.get? t.shape.primaryKey = some (valueOf doc t.shape.primaryKey) ∧
      ∀ f ∈ Fields.allKeys b.items, f ≠ t.shape.primaryKey → Tables.Shows row f
        (((inMemory entity settings).scope columns).bind f
          ((b.written entity (b.met entity columns t) doc).get? f)) := by
  obtain ⟨f, hfold, hrows, -⟩ := h.filled
  have hnew : ∀ vs ∈ _, Tables.incomingRow t.shape _ vs ∈
      b.items.map (b.comesIn entity settings columns (b.met entity columns t) t) := comesIn_mem
  have hdoc : doc ∈ b.items := by simp [hitems]
  have hsplit : ∀ (w : Fields Json → Fields Json) (g : Fields Json → List Value),
      (b.items.map w).map g = (before.map w).map g ++ g (w doc) :: (later.map w).map g := by
    intro w g
    rw [hitems]
    simp
  rw [hsplit (b.written entity (b.met entity columns t))] at hfold hnew
  obtain ⟨row, hrow, hrowKey, hshows⟩ := (h.toldApart hkey).row_of_last hnew rfl hfold (by
      simp only [List.forall_mem_map]
      intro d hd hsame
      have hlater : d ∈ b.items := by simp [hitems, hd]
      have hown : (b.comesIn entity settings columns (b.met entity columns t) t d).get?
          t.shape.primaryKey = (b.comesIn entity settings columns (b.met entity columns t) t
            doc).get? t.shape.primaryKey := hsame
      rw [(h.key_comesIn hkey hlater).1, (h.key_comesIn hkey hdoc).1] at hown
      exact hlast d hd (congrArg Value.key (Option.some.inj hown)))
  have hown : row.get? t.shape.primaryKey = (b.comesIn entity settings columns
      (b.met entity columns t) t doc).get? t.shape.primaryKey := hrowKey
  refine ⟨row, hrows ▸ hrow, hown.trans (h.key_comesIn hkey hdoc).1, fun f hf hne => ?_⟩
  apply hshows f (mem_takenOver hkey hlocked hf hne)
  have hcolumn := h.contains_of_mem hkey hid hlocked hnames hf hne
  exact (h.get?_comesIn hdoc f).trans (if_pos hcolumn)

/-! ## The last item with a key -/

/-- What the last item with a key leaves of a row under the fields of the
batch: its own value, as the column binds it, or else the value that the row
had before the batch, or null where there was no row. -/
structure Decides (b : Batch) (e : Entity) (settings : Settings) (columns : Columns)
    (t : Tables.Table) (doc : Fields Json) (row : Row) : Prop where
  key : row.get? t.shape.primaryKey = some (valueOf doc t.shape.primaryKey)
  own : ∀ f j, doc.get? f = some j →
    Tables.Shows row f (((inMemory e settings).scope columns).bind f (some j))
  kept : ∀ f ∈ Fields.allKeys b.items, doc.get? f = none → ∀ old ∈ t.rows,
    old.get? t.shape.primaryKey = some (valueOf doc t.shape.primaryKey) → ∀ w,
      old.get? f = some w →
        Tables.Shows row f (((inMemory e settings).scope columns).bind f (some w.toJson))
  blank : ∀ f ∈ Fields.allKeys b.items, doc.get? f = none →
    (∀ old ∈ t.rows, old.get? t.shape.primaryKey ≠ some (valueOf doc t.shape.primaryKey)) →
      Tables.Shows row f .null

theorem Upserted.decides (h : Upserted b entity settings columns (b.met entity columns t) t next)
    (hkey : ByPrimaryKey b entity settings columns t k) (hid : entity.idField = t.shape.primaryKey)
    (hlocked : entity.lockedField = none) (hnames : b.NamesFields)
    {before later : List (Fields Json)} (hitems : b.items = before ++ doc :: later)
    (hlast : ∀ d ∈ later,
      (valueOf d t.shape.primaryKey).key ≠ (valueOf doc t.shape.primaryKey).key) :
    ∃ row ∈ next.rows, Decides b entity settings columns t doc row := by
  obtain ⟨row, hrow, hrowKey, hshows⟩ := h.last hkey hid hlocked hnames hitems hlast
  have hdoc : doc ∈ b.items := by simp [hitems]
  have hv := (h.key_comesIn hkey hdoc).2
  have hkeys : b.HasKeys t.shape.primaryKey := hkey.field ▸ h.present
  refine ⟨row, hrow, hrowKey, fun f j hj => ?_, fun f hf hnone old hold holdKey w hw => ?_,
    fun f hf hnone hnew => ?_⟩
  · by_cases hne : f = t.shape.primaryKey
    · subst hne
      have hnull := hkeys.isNull hdoc hj
      rw [bind_of_scalar hkey.scalar hnull, ← (hkey.has hdoc hj hnull).1]
      exact ⟨_, hrowKey, Value.beq_self _⟩
    · have hf : f ∈ Fields.allKeys b.items := Fields.mem_allKeys.mpr
        ⟨doc, hdoc, Fields.contains_iff.mp (by rw [Fields.contains, hj]; rfl)⟩
      have hshown := hshows f hf hne
      rw [get?_written_of_ne hkey hid hlocked hnames hf hne, hj] at hshown
      split at hshown
      · exact hshown
      · exact hshown
  · have hne := hkeys.ne hdoc hnone
    have hshown := hshows f hf hne
    have hstored : (Row.toJson (Tables.bareColumns old)).get? f = some w.toJson := by
      rw [Relational.get?_record (hnames f hf), hw]
      rfl
    rw [get?_written_of_ne hkey hid hlocked hnames hf hne, hkey.met_of_row hdoc hv hold holdKey,
      hnone] at hshown
    dsimp only at hshown
    rw [Option.none_or, hstored] at hshown
    exact hshown
  · have hne := hkeys.ne hdoc hnone
    have hshown := hshows f hf hne
    rw [get?_written_of_ne hkey hid hlocked hnames hf hne, hkey.met_of_no_row hv hnew, hnone]
      at hshown
    exact hshown

/-- After an upsert by the primary key the last item with a key has decided
on every field of the batch. Its own fields are never lost, but those that only
earlier items with its key have are. -/
theorem the_last_item_with_a_key_decides_on_every_field (settings : Settings)
    (s : Relational.State Tables.Engine)
    (hfind : s.timed.state.tables.find entity.storage = .ok t)
    (hkey : ByPrimaryKey b entity settings (knownColumns entity t s) t k)
    (hid : entity.idField = t.shape.primaryKey) (hlocked : entity.lockedField = none)
    (hnames : b.NamesFields) :
    match (b.upsert (inMemory entity settings).store).on s with
    | (.ok _, after) => ∃ next, after.timed.state.tables.find entity.storage = .ok next ∧
        ∀ before doc later, b.items = before ++ doc :: later →
          (∀ d ∈ later,
            (valueOf d t.shape.primaryKey).key ≠ (valueOf doc t.shape.primaryKey).key) →
          ∃ row ∈ next.rows, Decides b entity settings (knownColumns entity t s) t doc row
    | (.error _, _) => True := by
  split
  · rename_i records after hon
    obtain ⟨next, hupserted, hnext⟩ :=
      (hkey.leads_upsert _).of_ok ⟨⟨rfl, False.elim⟩, hfind, rfl⟩ hon
    refine ⟨next, hnext, fun before doc later hitems hlast => ?_⟩
    exact hupserted.decides hkey hid hlocked hnames hitems hlast
  · trivial

/-- Two items for one product that is stored: the second one decides on both
fields, and the field that only the first one has is what it was before. -/
theorem the_second_item_for_a_product_decides :
    let entity : Entity := { name := "product", storage := "products" }
    let first : Fields Json := [("a", .int 5), ("id", .int 1)]
    let second : Fields Json := [("b", .int 7), ("id", .int 1)]
    let b : Batch := { items := [first, second] }
    let t : Tables.Table := {
      shape := .make "products" "id" [("a", .integer), ("b", .integer)] []
      rows := [[("a", .int 0), ("b", .int 0), ("id", .int 1)]] }
    let s : Relational.State Tables.Engine := .initial {} { tables := [("products", t)] }
    ∃ records after, (b.upsert (inMemory entity {}).store).on s = (.ok records, after) ∧
      ∃ next, after.timed.state.tables.find "products" = .ok next ∧
        ∃ row ∈ next.rows, row.get? "id" = some (.int 1) ∧
          Tables.Shows row "a" (.int 0) ∧ Tables.Shows row "b" (.int 7) := by
  intro entity first second b t s
  have hkey : ByPrimaryKey b entity {} (knownColumns entity t s) t .integer :=
    ⟨rfl, Tables.aligned_of_nil rfl, by decide, by decide, by decide,
      Tables.keyed_of_ints [1] rfl (by decide) (by decide), by decide⟩
  have hlast := the_last_item_with_a_key_decides_on_every_field {} s rfl hkey rfl rfl
    (show ∀ f ∈ Fields.allKeys b.items, IsName f by decide)
  obtain ⟨records, after, hon⟩ : ∃ records after,
      (b.upsert (inMemory entity {}).store).on s = (.ok records, after) :=
    Call.exists_of_isOk (by decide +kernel)
  rw [hon] at hlast
  obtain ⟨next, hnext, hdecides⟩ := hlast
  obtain ⟨row, hrow, hdecided⟩ := hdecides [first] second [] rfl nofun
  exact ⟨records, after, hon, next, hnext, row, hrow, hdecided.key,
    hdecided.kept "a" (by decide) rfl _ List.mem_cons_self rfl (.int 0) rfl,
    hdecided.own "b" (.int 7) rfl⟩

end EntityStore.Batch
