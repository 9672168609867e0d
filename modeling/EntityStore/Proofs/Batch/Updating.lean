-- Updates of rows that go by whole numbers. An update writes to the rows of its
-- items alone, and there to the fields of the items that are not locked. What it
-- leaves under such a field counts as equal to the item's value, as a value or as a
-- document, and a zero of either sign equals the other one as a document.
import EntityStore.Proofs.Batch.Locks
import EntityStore.Proofs.Plan.Binding
import EntityStore.Proofs.Plan.Queries
import EntityStore.Proofs.Record
import EntityStore.Proofs.Tables.Updating
import EntityStore.Proofs.Value.Stored

namespace EntityStore

namespace Batch

open Call (Ends Leads Keeps)
open Flat (IsName)
open Relational (inMemory Holds Left recordsWith hasOneOf knownColumns updateOf)

variable {entity : Entity} {settings : Settings} {t next : Tables.Table} {columns : Columns}
  {ts : Tables} {b : Batch} {doc : Fields Json} {row : Row} {f : String} {c : Change}

theorem get?_delta : c.delta.get? f =
    if c.record.isKept f then none else some (Json.ofOption (c.record.fields.get? f)) := by
  have hmap : ∀ fs : List String, Fields.get? (fs.map fun g =>
      (g, Json.ofOption (c.record.fields.get? g))) f =
        if f ∈ fs then some (Json.ofOption (c.record.fields.get? f)) else none := by
    intro fs
    induction fs with
    | nil => rfl
    | cons g fs ih =>
      rw [List.map_cons, Fields.get?_cons, ih]
      by_cases hf : f = g
      · rw [if_pos hf, if_pos (hf ▸ List.mem_cons_self), hf]
      · simp only [List.mem_cons, hf, false_or, if_false]
  rw [Change.delta, hmap]
  simp only [Record.mem_changedFields]
  cases c.record.isKept f <;> rfl

theorem nodup_delta (c : Change) : c.delta.keys.Nodup := by
  have hkeys : c.delta.keys = c.record.changedFields := by
    rw [Change.delta, Fields.keys, List.map_map]
    exact List.map_id _
  rw [hkeys]
  exact (Fields.ordered_ofList _).nodup_keys.filter _

/-! ## Finding stored records -/

theorem known_of_resolve {purpose : Plan.Purpose} {column : Sql.Column} (hname : IsName f)
    (h : ((inMemory entity settings).scope columns).resolve purpose f = .ok column) :
    (columns.isEmpty || Fields.contains columns f) = true := by
  by_contra hunknown
  have hcheck : ((inMemory entity settings).scope columns).checkColumn f = .error _ :=
    if_neg hunknown
  rw [Plan.Scope.resolve, Text.split_of_hasChar_eq_false hname, Plan.Scope.resolveParts,
    Plan.Scope.ownColumn, hcheck] at h
  cases h

/-- A search for values that gives records has found the rows with one of the
values, and knows the column. -/
theorem leads_findWith_known {calm : Prop} {vs : List Value} (hname : IsName f) (hvs : vs ≠ []) :
    Leads (Holds calm entity t columns ts)
      (Store.findWith (inMemory entity settings).search f vs)
      (fun rows s => ((columns.isEmpty || Fields.contains columns f) = true ∧
        rows = recordsWith columns t f vs) ∧ Holds calm entity t columns ts s)
      (fun _ => True) := by
  by_cases hknown : (columns.isEmpty || Fields.contains columns f) = true
  · exact (Relational.leads_findWith fun _ => ⟨hname, hknown⟩).weaken
      (fun _ _ h => ⟨⟨hknown, h.1⟩, h.2⟩) fun _ _ => trivial
  · unfold Store.findWith
    rw [if_neg (by simpa using hvs)]
    refine (Relational.leads_ofGroup_passing _).bind fun out => ?_
    rintro s ⟨⟨p, hp, -⟩, -⟩
    obtain ⟨q, hq⟩ := Plan.Scope.compile_of_groups hp _ (List.mem_singleton_self _)
      (.inList f vs) (List.mem_singleton_self _)
    obtain ⟨column, hcolumn, -⟩ := Plan.Scope.condition_eq_ok_iff.mp hq
    exact absurd (known_of_resolve hname hcolumn) hknown

/-- The identities of the items. -/
def identitiesOf (b : Batch) (e : Entity) : List Value := b.items.map (valueOf · e.idField)

/-- The stored records with the identities of the items, by their keys. -/
def storedRecords (b : Batch) (e : Entity) (columns : Columns) (t : Tables.Table) :
    Fields (Fields Json) :=
  indexBy e.idField (recordsWith columns t e.idField (b.identitiesOf e))

/-- What is known of an update that gave records. -/
structure Updated (b : Batch) (e : Entity) (settings : Settings) (columns : Columns)
    (t next : Tables.Table) : Prop where
  filled : b.items ≠ []
  present : b.HasKeys e.idField
  column : (columns.isEmpty || Fields.contains columns e.idField) = true
  found : ∀ doc ∈ b.items,
    (b.storedRecords e columns t).contains (valueOf doc e.idField).key = true
  written : Tables.updateAll ((b.changes e (b.storedRecords e columns t)
    (b.identitiesOf e)).map fun c => updateOf e settings columns (c.id, c.delta)) t = .ok next

theorem checkKnown_eq_ok_iff {e : Entity} {ids : List Value} {existing : Fields (Fields Json)} :
    checkKnown e ids existing = .ok () ↔ ∀ id ∈ ids, existing.contains id.key = true := by
  unfold checkKnown
  dsimp only
  rw [← List.forall_mem_map (f := Value.key) (P := fun key => existing.contains key = true)]
  constructor
  · intro h
    split at h
    · rename_i hempty
      simpa using hempty
    · cases h
  · intro h
    rw [if_pos (by simpa using h)]

theorem filled_of_update {σ : Type} {st : Store σ} {s after : σ} {records : List Record}
    (h : (b.update st).on s = (.ok records, after)) :
    b.items ≠ [] ∧ b.HasKeys st.entity.idField := by
  unfold update at h
  obtain ⟨_, _, hfilled, h⟩ := Call.exists_of_on_bind h
  obtain ⟨_, _, hkeys, -⟩ := Call.exists_of_on_bind h
  rw [Call.on_lift] at hfilled hkeys
  exact ⟨items_ne_nil (Prod.mk.inj hfilled).1, (keys_eq_ok (Prod.mk.inj hkeys).1).2⟩

theorem leads_updated {calm : Prop} (settings : Settings) (b : Batch) (hitems : b.items ≠ [])
    (hname : IsName entity.idField) :
    Leads (Holds calm entity t columns ts) (b.update (inMemory entity settings).store)
      (fun _ s => ∃ next, Updated b entity settings columns t next ∧
        Left calm entity columns next s)
      (fun _ => True) := by
  have hsearch : ∀ c, Keeps (Holds calm entity t columns ts)
      ((inMemory entity settings).store.search c) := Relational.keeps_search
  have hfound : Leads (Holds calm entity t columns ts)
      (b.known (inMemory entity settings).store) _ (fun _ => True) :=
    leads_findWith_known hname (by simpa using hitems)
  refine (ends_update_checked (fun _ _ _ => trivial) (fun _ _ _ => trivial) hsearch hfound
    fun rows _ _ s hs => Relational.leads_update _ s ⟨ts, hs⟩).weaken ?_ fun _ _ _ => trivial
  rintro _ s ⟨-, hpresent, _, ⟨hcolumn, rfl⟩, hchecked, next, hall, hleft⟩
  rw [List.map_map] at hall
  have hknown := checkKnown_eq_ok_iff.mp hchecked
  rw [List.forall_mem_map] at hknown
  exact ⟨next, ⟨hitems, hpresent, hcolumn, hknown, hall⟩, hleft⟩

/-! ## Items and their rows -/

/-- The item has the identity of the row. -/
def Addresses (e : Entity) (doc : Fields Json) (row : Row) : Prop :=
  row.get? e.idField = some (valueOf doc e.idField)

/-- The item has a document for a field of its row that is neither the identity
nor locked. -/
def Sets (b : Batch) (e : Entity) (row : Row) (doc : Fields Json) (f : String) (j : Json) : Prop :=
  doc.get? f = some j ∧ f ≠ e.idField ∧
    f ∉ lockedFields e (Row.toJson (Tables.bareColumns row)) b.overrideLocked

/-- The record of a row with the fields of its item. -/
def patched (b : Batch) (e : Entity) (row : Row) (doc : Fields Json) : Record :=
  patch e b.overrideLocked (Row.toJson (Tables.bareColumns row)) doc
    (doc.keys.filter fun f => f != e.idField)

theorem get?_patched (hnames : b.NamesFields) (hdoc : doc ∈ b.items) :
    (b.patched entity row doc).fields.get? f =
      if (f ∈ doc.keys ∧ f ≠ entity.idField) ∧
          f ∉ lockedFields entity (Row.toJson (Tables.bareColumns row)) b.overrideLocked then
        (doc.get? f).or ((Row.toJson (Tables.bareColumns row)).get? f)
      else (Row.toJson (Tables.bareColumns row)).get? f := by
  have hfields : ∀ g ∈ doc.keys.filter fun g => g != entity.idField, IsName g := fun g hg =>
    hnames g (Fields.mem_allKeys.mpr ⟨doc, hdoc, (List.mem_filter.mp hg).1⟩)
  rw [patched, get?_patch hfields]
  simp only [List.mem_filter, bne_iff_ne]

theorem clean_patched : (b.patched entity row doc).clean = Row.toJson (Tables.bareColumns row) :=
  clean_patch _

theorem isKept_of_not_sets (hnames : b.NamesFields) (hdoc : doc ∈ b.items) (hsound : SoundRow row)
    (h : ∀ j, ¬ b.Sets entity row doc f j) : (b.patched entity row doc).isKept f = true := by
  refine Record.isKept_of_get?_eq ?_ fun j hj => isSound_record hsound (clean_patched ▸ hj)
  rw [get?_patched hnames hdoc, clean_patched, if_neg]
  rintro ⟨⟨hmem, hid⟩, hunlocked⟩
  obtain ⟨j, hj⟩ := Option.isSome_iff_exists.mp (Fields.contains_iff.mpr hmem)
  exact h j ⟨hj, hid, hunlocked⟩

theorem get?_patched_of_sets {j : Json} (hnames : b.NamesFields) (hdoc : doc ∈ b.items)
    (h : b.Sets entity row doc f j) : (b.patched entity row doc).fields.get? f = some j := by
  obtain ⟨hj, hid, hunlocked⟩ := h
  have hmem : f ∈ doc.keys := Fields.contains_iff.mp (by rw [Fields.contains, hj]; rfl)
  rw [get?_patched hnames hdoc, if_pos ⟨⟨hmem, hid⟩, hunlocked⟩, hj, Option.some_or]

/-- A field that is set is kept where the row has the same document. -/
theorem isKept_of_sets {j : Json} (hnames : b.NamesFields) (hdoc : doc ∈ b.items)
    (h : b.Sets entity row doc f j) :
    (b.patched entity row doc).isKept f = (row.get? f).any fun w => j == w.toJson := by
  have hname : IsName f :=
    hnames f (Fields.mem_allKeys.mpr ⟨doc, hdoc, Fields.contains_iff.mp
      (by rw [Fields.contains, h.1]; rfl)⟩)
  rw [Record.isKept, get?_patched_of_sets hnames hdoc h, clean_patched,
    Relational.get?_record hname]
  cases Fields.get? row f <;> rfl

/-- A batch goes by whole numbers. The rows of its table have different ones as
primary keys, which are the identities of the entity, and so do its items. The
names of fields are no paths, and all values can be written down. -/
structure ByNumbers (b : Batch) (e : Entity) (t : Tables.Table) : Prop where
  primary : t.shape.primaryKey = e.idField
  rows : Tables.Keyed t.shape .integer t.rows
  items : ∀ doc ∈ b.items, Kind.integer.Has (valueOf doc e.idField)
  different : b.items.Pairwise fun doc other => valueOf doc e.idField ≠ valueOf other e.idField
  names : b.NamesFields
  soundRows : ∀ row ∈ t.rows, SoundRow row
  soundItems : ∀ doc ∈ b.items, ∀ p ∈ doc, p.2.isSound = true

/-- The statement for an item, if it changes something. -/
def statementFor? (b : Batch) (e : Entity) (settings : Settings) (columns : Columns)
    (existing : Fields (Fields Json)) (doc : Fields Json) : Option Sql.Update :=
  (b.change? e existing doc (valueOf doc e.idField)).map fun c =>
    updateOf e settings columns (c.id, c.delta)

theorem statements_eq (existing : Fields (Fields Json)) :
    (b.changes entity existing (b.identitiesOf entity)).map
        (fun c => updateOf entity settings columns (c.id, c.delta)) =
      b.items.filterMap (b.statementFor? entity settings columns existing) := by
  rw [changes, identitiesOf, zip_map_self, List.filterMap_map, List.map_filterMap]
  rfl

/-- What is made of a row by the statement for an item. -/
def revisedFor (b : Batch) (e : Entity) (settings : Settings) (columns : Columns)
    (existing : Fields (Fields Json)) (row : Row) (doc : Fields Json) : Row :=
  ((b.statementFor? e settings columns existing doc).map (Tables.revised · row)).getD row

/-- What is left in the place of a row by the statements for all items. -/
def leftOf (b : Batch) (e : Entity) (settings : Settings) (columns : Columns)
    (existing : Fields (Fields Json)) (row : Row) : Row :=
  Tables.revisedBy (b.items.filterMap (b.statementFor? e settings columns existing)) row

namespace ByNumbers

variable (h : ByNumbers b entity t)

include h

theorem has_of_mem (hrow : row ∈ t.rows) :
    ∃ v, row.get? entity.idField = some v ∧ Kind.integer.Has v :=
  h.primary ▸ h.rows.has row hrow

theorem name (hpresent : b.HasKeys entity.idField) (hitems : b.items ≠ []) :
    IsName entity.idField := by
  obtain ⟨doc, hdoc⟩ := List.exists_mem_of_ne_nil _ hitems
  obtain ⟨j, hj, -⟩ := hpresent doc hdoc
  exact h.names _ (Fields.mem_allKeys.mpr ⟨doc, hdoc, Fields.contains_iff.mp
    (by rw [Fields.contains, hj]; rfl)⟩)

theorem eq_of_addresses {r : Row} (hrow : row ∈ t.rows) (hr : r ∈ t.rows)
    (haddresses : Addresses entity doc row) (hother : Addresses entity doc r) : r = row := by
  obtain ⟨i, hi⟩ := List.mem_iff_getElem?.mp hrow
  obtain ⟨j, hj⟩ := List.mem_iff_getElem?.mp hr
  have hkeys : row.get? t.shape.primaryKey = r.get? t.shape.primaryKey := by
    rw [h.primary]
    exact Eq.trans haddresses hother.symm
  obtain rfl := h.rows.same_place hi hj hkeys
  exact Option.some.inj (hj.symm.trans hi)

/-- The record that an item meets is that of the row that it addresses. -/
theorem exists_row (hname : IsName entity.idField) (hdoc : doc ∈ b.items)
    (hfound : (b.storedRecords entity columns t).contains (valueOf doc entity.idField).key = true) :
    ∃ row ∈ t.rows, Addresses entity doc row ∧
      (b.storedRecords entity columns t).get? (valueOf doc entity.idField).key =
        some (Row.toJson (Tables.bareColumns row)) ∧
      hasOneOf columns entity.idField (b.identitiesOf entity) row = true := by
  obtain ⟨stored, hstored⟩ := Option.isSome_iff_exists.mp hfound
  obtain ⟨row, hrow, rfl, hkey, hone⟩ := indexed_eq_of_kind hname
    (fun _ hr _ => h.has_of_mem hr) (h.items doc hdoc) hstored
  exact ⟨row, hrow, hkey, hstored, hone⟩

theorem stored_eq (hname : IsName entity.idField) (hdoc : doc ∈ b.items) (hrow : row ∈ t.rows)
    (haddresses : Addresses entity doc row)
    (hfound : (b.storedRecords entity columns t).contains (valueOf doc entity.idField).key = true) :
    (b.storedRecords entity columns t).get? (valueOf doc entity.idField).key =
      some (Row.toJson (Tables.bareColumns row)) := by
  obtain ⟨r, hr, hother, hstored, -⟩ := h.exists_row hname hdoc hfound
  rw [hstored, h.eq_of_addresses hrow hr haddresses hother]

/-- A statement is for the row that its item addresses. -/
theorem holds_iff {existing : Fields (Fields Json)} {u : Sql.Update} (hdoc : doc ∈ b.items)
    (hu : b.statementFor? entity settings columns existing doc = some u) {v : Value}
    (hv : row.get? entity.idField = some v) (hhas : Kind.integer.Has v) :
    u.predicate.holds row = true ↔ Addresses entity doc row := by
  obtain ⟨c, hc, rfl⟩ := Option.map_eq_some_iff.mp hu
  have hid : c.id = valueOf doc entity.idField := by
    obtain ⟨stored, -, hc⟩ := Option.bind_eq_some_iff.mp hc
    dsimp only at hc
    split at hc
    · cases hc
      rfl
    · cases hc
  have hholds : (updateOf entity settings columns (c.id, c.delta)).predicate.holds row =
      (row.get? entity.idField).any fun w => Value.agrees w c.id := rfl
  rw [hholds, hv, Option.any_some, hid, hhas.agrees_iff (h.items doc hdoc), Addresses, hv,
    Option.some.injEq]

/-- A row that no item addresses stays as it is. -/
theorem leftOf_of_no_item {existing : Fields (Fields Json)} (hrow : row ∈ t.rows)
    (hnone : ∀ doc ∈ b.items, ¬ Addresses entity doc row) :
    b.leftOf entity settings columns existing row = row := by
  obtain ⟨v, hv, hhas⟩ := h.has_of_mem hrow
  refine Tables.revisedBy_of_unmet fun u hu => ?_
  obtain ⟨doc, hdoc, hstatement⟩ := List.mem_filterMap.mp hu
  rw [← Bool.not_eq_true, h.holds_iff hdoc hstatement hv hhas]
  exact hnone doc hdoc

-- Statements for other items find neither the row nor what the statement for its
-- own item has made of it, which has the same identity.
theorem leftOf_of_item {existing : Fields (Fields Json)} (hrow : row ∈ t.rows)
    (hdoc : doc ∈ b.items) (haddresses : Addresses entity doc row)
    (hkept : (b.revisedFor entity settings columns existing row doc).get? entity.idField =
      row.get? entity.idField) :
    b.leftOf entity settings columns existing row =
      b.revisedFor entity settings columns existing row doc := by
  obtain ⟨v, hv, hhas⟩ := h.has_of_mem hrow
  have hunmet : ∀ items : List (Fields Json), (∀ d ∈ items, d ∈ b.items) →
      (∀ d ∈ items, valueOf doc entity.idField ≠ valueOf d entity.idField) → ∀ r : Row,
        r.get? entity.idField = row.get? entity.idField →
          Tables.revisedBy (items.filterMap (b.statementFor? entity settings columns existing)) r =
            r := by
    intro items hitems hothers r hr
    refine Tables.revisedBy_of_unmet fun u hu => ?_
    obtain ⟨d, hd, hstatement⟩ := List.mem_filterMap.mp hu
    rw [← Bool.not_eq_true, h.holds_iff (hitems d hd) hstatement (hr.trans hv) hhas]
    intro hother
    exact hothers d hd (Option.some.inj (haddresses.symm.trans (hr.symm.trans hother)))
  obtain ⟨before, after, hsplit⟩ := List.append_of_mem hdoc
  have hdifferent := h.different
  rw [hsplit, List.pairwise_append, List.pairwise_cons] at hdifferent
  obtain ⟨-, ⟨hafter, -⟩, hbefore⟩ := hdifferent
  rw [leftOf, hsplit, List.filterMap_append, Tables.revisedBy, List.foldl_append]
  have hfirst : (before.filterMap (b.statementFor? entity settings columns existing)).foldl
      (fun r u => Tables.revised u r) row = row :=
    hunmet before (fun d hd => hsplit ▸ List.mem_append_left _ hd)
      (fun d hd heq => hbefore d hd doc List.mem_cons_self heq.symm) row rfl
  have hlast : ∀ r : Row, r.get? entity.idField = row.get? entity.idField → _ :=
    hunmet after (fun d hd => hsplit ▸ List.mem_append_right _ (List.mem_cons_of_mem doc hd)) hafter
  rw [hfirst, List.filterMap_cons]
  unfold revisedFor at hkept ⊢
  cases hstatement : b.statementFor? entity settings columns existing doc with
  | none => exact hlast row rfl
  | some u =>
    rw [hstatement] at hkept
    exact hlast (Tables.revised u row) hkept

/-- A field of a row that the statement for its item is sent for is kept, or is
assigned what the record has there. -/
theorem get?_revisedFor {existing : Fields (Fields Json)} (hdoc : doc ∈ b.items)
    (hrow : row ∈ t.rows) (haddresses : Addresses entity doc row)
    (hstored : existing.get? (valueOf doc entity.idField).key =
      some (Row.toJson (Tables.bareColumns row))) (f : String) :
    (b.revisedFor entity settings columns existing row doc).get? f =
      if (b.patched entity row doc).isKept f then row.get? f
      else Tables.assigned (row.get? f) (((inMemory entity settings).scope columns).bind f
        (some (Json.ofOption ((b.patched entity row doc).fields.get? f)))) := by
  have hchange : b.change? entity existing doc (valueOf doc entity.idField) =
      if (b.patched entity row doc).hasChanged then
        some ⟨valueOf doc entity.idField, b.patched entity row doc⟩ else none := by
    rw [change?, hstored]
    rfl
  rw [revisedFor]
  cases hchanged : (b.patched entity row doc).hasChanged with
  | false =>
    rw [statementFor?, hchange, hchanged, if_pos (Record.isKept_of_not_hasChanged hchanged f)]
    rfl
  | true =>
    let c : Change := ⟨valueOf doc entity.idField, b.patched entity row doc⟩
    have hstatement : b.statementFor? entity settings columns existing doc =
        some (updateOf entity settings columns (c.id, c.delta)) := by
      rw [statementFor?, hchange, hchanged]
      rfl
    obtain ⟨v, hv, hhas⟩ := h.has_of_mem hrow
    have hrevised : Tables.revised (updateOf entity settings columns (c.id, c.delta)) row =
        (Tables.assignAll row (updateOf entity settings columns (c.id, c.delta)).assignments).1 :=
      if_pos ((h.holds_iff hdoc hstatement hv hhas).mpr haddresses)
    have hkeys : Fields.keys (updateOf entity settings columns (c.id, c.delta)).assignments =
        c.delta.keys := List.map_map ..
    rw [hstatement, Option.map_some, Option.getD_some, hrevised,
      Tables.get?_assignAll (hkeys ▸ nodup_delta c)]
    have hassigned : Fields.get? (updateOf entity settings columns (c.id, c.delta)).assignments f =
        (c.delta.get? f).map fun j =>
          ((inMemory entity settings).scope columns).bind f (some j) :=
      Fields.get?_map (fun g j => ((inMemory entity settings).scope columns).bind g (some j)) ..
    rw [hassigned, get?_delta]
    cases (b.patched entity row doc).isKept f <;> rfl

variable (hu : Updated b entity settings columns t next)

include hu

/-- What an update leaves in the place of a row that an item addresses. -/
theorem get?_leftOf (hdoc : doc ∈ b.items) (hrow : row ∈ t.rows)
    (haddresses : Addresses entity doc row) (f : String) :
    (b.leftOf entity settings columns (b.storedRecords entity columns t) row).get? f =
      if (b.patched entity row doc).isKept f then row.get? f
      else Tables.assigned (row.get? f) (((inMemory entity settings).scope columns).bind f
        (some (Json.ofOption ((b.patched entity row doc).fields.get? f)))) := by
  have hname := h.name hu.present hu.filled
  have hstored := h.stored_eq hname hdoc hrow haddresses (hu.found doc hdoc)
  rw [h.leftOf_of_item hrow hdoc haddresses]
  · exact h.get?_revisedFor hdoc hrow haddresses hstored f
  · rw [h.get?_revisedFor hdoc hrow haddresses hstored, if_pos]
    exact isKept_of_not_sets h.names hdoc (h.soundRows row hrow) fun j hsets => hsets.2.1 rfl

omit h in
theorem eq_of_updated : next = { t with
    rows := t.rows.map (b.leftOf entity settings columns (b.storedRecords entity columns t)) } := by
  have hwritten := hu.written
  rw [statements_eq] at hwritten
  exact Tables.eq_of_updateAll hwritten

theorem get?_of_not_sets (hdoc : doc ∈ b.items) (hrow : row ∈ t.rows)
    (haddresses : Addresses entity doc row) (hfree : ∀ j, ¬ b.Sets entity row doc f j) :
    (b.leftOf entity settings columns (b.storedRecords entity columns t) row).get? f =
      row.get? f := by
  rw [h.get?_leftOf hu hdoc hrow haddresses, if_pos]
  exact isKept_of_not_sets h.names hdoc (h.soundRows row hrow) hfree

theorem get?_of_sets {j : Json} (hdoc : doc ∈ b.items) (hrow : row ∈ t.rows)
    (haddresses : Addresses entity doc row) (hsets : b.Sets entity row doc f j) :
    (b.leftOf entity settings columns (b.storedRecords entity columns t) row).get? f =
      if ((row.get? f).any fun w => j == w.toJson) = true then row.get? f
      else Tables.assigned (row.get? f)
        (((inMemory entity settings).scope columns).bind f (some j)) := by
  rw [h.get?_leftOf hu hdoc hrow haddresses, isKept_of_sets h.names hdoc hsets,
    get?_patched_of_sets h.names hdoc hsets]
  rfl

end ByNumbers

/-! ## What is left under a field -/

/-- Two documents are read as equal values or are written in the same way, or they
are equal where a zero of either sign equals the other one. -/
def Alike (i j : Json) : Prop :=
  (Value.ofJson i == Value.ofJson j) = true ∨ i.compact = j.compact ∨ (j == i) = true

theorem alike_of_bind {s : Plan.Scope} {v : Value} {j : Json} (hj : j.isSound = true)
    (h : (v == s.bind f (some j)) = true) : Alike v.toJson j := by
  cases hnull : j.isNull with
  | true =>
    have hread : Value.ofJson j = .null := Value.isNull_iff.mp ((Value.isNull_ofJson j).trans hnull)
    rw [Plan.Scope.bind_of_isNull hnull] at h
    obtain rfl : v = .null := Value.isNull_iff.mp (Value.isNull_of_beq h)
    rw [Alike, hread]
    exact .inl h
  | false =>
    rw [Plan.Scope.bind_some hnull] at h
    split at h
    · cases v with
      | json doc => exact .inr (.inl (Value.eq_of_isEq_compare h))
      | _ => cases h
    · exact (Value.ofJson_toJson_of_beq hj h).imp_right .inl

/-- A value that was assigned to a column is alike what it was assigned. -/
theorem exists_alike {s : Plan.Scope} {old : Option Value} {j : Json} (hj : j.isSound = true) :
    ∃ v, (if (old.any fun w => j == w.toJson) = true then old
      else Tables.assigned old (s.bind f (some j))) = some v ∧ Alike v.toJson j := by
  split
  · rename_i hsame
    obtain ⟨w, rfl, hw⟩ := (Option.any_eq_true ..).mp hsame
    exact ⟨w, rfl, .inr (.inr hw)⟩
  · unfold Tables.assigned
    split
    · rename_i hequal
      cases old with
      | none => cases hequal
      | some w => exact ⟨w, rfl, alike_of_bind hj hequal⟩
    · exact ⟨_, rfl, alike_of_bind hj (Value.beq_self _)⟩

/-- An update that gives records leaves every row in its place. A row that no item
addresses stays as it is. In a row of an item every field stays as it is that the
item does not set, and a field that it sets holds a value that is alike. -/
theorem an_update_writes_what_its_items_set (settings : Settings)
    {s after : Relational.State Tables.Engine} {records : List Record}
    (hfind : s.timed.state.tables.find entity.storage = .ok t) (h : ByNumbers b entity t)
    (hon : (b.update (inMemory entity settings).store).on s = (.ok records, after)) :
    ∃ next, after.timed.state.tables.find entity.storage = .ok next ∧
      next.shape = t.shape ∧ next.rows.length = t.rows.length ∧
      ∀ (i : Nat) (row : Row), t.rows[i]? = some row → ∃ later, next.rows[i]? = some later ∧
        ((∀ doc ∈ b.items, ¬ Addresses entity doc row) → later = row) ∧
        ∀ doc ∈ b.items, Addresses entity doc row → ∀ f,
          ((∀ j, ¬ b.Sets entity row doc f j) → later.get? f = row.get? f) ∧
          ∀ j, b.Sets entity row doc f j → ∃ v, later.get? f = some v ∧ Alike v.toJson j := by
  have hs : Holds False entity t (knownColumns entity t s) s.timed.state.tables s :=
    ⟨⟨rfl, False.elim⟩, hfind, rfl⟩
  obtain ⟨hitems, hpresent⟩ := filled_of_update hon
  obtain ⟨next, hu, ts, hnext⟩ :=
    (leads_updated settings b hitems (h.name hpresent hitems)).of_ok hs hon
  have hrevised := ByNumbers.eq_of_updated hu
  refine ⟨next, by rw [hnext.tables]; exact hnext.find, by rw [hrevised],
    by rw [hrevised, List.length_map], fun i row hi => ?_⟩
  have hrow := List.mem_of_getElem? hi
  refine ⟨b.leftOf entity settings _ _ row,
    by rw [hrevised, List.getElem?_map, hi]; rfl, h.leftOf_of_no_item hrow, ?_⟩
  intro doc hdoc haddresses f
  refine ⟨h.get?_of_not_sets hu hdoc hrow haddresses, fun j hsets => ?_⟩
  rw [h.get?_of_sets hu hdoc hrow haddresses hsets]
  exact exists_alike (h.soundItems doc hdoc (f, j) (Fields.mem_of_get? hsets.1))

/-- A product is sold at another price. Its name is locked, and the other product
is not in the batch. -/
theorem a_product_with_a_locked_name_is_sold_at_another_price :
    let entity : Entity := { name := "product", storage := "products", lockedField := some "locks" }
    let b : Batch := { items := [[("id", .int 1), ("name", .str "Ash"), ("price", .int 20)]] }
    let t : Tables.Table := {
      shape := .make "products" "id" [("locks", .json), ("name", .text), ("price", .integer)] []
      rows := [[("id", .int 1), ("locks", .json (.arr [.str "name"])), ("name", .text "Oak"),
          ("price", .int 10)],
        [("id", .int 2), ("locks", .null), ("name", .text "Elm"), ("price", .int 30)]] }
    let s : Relational.State Tables.Engine := .initial {} { tables := [("products", t)] }
    ∃ records after, (b.update (inMemory entity {}).store).on s = (.ok records, after) ∧
      ∃ next, after.timed.state.tables.find "products" = .ok next ∧ next.rows.length = 2 ∧
        next.rows[1]? = t.rows[1]? ∧ ∃ later, next.rows[0]? = some later ∧
          later.get? "name" = some (.text "Oak") ∧
          ∃ v, later.get? "price" = some v ∧ Alike v.toJson (.int 20) := by
  intro entity b t s
  have h : ByNumbers b entity t := {
    primary := rfl
    rows := Tables.keyed_of_ints [1, 2] rfl (by decide) (by decide)
    items := by decide
    different := List.pairwise_singleton ..
    names := show ∀ f ∈ Fields.allKeys b.items, IsName f by decide
    soundRows := show ∀ row ∈ t.rows, ∀ p ∈ row, p.2.toJson.isSound = true by decide
    soundItems := by decide }
  have hok : ((b.update (inMemory entity {}).store).on s).1.isOk = true := by decide +kernel
  obtain ⟨records, after, hon⟩ := Call.exists_of_isOk hok
  obtain ⟨next, hnext, -, hlength, hrows⟩ :=
    an_update_writes_what_its_items_set {} (show s.timed.state.tables.find _ = .ok t from rfl) h hon
  obtain ⟨later, hlater, -, hfields⟩ := hrows 0 _ rfl
  obtain ⟨other, hother, hsame, -⟩ := hrows 1 _ rfl
  have hitem := hfields _ (List.mem_singleton_self _) rfl
  refine ⟨records, after, hon, next, hnext, hlength, ?_, later, hlater,
    (hitem "name").1 ?_, (hitem "price").2 (.int 20) ⟨rfl, by decide, by decide⟩⟩
  · rw [hother, hsame]
    · rfl
    · rw [List.forall_mem_singleton]
      exact nofun
  · rintro j ⟨-, -, hunlocked⟩
    exact hunlocked (by decide)

/-- Zero and negative zero are equal as documents, so the one stays where an item has
the other. -/
example :
    let entity : Entity := { name := "product", storage := "products" }
    let b : Batch := { items := [[("id", .int 1), ("name", .str "Ash"), ("price", .float (-0.0))]] }
    let row (name : String) : Row := [("id", .int 1), ("name", .text name), ("price", .float 0.0)]
    let t : Tables.Table := {
      shape := .make "products" "id" [("name", .text), ("price", .float)] []
      rows := [row "Oak"] }
    let s : Relational.State Tables.Engine := .initial {} { tables := [("products", t)] }
    (((b.update (inMemory entity {}).store).on s).2.timed.state.rows "products" == [row "Ash"]) =
      true := by
  decide +kernel

end Batch

end EntityStore
