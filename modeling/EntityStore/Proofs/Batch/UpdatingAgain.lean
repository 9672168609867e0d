-- Updates that are run again. The second run meets the rows that the first one has
-- left. Where an item's fields read there as the item has them, and stay locked where
-- they were, nothing changes: the run fails for that, and asks for reads alone. A row
-- that has 1 where the item has 1.0 reads as 1 each time.
import EntityStore.Proofs.Batch.Updating
import EntityStore.Proofs.Store.Faults

namespace EntityStore

/-! ## Documents of what is bound -/

theorem Value.isSound_toJson_ofJson {j : Json} (hj : j.isSound = true) :
    (Value.ofJson j).toJson.isSound = true := by
  have hfloat : ∀ x : Float, x.isFinite = true → (Value.float x).toJson.isSound = true := by
    intro x hx
    rw [Value.toJson, if_pos hx]
    exact hx
  cases j with
  | int n =>
    rw [Value.ofJson]
    split
    · exact hj
    · exact hfloat _ hj
  | float x => exact hfloat x hj
  | _ => exact hj

theorem Plan.Scope.isSound_bind {s : Plan.Scope} {j : Json} (hj : j.isSound = true) (c : String) :
    (s.bind c (some j)).toJson.isSound = true := by
  cases hnull : j.isNull with
  | true =>
    rw [bind_of_isNull hnull]
    rfl
  | false =>
    rw [bind_some hnull]
    split
    · exact hj
    · exact Value.isSound_toJson_ofJson hj

theorem Json.texts_of_sameItems {is js : List Json} (h : Json.sameItems is js = true) :
    is.filterMap Json.text? = js.filterMap Json.text? := by
  induction is generalizing js with
  | nil =>
    cases js with
    | nil => rfl
    | cons j js => cases h
  | cons i is ih =>
    cases js with
    | nil => cases h
    | cons j js =>
      rw [Json.sameItems, Bool.and_eq_true] at h
      have htext : i.text? = j.text? := by
        cases i <;> cases j <;> first
          | rfl
          | cases h.1
          | exact congrArg some (eq_of_beq h.1)
      rw [List.filterMap_cons, List.filterMap_cons, htext, ih h.2]

/-- The same documents list the same fields as locked. -/
theorem Batch.lockedBy_of_beq {i j : Json} (h : (i == j) = true) :
    lockedBy (some i) = lockedBy (some j) := by
  cases i <;> cases j <;> first
    | rfl
    | cases h
    | exact congrArg (fun s => lockedBy (some (.str s))) (eq_of_beq h)
    | exact Json.texts_of_sameItems h

namespace Kind

variable {k : Kind} {v w : Value}

theorem Allows.eq_of_beq (hv : k.Allows v) (hw : k.Allows w) (h : (v == w) = true) : v = w := by
  have hnull := Value.isNull_of_beq h
  rcases hv with rfl | hv
  · exact (Value.isNull_iff.mp hnull.symm).symm
  · rcases hw with rfl | hw
    · exact Value.isNull_iff.mp hnull
    · exact (hv.beq_iff hw).mp h

/-- A document of the kind is what its value is written as. -/
theorem Allows.beq_toJson_ofJson {j : Json} (h : k.Allows (.ofJson j)) :
    (j == (Value.ofJson j).toJson) = true := by
  cases j with
  | int n =>
    rw [Value.ofJson] at h ⊢
    split
    · exact beq_self_eq_true n
    · rename_i hlarge
      rw [if_neg hlarge] at h
      exact absurd h (k.not_allows_float _)
  | float x => exact absurd h (k.not_allows_float x)
  | arr items => exact absurd h (k.not_allows_json _)
  | obj members => exact absurd h (k.not_allows_json _)
  | null => rfl
  | bool b => exact beq_self_eq_true b
  | str s => exact beq_self_eq_true s

end Kind

namespace Batch

open Call (Ends Leads Keeps)
open Flat (IsName)
open Relational (inMemory Holds Left recordsWith hasOneOf knownColumns)

variable {entity : Entity} {settings : Settings} {t next : Tables.Table} {columns : Columns}
  {ts : Tables} {b : Batch} {doc : Fields Json} {row : Row} {f : String}

/-! ## Any store -/

/-- An update whose items change nothing of their stored records ends with the
error for that. -/
theorem ends_update_unchanged {σ : Type} {st : Store σ} {P₀ P : σ → Prop}
    {R : List (Fields Json) → Prop} (hitems : b.items ≠ []) (hpresent : b.HasKeys st.entity.idField)
    (hknown : Ends P₀ (b.known st) (fun rows s => R rows ∧ P s) fun _ _ => False)
    (hchecked : ∀ rows, R rows → checkKnown st.entity (b.items.map (valueOf · st.entity.idField))
      (indexBy st.entity.idField rows) = .ok ())
    (hunchanged : ∀ rows, R rows → b.changesOf st.entity rows = []) :
    Ends P₀ (b.update st) (fun _ _ => False)
      (fun e s => e = .noChanges st.entity.name ∧ P s) := by
  unfold update
  refine Call.ends_lift_bind (fun e he => absurd (items_eq_nil he) hitems) fun _ _ =>
    Call.ends_lift_bind (fun e he => absurd hpresent (not_hasKeys he)) fun keys hkeys => ?_
  have ⟨hvalues, _⟩ : keys = b.items.map (valueOf · st.entity.idField) ∧ _ := keys_eq_ok hkeys
  subst hvalues
  refine (hknown.weaken (fun _ _ h => h) fun _ _ h => h.elim).bind fun rows => ?_
  rintro s ⟨hrows, hs⟩
  have hnone : b.changes st.entity (indexBy st.entity.idField rows)
      (b.items.map (valueOf · st.entity.idField)) = [] := hunchanged rows hrows
  dsimp only
  rw [hchecked rows hrows, hnone]
  exact ⟨rfl, hs⟩

/-! ## The rows that are left -/

theorem ordered_record (h : Fields.Ordered row) :
    Fields.Ordered (Row.toJson (Tables.bareColumns row)) :=
  Fields.Ordered.map (h.filter _) fun _ v => v.toJson

theorem ordered_patched (h : Fields.Ordered row) : (b.patched entity row doc).fields.Ordered :=
  ordered_patch (ordered_record h) _

theorem ordered_leftOf {existing : Fields (Fields Json)} (h : Fields.Ordered row) :
    Fields.Ordered (b.leftOf entity settings columns existing row) :=
  Tables.ordered_revisedBy h _

/-- Values that count as equal to the one that a document is bound to are the document
itself: the row's own value, if it is one of them, and the bound value. -/
def Tells (s : Plan.Scope) (old : Option Value) (f : String) (j : Json) : Prop :=
  ∀ w, old = some w ∨ w = s.bind f (some j) → (w == s.bind f (some j)) = true →
    (j == w.toJson) = true

/-- Among values of one kind all can be told. -/
theorem tells_of_kind {k : Kind} {s : Plan.Scope} {old : Option Value} {j : Json}
    (hscalar : s.columns.isJson f = false) (hold : ∀ w, old = some w → k.Allows w)
    (hj : k.Allows (.ofJson j)) : Tells s old f j := by
  have hbind : s.bind f (some j) = .ofJson j := by
    cases hnull : j.isNull with
    | true =>
      rw [Plan.Scope.bind_of_isNull hnull]
      exact (Value.isNull_iff.mp ((Value.isNull_ofJson j).trans hnull)).symm
    | false => rw [Plan.Scope.bind_some hnull, hscalar, if_neg Bool.false_ne_true]
  intro w hw hequal
  rw [hbind] at hw hequal
  obtain rfl : w = .ofJson j := by
    rcases hw with hw | hw
    · exact (hold w hw).eq_of_beq hj hequal
    · exact hw
  exact hj.beq_toJson_ofJson

/-- What a field holds after it was set reads as the document that it was set to. -/
theorem Tells.any_left {s : Plan.Scope} {old : Option Value} {j : Json} (h : Tells s old f j) :
    ((if (old.any fun w => j == w.toJson) = true then old
      else Tables.assigned old (s.bind f (some j))).any fun w => j == w.toJson) = true := by
  split
  · assumption
  · unfold Tables.assigned
    split
    · rename_i hequal
      cases old with
      | none => cases hequal
      | some w => exact h w (.inl rfl) hequal
    · exact h _ (.inr rfl) (Value.beq_self _)

/-- What the items set lasts. It can be told from what the rows hold, and an item that
sets the marker of locked fields lists those of its own fields there that are locked. -/
structure Lasts (b : Batch) (e : Entity) (settings : Settings) (columns : Columns)
    (t : Tables.Table) : Prop where
  tells : ∀ doc ∈ b.items, ∀ row ∈ t.rows, Addresses e doc row → ∀ f j, b.Sets e row doc f j →
    Tells ((inMemory e settings).scope columns) (row.get? f) f j
  locks : ∀ doc ∈ b.items, ∀ row ∈ t.rows, Addresses e doc row → ∀ marker j,
    e.lockedField = some marker → b.Sets e row doc marker j → ∀ f ∈ doc.keys,
      f ∈ lockedFields e (Row.toJson (Tables.bareColumns row)) b.overrideLocked →
        f ∈ lockedBy (some j)

theorem hasOneOf_congr {vs : List Value} {other : Row} (h : row.get? f = other.get? f) :
    hasOneOf columns f vs row = hasOneOf columns f vs other := by
  have hstored : (Sql.Column.plain f).stored? row = (Sql.Column.plain f).stored? other := h
  simp only [hasOneOf, Sql.Predicate.holds, Sql.Column.value?, Sql.Column.document?, hstored]

namespace ByNumbers

variable (h : ByNumbers b entity t) (hu : Updated b entity settings columns t next)

include h hu

theorem get?_id_left (hrow : row ∈ t.rows) :
    (b.leftOf entity settings columns (b.storedRecords entity columns t) row).get? entity.idField =
      row.get? entity.idField := by
  by_cases haddressed : ∃ doc ∈ b.items, Addresses entity doc row
  · obtain ⟨doc, hdoc, haddresses⟩ := haddressed
    exact h.get?_of_not_sets hu hdoc hrow haddresses fun j hsets => hsets.2.1 rfl
  · rw [h.leftOf_of_no_item hrow fun doc hdoc haddresses => haddressed ⟨doc, hdoc, haddresses⟩]

theorem addresses_left_iff (hrow : row ∈ t.rows) :
    Addresses entity doc (b.leftOf entity settings columns (b.storedRecords entity columns t) row) ↔
      Addresses entity doc row := by
  rw [Addresses, h.get?_id_left hu hrow, Addresses]

theorem sound_left (hrow : row ∈ t.rows) (hordered : Fields.Ordered row) :
    SoundRow (b.leftOf entity settings columns (b.storedRecords entity columns t) row) := by
  by_cases haddressed : ∃ doc ∈ b.items, Addresses entity doc row
  · obtain ⟨doc, hdoc, haddresses⟩ := haddressed
    rintro ⟨f, v⟩ hp
    have hsound : ∀ w, row.get? f = some w → w.toJson.isSound = true :=
      fun w hw => h.soundRows row hrow _ (Fields.mem_of_get? hw)
    have hget : (b.leftOf entity settings columns (b.storedRecords entity columns t) row).get? f =
        some v := (ordered_leftOf hordered).get?_of_mem hp
    by_cases hset : ∃ j, b.Sets entity row doc f j
    · obtain ⟨j, hsets⟩ := hset
      have hbound := Plan.Scope.isSound_bind (s := (inMemory entity settings).scope columns)
        (h.soundItems doc hdoc (f, j) (Fields.mem_of_get? hsets.1)) f
      rw [h.get?_of_sets hu hdoc hrow haddresses hsets] at hget
      unfold Tables.assigned at hget
      split at hget
      · exact hsound v hget
      · split at hget
        · exact hsound v hget
        · cases hget
          exact hbound
    · rw [h.get?_of_not_sets hu hdoc hrow haddresses fun j hsets => hset ⟨j, hsets⟩] at hget
      exact hsound v hget
  · rw [h.leftOf_of_no_item hrow fun doc hdoc haddresses => haddressed ⟨doc, hdoc, haddresses⟩]
    exact h.soundRows row hrow

/-- The batch goes by whole numbers in the second run too. -/
theorem again (hordered : ∀ row ∈ t.rows, Fields.Ordered row) : ByNumbers b entity next := by
  obtain rfl := eq_of_updated hu
  refine { h with rows := ⟨?_, ?_⟩, soundRows := ?_ }
  · rw [List.forall_mem_map]
    intro row hrow
    rw [h.primary, h.get?_id_left hu hrow]
    exact h.has_of_mem hrow
  · rw [List.pairwise_map]
    refine h.rows.distinct.imp_of_mem fun {row other} hrow hother hne => ?_
    rw [h.primary] at hne ⊢
    rw [h.get?_id_left hu hrow, h.get?_id_left hu hother]
    exact hne
  · rw [List.forall_mem_map]
    exact fun row hrow => h.sound_left hu hrow (hordered row hrow)

variable (hlasts : Lasts b entity settings columns t)

include hlasts

theorem any_left_of_sets {j : Json} (hdoc : doc ∈ b.items) (hrow : row ∈ t.rows)
    (haddresses : Addresses entity doc row) (hsets : b.Sets entity row doc f j) :
    ((b.leftOf entity settings columns (b.storedRecords entity columns t) row).get? f).any
      (fun w => j == w.toJson) = true := by
  rw [h.get?_of_sets hu hdoc hrow haddresses hsets]
  exact (hlasts.tells doc hdoc row hrow haddresses f j hsets).any_left

/-- A field of the item that the row has locked stays locked. -/
theorem locked_left (hdoc : doc ∈ b.items) (hrow : row ∈ t.rows)
    (haddresses : Addresses entity doc row) (hf : f ∈ doc.keys)
    (hlocked : f ∈ lockedFields entity (Row.toJson (Tables.bareColumns row)) b.overrideLocked) :
    f ∈ lockedFields entity (Row.toJson (Tables.bareColumns
      (b.leftOf entity settings columns (b.storedRecords entity columns t) row)))
        b.overrideLocked := by
  obtain ⟨marker, w, hmarker, hoverride, hname, hw, hlisted⟩ := mem_lockedFields_record.mp hlocked
  rw [mem_lockedFields_record]
  by_cases hset : ∃ j, b.Sets entity row doc marker j
  · obtain ⟨j, hsets⟩ := hset
    obtain ⟨v, hv, hsame⟩ := (Option.any_eq_true ..).mp
      (h.any_left_of_sets hu hlasts hdoc hrow haddresses hsets)
    refine ⟨marker, v, hmarker, hoverride, hname, hv, ?_⟩
    rw [← lockedBy_of_beq hsame]
    exact hlasts.locks doc hdoc row hrow haddresses marker j hmarker hsets f hf hlocked
  · refine ⟨marker, w, hmarker, hoverride, hname, ?_, hlisted⟩
    rw [h.get?_of_not_sets hu hdoc hrow haddresses fun j hsets => hset ⟨j, hsets⟩, hw]

theorem sets_of_sets_left {j : Json} (hdoc : doc ∈ b.items) (hrow : row ∈ t.rows)
    (haddresses : Addresses entity doc row)
    (hsets : b.Sets entity (b.leftOf entity settings columns (b.storedRecords entity columns t) row)
      doc f j) : b.Sets entity row doc f j := by
  obtain ⟨hj, hid, hunlocked⟩ := hsets
  have hmem : f ∈ doc.keys := Fields.contains_iff.mp (by rw [Fields.contains, hj]; rfl)
  exact ⟨hj, hid, fun hlocked => hunlocked (h.locked_left hu hlasts hdoc hrow haddresses hmem
    hlocked)⟩

/-- An item changes nothing of the row that was left for it. -/
theorem unchanged_left (hdoc : doc ∈ b.items) (hrow : row ∈ t.rows)
    (hordered : Fields.Ordered row) (haddresses : Addresses entity doc row) :
    (b.patched entity (b.leftOf entity settings columns (b.storedRecords entity columns t) row)
      doc).hasChanged = false := by
  have hsound := h.sound_left hu hrow hordered
  have hleft : Fields.Ordered (b.leftOf entity settings columns (b.storedRecords entity columns t)
    row) := ordered_leftOf hordered
  apply Record.hasChanged_of_isKept (ordered_patched hleft)
  · rw [clean_patched]
    exact ordered_record hleft
  · intro f
    by_cases hset : ∃ j, b.Sets entity
        (b.leftOf entity settings columns (b.storedRecords entity columns t) row) doc f j
    · obtain ⟨j, hsets⟩ := hset
      rw [isKept_of_sets h.names hdoc hsets]
      exact h.any_left_of_sets hu hlasts hdoc hrow haddresses
        (h.sets_of_sets_left hu hlasts hdoc hrow haddresses hsets)
    · exact isKept_of_not_sets h.names hdoc hsound fun j hsets => hset ⟨j, hsets⟩

/-- In the second run each item meets the record of a row that it leaves as it is. -/
theorem met_again (hordered : ∀ row ∈ t.rows, Fields.Ordered row) (hdoc : doc ∈ b.items) :
    ∃ row ∈ next.rows, (b.storedRecords entity columns next).get?
        (valueOf doc entity.idField).key = some (Row.toJson (Tables.bareColumns row)) ∧
      (b.patched entity row doc).hasChanged = false := by
  have hname := h.name hu.present hu.filled
  have hagain := h.again hu hordered
  obtain ⟨row, hrow, haddresses, -, hone⟩ := h.exists_row hname hdoc (hu.found doc hdoc)
  have hsame := h.get?_id_left hu hrow
  have hunchanged := h.unchanged_left hu hlasts hdoc hrow (hordered row hrow) haddresses
  have hnext : b.leftOf entity settings columns (b.storedRecords entity columns t) row ∈
      next.rows := by
    rw [eq_of_updated hu]
    exact List.mem_map_of_mem hrow
  have hother := (h.addresses_left_iff hu hrow).mpr haddresses
  refine ⟨_, hnext, ?_, hunchanged⟩
  exact indexed_of_row_of_kind hname (fun _ hr _ => hagain.has_of_mem hr) (h.items doc hdoc) hnext
    hother ((hasOneOf_congr hsame).trans hone)
    fun r hr hkey => hagain.eq_of_addresses hnext hr hother hkey

theorem changesOf_again (hordered : ∀ row ∈ t.rows, Fields.Ordered row) :
    b.changesOf entity (recordsWith columns next entity.idField (b.identitiesOf entity)) = [] := by
  rw [changesOf, changes, zip_map_self, List.filterMap_map, List.filterMap_eq_nil_iff]
  intro doc hdoc
  obtain ⟨row, -, hstored, hunchanged⟩ := h.met_again hu hlasts hordered hdoc
  have hmet : (indexBy entity.idField (recordsWith columns next entity.idField
      (b.identitiesOf entity))).get? (valueOf doc entity.idField).key = some _ := hstored
  show b.change? entity _ doc (valueOf doc entity.idField) = none
  rw [change?, hmet]
  exact if_neg (by rw [← Bool.not_eq_true] at hunchanged; exact hunchanged)

theorem leads_updated_again (hordered : ∀ row ∈ t.rows, Fields.Ordered row)
    (log : List Tables.LogEntry) :
    Ends (fun s => Holds True entity next columns ts s ∧ s.timed.state.ReadSince log)
      (b.update (inMemory entity settings).store) (fun _ _ => False)
      (fun e s => e = .noChanges entity.name ∧ Holds True entity next columns ts s ∧
        s.timed.state.ReadSince log) := by
  have hname := h.name hu.present hu.filled
  have hfound : Leads (Holds True entity next columns ts)
      (b.known (inMemory entity settings).store) _ (fun _ => ¬ True) :=
    Relational.leads_findWith fun _ => ⟨hname, hu.column⟩
  have hreads : Keeps (fun s => s.timed.state.ReadSince log)
      (b.known (inMemory entity settings).store) :=
    Store.keeps_findWith Relational.keeps_readSince_search _ _
  have hknown : Ends _ (b.known (inMemory entity settings).store)
      (fun rows s => rows = recordsWith columns next entity.idField (b.identitiesOf entity) ∧
        Holds True entity next columns ts s ∧ s.timed.state.ReadSince log) fun _ _ => False :=
    (Ends.and hfound hreads).weaken (fun _ _ h => ⟨h.1.1, h.1.2, h.2⟩)
      fun _ _ h => h.1 trivial
  have hpresent : b.HasKeys (inMemory entity settings).store.entity.idField := hu.present
  refine ends_update_unchanged hu.filled hpresent hknown ?_ ?_
  · rintro _ rfl
    rw [checkKnown_eq_ok_iff, List.forall_mem_map]
    intro doc hdoc
    obtain ⟨row, -, hstored, -⟩ := h.met_again hu hlasts hordered hdoc
    exact Option.isSome_iff_exists.mpr ⟨_, hstored⟩
  · rintro _ rfl
    exact h.changesOf_again hu hlasts hordered

end ByNumbers

/-- An update that gave records, on an engine without faults, fails when it is run again,
since nothing changes. It leaves all tables as they are, and asks for reads alone. -/
theorem an_update_that_is_repeated_finds_nothing_to_change (settings : Settings)
    {s after : Relational.State Tables.Engine} {records : List Record}
    (hfind : s.timed.state.tables.find entity.storage = .ok t)
    (hcalm : s.timed.state.faults = []) (h : ByNumbers b entity t)
    (hordered : ∀ row ∈ t.rows, Fields.Ordered row)
    (hlasts : Lasts b entity settings (knownColumns entity t s) t)
    (hon : (b.update (inMemory entity settings).store).on s = (.ok records, after)) :
    ∃ again, (b.update (inMemory entity settings).store).on after =
        (.error (.noChanges entity.name), again) ∧
      again.timed.state.tables = after.timed.state.tables ∧
      again.timed.state.ReadSince after.timed.state.log := by
  have hs : Holds True entity t (knownColumns entity t s) s.timed.state.tables s :=
    ⟨⟨rfl, fun _ => hcalm⟩, hfind, rfl⟩
  obtain ⟨hitems, hpresent⟩ := filled_of_update hon
  obtain ⟨next, hu, ts, hafter⟩ :=
    (leads_updated settings b hitems (h.name hpresent hitems)).of_ok hs hon
  have hagain := h.leads_updated_again hu hlasts hordered after.timed.state.log after
    ⟨hafter, Tables.Engine.readSince_self _⟩
  cases hcall : (b.update (inMemory entity settings).store).on after with
  | mk r again =>
    rw [hcall] at hagain
    cases r with
    | ok _ => exact hagain.elim
    | error e =>
      obtain ⟨rfl, hholds, hreads⟩ := hagain
      exact ⟨again, rfl, hholds.tables.trans hafter.tables.symm, hreads⟩

/-- A product is sold at another price, and its name is locked. -/
theorem a_price_is_set_once :
    let entity : Entity := { name := "product", storage := "products", lockedField := some "locks" }
    let b : Batch := { items := [[("id", .int 1), ("name", .str "Ash"), ("price", .int 20)]] }
    let t : Tables.Table := {
      shape := .make "products" "id" [("locks", .json), ("name", .text), ("price", .integer)] []
      rows := [[("id", .int 1), ("locks", .json (.arr [.str "name"])), ("name", .text "Oak"),
        ("price", .int 10)]] }
    let s : Relational.State Tables.Engine := .initial {} { tables := [("products", t)] }
    ∃ records after, (b.update (inMemory entity {}).store).on s = (.ok records, after) ∧
      ∃ again, (b.update (inMemory entity {}).store).on after =
          (.error (.noChanges "product"), again) ∧
        again.timed.state.tables = after.timed.state.tables ∧
        again.timed.state.ReadSince after.timed.state.log := by
  intro entity b t s
  have h : ByNumbers b entity t := {
    primary := rfl
    rows := Tables.keyed_of_ints [1] rfl (by decide) (by decide)
    items := by decide
    different := List.pairwise_singleton ..
    names := show ∀ f ∈ Fields.allKeys b.items, IsName f by decide
    soundRows := show ∀ row ∈ t.rows, ∀ p ∈ row, p.2.toJson.isSound = true by decide
    soundItems := by decide }
  have hlasts : Lasts b entity {} (knownColumns entity t s) t := {
    tells := by
      rintro doc hdoc row hrow - f j ⟨hj, hid, hunlocked⟩
      rw [List.mem_singleton] at hdoc hrow
      subst hdoc hrow
      have hmem := Fields.mem_of_get? hj
      simp only [List.mem_cons, Prod.mk.injEq, List.not_mem_nil, or_false] at hmem
      obtain ⟨rfl, rfl⟩ | ⟨rfl, rfl⟩ | ⟨rfl, rfl⟩ := hmem
      · exact absurd rfl hid
      · exact absurd (by decide) hunlocked
      · refine tells_of_kind (k := .integer) (by decide) (fun w hw => ?_) (by decide)
        cases hw
        decide
    locks := by
      rintro doc hdoc row - - marker j hmarker ⟨hj, -⟩
      rw [List.mem_singleton] at hdoc
      subst hdoc
      cases hmarker
      cases hj }
  have hok : ((b.update (inMemory entity {}).store).on s).1.isOk = true := by decide +kernel
  obtain ⟨records, after, hon⟩ := Call.exists_of_isOk hok
  exact ⟨records, after, hon, an_update_that_is_repeated_finds_nothing_to_change {}
    (show s.timed.state.tables.find _ = .ok t from rfl) rfl h
    (show ∀ row ∈ t.rows, Fields.Ordered row by decide) hlasts hon⟩

/-- An item that takes a name off the locked ones does not change it yet. The second
run does. -/
theorem a_name_that_was_unlocked_is_changed_by_the_second_run :
    let entity : Entity := { name := "product", storage := "products", lockedField := some "locks" }
    let b : Batch := { items := [[("id", .int 1), ("locks", .null), ("name", .str "Ash")]] }
    let t : Tables.Table := {
      shape := .make "products" "id" [("locks", .json), ("name", .text)] []
      rows := [[("id", .int 1), ("locks", .json (.arr [.str "name"])), ("name", .text "Oak")]] }
    let s : Relational.State Tables.Engine := .initial {} { tables := [("products", t)] }
    let first := (b.update (inMemory entity {}).store).on s
    ByNumbers b entity t ∧ (∀ doc ∈ b.items, ∀ p ∈ doc, p.2.isScalar = true) ∧
      s.timed.state.faults = [] ∧ first.1.isOk = true ∧
      ((b.update (inMemory entity {}).store).on first.2).1.isOk = true := by
  intro entity b t s first
  have h : ByNumbers b entity t := {
    primary := rfl
    rows := Tables.keyed_of_ints [1] rfl (by decide) (by decide)
    items := by decide
    different := List.pairwise_singleton ..
    names := show ∀ f ∈ Fields.allKeys b.items, IsName f by decide
    soundRows := show ∀ row ∈ t.rows, ∀ p ∈ row, p.2.toJson.isSound = true by decide
    soundItems := by decide }
  exact ⟨h, by decide, rfl, by decide +kernel, by decide +kernel⟩

/-- A price of 1 counts as equal to one of 1.0 in a row, and not as a document. So each run
sends a statement, which leaves the row as it is. -/
example :
    let entity : Entity := { name := "product", storage := "products" }
    let b : Batch := { items := [[("id", .int 1), ("price", .float 1.0)]] }
    let row : Row := [("id", .int 1), ("price", .int 1)]
    let t : Tables.Table := { shape := .make "products" "id" [("price", .float)] [], rows := [row] }
    let s : Relational.State Tables.Engine := .initial {} { tables := [("products", t)] }
    let first := (b.update (inMemory entity {}).store).on s
    let second := (b.update (inMemory entity {}).store).on first.2
    first.1.isOk = true ∧ second.1.isOk = true ∧
      (second.2.timed.state.rows "products" == [row]) = true := by
  decide +kernel

end Batch

end EntityStore
