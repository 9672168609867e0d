-- The identities that a table gives to items which come without one. They are
-- read again by the text of another field, so of several items that have the
-- same text there all are given the identity of the last one.
import EntityStore.Proofs.Batch.Creating
import EntityStore.Proofs.Batch.Checking
import Mathlib.Data.Nat.Find

namespace EntityStore

open Flat (IsName)
open Relational (inMemory Holds knownColumns Plain SoundFields Stores carried? confirmationKey
  identities incoming insertOf itemReport recordsWith reportOf)

theorem forall₂_mapIdx {α β : Type} {R : α → β → Prop} {f : Nat → α → β} {as : List α}
    (h : ∀ i a, as[i]? = some a → R a (f i a)) : List.Forall₂ R as (as.mapIdx f) := by
  induction as generalizing f with
  | nil => exact .nil
  | cons a as ih =>
    rw [List.mapIdx_cons]
    exact .cons (h 0 a rfl) (ih fun i c hc => h (i + 1) c hc)

/-! ## Numbered rows -/

namespace Relational

variable {entity : Entity} {settings : Settings} {t : Tables.Table} {columns : Columns}
  {docs : List (Fields Json)} {doc : Fields Json}

/-- The row of the item at a place, numbered from the next number of the
table. -/
def numberedRow (entity : Entity) (settings : Settings) (columns : Columns) (t : Tables.Table)
    (docs : List (Fields Json)) (i : Nat) (doc : Fields Json) : Row :=
  (Tables.assignId t.shape (incoming entity settings columns t.shape docs doc) (t.nextId + i)).1

/-- The table with the items behind its rows, numbered in their order. -/
def withNumbered (entity : Entity) (settings : Settings) (columns : Columns) (t : Tables.Table)
    (docs : List (Fields Json)) : Tables.Table :=
  { t with
    rows := t.rows ++ docs.mapIdx (numberedRow entity settings columns t docs)
    nextId := t.nextId + docs.length }

theorem isNull_incoming (hdoc : doc ∈ docs)
    (hcolumns : ∀ c ∈ Fields.allKeys docs, Fields.contains t.shape.columns c = true)
    (hwithout : Json.present? doc t.shape.primaryKey = none) :
    (((incoming entity settings columns t.shape docs doc).get? t.shape.primaryKey).getD
      .null).isNull = true := by
  have hnull : (((inMemory entity settings).scope columns).bind t.shape.primaryKey
      (doc.get? t.shape.primaryKey)).isNull = _ := isNull_bind
  rw [hwithout] at hnull
  rw [get?_incoming hdoc hcolumns]
  split
  · exact hnull
  · rfl

theorem get?_numberedRow_primaryKey (hdoc : doc ∈ docs)
    (hcolumns : ∀ c ∈ Fields.allKeys docs, Fields.contains t.shape.columns c = true)
    (hwithout : Json.present? doc t.shape.primaryKey = none) {i : Nat}
    (hroom : t.nextId + i ≤ Value.maxInt) :
    (numberedRow entity settings columns t docs i doc).get? t.shape.primaryKey =
      some (.int (t.nextId + i)) := by
  rw [numberedRow, Tables.assignId_of_isNull (isNull_incoming hdoc hcolumns hwithout),
    Fields.get?_insert_self, Tables.word_of_le hroom]

theorem stores_numberedRow (hdoc : doc ∈ docs)
    (hcolumns : ∀ c ∈ Fields.allKeys docs, Fields.contains t.shape.columns c = true)
    (hwithout : Json.present? doc t.shape.primaryKey = none) {i : Nat} (hi : i < docs.length) :
    Stores entity settings columns t (t.nextId + docs.length) doc
      (numberedRow entity settings columns t docs i doc) := by
  refine stores_of_incoming hdoc hcolumns (by omega) ?_
  rw [Tables.assignId_of_isNull (isNull_incoming hdoc hcolumns hwithout)]
  omega

theorem insert_of_keyless {n : Nat} {next : Tables.Table}
    (hwithout : ∀ doc ∈ docs, Json.present? doc t.shape.primaryKey = none)
    (h : Tables.insert t (insertOf entity settings columns docs []) = .ok (n, next)) :
    (∀ c ∈ Fields.allKeys docs, Fields.contains t.shape.columns c = true) ∧
      next = withNumbered entity settings columns t docs := by
  obtain ⟨hcolumns, f, hfold, rfl⟩ := Tables.insert_eq_ok h
  obtain ⟨hrows, hnext⟩ := Tables.rows_of_foldlM_of_keyless hfold (by
    simp only [insertOf, List.forall_mem_map]
    exact fun doc hdoc => isNull_incoming hdoc hcolumns (hwithout doc hdoc))
  have hplaces : (docs.map (((inMemory entity settings).scope columns).row
      (Fields.allKeys docs))).mapIdx (fun i vs => (Tables.assignId t.shape
        (Tables.incomingRow t.shape (Fields.allKeys docs) vs) (t.nextId + i)).1) =
      docs.mapIdx (numberedRow entity settings columns t docs) := by
    apply List.ext_getElem?
    intro i
    rw [List.getElem?_mapIdx, List.getElem?_mapIdx, List.getElem?_map, Option.map_map]
    rfl
  have hlength : (insertOf entity settings columns docs []).rows.length = docs.length :=
    List.length_map ..
  rw [hlength] at hnext
  refine ⟨hcolumns, ?_⟩
  rw [withNumbered, ← hplaces, hrows, hnext]
  rfl

/-! ## The last item with a text -/

/-- The text by which an item is found again. -/
def keyText (docs : List (Fields Json)) (field : String) (i : Nat) : Option String :=
  docs[i]?.bind fun doc => (carried? doc field).map Value.key

/-- Of the items that have the text of the item at `i` in a field, the one at
`l` is the last. -/
structure IsLastLike (docs : List (Fields Json)) (field : String) (i l : Nat) : Prop where
  le : i ≤ l
  lt : l < docs.length
  same : keyText docs field l = keyText docs field i
  last : ∀ m, l < m → m < docs.length → keyText docs field m ≠ keyText docs field i

theorem exists_isLastLike {field : String} {i : Nat} (hi : i < docs.length) :
    ∃ l, IsLastLike docs field i l := by
  let P := fun m => m < docs.length ∧ keyText docs field m = keyText docs field i
  have hspec : P (Nat.findGreatest P docs.length) :=
    Nat.findGreatest_spec (P := P) (Nat.le_of_lt hi) ⟨hi, rfl⟩
  refine ⟨Nat.findGreatest P docs.length, ?_, hspec.1, hspec.2, ?_⟩
  · exact Nat.le_findGreatest (P := P) (Nat.le_of_lt hi) ⟨hi, rfl⟩
  · intro m hm hlt hsame
    exact Nat.findGreatest_is_greatest (P := P) hm (Nat.le_of_lt hlt) ⟨hlt, hsame⟩

variable {field : String}

theorem keyText_of_carried {i : Nat} {v : Value} (hdoc : docs[i]? = some doc)
    (hv : carried? doc field = some v) : keyText docs field i = some v.key := by
  rw [keyText, hdoc, Option.bind_some, hv]
  rfl

/-- The row of an item is found by the value of the item, and by its text. -/
theorem found_of_stores {row : Row} {vs : List Value} {v : Value} {last : Int}
    (hstores : Stores entity settings columns t last doc row) (hsound : SoundFields doc)
    (hv : carried? doc field = some v) (hmem : v ∈ vs) :
    ∃ w, row.get? field = some w ∧ hasOneOf columns field vs row = true ∧
      (Value.ofJson w.toJson).key = v.key := by
  obtain ⟨j, hget, hnull, rfl⟩ := carried?_eq_some hv
  have hj : j.isSound = true := hsound _ (Fields.mem_of_get? hget)
  have hvalue := stored_of_stores hstores hget hnull
  exact ⟨_, hvalue, hasOneOf_of_bind hnull hj hvalue hmem, key_bind entity settings columns field hj⟩

/-- The identity that is read again for an item is that of the row of the last
item with its text. -/
theorem get?_identities_of_isLastLike (entity : Entity) (settings : Settings) (columns : Columns)
    (hplain : Plain t) (hsound : ∀ doc ∈ docs, SoundFields doc)
    (hcolumns : ∀ c ∈ Fields.allKeys docs, Fields.contains t.shape.columns c = true)
    (hcarried : ∀ doc ∈ docs, (carried? doc field).isSome = true) {i l : Nat}
    (h : IsLastLike docs field i l) {v : Value} {last : Fields Json}
    (hv : carried? doc field = some v) (hdoc : docs[i]? = some doc) (hlast : docs[l]? = some last) :
    (identities entity field (recordsWith columns (withNumbered entity settings columns t docs)
      field (docs.filterMap (carried? · field)))).get? v.key =
      some (carried? (Row.toJson (Tables.bareColumns
        (numberedRow entity settings columns t docs l last))) entity.idField) := by
  have hname : IsName field := hplain field (Fields.contains_iff.mp (hcolumns field
    (Fields.mem_allKeys.mpr ⟨doc, List.mem_of_getElem? hdoc, mem_keys_of_carried hv⟩)))
  have hfound : ∀ (m : Nat) (d : Fields Json) (u : Value), docs[m]? = some d →
      carried? d field = some u → ∃ w,
        (numberedRow entity settings columns t docs m d).get? field = some w ∧
        hasOneOf columns field (docs.filterMap (carried? · field))
          (numberedRow entity settings columns t docs m d) = true ∧
        (Value.ofJson w.toJson).key = u.key := by
    intro m d u hd hu
    have hmem := List.mem_of_getElem? hd
    have hstores : Stores entity settings columns t _ d
        (numberedRow entity settings columns t docs m d) :=
      stores_of_incoming hmem hcolumns (by omega) (Int.le_refl _)
    exact found_of_stores hstores (hsound d hmem) hu
      (List.mem_filterMap.mpr ⟨d, hmem, hu⟩)
  obtain ⟨u, hu⟩ := Option.isSome_iff_exists.mp (hcarried last (List.mem_of_getElem? hlast))
  obtain ⟨w, hw, hhas, hkey⟩ := hfound l last u hlast hu
  have hsame := h.same
  rw [keyText_of_carried hlast hu, keyText_of_carried hdoc hv] at hsame
  have hrows : (withNumbered entity settings columns t docs).rows =
      (t.rows ++ (docs.mapIdx (numberedRow entity settings columns t docs)).take l) ++
        numberedRow entity settings columns t docs l last ::
          (docs.mapIdx (numberedRow entity settings columns t docs)).drop (l + 1) := by
    have hplace : (docs.mapIdx (numberedRow entity settings columns t docs))[l]? =
        some (numberedRow entity settings columns t docs l last) := by
      rw [List.getElem?_mapIdx, hlast]
      rfl
    obtain ⟨hlt, hget⟩ := List.getElem?_eq_some_iff.mp hplace
    rw [List.append_assoc, ← hget, ← List.drop_eq_getElem_cons hlt, List.take_append_drop]
    rfl
  rw [← Option.some.inj hsame, ← hkey]
  refine get?_identities_of_last hname hrows hhas hw fun r hr x hx => ?_
  obtain ⟨m, hm⟩ := List.mem_iff_getElem?.mp hr
  rw [List.getElem?_drop, List.getElem?_mapIdx] at hm
  obtain ⟨d, hd, rfl⟩ := Option.map_eq_some_iff.mp hm
  obtain ⟨y, hy⟩ := Option.isSome_iff_exists.mp (hcarried d (List.mem_of_getElem? hd))
  obtain ⟨z, hz, -, htext⟩ := hfound _ d y hd hy
  cases hx.symm.trans hz
  have hlater := h.last (l + 1 + m) (by omega) (List.getElem?_eq_some_iff.mp hd).1
  rw [keyText_of_carried hd hy, keyText_of_carried hdoc hv, ← hsame] at hlater
  rw [htext, hkey]
  exact fun heq => hlater (congrArg some heq)

/-- Items without identities are found again by a unique field that all of
them have, if they are found again at all. -/
theorem confirmationKey_of_keyless (hwithout : ∀ doc ∈ docs, Json.present? doc entity.idField = none)
    (hdoc : doc ∈ docs) {v : Value} (hv : carried? doc (confirmationKey entity docs) = some v) :
    confirmationKey entity docs ∈ entity.uniqueFields ∧
      ∀ d ∈ docs, (carried? d (confirmationKey entity docs)).isSome = true := by
  have hid : ∀ d ∈ docs, carried? d entity.idField = none := by
    intro d hd
    rw [carried?, hwithout d hd]
    rfl
  unfold confirmationKey at hv ⊢
  dsimp only at hv ⊢
  split at hv
  · cases (hid doc hdoc).symm.trans hv
  · rename_i hall
    rw [if_neg hall]
    cases hfind : entity.uniqueFields.find? fun f => docs.all fun doc => (carried? doc f).isSome with
    | none =>
      rw [hfind] at hv
      cases (hid doc hdoc).symm.trans hv
    | some f =>
      have hcarried := List.find?_some hfind
      exact ⟨List.mem_of_find?_eq_some hfind, List.all_eq_true.mp hcarried⟩

end Relational

namespace Batch

open Call (Ends Leads Keeps)

/-! ## Created records -/

variable {entity : Entity} {t : Tables.Table} {columns : Columns} {ts : Tables} {b : Batch}

theorem leads_create_numbered (settings : Settings) (hplain : Plain t)
    (hwithout : ∀ doc ∈ b.items, Json.present? doc t.shape.primaryKey = none) :
    Leads (Holds True entity t columns ts) (b.create (inMemory entity settings).store)
      (fun records s =>
        (b.direct = false → ∀ f ∈ entity.uniqueFields, Distinct entity f b.items) ∧
        (∀ c ∈ Fields.allKeys b.items, Fields.contains t.shape.columns c = true) ∧
        records = reconcile entity b.items (reportOf entity columns
          (Relational.withNumbered entity settings columns t b.items)
          (confirmationKey entity b.items) b.items) ∧
        s.timed.state.tables.find entity.storage =
          .ok (Relational.withNumbered entity settings columns t b.items))
      (fun _ => True) := by
  have hcheck : Ends (Holds True entity t columns ts)
      (b.checkUnlessDirect (inMemory entity settings).store entity.idField b.items)
      (fun _ s => (b.direct = false → ∀ f ∈ entity.uniqueFields, Distinct entity f b.items) ∧
        Holds True entity t columns ts s) (fun _ _ => True) :=
    ends_checkUnlessDirect (fun _ _ _ => trivial) Relational.keeps_search b _ _
  have hinsert : Leads (Holds True entity t columns ts) ((inMemory entity settings).insert b.items)
      _ (fun _ => True) :=
    (Relational.leads_write hplain b.items (confirmationKey entity b.items) []).weakenError
      fun _ _ => trivial
  refine (ends_create_checked (fun _ _ _ => trivial) hcheck hinsert).weaken ?_ fun _ _ h => h
  rintro records s ⟨hdistinct, report, ⟨n, next, hwritten, rfl, hs⟩, rfl⟩
  obtain ⟨hcolumns, rfl⟩ := Relational.insert_of_keyless hwithout hwritten
  exact ⟨hdistinct, hcolumns, rfl, by rw [hs.tables]; exact hs.find⟩

theorem persisted_numbered {docs : List (Fields Json)} {doc : Fields Json} (entity : Entity)
    (settings : Settings) (columns : Columns) (hplain : Plain t) (hsound : SoundFields doc) (hdoc : doc ∈ docs)
    (hcolumns : ∀ c ∈ Fields.allKeys docs, Fields.contains t.shape.columns c = true)
    (field : String) :
    (itemReport field (identities entity field (recordsWith columns
      (Relational.withNumbered entity settings columns t docs) field
      (docs.filterMap (carried? · field)))) doc).persisted = true := by
  obtain ⟨m, hm⟩ := List.mem_iff_getElem?.mp hdoc
  have hrow : (docs.mapIdx (Relational.numberedRow entity settings columns t docs))[m]? =
      some (Relational.numberedRow entity settings columns t docs m doc) := by
    rw [List.getElem?_mapIdx, hm]
    rfl
  exact Relational.persisted_of_stores hplain hsound hdoc
    (List.mem_append_right _ (List.mem_of_getElem? hrow))
    (Relational.stores_of_incoming hdoc hcolumns (by omega) (Int.le_refl _)) field

/-- The identity that the record of an item has is the number of the last item
with its text in a unique field. -/
theorem number_of_record {settings : Settings} {stored : Fields (Option Value)}
    (hplain : Plain t) (hsound : ∀ doc ∈ b.items, SoundFields doc)
    (hprimary : t.shape.primaryKey = entity.idField)
    (hwithout : ∀ doc ∈ b.items, Json.present? doc entity.idField = none)
    (hcolumns : ∀ c ∈ Fields.allKeys b.items, Fields.contains t.shape.columns c = true)
    (hroom : t.nextId + b.items.length ≤ Value.maxInt)
    (hstored : stored = identities entity (confirmationKey entity b.items) (recordsWith columns
      (Relational.withNumbered entity settings columns t b.items) (confirmationKey entity b.items)
      (b.items.filterMap (carried? · (confirmationKey entity b.items)))))
    {i : Nat} {doc : Fields Json} {r : Record} {id : Json} (hdoc : b.items[i]? = some doc)
    (hwritten : written? entity.idField doc
      (some (itemReport (confirmationKey entity b.items) stored doc)) = some r)
    (hid : Json.present? r.fields entity.idField = some id) :
    confirmationKey entity b.items ∈ entity.uniqueFields ∧
      ∃ text l, Relational.keyText b.items (confirmationKey entity b.items) i = some text ∧
        Relational.IsLastLike b.items (confirmationKey entity b.items) i l ∧
        id = .int (t.nextId + l) := by
  have hmem := List.mem_of_getElem? hdoc
  obtain ⟨v, hv, rfl⟩ := id_of_written (hwithout doc hmem) hwritten hid
  obtain ⟨key, hkey, hgiven⟩ := id_of_itemReport hv
  obtain ⟨hunique, hcarried⟩ := Relational.confirmationKey_of_keyless hwithout hmem hkey
  obtain ⟨l, hl⟩ : ∃ l, Relational.IsLastLike b.items (confirmationKey entity b.items) i l :=
    Relational.exists_isLastLike (List.getElem?_eq_some_iff.mp hdoc).1
  obtain ⟨last, hlast⟩ : ∃ last, b.items[l]? = some last := ⟨_, List.getElem?_eq_getElem hl.lt⟩
  refine ⟨hunique, key.key, l, Relational.keyText_of_carried hdoc hkey, hl, ?_⟩
  -- The identity is read from the row of the last item, which has its number.
  have hidentity := Relational.get?_identities_of_isLastLike entity settings columns hplain hsound
    hcolumns hcarried hl hkey hdoc hlast
  rw [← hstored] at hidentity
  have hv : carried? _ entity.idField = some v := Option.some.inj (hidentity.symm.trans hgiven)
  obtain ⟨j, hj, -, rfl⟩ := Relational.carried?_eq_some hv
  obtain ⟨w, hw, rfl⟩ := Relational.get?_record_eq_some hj
  have hlt := hl.lt
  have hbound : t.nextId + (l : Int) ≤ Value.maxInt := by omega
  have hnumber : (Relational.numberedRow entity settings columns t b.items l last).get?
      entity.idField = some (.int (t.nextId + l)) := by
    rw [← hprimary] at hwithout ⊢
    have hlastMem := List.mem_of_getElem? hlast
    exact Relational.get?_numberedRow_primaryKey hlastMem hcolumns (hwithout last hlastMem) hbound
  cases hw.symm.trans hnumber
  rw [Value.toJson, Value.ofJson, if_pos hbound, Value.toJson]

theorem carried_of_keyText {docs : List (Fields Json)} {field text : String} {i : Nat}
    (h : Relational.keyText docs field i = some text) :
    ∃ doc v, docs[i]? = some doc ∧ carried? doc field = some v ∧ v.key = text := by
  obtain ⟨doc, hdoc, htext⟩ := Option.bind_eq_some_iff.mp h
  obtain ⟨v, hv, hkey⟩ := Option.map_eq_some_iff.mp htext
  exact ⟨doc, v, hdoc, hv, hkey⟩

/-- Where no two items share a value the last item with a text is the item
itself, if different values have different texts. -/
theorem eq_of_distinct {docs : List (Fields Json)} {field text : String} {i l : Nat} {k : Kind}
    (h : Relational.IsLastLike docs field i l) (hscope : entity.uniqueScope = [])
    (hdistinct : Distinct entity field docs) (hkind : ∀ doc ∈ docs, k.Allows (valueOf doc field))
    (htext : Relational.keyText docs field i = some text) : l = i := by
  have hkey : ∀ {m : Nat} {doc : Fields Json} {v : Value}, docs[m]? = some doc →
      carried? doc field = some v → k.Has v ∧ scopedKey? entity field doc = some [v] := by
    intro m doc v hdoc hv
    obtain ⟨j, hget, hnull, rfl⟩ := Relational.carried?_eq_some hv
    have hvalue : valueOf doc field = .ofJson j := by
      rw [valueOf, hget]
      rfl
    have hpresent : Json.present? doc field = some j :=
      Option.filter_eq_some_iff.mpr ⟨hget, by rw [hnull]; rfl⟩
    have hallows := hkind doc (List.mem_of_getElem? hdoc)
    rw [hvalue] at hallows
    refine ⟨hallows.resolve_left fun hnone => ?_, ?_⟩
    · rw [← Value.isNull_iff, Value.isNull_ofJson, hnull] at hnone
      cases hnone
    · rw [scopedKey?, hpresent, Option.map_some, scopedKey, hscope]
      rfl
  obtain ⟨doc, v, hdoc, hv, rfl⟩ := carried_of_keyText htext
  obtain ⟨last, w, hlast, hw, hsame⟩ := carried_of_keyText (h.same.trans htext)
  obtain ⟨hasValue, hown⟩ := hkey hdoc hv
  obtain ⟨hasOther, hother⟩ := hkey hlast hw
  obtain rfl := hasOther.key_inj hasValue hsame
  by_contra hne
  have hlt : i < l := Nat.lt_of_le_of_ne h.le fun heq => hne heq.symm
  obtain ⟨hi, rfl⟩ := List.getElem?_eq_some_iff.mp hdoc
  obtain ⟨hl, rfl⟩ := List.getElem?_eq_some_iff.mp hlast
  have hdiffer : Differ [w] [w] :=
    List.pairwise_iff_getElem.mp (List.pairwise_filterMap.mp hdistinct) i l hi hl hlt _ hown _ hother
  have hequal : (Value.order w w).isEq = true := Value.beq_self w
  rw [Differ, Value.orderLists, Ordering.isEq_iff_eq_eq.mp hequal] at hdiffer
  cases hdiffer

/-- A create of items without identities that gives records has put one row
for each item behind the rows of the table, numbered in the order of the items.
The identity that the record of an item has is the number of the last item with
the same text in the unique field that the items are found again by. It is the
item's own number where uniqueness was checked, without a scope, and the values
of the field are of one kind. -/
theorem a_created_item_has_the_identity_of_the_last_one_like_it (entity : Entity)
    (settings : Settings) (b : Batch) (s : Relational.State Tables.Engine) {t : Tables.Table}
    {records : List Record} {after : Relational.State Tables.Engine}
    (hfaults : s.timed.state.faults = [])
    (hfind : s.timed.state.tables.find entity.storage = .ok t)
    (hprimary : t.shape.primaryKey = entity.idField)
    (hnames : ∀ c ∈ t.shape.columns.keys, Text.hasChar '.' c = false)
    (hsound : ∀ doc ∈ b.items, ∀ p ∈ doc, p.2.isSound = true)
    (hwithout : ∀ doc ∈ b.items, Json.present? doc entity.idField = none)
    (hroom : t.nextId + b.items.length ≤ Value.maxInt)
    (hon : (b.create (inMemory entity settings).store).on s = (.ok records, after)) :
    ∃ rows : List Row, after.timed.state.tables.find entity.storage = .ok
        { t with rows := t.rows ++ rows, nextId := t.nextId + b.items.length } ∧
      List.Forall₂ (Stores entity settings (knownColumns entity t s) t (t.nextId + b.items.length))
        b.items rows ∧
      (∀ (i : Nat) (row : Row), rows[i]? = some row →
        row.get? entity.idField = some (.int (t.nextId + i))) ∧
      List.Forall₂ (IsRecordOf entity) b.items records ∧
      ∀ (i : Nat) (r : Record) (id : Json), records[i]? = some r →
        Json.present? r.fields entity.idField = some id →
        ∃ l, Relational.IsLastLike b.items (confirmationKey entity b.items) i l ∧
          id = .int (t.nextId + l) ∧
          (b.direct = false → entity.uniqueScope = [] →
            (∃ k : Kind, ∀ doc ∈ b.items,
              k.Allows (valueOf doc (confirmationKey entity b.items))) → l = i) := by
  have hs : Holds True entity t (knownColumns entity t s) s.timed.state.tables s :=
    ⟨⟨rfl, fun _ => hfaults⟩, hfind, rfl⟩
  obtain ⟨hdistinct, hcolumns, rfl, hnext⟩ :=
    (leads_create_numbered settings hnames (hprimary ▸ hwithout)).of_ok hs hon
  have hpersisted := fun doc hdoc => persisted_numbered entity settings (knownColumns entity t s)
    hnames (hsound doc hdoc) hdoc hcolumns (confirmationKey entity b.items)
  have hall := forall₂_reconcile_map entity hpersisted
  refine ⟨_, hnext, ?_, ?_, ?_, ?_⟩
  · refine forall₂_mapIdx fun i doc hdoc => ?_
    have hmem := List.mem_of_getElem? hdoc
    exact Relational.stores_numberedRow hmem hcolumns (hprimary ▸ hwithout doc hmem)
      (List.getElem?_eq_some_iff.mp hdoc).1
  · intro i row hrow
    rw [List.getElem?_mapIdx] at hrow
    obtain ⟨doc, hdoc, rfl⟩ := Option.map_eq_some_iff.mp hrow
    have hmem := List.mem_of_getElem? hdoc
    have hi := (List.getElem?_eq_some_iff.mp hdoc).1
    rw [← hprimary] at hwithout ⊢
    exact Relational.get?_numberedRow_primaryKey hmem hcolumns (hwithout doc hmem) (by omega)
  · refine forall₂_reconcile entity ?_
    rw [reportOf, List.forall₂_map_right_iff, List.forall₂_same]
    exact hpersisted
  · intro i r id hr hid
    obtain ⟨doc, hdoc, hwritten⟩ := getElem?_of_forall₂ hall hr
    obtain ⟨hunique, text, l, htext, hl, hnumber⟩ := number_of_record hnames hsound hprimary
      hwithout hcolumns hroom rfl hdoc hwritten hid
    refine ⟨l, hl, hnumber, ?_⟩
    rintro hdirect hscope ⟨k, hkind⟩
    exact eq_of_distinct hl hscope (hdistinct hdirect _ hunique) hkind htext

/-- A product without an identity comes behind another one, and its record has
the number of its own row. -/
theorem a_new_product_is_given_its_own_identity :
    let entity : Entity := { name := "product", storage := "products", uniqueFields := ["sku"] }
    let t : Tables.Table := {
      shape := .make "products" "id" [("sku", .text)] []
      rows := [[("id", .int 1), ("sku", .text "A")]]
      nextId := 2 }
    let s : Relational.State Tables.Engine := .initial {} { tables := [("products", t)] }
    let b : Batch := { items := [[("sku", .str "B")]] }
    ∃ records after, (b.create (inMemory entity {}).store).on s = (.ok records, after) ∧
      ∃ row r, after.timed.state.tables.find "products" =
          .ok { t with rows := t.rows ++ [row], nextId := 3 } ∧
        row.get? "id" = some (.int 2) ∧ records = [r] ∧
        Json.present? r.fields "id" = some (.int 2) := by
  intro entity t s b
  obtain ⟨records, hrecords, hgiven⟩ : ∃ records : List Record,
      ((b.create (inMemory entity {}).store).on s).1 = .ok records ∧
        (records.all fun r => (Json.present? r.fields "id").isSome) = true :=
    exists_of_any (by decide +kernel)
  have hon : (b.create (inMemory entity {}).store).on s = (.ok records, _) := Prod.ext hrecords rfl
  obtain ⟨rows, hafter, hstores, hnumbers, hitems, hids⟩ :=
    a_created_item_has_the_identity_of_the_last_one_like_it entity {} b s (t := t) rfl rfl rfl
      (by decide) (by decide) (by decide) (by decide) hon
  cases hstores with
  | @cons _ row _ _ hstores hnil =>
    cases hnil
    cases hitems with
    | @cons _ r _ _ hrecord hnil =>
      cases hnil
      obtain ⟨id, hid⟩ := Option.isSome_iff_exists.mp
        (List.all_eq_true.mp hgiven r List.mem_cons_self)
      obtain ⟨l, -, rfl, hown⟩ := hids 0 r id rfl hid
      rw [hown rfl rfl ⟨.text, by decide +kernel⟩] at hid
      exact ⟨_, _, hon, row, r, hafter, hnumbers 0 row rfl, rfl, hid⟩

end Batch

end EntityStore
