-- What an upsert leaves alone. Each store meets stored records by keys of its
-- own, the table by its primary and unique keys and the index by identities, so
-- a record that no item meets there stays as it is.
import EntityStore.Proofs.Batch.Upserting
import EntityStore.Proofs.Indices.Writing
import EntityStore.Proofs.Store.Documents

namespace EntityStore

open Call (Leads Keeps)

variable {entity : Entity} {settings : Settings}

/-! ## Identities of items -/

namespace Batch

open Relational (knownColumns)

variable {b : Batch} {doc : Fields Json}

/-- The identity that an item is written under, where these are the stored
records by their keys. -/
def identityOf (b : Batch) (e : Entity) (settings : Settings) (existing : Fields (Fields Json))
    (doc : Fields Json) : Option String :=
  (Documents.inMemory e settings).documentId (b.written e existing doc)

/-- By the identity an item is written under its own key, if it is written
under an identity. -/
theorem identityOf_eq_some (hfield : b.meetingField entity = entity.idField) {id : String}
    {rows : List (Fields Json)}
    (h : b.identityOf entity settings (indexBy entity.idField rows) doc = some id) :
    id = (valueOf doc entity.idField).key := by
  obtain ⟨i, hi, rfl⟩ := Option.map_eq_some_iff.mp h
  obtain ⟨hget, -⟩ := Option.filter_eq_some_iff.mp hi
  have hget : (b.written entity (indexBy entity.idField rows) doc).get? entity.idField = some i :=
    hget
  rw [written, hfield] at hget
  cases hmet : (indexBy entity.idField rows).get? (valueOf doc entity.idField).key with
  | none =>
    rw [completed_of_new hmet] at hget
    rw [valueOf, hget]
    rfl
  | some stored =>
    obtain ⟨-, j, hj, hkey⟩ := indexBy_eq_some hmet
    rw [get?_completed_key hmet, if_pos rfl, hj, Option.some_or] at hget
    cases hget
    exact hkey

/-! ## Writes of items -/

/-- A write that may change a document is for the identity of its item. -/
theorem touches_upsertWrite {existing : Fields (Fields Json)} {d : Indices.Document}
    (h : Indices.Touches d
      ((Documents.inMemory entity settings).upsertWrite (b.written entity existing doc))) :
    b.identityOf entity settings existing doc = some d.id := by
  unfold Documents.upsertWrite at h
  split at h
  · rename_i id hid
    exact hid.trans (congrArg some h)
  · exact h.elim

theorem leads_upsert_documents (settings : Settings) (b : Batch) (e : Indices.Engine) :
    Leads (fun e' => e' = e) (b.upsert (Documents.inMemory entity settings).store)
      (fun _ after => ∃ rows,
        ((b.found (Documents.inMemory entity settings).store).on e).1 = .ok rows ∧
        ∀ d ∈ e.documents entity.storage,
          (∀ doc ∈ b.items, b.identityOf entity settings
            (indexBy (b.meetingField entity) rows) doc ≠ some d.id) →
          d ∈ after.documents entity.storage)
      (fun _ => True) := by
  have hsearch : ∀ c, Keeps (fun e' : Indices.Engine => e'.indices = e.indices)
      ((Documents.inMemory entity settings).store.search c) := Documents.keeps_search
  have hfound := ((keeps_found hsearch b).startingAt (rfl : e.indices = e.indices)).weakenError
    fun _ _ => trivial
  have hsend : ∀ ws, Leads (fun e' : Indices.Engine => e'.indices = e.indices)
      ((Documents.inMemory entity settings).send ws)
      (fun _ after => ∃ before : Indices.Engine, before.indices = e.indices ∧
        after = (before.write entity.storage ws).2) (fun _ => True) := by
    refine fun ws => (Documents.leads_send (E := fun _ => True) ws).weaken ?_ fun _ h => h
    rintro _ after ⟨before, hindices, hafter, -⟩
    exact ⟨before, hindices, hafter⟩
  refine (leads_upsert_of (fun _ _ => trivial) (fun _ _ => trivial) hsearch hfound fun rows _ =>
    hsend _).weaken ?_ fun _ _ => trivial
  rintro _ after ⟨-, rows, hrows, before, hindices, rfl⟩
  refine ⟨rows, hrows, fun d hd hother => ?_⟩
  have hbefore : d ∈ before.documents entity.storage := by
    unfold Indices.Engine.documents Indices.Engine.indexOrNew Indices.Engine.index?
    rw [hindices]
    exact hd
  refine Indices.Engine.mem_write hbefore ?_
  simp only [List.forall_mem_map]
  exact fun doc hdoc htouches => hother doc hdoc (touches_upsertWrite htouches)

/-! ## What is not met -/

/-- An upsert changes only what its items meet. In a table every row stays as
it is that shares no key of the table with an item as it comes in. In an index
every document does that no item is written under the identity of. So where
documents are met by the identity, or rows by the primary key with keys of one
kind, all records stay as they are whose key is not that of an item. Among keys
of several kinds a row may be met by another key than its own: the text 01 and
the number 1 are equal in a query. -/
theorem an_upsert_changes_only_what_its_items_meet (b : Batch) (entity : Entity)
    (settings : Settings) :
    (∀ (s : Relational.State Tables.Engine) (t : Tables.Table),
      s.timed.state.tables.find entity.storage = .ok t →
      match (b.upsert (Relational.inMemory entity settings).store).on s with
      | (.ok _, after) => ∃ rows next,
          ((b.found (Relational.inMemory entity settings).store).on s).1 = .ok rows ∧
          after.timed.state.tables.find entity.storage = .ok next ∧
          ∀ (i : Nat) (row : Row), t.rows[i]? = some row →
            ((∀ item ∈ b.items, ¬ b.Meets entity settings (knownColumns entity t s)
                (indexBy (b.meetingField entity) rows) t next.nextId item row) ∨
              ∃ k, ByPrimaryKey b entity settings (knownColumns entity t s) t k ∧
                ∀ item ∈ b.items, (row.get? t.shape.primaryKey).map Value.key ≠
                  some (valueOf item t.shape.primaryKey).key) →
            next.rows[i]? = some row
      | (.error _, _) => True) ∧
    (∀ e : Indices.Engine,
      match (b.upsert (Documents.inMemory entity settings).store).on e with
      | (.ok _, after) => ∃ rows,
          ((b.found (Documents.inMemory entity settings).store).on e).1 = .ok rows ∧
          ∀ d ∈ e.documents entity.storage,
            ((∀ item ∈ b.items, b.identityOf entity settings
                (indexBy (b.meetingField entity) rows) item ≠ some d.id) ∨
              b.meetingField entity = entity.idField ∧
                ∀ item ∈ b.items, d.id ≠ (valueOf item entity.idField).key) →
            d ∈ after.documents entity.storage
      | (.error _, _) => True) := by
  constructor
  · intro s t hfind
    have hs : Relational.Holds False entity t (knownColumns entity t s) s.timed.state.tables s :=
      ⟨⟨rfl, False.elim⟩, hfind, rfl⟩
    split
    · rename_i records after hon
      obtain ⟨rows, next, hrows, hupserted, hnext⟩ := (leads_upsert hs).of_ok rfl hon
      refine ⟨rows, next, hrows, hnext, ?_⟩
      rintro i row hrow (hunmet | ⟨k, hkey, hunnamed⟩)
      · exact hupserted.keeps_unmet hrow hunmet
      · rw [hkey.existing_eq hs hrows] at hupserted
        exact hupserted.keeps_unnamed hkey hrow hunnamed
    · trivial
  · intro e
    split
    · rename_i records after hon
      obtain ⟨rows, hrows, hstays⟩ := (leads_upsert_documents settings b e).of_ok rfl hon
      refine ⟨rows, hrows, fun d hd hother => hstays d hd ?_⟩
      rcases hother with hother | ⟨hfield, hother⟩
      · exact hother
      · rw [hfield]
        exact fun item hitem hid => hother item hitem (identityOf_eq_some hfield hid)
    · trivial

/-- An upsert of the first of two records. -/
theorem an_upsert_of_one_product_leaves_the_other :
    let entity : Entity := { name := "product", storage := "products" }
    let b : Batch := { items := [[("id", .int 1), ("name", .str "Ash")]] }
    let t : Tables.Table := {
      shape := .make "products" "id" [("name", .text)] []
      rows := [[("id", .int 1), ("name", .text "Oak")], [("id", .int 2), ("name", .text "Pine")]] }
    let s : Relational.State Tables.Engine := .initial {} { tables := [("products", t)] }
    let pine : Indices.Document := ⟨"2", .obj [("id", .int 2), ("name", .str "Pine")]⟩
    let e : Indices.Engine := { indices := [("products", { documents :=
      [⟨"1", .obj [("id", .int 1), ("name", .str "Oak")]⟩, pine] })] }
    (∃ records after, (b.upsert (Relational.inMemory entity {}).store).on s = (.ok records, after) ∧
      ∃ next, after.timed.state.tables.find "products" = .ok next ∧ next.rows[1]? = t.rows[1]?) ∧
    ∃ records after, (b.upsert (Documents.inMemory entity {}).store).on e = (.ok records, after) ∧
      pine ∈ after.documents "products" := by
  intro entity b t s pine e
  have hkey : ByPrimaryKey b entity {} (Relational.knownColumns entity t s) t .integer :=
    ⟨rfl, Tables.aligned_of_nil rfl, by decide, by decide, by decide,
      Tables.keyed_of_ints [1, 2] rfl (by decide) (by decide), by decide⟩
  have hwhole := an_upsert_changes_only_what_its_items_meet b entity {}
  constructor
  · have htable := hwhole.1 s t rfl
    obtain ⟨records, after, hon⟩ : ∃ records after,
        (b.upsert (Relational.inMemory entity {}).store).on s = (.ok records, after) :=
      Call.exists_of_isOk (by decide +kernel)
    rw [hon] at htable
    obtain ⟨rows, next, -, hnext, hstays⟩ := htable
    exact ⟨records, after, hon, next, hnext,
      hstays 1 _ rfl (.inr ⟨.integer, hkey, by decide⟩)⟩
  · have hindex := hwhole.2 e
    obtain ⟨records, after, hon⟩ : ∃ records after,
        (b.upsert (Documents.inMemory entity {}).store).on e = (.ok records, after) :=
      Call.exists_of_isOk (by decide +kernel)
    rw [hon] at hindex
    obtain ⟨rows, -, hstays⟩ := hindex
    exact ⟨records, after, hon,
      hstays pine (List.mem_cons_of_mem _ List.mem_cons_self) (.inr ⟨rfl, by decide⟩)⟩

/-- By another key than those of the table an item may meet a row that it does
not name. This one carries the identity of a row with another key. -/
example :
    let entity : Entity := { name := "product", storage := "products" }
    let b : Batch := {
      items := [[("id", .int 1), ("name", .str "Pine"), ("sku", .str "B")]]
      keyField := some "sku" }
    let row (name : String) : Row := [("id", .int 1), ("name", .text name), ("sku", .text "A")]
    let t : Tables.Table := {
      shape := .make "products" "id" [("name", .text), ("sku", .text)] []
      rows := [row "Oak"] }
    let s : Relational.State Tables.Engine := .initial {} { tables := [("products", t)] }
    (((b.upsert (Relational.inMemory entity {}).store).on s).2.timed.state.rows "products" ==
      [row "Pine"]) = true := by
  decide +kernel

end Batch

end EntityStore
