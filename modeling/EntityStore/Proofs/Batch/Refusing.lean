-- Batches that fail with an error of the caller, and what they leave in the
-- tables of an engine in memory. Whatever is checked is checked before the
-- write. After it there are the two errors that a write itself can end with.
import EntityStore.Proofs.Batch.Creating
import EntityStore.Proofs.Batch.Locks
import EntityStore.Proofs.Store.Refusing

namespace EntityStore.Batch

open Call (Ends)
open Relational (inMemory Watched knownColumns RefusedAfter StoppedAfter confirmationKey
  updateOf)

variable {entity : Entity} {settings : Settings} {t : Tables.Table} {columns : Columns}
  {ts : Tables} {b : Batch} {docs : List (Fields Json)} {updated : List String}
  {e : AccessError} {s : Relational.State Tables.Engine}

/-! ## Fields that filters may use -/

/-- A search for the values of a field that was not refused before is not
refused after a write. -/
theorem not_refusedAfter {field : String}
    (h : ∃ c, ((inMemory entity settings).scope columns).resolve .filter field = .ok c) :
    ¬RefusedAfter entity settings columns ts docs field updated e s := by
  rintro ⟨hrefused, -⟩
  obtain ⟨c, hc⟩ := h
  cases hrefused.symm.trans hc

/-- A write that is refused when it is read again is confirmed by a field that
filters may not use. -/
theorem not_permits_of_refusedAfter {field : String} (he : e.isValidation = true)
    (h : RefusedAfter entity settings columns ts docs field updated e s) :
    ¬((inMemory entity settings).scope columns).Permits field ∧
      e = .fieldNotAllowed entity.name field := by
  obtain ⟨hpermits, hfield⟩ := Plan.Scope.not_permits_of_resolve h.1 he
  refine ⟨hpermits, ?_⟩
  rw [hfield, Plan.Scope.withoutOwn_of_alone rfl, Plan.Scope.dotted_split]
  rfl

/-! ## Writes -/

theorem ends_create (settings : Settings) (b : Batch) :
    Ends (Watched entity t columns ts) (b.create (inMemory entity settings).store)
      (fun _ _ => True)
      (fun e s => e.isValidation = true → s.timed.state.tables = ts ∨
        RefusedAfter entity settings columns ts b.items (confirmationKey entity b.items) [] e s) := by
  have hinsert : Ends (Watched entity t columns ts)
      ((inMemory entity settings).store.insert b.items) (fun _ _ => True) _ :=
    Relational.ends_upsert b.items []
  exact (ends_create_of (fun _ _ hs _ => .inl hs.tables) Relational.keeps_watched_search
    hinsert).weaken (fun _ _ _ => trivial) fun _ _ h => h

/-- An update has found stored records by the identities that confirm it, so it
is not refused after it has run. -/
theorem ends_update (settings : Settings) (b : Batch) (hs : Watched entity t columns ts s) :
    Ends (fun s' => s' = s) (b.update (inMemory entity settings).store)
      (fun _ _ => True)
      (fun e after => e.isValidation = true → after.timed.state.tables = ts ∨
        ∃ rows, ((b.known (inMemory entity settings).store).on s).1 = .ok rows ∧
          ∃ done ≠ [], StoppedAfter done entity ts ((b.changesOf entity rows).map fun c =>
            updateOf entity settings columns (c.id, c.delta)) e after) := by
  have hknown : Ends (Watched entity t columns ts) (b.known (inMemory entity settings).store)
      _ _ := Relational.ends_findWith _
  refine (ends_update_of (Q := fun _ _ => True) ?_ (fun _ _ hs _ => .inl hs.tables)
    Relational.keeps_watched_search ((hknown.startingAt hs).weaken
      (fun _ _ h => And.intro (And.intro h.1 h.2.1) h.2.2) fun _ _ h _ => .inl h.2.tables)
    fun rows hitems hrows => ?_).weaken (fun _ _ _ => trivial) fun _ _ h => h
  · rintro _ _ rfl _
    exact .inl hs.tables
  · refine (Relational.ends_update _).weaken (fun _ _ _ => trivial) fun e after h he => ?_
    rcases h he with hsame | ⟨done, hne, hstopped⟩ | hrefused
    · exact .inl hsame
    · rw [List.map_map] at hstopped
      exact .inr ⟨rows, hrows.1, done, hne, hstopped⟩
    · obtain ⟨c, hc⟩ := hrows.2 (by simpa using hitems)
      cases hrefused.symm.trans hc

/-- An upsert has found stored records by the field that confirms it, so it is
not refused after it has run. -/
theorem ends_upsert (settings : Settings) (b : Batch) :
    Ends (Watched entity t columns ts) (b.upsert (inMemory entity settings).store)
      (fun _ _ => True) (fun e s => e.isValidation = true → s.timed.state.tables = ts) := by
  have htables : ∀ (e : AccessError) s, Watched entity t columns ts s →
      e.isValidation = true → s.timed.state.tables = ts := fun _ _ hs _ => hs.tables
  have hfound : Ends (Watched entity t columns ts) (b.found (inMemory entity settings).store) _
      (fun e s => e.isValidation = true → s.timed.state.tables = ts) :=
    (Relational.ends_findWith _).weaken (fun _ _ h => h) fun e s h _ => h.2.tables
  refine (ends_upsert_of htables htables Relational.keeps_watched_search hfound
    (Q := fun _ _ => True) fun rows hitems hresolve => ?_).weaken (fun _ _ _ => trivial)
      fun _ _ h => h
  refine (Relational.ends_upsert _ _).weaken (fun _ _ h => h) fun e s h he => ?_
  exact (h he).resolve_right (not_refusedAfter (hresolve (by simpa using hitems)))

/-! ## The batch -/

/-- An error of the caller means that the tables are what they were before the
call, but for two errors that come after a write: a create whose items are
found again by a path that filters may not use, and an update that has run
some of its statements when the next one repeats a key. -/
theorem only_two_errors_of_the_caller_come_after_a_write (entity : Entity) (settings : Settings)
    (b : Batch) (s : Relational.State Tables.Engine) {t : Tables.Table}
    (hfind : s.timed.state.tables.find entity.storage = .ok t) (hquiet : s.timed.state.Quiet) :
    let scope := (inMemory entity settings).scope (knownColumns entity t s)
    (∀ e after, (b.create (inMemory entity settings).store).on s = (.error e, after) →
      e.isValidation = true → after.timed.state.tables = s.timed.state.tables ∨
        (¬scope.Permits (confirmationKey entity b.items) ∧
          e = .fieldNotAllowed entity.name (confirmationKey entity b.items) ∧
          ∃ i out, scope.insert b.items [] = .ok i ∧ Tables.Engine.apply s.timed.state.tables
            (.insert i) = .ok (out, after.timed.state.tables))) ∧
    (∀ e after, (b.update (inMemory entity settings).store).on s = (.error e, after) →
      e.isValidation = true → after.timed.state.tables = s.timed.state.tables ∨
        ∃ rows, ((b.known (inMemory entity settings).store).on s).1 = .ok rows ∧
          ∃ done ≠ [], StoppedAfter done entity s.timed.state.tables
            ((b.changesOf entity rows).map fun c =>
              updateOf entity settings (knownColumns entity t s) (c.id, c.delta)) e after) ∧
    (∀ e after, (b.upsert (inMemory entity settings).store).on s = (.error e, after) →
      e.isValidation = true → after.timed.state.tables = s.timed.state.tables) := by
  have hs : Watched entity t (knownColumns entity t s) s.timed.state.tables s :=
    ⟨⟨⟨rfl, False.elim⟩, hfind, rfl⟩, hquiet⟩
  refine ⟨fun e after hon he => ?_, fun e after hon => (ends_update settings b hs).of_error rfl hon,
    fun e after hon => (ends_upsert settings b).of_error hs hon⟩
  rcases (ends_create settings b).of_error hs hon he with hsame | hrefused
  · exact .inl hsame
  · obtain ⟨hpermits, hfield⟩ := not_permits_of_refusedAfter he hrefused
    exact .inr ⟨hpermits, hfield, hrefused.2⟩

/-- A new product with a taken number is refused by all three writes, and
nothing is written. -/
theorem a_product_with_a_taken_number_is_not_written :
    let entity : Entity := { name := "product", storage := "products", uniqueFields := ["sku"] }
    let t : Tables.Table := {
      shape := .make "products" "id" [("sku", .text)] [⟨"uniq_sku", ["sku"]⟩]
      rows := [[("id", .int 1), ("sku", .text "A")], [("id", .int 2), ("sku", .text "B")]] }
    let s : Relational.State Tables.Engine := .initial {} { tables := [("products", t)] }
    let b : Batch := { items := [[("id", .int 3), ("sku", .str "A")]] }
    ∀ write ∈ [b.create (inMemory entity {}).store, b.update (inMemory entity {}).store,
        b.upsert (inMemory entity {}).store],
      ∃ e after, write.on s = (.error e, after) ∧ e.isValidation = true ∧
        after.timed.state.tables = s.timed.state.tables := by
  intro entity t s b
  obtain ⟨hcreate, hupdate, hupsert⟩ := only_two_errors_of_the_caller_come_after_a_write entity {}
    b s (t := t) rfl nofun
  -- The error tells which of the cases it is.
  have hfails : ∀ write ∈ [b.create (inMemory entity {}).store,
      b.update (inMemory entity {}).store, b.upsert (inMemory entity {}).store],
      write.failsWith s (fun e => e.isValidation && e.code != "duplicate_key" &&
        e.code != "unauthorized_field_access") = true := by
    decide +kernel
  intro write hwrite
  obtain ⟨e, after, hon, htest⟩ := Call.exists_of_failsWith (hfails write hwrite)
  obtain ⟨⟨he, hkey⟩, hfield⟩ : (e.isValidation = true ∧ e.code ≠ "duplicate_key") ∧
    e.code ≠ "unauthorized_field_access" := by simpa using htest
  refine ⟨e, after, hon, he, ?_⟩
  simp only [List.mem_cons, List.not_mem_nil, or_false] at hwrite
  rcases hwrite with rfl | rfl | rfl
  · refine (hcreate e after hon he).resolve_right ?_
    rintro ⟨-, rfl, -⟩
    exact hfield rfl
  · refine (hupdate e after hon he).resolve_right ?_
    rintro ⟨-, -, done, -, u, rest, message, -, -, rfl⟩
    exact hkey rfl
  · exact hupsert e after hon he

/-- An update that meets a taken number in its second statement has run the
first one. -/
example :
    let entity : Entity := { name := "product", storage := "products" }
    let rows (number : String) : List Row :=
      [[("id", .int 1), ("sku", .text number)], [("id", .int 2), ("sku", .text "B")]]
    let t : Tables.Table := {
      shape := .make "products" "id" [("sku", .text)] [⟨"uniq_sku", ["sku"]⟩]
      rows := rows "A" }
    let s : Relational.State Tables.Engine := .initial {} { tables := [("products", t)] }
    let b : Batch := { items := [[("id", .int 1), ("sku", .str "X")],
      [("id", .int 1), ("sku", .str "B")]] }
    let write := b.update (inMemory entity {}).store
    write.failsWith s AccessError.isValidation = true ∧
      ((write.on s).2.timed.state.rows "products" == rows "X") = true := by
  decide +kernel

end EntityStore.Batch
