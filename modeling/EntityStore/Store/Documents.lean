-- A document database as a store.
import EntityStore.Documents.Basic
import EntityStore.Search.Response
import EntityStore.Store.Basic

namespace EntityStore

/-- A document database that holds the records of an entity. -/
structure Documents (σ : Type) where
  entity : Entity
  settings : Settings
  database : DocumentDatabase σ

namespace Documents

variable {σ : Type}

/-- A call of the database. -/
def call {α : Type} (f : σ → Except IndexFault α × σ) : Call σ α :=
  Call.mk fun s =>
    match f s with
    | (.ok x, s) => (.ok x, s)
    | (.error e, s) => (.error e.toError, s)

/-! ## Searches -/

/-- The request of some criteria. -/
def plan (d : Documents σ) (c : Criteria) : Except AccessError Search.Plan :=
  Search.plan d.entity d.settings c

def search (d : Documents σ) (c : Criteria) : Call σ Outcome := do
  let p ← Call.lift (d.plan c)
  let raw ← call (d.database.search p.request.index p.request.toJson)
  Call.lift (p.outcome d.entity.idField raw)

/-! ## Writes -/

/-- The identity of a document as a text. -/
def documentId (d : Documents σ) (doc : Fields Json) : Option String :=
  (Json.present? doc d.entity.idField).map fun v => (Value.ofJson v).key

/-- The report of a write. What has no status was not persisted. -/
def report : Nat → List WriteStatus → WriteReport
  | 0, _ => []
  | n + 1, [] => ⟨false, none⟩ :: report n []
  | n + 1, s :: rest => ⟨s.isSuccess, s.id.map .text⟩ :: report n rest

/-- Sends writes together. -/
def send (d : Documents σ) (writes : List DocumentWrite) : Call σ WriteReport := do
  return report writes.length (← call (d.database.write d.entity.storage writes))

def insert (d : Documents σ) (docs : List (Fields Json)) : Call σ WriteReport :=
  d.send (docs.map fun doc => .create (d.documentId doc) doc)

/-- The write that inserts a document or updates the one that is there. -/
def upsertWrite (d : Documents σ) (doc : Fields Json) : DocumentWrite :=
  match d.documentId doc with
  | some id => .upsert id doc
  | none => .create none doc

def upsert (d : Documents σ) (docs : List (Fields Json)) : Call σ WriteReport :=
  d.send (docs.map d.upsertWrite)

def update (d : Documents σ) (changes : List (Value × Fields Json)) : Call σ WriteReport :=
  d.send (changes.map fun (id, doc) => .update id.key doc)

/-- Deletes the documents that pass the groups. All documents are never
deleted. -/
def delete (d : Documents σ) (groups : List Filter.Group) : Call σ Nat := do
  match ← Call.lift (Search.groups d.entity false groups) with
  | some q => call (d.database.deleteBy d.entity.storage (Search.single "query" q.toJson))
  | none => throw (.noFilter d.entity.name)

/-- The store of a document database. Documents are always updated by their
identities, and all of their fields are. -/
def store (d : Documents σ) : Store σ where
  entity := d.entity
  settings := d.settings
  search := d.search
  insert := d.insert
  upsert docs _ _ := d.upsert docs
  update := d.update
  delete := d.delete

end Documents

end EntityStore
