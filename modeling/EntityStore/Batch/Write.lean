-- Writing batches: creating records, updating those that are there, and
-- doing whichever fits.
import EntityStore.Batch.Basic

namespace EntityStore.Batch

variable {σ : Type}

/-- Checks uniqueness, unless it is left to the store. -/
def checkUnlessDirect (b : Batch) (st : Store σ) (idField : String) (docs : List (Fields Json)) :
    Call σ Unit :=
  if b.direct then pure () else checkUnique st idField docs

/-! ## Creating -/

/-- Inserts all items. -/
def create (b : Batch) (st : Store σ) : Call σ (List Record) := do
  Call.lift (b.checkFilled "bulk_create")
  Call.lift (b.checkRequired st.entity)
  b.checkUnlessDirect st st.entity.idField b.items
  return reconcile st.entity b.items (← st.insert b.items)

/-! ## Updating -/

/-- All identities are those of stored records. -/
def checkKnown (e : Entity) (ids : List Value) (existing : Fields (Fields Json)) :
    Except AccessError Unit :=
  let unknown := (ids.map Value.key).filter fun id => !existing.contains id
  let names := ", ".intercalate unknown
  if unknown.isEmpty then .ok () else .error (.batchShape s!"unknown '{e.name}' ids: {names}")

/-- What changes of a stored record. -/
structure Change where
  id : Value
  record : Record

/-- The changed fields with their new values. -/
def Change.delta (c : Change) : Fields Json :=
  c.record.changedFields.map fun f => (f, Json.ofOption (c.record.fields.get? f))

/-- The change that an item makes, if it makes one. -/
def change? (b : Batch) (e : Entity) (existing : Fields (Fields Json)) (doc : Fields Json)
    (id : Value) : Option Change := do
  let stored ← existing.get? id.key
  let r := patch e b.overrideLocked stored doc (doc.keys.filter fun f => f != e.idField)
  if r.hasChanged then some ⟨id, r⟩ else none

/-- The changes that all items make. -/
def changes (b : Batch) (e : Entity) (existing : Fields (Fields Json)) (ids : List Value) :
    List Change :=
  (b.items.zip ids).filterMap fun (doc, id) => b.change? e existing doc id

/-- Updates the stored records of all items. -/
def update (b : Batch) (st : Store σ) : Call σ (List Record) := do
  let e := st.entity
  Call.lift (b.checkFilled "bulk_update")
  let ids ← Call.lift (b.keys e.idField)
  let existing := indexBy e.idField (← st.findBy e.idField ids)
  Call.lift (checkKnown e ids existing)
  let changed := b.changes e existing ids
  if changed.isEmpty then throw (.noChanges e.name)
  let docs := changed.map (·.record.fields)
  b.checkUnlessDirect st e.idField docs
  return reconcile e docs (← st.update (changed.map fun c => (c.id, c.delta)))

/-! ## Creating or updating -/

/-- The item as it is written: an item of a stored record has all fields of
the batch, and the stored record's values where it has none itself. -/
def completed (b : Batch) (e : Entity) (field : String) (union : List String)
    (existing : Fields (Fields Json)) (doc : Fields Json) (key : Value) : Fields Json :=
  match existing.get? key.key with
  | none => doc
  | some stored =>
    let r := patch e b.overrideLocked stored doc union
    let full := Fields.ofList (union.map fun f => (f, Json.ofOption (r.fields.get? f)))
    let full := full.insert field key.toJson
    match stored.get? e.idField with
    | some id => full.insert e.idField id
    | none => full

/-- The fields that stored records take over. New records alone do not touch
the marker of locked fields. -/
def updatedFields (e : Entity) (field : String) (union : List String) (anyStored : Bool) :
    List String :=
  let fields := union.filter fun f => f != field
  if anyStored then fields else fields.filter fun f => some f != e.lockedField

/-- Updates the stored records of items, and inserts the other items. -/
def upsert (b : Batch) (st : Store σ) : Call σ (List Record) := do
  let e := st.entity
  Call.lift (b.checkFilled "bulk_upsert")
  let field := b.keyField.getD e.idField
  let keys ← Call.lift (b.keys field)
  let union := Fields.allKeys b.items
  let existing := indexBy field (← st.findBy field keys)
  let anyStored := keys.any fun k => existing.contains k.key
  let docs := (b.items.zip keys).map fun (doc, key) => b.completed e field union existing doc key
  b.checkUnlessDirect st field docs
  return reconcile e docs (← st.upsert docs field (updatedFields e field union anyStored))

end EntityStore.Batch
