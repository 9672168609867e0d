-- Batches: records that are written together. No two items of a batch share the value of a
-- unique field, and no item shares one with another stored record. Values count as shared where
-- the fields of the scope are equal too.
import EntityStore.Entity
import EntityStore.Json.Reader
import EntityStore.Record
import EntityStore.Store.Basic
import EntityStore.Value.Order

namespace EntityStore

structure Batch where
  items : List (Fields Json) := []
  /-- The field by which items meet stored records; the identity if there is
  none. -/
  keyField : Option String := none
  /-- Uniqueness is left to the store. -/
  direct : Bool := false
  /-- Locked fields are written too. -/
  overrideLocked : Bool := false

namespace Batch

/-! ## Making batches -/

/-- The items of a list, with their places. -/
def numbered {α : Type} (xs : List α) : List (Nat × α) := xs.zipIdx.map fun (x, i) => (i, x)

/-- An item has to be an object. -/
def item (i : Nat) (doc : Json) : Except AccessError (Fields Json) :=
  match doc with
  | .obj members => .ok members
  | other => .error (.batchShape s!"item #{i} is not an object: {other.compact}")

/-- The batch of a list of documents. -/
def ofJson (docs : List Json) : Except AccessError Batch := do
  return { items := ← (numbered docs).mapM fun (i, doc) => item i doc }

/-! ## Checks -/

/-- An empty batch is refused. -/
def checkFilled (b : Batch) (operation : String) : Except AccessError Unit :=
  if b.items.isEmpty then .error (.emptyBatch operation) else .ok ()

/-- The required fields that an item does not have. -/
def missingFields (e : Entity) (doc : Fields Json) : List String :=
  e.requiredFields.filter fun f => (Json.present? doc f).isNone

/-- Every item has all required fields. -/
def checkRequired (b : Batch) (e : Entity) : Except AccessError Unit :=
  (numbered b.items).forM fun (i, doc) =>
    let missing := missingFields e doc
    let names := ", ".intercalate missing
    if missing.isEmpty then .ok ()
    else .error (.batchShape s!"item #{i} is missing required fields: {names}")

/-- The values of a field, which every item has to have. -/
def keys (b : Batch) (field : String) : Except AccessError (List Value) :=
  (numbered b.items).mapM fun (i, doc) =>
    match Json.present? doc field with
    | some v => .ok (.ofJson v)
    | none => .error (.batchShape s!"item #{i} has no '{field}'")

/-! ## Stored records -/

/-- Stored records by the key texts of a field. -/
def indexBy (field : String) (rows : List (Fields Json)) : Fields (Fields Json) :=
  Fields.ofList (rows.filterMap fun row =>
    (row.get? field).map fun v => ((Value.ofJson v).key, row))

/-- The texts of a list, without anything else. -/
def listedTexts (doc : Json) : List String := (doc.items?.getD []).filterMap Json.text?

/-- The fields that a marker lists. The list may be written as a text. -/
def lockedBy (marker : Option Json) : List String :=
  match marker with
  | some (.str s) => ((Json.parse? s).map listedTexts).getD []
  | some doc => listedTexts doc
  | none => []

/-- The locked fields of a stored record. -/
def lockedFields (e : Entity) (stored : Fields Json) (override : Bool) : List String :=
  match e.lockedField with
  | some marker => if override then [] else lockedBy (stored.get? marker)
  | none => []

/-- The stored record with the fields of an item, but for locked ones. -/
def patch (e : Entity) (override : Bool) (stored doc : Fields Json) (fields : List String) :
    Record :=
  let locked := lockedFields e stored override
  (fields.filter fun f => !locked.contains f).foldl
    (fun r f => match doc.get? f with
      | some v => r.set f v
      | none => r)
    (.ofStored stored)

/-! ## What was written -/

/-- The record of a written item. The store may have given it an
identity. -/
def written? (idField : String) (doc : Fields Json) (r : Option ItemReport) : Option Record :=
  match r with
  | some ⟨true, some id⟩ =>
    let doc := if (Json.present? doc idField).isNone then doc.insert idField id.toJson else doc
    some (.ofStored doc)
  | some ⟨true, none⟩ => some (.ofStored doc)
  | _ => none

/-- The records of the items that were persisted. -/
def reconcile (e : Entity) (docs : List (Fields Json)) (report : WriteReport) : List Record :=
  (numbered docs).filterMap fun (i, doc) => written? e.idField doc report[i]?

/-! ## Names of items -/

/-- The name of an item in a report: its identity, or its place. -/
def subject (idField : String) (i : Nat) (doc : Fields Json) : String :=
  match Json.present? doc idField with
  | some id => (Value.ofJson id).key
  | none => s!"#{i}"

/-- An item with its name in a report. -/
structure Subject where
  name : String
  doc : Fields Json

def subjects (idField : String) (docs : List (Fields Json)) : List Subject :=
  (numbered docs).map fun (i, doc) => ⟨subject idField i doc, doc⟩

/-! ## Inside the batch -/

/-- The value of a member, or null. -/
def valueOf (doc : Fields Json) (field : String) : Value :=
  ((doc.get? field).map Value.ofJson).getD .null

/-- The value of a unique field, and what it counts for. -/
def scopedKey (e : Entity) (doc : Fields Json) (v : Json) : List Value :=
  .ofJson v :: e.uniqueScope.map (valueOf doc)

/-- The first item with a key, among those met so far. -/
def firstWith? (key : List Value) (seen : List (List Value × String)) : Option String :=
  (seen.find? fun (k, _) => (Value.orderLists k key).isEq).map (·.2)

/-- One more item: it repeats the key of an earlier one, or is the first one
with its key. -/
def repeatStep (e : Entity) (field : String)
    (acc : ConflictReport × List (List Value × String)) (s : Subject) :
    ConflictReport × List (List Value × String) :=
  match Json.present? s.doc field with
  | none => acc
  | some v =>
    let key := scopedKey e s.doc v
    match firstWith? key acc.2 with
    | some other => ((acc.1.record other field v).record s.name field v, acc.2)
    | none => (acc.1, acc.2 ++ [(key, s.name)])

/-- The report with the repeats of a field. -/
def repeats (e : Entity) (ss : List Subject) (r : ConflictReport) (field : String) :
    ConflictReport := (ss.foldl (repeatStep e field) (r, [])).1

/-! ## Against stored records -/

/-- The different values of a field, in order. -/
def fieldValues (docs : List (Fields Json)) (field : String) : List Value :=
  Value.dropRepeats (Value.sort
    ((docs.filterMap fun doc => Json.present? doc field).map Value.ofJson))

/-- A condition for the stored records that share a value of a field. -/
def sharing? (docs : List (Fields Json)) (field : String) : Option Filter.Condition :=
  let vs := fieldValues docs field
  if vs.isEmpty then none else some (.inList field vs)

/-- The members are equal as values. -/
def sameMember (a b : Fields Json) (field : String) : Bool := valueOf a field == valueOf b field

/-- The stored record is the item itself. -/
def isSelf (idField : String) (candidate doc : Fields Json) : Bool :=
  (Json.present? doc idField).isSome && sameMember candidate doc idField

/-- The stored record has the item's value where the item must be alone with
it. -/
def clashes (e : Entity) (idField field : String) (candidate doc : Fields Json) : Bool :=
  sameMember candidate doc field && e.uniqueScope.all (sameMember candidate doc) &&
    !isSelf idField candidate doc

/-- The report with a field of an item that clashes with a stored record. -/
def clashStep (e : Entity) (idField : String) (candidates : List (Fields Json)) (s : Subject)
    (r : ConflictReport) (field : String) : ConflictReport :=
  match Json.present? s.doc field with
  | some v =>
    if candidates.any fun c => clashes e idField field c s.doc then r.record s.name field v else r
  | none => r

/-- The report with all clashes. -/
def clashing (e : Entity) (idField : String) (candidates : List (Fields Json)) (ss : List Subject)
    (r : ConflictReport) : ConflictReport :=
  ss.foldl (fun r s => e.uniqueFields.foldl (clashStep e idField candidates s) r) r

/-! ## The check -/

variable {σ : Type}

/-- Refuses items that share what has to be unique. One search finds all
stored records that may clash. -/
def checkUnique (st : Store σ) (idField : String) (docs : List (Fields Json)) : Call σ Unit := do
  let e := st.entity
  if e.uniqueFields.isEmpty || docs.isEmpty then return
  let ss := subjects idField docs
  let r := e.uniqueFields.foldl (repeats e ss) (.empty e.name)
  let conditions := e.uniqueFields.filterMap (sharing? docs)
  let candidates ←
    if conditions.isEmpty then pure []
    else do pure (← st.search (.ofGroup (.any conditions))).rows
  let r := clashing e idField candidates ss r
  if !r.isEmpty then throw (.conflict r)

end Batch

end EntityStore
