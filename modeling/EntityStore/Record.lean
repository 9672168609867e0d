-- Records: the fields of one entity, and what they were when the record was
-- clean. Fields are read and written by dotted paths.
import EntityStore.Json.Basic
import EntityStore.Text.Splitting
import EntityStore.Value.Order

namespace EntityStore

structure Record where
  fields : Fields Json := []
  /-- The fields of the clean record. -/
  clean : Fields Json := []

namespace Record

/-- A record as a store holds it. -/
def ofStored (fields : Fields Json) : Record := ⟨fields, fields⟩

/-- A record that no store holds yet. -/
def ofNew (fields : Fields Json) : Record := ⟨fields, []⟩

/-! ## Reading -/

/-- The document that a path of names leads to. -/
def lookup : List String → Fields Json → Option Json
  | [], _ => none
  | [k], fields => fields.get? k
  | k :: path, fields =>
    match fields.get? k with
    | some (.obj inner) => lookup path inner
    | _ => none

def get? (r : Record) (path : String) : Option Json := lookup (Text.split '.' path) r.fields

def has (r : Record) (path : String) : Bool := (r.get? path).isSome

def value? (r : Record) (path : String) : Option Value := (r.get? path).map Value.ofJson

/-- The identity of the record, when it has one. -/
def id? (r : Record) (idField : String) : Option Value :=
  (r.value? idField).filter fun v => !v.isNull

/-! ## Writing -/

/-- The members of an object, and none of anything else. -/
def innerFields : Option Json → Fields Json
  | some (.obj inner) => inner
  | _ => []

/-- The fields with a document at the end of a path. On the way objects are
made, in place of anything else. -/
def store : List String → Json → Fields Json → Fields Json
  | [], _, fields => fields
  | [k], v, fields => fields.insert k v
  | k :: path, v, fields =>
    fields.insert k (.obj (store path v (innerFields (fields.get? k))))

def set (r : Record) (path : String) (v : Json) : Record :=
  { r with fields := store (Text.split '.' path) v r.fields }

def unset (r : Record) (field : String) : Record := { r with fields := r.fields.erase field }

/-- The record counts as clean as it is. -/
def markClean (r : Record) : Record := { r with clean := r.fields }

/-! ## Changes -/

/-- Something differs from the clean record. -/
def hasChanged (r : Record) : Bool := !Json.sameMembers r.fields r.clean

/-- A field that both have with the same document. -/
def isKept (r : Record) (field : String) : Bool :=
  match r.fields.get? field, r.clean.get? field with
  | some v, some w => v == w
  | none, none => true
  | _, _ => false

/-- The fields that were added, changed or removed, in order. -/
def changedFields (r : Record) : List String :=
  (Fields.names (r.fields.keys ++ r.clean.keys)).filter fun k => !r.isKept k

end Record

/-! ## Sets of records -/

namespace Records

/-- The first record with the identity. -/
def find? (records : List Record) (idField : String) (id : Value) : Option Record :=
  records.find? fun r => (r.id? idField).any (· == id)

/-- The identities of the records that have one. -/
def ids (records : List Record) (idField : String) : List Value :=
  records.filterMap (·.id? idField)

end Records

end EntityStore
