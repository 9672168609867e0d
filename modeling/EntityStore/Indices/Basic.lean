-- Documents under identities, in the order in which they came. One identity
-- has one document.
import EntityStore.Documents.Basic
import EntityStore.Value.Basic

namespace EntityStore.Indices

structure Document where
  id : String
  source : Json

/-- The documents of one kind, and how many identities were made for
them. -/
structure Index where
  documents : List Document := []
  made : Nat := 0

namespace Index

/-! ## Looking up -/

def ids (ix : Index) : List String := ix.documents.map Document.id

def get? (ix : Index) (id : String) : Option Json :=
  (ix.documents.find? fun d => d.id == id).map Document.source

/-! ## Identities -/

/-- The identity with a number. -/
def madeId (n : Nat) : String := "auto-" ++ toString n

/-- The number of the next identity: the first that no document has. -/
def nextNumber (ix : Index) : Nat :=
  let numbers := (List.range (ix.documents.length + 1)).map fun i => ix.made + 1 + i
  (numbers.find? fun n => !ix.ids.contains (madeId n)).getD (ix.made + 1)

/-- An identity that no document has. -/
def makeId (ix : Index) : String × Index :=
  (madeId ix.nextNumber, { ix with made := ix.nextNumber })

/-- The given identity, or one that is made. -/
def identify (ix : Index) (id : Option String) : String × Index :=
  match id with
  | some id => (id, ix)
  | none => ix.makeId

/-! ## Storing -/

/-- Puts a document in the place of the one with its identity, or behind all
others. -/
def putIn (id : String) (source : Json) : List Document → List Document
  | [] => [⟨id, source⟩]
  | d :: rest => if d.id = id then ⟨id, source⟩ :: rest else d :: putIn id source rest

def put (ix : Index) (id : String) (source : Json) : Index :=
  { ix with documents := putIn id source ix.documents }

/-- Stores a document under the value that it has in a field, or under an
identity that is made. -/
def seedOne (idField : String) (ix : Index) (source : Json) : Index :=
  let (id, ix) := ix.identify <| ((source.get? idField).filter fun v => !v.isNull).map fun v =>
    (Value.ofJson v).key
  ix.put id source

/-- Stores documents one after the other. -/
def seed (idField : String) (docs : List Json) (ix : Index) : Index :=
  docs.foldl (seedOne idField) ix

/-! ## Writes -/

/-- The members of a document with those of a second one, which win. What is
no object stays as it is. -/
def merge (source : Json) (doc : Fields Json) : Json :=
  match source with
  | .obj members => .obj (Fields.extend members doc)
  | j => j

/-- A write that was refused. -/
def refused (id : String) (status : Nat) (error : String) : WriteStatus :=
  ⟨some id, status, some error⟩

/-- A write under an identity. -/
def writeAs (ix : Index) (id : String) (w : DocumentWrite) : WriteStatus × Index :=
  match ix.get? id, w with
  | some _, .create _ _ => (refused id 409 "version_conflict_engine_exception", ix)
  | some _, .index _ doc => (⟨some id, 200, none⟩, ix.put id (.obj doc))
  | some old, w => (⟨some id, 200, none⟩, ix.put id (merge old w.doc))
  | none, .update _ _ => (refused id 404 "document_missing_exception", ix)
  | none, w => (⟨some id, 201, none⟩, ix.put id (.obj w.doc))

/-- One write. Those for a rejected identity are refused. -/
def write (rejected : List String) (ix : Index) (w : DocumentWrite) : WriteStatus × Index :=
  let (id, ix) := ix.identify w.id?
  if rejected.contains id then (refused id 400 "mapper_parsing_exception", ix) else ix.writeAs id w

/-- Writes one after the other, and what became of each. -/
def writeAll (rejected : List String) : List DocumentWrite → Index → List WriteStatus × Index
  | [], ix => ([], ix)
  | w :: rest, ix =>
    let (status, ix) := ix.write rejected w
    let (statuses, ix) := writeAll rejected rest ix
    (status :: statuses, ix)

end Index

end EntityStore.Indices
