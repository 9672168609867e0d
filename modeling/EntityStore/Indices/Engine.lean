-- A document database held in memory. It keeps the searches that it was
-- asked for, and fails where it is told to.
import EntityStore.Indices.Hits

namespace EntityStore.Indices

structure Engine where
  indices : Fields Index := []
  /-- Writes for these identities are refused. -/
  rejected : List String := []
  /-- Searches meet these faults first, one after the other. -/
  faults : List IndexFault := []
  searches : List Json := []

namespace Engine

/-! ## Indices -/

def index? (e : Engine) (name : String) : Option Index := e.indices.get? name

/-- An index, which has no documents where there is none. -/
def indexOrNew (e : Engine) (name : String) : Index := (e.index? name).getD {}

def find (e : Engine) (name : String) : Except IndexFault Index :=
  match e.index? name with
  | some ix => .ok ix
  | none => .error ⟨some 404, s!"no such index [{name}]"⟩

def store (e : Engine) (name : String) (ix : Index) : Engine :=
  { e with indices := e.indices.insert name ix }

/-- Stores documents under the values of a field, and makes the index where
there is none. -/
def seed (e : Engine) (name idField : String) (docs : List Json) : Engine :=
  e.store name ((e.indexOrNew name).seed idField docs)

def documents (e : Engine) (name : String) : List Document := (e.indexOrNew name).documents

def get? (e : Engine) (name id : String) : Option Json := (e.indexOrNew name).get? id

def reject (e : Engine) (id : String) : Engine := { e with rejected := e.rejected ++ [id] }

def failNextSearch (e : Engine) (f : IndexFault) : Engine := { e with faults := e.faults ++ [f] }

/-! ## Calls -/

/-- The answer to a search that meets no fault. -/
def answer (e : Engine) (name : String) (body : Json) : Except IndexFault Json := do
  let ix ← e.find name
  let r ← Request.ofJson body
  r.answer name ix

def search (name : String) (body : Json) (e : Engine) : Except IndexFault Json × Engine :=
  let e := { e with searches := e.searches ++ [body] }
  match e.faults with
  | f :: rest => (.error f, { e with faults := rest })
  | [] => (e.answer name body, e)

/-- Writes many documents, and makes the index where there is none. -/
def write (name : String) (ws : List DocumentWrite) (e : Engine) :
    Except IndexFault (List WriteStatus) × Engine :=
  let (statuses, ix) := (e.indexOrNew name).writeAll e.rejected ws
  (.ok statuses, e.store name ix)

/-- The query of a request to delete. -/
def deletion (body : Json) : Except IndexFault Search.Query := do
  Breakdown.need (← clause? (body.get? "query")) "delete_by_query needs a query"

/-- Deletes the documents that a query finds, and counts them. -/
def deleteBy (name : String) (body : Json) (e : Engine) : Except IndexFault Nat × Engine :=
  match deletion body, e.find name with
  | .error f, _ => (.error f, e)
  | .ok _, .error f => (.error f, e)
  | .ok q, .ok ix =>
    let kept := ix.documents.filter fun d => !finds q d.source
    (.ok (ix.documents.length - kept.length), e.store name { ix with documents := kept })

/-- The engine as a document database. -/
def database : DocumentDatabase Engine where
  search := search
  write := write
  deleteBy := deleteBy

end Engine

end EntityStore.Indices
