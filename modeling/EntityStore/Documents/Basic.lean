-- Document databases, by what their calls do: search an index, write many
-- documents at once, and delete those that a query finds.
import EntityStore.Error

namespace EntityStore

/-- One write of many. -/
inductive DocumentWrite where
  /-- Adds a document, which must not be there. -/
  | create (id : Option String) (doc : Fields Json)
  /-- Adds a document or puts it in the place of the one that is there. -/
  | index (id : Option String) (doc : Fields Json)
  /-- Adds a document or merges it into the one that is there. -/
  | upsert (id : String) (doc : Fields Json)
  /-- Merges a document into one that has to be there. -/
  | update (id : String) (doc : Fields Json)

namespace DocumentWrite

/-- The identity that a write is for. -/
def id? : DocumentWrite → Option String
  | .create id _ => id
  | .index id _ => id
  | .upsert id _ => some id
  | .update id _ => some id

/-- The document of a write. -/
def doc : DocumentWrite → Fields Json
  | .create _ doc => doc
  | .index _ doc => doc
  | .upsert _ doc => doc
  | .update _ doc => doc

end DocumentWrite

/-- What became of one write of many. -/
structure WriteStatus where
  id : Option String
  status : Nat
  error : Option String := none

def WriteStatus.isSuccess (s : WriteStatus) : Bool :=
  200 ≤ s.status && s.status < 300 && s.error.isNone

/-- A document database whose state is of the type `σ`. -/
structure DocumentDatabase (σ : Type) where
  search : String → Json → σ → Except IndexFault Json × σ
  write : String → List DocumentWrite → σ → Except IndexFault (List WriteStatus) × σ
  deleteBy : String → Json → σ → Except IndexFault Nat × σ

end EntityStore
