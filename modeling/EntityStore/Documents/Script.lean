-- A document database that answers from a script, and notes what it was
-- asked for.
import EntityStore.Documents.Basic

namespace EntityStore

/-- A call that a scripted document database was asked for. -/
inductive DocumentCall where
  | search (index : String) (body : Json)
  | write (index : String) (writes : List DocumentWrite)
  | deleteBy (index : String) (body : Json)

/-- What the calls are answered with, one after the other. -/
structure DocumentScript where
  searches : List (Except IndexFault Json) := []
  writes : List (Except IndexFault (List WriteStatus)) := []
  deletes : List (Except IndexFault Nat) := []
  calls : List DocumentCall := []

namespace DocumentScript

def note (s : DocumentScript) (c : DocumentCall) : DocumentScript :=
  { s with calls := s.calls ++ [c] }

/-- The next answer. Without one it is an empty object. -/
def search (index : String) (body : Json) (s : DocumentScript) :
    Except IndexFault Json × DocumentScript :=
  let s := s.note (.search index body)
  match s.searches with
  | [] => (.ok (.obj []), s)
  | reply :: rest => (reply, { s with searches := rest })

/-- The next answer. Without one no write has a status. -/
def write (index : String) (writes : List DocumentWrite) (s : DocumentScript) :
    Except IndexFault (List WriteStatus) × DocumentScript :=
  let s := s.note (.write index writes)
  match s.writes with
  | [] => (.ok [], s)
  | reply :: rest => (reply, { s with writes := rest })

/-- The next answer. Without one nothing is deleted. -/
def deleteBy (index : String) (body : Json) (s : DocumentScript) :
    Except IndexFault Nat × DocumentScript :=
  let s := s.note (.deleteBy index body)
  match s.deletes with
  | [] => (.ok 0, s)
  | reply :: rest => (reply, { s with deletes := rest })

/-- The script as a document database. -/
def database : DocumentDatabase DocumentScript where
  search := search
  write := write
  deleteBy := deleteBy

end DocumentScript

end EntityStore
