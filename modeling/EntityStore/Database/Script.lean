-- A database that answers from a script, and notes what it was asked for.
-- It shows how callers deal with any sequence of results.
import EntityStore.Database.Basic

namespace EntityStore

/-- A call that a scripted database was asked for. -/
inductive ScriptCall where
  | execute (role : Role) (s : Sql.Statement)
  | reconnect (role : Role)
  | describe (table : String)

structure Script where
  /-- What every question for columns is answered with. -/
  columns : Except TableFault Columns
  /-- What statements are answered with, one after the other. -/
  replies : List (Except TableFault Output) := []
  /-- The faults of opening connections, one after the other. -/
  reconnects : List (Option TableFault) := []
  calls : List ScriptCall := []

namespace Script

def note (s : Script) (c : ScriptCall) : Script := { s with calls := s.calls ++ [c] }

/-- The next reply. Without one a statement affects nothing. -/
def execute (role : Role) (statement : Sql.Statement) (s : Script) :
    Except TableFault Output × Script :=
  let s := s.note (.execute role statement)
  match s.replies with
  | [] => (.ok (.affected 0), s)
  | reply :: rest => (reply, { s with replies := rest })

/-- The next fault. Without one the connection opens. -/
def reconnect (role : Role) (s : Script) : Except TableFault Unit × Script :=
  let s := s.note (.reconnect role)
  match s.reconnects with
  | [] => (.ok (), s)
  | none :: rest => (.ok (), { s with reconnects := rest })
  | some f :: rest => (.error f, { s with reconnects := rest })

def describe (table : String) (s : Script) : Except TableFault Columns × Script :=
  (s.columns, s.note (.describe table))

/-- The script as a database. -/
def database : Database Script where
  execute := execute
  reconnect := reconnect
  describe := describe

end Script

end EntityStore
