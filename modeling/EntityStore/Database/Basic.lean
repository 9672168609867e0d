-- Databases, by what their calls do: run a statement on a connection, open
-- a connection again, and tell the columns of a table. Writes run on the primary,
-- and reads too while some scope asks for it.
import EntityStore.Entity
import EntityStore.Sql.Row

namespace EntityStore

/-- The connection that a statement runs on. -/
inductive Role where
  | primary
  | replica
  deriving DecidableEq, Repr

def Role.name : Role → String
  | .primary => "primary"
  | .replica => "replica"

/-- What a statement gives. -/
inductive Output where
  | rows (rows : List Row)
  | affected (n : Nat)
  | counted (n : Nat)

namespace Output

/-- The rows of a query. -/
def rowList : Output → List Row
  | .rows rs => rs
  | _ => []

/-- How many rows there are, or were affected or counted. -/
def count : Output → Nat
  | .rows rs => rs.length
  | .affected n => n
  | .counted n => n

end Output

/-- A database whose state is of the type `σ`. Each call takes a state to
its result and the next state. -/
structure Database (σ : Type) where
  connection : String := "default"
  execute : Role → Sql.Statement → σ → Except TableFault Output × σ
  reconnect : Role → σ → Except TableFault Unit × σ
  describe : String → σ → Except TableFault Columns × σ

end EntityStore

namespace EntityStore

structure Router where
  readReplicas : Bool
  /-- How many open scopes ask for the primary. -/
  forced : Nat := 0

namespace Router

def isForced (r : Router) : Bool := r.forced > 0

def route (r : Router) (write : Bool) : Role :=
  if write || !r.readReplicas || r.isForced then .primary else .replica

/-- Opens a scope in which all statements run on the primary. -/
def force (r : Router) : Router := { r with forced := r.forced + 1 }

/-- Closes a scope. -/
def release (r : Router) : Router := { r with forced := r.forced - 1 }

end Router

end EntityStore
