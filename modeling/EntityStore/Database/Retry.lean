-- Running a statement until it succeeds or fails for good. A lost
-- connection is opened again, and after a deadlock there is a wait, which
-- doubles each time. Both happen a bounded number of times.
import EntityStore.Database.Basic
import EntityStore.Settings

namespace EntityStore

/-! ## Kinds of faults -/

inductive FaultClass where
  | duplicateKey
  | connectionLost
  | deadlock
  | fatal
  deriving DecidableEq, Repr

namespace FaultClass

def name : FaultClass → String
  | .duplicateKey => "duplicate_key"
  | .connectionLost => "connection_lost"
  | .deadlock => "deadlock"
  | .fatal => "fatal"

/-- The kind of a fault that a number tells. -/
def ofCode? : Nat → Option FaultClass
  | 1062 => some .duplicateKey
  | 2006 => some .connectionLost
  | 2013 => some .connectionLost
  | 1205 => some .deadlock
  | 1213 => some .deadlock
  | _ => none

/-- The kind of a fault that only its message tells. -/
def ofMessage (state : Option String) (message : String) : FaultClass :=
  if state == some "23000" && Text.holds message "Duplicate entry" then .duplicateKey
  else if Text.holds message "gone away" || Text.holds message "Lost connection" then
    .connectionLost
  else if Text.holds message "Deadlock found" || Text.holds message "Lock wait timeout" then
    .deadlock
  else .fatal

end FaultClass

/-- The kind of a fault: by its number, or else by its message. -/
def TableFault.classify (f : TableFault) : FaultClass :=
  (f.code.bind FaultClass.ofCode?).getD (FaultClass.ofMessage f.state f.message)

namespace Retry

/-! ## Bounds -/

/-- The longest wait that can be written down, in milliseconds. -/
def longestWait : Nat := 0x10000000000000000 * 1000 - 1

structure Policy where
  maxReconnects : Nat
  maxDeadlocks : Nat
  /-- The unit of the waits, in the measure of time that waits are counted in. -/
  unit : Nat
  /-- The longest wait that can be written down, in the same measure. -/
  longest : Nat := longestWait

/-- The bounds of the settings. Their waits are counted in milliseconds. -/
def Policy.ofSettings (s : Settings) : Policy where
  maxReconnects := s.maxReconnects
  maxDeadlocks := s.maxDeadlocks
  unit := s.backoffMillis

/-- The waits stop doubling here. -/
def maxDoublings : Nat := 16

/-- The wait after the deadlock with this number. -/
def Policy.backoff (p : Policy) (n : Nat) : Nat :=
  min (p.unit * Nat.pow 2 (min n maxDoublings)) p.longest

/-! ## One fault -/

/-- Counts are words of 32 bits, so none of them comes to this. -/
def countLimit : Nat := 0x100000000

/-- What has happened to a statement so far. -/
structure Attempts where
  executions : Nat := 0
  reconnects : Nat := 0
  deadlocks : Nat := 0
  deriving DecidableEq, Repr

/-- One more execution. -/
def Attempts.executed (a : Attempts) : Attempts := { a with executions := a.executions + 1 }

/-- What follows on a fault. -/
inductive Next where
  | reconnect
  | wait (time : Nat)
  | fail (e : AccessError)

/-- The count of a fault, and what follows on it. A count that would run over
stops the program. -/
def Policy.after (p : Policy) (a : Attempts) (table : String) (f : TableFault) : Attempts × Next :=
  match f.classify with
  | .duplicateKey => (a, .fail (.duplicateKey table f.message))
  | .connectionLost =>
    let a := { a with reconnects := a.reconnects + 1 }
    if countLimit ≤ a.reconnects then (a, .fail .overrun)
    else if a.reconnects > p.maxReconnects then
      (a, .fail (.transient .connectionLost a.executions f.message))
    else (a, .reconnect)
  | .deadlock =>
    let a := { a with deadlocks := a.deadlocks + 1 }
    if countLimit ≤ a.deadlocks then (a, .fail .overrun)
    else if a.deadlocks > p.maxDeadlocks then
      (a, .fail (.transient .deadlock a.executions f.message))
    else (a, .wait (p.backoff a.deadlocks))
  | .fatal => (a, .fail (.fatal f.message))

/-- How many more faults are followed by another attempt. -/
def Policy.left (p : Policy) (a : Attempts) : Nat :=
  (p.maxReconnects - a.reconnects) + (p.maxDeadlocks - a.deadlocks)

theorem Policy.left_executed (p : Policy) (a : Attempts) : p.left a.executed = p.left a := rfl

theorem Policy.left_of_reconnect {p : Policy} {a b : Attempts} {table : String} {f : TableFault}
    (h : p.after a table f = (b, .reconnect)) : p.left b < p.left a := by
  unfold Policy.after at h
  cases hc : f.classify <;> simp only [hc] at h
  · simp at h
  · split at h
    · simp at h
    · split at h
      · simp at h
      · obtain ⟨rfl, -⟩ := Prod.mk.injEq .. ▸ h
        simp only [Policy.left] at *; omega
  · split at h
    · simp at h
    · split at h <;> simp at h
  · simp at h

theorem Policy.left_of_wait {p : Policy} {a b : Attempts} {table : String} {f : TableFault}
    {ms : Nat} (h : p.after a table f = (b, .wait ms)) : p.left b < p.left a := by
  unfold Policy.after at h
  cases hc : f.classify <;> simp only [hc] at h
  · simp at h
  · split at h
    · simp at h
    · split at h <;> simp at h
  · split at h
    · simp at h
    · split at h
      · simp at h
      · obtain ⟨rfl, -⟩ := Prod.mk.injEq .. ▸ h
        simp only [Policy.left] at *; omega
  · simp at h

/-! ## All attempts -/

/-- What is tried next. -/
inductive Phase where
  | execute
  | reconnect

/-- How many more steps there are at most, before a phase. -/
def Policy.budget (p : Policy) (a : Attempts) : Phase → Nat
  | .execute => 2 * p.left a
  | .reconnect => 2 * p.left a + 1

/-- A state with the waits so far. -/
structure Timed (σ : Type) where
  state : σ
  waits : List Nat := []

variable {σ : Type}

/-- Runs a statement from a phase on, until it succeeds or fails for good. -/
def go (db : Database σ) (p : Policy) (role : Role) (s : Sql.Statement) (phase : Phase)
    (a : Attempts) (t : Timed σ) : Except AccessError Output × Timed σ :=
  match phase with
  | .execute =>
    if countLimit ≤ a.executed.executions then (.error .overrun, t)
    else
      match db.execute role s t.state with
      | (.ok out, state) => (.ok out, { t with state := state })
      | (.error f, state) =>
        match _h : p.after a.executed s.table f with
        | (_, .fail e) => (.error e, { t with state := state })
        | (b, .reconnect) => go db p role s .reconnect b { t with state := state }
        | (b, .wait ms) => go db p role s .execute b ⟨state, t.waits ++ [ms]⟩
  | .reconnect =>
    match db.reconnect role t.state with
    | (.ok (), state) => go db p role s .execute a { t with state := state }
    | (.error f, state) =>
      match _h : p.after a s.table f with
      | (_, .fail e) => (.error e, { t with state := state })
      | (b, .reconnect) => go db p role s .reconnect b { t with state := state }
      | (b, .wait ms) => go db p role s .execute b ⟨state, t.waits ++ [ms]⟩
termination_by p.budget a phase
decreasing_by
  · have := Policy.left_of_reconnect _h
    simp only [Policy.budget, Policy.left_executed] at *; omega
  · have := Policy.left_of_wait _h
    simp only [Policy.budget, Policy.left_executed] at *; omega
  · simp only [Policy.budget]; omega
  · have := Policy.left_of_reconnect _h
    simp only [Policy.budget] at *; omega
  · have := Policy.left_of_wait _h
    simp only [Policy.budget] at *; omega

/-- Runs a statement until it succeeds or fails for good. -/
def run (db : Database σ) (p : Policy) (role : Role) (s : Sql.Statement) (t : Timed σ) :
    Except AccessError Output × Timed σ :=
  go db p role s .execute {} t

end Retry

end EntityStore
