-- Calls on a state. A call gives a result or an error, and in both cases
-- the state after it.
import EntityStore.Error

namespace EntityStore

/-- A call on a state of the type `σ`. -/
abbrev Call (σ α : Type) := ExceptT AccessError (StateM σ) α

namespace Call

variable {σ τ α β : Type}

/-- A call from a function on states. -/
def mk (f : σ → Except AccessError α × σ) : Call σ α := f

/-- What a call gives on a state, and the state after it. -/
def on (c : Call σ α) (s : σ) : Except AccessError α × σ := c s

/-- A result that needs no state. -/
def lift (r : Except AccessError α) : Call σ α := mk fun s => (r, s)

/-- A call on a part of a state. -/
def part (get : τ → σ) (set : τ → σ → τ) (c : Call σ α) : Call τ α :=
  mk fun t =>
    let (r, s) := c.on (get t)
    (r, set t s)

/-! ## Laws -/

theorem on_lift (r : Except AccessError α) (s : σ) : (lift r).on s = (r, s) := rfl

/-- After a call that gives a result, the rest goes on in the state that it
left. -/
theorem on_bind {c : Call σ α} {f : α → Call σ β} {s t : σ} {x : α} (h : c.on s = (.ok x, t)) :
    on (c >>= f) s = (f x).on t := by
  have hbind : on (c >>= f) s =
      match c.on s with
      | (.ok x, t) => (f x).on t
      | (.error e, t) => (.error e, t) := by
    simp only [on, Bind.bind, ExceptT.bind, ExceptT.mk, StateT.bind]
    cases hc : c s with
    | mk r t =>
      cases r with
      | ok x => rfl
      | error e => rfl
  rw [hbind, h]

end Call

end EntityStore
