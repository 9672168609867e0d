-- Stores of the records of one entity, by what their calls do.
import EntityStore.Call
import EntityStore.Criteria.Aggregation
import EntityStore.Criteria.Basic
import EntityStore.Entity
import EntityStore.Settings

namespace EntityStore

/-! ## Reports of writes -/

/-- What became of one item of a write. -/
structure ItemReport where
  persisted : Bool
  /-- The identity of the stored record, where it is known. -/
  id : Option Value := none

/-- The items of a write in order. -/
abbrev WriteReport := List ItemReport

/-! ## Stores -/

/-- A store whose state is of the type `σ`. -/
structure Store (σ : Type) where
  entity : Entity
  settings : Settings
  search : Criteria → Call σ Outcome
  insert : List (Fields Json) → Call σ WriteReport
  /-- Inserts items or updates the given fields of those that are there, by
  the values of a field. -/
  upsert : List (Fields Json) → String → List String → Call σ WriteReport
  update : List (Value × Fields Json) → Call σ WriteReport
  delete : List Filter.Group → Call σ Nat

namespace Store

variable {σ : Type}

/-- Criteria for all records whose field has one of the values. -/
def having (field : String) (vs : List Value) : Criteria :=
  .ofGroup (.all [.inList field vs])

/-- All records that a search finds whose field has one of the values. -/
def findWith (search : Criteria → Call σ Outcome) (field : String) (vs : List Value) :
    Call σ (List (Fields Json)) :=
  if vs.isEmpty then pure []
  else do return (← search (having field vs)).rows

/-- All records whose field has one of the values. -/
def findBy (st : Store σ) (field : String) (vs : List Value) : Call σ (List (Fields Json)) :=
  findWith st.search field vs

end Store

end EntityStore
