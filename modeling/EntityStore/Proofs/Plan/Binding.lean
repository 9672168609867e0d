-- What a column makes of a document. Reading the value as a document and
-- binding that again changes nothing.
import EntityStore.Batch.Basic
import EntityStore.Plan.Conditions
import EntityStore.Proofs.Value.Kinds
import EntityStore.Proofs.Value.Stored

namespace EntityStore

namespace Plan.Scope

variable {s : Scope} {c : String} {j : Json} {doc : Option Json}

theorem bind_some (hnull : j.isNull = false) :
    s.bind c (some j) = if s.columns.isJson c then .json j else .ofJson j := by
  cases j with
  | null => cases hnull
  | _ => rfl

theorem bind_of_isNull (hnull : j.isNull = true) : s.bind c (some j) = .null := by
  cases j with
  | null => rfl
  | _ => cases hnull

theorem bind_ofOption : s.bind c (some (Json.ofOption doc)) = s.bind c doc := by
  cases doc with
  | none => rfl
  | some j => rfl

/-- A value that was bound is bound as the same again. -/
theorem bind_toJson_bind (hsound : ∀ j, doc = some j → j.isSound = true) :
    s.bind c (some (s.bind c doc).toJson) = s.bind c doc := by
  cases doc with
  | none => rfl
  | some j =>
    cases hnull : j.isNull with
    | true => rw [bind_of_isNull hnull]; rfl
    | false =>
      rw [bind_some hnull]
      split
      · rename_i hjson
        exact (bind_some hnull).trans (if_pos hjson)
      · rename_i hscalar
        have hread := Value.ofJson_toJson_of_isSound (hsound j rfl)
        have hwritten : (Value.ofJson j).toJson.isNull = false := by
          rw [← Value.isNull_ofJson, hread, Value.isNull_ofJson, hnull]
        rw [bind_some hwritten, if_neg hscalar, hread]

/-- A bound value is read as the value of its document. -/
theorem ofJson_toJson_bind (hsound : ∀ j, doc = some j → j.isSound = true) :
    Value.ofJson (s.bind c doc).toJson = (doc.map Value.ofJson).getD .null := by
  cases doc with
  | none => rfl
  | some j =>
    rw [Option.map_some, Option.getD_some]
    cases hnull : j.isNull with
    | true =>
      have hread : Value.ofJson j = .null := Value.isNull_iff.mp ((Value.isNull_ofJson j).trans hnull)
      rw [bind_of_isNull hnull, hread]
      rfl
    | false =>
      rw [bind_some hnull]
      split
      · rfl
      · exact Value.ofJson_toJson_of_isSound (hsound j rfl)

/-- A bound value counts as the value of its document. -/
theorem unwrap_bind : (s.bind c doc).unwrap = (doc.map Value.ofJson).getD .null := by
  have hread : ∀ j : Json, (Value.ofJson j).unwrap = .ofJson j := by
    intro j
    cases j with
    | int n =>
      rw [Value.ofJson]
      split <;> rfl
    | _ => rfl
  cases doc with
  | none => rfl
  | some j =>
    rw [Option.map_some, Option.getD_some]
    cases hnull : j.isNull with
    | true =>
      rw [bind_of_isNull hnull]
      exact (Value.isNull_iff.mp ((Value.isNull_ofJson j).trans hnull)).symm
    | false =>
      rw [bind_some hnull]
      split
      · cases j <;> rfl
      · exact hread j

end Plan.Scope

/-- A marker of locked fields lists the same when it was bound. -/
theorem Batch.lockedBy_bind (s : Plan.Scope) (c : String) (j : Json) :
    lockedBy (some (s.bind c (some j)).toJson) = lockedBy (some j) := by
  cases hnull : j.isNull with
  | true =>
    rw [Plan.Scope.bind_of_isNull hnull]
    cases j with
    | null => rfl
    | _ => cases hnull
  | false =>
    rw [Plan.Scope.bind_some hnull]
    split
    · rfl
    · cases j with
      | null => rfl
      | int n =>
        rw [Value.ofJson]
        split
        · rfl
        · rw [Value.toJson]
          split <;> rfl
      | float x =>
        rw [Value.ofJson, Value.toJson]
        split <;> rfl
      | _ => rfl

end EntityStore
