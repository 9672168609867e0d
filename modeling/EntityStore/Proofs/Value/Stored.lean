-- What is left of a document after it was stored: it is found by its own value, and its key is
-- the same text. Doubles count as equal when they are the same, so that zero is not negative
-- zero, and documents do when they are written in the same way. What counts as equal to the
-- value of a document does so when it is read again.
import EntityStore.Proofs.Json.Sound
import EntityStore.Value.Order

namespace EntityStore.Value

/-! ## Finding a value by itself -/

theorem agrees_ofJson_self {j : Json} (hj : j.isNull = false) :
    agrees (ofJson j) (ofJson j) = true := by
  have hsome : ∀ v : Value, v.unwrap = v → compareUnwrapped v v = some (order v v) →
      order v v = .eq → agrees v v = true := by
    intro v hunwrap hcompare horder
    rw [agrees, compares, compare?, hunwrap, hcompare, horder]
    rfl
  cases j with
  | null => cases hj
  | bool b => exact hsome (.bool b) rfl rfl (by simp [order])
  | int n =>
    rw [ofJson]
    split
    · exact hsome (.int n) rfl rfl (by simp [order])
    · exact hsome (.float (Float.ofInt n)) rfl rfl (by simp [order])
  | float x => exact hsome (.float x) rfl rfl (by simp [order])
  | str s => exact hsome (.text s) rfl rfl (by simp [order])
  | arr items => exact hsome (.json (.arr items)) rfl rfl (by simp [order])
  | obj members => exact hsome (.json (.obj members)) rfl rfl (by simp [order])

/-- A document contains what its value is written as. -/
theorem covers_ofJson {j : Json} (hj : j.isSound = true) : j.covers (ofJson j).toJson = true := by
  have hself := Json.covers_self j hj
  cases j with
  | int n =>
    rw [ofJson]
    split
    · exact hself
    · have hfinite : (Float.ofInt n).isFinite = true := hj
      rw [toJson, if_pos hfinite]
      exact Float.beq_self hfinite
  | float x =>
    have hfinite : x.isFinite = true := hj
    rw [ofJson, toJson, if_pos hfinite]
    exact hself
  | _ => exact hself

/-- A value is found by what is read from its document. -/
theorem agrees_ofJson_toJson {v : Value} (hv : v.toJson.isNull = false) :
    agrees v (ofJson v.toJson) = true := by
  cases v with
  | json doc =>
    have hunwrap : unwrap (.json doc) = unwrap (ofJson doc) := by
      cases doc with
      | arr items => rfl
      | obj members => rfl
      | int n =>
        have hscalar : unwrap (.json (.int n)) = ofJson (.int n) := rfl
        rw [hscalar, ofJson]
        split <;> rfl
      | _ => rfl
    have hself : agrees (ofJson doc) (ofJson doc) = true := agrees_ofJson_self hv
    rw [agrees, compares, compare?] at hself ⊢
    rwa [toJson, hunwrap]
  | int n =>
    rw [toJson, ofJson]
    split
    · simp [agrees, compares, compare?, unwrap, compareUnwrapped, order]
    · simp [agrees, compares, compare?, unwrap, compareUnwrapped, order]
  | float x =>
    rw [toJson] at hv ⊢
    split
    · exact agrees_ofJson_self (j := .float x) rfl
    · rename_i hfinite
      rw [if_neg hfinite] at hv
      cases hv
  | null => cases hv
  | bool b => exact agrees_ofJson_self (j := .bool b) rfl
  | text s => exact agrees_ofJson_self (j := .str s) rfl

/-! ## Writing and reading again -/

/-- What is written of a document is read as the value of the document, if
there is anything to read. -/
theorem ofJson_toJson_of_isNull {j : Json} (hj : (ofJson j).toJson.isNull = j.isNull) :
    ofJson (ofJson j).toJson = ofJson j := by
  cases j with
  | int n =>
    by_cases hn : n ≤ maxInt
    · simp only [ofJson, toJson, if_pos hn]
    · rw [ofJson, if_neg hn, toJson] at hj ⊢
      by_cases hfinite : (Float.ofInt n).isFinite = true
      · rw [if_pos hfinite, ofJson]
      · rw [if_neg hfinite] at hj
        cases hj
  | float x =>
    rw [ofJson, toJson] at hj ⊢
    by_cases hfinite : x.isFinite = true
    · rw [if_pos hfinite, ofJson]
    · rw [if_neg hfinite] at hj
      cases hj
  | _ => rfl

/-- Writing a value and reading it again gives the value. -/
theorem ofJson_toJson_of_isSound {j : Json} (hj : j.isSound = true) :
    ofJson (ofJson j).toJson = ofJson j := by
  apply ofJson_toJson_of_isNull
  cases j with
  | int n =>
    by_cases hn : n ≤ maxInt
    · rw [ofJson, if_pos hn, toJson]
    · have hfinite : (Float.ofInt n).isFinite = true := hj
      rw [ofJson, if_neg hn, toJson, if_pos hfinite]
      rfl
  | float x =>
    have hfinite : x.isFinite = true := hj
    rw [ofJson, toJson, if_pos hfinite]
  | _ => rfl

/-- Its key is the same text then. -/
theorem key_ofJson_toJson {j : Json} (hj : j.isSound = true) :
    (ofJson (ofJson j).toJson).key = (ofJson j).key := by
  rw [ofJson_toJson_of_isSound hj]

end EntityStore.Value

namespace EntityStore

/-! ## Doubles -/

theorem Float.eq_of_toBits_eq {x y : Float} (h : x.toBits = y.toBits) : x = y := by
  obtain ⟨⟨a, ha⟩⟩ := x
  obtain ⟨⟨b, hb⟩⟩ := y
  have hab : a = b := h
  subst hab
  rfl

theorem shiftRight_beq_one (b : UInt64) :
    (b >>> 63 == 1) = decide (0x8000000000000000 ≤ b.toNat) := by
  rw [Bool.eq_iff_iff, beq_iff_eq, decide_eq_true_iff, ← UInt64.toNat_inj, UInt64.toNat_shiftRight]
  have hlt := b.toNat_lt
  have hshift : b.toNat >>> 63 = b.toNat / 2 ^ 63 := Nat.shiftRight_eq_div_pow ..
  show b.toNat >>> 63 = 1 ↔ _
  omega

/-- Doubles in the same place of the order are the same. -/
theorem Decimal.rank_inj {x y : Float} (h : rank x = rank y) : x = y := by
  apply Float.eq_of_toBits_eq
  rw [← UInt64.toNat_inj]
  have hx := x.toBits.toNat_lt
  have hy := y.toBits.toNat_lt
  unfold rank magnitudeBits isNegative at h
  rw [shiftRight_beq_one, shiftRight_beq_one] at h
  simp only [decide_eq_true_eq] at h
  split at h <;> split at h <;> omega

namespace Value

variable {v w : Value} {j : Json}

theorem eq_of_isEq_compare {α : Type} [Ord α] [Std.LawfulEqOrd α] {a b : α}
    (h : (compare a b).isEq = true) : a = b :=
  Std.LawfulEqCmp.eq_of_compare (Ordering.isEq_iff_eq_eq.mp h)

/-- What counts as equal to a double is the same number as a double. -/
theorem number_of_float_beq {x : Float} (h : (float x == w) = true) : w.number? = some x := by
  have horder : (order (float x) w).isEq = true := h
  cases w with
  | int n => exact congrArg some (Decimal.rank_inj (eq_of_isEq_compare horder)).symm
  | float y => exact congrArg some (Decimal.rank_inj (eq_of_isEq_compare horder)).symm
  | _ => cases horder

theorem compact_of_json_beq {doc : Json} (h : (json doc == w) = true) :
    ∃ d, w = json d ∧ doc.compact = d.compact := by
  have horder : (order (json doc) w).isEq = true := h
  cases w with
  | json d => exact ⟨d, rfl, eq_of_isEq_compare horder⟩
  | _ => cases horder

/-! ## Values of documents -/

theorem isFinite_of_number (hj : j.isSound = true) {x : Float}
    (h : (ofJson j).number? = some x) : x.isFinite = true := by
  cases j with
  | int n =>
    have hnumber : (ofJson (.int n)).number? = some (Float.ofInt n) := by
      rw [ofJson]
      split <;> rfl
    cases hnumber.symm.trans h
    exact hj
  | float y =>
    cases h
    exact hj
  | _ => cases h

theorem eq_of_ofJson_eq_json {d : Json} (h : ofJson j = json d) : j = d := by
  cases j with
  | int n =>
    rw [ofJson] at h
    split at h <;> cases h
  | arr items => exact json.inj h
  | obj members => exact json.inj h
  | _ => cases h

/-- What counts as equal to the value of a document is read as an equal value
again, or is a document that is written in the same way. -/
theorem ofJson_toJson_of_beq (hj : j.isSound = true) (h : (v == ofJson j) = true) :
    (ofJson v.toJson == ofJson j) = true ∨ v.toJson.compact = j.compact := by
  cases v with
  | null => exact .inl h
  | bool b => exact .inl h
  | text s => exact .inl h
  | json doc =>
    obtain ⟨d, hd, hcompact⟩ := compact_of_json_beq h
    rw [eq_of_ofJson_eq_json hd]
    exact .inr hcompact
  | int n =>
    by_cases hn : n ≤ maxInt
    · rw [toJson, ofJson, if_pos hn]
      exact .inl h
    · -- A whole number that is too large is read as a double, and so is any that
      -- it counts as equal to.
      rw [toJson, ofJson, if_neg hn]
      refine .inl ?_
      have horder : (order (int n) (ofJson j)).isEq = true := h
      cases hw : ofJson j with
      | int m =>
        rw [hw] at horder
        obtain rfl : n = m := eq_of_isEq_compare horder
        cases j with
        | int k =>
          rw [ofJson] at hw
          split at hw
          · cases hw
            contradiction
          · cases hw
        | _ => cases hw
      | float y =>
        rw [hw] at h
        exact h
      | _ =>
        rw [hw] at horder
        cases horder
  | float x =>
    rw [toJson, if_pos (isFinite_of_number hj (number_of_float_beq h))]
    exact .inl h

end Value

end EntityStore
