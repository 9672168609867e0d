-- Values of one kind: whole numbers, texts or booleans. A query compares two
-- of them the way they are ordered, and a document keeps them as they are. What a
-- query finds between any two values is the other way round from the other side.
import EntityStore.Proofs.Json.Sound
import EntityStore.Proofs.Value.Distinct
import EntityStore.Value.Order

namespace EntityStore

/-! ## Kinds -/

/-- The kind of the values in a field. -/
inductive Kind where
  | integer
  | text
  | boolean
  deriving DecidableEq, Repr

/-- The least whole number that a column holds. -/
def Value.minInt : Int := -0x8000000000000000

/-- The value is of the kind. Null is of none. -/
def Kind.Has : Kind → Value → Prop
  | .integer, .int n => Value.minInt ≤ n ∧ n ≤ Value.maxInt
  | .text, .text _ => True
  | .boolean, .bool _ => True
  | _, _ => False

instance (k : Kind) (v : Value) : Decidable (k.Has v) := by
  cases k <;> cases v <;> first
    | exact inferInstanceAs (Decidable (_ ∧ _))
    | exact .isTrue trivial
    | exact .isFalse id

/-- The value is of the kind, or null. -/
def Kind.Allows (k : Kind) (v : Value) : Prop := v = .null ∨ k.Has v

theorem Value.isNull_iff {v : Value} : v.isNull = true ↔ v = .null := by
  cases v <;> simp [isNull]

instance (k : Kind) (v : Value) : Decidable (k.Allows v) :=
  decidable_of_iff (v.isNull = true ∨ k.Has v) (or_congr_left Value.isNull_iff)

variable {k : Kind} {v w : Value}

theorem Kind.not_has_null (k : Kind) : ¬ k.Has .null := by
  cases k <;> exact id

theorem Kind.allows_null (k : Kind) : k.Allows .null := Or.inl rfl

theorem Kind.not_has_json (k : Kind) (doc : Json) : ¬ k.Has (.json doc) := by
  cases k <;> exact id

theorem Kind.not_allows_json (k : Kind) (doc : Json) : ¬ k.Allows (.json doc) := by
  rintro (h | h)
  · cases h
  · exact k.not_has_json doc h

theorem Kind.not_allows_float (k : Kind) (x : Float) : ¬ k.Allows (.float x) := by
  rintro (h | h)
  · cases h
  · cases k <;> exact h

theorem Kind.Has.isNull (h : k.Has v) : v.isNull = false := by
  cases v with
  | null => exact absurd h k.not_has_null
  | _ => rfl

theorem Kind.Has.unwrap (h : k.Has v) : v.unwrap = v := by
  cases v with
  | json doc => exact absurd h (k.not_has_json doc)
  | _ => rfl

theorem Kind.Has.eq_int (h : Kind.integer.Has v) : ∃ n, v = .int n := by
  cases v with
  | int n => exact ⟨n, rfl⟩
  | _ => exact h.elim

/-! ## Documents of values -/

theorem Kind.Has.ofJson_toJson (h : k.Has v) : Value.ofJson v.toJson = v := by
  cases v with
  | null => exact absurd h k.not_has_null
  | bool b => rfl
  | text s => rfl
  | int n =>
    cases k with
    | integer => rw [Value.toJson, Value.ofJson, if_pos h.2]
    | _ => exact h.elim
  | float x => exact absurd (Or.inr h) (k.not_allows_float x)
  | json doc => exact absurd h (k.not_has_json doc)

theorem Value.isNull_ofJson (j : Json) : (Value.ofJson j).isNull = j.isNull := by
  cases j with
  | int n =>
    rw [Value.ofJson]
    split <;> rfl
  | _ => rfl

/-- What is read as null or as a value of a kind is the document of it. -/
theorem toJson_ofJson_of_allows {j : Json} (h : k.Allows (Value.ofJson j)) :
    (Value.ofJson j).toJson = j := by
  cases j with
  | int n =>
    by_cases hn : n ≤ Value.maxInt
    · rw [Value.ofJson, if_pos hn, Value.toJson]
    · rw [Value.ofJson, if_neg hn] at h
      exact absurd h (k.not_allows_float _)
  | float x => exact absurd h (k.not_allows_float x)
  | _ => rfl

/-! ## Comparing -/

theorem compare_swap {α : Type} [Ord α] [Std.OrientedOrd α] (a b : α) :
    (compare a b).swap = compare b a := Std.OrientedCmp.eq_swap.symm

/-- The order of two values is the other way round from the other side. -/
theorem Value.order_swap (v w : Value) : (Value.order v w).swap = Value.order w v := by
  cases v <;> cases w <;> exact compare_swap _ _

/-- What a query finds between two values of a kind is their order. -/
theorem Kind.Has.compare (hv : k.Has v) (hw : k.Has w) :
    Value.compare? v w = some (Value.order v w) := by
  cases k <;> cases v <;> cases w <;> first | exact hv.elim | exact hw.elim | rfl

theorem Kind.Has.sortOrder (hv : k.Has v) (hw : k.Has w) :
    Value.sortOrder v w = Value.order v w := by
  rw [Value.sortOrder, hv.compare hw, Option.getD_some]

/-- Null compares with nothing. -/
theorem Kind.Allows.compares (hv : k.Allows v) (hw : k.Has w) (accept : Ordering → Bool) :
    Value.compares accept v w = (!v.isNull && accept (Value.order v w)) := by
  rcases hv with rfl | hv
  · rfl
  · rw [Value.compares, hv.compare hw, hv.isNull]
    rfl

theorem Kind.Allows.any_compares {ws : List Value} (hv : k.Allows v) (hws : ∀ w ∈ ws, k.Has w)
    (accept : Ordering → Bool) :
    (ws.any fun w => Value.compares accept v w) =
      (!v.isNull && ws.any fun w => accept (Value.order v w)) := by
  induction ws with
  | nil => simp
  | cons w ws ih =>
    rw [List.forall_mem_cons] at hws
    rw [List.any_cons, List.any_cons, ih hws.2, hv.compares hws.1, Bool.and_or_distrib_left]

theorem Kind.Allows.all_compares {ws : List Value} (hv : k.Allows v) (hws : ∀ w ∈ ws, k.Has w)
    (accept : Ordering → Bool) :
    (!v.isNull && ws.all fun w => Value.compares accept v w) =
      (!v.isNull && ws.all fun w => accept (Value.order v w)) := by
  induction ws with
  | nil => rfl
  | cons w ws ih =>
    rw [List.forall_mem_cons] at hws
    rw [List.all_cons, List.all_cons, hv.compares hws.1, ← Bool.and_assoc, ← Bool.and_assoc,
      ← Bool.and_assoc, Bool.and_self, Bool.and_right_comm, ih hws.2, Bool.and_right_comm]

theorem Value.beq_self (v : Value) : (v == v) = true := by
  show (order v v).isEq = true
  cases v <;> simp [order, kindRank]

/-- Nothing but null equals null. -/
theorem Value.isNull_of_beq (h : (v == w) = true) : v.isNull = w.isNull := by
  have horder : (order v w).isEq = true := h
  cases v <;> cases w <;> first
    | rfl
    | cases horder

theorem Value.isNe_eq (o : Ordering) : o.isNe = !o.isEq := by
  cases o <;> rfl

/-! ## Keys -/

/-- A query finds nothing equal to null. -/
theorem Value.not_agrees_null (v : Value) : Value.agrees v .null = false := by
  have hcompare : Value.compare? v .null = none := by
    rw [Value.compare?]
    generalize v.unwrap = w
    cases w <;> rfl
  rw [Value.agrees, Value.compares, hcompare]
  rfl

theorem Value.not_null_agrees (v : Value) : Value.agrees .null v = false := rfl

/-- A query finds two values of a kind equal when they are the same. -/
theorem Kind.Has.agrees_iff (hv : k.Has v) (hw : k.Has w) : Value.agrees v w = true ↔ v = w := by
  rw [Value.agrees, Value.compares, hv.compare hw, Option.any_some, Ordering.isEq_iff_eq_eq]
  cases k <;> cases v <;> cases w <;> first
    | exact hv.elim
    | exact hw.elim
    | simp [Value.order]

theorem Kind.Has.beq_iff (hv : k.Has v) (hw : k.Has w) : (v == w) = true ↔ v = w := by
  have hagrees : Value.agrees v w = (v == w) := by
    rw [Value.agrees, Value.compares, hv.compare hw]
    rfl
  rw [← hagrees]
  exact hv.agrees_iff hw

/-- Values of a kind whose keys are the same text are the same. -/
theorem Kind.Has.key_inj (hv : k.Has v) (hw : k.Has w) (h : v.key = w.key) : v = w := by
  cases k <;> cases v <;> cases w <;> first
    | exact hv.elim
    | exact hw.elim
    | exact congrArg Value.int (Value.key_int_inj h)
    | exact congrArg Value.text h
    | skip
  rename_i a b
  cases a <;> cases b <;> first
    | rfl
    | exact absurd h (by decide)

end EntityStore

namespace EntityStore

/-! ## Doubles -/

theorem unpacked_compare_swap (x y : Float.Model.UnpackedFloat) :
    (x.compare y).map Ordering.swap = y.compare x := by
  have hparts : ∀ (d e : Int) (m n : Nat),
      ((compare d e).then (compare m n)).swap = (compare e d).then (compare n m) := by
    intro d e m n
    rw [Ordering.swap_then, compare_swap, compare_swap]
  cases x with
  | notANumber => cases y <;> rfl
  | infinity s =>
    cases y with
    | infinity t => cases s <;> cases t <;> rfl
    | _ => cases s <;> rfl
  | zero s =>
    cases y with
    | infinity t => cases t <;> rfl
    | finite t => cases t <;> rfl
    | _ => rfl
  | finite s m d =>
    cases y with
    | finite t n e =>
      cases s <;> cases t <;> first
        | rfl
        | exact congrArg some (hparts d e m n)
        | exact congrArg (fun o => some (Ordering.swap o)) (hparts d e m n)
    | infinity t => cases t <;> rfl
    | notANumber => rfl
    | zero t => cases s <;> rfl

namespace Value

/-- Doubles compare as the numbers that they are made of. -/
theorem compareFloats_eq (x y : Float) :
    compareFloats x y = x.toModel.unpack.compare y.toModel.unpack := by
  have hlt : ∀ a b : Float,
      a < b ↔ a.toModel.unpack.compare b.toModel.unpack = some .lt :=
    fun _ _ => decide_eq_true_iff.trans beq_iff_eq
  rw [compareFloats]
  simp only [hlt, Float.beq_iff]
  rw [← unpacked_compare_swap x.toModel.unpack y.toModel.unpack]
  cases x.toModel.unpack.compare y.toModel.unpack with
  | none => rfl
  | some o => cases o <;> rfl

theorem compareFloats_swap (x y : Float) :
    (compareFloats x y).map Ordering.swap = compareFloats y x := by
  rw [compareFloats_eq, compareFloats_eq, unpacked_compare_swap]

/-! ## Values -/

theorem compareUnwrapped_swap (v w : Value) :
    (compareUnwrapped v w).map Ordering.swap = compareUnwrapped w v := by
  have horder : (some (order v w)).map Ordering.swap = some (order w v) :=
    congrArg some (order_swap v w)
  have hread : ∀ (s : String) (y : Float),
      ((readNumber? s).bind fun x => compareFloats x y).map Ordering.swap =
        (readNumber? s).bind fun x => compareFloats y x := by
    intro s y
    cases readNumber? s with
    | none => rfl
    | some x => exact compareFloats_swap x y
  have hnumber : ∀ (s : String) (y : Float),
      ((readNumber? s).bind fun x => compareFloats y x).map Ordering.swap =
        (readNumber? s).bind fun x => compareFloats x y := by
    intro s y
    cases readNumber? s with
    | none => rfl
    | some x => exact compareFloats_swap y x
  cases v with
  | null => cases w <;> rfl
  | bool b =>
    cases w with
    | null => rfl
    | int n => exact congrArg some (compare_swap ..)
    | _ => exact horder
  | int n =>
    cases w with
    | null => rfl
    | bool b => exact congrArg some (compare_swap ..)
    | text s => rw [compareUnwrapped, compareUnwrapped, hnumber]
    | _ => exact horder
  | float x =>
    cases w with
    | null => rfl
    | text s => rw [compareUnwrapped, compareUnwrapped, hnumber]
    | _ => exact horder
  | text s =>
    cases w with
    | null => rfl
    | int n => rw [compareUnwrapped, compareUnwrapped, hread]
    | float y => rw [compareUnwrapped, compareUnwrapped, hread]
    | _ => exact horder
  | json doc =>
    cases w with
    | null => rfl
    | _ => exact horder

theorem compare?_swap (v w : Value) : (compare? v w).map Ordering.swap = compare? w v :=
  compareUnwrapped_swap v.unwrap w.unwrap

/-- A value equals those that equal it. -/
theorem agrees_comm (v w : Value) : agrees v w = agrees w v := by
  rw [agrees, agrees, compares, compares, ← compare?_swap v w]
  cases compare? v w with
  | none => rfl
  | some o => cases o <;> rfl

end Value

end EntityStore
