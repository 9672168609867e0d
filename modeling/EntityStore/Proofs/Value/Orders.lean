-- The order of plain values: whole numbers, texts and booleans in any mixture.
-- Two of them are equal in the order only when they are the same, and so are two
-- lists of them.
import EntityStore.Proofs.Value.Kinds

namespace EntityStore

/-! ## Orders -/

/-- Entries of a sort are put in order, and there an entry equals itself
alone. -/
structure Orders {κ : Type} (order : κ → κ → Ordering) (sort : κ → Prop) : Prop where
  swap : ∀ a b, (order a b).swap = order b a
  eq_iff : ∀ {a b}, sort a → sort b → (order a b = .eq ↔ a = b)
  trans : ∀ {a b c}, sort a → sort b → sort c →
    order a b = .lt → order b c = .lt → order a c = .lt

namespace Orders

variable {κ : Type} {order : κ → κ → Ordering} {sort : κ → Prop} {a b : κ}

theorem self (h : Orders order sort) (ha : sort a) : order a a = .eq := (h.eq_iff ha ha).mpr rfl

theorem isEq_iff (h : Orders order sort) (ha : sort a) (hb : sort b) :
    (order a b).isEq = true ↔ a = b := by
  rw [Ordering.isEq_iff_eq_eq, h.eq_iff ha hb]

theorem gt_iff (h : Orders order sort) : order a b = .gt ↔ order b a = .lt := by
  rw [← h.swap a b]
  cases order a b <;> decide

theorem ne_of_lt (h : Orders order sort) (ha : sort a) (hlt : order a b = .lt) : a ≠ b := by
  rintro rfl
  rw [h.self ha] at hlt
  cases hlt

end Orders

namespace Value

/-! ## Plain values -/

/-- A whole number that a column holds, a text or a boolean. -/
def IsPlain (v : Value) : Prop := ∃ k : Kind, k.Has v

instance (v : Value) : Decidable v.IsPlain :=
  decidable_of_iff (Kind.integer.Has v ∨ Kind.text.Has v ∨ Kind.boolean.Has v)
    ⟨by rintro (h | h | h) <;> exact ⟨_, h⟩, by rintro ⟨_ | _ | _, h⟩ <;> simp [h]⟩

/-- The number that a boolean or a whole number is. -/
def numberOrZero : Value → Int
  | .int n => n
  | .bool b => b.toInt
  | _ => 0

/-- The text that a value is. -/
def textOrEmpty : Value → String
  | .text s => s
  | _ => ""

/-- Plain values are in order by their kinds, and within a kind by their numbers
or texts. -/
abbrev orderPlain : Value → Value → Ordering :=
  compareLex (compareOn kindRank) (compareLex (compareOn numberOrZero) (compareOn textOrEmpty))

variable {a b : Value}

theorem order_eq_orderPlain (ha : a.IsPlain) (hb : b.IsPlain) : order a b = orderPlain a b := by
  obtain ⟨k, ha⟩ := ha
  obtain ⟨l, hb⟩ := hb
  cases k <;> cases a <;> first
    | exact ha.elim
    | skip
  all_goals cases l <;> cases b <;> first
    | exact hb.elim
    | rfl
    | simp [order, orderPlain, compareLex, compareOn, numberOrZero, textOrEmpty, kindRank]
  rename_i m n
  cases m <;> cases n <;> rfl

theorem orders_plain : Orders order IsPlain where
  swap := order_swap
  eq_iff := by
    rintro a b ⟨k, ha⟩ ⟨l, hb⟩
    cases k <;> cases a <;> first
      | exact ha.elim
      | skip
    all_goals cases l <;> cases b <;> first
      | exact hb.elim
      | simp [order, kindRank]
  trans := by
    intro a b c ha hb hc hab hbc
    rw [order_eq_orderPlain ha hb] at hab
    rw [order_eq_orderPlain hb hc] at hbc
    rw [order_eq_orderPlain ha hc]
    exact Std.TransCmp.lt_trans hab hbc

/-! ## Simple values -/

/-- Null, a whole number that a column holds, a text or a boolean. -/
def IsSimple (v : Value) : Prop := v = .null ∨ v.IsPlain

instance (v : Value) : Decidable v.IsSimple :=
  decidable_of_iff (v.isNull = true ∨ v.IsPlain) (or_congr_left isNull_iff)

theorem tellsApart_simple : TellsApart IsSimple := by
  rintro v w (rfl | hv) (rfl | hw)
  · exact ⟨fun _ => rfl, fun _ => rfl⟩
  · obtain ⟨k, hw⟩ := hw
    refine ⟨fun h => ?_, fun h => ?_⟩
    · exact (isNull_iff.mp ((isNull_of_beq h).symm)).symm
    · exact h ▸ beq_self _
  · refine ⟨fun h => isNull_iff.mp (isNull_of_beq h), fun h => h ▸ beq_self _⟩
  · exact orders_plain.isEq_iff hv hw

/-! ## Lists -/

/-- Lists of values are equal where their values are. -/
theorem isEq_orderLists_map {α : Type} {v w : α → Value} {xs : List α} :
    (orderLists (xs.map v) (xs.map w)).isEq = true ↔ ∀ x ∈ xs, (v x == w x) = true := by
  induction xs with
  | nil => simp [orderLists]
  | cons x xs ih =>
    have hhead : (v x == w x) = (order (v x) (w x)).isEq := rfl
    rw [List.map_cons, List.map_cons, orderLists, List.forall_mem_cons, ← ih, hhead,
      Ordering.isEq_iff_eq_eq, Ordering.isEq_iff_eq_eq, Ordering.isEq_iff_eq_eq,
      Ordering.then_eq_eq]

theorem isEq_orderLists_iff {sort : Value → Prop} (h : TellsApart sort) {vs ws : List Value}
    (hvs : ∀ v ∈ vs, sort v) (hws : ∀ w ∈ ws, sort w) :
    (orderLists vs ws).isEq = true ↔ vs = ws := by
  induction vs generalizing ws with
  | nil => cases ws <;> simp [orderLists]
  | cons v vs ih =>
    cases ws with
    | nil => simp [orderLists]
    | cons w ws =>
      obtain ⟨hv, hvs⟩ := List.forall_mem_cons.mp hvs
      obtain ⟨hw, hws⟩ := List.forall_mem_cons.mp hws
      rw [List.cons.injEq, ← h v w hv hw, ← ih hvs hws, orderLists, Ordering.isEq_iff_eq_eq,
        Ordering.then_eq_eq, ← Ordering.isEq_iff_eq_eq, ← Ordering.isEq_iff_eq_eq]
      rfl

/-- All values of a list are plain. -/
def ArePlain (vs : List Value) : Prop := ∀ v ∈ vs, IsPlain v

instance (vs : List Value) : Decidable (ArePlain vs) :=
  inferInstanceAs (Decidable (∀ v ∈ vs, IsPlain v))

theorem orderLists_swap (vs ws : List Value) : (orderLists vs ws).swap = orderLists ws vs := by
  induction vs generalizing ws with
  | nil => cases ws <;> rfl
  | cons v vs ih =>
    cases ws with
    | nil => rfl
    | cons w ws => rw [orderLists, orderLists, Ordering.swap_then, order_swap, ih]

theorem orderLists_eq_iff {vs ws : List Value} (hvs : ArePlain vs) (hws : ArePlain ws) :
    orderLists vs ws = .eq ↔ vs = ws := by
  rw [← Ordering.isEq_iff_eq_eq]
  exact isEq_orderLists_iff (fun _ _ hv hw => orders_plain.isEq_iff hv hw) hvs hws

theorem orderLists_trans {us vs ws : List Value} (hus : ArePlain us) (hvs : ArePlain vs)
    (hws : ArePlain ws) (h : orderLists us vs = .lt) (h' : orderLists vs ws = .lt) :
    orderLists us ws = .lt := by
  induction us generalizing vs ws with
  | nil =>
    cases ws with
    | nil => cases vs <;> cases h'
    | cons w ws => rfl
  | cons u us ih =>
    cases vs with
    | nil => cases h
    | cons v vs =>
      cases ws with
      | nil => cases h'
      | cons w ws =>
        obtain ⟨hu, hus⟩ := List.forall_mem_cons.mp hus
        obtain ⟨hv, hvs⟩ := List.forall_mem_cons.mp hvs
        obtain ⟨hw, hws⟩ := List.forall_mem_cons.mp hws
        rw [orderLists, Ordering.then_eq_lt] at h h' ⊢
        rcases h with h | ⟨heq, h⟩
        · rcases h' with h' | ⟨heq', -⟩
          · exact .inl (orders_plain.trans hu hv hw h h')
          · rw [orders_plain.eq_iff hv hw] at heq'
            exact .inl (heq' ▸ h)
        · rw [orders_plain.eq_iff hu hv] at heq
          rcases h' with h' | ⟨heq', h'⟩
          · exact .inl (heq ▸ h')
          · exact .inr ⟨heq ▸ heq', ih hus hvs hws h h'⟩

theorem orders_lists : Orders orderLists ArePlain where
  swap := orderLists_swap
  eq_iff := orderLists_eq_iff
  trans := orderLists_trans

end Value

end EntityStore
