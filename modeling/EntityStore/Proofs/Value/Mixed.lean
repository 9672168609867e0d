-- The order of values where whole numbers and doubles are mixed. It follows the
-- places of the doubles that the numbers become, but two whole numbers are compared
-- as they are: two that become the same double are told apart, though both equal the
-- double. That is the only way in which the order fails to be one, and it takes
-- numbers of more than 53 binary digits.
import EntityStore.Proofs.Value.Doubles
import EntityStore.Proofs.Value.Kinds
import EntityStore.Value.Order

namespace EntityStore.Value

/-! ## The order of places -/

/-- The place of a boolean or a number, where numbers have the places of doubles. -/
def placeOrZero : Value → Int
  | .bool b => b.toInt
  | .int n => Decimal.rank (Float.ofInt n)
  | .float x => Decimal.rank x
  | _ => 0

/-- The text that is compared for a text or a document. -/
def writingOrEmpty : Value → String
  | .text s => s
  | .json doc => doc.compact
  | _ => ""

/-- Values in order by their kinds, and within a kind by their places or texts. -/
abbrev orderPlaces : Value → Value → Ordering :=
  compareLex (compareOn kindRank) (compareLex (compareOn placeOrZero) (compareOn writingOrEmpty))

/-- A whole number that a column holds, or a value of another kind. -/
def InRange : Value → Prop
  | .int n => minInt ≤ n ∧ n ≤ maxInt
  | _ => True

instance (v : Value) : Decidable v.InRange :=
  match v with
  | .int n => inferInstanceAs (Decidable (minInt ≤ n ∧ n ≤ maxInt))
  | .null | .bool _ | .float _ | .text _ | .json _ => .isTrue trivial

/-- A whole number up to the first one of 54 binary digits, or a value of another
kind. -/
def IsExact : Value → Prop
  | .int n => -2 ^ 53 ≤ n ∧ n ≤ 2 ^ 53
  | _ => True

variable {a b c : Value}

/-- Values are in the order of their places, unless both are whole numbers. -/
theorem order_eq_orderPlaces (h : ∀ m n, a = .int m → b ≠ .int n) :
    order a b = orderPlaces a b := by
  cases a <;> cases b <;> first
    | rfl
    | simp [order, orderPlaces, compareLex, compareOn, placeOrZero, writingOrEmpty, kindRank]
  · rename_i p q
    cases p <;> cases q <;> rfl
  · exact absurd rfl (h _ _ rfl)

/-- The order of the places is coarser than the order of the values. -/
theorem isLE_orderPlaces (ha : a.InRange) (hb : b.InRange) (h : (order a b).isLE = true) :
    (orderPlaces a b).isLE = true := by
  by_cases hint : ∀ m n, a = .int m → b ≠ .int n
  · exact order_eq_orderPlaces hint ▸ h
  · push Not at hint
    obtain ⟨m, n, rfl, rfl⟩ := hint
    have hle : m ≤ n := Int.isLE_compare.mp h
    have hplaces := Doubles.rank_ofInt_le hle ha.1 (Int.lt_add_one_of_le hb.2)
    have hplace : orderPlaces (.int m) (.int n) =
        compare (Decimal.rank (Float.ofInt m)) (Decimal.rank (Float.ofInt n)) := by
      simp [orderPlaces, compareLex, compareOn, placeOrZero, writingOrEmpty, kindRank]
    rw [hplace]
    exact Int.isLE_compare.mpr hplaces

/-! ## Three values -/

/-- Two whole numbers, the larger one first, become the double between them. -/
def MeetAt (a b c : Value) : Prop :=
  ∃ m n x, a = .int m ∧ b = .float x ∧ c = .int n ∧
    n < m ∧ Float.ofInt m = x ∧ Float.ofInt n = x

theorem isEq_iff_isLE :
    (order a b).isEq = true ↔ (order a b).isLE = true ∧ (order b a).isLE = true := by
  rw [← order_swap a b]
  cases order a b <;> decide

/-- A value behind a whole number and before a smaller one is a double, and both
numbers become it. -/
theorem meetAt_of_lt {m n : Int} (hm : InRange (.int m)) (hn : InRange (.int n)) (hlt : n < m)
    (hmb : (order (.int m) b).isLE = true) (hbn : (order b (.int n)).isLE = true) :
    MeetAt (.int m) b (.int n) := by
  have hplaces := Doubles.rank_ofInt_le (Int.le_of_lt hlt) hn.1 (Int.lt_add_one_of_le hm.2)
  cases b with
  | int k =>
    have hmk : m ≤ k := Int.isLE_compare.mp hmb
    have hkn : k ≤ n := Int.isLE_compare.mp hbn
    omega
  | float x =>
    have hmx : Decimal.rank (Float.ofInt m) ≤ Decimal.rank x := Int.isLE_compare.mp hmb
    have hxn : Decimal.rank x ≤ Decimal.rank (Float.ofInt n) := Int.isLE_compare.mp hbn
    exact ⟨m, n, x, rfl, rfl, rfl, hlt, Decimal.rank_inj (by omega), Decimal.rank_inj (by omega)⟩
  | null => cases hmb
  | bool p => cases hmb
  | text s => cases hbn
  | json doc => cases hbn

/-- What is in order in two steps is so in one, unless two whole numbers meet at
the double between them. -/
theorem isLE_trans_iff (ha : a.InRange) (hb : b.InRange) (hc : c.InRange)
    (hab : (order a b).isLE = true) (hbc : (order b c).isLE = true) :
    (order a c).isLE = true ↔ ¬ MeetAt a b c := by
  by_cases hint : ∀ m n, a = .int m → c ≠ .int n
  · -- The places decide.
    have htrans : (orderPlaces a c).isLE = true :=
      Std.TransCmp.isLE_trans (isLE_orderPlaces ha hb hab) (isLE_orderPlaces hb hc hbc)
    rw [order_eq_orderPlaces hint]
    refine iff_of_true htrans ?_
    rintro ⟨m, n, x, hm, -, hn, -⟩
    exact hint m n hm hn
  · push Not at hint
    obtain ⟨m, n, rfl, rfl⟩ := hint
    have horder : (order (.int m) (.int n)).isLE = true ↔ m ≤ n := Int.isLE_compare
    rw [horder]
    constructor
    · rintro hle ⟨m', n', x, hm, -, hn, hlt, -⟩
      cases hm
      cases hn
      omega
    · exact fun hmeet => Int.not_lt.mp fun hlt => hmeet (meetAt_of_lt ha hc hlt hab hbc)

theorem not_meetAt_of_isExact (ha : a.IsExact) (hc : c.IsExact) : ¬ MeetAt a b c := by
  rintro ⟨m, n, x, rfl, rfl, rfl, hlt, hm, hn⟩
  have hplace := Doubles.rank_ofInt_lt hlt hc.1 ha.2
  rw [hm, hn] at hplace
  exact Int.lt_irrefl _ hplace

/-- The order of values is the same from both sides. In two steps it holds as in
one, and so does equality, unless two different whole numbers become the double
between them, which takes more than 53 digits. -/
theorem the_order_tells_apart_what_becomes_one_double (ha : a.InRange) (hb : b.InRange)
    (hc : c.InRange) :
    (order a b).swap = order b a ∧
      ((order a b).isLE = true → (order b c).isLE = true →
        ((order a c).isLE = true ↔ ¬ MeetAt a b c)) ∧
      ((order a b).isEq = true → (order b c).isEq = true →
        ((order a c).isEq = true ↔ ¬ MeetAt a b c ∧ ¬ MeetAt c b a)) ∧
      (a.IsExact → c.IsExact → ¬ MeetAt a b c) := by
  refine ⟨order_swap a b, isLE_trans_iff ha hb hc, fun hab hbc => ?_, not_meetAt_of_isExact⟩
  obtain ⟨hab, hba⟩ := isEq_iff_isLE.mp hab
  obtain ⟨hbc, hcb⟩ := isEq_iff_isLE.mp hbc
  rw [isEq_iff_isLE, isLE_trans_iff ha hb hc hab hbc, isLE_trans_iff hc hb ha hcb hba]

/-- The first number of 54 binary digits and the number behind it become one double,
which equals both. -/
theorem the_first_numbers_of_54_digits_are_one_double :
    (InRange (.int 9007199254740993) ∧ InRange (.float 9007199254740992.0) ∧
      InRange (.int 9007199254740992)) ∧
    (order (.int 9007199254740993) (.float 9007199254740992.0)).isEq = true ∧
      (order (.float 9007199254740992.0) (.int 9007199254740992)).isEq = true ∧
      ¬ (order (.int 9007199254740993) (.int 9007199254740992)).isLE = true := by
  have hrange : InRange (.int 9007199254740993) ∧ InRange (.float 9007199254740992.0) ∧
      InRange (.int 9007199254740992) := by
    decide
  obtain ⟨ha, hb, hc⟩ := hrange
  have hab : (order (.int 9007199254740993) (.float 9007199254740992.0)).isEq = true := by decide
  have hbc : (order (.float 9007199254740992.0) (.int 9007199254740992)).isEq = true := by decide
  have hmeet : MeetAt (.int 9007199254740993) (.float 9007199254740992.0)
      (.int 9007199254740992) :=
    ⟨_, _, _, rfl, rfl, rfl, by decide, by decide, by decide⟩
  obtain ⟨-, htrans, -⟩ := the_order_tells_apart_what_becomes_one_double ha hb hc
  refine ⟨⟨ha, hb, hc⟩, hab, hbc, fun hac => ?_⟩
  exact (htrans (isEq_iff_isLE.mp hab).1 (isEq_iff_isLE.mp hbc).1).mp hac hmeet

end EntityStore.Value
