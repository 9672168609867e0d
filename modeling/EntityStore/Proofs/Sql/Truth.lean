-- When the text of a condition is true, by the three-valued logic of the
-- language: a comparison with null on either side is neither true nor false.
-- Over whole numbers the text of a predicate is true wherever the predicate
-- holds. Elsewhere it is true only through a comparison with null, or through
-- an empty list that a column without a value is asked not to be in.
import EntityStore.Proofs.Sql.Evaluation
import EntityStore.Proofs.Sql.Grammar
import EntityStore.Proofs.Sql.Plain
import EntityStore.Proofs.Sql.References
import EntityStore.Proofs.Value.Kinds
import Mathlib.Logic.Basic

namespace EntityStore.Sql

open Piece (join params)

/-! ## Truth -/

inductive Truth where
  | true
  | false
  | unknown
  deriving DecidableEq, Repr

namespace Truth

def ofBool (b : Bool) : Truth := if b then .true else .false

def not : Truth → Truth
  | .true => .false
  | .false => .true
  | .unknown => .unknown

def and : Truth → Truth → Truth
  | .false, _ => .false
  | _, .false => .false
  | .true, .true => .true
  | _, _ => .unknown

def or : Truth → Truth → Truth
  | .true, _ => .true
  | _, .true => .true
  | .false, .false => .false
  | _, _ => .unknown

def all (ts : List Truth) : Truth := ts.foldr and .true

def any (ts : List Truth) : Truth := ts.foldr or .false

/-- How two numbers are related. Without one of them it is not known. -/
def relate (r : Int → Int → Bool) : Option Int → Option Int → Truth
  | some m, some n => ofBool (r m n)
  | _, _ => .unknown

theorem ofBool_eq_true_iff {b : Bool} : ofBool b = .true ↔ b = Bool.true := by
  cases b <;> decide

theorem and_eq_true_iff {t u : Truth} : t.and u = .true ↔ t = .true ∧ u = .true := by
  cases t <;> cases u <;> decide

theorem or_eq_true_iff {t u : Truth} : t.or u = .true ↔ t = .true ∨ u = .true := by
  cases t <;> cases u <;> decide

theorem all_eq_true_iff {ts : List Truth} : all ts = .true ↔ ∀ t ∈ ts, t = .true := by
  induction ts with
  | nil => exact iff_of_true rfl nofun
  | cons t ts ih =>
    show t.and (all ts) = .true ↔ _
    rw [and_eq_true_iff, ih, List.forall_mem_cons]

theorem any_eq_true_iff {ts : List Truth} : any ts = .true ↔ ∃ t ∈ ts, t = .true := by
  induction ts with
  | nil => simp [any]
  | cons t ts ih =>
    show t.or (any ts) = .true ↔ _
    rw [or_eq_true_iff, ih]
    simp only [List.mem_cons, exists_eq_or_imp]

theorem relate_eq_true_iff {r : Int → Int → Bool} {a b : Option Int} :
    relate r a b = .true ↔ ∃ m n, a = some m ∧ b = some n ∧ r m n = Bool.true := by
  cases a with
  | none => exact ⟨nofun, fun ⟨_, _, h, _⟩ => nomatch h⟩
  | some m =>
    cases b with
    | none => exact ⟨nofun, fun ⟨_, _, _, h, _⟩ => nomatch h⟩
    | some n => simp [relate, ofBool_eq_true_iff]

end Truth

/-! ## Conditions on rows -/

/-- The whole number in the column, if it has one. -/
def Column.number? (c : Column) (row : Row) : Option Int := (c.value? row).bind wholeNumber?

mutual

/-- How true a condition is on a row, when it is about whole numbers. A list
is asked for each of its values. Of texts and documents nothing is known. -/
def Predicate.truth (row : Row) : Predicate → Truth
  | .eq c v => .relate (fun m n => m = n) (c.number? row) (wholeNumber? v)
  | .ne c v => .relate (fun m n => m ≠ n) (c.number? row) (wholeNumber? v)
  | .lt c v => .relate (fun m n => m < n) (c.number? row) (wholeNumber? v)
  | .le c v => .relate (fun m n => m ≤ n) (c.number? row) (wholeNumber? v)
  | .gt c v => .relate (fun m n => n < m) (c.number? row) (wholeNumber? v)
  | .ge c v => .relate (fun m n => n ≤ m) (c.number? row) (wholeNumber? v)
  | .isIn c vs =>
    .any (vs.map fun v => .relate (fun m n => m = n) (c.number? row) (wholeNumber? v))
  | .notIn c vs =>
    .all (vs.map fun v => .relate (fun m n => m ≠ n) (c.number? row) (wholeNumber? v))
  | .between c low high =>
    .and (.relate (fun m n => n ≤ m) (c.number? row) (wholeNumber? low))
      (.relate (fun m n => m ≤ n) (c.number? row) (wholeNumber? high))
  | .isNull c => .ofBool (c.number? row).isNone
  | .notNull c => .ofBool (c.number? row).isSome
  | .all ps => .all (truths row ps)
  | .any ps => .any (truths row ps)
  | .not p => (p.truth row).not
  | _ => .unknown

def Predicate.truths (row : Row) : List Predicate → List Truth
  | [] => []
  | p :: ps => p.truth row :: truths row ps

end

/-- The condition that a text says with parameters at its places, when nothing
else stands in the text. -/
def readText? (text : String) (vs : List Value) : Option Predicate := do
  let filled ← fill (← tokens? text) vs
  match ← readPredicate filled with
  | (p, []) => some p
  | _ => none

theorem readText?_pieces (p : Predicate) :
    readText? (join (p.pieces false)) (params (p.pieces false)) = some p.canonical := by
  obtain ⟨ts, hts, hfill⟩ := (plain_predicate false p).legible
  have hread : readPredicate (Piece.said (p.pieces false) ++ []) = some (p.canonical, []) :=
    readPredicate_said p (fun _ => nofun) (fun _ => nofun)
  rw [List.append_nil] at hread
  unfold readText?
  rw [hts]
  show (fill ts (params (p.pieces false)) >>= _) = _
  rw [hfill]
  show (readPredicate (Piece.said (p.pieces false)) >>= _) = _
  rw [hread]
  rfl

theorem truths_eq (row : Row) (ps : List Predicate) :
    Predicate.truths row ps = ps.map (Predicate.truth row) := by
  induction ps with
  | nil => rfl
  | cons p ps ih => rw [Predicate.truths, ih, List.map_cons]

theorem truth_all_iff {row : Row} {ps : List Predicate} :
    (Predicate.all ps).truth row = .true ↔ ∀ p ∈ ps, p.truth row = .true := by
  rw [Predicate.truth, truths_eq, Truth.all_eq_true_iff, List.forall_mem_map]

theorem truth_any_iff {row : Row} {ps : List Predicate} :
    (Predicate.any ps).truth row = .true ↔ ∃ p ∈ ps, p.truth row = .true := by
  simp [Predicate.truth, truths_eq, Truth.any_eq_true_iff]

/-! ## Whole numbers in order -/

section

variable (m n : Int)

theorem isEq_compare : (compare m n).isEq = true ↔ decide (m = n) = true := by
  simp [Ordering.isEq_iff_eq_eq]

theorem isNe_compare : (compare m n).isNe = true ↔ decide (m ≠ n) = true := by
  simp [Ordering.isNe_iff_ne_eq]

theorem isLT_compare : (compare m n).isLT = true ↔ decide (m < n) = true := by
  rw [Ordering.isLT_iff_eq_lt, Int.compare_eq_lt, decide_eq_true_iff]

theorem isGT_compare : (compare m n).isGT = true ↔ decide (n < m) = true := by
  rw [Ordering.isGT_iff_eq_gt, Int.compare_eq_gt, decide_eq_true_iff]

theorem isLE_compare : (compare m n).isLE = true ↔ decide (m ≤ n) = true := by
  rw [Int.isLE_compare, decide_eq_true_iff]

theorem isGE_compare : (compare m n).isGE = true ↔ decide (n ≤ m) = true := by
  rw [Int.isGE_compare, decide_eq_true_iff]

end

/-! ## Tests -/

mutual

/-- The tests that the junctions of a predicate join. -/
def Predicate.tests : Predicate → List Predicate
  | .all ps => testsOfAll ps
  | .any ps => testsOfAll ps
  | p => [p]

def Predicate.testsOfAll : List Predicate → List Predicate
  | [] => []
  | p :: ps => p.tests ++ testsOfAll ps

end

/-- A test of a whole column against whole numbers and nulls. -/
def Predicate.IsNumberTest : Predicate → Prop
  | .eq c v | .ne c v | .lt c v | .le c v | .gt c v | .ge c v =>
    c.path = none ∧ Kind.integer.Allows v
  | .isIn c vs | .notIn c vs => c.path = none ∧ ∀ v ∈ vs, Kind.integer.Allows v
  | .between c low high =>
    c.path = none ∧ Kind.integer.Allows low ∧ Kind.integer.Allows high
  | .isNull c | .notNull c => c.path = none
  | _ => False

instance : DecidablePred Predicate.IsNumberTest := fun t => by
  cases t <;> first
    | exact inferInstanceAs (Decidable (_ ∧ _))
    | exact inferInstanceAs (Decidable (_ = _))
    | exact .isFalse id

/-- The text of the test says more than the test. A comparison with null never
holds, but is written as a question for null or for a value. A column without
a value is in no list and outside of none, but that a column is outside of the
empty list is written as true. -/
def Predicate.IsOverstated (row : Row) : Predicate → Prop
  | .eq c v => v.isNull = true ∧ c.number? row = none
  | .ne c v | .lt c v | .le c v | .gt c v | .ge c v => v.isNull = true ∧ c.number? row ≠ none
  | .notIn c vs => vs = [] ∧ c.number? row = none
  | _ => False

instance (row : Row) : DecidablePred (Predicate.IsOverstated row) := fun t => by
  cases t <;> first
    | exact inferInstanceAs (Decidable (_ ∧ _))
    | exact .isFalse id

section

variable {row : Row} {c : Column} {v : Value}

/-- The row has a whole number or null in the column, if it has the column. -/
def HasNumber (row : Row) (c : Column) : Prop := ∀ v ∈ c.value? row, Kind.integer.Allows v

instance : DecidablePred (HasNumber row) :=
  fun c => inferInstanceAs (Decidable (∀ v ∈ c.value? row, Kind.integer.Allows v))

theorem isNull_of_number (h : HasNumber row c) :
    (c.value? row).all Value.isNull = (c.number? row).isNone := by
  unfold Column.number?
  cases hvalue : c.value? row with
  | none => rfl
  | some w =>
    rcases h w hvalue with rfl | hw
    · rfl
    · obtain ⟨n, rfl⟩ := hw.eq_int
      rfl

theorem compares_iff (h : HasNumber row c) (hv : Kind.integer.Allows v)
    (accept : Ordering → Bool) :
    compares row c v accept = true ↔
      ∃ m n, c.number? row = some m ∧ wholeNumber? v = some n ∧ accept (compare m n) = true := by
  unfold compares Column.number?
  cases hvalue : c.value? row with
  | none => simp
  | some w =>
    rcases h w hvalue with rfl | hw
    · rcases hv with rfl | hv
      · simp [Value.compares, Value.compare?, Value.unwrap, Value.compareUnwrapped, wholeNumber?]
      · simp [Value.compares, Value.compare?, Value.unwrap, Value.compareUnwrapped, wholeNumber?]
    · obtain ⟨m, rfl⟩ := hw.eq_int
      rcases hv with rfl | hv
      · simp [Value.compares, Value.compare?, Value.unwrap, Value.compareUnwrapped, wholeNumber?]
      · obtain ⟨n, rfl⟩ := hv.eq_int
        have hcompare : Value.compare? (.int m) (.int n) = some (compare m n) := rfl
        simp [Value.compares, hcompare, wholeNumber?]

theorem truth_relate_iff {accept : Ordering → Bool} {r : Int → Int → Bool}
    (h : HasNumber row c) (hv : Kind.integer.Allows v)
    (haccept : ∀ m n, accept (compare m n) = true ↔ r m n = true) :
    Truth.relate r (c.number? row) (wholeNumber? v) = .true ↔
      compares row c v accept = true := by
  simp only [Truth.relate_eq_true_iff, compares_iff h hv, haccept]

/-- Nothing compares with null. -/
theorem not_compares_of_isNull (h : HasNumber row c) (hv : v.isNull = true)
    (accept : Ordering → Bool) : ¬ compares row c v accept = true := by
  rw [Value.isNull_iff.mp hv, compares_iff h Kind.integer.allows_null]
  rintro ⟨_, _, _, ⟨⟩, _⟩

/-- A comparison with null is written as another test. -/
theorem truth_comparison_iff {accept : Ordering → Bool} {r : Int → Int → Bool}
    {p q : Predicate} {e : Prop} (h : HasNumber row c) (hv : Kind.integer.Allows v)
    (haccept : ∀ m n, accept (compare m n) = true ↔ r m n = true)
    (hp : p.truth row = Truth.relate r (c.number? row) (wholeNumber? v))
    (hq : q.truth row = .true ↔ e) :
    (if v.isNull then q else p).truth row = .true ↔
      compares row c v accept = true ∨ v.isNull = true ∧ e := by
  cases hnull : v.isNull with
  | true =>
    rw [if_pos rfl, hq]
    have hcompares := not_compares_of_isNull h hnull accept
    exact ⟨fun he => .inr ⟨rfl, he⟩, fun h => (h.resolve_left hcompares).2⟩
  | false =>
    rw [if_neg Bool.false_ne_true, hp, truth_relate_iff h hv haccept]
    exact ⟨.inl, fun h => h.resolve_right fun h => Bool.false_ne_true h.1⟩

theorem truth_isNull_iff : (Predicate.isNull c).truth row = .true ↔ c.number? row = none := by
  rw [Predicate.truth, Truth.ofBool_eq_true_iff, Option.isNone_iff_eq_none]

theorem truth_notNull_iff : (Predicate.notNull c).truth row = .true ↔ c.number? row ≠ none := by
  rw [Predicate.truth, Truth.ofBool_eq_true_iff, Option.isSome_iff_ne_none]

theorem holds_isNull_iff (h : HasNumber row c) :
    (Predicate.isNull c).holds row = true ↔ c.number? row = none := by
  rw [Predicate.holds, isNull_of_number h, Option.isNone_iff_eq_none]

theorem holds_notNull_iff (h : HasNumber row c) :
    (Predicate.notNull c).holds row = true ↔ c.number? row ≠ none := by
  rw [Ne, ← holds_isNull_iff h, Predicate.holds, Predicate.holds]
  cases c.value? row <;> simp

theorem holds_isIn_iff (vs : List Value) :
    (Predicate.isIn c vs).holds row = true ↔ ∃ v ∈ vs, compares row c v Ordering.isEq = true := by
  rw [Predicate.holds]
  unfold compares
  cases c.value? row <;> simp [Value.agrees]

theorem holds_notIn_iff (h : HasNumber row c) (vs : List Value) :
    (Predicate.notIn c vs).holds row = true ↔
      c.number? row ≠ none ∧ ∀ v ∈ vs, compares row c v Ordering.isNe = true := by
  rw [← holds_notNull_iff h, Predicate.holds, Predicate.holds]
  unfold compares
  cases c.value? row <;> simp

theorem truth_isIn_iff {vs : List Value} (h : HasNumber row c)
    (hvs : ∀ v ∈ vs, Kind.integer.Allows v) :
    (Predicate.isIn c vs).canonical.truth row = .true ↔
      (Predicate.isIn c vs).holds row = true := by
  have hvalues : ∀ v ∈ vs, _ := fun v hv => truth_relate_iff h (hvs v hv) isEq_compare
  rw [Predicate.canonical, holds_isIn_iff]
  cases vs with
  | nil => simp [Predicate.truth, Predicate.truths, Truth.any]
  | cons v vs =>
    rw [List.isEmpty_cons, if_neg Bool.false_ne_true, Predicate.truth, Truth.any_eq_true_iff]
    simp only [List.mem_map, exists_exists_and_eq_and]
    exact exists_congr fun w => and_congr_right fun hw => hvalues w hw

/-- A column without a value is outside of no list. Only for the empty list its
text says so. -/
theorem truth_notIn_iff {vs : List Value} (h : HasNumber row c)
    (hvs : ∀ v ∈ vs, Kind.integer.Allows v) :
    (Predicate.notIn c vs).canonical.truth row = .true ↔
      (Predicate.notIn c vs).holds row = true ∨ (Predicate.notIn c vs).IsOverstated row := by
  have hvalues : ∀ v ∈ vs, _ := fun v hv => truth_relate_iff h (hvs v hv) isNe_compare
  rw [Predicate.canonical, holds_notIn_iff h]
  show _ ↔ _ ∨ vs = [] ∧ c.number? row = none
  cases vs with
  | nil =>
    refine iff_of_true rfl ?_
    by_cases hnone : c.number? row = none
    · exact .inr ⟨rfl, hnone⟩
    · exact .inl ⟨hnone, by simp⟩
  | cons v vs =>
    rw [List.isEmpty_cons, if_neg Bool.false_ne_true, Predicate.truth, Truth.all_eq_true_iff,
      List.forall_mem_map]
    have hcongr : (∀ w ∈ v :: vs, Truth.relate (fun m n => m ≠ n) (c.number? row)
        (wholeNumber? w) = .true) ↔ ∀ w ∈ v :: vs, compares row c w Ordering.isNe = true :=
      forall₂_congr hvalues
    rw [hcongr]
    refine ⟨fun hall => .inl ⟨?_, hall⟩, ?_⟩
    · obtain ⟨m, _, hm, _⟩ := (compares_iff h (hvs v List.mem_cons_self) _).mp
        (hall v List.mem_cons_self)
      rw [hm]
      exact Option.some_ne_none m
    · rintro (⟨_, hall⟩ | ⟨hnil, _⟩)
      · exact hall
      · cases hnil

theorem holds_between_iff {low high : Value} :
    (Predicate.between c low high).holds row = true ↔
      compares row c low Ordering.isGE = true ∧ compares row c high Ordering.isLE = true := by
  rw [Predicate.holds]
  unfold compares
  cases c.value? row <;> simp

end

/-! ## Tests and their texts -/

section

variable {row : Row}

/-- The text of a test is true on a row where the test holds, and where the
test is overstated. -/
theorem truth_test_iff {t : Predicate} (ht : t.IsNumberTest)
    (hrow : ∀ c ∈ t.columns, HasNumber row c) :
    t.canonical.truth row = .true ↔ t.holds row = true ∨ t.IsOverstated row := by
  cases t with
  | eq c v =>
    exact truth_comparison_iff (hrow c List.mem_cons_self) ht.2 isEq_compare rfl truth_isNull_iff
  | ne c v =>
    exact truth_comparison_iff (hrow c List.mem_cons_self) ht.2 isNe_compare rfl truth_notNull_iff
  | lt c v =>
    exact truth_comparison_iff (hrow c List.mem_cons_self) ht.2 isLT_compare rfl truth_notNull_iff
  | le c v =>
    exact truth_comparison_iff (hrow c List.mem_cons_self) ht.2 isLE_compare rfl truth_notNull_iff
  | gt c v =>
    exact truth_comparison_iff (hrow c List.mem_cons_self) ht.2 isGT_compare rfl truth_notNull_iff
  | ge c v =>
    exact truth_comparison_iff (hrow c List.mem_cons_self) ht.2 isGE_compare rfl truth_notNull_iff
  | isIn c vs =>
    exact (truth_isIn_iff (hrow c List.mem_cons_self) ht.2).trans (or_iff_left id).symm
  | notIn c vs => exact truth_notIn_iff (hrow c List.mem_cons_self) ht.2
  | between c low high =>
    have hlow := truth_relate_iff (hrow c List.mem_cons_self) ht.2.1 isGE_compare
    have hhigh := truth_relate_iff (hrow c List.mem_cons_self) ht.2.2 isLE_compare
    rw [Predicate.canonical, Predicate.truth, Truth.and_eq_true_iff, hlow, hhigh,
      holds_between_iff]
    exact (or_iff_left id).symm
  | isNull c =>
    exact (truth_isNull_iff.trans (holds_isNull_iff (hrow c List.mem_cons_self)).symm).trans
      (or_iff_left id).symm
  | notNull c =>
    exact (truth_notNull_iff.trans (holds_notNull_iff (hrow c List.mem_cons_self)).symm).trans
      (or_iff_left id).symm
  | _ => exact ht.elim

/-- What is overstated does not hold. -/
theorem not_holds_of_isOverstated {t : Predicate} (hrow : ∀ c ∈ t.columns, HasNumber row c)
    (h : t.IsOverstated row) : ¬ t.holds row = true := by
  cases t with
  | eq c v => exact not_compares_of_isNull (hrow c List.mem_cons_self) h.1 _
  | ne c v => exact not_compares_of_isNull (hrow c List.mem_cons_self) h.1 _
  | lt c v => exact not_compares_of_isNull (hrow c List.mem_cons_self) h.1 _
  | le c v => exact not_compares_of_isNull (hrow c List.mem_cons_self) h.1 _
  | gt c v => exact not_compares_of_isNull (hrow c List.mem_cons_self) h.1 _
  | ge c v => exact not_compares_of_isNull (hrow c List.mem_cons_self) h.1 _
  | notIn c vs =>
    rw [holds_notIn_iff (hrow c List.mem_cons_self)]
    exact fun hholds => hholds.1 h.2
  | _ => exact h.elim

end

/-! ## Junctions -/

/-- A junction has the property by its parts. -/
structure Junctive (holds : Predicate → Prop) : Prop where
  all_iff : ∀ ps, holds (.all ps) ↔ ∀ p ∈ ps, holds p
  any_iff : ∀ ps, holds (.any ps) ↔ ∃ p ∈ ps, holds p

theorem junctive_holds (row : Row) : Junctive fun p => p.holds row = true where
  all_iff ps := by rw [Predicate.holds, allHold_iff]
  any_iff ps := by rw [Predicate.holds, anyHolds_iff]

theorem canonicals_eq (ps : List Predicate) : canonicals ps = ps.map Predicate.canonical := by
  induction ps with
  | nil => rfl
  | cons p ps ih => rw [canonicals, ih, List.map_cons]

/-- A junction of one part is as true as that part. -/
theorem truth_collapse_all_iff {row : Row} {ps : List Predicate} :
    (collapse .all ps).truth row = .true ↔ ∀ p ∈ ps, p.truth row = .true := by
  match ps with
  | [] => exact truth_all_iff
  | [p] => rw [List.forall_mem_singleton, collapse]
  | p :: q :: rest => exact truth_all_iff

theorem truth_collapse_any_iff {row : Row} {ps : List Predicate} :
    (collapse .any ps).truth row = .true ↔ ∃ p ∈ ps, p.truth row = .true := by
  match ps with
  | [] => exact truth_any_iff
  | [p] => simp only [List.mem_singleton, exists_eq_left, collapse]
  | p :: q :: rest => exact truth_any_iff

theorem junctive_truth (row : Row) : Junctive fun p => p.canonical.truth row = .true where
  all_iff ps := by
    rw [Predicate.canonical, canonicals_eq, truth_collapse_all_iff, List.forall_mem_map]
  any_iff ps := by
    rw [Predicate.canonical, canonicals_eq, truth_collapse_any_iff]
    simp only [List.mem_map, exists_exists_and_eq_and]

/-! ## Parts of predicates -/

mutual

/-- What holds of every test, and of a junction with its parts, holds of every
predicate. -/
theorem Predicate.testsInduction {motive : Predicate → Prop}
    (test : ∀ t : Predicate, t.tests = [t] → motive t)
    (all : ∀ ps, (∀ p ∈ ps, motive p) → motive (.all ps))
    (any : ∀ ps, (∀ p ∈ ps, motive p) → motive (.any ps)) : ∀ p : Predicate, motive p
  | .all ps => all ps (testsInductionOfAll test all any ps)
  | .any ps => any ps (testsInductionOfAll test all any ps)
  | .eq _ _ => test _ rfl
  | .ne _ _ => test _ rfl
  | .lt _ _ => test _ rfl
  | .le _ _ => test _ rfl
  | .gt _ _ => test _ rfl
  | .ge _ _ => test _ rfl
  | .isIn _ _ => test _ rfl
  | .notIn _ _ => test _ rfl
  | .between _ _ _ => test _ rfl
  | .isNull _ => test _ rfl
  | .notNull _ => test _ rfl
  | .like _ _ => test _ rfl
  | .notLike _ _ => test _ rfl
  | .regexp _ _ => test _ rfl
  | .notRegexp _ _ => test _ rfl
  | .contains _ _ => test _ rfl
  | .not _ => test _ rfl

theorem Predicate.testsInductionOfAll {motive : Predicate → Prop}
    (test : ∀ t : Predicate, t.tests = [t] → motive t)
    (all : ∀ ps, (∀ p ∈ ps, motive p) → motive (.all ps))
    (any : ∀ ps, (∀ p ∈ ps, motive p) → motive (.any ps)) :
    ∀ ps : List Predicate, ∀ p ∈ ps, motive p
  | [], _, hp => nomatch hp
  | q :: qs, p, hp => by
    rcases List.mem_cons.mp hp with heq | hp
    · rw [heq]
      exact testsInduction test all any q
    · exact testsInductionOfAll test all any qs p hp

end

theorem testsOfAll_eq (ps : List Predicate) :
    Predicate.testsOfAll ps = ps.flatMap Predicate.tests := by
  induction ps with
  | nil => rfl
  | cons p ps ih => rw [Predicate.testsOfAll, ih, List.flatMap_cons]

/-- What goes over from one property to another in all tests goes over in the
whole predicate. -/
theorem Junctive.mono {X Y : Predicate → Prop} (hX : Junctive X) (hY : Junctive Y)
    {p : Predicate} (h : ∀ t ∈ p.tests, X t → Y t) : X p → Y p := by
  induction p using Predicate.testsInduction with
  | test t ht =>
    rw [ht] at h
    exact h t List.mem_cons_self
  | all ps ih =>
    rw [Predicate.tests, testsOfAll_eq, List.forall_mem_flatMap] at h
    rw [hX.all_iff, hY.all_iff]
    exact fun hps p hp => ih p hp (h p hp) (hps p hp)
  | any ps ih =>
    rw [Predicate.tests, testsOfAll_eq, List.forall_mem_flatMap] at h
    rw [hX.any_iff, hY.any_iff]
    exact fun ⟨p, hp, hXp⟩ => ⟨p, hp, ih p hp (h p hp) hXp⟩

/-- The columns of its tests are columns of a predicate. -/
theorem columns_of_mem_tests {p t : Predicate} {c : Column} (ht : t ∈ p.tests)
    (hc : c ∈ t.columns) : c ∈ p.columns := by
  induction p using Predicate.testsInduction with
  | test q hq =>
    rw [hq, List.mem_singleton] at ht
    exact ht ▸ hc
  | all ps ih =>
    rw [Predicate.tests, testsOfAll_eq, List.mem_flatMap] at ht
    rw [Predicate.columns, columnsOfAll_eq, List.mem_flatMap]
    obtain ⟨p, hp, ht⟩ := ht
    exact ⟨p, hp, ih p hp ht⟩
  | any ps ih =>
    rw [Predicate.tests, testsOfAll_eq, List.mem_flatMap] at ht
    rw [Predicate.columns, columnsOfAll_eq, List.mem_flatMap]
    obtain ⟨p, hp, ht⟩ := ht
    exact ⟨p, hp, ih p hp ht⟩

/-! ## Predicates and their texts -/

/-- On rows of whole numbers and nulls the text of a predicate is true wherever
the predicate holds. It is true nowhere else if none of the tests is
overstated. The text of a test itself is true without the test holding if and
only if the test is overstated. -/
theorem a_text_is_true_where_its_predicate_holds_or_a_test_is_overstated {p : Predicate}
    {row : Row} (hp : ∀ t ∈ p.tests, t.IsNumberTest) (hrow : ∀ c ∈ p.columns, HasNumber row c) :
    ∃ q, readText? (join (p.pieces false)) (params (p.pieces false)) = some q ∧
      (p.holds row = true → q.truth row = .true) ∧
      ((∀ t ∈ p.tests, ¬ t.IsOverstated row) → (q.truth row = .true ↔ p.holds row = true)) ∧
      (p.tests = [p] → (q.truth row = .true ∧ ¬ p.holds row = true ↔ p.IsOverstated row)) := by
  have htests : ∀ t ∈ p.tests, t.canonical.truth row = .true ↔
      t.holds row = true ∨ t.IsOverstated row := fun t ht =>
    truth_test_iff (hp t ht) fun c hc => hrow c (columns_of_mem_tests ht hc)
  have hholds : p.holds row = true → p.canonical.truth row = .true :=
    (junctive_holds row).mono (junctive_truth row) fun t ht h => (htests t ht).mpr (.inl h)
  refine ⟨p.canonical, readText?_pieces p, hholds, fun hstated => ⟨?_, hholds⟩, fun hself => ?_⟩
  · exact (junctive_truth row).mono (junctive_holds row) fun t ht h =>
      ((htests t ht).mp h).resolve_right (hstated t ht)
  · rw [htests p (hself ▸ List.mem_cons_self)]
    constructor
    · rintro ⟨htruth, hnot⟩
      exact htruth.resolve_left hnot
    · exact fun hover => ⟨.inr hover, not_holds_of_isOverstated hrow hover⟩

/-- Tests of all kinds on a row in which one column is null and one is not
there. -/
theorem the_text_of_a_predicate_that_holds_is_true :
    let a := Column.plain "a"
    let b := Column.plain "b"
    let p : Predicate := .all [
      .any [.eq b (.int 1), .isIn b [.int 1, .null], .ge b .null, .lt a (.int 3)],
      .notIn a [.int 5, .int 7], .between a (.int 2) (.int 9), .isNull (.plain "c"),
      .any [.ne a (.int 3)]]
    let row : Row := [("a", .int 2), ("b", .null)]
    (∀ t ∈ p.tests, t.IsNumberTest) ∧ (∀ c ∈ p.columns, HasNumber row c) ∧
      (∀ t ∈ p.tests, ¬ t.IsOverstated row) ∧
      ∃ q, readText? (join (p.pieces false)) (params (p.pieces false)) = some q ∧
        q.truth row = .true := by
  intro a b p row
  have hp : ∀ t ∈ p.tests, t.IsNumberTest := by decide
  have hrow : ∀ c ∈ p.columns, HasNumber row c := by decide
  have hstated : ∀ t ∈ p.tests, ¬ t.IsOverstated row := by decide
  obtain ⟨q, hq, -, htruth, -⟩ :=
    a_text_is_true_where_its_predicate_holds_or_a_test_is_overstated hp hrow
  exact ⟨hp, hrow, hstated, q, hq, (htruth hstated).mpr rfl⟩

/-- Nothing is less than null, but the text asks for any value. -/
example :
    let p : Predicate := .lt (.plain "a") .null
    p.holds [("a", .int 1)] = false ∧ p.canonical.truth [("a", .int 1)] = .true := by
  decide

end EntityStore.Sql
