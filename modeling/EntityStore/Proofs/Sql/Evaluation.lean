-- What junctions of predicates say of a row, and how deep they nest.
import EntityStore.Sql.Evaluation

namespace EntityStore.Sql

/-! ## Junctions -/

theorem allHold_iff {row : Row} {ps : List Predicate} :
    allHold row ps = true ↔ ∀ p ∈ ps, p.holds row = true := by
  induction ps with
  | nil => simp [allHold]
  | cons p ps ih => rw [allHold, Bool.and_eq_true, ih, List.forall_mem_cons]

theorem anyHolds_iff {row : Row} {ps : List Predicate} :
    anyHolds row ps = true ↔ ∃ p ∈ ps, p.holds row = true := by
  induction ps with
  | nil => simp [anyHolds]
  | cons p ps ih => simp [anyHolds, ih]

/-- The row passes a predicate. Every row passes where there is none. -/
def passes (p : Option Predicate) (row : Row) : Bool := p.all fun p => p.holds row

theorem passes_allOf_iff {row : Row} {ps : List Predicate} :
    passes (Predicate.allOf ps) row = true ↔ ∀ p ∈ ps, p.holds row = true := by
  unfold Predicate.allOf
  split
  · simp [passes]
  · simp [passes]
  · rw [passes, Option.all_some, Predicate.holds, allHold_iff]

theorem passes_anyOf_iff (row : Row) {ps : List Predicate} (h : ps ≠ []) :
    passes (Predicate.anyOf ps) row = true ↔ ∃ p ∈ ps, p.holds row = true := by
  unfold Predicate.anyOf
  split
  · exact absurd rfl h
  · simp [passes]
  · rw [passes, Option.all_some, Predicate.holds, anyHolds_iff]

theorem holds_and (row : Row) (p q : Predicate) :
    (p.and q).holds row = (p.holds row && q.holds row) := by
  unfold Predicate.and
  split
  · rw [Bool.eq_iff_iff, Bool.and_eq_true, Predicate.holds, Predicate.holds, allHold_iff,
      allHold_iff]
    simp [or_imp, forall_and]
  · simp [Predicate.holds, allHold]

theorem allOf_eq_none_iff {ps : List Predicate} : Predicate.allOf ps = none ↔ ps = [] := by
  unfold Predicate.allOf
  split <;> simp_all

theorem anyOf_eq_none_iff {ps : List Predicate} : Predicate.anyOf ps = none ↔ ps = [] := by
  unfold Predicate.anyOf
  split <;> simp_all

/-! ## Depths -/

theorem depths_le_iff {ps : List Predicate} {n : Nat} :
    Predicate.depths ps ≤ n ↔ ∀ p ∈ ps, p.depth ≤ n := by
  induction ps with
  | nil => simp [Predicate.depths]
  | cons p ps ih => rw [Predicate.depths, Nat.max_le, ih, List.forall_mem_cons]

theorem depth_of_allOf {ps : List Predicate} {p : Predicate} {n : Nat}
    (h : Predicate.allOf ps = some p) (hn : ∀ q ∈ ps, q.depth ≤ n) : p.depth ≤ n + 1 := by
  unfold Predicate.allOf at h
  split at h
  · cases h
  · cases h
    have := hn p List.mem_cons_self
    omega
  · cases h
    have := depths_le_iff.mpr hn
    rw [Predicate.depth]
    omega

theorem depth_of_anyOf {ps : List Predicate} {p : Predicate} {n : Nat}
    (h : Predicate.anyOf ps = some p) (hn : ∀ q ∈ ps, q.depth ≤ n) : p.depth ≤ n + 1 := by
  unfold Predicate.anyOf at h
  split at h
  · cases h
  · cases h
    have := hn p List.mem_cons_self
    omega
  · cases h
    have := depths_le_iff.mpr hn
    rw [Predicate.depth]
    omega

theorem depth_and {p q : Predicate} {n : Nat} (hp : p.depth ≤ n) (hq : q.depth ≤ n) :
    (p.and q).depth ≤ n + 1 := by
  unfold Predicate.and
  split
  · rename_i ps
    rw [Predicate.depth] at hp
    have hps := depths_le_iff.mp (by omega : Predicate.depths ps ≤ n)
    have := depths_le_iff.mpr (List.forall_mem_append.mpr ⟨hps, List.forall_mem_singleton.mpr hq⟩)
    rw [Predicate.depth]
    omega
  · have := depths_le_iff.mpr (List.forall_mem_cons.mpr ⟨hp, List.forall_mem_singleton.mpr hq⟩)
    rw [Predicate.depth]
    omega

theorem checkDepth_eq_ok {p : Predicate} (h : p.depth ≤ Predicate.maxDepth) :
    p.checkDepth = .ok () := by
  rw [Predicate.checkDepth, if_neg (by omega)]

end EntityStore.Sql
