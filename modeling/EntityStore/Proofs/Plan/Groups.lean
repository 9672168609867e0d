-- What the predicate of some groups says of a row. Groups whose conditions
-- have predicates always have one together: it is never too deep, and it is
-- missing only where no group has a condition.
import EntityStore.Plan.Conditions
import EntityStore.Proofs.Fallible
import EntityStore.Proofs.Sql.Evaluation

namespace EntityStore.Plan

open EntityStore.Filter (Condition Group)
open Sql (Column Predicate passes)

/-! ## Predicates of conditions -/

/-- A predicate as conditions have it: of small depth, and no conjunction. -/
structure Flat (p : Predicate) : Prop where
  depth_le : p.depth ≤ 3
  not_all : ∀ ps, p ≠ .all ps

/-- One of several simple predicates is flat, and so is its negation. -/
theorem flat_of_anyOf {ps : List Predicate} {p : Predicate} (h : Predicate.anyOf ps = some p)
    (hps : ∀ q ∈ ps, q.depth ≤ 1 ∧ ∀ qs, q ≠ .all qs) : p.depth ≤ 2 ∧ ∀ qs, p ≠ .all qs := by
  refine ⟨Sql.depth_of_anyOf h fun q hq => (hps q hq).1, ?_⟩
  unfold Predicate.anyOf at h
  split at h
  · cases h
  · cases h
    exact (hps p List.mem_cons_self).2
  · cases h
    simp

theorem flat_containsAny (c : Column) (vs : List Value) :
    (containsAny c vs).depth ≤ 2 ∧ ∀ qs, containsAny c vs ≠ .all qs := by
  unfold containsAny
  cases h : Predicate.anyOf (vs.map (.contains c ·)) with
  | none => simp [Predicate.depth]
  | some p =>
    apply flat_of_anyOf h
    simp only [List.forall_mem_map]
    intro v _
    simp [Predicate.depth]

theorem flat_of_inOrLikes {c : Column} {vs : List Value} {p : Predicate}
    (h : inOrLikes c vs = some p) : Flat p := by
  have hleaf : p.depth ≤ 2 ∧ ∀ qs, p ≠ .all qs := by
    apply flat_of_anyOf h
    intro q hq
    rcases List.mem_append.mp hq with hq | hq
    · split at hq
      · cases hq
      · rw [List.mem_singleton] at hq
        subst hq
        simp [Predicate.depth]
    · obtain ⟨v, -, rfl⟩ := List.mem_map.mp hq
      simp [Predicate.depth]
  exact ⟨by omega, hleaf.2⟩

theorem flat_of_documentPredicate {c : Column} {op : Filter.Operator} {operand : Filter.Operand}
    {p : Predicate} (h : documentPredicate? c op operand = some p) : Flat p := by
  unfold documentPredicate? at h
  split at h
  · cases h
    exact ⟨by simp [Predicate.depth], by simp⟩
  · cases h
    exact ⟨by simp [Predicate.depth], by simp⟩
  · rename_i vs
    cases h
    have hflat := flat_containsAny c vs
    exact ⟨by omega, hflat.2⟩
  · rename_i vs
    cases h
    have hflat := flat_containsAny c vs
    exact ⟨by rw [Predicate.depth]; omega, by simp⟩
  · cases h

theorem flat_of_valuePredicate {c : Column} {op : Filter.Operator} {operand : Filter.Operand}
    {p : Predicate} (h : valuePredicate? c op operand = some p) : Flat p := by
  unfold valuePredicate? at h
  split at h <;> cases h <;> exact ⟨by simp [Predicate.depth], by simp⟩

namespace Scope

/-- The predicate that a column has for an operator and its operand, where
it has one. -/
def predicate? (s : Scope) (column : Column) (op : Filter.Operator) (operand : Filter.Operand) :
    Option Predicate :=
  match op, operand with
  | .inOrLikes, .list vs => inOrLikes column vs
  | op, operand =>
    (if s.isDocument column then documentPredicate? column op operand else none).or
      (valuePredicate? column op operand)

theorem predicate?_eq {s : Scope} {column : Column} {op : Filter.Operator}
    {operand : Filter.Operand}
    (h : ∀ vs, op = .inOrLikes → operand = .list vs → False) :
    s.predicate? column op operand =
      (if s.isDocument column then documentPredicate? column op operand else none).or
        (valuePredicate? column op operand) := by
  unfold predicate?
  split
  · exact (h _ rfl rfl).elim
  · rfl

theorem flat_of_predicate {s : Scope} {column : Column} {op : Filter.Operator}
    {operand : Filter.Operand} {p : Predicate} (h : s.predicate? column op operand = some p) :
    Flat p := by
  unfold predicate? at h
  split at h
  · exact flat_of_inOrLikes h
  · rcases Option.or_eq_some_iff.mp h with hspecial | ⟨-, hvalue⟩
    · split at hspecial
      · exact flat_of_documentPredicate hspecial
      · cases hspecial
    · exact flat_of_valuePredicate hvalue

/-- A condition has a predicate where its field means a column, and the
column has one for its operator. -/
theorem condition_eq_ok_iff {s : Scope} {c : Condition} {p : Predicate} :
    s.condition c = .ok p ↔ ∃ column, s.resolve .filter c.field = .ok column ∧
      s.predicate? column c.operator c.operand = some p := by
  obtain ⟨field, op, operand⟩ := c
  unfold condition
  rw [bind_eq_ok_iff]
  apply exists_congr
  intro column
  apply and_congr_right
  intro _
  dsimp only
  split
  · rw [predicate?]
    split
    · rename_i heq
      rw [heq]
      simp [pure, Except.pure]
    · rename_i heq
      rw [heq]
      constructor <;> rintro ⟨⟩
  · rename_i hother
    rw [predicate?_eq hother]
    split
    · rename_i heq
      rw [heq]
      simp [pure, Except.pure]
    · rename_i heq
      rw [heq]
      constructor <;> rintro ⟨⟩

theorem flat_of_condition {s : Scope} {c : Condition} {p : Predicate}
    (h : s.condition c = .ok p) : Flat p := by
  obtain ⟨column, -, hp⟩ := condition_eq_ok_iff.mp h
  exact flat_of_predicate hp

/-! ## What groups ask for -/

/-- A condition holds on a row when its predicate does. -/
def ConditionHolds (s : Scope) (row : Row) (c : Condition) : Prop :=
  ∃ p, s.condition c = .ok p ∧ p.holds row = true

def GroupHolds (s : Scope) (row : Row) (g : Group) : Prop :=
  match g.effective with
  | .and => ∀ c ∈ g.conditions, s.ConditionHolds row c
  | .or => ∃ c ∈ g.conditions, s.ConditionHolds row c

/-- Every condition of the groups has a predicate. -/
def Compile (s : Scope) (gs : List Group) : Prop :=
  ∀ g ∈ gs, ∀ c ∈ g.conditions, ∃ p, s.condition c = .ok p

/-! ## One group -/

/-- The predicate of a condition that has one. -/
def predicateOf (s : Scope) (c : Condition) : Predicate :=
  match s.condition c with
  | .ok p => p
  | .error _ => .any []

theorem condition_eq_ok {s : Scope} {c : Condition} (h : ∃ p, s.condition c = .ok p) :
    s.condition c = .ok (s.predicateOf c) := by
  obtain ⟨p, hp⟩ := h
  rw [predicateOf, hp]

theorem conditionHolds_iff {s : Scope} {row : Row} {c : Condition}
    (h : ∃ p, s.condition c = .ok p) :
    s.ConditionHolds row c ↔ (s.predicateOf c).holds row = true := by
  have hc := condition_eq_ok h
  constructor
  · rintro ⟨p, hp, hholds⟩
    rw [hc] at hp
    cases hp
    exact hholds
  · exact fun hholds => ⟨_, hc, hholds⟩

/-- The predicate of a group whose conditions have predicates. -/
def groupPredicate (s : Scope) (g : Group) : Option Predicate :=
  match g.effective with
  | .and => Predicate.allOf (g.conditions.map s.predicateOf)
  | .or => Predicate.anyOf (g.conditions.map s.predicateOf)

theorem group_eq_ok {s : Scope} {g : Group}
    (h : ∀ c ∈ g.conditions, ∃ p, s.condition c = .ok p) :
    s.group g = .ok (s.groupPredicate g) := by
  have hps : g.conditions.mapM s.condition = .ok (g.conditions.map s.predicateOf) :=
    mapM_eq_ok fun c hc => condition_eq_ok (h c hc)
  rw [group, hps]
  rfl

theorem passes_groupPredicate_iff {s : Scope} {row : Row} {g : Group} (hg : g.isEmpty = false)
    (h : ∀ c ∈ g.conditions, ∃ p, s.condition c = .ok p) :
    passes (s.groupPredicate g) row = true ↔ s.GroupHolds row g := by
  unfold groupPredicate GroupHolds
  cases g.effective with
  | and =>
    rw [Sql.passes_allOf_iff, List.forall_mem_map]
    constructor
    · exact fun hall c hc => (conditionHolds_iff (h c hc)).mpr (hall c hc)
    · exact fun hall c hc => (conditionHolds_iff (h c hc)).mp (hall c hc)
  | or =>
    rw [Sql.passes_anyOf_iff row (by simpa [Group.isEmpty] using hg)]
    constructor
    · rintro ⟨p, hp, hholds⟩
      obtain ⟨c, hc, rfl⟩ := List.mem_map.mp hp
      exact ⟨c, hc, (conditionHolds_iff (h c hc)).mpr hholds⟩
    · rintro ⟨c, hc, hholds⟩
      exact ⟨_, List.mem_map_of_mem hc, (conditionHolds_iff (h c hc)).mp hholds⟩

/-- A group without conditions asks for nothing. -/
theorem groupHolds_of_isEmpty {s : Scope} {row : Row} {g : Group} (hg : g.isEmpty = true) :
    s.GroupHolds row g := by
  have hnil : g.conditions = [] := List.isEmpty_iff.mp hg
  simp [GroupHolds, Group.effective, hnil]

/-- The predicate of a group with conditions is there. It is a conjunction
only with parts. -/
theorem groupPredicate_eq_some {s : Scope} {g : Group} (hg : g.isEmpty = false)
    (h : ∀ c ∈ g.conditions, ∃ p, s.condition c = .ok p) :
    ∃ p, s.groupPredicate g = some p ∧ p.depth ≤ 4 ∧ p ≠ .all [] := by
  have hne : g.conditions.map s.predicateOf ≠ [] := by simpa [Group.isEmpty] using hg
  have hflat : ∀ p ∈ g.conditions.map s.predicateOf, Flat p := by
    simp only [List.forall_mem_map]
    exact fun c hc => flat_of_condition (condition_eq_ok (h c hc))
  cases hp : s.groupPredicate g with
  | none =>
    unfold groupPredicate at hp
    split at hp
    · exact absurd (Sql.allOf_eq_none_iff.mp hp) hne
    · exact absurd (Sql.anyOf_eq_none_iff.mp hp) hne
  | some p =>
    refine ⟨p, rfl, ?_⟩
    unfold groupPredicate at hp
    split at hp
    · refine ⟨Sql.depth_of_allOf hp fun q hq => (hflat q hq).depth_le, ?_⟩
      unfold Predicate.allOf at hp
      split at hp
      · cases hp
      · rename_i hps
        cases hp
        exact (hflat p (by simp [hps])).not_all []
      · cases hp
        simpa using hne
    · refine ⟨Sql.depth_of_anyOf hp fun q hq => (hflat q hq).depth_le, ?_⟩
      unfold Predicate.anyOf at hp
      split at hp
      · cases hp
      · rename_i hps
        cases hp
        exact (hflat p (by simp [hps])).not_all []
      · cases hp
        simp

/-! ## Flattening -/

theorem forall_holds_flatten_iff {row : Row} {ps : List Predicate} :
    (∀ p ∈ flatten ps, p.holds row = true) ↔ ∀ p ∈ ps, p.holds row = true := by
  simp only [flatten, List.forall_mem_flatMap]
  apply forall_congr'
  intro p
  apply imp_congr_right
  intro _
  split
  · rw [Predicate.holds, Sql.allHold_iff]
  · simp

theorem flatten_eq_nil_iff {ps : List Predicate} (h : ∀ p ∈ ps, p ≠ .all []) :
    flatten ps = [] ↔ ps = [] := by
  constructor
  · intro hnil
    cases ps with
    | nil => rfl
    | cons p ps =>
      simp only [flatten, List.flatMap_cons, List.append_eq_nil_iff] at hnil
      have hp := h p List.mem_cons_self
      split at hnil
      · exact absurd (by rw [hnil.1]) hp
      · cases hnil.1
  · rintro rfl
    rfl

theorem depth_of_mem_flatten {ps : List Predicate} {n : Nat} (h : ∀ p ∈ ps, p.depth ≤ n) :
    ∀ p ∈ flatten ps, p.depth ≤ n := by
  intro q hq
  obtain ⟨p, hp, hq⟩ := List.mem_flatMap.mp hq
  have hdepth := h p hp
  split at hq
  · rename_i qs
    rw [Predicate.depth] at hdepth
    have := Sql.depths_le_iff.mp (Nat.le_refl (Predicate.depths qs)) q hq
    omega
  · rw [List.mem_singleton] at hq
    rw [hq]
    exact hdepth

/-! ## All groups -/

/-- The predicates of the groups that have conditions. -/
def groupPredicates (s : Scope) (gs : List Group) : List Predicate :=
  (gs.filter fun g => !g.isEmpty).filterMap s.groupPredicate

theorem mem_groupPredicates_iff {s : Scope} {gs : List Group} {p : Predicate} :
    p ∈ s.groupPredicates gs ↔ ∃ g ∈ gs, g.isEmpty = false ∧ s.groupPredicate g = some p := by
  simp [groupPredicates, and_assoc]

theorem forall_holds_groupPredicates_iff {s : Scope} {row : Row} {gs : List Group}
    (h : s.Compile gs) :
    (∀ p ∈ s.groupPredicates gs, p.holds row = true) ↔ ∀ g ∈ gs, s.GroupHolds row g := by
  constructor
  · intro hall g hg
    cases hempty : g.isEmpty with
    | true => exact groupHolds_of_isEmpty hempty
    | false =>
      obtain ⟨p, hp, -⟩ := groupPredicate_eq_some hempty (h g hg)
      have hholds := hall p (mem_groupPredicates_iff.mpr ⟨g, hg, hempty, hp⟩)
      rw [← passes_groupPredicate_iff hempty (h g hg), hp]
      exact hholds
  · intro hall p hp
    obtain ⟨g, hg, hempty, hp⟩ := mem_groupPredicates_iff.mp hp
    have hpasses := (passes_groupPredicate_iff hempty (h g hg)).mpr (hall g hg)
    rw [hp] at hpasses
    exact hpasses

theorem groupPredicates_eq_nil_iff {s : Scope} {gs : List Group} (h : s.Compile gs) :
    s.groupPredicates gs = [] ↔ ∀ g ∈ gs, g.isEmpty = true := by
  rw [List.eq_nil_iff_forall_not_mem]
  constructor
  · intro hnone g hg
    cases hempty : g.isEmpty with
    | true => rfl
    | false =>
      obtain ⟨p, hp, -⟩ := groupPredicate_eq_some hempty (h g hg)
      exact absurd (mem_groupPredicates_iff.mpr ⟨g, hg, hempty, hp⟩) (hnone p)
  · intro hall p hp
    obtain ⟨g, hg, hempty, -⟩ := mem_groupPredicates_iff.mp hp
    rw [hall g hg] at hempty
    cases hempty

/-- Groups that compile have a predicate together, or none where no group has
a condition. A row passes it when it passes each group. -/
theorem groups_eq_ok {s : Scope} {gs : List Group} (h : s.Compile gs) :
    ∃ found, s.groups gs = .ok found ∧ (found = none ↔ ∀ g ∈ gs, g.isEmpty = true) ∧
      ∀ row, passes found row = true ↔ ∀ g ∈ gs, s.GroupHolds row g := by
  have hsound : ∀ p ∈ s.groupPredicates gs, p.depth ≤ 4 ∧ p ≠ .all [] := by
    intro p hp
    obtain ⟨g, hg, hempty, hp⟩ := mem_groupPredicates_iff.mp hp
    obtain ⟨q, hq, hqs⟩ := groupPredicate_eq_some hempty (h g hg)
    rw [hq] at hp
    cases hp
    exact hqs
  have hparts : (gs.filter fun g => !g.isEmpty).mapM s.group =
      .ok ((gs.filter fun g => !g.isEmpty).map s.groupPredicate) :=
    mapM_eq_ok fun g hg => group_eq_ok (h g (List.mem_filter.mp hg).1)
  refine ⟨Predicate.allOf (flatten (s.groupPredicates gs)), ?_, ?_, ?_⟩
  · have hids : ((gs.filter fun g => !g.isEmpty).map s.groupPredicate).filterMap id =
        s.groupPredicates gs := by
      rw [List.filterMap_map]
      rfl
    rw [groups, hparts]
    simp only [Bind.bind, Except.bind, hids]
    cases hp : Predicate.allOf (flatten (s.groupPredicates gs)) with
    | none => rfl
    | some p =>
      have hdepth := Sql.depth_of_allOf hp (depth_of_mem_flatten fun q hq => (hsound q hq).1)
      rw [Option.elim_some, Sql.checkDepth_eq_ok (by rw [Predicate.maxDepth]; omega)]
      rfl
  · rw [Sql.allOf_eq_none_iff, flatten_eq_nil_iff fun p hp => (hsound p hp).2,
      groupPredicates_eq_nil_iff h]
  · intro row
    rw [Sql.passes_allOf_iff, forall_holds_flatten_iff, forall_holds_groupPredicates_iff h]

end Scope

end EntityStore.Plan
