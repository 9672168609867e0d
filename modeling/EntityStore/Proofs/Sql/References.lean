-- The columns that a query refers to, and whether it has them. A query is
-- closed when each of them is a column of one of its own tables, or one of its
-- outputs.
import EntityStore.Entity
import EntityStore.Sql.Statement

namespace EntityStore.Sql

/-! ## Columns -/

mutual

/-- The columns that a predicate is about. -/
def Predicate.columns : Predicate → List Column
  | .eq c _ => [c]
  | .ne c _ => [c]
  | .lt c _ => [c]
  | .le c _ => [c]
  | .gt c _ => [c]
  | .ge c _ => [c]
  | .isIn c _ => [c]
  | .notIn c _ => [c]
  | .between c _ _ => [c]
  | .isNull c => [c]
  | .notNull c => [c]
  | .like c _ => [c]
  | .notLike c _ => [c]
  | .regexp c _ => [c]
  | .notRegexp c _ => [c]
  | .contains c _ => [c]
  | .all ps => columnsOfAll ps
  | .any ps => columnsOfAll ps
  | .not p => p.columns

/-- The columns that some predicates are about. -/
def Predicate.columnsOfAll : List Predicate → List Column
  | [] => []
  | p :: ps => p.columns ++ columnsOfAll ps

end

def Aggregate.columns : Aggregate → List Column
  | .count => []
  | .countDistinct c => [c]
  | .sum c => [c]
  | .min c => [c]
  | .max c => [c]
  | .avg c => [c]

namespace Item

/-- The columns of an output. An expression stands as the caller wrote it. -/
def columns : Item → List Column
  | .column c _ => [c]
  | .raw _ => []
  | .aggregate a _ => a.columns

/-- The name that an output is given. -/
def label? : Item → Option String
  | .column _ label => label
  | .raw _ => none
  | .aggregate _ label => some label

end Item

/-! ## Queries -/

namespace Query

/-- The columns of the outputs, the predicate, the groups and the order. -/
def references (q : Query) : List Column :=
  q.items.flatMap Item.columns ++ q.predicate.toList.flatMap Predicate.columns ++
    q.groupBy ++ q.orderBy.map (·.1)

/-- The query has a table or an output for the column, where these are the
columns that are known. -/
def knows (known : Columns) (q : Query) (c : Column) : Bool :=
  match c.qualifier with
  | some table => table == q.reference || (q.joins.map Join.reference).contains table
  | none => Fields.contains known c.name || (q.items.filterMap Item.label?).contains c.name

/-- The query knows all columns that it refers to. -/
def Closed (known : Columns) (q : Query) : Prop := ∀ c ∈ q.references, q.knows known c = true

instance (known : Columns) (q : Query) : Decidable (q.Closed known) :=
  inferInstanceAs (Decidable (∀ c ∈ q.references, q.knows known c = true))

end Query

/-! ## Predicates about some columns -/

variable {P : Column → Prop} {p q : Predicate} {ps : List Predicate}

/-- All columns of a predicate are of a kind. -/
def Predicate.Over (P : Column → Prop) (p : Predicate) : Prop := ∀ c ∈ p.columns, P c

theorem columnsOfAll_eq (ps : List Predicate) :
    Predicate.columnsOfAll ps = ps.flatMap Predicate.columns := by
  induction ps with
  | nil => rfl
  | cons p ps ih => rw [Predicate.columnsOfAll, ih, List.flatMap_cons]

theorem over_all_iff : (Predicate.all ps).Over P ↔ ∀ p ∈ ps, p.Over P := by
  unfold Predicate.Over
  rw [Predicate.columns, columnsOfAll_eq, List.forall_mem_flatMap]

theorem over_any_iff : (Predicate.any ps).Over P ↔ ∀ p ∈ ps, p.Over P := by
  unfold Predicate.Over
  rw [Predicate.columns, columnsOfAll_eq, List.forall_mem_flatMap]

theorem over_of_allOf (h : Predicate.allOf ps = some p) (hps : ∀ p ∈ ps, p.Over P) :
    p.Over P := by
  unfold Predicate.allOf at h
  split at h
  · cases h
  · cases h
    exact hps p List.mem_cons_self
  · cases h
    exact over_all_iff.mpr hps

theorem over_of_anyOf (h : Predicate.anyOf ps = some p) (hps : ∀ p ∈ ps, p.Over P) :
    p.Over P := by
  unfold Predicate.anyOf at h
  split at h
  · cases h
  · cases h
    exact hps p List.mem_cons_self
  · cases h
    exact over_any_iff.mpr hps

theorem over_and (hp : p.Over P) (hq : q.Over P) : (p.and q).Over P := by
  unfold Predicate.and
  split
  · rw [over_all_iff] at hp ⊢
    exact List.forall_mem_append.mpr ⟨hp, List.forall_mem_singleton.mpr hq⟩
  · rw [over_all_iff]
    exact List.forall_mem_cons.mpr ⟨hp, List.forall_mem_singleton.mpr hq⟩

/-! ## Queries about some columns -/

/-- All columns of a query are of a kind, but for outputs that it is sorted
by. -/
structure Query.Over (P : Column → Prop) (q : Query) : Prop where
  items : ∀ i ∈ q.items, ∀ c ∈ i.columns, P c
  predicate : ∀ p, q.predicate = some p → p.Over P
  groupBy : ∀ c ∈ q.groupBy, P c
  orderBy : ∀ o ∈ q.orderBy, P o.1 ∨
    o.1.qualifier = none ∧ o.1.name ∈ q.items.filterMap Item.label?

namespace Query

variable {q : Query}

theorem Over.references (h : q.Over P) : ∀ c ∈ q.references, P c ∨
    c.qualifier = none ∧ c.name ∈ q.items.filterMap Item.label? := by
  intro c hc
  rw [Query.references] at hc
  rcases List.mem_append.mp hc with hc | horder
  · rcases List.mem_append.mp hc with hc | hgroup
    · rcases List.mem_append.mp hc with hitem | hpredicate
      · obtain ⟨i, hi, hc⟩ := List.mem_flatMap.mp hitem
        exact .inl (h.items i hi c hc)
      · obtain ⟨p, hp, hc⟩ := List.mem_flatMap.mp hpredicate
        exact .inl (h.predicate p (Option.mem_toList.mp hp) c hc)
    · exact .inl (h.groupBy c hgroup)
  · obtain ⟨o, ho, rfl⟩ := List.mem_map.mp horder
    exact h.orderBy o ho

theorem Over.restrict (h : q.Over P) (hp : p.Over P) : (q.restrict p).Over P where
  items := h.items
  predicate := by
    rintro p' heq
    obtain rfl := Option.some.inj heq
    split
    · rename_i existing hexisting
      exact over_and (h.predicate existing hexisting) hp
    · exact hp
  groupBy := h.groupBy
  orderBy := h.orderBy

theorem Over.restrict? {p : Option Predicate} (h : q.Over P) (hp : ∀ r, p = some r → r.Over P) :
    (q.restrict? p).Over P := by
  cases p with
  | none => exact h
  | some r => exact h.restrict (hp r rfl)

end Query

end EntityStore.Sql
