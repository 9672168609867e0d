-- What the query of some groups finds. A group that asks for all of its
-- conditions asks them of the document itself, and those under one nested
-- path of one and the same object there. A group that asks for one of its
-- conditions is content with any object.
import EntityStore.Proofs.Fallible
import EntityStore.Proofs.Indices.Matching

namespace EntityStore.Search

open EntityStore.Filter (Condition Group)
open Indices (Holds finds objectsAt under)

/-! ## What groups ask for -/

/-- A condition holds on a document when its clause does. -/
def ConditionHolds (c : Condition) (doc : Json) : Prop :=
  ∃ clause, condition c = .ok clause ∧ Holds clause doc

/-- All conditions hold: those of the document itself on it, and those under
a nested path on one object there. -/
def AllHold (e : Entity) (g : Group) (doc : Json) : Prop :=
  (∀ c ∈ g.conditions, e.nestedPath? c.field = none → ConditionHolds c doc) ∧
  ∀ path, (∃ c ∈ g.conditions, e.nestedPath? c.field = some path) →
    ∃ element ∈ objectsAt doc path, ∀ c ∈ g.conditions, e.nestedPath? c.field = some path →
      ConditionHolds c (under path element)

/-- Some condition holds on the document, or on an object under its path. -/
def SomeHolds (e : Entity) (g : Group) (doc : Json) : Prop :=
  (∃ c ∈ g.conditions, e.nestedPath? c.field = none ∧ ConditionHolds c doc) ∨
  ∃ path, ∃ c ∈ g.conditions, e.nestedPath? c.field = some path ∧
    ∃ element ∈ objectsAt doc path, ConditionHolds c (under path element)

def GroupHolds (e : Entity) (g : Group) (doc : Json) : Prop :=
  match g.effective with
  | .and => AllHold e g doc
  | .or => SomeHolds e g doc

/-- Every condition of the groups has a clause. -/
def Compile (gs : List Group) : Prop :=
  ∀ g ∈ gs, ∀ c ∈ g.conditions, ∃ clause, condition c = .ok clause

/-! ## Partitions of groups that compile -/

/-- The clause of a condition that has one. -/
def clauseOf (c : Condition) : Clause :=
  match condition c with
  | .ok clause => clause
  | .error _ => ⟨.matchAll, false⟩

theorem condition_eq_ok {c : Condition} (h : ∃ clause, condition c = .ok clause) :
    condition c = .ok (clauseOf c) := by
  obtain ⟨clause, hc⟩ := h
  rw [clauseOf, hc]

theorem conditionHolds_iff {c : Condition} {doc : Json} (h : ∃ clause, condition c = .ok clause) :
    ConditionHolds c doc ↔ Holds (clauseOf c) doc := by
  have hc := condition_eq_ok h
  constructor
  · rintro ⟨clause, hclause, hholds⟩
    rw [hc] at hclause
    cases hclause
    exact hholds
  · exact fun hholds => ⟨_, hc, hholds⟩

/-- The clauses of a group with the paths that they lie under. -/
def placed (e : Entity) (g : Group) : List (Option String × Clause) :=
  g.conditions.map fun c => (e.nestedPath? c.field, clauseOf c)

def partitionOf (e : Entity) (g : Group) : Partition := .ofClauses g.effective (placed e g)

theorem partition_eq_ok {e : Entity} {g : Group}
    (h : ∀ c ∈ g.conditions, ∃ clause, condition c = .ok clause) :
    partition e g = .ok (partitionOf e g) := by
  have hcs : g.conditions.mapM (fun c => do return (e.nestedPath? c.field, ← condition c)) =
      Except.ok (placed e g) := by
    apply mapM_eq_ok
    intro c hc
    rw [condition_eq_ok (h c hc)]
    rfl
  rw [partition, hcs]
  rfl

theorem partitions_eq_ok {e : Entity} {gs : List Group} (h : Compile gs) :
    partitions e gs = .ok ((gs.filter fun g => !g.isEmpty).map (partitionOf e)) := by
  apply mapM_eq_ok
  intro g hg
  exact partition_eq_ok (h g ((List.mem_filter.mp hg).1))

theorem mem_root {e : Entity} {g : Group} {clause : Clause} :
    clause ∈ (partitionOf e g).root ↔
      ∃ c ∈ g.conditions, e.nestedPath? c.field = none ∧ clauseOf c = clause := by
  simp only [partitionOf, Partition.ofClauses, placed, List.mem_map, List.mem_filter]
  constructor
  · rintro ⟨_, ⟨⟨c, hc, rfl⟩, hnone⟩, rfl⟩
    exact ⟨c, hc, by simpa using hnone, rfl⟩
  · rintro ⟨c, hc, hnone, rfl⟩
    exact ⟨_, ⟨⟨c, hc, rfl⟩, by simp [hnone]⟩, rfl⟩

/-- The clauses of a group that lie under a path. -/
def clausesUnder (e : Entity) (g : Group) (path : String) : List Clause :=
  ((placed e g).filter fun c => c.1 == some path).map (·.2)

theorem mem_clausesUnder {e : Entity} {g : Group} {path : String} {clause : Clause} :
    clause ∈ clausesUnder e g path ↔
      ∃ c ∈ g.conditions, e.nestedPath? c.field = some path ∧ clauseOf c = clause := by
  simp only [clausesUnder, placed, List.mem_map, List.mem_filter]
  constructor
  · rintro ⟨_, ⟨⟨c, hc, rfl⟩, hpath⟩, rfl⟩
    exact ⟨c, hc, by simpa using hpath, rfl⟩
  · rintro ⟨c, hc, hpath, rfl⟩
    exact ⟨_, ⟨⟨c, hc, rfl⟩, by simp [hpath]⟩, rfl⟩

theorem mem_nested {e : Entity} {g : Group} {path : String} {cs : List Clause} :
    (path, cs) ∈ (partitionOf e g).nested ↔
      (∃ c ∈ g.conditions, e.nestedPath? c.field = some path) ∧ cs = clausesUnder e g path := by
  have hpaths : path ∈ Fields.names ((placed e g).filterMap (·.1)) ↔
      ∃ c ∈ g.conditions, e.nestedPath? c.field = some path := by
    rw [Fields.mem_names]
    simp [placed, List.mem_filterMap]
  rw [← hpaths]
  simp only [partitionOf, Partition.ofClauses, List.mem_map]
  constructor
  · rintro ⟨p, hp, heq⟩
    cases heq
    exact ⟨hp, rfl⟩
  · rintro ⟨hp, rfl⟩
    exact ⟨path, hp, rfl⟩

/-! ## What a partition asks for -/

/-- What the clauses of a partition ask of a document. -/
def Partition.Holds (p : Partition) (doc : Json) : Prop :=
  match p.logic with
  | .and => (∀ c ∈ p.root, Indices.Holds c doc) ∧
      ∀ path cs, (path, cs) ∈ p.nested → ∃ element ∈ objectsAt doc path,
        ∀ c ∈ cs, Indices.Holds c (under path element)
  | .or => (∃ c ∈ p.root, Indices.Holds c doc) ∨
      ∃ path cs, (path, cs) ∈ p.nested ∧ ∃ element ∈ objectsAt doc path,
        ∃ c ∈ cs, Indices.Holds c (under path element)

theorem finds_container_iff {e : Entity} {withHits : Bool} {path : String} {q : Query}
    {doc : Json} :
    finds (container e withHits path q) doc = true ↔
      ∃ element ∈ objectsAt doc path, finds q (under path element) = true :=
  Indices.finds_nested_iff

/-- The queries that a partition adds to a junction ask for what the
partition asks for. -/
theorem filters_refused_iff (e : Entity) (withHits : Bool) {p : Partition} {doc : Json} :
    (∀ q ∈ p.filters e withHits, finds q doc = true) ∧ (∀ q ∈ p.refused, finds q doc = false) ↔
      p.Holds doc := by
  unfold Partition.filters Partition.refused Partition.Holds
  cases p.logic with
  | and =>
    simp only [List.mem_append, or_imp, forall_and]
    rw [and_right_comm, ← Indices.forall_holds_iff]
    simp only [List.forall_mem_map, Prod.forall, finds_container_iff,
      Indices.finds_conjunction_iff]
  | or =>
    simp only [List.mem_singleton, forall_eq, List.not_mem_nil, false_imp_iff, implies_true,
      and_true, Indices.finds_disjunction_iff, List.mem_append, or_and_right, exists_or]
    apply or_congr
    · simp only [List.mem_map, exists_exists_and_eq_and, Indices.finds_whole_iff]
    · simp only [List.mem_map, exists_exists_and_eq_and]
      simp only [Prod.exists, finds_container_iff, Indices.finds_any_whole_iff]

theorem finds_junction_iff {e : Entity} {withHits : Bool} {ps : List Partition}
    {must : List Query} {doc : Json} :
    finds ({ junction e withHits ps with must := must } : Junction).query doc = true ↔
      (∀ q ∈ must, finds q doc = true) ∧ ∀ p ∈ ps, p.Holds doc := by
  simp only [junction, Indices.finds_junction_iff, List.mem_flatMap, forall_exists_index, and_imp]
  apply and_congr_right'
  simp only [← filters_refused_iff e withHits]
  constructor
  · rintro ⟨hfilters, hrefused⟩ p hp
    exact ⟨fun q hq => hfilters q p hp hq, fun q hq => hrefused q p hp hq⟩
  · intro h
    exact ⟨fun q p hp hq => (h p hp).1 q hq, fun q p hp hq => (h p hp).2 q hq⟩

/-- A group asks for what its partition asks for. -/
theorem holds_partitionOf_iff {e : Entity} {g : Group} {doc : Json}
    (h : ∀ c ∈ g.conditions, ∃ clause, condition c = .ok clause) :
    (partitionOf e g).Holds doc ↔ GroupHolds e g doc := by
  have hlogic : (partitionOf e g).logic = g.effective := rfl
  unfold Partition.Holds GroupHolds
  rw [hlogic]
  cases g.effective with
  | and =>
    constructor
    · rintro ⟨hroot, hnested⟩
      refine ⟨fun c hc hnone => ?_, fun path hpath => ?_⟩
      · rw [conditionHolds_iff (h c hc)]
        exact hroot _ (mem_root.mpr ⟨c, hc, hnone, rfl⟩)
      · obtain ⟨element, helement, hall⟩ := hnested path _ (mem_nested.mpr ⟨hpath, rfl⟩)
        refine ⟨element, helement, fun c hc hsome => ?_⟩
        rw [conditionHolds_iff (h c hc)]
        exact hall _ (mem_clausesUnder.mpr ⟨c, hc, hsome, rfl⟩)
    · rintro ⟨hroot, hnested⟩
      refine ⟨fun clause hclause => ?_, fun path cs hcs => ?_⟩
      · obtain ⟨c, hc, hnone, rfl⟩ := mem_root.mp hclause
        exact (conditionHolds_iff (h c hc)).mp (hroot c hc hnone)
      · obtain ⟨hpath, rfl⟩ := mem_nested.mp hcs
        obtain ⟨element, helement, hall⟩ := hnested path hpath
        refine ⟨element, helement, fun clause hclause => ?_⟩
        obtain ⟨c, hc, hsome, rfl⟩ := mem_clausesUnder.mp hclause
        exact (conditionHolds_iff (h c hc)).mp (hall c hc hsome)
  | or =>
    constructor
    · rintro (⟨clause, hclause, hholds⟩ |
        ⟨path, cs, hcs, element, helement, clause, hclause, hholds⟩)
      · obtain ⟨c, hc, hnone, rfl⟩ := mem_root.mp hclause
        exact Or.inl ⟨c, hc, hnone, (conditionHolds_iff (h c hc)).mpr hholds⟩
      · obtain ⟨-, rfl⟩ := mem_nested.mp hcs
        obtain ⟨c, hc, hsome, rfl⟩ := mem_clausesUnder.mp hclause
        exact Or.inr ⟨path, c, hc, hsome, element, helement,
          (conditionHolds_iff (h c hc)).mpr hholds⟩
    · rintro (⟨c, hc, hnone, hholds⟩ | ⟨path, c, hc, hsome, element, helement, hholds⟩)
      · exact Or.inl ⟨_, mem_root.mpr ⟨c, hc, hnone, rfl⟩, (conditionHolds_iff (h c hc)).mp hholds⟩
      · exact Or.inr ⟨path, _, mem_nested.mpr ⟨⟨c, hc, hsome⟩, rfl⟩, element, helement, _,
          mem_clausesUnder.mpr ⟨c, hc, hsome, rfl⟩, (conditionHolds_iff (h c hc)).mp hholds⟩

/-! ## The query of all groups -/

/-- The junction of all groups, and of other queries that have to match. -/
def junctionOf (e : Entity) (withHits : Bool) (must : List Query) (gs : List Group) : Junction :=
  { junction e withHits ((gs.filter fun g => !g.isEmpty).map (partitionOf e)) with must := must }

/-- A group with a condition adds a query to the junction. -/
theorem partitionOf_adds (e : Entity) (withHits : Bool) {g : Group} (hg : g.isEmpty = false) :
    (partitionOf e g).filters e withHits ≠ [] ∨ (partitionOf e g).refused ≠ [] := by
  obtain ⟨c, hc⟩ : ∃ c, c ∈ g.conditions := by
    cases hcs : g.conditions with
    | nil => simp [Group.isEmpty, hcs] at hg
    | cons c _ => exact ⟨c, List.mem_cons_self⟩
  have hlogic : (partitionOf e g).logic = g.effective := rfl
  unfold Partition.filters Partition.refused
  rw [hlogic]
  cases g.effective with
  | or => simp
  | and =>
    cases hpath : e.nestedPath? c.field with
    | some path =>
      have hnested := mem_nested.mpr ⟨⟨c, hc, hpath⟩, rfl⟩
      simp [List.ne_nil_of_mem hnested]
    | none =>
      have hroot := mem_root.mpr ⟨c, hc, hpath, rfl⟩
      cases hneg : (clauseOf c).negated
      · exact Or.inl (List.append_ne_nil_of_left_ne_nil (List.ne_nil_of_mem
          (List.mem_map_of_mem (List.mem_filter.mpr ⟨hroot, by simp [hneg]⟩))) _)
      · exact Or.inr (List.ne_nil_of_mem
          (List.mem_map_of_mem (List.mem_filter.mpr ⟨hroot, hneg⟩)))

theorem junctionOf_isEmpty_iff (e : Entity) (withHits : Bool) {gs : List Group} :
    (junctionOf e withHits [] gs).isEmpty = true ↔ ∀ g ∈ gs, g.isEmpty = true := by
  simp only [Junction.isEmpty, junctionOf, junction, List.isEmpty_nil, Bool.true_and, Bool.and_true,
    Bool.and_eq_true, List.isEmpty_iff, List.flatMap_eq_nil_iff, List.forall_mem_map,
    List.mem_filter, and_imp, Bool.not_eq_true']
  constructor
  · rintro ⟨hfilters, hrefused⟩ g hg
    cases hempty : g.isEmpty with
    | true => rfl
    | false =>
      rcases partitionOf_adds e withHits hempty with hadds | hadds
      · exact absurd (hfilters g hg hempty) hadds
      · exact absurd (hrefused g hg hempty) hadds
  · intro h
    constructor
    · intro g hg hempty
      simp [h g hg] at hempty
    · intro g hg hempty
      simp [h g hg] at hempty

theorem finds_junctionOf_iff (e : Entity) (withHits : Bool) (must : List Query)
    {gs : List Group} {doc : Json} (h : Compile gs) :
    finds (junctionOf e withHits must gs).query doc = true ↔
      (∀ q ∈ must, finds q doc = true) ∧ ∀ g ∈ gs, g.isEmpty = false → GroupHolds e g doc := by
  rw [junctionOf, finds_junction_iff]
  apply and_congr_right'
  simp only [List.forall_mem_map, List.mem_filter, and_imp, Bool.not_eq_true']
  constructor
  · intro hholds g hg hempty
    exact (holds_partitionOf_iff (h g hg)).mp (hholds g hg hempty)
  · intro hholds g hg hempty
    exact (holds_partitionOf_iff (h g hg)).mpr (hholds g hg hempty)

theorem groups_eq_ok {e : Entity} {withHits : Bool} {gs : List Group} (h : Compile gs) :
    groups e withHits gs = .ok (if (junctionOf e withHits [] gs).isEmpty then none
      else some (junctionOf e withHits [] gs).query) := by
  rw [groups, partitions_eq_ok h]
  rfl

theorem compile_of_partitions {e : Entity} {gs : List Group} {ps : List Partition}
    (h : partitions e gs = .ok ps) : Compile gs := by
  intro g hg cond hcond
  have hfilled : g ∈ gs.filter fun g => !g.isEmpty := by
    refine List.mem_filter.mpr ⟨hg, ?_⟩
    simpa [Group.isEmpty] using List.ne_nil_of_mem hcond
  obtain ⟨p, hp⟩ := exists_of_mapM h g hfilled
  obtain ⟨cs, hcs, -⟩ := bind_eq_ok_iff.mp hp
  obtain ⟨_, hclause⟩ := exists_of_mapM hcs cond hcond
  obtain ⟨clause, hclause, -⟩ := bind_eq_ok_iff.mp hclause
  exact ⟨clause, hclause⟩

theorem compile_of_groups {e : Entity} {gs : List Group} {withHits : Bool} {post : Option Query}
    (h : groups e withHits gs = .ok post) : Compile gs := by
  obtain ⟨ps, hps, -⟩ := bind_eq_ok_iff.mp h
  exact compile_of_partitions hps

theorem finds_of_groups_iff {e : Entity} {gs : List Group} {withHits : Bool} {post : Option Query}
    {doc : Json} (h : groups e withHits gs = .ok post) :
    (post.all fun q => finds q doc) = true ↔ ∀ g ∈ gs, g.isEmpty = false → GroupHolds e g doc := by
  have hcompile := compile_of_groups h
  have hempty : (junctionOf e withHits [] gs).isEmpty = true ↔ ∀ g ∈ gs, g.isEmpty = true :=
    junctionOf_isEmpty_iff e withHits
  have hfinds : finds (junctionOf e withHits [] gs).query doc = true ↔ _ :=
    finds_junctionOf_iff e withHits [] hcompile
  rw [groups_eq_ok hcompile] at h
  split at h
  · rename_i hnone
    cases h
    have hall := hempty.mp hnone
    simp only [Option.all_none, true_iff]
    intro g hg hfilled
    rw [hall g hg] at hfilled
    cases hfilled
  · cases h
    simpa using hfinds

/-- Groups that compile have a query exactly when one of them has a
condition. The query finds the documents on which each group holds that has
conditions. A group that asks for all of its conditions asks those under one
nested path of one and the same object. -/
theorem a_query_finds_what_every_group_asks_of_one_object (e : Entity) (withHits : Bool)
    (gs : List Group) (h : Compile gs) :
    ∃ found, groups e withHits gs = .ok found ∧ (found = none ↔ ∀ g ∈ gs, g.isEmpty = true) ∧
      ∀ q, found = some q → ∀ doc, finds q doc = true ↔
        ∀ g ∈ gs, g.isEmpty = false → GroupHolds e g doc := by
  refine ⟨_, groups_eq_ok h, ?_, ?_⟩
  · rw [← junctionOf_isEmpty_iff e withHits]
    split <;> simp_all
  · intro q hq doc
    have hfinds : finds (junctionOf e withHits [] gs).query doc = true ↔ _ :=
      finds_junctionOf_iff e withHits [] h
    split at hq
    · cases hq
    · cases hq
      simpa using hfinds

/-- Two conditions on the items of an order, and one on the order itself that
is negated. -/
theorem a_query_asks_two_conditions_of_one_item :
    let e : Entity := { name := "order", storage := "orders", nestedPaths := ["items"] }
    let g : Group := .all
      [.eq "items.sku" (.text "a"), ⟨"items.count", .gt, .scalar (.int 1)⟩,
        ⟨"status", .neq, .scalar (.text "void")⟩]
    Compile [g] ∧ ∃ found, groups e true [g] = .ok found ∧ found ≠ none ∧
      ∀ q, found = some q → ∀ doc, finds q doc = true ↔ GroupHolds e g doc := by
  intro e g
  have hcompile : Compile [g] := by
    simp only [g, Compile, Group.all, List.forall_mem_cons]
    exact ⟨⟨⟨_, rfl⟩, ⟨_, rfl⟩, ⟨_, rfl⟩, List.forall_mem_nil _⟩, List.forall_mem_nil _⟩
  obtain ⟨found, hfound, hnone, hfinds⟩ :=
    a_query_finds_what_every_group_asks_of_one_object e true [g] hcompile
  have hg : g.isEmpty = false := rfl
  refine ⟨hcompile, found, hfound, ?_, fun q hq doc => ?_⟩
  · rw [Ne, hnone, List.forall_mem_singleton, hg]
    exact nofun
  · rw [hfinds q hq doc, List.forall_mem_singleton]
    exact ⟨fun h => h hg, fun h _ => h⟩

end EntityStore.Search
