-- The columns that the queries of a plan refer to. All of them come from the
-- fields of the criteria, so each is one of the entity's table or of a table
-- that the criteria join. The page and the count join these tables. The queries
-- of aggregations join none, and may refer to them all the same.
import EntityStore.Proofs.Plan.Queries
import EntityStore.Proofs.Sql.References

namespace EntityStore.Plan.Scope

open EntityStore.Filter (Condition Group)
open Sql (Column Item Predicate Query)

variable {s : Scope} {settings : Settings} {c : Criteria} {purpose : Purpose} {field : String}
  {column : Column} {gs : List Group} {plan : Plan}

/-! ## Columns -/

/-- The column is one of the entity's table or of a joined table. -/
def Names (s : Scope) (column : Column) : Prop :=
  match column.qualifier with
  | some table => table = s.entity.storage ∨ table ∈ s.joined
  | none => Fields.contains s.columns column.name = true

theorem names_of_ownColumn (hcolumns : s.columns ≠ []) {head : String} {rest : List String}
    (h : s.ownColumn purpose head rest = .ok column) : s.Names column := by
  obtain ⟨hcheck, hqualifier, hname, -⟩ := ownColumn_eq_ok h
  unfold Names
  rw [hqualifier, hname, qualifier?]
  split
  · rename_i table htable
    split at htable
    · exact .inl (Option.some.inj htable).symm
    · cases htable
  · have hknown := checkColumn_eq_ok hcheck
    simpa [hcolumns] using hknown

theorem names_of_resolve (hcolumns : s.columns ≠ []) (h : s.resolve purpose field = .ok column) :
    s.Names column := by
  rw [resolve_eq] at h
  unfold columnOf at h
  split at h
  · exact names_of_ownColumn hcolumns h
  · exact names_of_ownColumn hcolumns h
  · split at h
    · rename_i hjoined
      cases h
      exact .inr hjoined
    · exact names_of_ownColumn hcolumns h

theorem names_of_mapM (hcolumns : s.columns ≠ []) {fields : List String} {columns : List Column}
    (h : fields.mapM (s.resolve purpose) = .ok columns) : ∀ c ∈ columns, s.Names c := by
  intro c hc
  obtain ⟨f, -, hf⟩ := exists_of_mem_mapM h hc
  exact names_of_resolve hcolumns hf

/-! ## Predicates -/

theorem over_containsAny (P : Column → Prop) (hcolumn : P column) (vs : List Value) :
    (containsAny column vs).Over P := by
  unfold containsAny
  cases h : Predicate.anyOf (vs.map (.contains column ·)) with
  | none => exact List.forall_mem_singleton.mpr hcolumn
  | some p =>
    refine Sql.over_of_anyOf h ?_
    rw [List.forall_mem_map]
    exact fun _ _ => List.forall_mem_singleton.mpr hcolumn

/-- The predicate of a condition is about the column of its field. -/
theorem over_of_predicate {P : Column → Prop} (hcolumn : P column) {op : Filter.Operator}
    {operand : Filter.Operand} {p : Predicate} (h : s.predicate? column op operand = some p) :
    p.Over P := by
  have hone : ∀ c ∈ [column], P c := List.forall_mem_singleton.mpr hcolumn
  unfold predicate? at h
  split at h
  · refine Sql.over_of_anyOf h fun q hq => ?_
    rcases List.mem_append.mp hq with hq | hq
    · split at hq
      · cases hq
      · rw [List.mem_singleton] at hq
        subst hq
        exact hone
    · obtain ⟨v, -, rfl⟩ := List.mem_map.mp hq
      exact hone
  · rcases Option.or_eq_some_iff.mp h with hspecial | ⟨-, hvalue⟩
    · split at hspecial
      · unfold documentPredicate? at hspecial
        split at hspecial <;> cases hspecial
        · exact hone
        · exact hone
        · exact over_containsAny P hcolumn _
        · exact over_containsAny P hcolumn _
      · cases hspecial
    · unfold valuePredicate? at hvalue
      split at hvalue <;> cases hvalue <;> exact hone

theorem over_of_groups (hcolumns : s.columns ≠ []) {found : Option Predicate}
    (h : s.groups gs = .ok found) : ∀ p, found = some p → p.Over s.Names := by
  have hcompile := compile_of_groups h
  rintro p rfl
  have hcondition : ∀ g ∈ gs, ∀ cond ∈ g.conditions, (s.predicateOf cond).Over s.Names := by
    intro g hg cond hcond
    obtain ⟨column, hcolumn, hp⟩ :=
      condition_eq_ok_iff.mp (condition_eq_ok (hcompile g hg cond hcond))
    exact over_of_predicate (names_of_resolve hcolumns hcolumn) hp
  have hgroup : ∀ q ∈ s.groupPredicates gs, q.Over s.Names := by
    intro q hq
    obtain ⟨g, hg, -, hq⟩ := mem_groupPredicates_iff.mp hq
    unfold groupPredicate at hq
    split at hq
    · exact Sql.over_of_allOf hq (List.forall_mem_map.mpr (hcondition g hg))
    · exact Sql.over_of_anyOf hq (List.forall_mem_map.mpr (hcondition g hg))
  refine Sql.over_of_allOf (eq_of_groups h).symm fun q hq => ?_
  obtain ⟨r, hr, hq⟩ := List.mem_flatMap.mp hq
  have hover := hgroup r hr
  split at hq
  · exact Sql.over_all_iff.mp hover q hq
  · rw [List.mem_singleton] at hq
    exact hq ▸ hover

theorem over_of_fullText (hcolumns : s.columns ≠ []) {t : FullText} {found : Option Predicate}
    (h : s.fullText t = .ok found) : ∀ p, found = some p → p.Over s.Names := by
  rintro p rfl
  obtain ⟨columns, hresolved, h⟩ := bind_eq_ok_iff.mp h
  refine Sql.over_of_anyOf (Except.ok.inj h) ?_
  rw [List.forall_mem_map]
  exact fun c hc => List.forall_mem_singleton.mpr (names_of_mapM hcolumns hresolved c hc)

theorem over_of_commonParts (hcolumns : s.columns ≠ []) {common : List Predicate}
    (h : s.commonParts c = .ok common) : ∀ p ∈ common, p.Over s.Names := by
  obtain ⟨filter, hfilter, h⟩ := bind_eq_ok_iff.mp h
  obtain ⟨texts, htexts, h⟩ := bind_eq_ok_iff.mp h
  cases h
  refine List.forall_mem_append.mpr ⟨fun p hp => ?_, fun p hp => ?_⟩
  · exact over_of_groups hcolumns hfilter p (Option.mem_toList.mp hp)
  · obtain ⟨found, hfound, hp⟩ := List.mem_filterMap.mp hp
    obtain ⟨t, -, ht⟩ := exists_of_mem_mapM htexts hfound
    exact over_of_fullText hcolumns ht p hp

/-! ## Queries -/

/-- A query over the entity's table with these joins, whose columns all are
ones that the scope names. -/
structure Ranges (s : Scope) (joins : List Sql.Join) (q : Query) : Prop
    extends Query.Over s.Names q where
  reference_eq : q.reference = s.entity.storage
  joins_eq : q.joins = joins

section

variable {joins : List Sql.Join} {q : Query}

theorem Ranges.restrict? (h : s.Ranges joins q) {p : Option Predicate}
    (hp : ∀ r, p = some r → r.Over s.Names) : s.Ranges joins (q.restrict? p) where
  toOver := h.toOver.restrict? hp
  reference_eq := by
    cases p with
    | none => exact h.reference_eq
    | some r => exact h.reference_eq
  joins_eq := by
    cases p with
    | none => exact h.joins_eq
    | some r => exact h.joins_eq

/-- With the joins of the scope a query knows its columns. -/
theorem Ranges.closed (h : s.Ranges joins q) (hjoined : joins.map Sql.Join.reference = s.joined) :
    q.Closed s.columns := by
  intro column hcolumn
  unfold Query.knows
  rw [h.joins_eq, hjoined, h.reference_eq]
  rcases h.references column hcolumn with hnames | ⟨hqualifier, hlabel⟩
  · unfold Names at hnames
    cases hqualifier : column.qualifier with
    | some table => simpa [hqualifier] using hnames
    | none =>
      rw [hqualifier] at hnames
      simp [hnames]
  · rw [hqualifier]
    simp [hlabel]

/-- Without joins a query knows its columns when none of them is one of a
joined table. -/
theorem Ranges.closed_iff (h : s.Ranges [] q) : q.Closed s.columns ↔
    ∀ column ∈ q.references, ∀ table, column.qualifier = some table → table = s.entity.storage := by
  constructor
  · intro hclosed column hcolumn table htable
    have hknows := hclosed column hcolumn
    unfold Query.knows at hknows
    rw [htable, h.joins_eq, h.reference_eq] at hknows
    simpa using hknows
  · intro hown column hcolumn
    unfold Query.knows
    rw [h.joins_eq, h.reference_eq]
    rcases h.references column hcolumn with hnames | ⟨hqualifier, hlabel⟩
    · unfold Names at hnames
      cases hqualifier : column.qualifier with
      | some table => simp [hown column hcolumn table hqualifier]
      | none =>
        rw [hqualifier] at hnames
        simp [hnames]
    · rw [hqualifier]
      simp [hlabel]

end

/-! ## The page and the count -/

theorem names_of_outputs (hcolumns : s.columns ≠ []) {items : List Item}
    (h : s.outputs c = .ok items) : ∀ i ∈ items, ∀ column ∈ i.columns, s.Names column := by
  obtain ⟨columns, hresolved, h⟩ := bind_eq_ok_iff.mp h
  have hown : ∀ i ∈ columns.map (Item.column · none), ∀ column ∈ i.columns, s.Names column := by
    rw [List.forall_mem_map]
    exact fun c hc => List.forall_mem_singleton.mpr (names_of_mapM hcolumns hresolved c hc)
  dsimp only at h
  split at h
  · cases h
    exact hown
  · cases h
    refine List.forall_mem_append.mpr ⟨?_, List.forall_mem_map.mpr fun _ _ => nofun⟩
    split
    · exact List.forall_mem_singleton.mpr nofun
    · exact hown

theorem ranges_base (hcolumns : s.columns ≠ []) {items : List Item} {groupBy : List Column}
    (hitems : s.outputs c = .ok items)
    (hgroupBy : c.groupBy.mapM (s.resolve .output) = .ok groupBy) :
    s.Ranges c.joins (s.base c items groupBy) where
  items := names_of_outputs hcolumns hitems
  predicate := nofun
  groupBy := names_of_mapM hcolumns hgroupBy
  orderBy := nofun
  reference_eq := rfl
  joins_eq := rfl

theorem ranges_page (hcolumns : s.columns ≠ []) {joins : List Sql.Join} {q page : Query}
    (hq : s.Ranges joins q) (h : s.page c q = .ok page) : s.Ranges joins page := by
  unfold Scope.page at h
  split at h
  · rename_i last hlast
    obtain ⟨id, hid, h⟩ := bind_eq_ok_iff.mp h
    cases h
    have hname := names_of_resolve hcolumns hid
    have hafter := hq.toOver.restrict (p := .gt id last) (List.forall_mem_singleton.mpr hname)
    exact {
      items := hafter.items
      predicate := hafter.predicate
      groupBy := hafter.groupBy
      orderBy := List.forall_mem_append.mpr
        ⟨hafter.orderBy, List.forall_mem_singleton.mpr (.inl hname)⟩
      reference_eq := hq.reference_eq
      joins_eq := hq.joins_eq }
  · obtain ⟨orders, horders, h⟩ := bind_eq_ok_iff.mp h
    cases h
    refine { hq with orderBy := fun o ho => .inl ?_ }
    obtain ⟨sort, -, hsort⟩ := exists_of_mem_mapM horders ho
    obtain ⟨column, hcolumn, hsort⟩ := bind_eq_ok_iff.mp hsort
    cases hsort
    exact names_of_resolve hcolumns hcolumn

/-! ## Aggregations -/

theorem ranges_bucketQuery (hcolumn : s.Names column) (limit : Nat) :
    s.Ranges [] { bucketQuery column limit with table := s.entity.storage } where
  items := List.forall_mem_cons.mpr
    ⟨List.forall_mem_singleton.mpr hcolumn, List.forall_mem_singleton.mpr nofun⟩
  predicate := nofun
  groupBy := List.forall_mem_singleton.mpr hcolumn
  orderBy := List.forall_mem_singleton.mpr (.inr ⟨rfl, by simp [bucketQuery, Item.label?, Column.plain]⟩)
  reference_eq := rfl
  joins_eq := rfl

theorem ranges_metricItems (hcolumn : s.Names column) (m : Metric) :
    s.Ranges [] { items := metricItems m column, table := s.entity.storage } where
  items := by
    cases m <;> simp [metricItems, Item.columns, Sql.Aggregate.columns, hcolumn]
  predicate := nofun
  groupBy := nofun
  orderBy := nofun
  reference_eq := rfl
  joins_eq := rfl

theorem ranges_combinationQuery {columns : List (String × Column)}
    (hcolumns : ∀ p ∈ columns, s.Names p.2) (limit : Nat) :
    s.Ranges [] { combinationQuery columns limit with table := s.entity.storage } where
  items := List.forall_mem_append.mpr ⟨List.forall_mem_map.mpr fun p hp =>
    List.forall_mem_singleton.mpr (hcolumns p hp), List.forall_mem_singleton.mpr nofun⟩
  predicate := nofun
  groupBy := List.forall_mem_map.mpr hcolumns
  orderBy := List.forall_mem_map.mpr fun p hp => .inl (hcolumns p hp)
  reference_eq := rfl
  joins_eq := rfl

theorem ranges_aggregationQuery (hcolumns : s.columns ≠ []) {a : Aggregation} {q : Query}
    {more : List Predicate} (h : s.aggregationQuery settings a = .ok (q, more)) :
    s.Ranges [] { q with table := s.entity.storage } ∧ ∀ p ∈ more, p.Over s.Names := by
  unfold aggregationQuery at h
  split at h
  · obtain ⟨column, hcolumn, h⟩ := bind_eq_ok_iff.mp h
    cases h
    exact ⟨ranges_bucketQuery (names_of_resolve hcolumns hcolumn) _, nofun⟩
  · obtain ⟨column, hcolumn, h⟩ := bind_eq_ok_iff.mp h
    cases h
    exact ⟨ranges_bucketQuery (names_of_resolve hcolumns hcolumn) _, nofun⟩
  · obtain ⟨column, hcolumn, h⟩ := bind_eq_ok_iff.mp h
    cases h
    have hname := names_of_resolve hcolumns hcolumn
    refine ⟨ranges_metricItems hname _, ?_⟩
    split
    · exact List.forall_mem_singleton.mpr (List.forall_mem_singleton.mpr hname)
    · exact nofun
  · split at h
    · cases h
    · obtain ⟨columns, hresolved, h⟩ := bind_eq_ok_iff.mp h
      cases h
      refine ⟨ranges_combinationQuery (fun p hp => ?_) _, nofun⟩
      obtain ⟨source, -, hp⟩ := exists_of_mem_mapM hresolved hp
      obtain ⟨column, hcolumn, hp⟩ := bind_eq_ok_iff.mp hp
      cases hp
      exact names_of_resolve hcolumns hcolumn
  · cases h
  · cases h

theorem ranges_facet (hcolumns : s.columns ≠ []) {common : List Predicate}
    (hcommon : ∀ p ∈ common, p.Over s.Names) {a : Aggregation} {found : AggregationQuery}
    (h : s.facet settings c common a = .ok found) : s.Ranges [] found.query := by
  obtain ⟨post, hpost, h⟩ := bind_eq_ok_iff.mp h
  obtain ⟨own, hown, h⟩ := bind_eq_ok_iff.mp h
  obtain ⟨⟨q, more⟩, hquery, h⟩ := bind_eq_ok_iff.mp h
  cases h
  obtain ⟨hq, hmore⟩ := ranges_aggregationQuery hcolumns hquery
  rw [ownGroups_eq] at hown
  refine hq.restrict? fun p hp => Sql.over_of_allOf hp ?_
  simp only [List.forall_mem_append]
  exact ⟨⟨⟨hcommon, fun p hp => over_of_groups hcolumns hpost p (Option.mem_toList.mp hp)⟩,
    fun p hp => over_of_groups hcolumns hown p (Option.mem_toList.mp hp)⟩, hmore⟩

/-! ## Plans -/

/-- The queries of a plan know their columns, but for the joins of
aggregations. The page and the count know all columns that they refer to. The
query of an aggregation joins no table: with the joins of the criteria it would
know all its columns, and without them it does when it refers to no joined
table. -/
theorem queries_know_their_columns_but_for_joins (s : Scope) (settings : Settings) (c : Criteria)
    (hcolumns : s.columns ≠ []) {plan : Plan} (h : s.plan settings c = .ok plan) :
    plan.page.Closed s.columns ∧ plan.count.Closed s.columns ∧
      ∀ a ∈ plan.aggregations, a.query.joins = [] ∧
        ({ a.query with joins := c.joins } : Query).Closed s.columns ∧
        (a.query.Closed s.columns ↔ ∀ column ∈ a.query.references, ∀ table,
          column.qualifier = some table → table = s.entity.storage) := by
  obtain ⟨items, groupBy, common, post, hplanned⟩ := planned_of_plan h
  let joined := s.withJoins c.joins
  have hknown : joined.columns ≠ [] := hcolumns
  have hcommon := over_of_commonParts hknown hplanned.common_eq
  have hcount : joined.Ranges c.joins plan.count := by
    rw [hplanned.count_eq]
    refine (ranges_base hknown hplanned.items_eq hplanned.groupBy_eq).restrict? fun p hp =>
      Sql.over_of_allOf hp (List.forall_mem_append.mpr ⟨hcommon, fun p hp => ?_⟩)
    exact over_of_groups hknown hplanned.post_eq p (Option.mem_toList.mp hp)
  have hpage : joined.Ranges c.joins plan.page := ranges_page hknown hcount hplanned.page_eq
  refine ⟨hpage.closed rfl, hcount.closed rfl, fun a ha => ?_⟩
  obtain ⟨aggregation, -, hfacet⟩ := exists_of_mem_mapM hplanned.aggregations_eq ha
  have hquery : joined.Ranges [] a.query := ranges_facet hknown hcommon hfacet
  have hwith : joined.Ranges c.joins { a.query with joins := c.joins } :=
    { hquery with joins_eq := rfl }
  exact ⟨hquery.joins_eq, hwith.closed rfl, hquery.closed_iff⟩

/-- Articles with their authors. The buckets are counted over a predicate on
articles alone. -/
theorem queries_of_articles_know_their_columns :
    let s : Scope := {
      entity := { name := "article", storage := "articles" }
      columns := [("id", .integer), ("title", .text)] }
    let c : Criteria := {
      filters := [.all [.eq "title" (.text "Oak")]]
      aggregations := [.terms "title"]
      included := ["title", "authors.name"]
      joins := [{ table := "authors" }] }
    ∃ plan, s.plan {} c = .ok plan ∧ plan.page.Closed s.columns ∧ plan.count.Closed s.columns ∧
      ∀ a ∈ plan.aggregations, a.query.Closed s.columns := by
  intro s c
  obtain ⟨plan, hplan, hown⟩ := exists_of_any (x := s.plan {} c) (p := fun plan =>
    plan.aggregations.all fun a => a.query.references.all fun column =>
      column.qualifier.all fun table => table == "articles") (by decide +kernel)
  simp only [List.all_eq_true, Option.all_eq_true, beq_iff_eq] at hown
  obtain ⟨hpage, hcount, haggregations⟩ :=
    queries_know_their_columns_but_for_joins s {} c (by decide) hplan
  exact ⟨plan, hplan, hpage, hcount, fun a ha => (haggregations a ha).2.2.mpr (hown a ha)⟩

/-- A filter on a joined table is in the query of an aggregation too, and the
table is not. -/
example :
    let s : Scope := {
      entity := { name := "article", storage := "articles" }
      columns := [("id", .integer), ("title", .text)] }
    let c : Criteria := {
      filters := [.all [.eq "authors.name" (.text "Ann")]]
      aggregations := [.terms "title"]
      joins := [{ table := "authors" }] }
    (s.plan {} c).toOption.any (fun plan =>
      plan.page.Closed s.columns ∧ plan.aggregations.all fun a => ¬a.query.Closed s.columns) =
      true := by
  decide +kernel

end EntityStore.Plan.Scope
