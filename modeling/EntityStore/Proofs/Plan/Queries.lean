-- The queries of some criteria, by the steps that make them. Each step of a
-- plan succeeds where the plan does, so every field that a query filters by has
-- been looked up as one that filters may use.
import EntityStore.Plan.Search
import EntityStore.Proofs.Plan.Groups
import EntityStore.Proofs.Plan.Names

namespace EntityStore

open EntityStore.Filter (Group)
open Sql (Column Item Predicate Query)

/-! ## Fields that filter -/

/-- The groups that an aggregation adds of its own. -/
def Aggregation.filterGroups (a : Aggregation) : List Group :=
  match a.kind with
  | .filter groups => groups
  | _ => []

/-- The fields that criteria filter by, wherever they do. -/
def Criteria.filterFields (c : Criteria) : List String :=
  (c.filters ++ c.postFilters ++ c.aggregations.flatMap Aggregation.filterGroups).flatMap
      Group.fields ++
    c.fullText.flatMap FullText.fields

namespace Plan.Scope

variable {s : Scope} {settings : Settings} {c : Criteria} {gs : List Group}
  {p : Option Predicate} {plan : Plan}

/-! ## Groups -/

/-- Where each group that is not empty has a predicate, all their conditions
have one. -/
theorem compile_of_parts {parts : List (Option Predicate)}
    (hparts : (gs.filter fun g => !g.isEmpty).mapM s.group = .ok parts) : s.Compile gs := by
  intro g hg cond hcond
  have hfilled : g ∈ gs.filter fun g => !g.isEmpty := by
    refine List.mem_filter.mpr ⟨hg, ?_⟩
    simpa [Group.isEmpty] using List.ne_nil_of_mem hcond
  obtain ⟨found, hfound⟩ := exists_of_mapM hparts g hfilled
  obtain ⟨ps, hps, -⟩ := bind_eq_ok_iff.mp hfound
  exact exists_of_mapM hps cond hcond

/-- Where groups have a predicate together, all their conditions have one. -/
theorem compile_of_groups (h : s.groups gs = .ok p) : s.Compile gs := by
  obtain ⟨parts, hparts, -⟩ := bind_eq_ok_iff.mp h
  exact compile_of_parts hparts

/-- The predicate of groups is put together from those of each group. -/
theorem eq_of_groups (h : s.groups gs = .ok p) :
    p = Predicate.allOf (flatten (s.groupPredicates gs)) := by
  have hcompile := compile_of_groups h
  obtain ⟨parts, hparts, h⟩ := bind_eq_ok_iff.mp h
  rw [mapM_eq_ok fun g hg => group_eq_ok (hcompile g (List.mem_filter.mp hg).1)] at hparts
  cases hparts
  rw [List.filterMap_map] at h
  dsimp only at h
  split at h
  · cases h
    rfl
  · cases h

theorem permits_of_groups (h : s.groups gs = .ok p) :
    ∀ f ∈ gs.flatMap Group.fields, s.Permits f := by
  intro f hf
  obtain ⟨g, hg, hf⟩ := List.mem_flatMap.mp hf
  obtain ⟨cond, hcond, rfl⟩ := List.mem_map.mp hf
  obtain ⟨q, hq⟩ := compile_of_groups h g hg cond hcond
  obtain ⟨column, hcolumn, -⟩ := condition_eq_ok_iff.mp hq
  exact permits_of_resolve hcolumn

theorem ownGroups_eq (s : Scope) (a : Aggregation) : s.ownGroups a = s.groups a.filterGroups := by
  obtain ⟨name, kind, target, bucketLimit, interval, afterKey⟩ := a
  cases kind <;> rfl

/-! ## Texts -/

theorem permits_of_fullText {t : FullText} (h : s.fullText t = .ok p) :
    ∀ f ∈ t.fields, s.Permits f := by
  intro f hf
  obtain ⟨columns, hcolumns, -⟩ := bind_eq_ok_iff.mp h
  obtain ⟨column, hcolumn⟩ := exists_of_mapM hcolumns f hf
  exact permits_of_resolve hcolumn

/-! ## Queries of aggregations -/

theorem restrict?_of_none {q : Query} (h : q.predicate = none) (p : Option Predicate) :
    q.restrict? p = { q with predicate := p } := by
  cases p with
  | none => exact congrArg (fun p => { q with predicate := p }) h
  | some p =>
    rw [Query.restrict?, Query.restrict, h]

theorem alone_of_aggregationQuery {a : Aggregation} {q : Query} {more : List Predicate}
    (h : s.aggregationQuery settings a = .ok (q, more)) : q.joins = [] ∧ q.predicate = none := by
  obtain ⟨name, kind, target, limit, interval, after⟩ := a
  unfold aggregationQuery at h
  split at h
  · obtain ⟨column, -, h⟩ := bind_eq_ok_iff.mp h
    cases h
    exact ⟨rfl, rfl⟩
  · obtain ⟨column, -, h⟩ := bind_eq_ok_iff.mp h
    cases h
    exact ⟨rfl, rfl⟩
  · obtain ⟨column, -, h⟩ := bind_eq_ok_iff.mp h
    cases h
    exact ⟨rfl, rfl⟩
  · split at h
    · cases h
    · obtain ⟨columns, -, h⟩ := bind_eq_ok_iff.mp h
      cases h
      exact ⟨rfl, rfl⟩
  · cases h
  · cases h

/-! ## Plans -/

/-- The query that the page and the count are made from, with these outputs in
these groups. -/
def base (s : Scope) (c : Criteria) (items : List Item) (groupBy : List Column) : Query where
  items := items
  distinct := c.distinct
  table := s.entity.storage
  joins := c.joins
  groupBy := groupBy

/-- The steps of a plan, where the scope has the names of the joins. -/
structure Planned (s : Scope) (settings : Settings) (c : Criteria) (plan : Plan)
    (items : List Item) (groupBy : List Column) (common : List Predicate)
    (post : Option Predicate) : Prop where
  items_eq : s.outputs c = .ok items
  groupBy_eq : c.groupBy.mapM (s.resolve .output) = .ok groupBy
  common_eq : s.commonParts c = .ok common
  post_eq : s.groups c.postFilters = .ok post
  count_eq : plan.count =
    (s.base c items groupBy).restrict? (Predicate.allOf (common ++ post.toList))
  page_eq : s.page c plan.count = .ok plan.page
  aggregations_eq : c.aggregations.mapM (s.facet settings c common) = .ok plan.aggregations

theorem planned_of_plan (h : s.plan settings c = .ok plan) :
    ∃ items groupBy common post,
      (s.withJoins c.joins).Planned settings c plan items groupBy common post := by
  unfold Scope.plan at h
  split at h
  · obtain ⟨_, hunsupported, -⟩ := bind_eq_ok_iff.mp h
    cases hunsupported
  · obtain ⟨items, hitems, h⟩ := bind_eq_ok_iff.mp h
    obtain ⟨groupBy, hgroupBy, h⟩ := bind_eq_ok_iff.mp h
    obtain ⟨common, hcommon, h⟩ := bind_eq_ok_iff.mp h
    obtain ⟨post, hpost, h⟩ := bind_eq_ok_iff.mp h
    obtain ⟨page, hpage, h⟩ := bind_eq_ok_iff.mp h
    obtain ⟨aggregations, haggregations, h⟩ := bind_eq_ok_iff.mp h
    cases h
    exact ⟨items, groupBy, common, post, hitems, hgroupBy, hcommon, hpost, rfl, hpage,
      haggregations⟩

/-- A page has the outputs, the tables and the groups that its query was made
from. -/
theorem Planned.page_base {items : List Item} {groupBy : List Column} {common : List Predicate}
    {post : Option Predicate} (h : s.Planned settings c plan items groupBy common post) :
    ∃ p orders limit offset, plan.page = { s.base c items groupBy with
      predicate := p, orderBy := orders, limit := limit, offset := offset } := by
  have hcount : ∃ p, plan.count = { s.base c items groupBy with predicate := p } := by
    rw [h.count_eq]
    cases Predicate.allOf (common ++ post.toList) with
    | none => exact ⟨none, rfl⟩
    | some p => exact ⟨some p, rfl⟩
  obtain ⟨p, hcount⟩ := hcount
  have hpage := h.page_eq
  rw [hcount, page] at hpage
  split at hpage
  · obtain ⟨id, -, hpage⟩ := bind_eq_ok_iff.mp hpage
    exact ⟨_, _, _, _, (Except.ok.inj hpage).symm⟩
  · obtain ⟨orders, -, hpage⟩ := bind_eq_ok_iff.mp hpage
    exact ⟨_, _, _, _, (Except.ok.inj hpage).symm⟩

theorem collapse_of_plan (h : s.plan settings c = .ok plan) : c.collapse = none := by
  unfold Scope.plan at h
  split at h
  · obtain ⟨_, hunsupported, -⟩ := bind_eq_ok_iff.mp h
    cases hunsupported
  · rename_i hcollapse
    simpa using hcollapse

theorem plan_of_planned (hcollapse : c.collapse = none) {items : List Item}
    {groupBy : List Column} {common : List Predicate} {post : Option Predicate}
    (h : (s.withJoins c.joins).Planned settings c plan items groupBy common post) :
    s.plan settings c = .ok plan := by
  have hnone : ¬ c.collapse.isSome = true := by simp [hcollapse]
  obtain ⟨page, count, aggregations⟩ := plan
  obtain rfl := h.count_eq
  unfold Scope.plan
  rw [if_neg hnone]
  exact bind_eq_ok_iff.mpr ⟨items, h.items_eq, bind_eq_ok_iff.mpr ⟨groupBy, h.groupBy_eq,
    bind_eq_ok_iff.mpr ⟨common, h.common_eq, bind_eq_ok_iff.mpr ⟨post, h.post_eq,
      bind_eq_ok_iff.mpr ⟨page, h.page_eq, bind_eq_ok_iff.mpr
        ⟨aggregations, h.aggregations_eq, rfl⟩⟩⟩⟩⟩⟩

/-- What a plan filters by is what filters may use. Every field of a filter,
of a post filter, of the groups of an aggregation and of a text search is a
name, a column of a joined table, or a path that the entity allows to filter
by. -/
theorem a_plan_filters_by_what_filters_may_use (s : Scope) (settings : Settings) (c : Criteria)
    {plan : Plan} (h : s.plan settings c = .ok plan) :
    ∀ f ∈ c.filterFields, (s.withJoins c.joins).Permits f := by
  obtain ⟨items, groupBy, common, post, hplanned⟩ := planned_of_plan h
  obtain ⟨filter, hfilter, hcommon⟩ := bind_eq_ok_iff.mp hplanned.common_eq
  obtain ⟨texts, htexts, -⟩ := bind_eq_ok_iff.mp hcommon
  intro f hf
  rw [Criteria.filterFields, List.flatMap_append, List.flatMap_append] at hf
  rcases List.mem_append.mp hf with hgroup | htext
  · rcases List.mem_append.mp hgroup with hgroup | hown
    · rcases List.mem_append.mp hgroup with hfilters | hpost
      · exact permits_of_groups hfilter f hfilters
      · exact permits_of_groups hplanned.post_eq f hpost
    · obtain ⟨g, hg, hf⟩ := List.mem_flatMap.mp hown
      obtain ⟨a, ha, hg⟩ := List.mem_flatMap.mp hg
      obtain ⟨q, hq⟩ := exists_of_mapM hplanned.aggregations_eq a ha
      obtain ⟨post, -, hq⟩ := bind_eq_ok_iff.mp hq
      obtain ⟨own, hown, -⟩ := bind_eq_ok_iff.mp hq
      rw [ownGroups_eq] at hown
      exact permits_of_groups hown f (List.mem_flatMap.mpr ⟨g, hg, hf⟩)
  · obtain ⟨t, ht, hf⟩ := List.mem_flatMap.mp htext
    obtain ⟨q, hq⟩ := exists_of_mapM htexts t ht
    exact permits_of_fullText hq f hf

/-- A search in articles and their authors, where filters may use one path of
the documents in the articles. -/
theorem a_plan_filters_by_an_allowed_path :
    let entity : Entity := {
      name := "article", storage := "articles", jsonFilters := ["extra.rating"] }
    let s : Scope := {
      entity := entity, columns := [("id", .integer), ("title", .text), ("extra", .json)] }
    let c : Criteria := {
      filters := [.all [.eq "articles.extra.rating" (.int 5), .eq "authors.name" (.text "Ann")]]
      fullText := [{ fields := ["title"], text := "oak" }]
      aggregations := [.filtered "title" [.all [.eq "extra.rating" (.int 5)]]]
      joins := [{ table := "authors" }] }
    ∃ plan, s.plan {} c = .ok plan ∧ (s.withJoins c.joins).Permits "articles.extra.rating" ∧
      (s.withJoins c.joins).Permits "extra.rating" := by
  intro entity s c
  obtain ⟨plan, hplan, -⟩ : ∃ plan, s.plan {} c = .ok plan ∧ _ :=
    exists_of_any (p := fun _ => true) (by decide +kernel)
  have hpermits := a_plan_filters_by_what_filters_may_use s {} c hplan
  have hfields : c.filterFields =
      ["articles.extra.rating", "authors.name", "extra.rating", "title"] := rfl
  rw [hfields] at hpermits
  exact ⟨plan, hplan, hpermits "articles.extra.rating" (by simp),
    hpermits "extra.rating" (by simp)⟩

end Plan.Scope

end EntityStore
