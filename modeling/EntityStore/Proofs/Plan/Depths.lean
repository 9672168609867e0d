-- How deep the predicates of a plan nest. A condition adds three levels at
-- most, a group one, the conjunction of groups another, and so on: however many
-- groups and conditions there are, they stand side by side. So nothing of a plan
-- is ever too deep, and what a plan gives can be written.
import EntityStore.Proofs.Plan.Queries
import EntityStore.Proofs.Sql.Writable
import EntityStore.Proofs.Tables.Inserting

namespace EntityStore

/-- A query was refused because its predicate is nested too deep. -/
def AccessError.TooDeep (e : AccessError) : Prop := ∃ cause, e = .query cause ∧ cause.TooDeep

namespace Plan.Scope

open AccessError (TooDeep)
open EntityStore.Filter (Condition Group)
open Sql (Column Item Predicate Query Statement)

variable {s : Scope} {settings : Settings} {c : Criteria} {gs : List Group} {plan : Plan}

/-! ## Depths -/

theorem depth_of_groups {found : Option Predicate} (h : s.groups gs = .ok found) :
    ∀ p, found = some p → p.depth ≤ 5 := by
  have hcompile := compile_of_groups h
  rintro p rfl
  refine Sql.depth_of_allOf (eq_of_groups h).symm (depth_of_mem_flatten fun q hq => ?_)
  obtain ⟨g, hg, hempty, hq⟩ := mem_groupPredicates_iff.mp hq
  obtain ⟨r, hr, hdepth, -⟩ := groupPredicate_eq_some hempty (hcompile g hg)
  rw [hr] at hq
  cases hq
  exact hdepth

theorem depth_of_fullText {t : FullText} {found : Option Predicate}
    (h : s.fullText t = .ok found) : ∀ p, found = some p → p.depth ≤ 2 := by
  rintro p rfl
  obtain ⟨columns, -, h⟩ := bind_eq_ok_iff.mp h
  refine Sql.depth_of_anyOf (Except.ok.inj h) ?_
  rw [List.forall_mem_map]
  exact fun _ _ => by simp [Predicate.depth]

theorem depth_of_commonParts {common : List Predicate} (h : s.commonParts c = .ok common) :
    ∀ p ∈ common, p.depth ≤ 5 := by
  obtain ⟨filter, hfilter, h⟩ := bind_eq_ok_iff.mp h
  obtain ⟨texts, htexts, h⟩ := bind_eq_ok_iff.mp h
  cases h
  refine List.forall_mem_append.mpr ⟨fun p hp => ?_, fun p hp => ?_⟩
  · exact depth_of_groups hfilter p (Option.mem_toList.mp hp)
  · obtain ⟨found, hfound, hp⟩ := List.mem_filterMap.mp hp
    obtain ⟨t, -, ht⟩ := exists_of_mem_mapM htexts hfound
    have := depth_of_fullText ht p hp
    omega

/-- The query has no predicate that is deeper. -/
def Within (n : Nat) (q : Query) : Prop := ∀ p, q.predicate = some p → p.depth ≤ n

theorem within_restrict {q : Query} (hnone : q.predicate = none) {ps : List Predicate} {n : Nat}
    (hps : ∀ p ∈ ps, p.depth ≤ n) : Within (n + 1) (q.restrict? (Predicate.allOf ps)) := by
  intro p hp
  rw [restrict?_of_none hnone] at hp
  exact Sql.depth_of_allOf hp hps

theorem within_page {q page : Query} {n : Nat} (hq : Within n q) (hn : 1 ≤ n)
    (h : s.page c q = .ok page) : Within (n + 1) page := by
  unfold Scope.page at h
  split at h
  · rename_i last hlast
    obtain ⟨id, -, h⟩ := bind_eq_ok_iff.mp h
    cases h
    have hafter : (Predicate.gt id last).depth ≤ n := by simpa [Predicate.depth] using hn
    rintro p ⟨⟩
    split
    · rename_i existing hexisting
      exact Sql.depth_and (hq existing hexisting) hafter
    · omega
  · obtain ⟨orders, -, h⟩ := bind_eq_ok_iff.mp h
    cases h
    intro p hp
    have := hq p hp
    omega

theorem depth_of_aggregationQuery {a : Aggregation} {q : Query} {more : List Predicate}
    (h : s.aggregationQuery settings a = .ok (q, more)) : ∀ p ∈ more, p.depth ≤ 1 := by
  unfold aggregationQuery at h
  split at h
  · obtain ⟨column, -, h⟩ := bind_eq_ok_iff.mp h
    cases h
    exact nofun
  · obtain ⟨column, -, h⟩ := bind_eq_ok_iff.mp h
    cases h
    exact nofun
  · obtain ⟨column, -, h⟩ := bind_eq_ok_iff.mp h
    cases h
    split
    · exact List.forall_mem_singleton.mpr (by simp [Predicate.depth])
    · exact nofun
  · split at h
    · cases h
    · obtain ⟨columns, -, h⟩ := bind_eq_ok_iff.mp h
      cases h
      exact nofun
  · cases h
  · cases h

theorem within_facet {common : List Predicate} (hcommon : ∀ p ∈ common, p.depth ≤ 5)
    {a : Aggregation} {found : AggregationQuery} (h : s.facet settings c common a = .ok found) :
    Within 6 found.query ∧ found.query.table = s.entity.storage ∧ found.query.joins = [] := by
  obtain ⟨post, hpost, h⟩ := bind_eq_ok_iff.mp h
  obtain ⟨own, hown, h⟩ := bind_eq_ok_iff.mp h
  obtain ⟨⟨q, more⟩, hquery, h⟩ := bind_eq_ok_iff.mp h
  cases h
  obtain ⟨halone, hnone⟩ := alone_of_aggregationQuery hquery
  rw [ownGroups_eq] at hown
  have hparts : ∀ p ∈ common ++ post.toList ++ own.toList ++ more, p.depth ≤ 5 := by
    simp only [List.forall_mem_append]
    refine ⟨⟨⟨hcommon, fun p hp => depth_of_groups hpost p (Option.mem_toList.mp hp)⟩,
      fun p hp => depth_of_groups hown p (Option.mem_toList.mp hp)⟩, fun p hp => ?_⟩
    have := depth_of_aggregationQuery hquery p hp
    omega
  let base : Query := { q with table := s.entity.storage }
  have hbase : base.predicate = none := hnone
  refine ⟨within_restrict hbase hparts, ?_⟩
  show (base.restrict? _).table = _ ∧ (base.restrict? _).joins = []
  rw [restrict?_of_none hbase]
  exact ⟨rfl, halone⟩

/-- The depths and the tables of the queries of a plan. -/
structure Bounded (s : Scope) (c : Criteria) (plan : Plan) : Prop where
  page : Within 7 plan.page
  page_table : plan.page.table = s.entity.storage
  page_joins : plan.page.joins = c.joins
  count : Within 6 plan.count
  count_table : plan.count.table = s.entity.storage
  count_joins : plan.count.joins = c.joins
  aggregations : ∀ a ∈ plan.aggregations,
    Within 6 a.query ∧ a.query.table = s.entity.storage ∧ a.query.joins = []

theorem bounded_of_plan (h : s.plan settings c = .ok plan) : s.Bounded c plan := by
  obtain ⟨items, groupBy, common, post, hplanned⟩ := planned_of_plan h
  have hcommon := depth_of_commonParts hplanned.common_eq
  have hparts : ∀ p ∈ common ++ post.toList, p.depth ≤ 5 := List.forall_mem_append.mpr
    ⟨hcommon, fun p hp => depth_of_groups hplanned.post_eq p (Option.mem_toList.mp hp)⟩
  have hcount : Within 6 plan.count := by
    rw [hplanned.count_eq]
    exact within_restrict rfl hparts
  obtain ⟨p, orders, limit, offset, hpage⟩ := hplanned.page_base
  refine {
    page := within_page hcount (by omega) hplanned.page_eq
    page_table := by rw [hpage]; rfl
    page_joins := by rw [hpage]; rfl
    count := hcount
    count_table := by rw [hplanned.count_eq, restrict?_of_none rfl]; rfl
    count_joins := by rw [hplanned.count_eq, restrict?_of_none rfl]; rfl
    aggregations := fun a ha => ?_ }
  obtain ⟨b, -, hb⟩ := exists_of_mem_mapM hplanned.aggregations_eq ha
  exact within_facet (s := s.withJoins c.joins) hcommon hb

/-! ## Ways to fail -/

theorem not_tooDeep_of_cause {cause : QueryError} (h : ¬ cause.TooDeep) :
    ¬ TooDeep (.query cause) := by
  rintro ⟨_, ⟨⟩, hcause⟩
  exact h hcause

theorem avoids_ownColumn (s : Scope) (purpose : Purpose) (head : String) (rest : List String) :
    Avoids TooDeep (s.ownColumn purpose head rest) := by
  have hcheck : Avoids TooDeep (s.checkColumn head) := by
    unfold checkColumn
    split
    · exact avoids_ok
    · exact avoids_error (not_tooDeep_of_cause nofun)
  refine hcheck.bind fun _ _ => ?_
  cases rest with
  | nil => exact avoids_ok
  | cons next rest =>
    refine Avoids.bind ?_ fun _ _ => avoids_ok
    unfold checkPath
    split
    · exact avoids_error (not_tooDeep_of_cause nofun)
    · split
      · exact avoids_error nofun
      · exact avoids_ok

theorem avoids_resolve (s : Scope) (purpose : Purpose) (field : String) :
    Avoids TooDeep (s.resolve purpose field) := by
  rw [resolve_eq]
  unfold columnOf
  split
  · exact avoids_ownColumn s purpose _ _
  · exact avoids_ownColumn s purpose _ _
  · split
    · exact avoids_ok
    · exact avoids_ownColumn s purpose _ _

theorem avoids_resolveAll (s : Scope) (purpose : Purpose) (fields : List String) :
    Avoids TooDeep (fields.mapM (s.resolve purpose)) :=
  Avoids.mapM fun f _ => s.avoids_resolve purpose f

theorem avoids_condition (s : Scope) (cond : Condition) : Avoids TooDeep (s.condition cond) := by
  refine (s.avoids_resolve .filter cond.field).bind fun column _ => ?_
  dsimp only
  split
  · split
    · exact avoids_ok
    · exact avoids_error nofun
  · split
    · exact avoids_ok
    · exact avoids_error nofun

/-- Where each group has a predicate, the check of the depth is passed. So
groups fail only by a condition. -/
theorem avoids_groups (s : Scope) (gs : List Group) : Avoids TooDeep (s.groups gs) := by
  intro e he
  rcases bind_eq_error_iff.mp he with hparts | ⟨parts, hparts, -⟩
  · refine Avoids.mapM (fun g _ => ?_) e hparts
    exact (Avoids.mapM fun cond _ => s.avoids_condition cond).bind fun _ _ => avoids_ok
  · obtain ⟨found, hfound, -⟩ := groups_eq_ok (compile_of_parts hparts)
    rw [hfound] at he
    cases he

theorem avoids_outputs (s : Scope) (c : Criteria) : Avoids TooDeep (s.outputs c) := by
  refine (s.avoids_resolveAll .output _).bind fun columns _ => ?_
  dsimp only
  split
  · exact avoids_ok
  · exact avoids_ok

theorem avoids_commonParts (s : Scope) (c : Criteria) : Avoids TooDeep (s.commonParts c) := by
  refine (s.avoids_groups c.filters).bind fun filter _ => Avoids.bind ?_ fun _ _ => avoids_ok
  refine Avoids.mapM fun t _ => ?_
  exact (s.avoids_resolveAll .filter t.fields).bind fun _ _ => avoids_ok

theorem avoids_page (s : Scope) (c : Criteria) (q : Query) : Avoids TooDeep (s.page c q) := by
  unfold Scope.page
  split
  · exact (s.avoids_resolve .output _).bind fun _ _ => avoids_ok
  · refine Avoids.bind ?_ fun _ _ => avoids_ok
    exact Avoids.mapM fun sort _ =>
      (s.avoids_resolve .output sort.field).bind fun _ _ => avoids_ok

theorem avoids_aggregationQuery (s : Scope) (settings : Settings) (a : Aggregation) :
    Avoids TooDeep (s.aggregationQuery settings a) := by
  unfold aggregationQuery
  split
  · exact (s.avoids_resolve .output _).bind fun _ _ => avoids_ok
  · exact (s.avoids_resolve .output _).bind fun _ _ => avoids_ok
  · exact (s.avoids_resolve .output _).bind fun _ _ => avoids_ok
  · split
    · exact avoids_error (not_tooDeep_of_cause nofun)
    · refine Avoids.bind (Avoids.mapM fun source _ => ?_) fun _ _ => avoids_ok
      exact (s.avoids_resolve .output source.2).bind fun _ _ => avoids_ok
  · exact avoids_error (not_tooDeep_of_cause nofun)
  · exact avoids_error nofun

theorem avoids_facet (s : Scope) (settings : Settings) (c : Criteria) (common : List Predicate)
    (a : Aggregation) : Avoids TooDeep (s.facet settings c common a) := by
  refine (s.avoids_groups _).bind fun post _ => Avoids.bind ?_ fun own _ => ?_
  · rw [ownGroups_eq]
    exact s.avoids_groups _
  · exact (s.avoids_aggregationQuery settings a).bind fun _ _ => avoids_ok

theorem avoids_plan (s : Scope) (settings : Settings) (c : Criteria) :
    Avoids TooDeep (s.plan settings c) := by
  unfold Scope.plan
  split
  · exact avoids_error (not_tooDeep_of_cause nofun)
  · refine (avoids_outputs _ c).bind fun items _ => ?_
    refine (avoids_resolveAll _ .output c.groupBy).bind fun groupBy _ => ?_
    refine (avoids_commonParts _ c).bind fun common _ => ?_
    refine (avoids_groups _ c.postFilters).bind fun post _ => ?_
    refine (avoids_page _ c _).bind fun page _ => ?_
    exact (Avoids.mapM fun a _ => avoids_facet _ settings c common a).bind fun _ _ => avoids_ok

theorem avoids_delete (s : Scope) (gs : List Group) : Avoids TooDeep (s.delete gs) := by
  refine (s.avoids_groups gs).bind fun found _ => ?_
  cases found with
  | some p => exact avoids_ok
  | none => exact avoids_error nofun

/-! ## Statements -/

/-- The statements that a plan is run by. -/
def statements (plan : Plan) : List Statement :=
  .select plan.page :: .count plan.count :: plan.aggregations.map fun a => .select a.query

theorem forall_statements_iff {P : Statement → Prop} : (∀ st ∈ statements plan, P st) ↔
    P (.select plan.page) ∧ P (.count plan.count) ∧
      ∀ a ∈ plan.aggregations, P (.select a.query) := by
  simp [statements]

theorem Within.shallow {n : Nat} {q : Query} (h : Within n q) (hn : n ≤ Predicate.maxDepth) :
    q.Shallow := fun p hp => Nat.le_trans (h p hp) hn

theorem Bounded.shallow (h : s.Bounded c plan) : ∀ st ∈ statements plan, st.Shallow :=
  forall_statements_iff.mpr ⟨h.page.shallow (by decide), h.count.shallow (by decide),
    fun a ha => (h.aggregations a ha).1.shallow (by decide)⟩

theorem Bounded.writable (h : s.Bounded c plan) (hstorage : s.entity.storage ≠ "")
    (hjoins : ∀ j ∈ c.joins, j.Complete) : ∀ st ∈ statements plan, st.Writable := by
  obtain ⟨hpage, hcount, haggregations⟩ := forall_statements_iff.mp h.shallow
  refine forall_statements_iff.mpr ⟨⟨?_, ?_, hpage⟩, ⟨?_, ?_, hcount⟩, fun a ha => ?_⟩
  · rwa [h.page_table]
  · rwa [h.page_joins]
  · rwa [h.count_table]
  · rwa [h.count_joins]
  · obtain ⟨-, htable, hnone⟩ := h.aggregations a ha
    refine ⟨?_, ?_, haggregations a ha⟩
    · rwa [htable]
    · rw [hnone]
      exact nofun

theorem writable_of_delete {d : Sql.Delete} (h : s.delete gs = .ok d) :
    (Statement.delete d).Writable := by
  obtain ⟨found, hfound, h⟩ := bind_eq_ok_iff.mp h
  cases found with
  | none => cases h
  | some p =>
    cases h
    exact Nat.le_trans (depth_of_groups hfound p rfl) (by decide)

theorem writable_of_update {id : Value} {changes : Fields Json} {u : Sql.Update}
    (hchanges : changes ≠ []) (h : s.update id changes = .ok u) :
    (Statement.update u).Writable := by
  obtain ⟨_, -, h⟩ := bind_eq_ok_iff.mp h
  cases h
  exact fun hnone => hchanges (List.map_eq_nil_iff.mp hnone)

/-- The columns of an insert are the names of all documents, and each row has
one value for each of them, whatever names its own document has. -/
theorem writable_of_insert {docs : List (Fields Json)} {onDuplicate : List String}
    {i : Sql.Insert} (hdocs : ∃ doc ∈ docs, doc ≠ []) (h : s.insert docs onDuplicate = .ok i) :
    (Statement.insert i).Writable := by
  obtain ⟨doc, hdoc, hfilled⟩ := hdocs
  obtain ⟨_, -, h⟩ := bind_eq_ok_iff.mp h
  cases h
  obtain ⟨⟨k, v⟩, rest, rfl⟩ := List.exists_cons_of_ne_nil hfilled
  have hk : k ∈ Fields.allKeys docs := Fields.mem_allKeys.mpr ⟨_, hdoc, List.mem_cons_self⟩
  refine ⟨List.ne_nil_of_mem hk, fun hnone => ?_, List.forall_mem_map.mpr fun doc _ => ?_⟩
  · rw [List.map_eq_nil_iff.mp hnone] at hdoc
    cases hdoc
  · exact List.length_map _

/-- What is planned can be written. The page, the count and the aggregations of
criteria have texts where the entity names a table and the joins name the
columns they compare. A deletion has one, and so do an update that changes
something and an insert of documents that have a field between them. However
many groups, conditions and values the criteria have, neither their plan nor a
statement of it is refused as nested too deep. -/
theorem what_is_planned_can_be_written (s : Scope) (settings : Settings) :
    (s.entity.storage ≠ "" → ∀ (c : Criteria) (plan : Plan), (∀ j ∈ c.joins, j.Complete) →
      s.plan settings c = .ok plan → ∀ st ∈ statements plan, ∃ r, st.render = .ok r) ∧
    (∀ gs d, s.delete gs = .ok d → ∃ r, (Statement.delete d).render = .ok r) ∧
    (∀ id changes u, changes ≠ [] → s.update id changes = .ok u →
      ∃ r, (Statement.update u).render = .ok r) ∧
    (∀ docs onDuplicate i, (∃ doc ∈ docs, doc ≠ []) → s.insert docs onDuplicate = .ok i →
      ∃ r, (Statement.insert i).render = .ok r) ∧
    (∀ c, Avoids TooDeep (s.plan settings c)) ∧ (∀ gs, Avoids TooDeep (s.delete gs)) ∧
    ∀ c plan, s.plan settings c = .ok plan →
      ∀ st ∈ statements plan, Avoids QueryError.TooDeep st.render := by
  refine ⟨fun hstorage c plan hjoins h st hst => ?_, fun gs d h => ?_, fun id changes u hchanges h =>
    ?_, fun docs onDuplicate i hdocs h => ?_, s.avoids_plan settings, s.avoids_delete,
    fun c plan h st hst => ?_⟩
  · exact Statement.exists_render_iff.mpr ((bounded_of_plan h).writable hstorage hjoins st hst)
  · exact Statement.exists_render_iff.mpr (writable_of_delete h)
  · exact Statement.exists_render_iff.mpr (writable_of_update hchanges h)
  · exact Statement.exists_render_iff.mpr (writable_of_insert hdocs h)
  · exact Statement.avoids_render ((bounded_of_plan h).shallow st hst)

/-- A search in articles with their authors, after an identity and with a facet,
and writes of articles, of which one has no title. -/
theorem a_search_with_a_join_can_be_written :
    let entity : Entity := { name := "article", storage := "articles" }
    let s : Scope := { entity := entity, columns := [] }
    let red : Group := .all [.eq "title" (.text "red")]
    let c : Criteria := {
      filters := [red, .any [.eq "authors.name" (.text "Ann"), .eq "title" (.text "oak")]]
      fullText := [{ fields := ["title", "text"], text := "oak" }]
      aggregations := [.filtered "title" [red]]
      scrollAfter := some (.int 1)
      joins := [{ table := "authors", leftColumn := some "articles.author",
                  rightColumn := some "authors.id" }, { table := "shelves", kind := .cross }] }
    (∃ plan, s.plan {} c = .ok plan ∧ ∀ st ∈ statements plan, ∃ r, st.render = .ok r) ∧
      (∃ d, s.delete [red] = .ok d ∧ ∃ r, (Statement.delete d).render = .ok r) ∧
      (∃ u, s.update (.int 1) [("title", .str "red")] = .ok u ∧
        ∃ r, (Statement.update u).render = .ok r) ∧
      ∃ i, s.insert [[("id", .int 1)], [("title", .str "red")]] [] = .ok i ∧
        ∃ r, (Statement.insert i).render = .ok r := by
  intro entity s red c
  obtain ⟨hplan, hdelete, hupdate, hinsert, -⟩ := what_is_planned_can_be_written s {}
  refine ⟨?_, ?_, ?_, ?_⟩
  · obtain ⟨plan, h, -⟩ : ∃ plan, s.plan {} c = .ok plan ∧ _ :=
      exists_of_any (p := fun _ => true) (by decide +kernel)
    exact ⟨plan, h, hplan (by decide) c plan (by decide) h⟩
  · obtain ⟨d, h, -⟩ : ∃ d, s.delete [red] = .ok d ∧ _ :=
      exists_of_any (p := fun _ => true) (by decide +kernel)
    exact ⟨d, h, hdelete _ _ h⟩
  · exact ⟨_, rfl, hupdate (.int 1) [("title", .str "red")] _ (by simp) rfl⟩
  · have hdocs : ∃ doc ∈ [[("id", Json.int 1)], [("title", .str "red")]], doc ≠ [] :=
      ⟨_, List.mem_cons_self, by simp⟩
    exact ⟨_, rfl, hinsert _ [] _ hdocs rfl⟩

end Plan.Scope

end EntityStore
