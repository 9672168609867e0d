-- Searches narrowed to one bucket. What a terms aggregation counts under a key is
-- what a search finds whose filters ask for the key as well.
import EntityStore.Proofs.Store.Buckets

namespace EntityStore

open Aggregation (Bucket Result)
open Sql (Column Predicate Query passes)

/-- The same criteria with one group more: the field has the value of the key. -/
def Criteria.narrowed (c : Criteria) (field : String) (key : Json) : Criteria :=
  { c with filters := c.filters ++ [.all [.eq field (.ofJson key)]] }

theorem Criteria.OnlyFilters.narrowed {c : Criteria} (h : c.OnlyFilters) (field : String)
    (key : Json) : (c.narrowed field key).OnlyFilters := { h with }

variable {k : Kind} {settings : Settings} {c : Criteria} {a : Aggregation} {f : String} {key : Json}

/-! ## Plans for fewer rows -/

namespace Plan.Scope

variable {s : Scope} {ts : Tables} {t : Tables.Table} {row : Row} {column : Column} {v : Value}

/-- A query is for some of the rows that another one is for, and else the same. -/
structure Narrows (q q' : Query) : Prop where
  alone : q.joins = []
  same : q' = { q with predicate := q'.predicate }
  fewer : ∀ row, passes q'.predicate row = true → passes q.predicate row = true

theorem Narrows.exists_select {q q' : Query} {rows : List Row} (h : Narrows q q')
    (hq : Tables.select ts q = .ok rows) : ∃ rows', Tables.select ts q' = .ok rows' := by
  rw [h.same]
  exact Tables.exists_select_of_fewer h.alone h.fewer hq

/-- Parts of a predicate let fewer rows pass than others do. -/
def Fewer (ps ps' : List Predicate) : Prop :=
  ∀ row : Row, (∀ p ∈ ps', p.holds row = true) → ∀ p ∈ ps, p.holds row = true

theorem Fewer.append {ps ps' : List Predicate} (h : Fewer ps ps') (qs : List Predicate) :
    Fewer (ps ++ qs) (ps' ++ qs) := by
  intro row hrow
  obtain ⟨hps, hqs⟩ := List.forall_mem_append.mp hrow
  exact List.forall_mem_append.mpr ⟨h row hps, hqs⟩

theorem Fewer.narrows {ps ps' : List Predicate} (h : Fewer ps ps') {q : Query}
    (halone : q.joins = [])
    (hnone : q.predicate = none) :
    Narrows (q.restrict? (Predicate.allOf ps)) (q.restrict? (Predicate.allOf ps')) := by
  rw [restrict?_of_none hnone, restrict?_of_none hnone]
  exact ⟨halone, rfl, fun row hrow =>
    Sql.passes_allOf_iff.mpr (h row (Sql.passes_allOf_iff.mp hrow))⟩

theorem exists_aggregation_of_fewer {ps ps' : List Predicate} (hfewer : Fewer ps ps')
    {q : AggregationQuery} (h : s.aggregation settings ps a = .ok q) :
    ∃ q', s.aggregation settings ps' a = .ok q' ∧ Narrows q.query q'.query := by
  obtain ⟨own, hown, h⟩ := bind_eq_ok_iff.mp h
  obtain ⟨⟨query, more⟩, hquery, h⟩ := bind_eq_ok_iff.mp h
  cases h
  obtain ⟨halone, hnone⟩ := alone_of_aggregationQuery hquery
  refine ⟨_, bind_eq_ok_iff.mpr ⟨own, hown, bind_eq_ok_iff.mpr ⟨_, hquery, rfl⟩⟩, ?_⟩
  exact ((hfewer.append own.toList).append more).narrows halone hnone

/-! ## One group more -/

theorem resolve_of_name (hname : Text.hasChar '.' f = false) (purpose purpose' : Purpose) :
    s.resolve purpose f = s.resolve purpose' f := by
  rw [resolve, resolve, Text.split_of_hasChar_eq_false hname]
  rfl

theorem condition_of_value (hresolve : s.resolve .filter f = .ok (.plain f))
    (hjson : s.columns.isJson f = false) (v : Value) :
    s.condition (.eq f v) = .ok (.eq (.plain f) v) := by
  refine condition_eq_ok_iff.mpr ⟨_, hresolve, ?_⟩
  have hvalue : s.isDocument (.plain f) = false := hjson
  show Option.or (if s.isDocument (.plain f) then _ else none) _ = _
  rw [hvalue]
  rfl

/-- A column of a kind has a value of the kind. -/
theorem holds_eq_iff (hrow : k.Allows (column.valueOrNull row)) (hv : k.Has v) :
    (Predicate.eq column v).holds row = true ↔ column.valueOrNull row = v := by
  rw [Predicate.holds, Sql.compares]
  rw [Column.valueOrNull] at hrow ⊢
  cases hvalue : column.value? row with
  | none =>
    constructor
    · intro h
      cases h
    · intro heq
      obtain rfl : .null = v := heq
      exact absurd hv k.not_has_null
  | some w =>
    rw [hvalue, Option.getD_some] at hrow
    rw [Option.any_some, Option.getD_some, hrow.compares hv]
    rcases hrow with rfl | hw
    · constructor
      · intro h
        cases h
      · rintro rfl
        exact absurd hv k.not_has_null
    · rw [hw.isNull]
      exact hw.beq_iff hv

theorem groupHolds_of_value (hresolve : s.resolve .filter f = .ok (.plain f))
    (hjson : s.columns.isJson f = false) :
    s.GroupHolds row (.all [.eq f v]) ↔ (Predicate.eq (.plain f) v).holds row = true := by
  have hcondition := condition_of_value hresolve hjson v
  have hgroup : s.GroupHolds row (.all [.eq f v]) ↔
      ∀ cond ∈ [Filter.Condition.eq f v], s.ConditionHolds row cond := Iff.rfl
  rw [hgroup, List.forall_mem_singleton, conditionHolds_iff ⟨_, hcondition⟩, predicateOf,
    hcondition]

theorem matches_narrowed_iff (hresolve : s.resolve .filter f = .ok (.plain f))
    (hjson : s.columns.isJson f = false) : s.Matches (c.narrowed f key) row ↔
      s.Matches c row ∧ (Predicate.eq (.plain f) (.ofJson key)).holds row = true := by
  rw [← groupHolds_of_value hresolve hjson]
  constructor
  · intro h
    obtain ⟨hfilters, hgroup⟩ := List.forall_mem_append.mp h.filters
    exact ⟨⟨hfilters, h.texts, h.postFilters⟩, hgroup _ List.mem_cons_self⟩
  · rintro ⟨h, hgroup⟩
    exact ⟨List.forall_mem_append.mpr ⟨h.filters, List.forall_mem_singleton.mpr hgroup⟩, h.texts,
      h.postFilters⟩

theorem withJoins_of_alone (hc : c.OnlyFilters) (halone : s.joined = []) :
    s.withJoins c.joins = s := by
  obtain ⟨e, columns, joined⟩ := s
  obtain rfl : joined = [] := halone
  rw [hc.joins]
  rfl

theorem exists_page_narrowed (key : Json) (hc : c.OnlyFilters) {q q' page : Query}
    (hnarrows : Narrows q q') (h : s.page c q = .ok page) :
    ∃ page', s.page (c.narrowed f key) q' = .ok page' ∧ Narrows page page' := by
  have hscroll : (c.narrowed f key).scrollAfter = none := hc.scrollAfter
  unfold Scope.page at h ⊢
  rw [hc.scrollAfter] at h
  rw [hscroll]
  obtain ⟨orders, horders, h⟩ := bind_eq_ok_iff.mp h
  cases h
  refine ⟨_, bind_eq_ok_iff.mpr ⟨orders, horders, rfl⟩, hnarrows.alone, ?_, hnarrows.fewer⟩
  exact congrArg (fun q : Query =>
    { q with orderBy := orders, limit := c.page.limit, offset := c.page.offset }) hnarrows.same

/-- Where criteria have a plan, so have those with one group more. Its queries are
for fewer rows. -/
theorem exists_plan_narrowed (key : Json) (hc : c.OnlyFilters) (halone : s.joined = [])
    (hresolve : s.resolve .filter f = .ok (.plain f)) (hjson : s.columns.isJson f = false)
    {plan : Plan} (h : s.plan settings c = .ok plan) :
    ∃ plan', s.plan settings (c.narrowed f key) = .ok plan' ∧ Narrows plan.page plan'.page ∧
      ∀ q' ∈ plan'.aggregations, ∃ q ∈ plan.aggregations, Narrows q.query q'.query := by
  obtain ⟨items, groupBy, common, post, hplanned⟩ := planned_of_plan h
  rw [withJoins_of_alone hc halone] at hplanned
  obtain ⟨filter, hfilter, hcommon⟩ := bind_eq_ok_iff.mp hplanned.common_eq
  obtain ⟨texts, htexts, hcommon⟩ := bind_eq_ok_iff.mp hcommon
  have hcompile : s.Compile (c.narrowed f key).filters := by
    refine List.forall_mem_append.mpr ⟨compile_of_groups hfilter,
      List.forall_mem_singleton.mpr fun cond hcond => ?_⟩
    rw [List.mem_singleton.mp hcond]
    exact ⟨_, condition_of_value hresolve hjson _⟩
  obtain ⟨filter', hfilter', -, -⟩ := groups_eq_ok hcompile
  let common' := filter'.toList ++ texts.filterMap id
  have hcommon' : s.commonParts (c.narrowed f key) = .ok common' :=
    bind_eq_ok_iff.mpr ⟨filter', hfilter', bind_eq_ok_iff.mpr ⟨texts, htexts, rfl⟩⟩
  obtain rfl : post = none := by
    have hpost := hplanned.post_eq
    rw [hc.postFilters] at hpost
    exact (Except.ok.inj hpost).symm
  have hfewer : Fewer common common' := by
    intro row hrow
    have hparts : passes (Predicate.allOf (common ++ Option.toList none)) row = true ↔ _ :=
      passes_parts_iff hplanned.common_eq hplanned.post_eq
    have hparts' : passes (Predicate.allOf (common' ++ Option.toList none)) row = true ↔ _ :=
      passes_parts_iff hcommon' hplanned.post_eq
    rw [Option.toList_none, List.append_nil, Sql.passes_allOf_iff] at hparts hparts'
    exact hparts.mpr ((matches_narrowed_iff hresolve hjson).mp (hparts'.mp hrow)).1
  have heach : ∀ a ∈ c.aggregations, ∀ q, s.facet settings c common a = .ok q →
      ∃ q', s.facet settings (c.narrowed f key) common' a = .ok q' ∧
        Narrows q.query q'.query := by
    intro a ha q hq
    rw [facet_of_onlyFilters hc] at hq
    rw [facet_of_onlyFilters (hc.narrowed f key)]
    exact exists_aggregation_of_fewer hfewer hq
  obtain ⟨aggregations, haggregations⟩ := exists_mapM fun a ha =>
    have ⟨q, hq⟩ := exists_of_mapM hplanned.aggregations_eq a ha
    have ⟨q', hq', _⟩ := heach a ha q hq
    ⟨q', hq'⟩
  let count := (s.base (c.narrowed f key) items groupBy).restrict? (Predicate.allOf common')
  have hcount := hplanned.count_eq
  rw [Option.toList_none, List.append_nil] at hcount
  have hnarrows : Narrows plan.count count := hcount ▸ hfewer.narrows hc.joins rfl
  obtain ⟨page, hpage, hpageNarrows⟩ :=
    exists_page_narrowed (f := f) key hc hnarrows hplanned.page_eq
  have hplanned' : (s.withJoins c.joins).Planned settings (c.narrowed f key)
      ⟨page, count, aggregations⟩ items groupBy common' none := by
    rw [withJoins_of_alone hc halone]
    exact ⟨hplanned.items_eq, hplanned.groupBy_eq, hcommon', hplanned.post_eq,
      by rw [Option.toList_none, List.append_nil], hpage, haggregations⟩
  refine ⟨_, plan_of_planned hc.collapse hplanned', hpageNarrows, fun q' hq' => ?_⟩
  · obtain ⟨a, ha, hfacet'⟩ := exists_of_mem_mapM haggregations hq'
    obtain ⟨q, hq⟩ := exists_of_mapM hplanned.aggregations_eq a ha
    obtain ⟨q'', hq'', hqs⟩ := heach a ha q hq
    obtain rfl := Except.ok.inj (hq''.symm.trans hfacet')
    exact ⟨q, (mem_mapM_iff hplanned.aggregations_eq).mpr ⟨a, ha, hq⟩, hqs⟩

/-- A plan counts the rows that match. -/
theorem count_of_plan (hc : c.OnlyFilters) (halone : s.joined = [])
    (ht : ts.find s.entity.storage = .ok t) {plan : Plan} (h : s.plan settings c = .ok plan) :
    ∃ p : Option Predicate, (∀ row, passes p row = true ↔ s.Matches c row) ∧
      Tables.count ts plan.count = .ok (t.rows.filter (passes p)).length := by
  obtain ⟨items, groupBy, common, post, hplanned⟩ := planned_of_plan h
  rw [withJoins_of_alone hc halone] at hplanned
  refine ⟨_, fun row => passes_parts_iff hplanned.common_eq hplanned.post_eq, ?_⟩
  obtain rfl : groupBy = [] := by
    have hgroupBy := hplanned.groupBy_eq
    rw [hc.groupBy] at hgroupBy
    exact (Except.ok.inj hgroupBy).symm
  rw [hplanned.count_eq, restrict?_of_none rfl]
  exact Tables.count_of_alone (q := { s.base c items [] with predicate := _ }) hc.joins rfl
    hc.distinct ht

theorem exists_column_of_plan (hc : c.OnlyFilters) (halone : s.joined = [])
    (ha : a ∈ c.aggregations) (hkind : a.kind = .terms) (htarget : a.target = .field f) {plan : Plan}
    (h : s.plan settings c = .ok plan) : ∃ column, s.resolve .output f = .ok column := by
  obtain ⟨items, groupBy, common, post, hplanned⟩ := planned_of_plan h
  rw [withJoins_of_alone hc halone] at hplanned
  obtain ⟨q, hq⟩ := exists_of_mapM hplanned.aggregations_eq a ha
  rw [facet_of_onlyFilters hc] at hq
  obtain ⟨column, hcolumn, -⟩ := query_of_terms hkind htarget hq
  exact ⟨column, hcolumn⟩

end Plan.Scope

/-! ## Tables -/

namespace Relational

open Plan.Scope (keyIn)

variable {entity : Entity} {t : Tables.Table} {columns : Columns} {ts : Tables}
  {s next : State Tables.Engine} {out : Outcome} {plan : Plan} {i : Nat}

theorem exists_of_answer (h : answer? ts plan = some out) :
    (∃ rows, Tables.select ts plan.page = .ok rows) ∧
      ∀ q ∈ plan.aggregations, ∃ rows, Tables.select ts q.query = .ok rows := by
  unfold answer? at h
  obtain ⟨page, hpage, h⟩ := Option.bind_eq_some_iff.mp h
  obtain ⟨total, -, h⟩ := Option.bind_eq_some_iff.mp h
  obtain ⟨found, hfound, -⟩ := Option.map_eq_some_iff.mp h
  refine ⟨⟨page, toOption_eq_some_iff.mp hpage⟩, fun q hq => ?_⟩
  have hmem : aggregate? ts q ∈ found.map some :=
    mapM_eq_some_iff.mp hfound ▸ List.mem_map_of_mem hq
  obtain ⟨pair, -, hpair⟩ := List.mem_map.mp hmem
  obtain ⟨rows, hrows, -⟩ := Option.map_eq_some_iff.mp hpair.symm
  exact ⟨rows, toOption_eq_some_iff.mp hrows⟩

theorem exists_answer {n : Nat} (hpage : ∃ rows, Tables.select ts plan.page = .ok rows)
    (hcount : Tables.count ts plan.count = .ok n)
    (haggregations : ∀ q ∈ plan.aggregations, ∃ rows, Tables.select ts q.query = .ok rows) :
    ∃ out, answer? ts plan = some out ∧ out.total = n := by
  obtain ⟨rows, hrows⟩ := hpage
  obtain ⟨found, hfound⟩ := exists_mapM_some (f := aggregate? ts) fun q hq =>
    have ⟨rows, hrows⟩ := haggregations q hq
    ⟨_, by rw [aggregate?, hrows]; rfl⟩
  refine ⟨⟨rows.map Row.toJson, n, Fields.ofList found⟩, ?_, rfl⟩
  unfold answer?
  rw [hrows, hcount, hfound]
  rfl

/-- Where a search is accepted, so is one that asks for a value as well. It counts
the rows that match and have the value. -/
theorem exists_search_narrowed (key : Json) (hc : c.OnlyFilters)
    (hs : Holds True entity t columns ts s) (hnext : Holds True entity t columns ts next)
    (hname : Text.hasChar '.' f = false) (hjson : columns.isJson f = false)
    (ha : a ∈ c.aggregations) (hkind : a.kind = .terms) (htarget : a.target = .field f)
    (h : (((inMemory entity settings).search c).on s).1 = .ok out) :
    ∃ out', (((inMemory entity settings).search (c.narrowed f key)).on next).1 = .ok out' ∧
      ∃ p : Option Predicate, out'.total = (t.rows.filter (passes p)).length ∧ ∀ row,
        passes p row = true ↔ ((inMemory entity settings).scope columns).Matches c row ∧
          (Predicate.eq (.plain f) (.ofJson key)).holds row = true := by
  have hgives := (gives_search entity settings c).of_ok hs h
  obtain ⟨plan, hplan, hanswer⟩ := Option.bind_eq_some_iff.mp hgives
  rw [toOption_eq_some_iff] at hplan
  obtain ⟨column, hcolumn⟩ := Plan.Scope.exists_column_of_plan hc rfl ha hkind htarget hplan
  obtain rfl := eq_plain_of_resolve hname hcolumn
  have hresolve := (Plan.Scope.resolve_of_name hname .filter .output).trans hcolumn
  obtain ⟨hpage, haggregations⟩ := exists_of_answer hanswer
  obtain ⟨plan', hplan', hpage', haggregations'⟩ :=
    Plan.Scope.exists_plan_narrowed key hc rfl hresolve hjson hplan
  obtain ⟨p, hmatches, hcount⟩ :=
    Plan.Scope.count_of_plan (hc.narrowed f key) rfl hs.find hplan'
  obtain ⟨out', hanswer', htotal⟩ := exists_answer
    (have ⟨_, hrows⟩ := hpage; hpage'.exists_select hrows) hcount fun q' hq' =>
      have ⟨q, hq, hnarrows⟩ := haggregations' q' hq'
      have ⟨_, hrows⟩ := haggregations q hq
      hnarrows.exists_select hrows
  have hgives' : Call.Gives (Holds True entity t columns ts)
      ((inMemory entity settings).search (c.narrowed f key)) _ :=
    gives_search entity settings (c.narrowed f key)
  rw [hplan'] at hgives'
  obtain ⟨after, hon, -⟩ := (hgives'.congr hanswer').exists_ok hnext
  exact ⟨out', congrArg (·.1) hon, p, htotal, fun row =>
    (hmatches row).trans (Plan.Scope.matches_narrowed_iff hresolve hjson)⟩

/-- The key of a bucket of a terms aggregation counts what a search counts that
asks for the key as well. -/
theorem total_of_bucket (hc : c.OnlyFilters) (hs : Holds True entity t columns ts s)
    (hnext : Holds True entity t columns ts next) (hname : Text.hasChar '.' f = false)
    (hjson : columns.isJson f = false) (hrows : t.rows.length < 2 ^ 53)
    (hvalues : ∀ row ∈ t.rows, k.Allows ((Column.plain f).valueOrNull row))
    (ha : c.aggregations[i]? = some a) (hkind : a.kind = .terms) (htarget : a.target = .field f)
    (hlast : a.name ∉ (c.aggregations.drop (i + 1)).map Aggregation.name)
    (h : (((inMemory entity settings).search c).on s).1 = .ok out) {r : Result}
    (hr : out.aggregations.get? a.name = some r) {b : Bucket} (hb : b ∈ r.bucketList)
    (hkey : b.key ≠ .null) :
    ∃ out', (((inMemory entity settings).search (c.narrowed f b.key)).on next).1 = .ok out' ∧
      out'.total = b.count := by
  obtain ⟨p, hmatches, gs, shown, hgrouped, hperm, hget⟩ :=
    buckets_of_search hc hs hname hvalues ha hkind htarget hlast h
  obtain rfl := Option.some.inj (hr.symm.trans hget)
  obtain ⟨g, hg, rfl⟩ := List.mem_map.mp hb
  have hmem : g ∈ gs := hperm.mem_iff.mp (List.mem_of_mem_take hg)
  obtain ⟨out', hout', p', htotal, hmatches'⟩ := exists_search_narrowed (groupBucket g).key
    hc hs hnext hname hjson (List.mem_of_getElem? ha) hkind htarget h
  refine ⟨out', hout', htotal.trans ?_⟩
  have hallowed : ∀ row ∈ t.rows.filter (passes p), k.Allows ((Column.plain f).valueOrNull row) :=
    fun row hrow => hvalues row (List.mem_filter.mp hrow).1
  obtain ⟨-, first, hfirst, hfirstKey⟩ := Plan.Scope.key_of_grouped hallowed hgrouped hmem
  have hkeyOf : (groupBucket g).key = ((Column.plain f).valueOrNull first).toJson := by
    rw [groupBucket, ← hfirstKey]
    rfl
  have hhas : k.Has ((Column.plain f).valueOrNull first) :=
    (hallowed first hfirst).resolve_left fun hnull => hkey (hkeyOf.trans (by rw [hnull]; rfl))
  rw [hkeyOf, hhas.ofJson_toJson] at hmatches'
  have hheld : g.2 = t.rows.filter (passes p') := by
    rw [hgrouped.held g hmem, List.filter_filter]
    refine List.filter_congr fun row hrow => Bool.eq_iff_iff.mpr ?_
    have hsame : Tables.hasKey (keyIn (.plain f)) g.1 row = true ↔
        keyIn (.plain f) first = keyIn (.plain f) row :=
      hfirstKey ▸ tellsApart_isKey k _ _ ⟨_, rfl, .inr hhas⟩ ⟨_, rfl, hvalues row hrow⟩
    rw [hmatches', Bool.and_eq_true, ← hmatches, and_comm, hsame,
      Plan.Scope.holds_eq_iff (hvalues row hrow) hhas]
    exact and_congr_right' (List.singleton_inj.trans eq_comm)
  have hlength : g.2.length < 2 ^ 53 :=
    hheld ▸ Nat.lt_of_le_of_lt (List.length_filter_le _ _) hrows
  rw [← hheld, groupBucket, countOf_int hlength]

end Relational

/-! ## Documents -/

namespace Search

open Indices (finds)

variable {e : Entity} {doc : Json} {v : Value} {p : Plan}

theorem groupHolds_of_value (hname : Text.hasChar '.' f = false) :
    GroupHolds e (.all [.eq f v]) doc ↔ finds (termOf f v) doc = true := by
  have hcondition : condition (.eq f v) = .ok ⟨termOf f v, false⟩ := rfl
  have hroot : e.nestedPath? (Filter.Condition.eq f v).field = none :=
    e.nestedPath?_of_name hname
  have hholds : ConditionHolds (.eq f v) doc ↔ finds (termOf f v) doc = true := by
    rw [conditionHolds_iff ⟨_, hcondition⟩, clauseOf, hcondition]
    rfl
  have hgroup : GroupHolds e (.all [.eq f v]) doc ↔ AllHold e (.all [.eq f v]) doc := Iff.rfl
  rw [hgroup, ← hholds]
  constructor
  · exact fun h => h.1 _ List.mem_cons_self hroot
  · intro h
    constructor
    · intro cond hcond _
      rw [List.mem_singleton.mp hcond]
      exact h
    · rintro path ⟨cond, hcond, hpath⟩
      rw [List.mem_singleton.mp hcond, hroot] at hpath
      cases hpath

theorem matches_narrowed_iff (hname : Text.hasChar '.' f = false) :
    Matches e (c.narrowed f key) doc ↔
      Matches e c doc ∧ finds (termOf f (.ofJson key)) doc = true := by
  rw [← groupHolds_of_value (e := e) hname]
  constructor
  · intro h
    obtain ⟨hfilters, hgroup⟩ := List.forall_mem_append.mp h.filters
    exact ⟨⟨hfilters, h.texts, h.postFilters⟩, hgroup _ List.mem_cons_self rfl⟩
  · rintro ⟨h, hgroup⟩
    exact ⟨List.forall_mem_append.mpr ⟨h.filters, List.forall_mem_singleton.mpr fun _ => hgroup⟩,
      h.texts, h.postFilters⟩

theorem exists_plan_narrowed (f : String) (key : Json) (h : plan e settings c = .ok p) :
    ∃ p', plan e settings (c.narrowed f key) = .ok p' := by
  obtain ⟨hforeign, ps, post, nodes, hps, hpost, hnodes, -, -⟩ := plan_eq_ok_iff.mp h
  have hcompile : Compile (c.narrowed f key).filters := by
    refine List.forall_mem_append.mpr ⟨compile_of_partitions hps,
      List.forall_mem_singleton.mpr fun cond hcond => ?_⟩
    rw [List.mem_singleton.mp hcond]
    exact ⟨_, rfl⟩
  exact ⟨⟨page e settings (c.narrowed f key) _ _, p.layouts, c.collapse.map fun _ => post.isSome⟩,
    plan_eq_ok_iff.mpr ⟨hforeign, _, post, nodes, partitions_eq_ok hcompile, hpost, hnodes, rfl,
      rfl⟩⟩

end Search

namespace Documents

open Indices (finds)

variable {entity : Entity} {engine next : Indices.Engine} {ix : Indices.Index} {out : Outcome}

theorem total_of_onlyFilters (hc : c.OnlyFilters) (idField : String) (docs : List Json) :
    total idField c docs = docs.length := by
  rw [total, hc.collapse]
  dsimp only
  rw [hc.scrollAfter]
  exact congrArg List.length (List.filter_eq_self.mpr fun _ _ => rfl)

/-- The key of a bucket of a terms aggregation counts what a search counts that
asks for the key as well. -/
theorem total_of_bucket (hc : c.OnlyFilters) (hnames : (c.aggregations.map Aggregation.name).Nodup)
    (hfaults : engine.faults = []) (hix : engine.find entity.storage = .ok ix)
    (hname : Text.hasChar '.' f = false)
    (hvalues : ∀ d ∈ ix.documents, ∀ j ∈ Indices.valuesAt d.source f, k.Has (.ofJson j))
    (ha : a ∈ c.aggregations) (hkind : a.kind = .terms) (htarget : a.target = .field f)
    (h : ((inMemory entity settings).search c).on engine = (.ok out, next)) {r : Result}
    (hr : out.aggregations.get? a.name = some r) {b : Bucket} (hb : b ∈ r.bucketList) :
    ∃ out', (((inMemory entity settings).search (c.narrowed f b.key)).on next).1 = .ok out' ∧
      out'.total = b.count := by
  have hon : (((inMemory entity settings).search c).on engine).1 = .ok out := congrArg (·.1) h
  obtain ⟨counts, hcounts, cells, shown, hgrouped, hperm, hget⟩ := buckets_of_search hc hnames hix
    hname (fun d hd j hj => ⟨k, hvalues d hd j hj⟩) ha hkind htarget hon
  obtain rfl := Option.some.inj (hr.symm.trans hget)
  obtain ⟨cell, hcell, rfl⟩ := List.mem_map.mp hb
  have hmem : cell ∈ cells := hperm.mem_iff.mp (List.mem_of_mem_take hcell)
  -- The engine has the same indices as before.
  have hcalm : Calm engine.indices next := by
    have hgives := (gives_search entity settings c engine ⟨rfl, hfaults⟩).2
    rwa [h] at hgives
  have hfind := hcalm.find hix
  obtain ⟨p, -, hplan, -, -⟩ := exists_of_search hon
  obtain ⟨p', hplan'⟩ := Search.exists_plan_narrowed f cell.shown hplan
  have hreads := reads_of_search (namesApart_of_nodup hc.collapse hnames) hon
  have hnames' : Search.NamesApart (c.narrowed f cell.shown) :=
    namesApart_of_nodup hc.collapse hnames
  obtain ⟨out', hout', -⟩ := exists_search hnames' hreads hcalm.faults hfind hplan'
  refine ⟨out', hout', ?_⟩
  obtain ⟨ix', counts', hix', hcounts', htotal⟩ := total_of_search hout'
  obtain rfl := Except.ok.inj (hfind.symm.trans hix')
  rw [htotal, total_of_onlyFilters (hc.narrowed f cell.shown), cellBucket, hgrouped.docs cell hmem,
    Indices.length_filter_rootParts, List.filter_filter]
  refine congrArg List.length (List.filter_congr fun doc hdoc => Bool.eq_iff_iff.mpr ?_)
  obtain ⟨-, part, hpart, hshown⟩ := hgrouped.shown cell hmem
  have hhas : k.Has (.ofJson cell.shown) := by
    obtain ⟨d, hd, heq⟩ := List.mem_map.mp
      (List.mem_filter.mp (Indices.doc_mem_of_mem_rootParts hpart)).1
    exact hvalues d hd _ (heq ▸ hshown)
  rw [hcounts', Search.matches_narrowed_iff hname, Search.termOf,
    toJson_ofJson_of_allows (.inr hhas), Bool.and_eq_true, hcounts, and_comm]

end Documents

/-! ## Both stores -/

theorem exists_bucket_of_any {out : Outcome} {name : String} {test : Bucket → Bool}
    (h : ((out.aggregations.get? name).any fun r => r.bucketList.any test) = true) :
    ∃ r b, out.aggregations.get? name = some r ∧ b ∈ r.bucketList ∧ test b = true := by
  cases hr : out.aggregations.get? name with
  | none =>
    rw [hr] at h
    cases h
  | some r =>
    rw [hr] at h
    obtain ⟨b, hb, htest⟩ := List.any_eq_true.mp h
    exact ⟨r, b, rfl, hb, htest⟩

/-- Each key that an aggregation has counted is counted alike by a search that asks
for the key as well, and is accepted. -/
def DrillsDown {σ : Type} (search : Criteria → Call σ Outcome) (s : σ) (c : Criteria)
    (a : Aggregation) (field : String) : Prop :=
  ∀ out next r b, (search c).on s = (.ok out, next) → out.aggregations.get? a.name = some r →
    b ∈ r.bucketList → b.key ≠ .null →
      ∃ out', ((search (c.narrowed field b.key)).on next).1 = .ok out' ∧ out'.total = b.count

/-- A facet is honest. Where a field holds values of one kind alone, a terms
aggregation on it counts under each key what a search finds that asks for the key
as well. A database has fewer rows than a double can count, and no later
aggregation takes the name of this one; in a document store no two of them share
a name. -/
theorem a_bucket_counts_what_a_search_for_its_key_finds (entity : Entity) (settings : Settings)
    (c : Criteria) (hc : c.OnlyFilters) (k : Kind) {f : String}
    (hname : Text.hasChar '.' f = false) {i : Nat} {a : Aggregation}
    (ha : c.aggregations[i]? = some a) (hkind : a.kind = .terms) (htarget : a.target = .field f) :
    (∀ s t, s.timed.state.faults = [] → s.timed.state.tables.find entity.storage = .ok t →
      t.rows.length < 2 ^ 53 → (Relational.knownColumns entity t s).isJson f = false →
      (∀ row ∈ t.rows, k.Allows ((Column.plain f).valueOrNull row)) →
      a.name ∉ (c.aggregations.drop (i + 1)).map Aggregation.name →
      DrillsDown (Relational.inMemory entity settings).search s c a f) ∧
    (∀ engine ix, engine.faults = [] → engine.find entity.storage = .ok ix →
      (∀ d ∈ ix.documents, ∀ j ∈ Indices.valuesAt d.source f, k.Has (.ofJson j)) →
      (c.aggregations.map Aggregation.name).Nodup →
      DrillsDown (Documents.inMemory entity settings).search engine c a f) := by
  constructor
  · intro s t hfaults ht hrows hjson hvalues hlast out next r b h hr hb hkey
    have hs : Relational.Holds True entity t (Relational.knownColumns entity t s)
        s.timed.state.tables s := ⟨⟨rfl, fun _ => hfaults⟩, ht, rfl⟩
    have hnext := (Relational.gives_search entity settings c s hs).2
    rw [h] at hnext
    exact Relational.total_of_bucket hc hs hnext hname hjson hrows hvalues ha hkind htarget hlast
      (congrArg (·.1) h) hr hb hkey
  · intro engine ix hfaults hix hvalues hnames out next r b h hr hb _
    exact Documents.total_of_bucket hc hnames hfaults hix hname hvalues (List.mem_of_getElem? ha)
      hkind htarget h hr hb

/-- Of two red products one is on the first shelf, in a table and in an index. -/
theorem a_red_product_is_on_the_first_shelf :
    let entity : Entity := { name := "product", storage := "products" }
    let c : Criteria := {
      filters := [.all [.eq "shelf" (.int 1)]], aggregations := [.terms "color"] }
    let reds : Criteria := c.narrowed "color" (.str "red")
    let t : Tables.Table := {
      shape := .make "products" "id" [("color", .text), ("shelf", .integer)] []
      rows := [[("color", .text "red"), ("id", .int 1), ("shelf", .int 1)],
        [("color", .text "red"), ("id", .int 2), ("shelf", .int 2)]] }
    let s : Relational.State Tables.Engine := .initial {} { tables := [("products", t)] }
    let engine : Indices.Engine := { indices := [("products", { documents :=
      [⟨"1", .obj [("color", .arr [.str "red", .str "red"]), ("id", .int 1), ("shelf", .int 1)]⟩,
        ⟨"2", .obj [("color", .str "red"), ("id", .int 2), ("shelf", .int 2)]⟩] })] }
    (∃ out next, ((Relational.inMemory entity {}).search c).on s = (.ok out, next) ∧
      ∃ out', (((Relational.inMemory entity {}).search reds).on next).1 = .ok out' ∧
        out'.total = 1) ∧
    ∃ out next, ((Documents.inMemory entity {}).search c).on engine = (.ok out, next) ∧
      ∃ out', (((Documents.inMemory entity {}).search reds).on next).1 = .ok out' ∧
        out'.total = 1 := by
  intro entity c reds t s engine
  obtain ⟨htables, hindices⟩ := a_bucket_counts_what_a_search_for_its_key_finds entity {} c
    ⟨rfl, rfl, rfl, rfl, rfl, rfl⟩ .text (f := "color") (by decide) (i := 0) (a := .terms "color")
    rfl rfl rfl
  let isRed (b : Bucket) : Bool := b.key.text? == some "red" && b.count == 1
  have hred : ∀ b, isRed b = true → b.key = .str "red" ∧ b.count = 1 := by
    rintro ⟨key, count, distinct⟩ h
    cases key <;> simp_all [isRed, Json.text?]
  obtain ⟨out, hout, h⟩ :
      ∃ out, (((Relational.inMemory entity {}).search c).on s).1 = .ok out ∧ _ :=
    exists_of_any (p := fun out => (out.aggregations.get? "color").any fun r =>
      r.bucketList.any isRed) (by decide +kernel)
  obtain ⟨found, hfound, h'⟩ :
      ∃ out, (((Documents.inMemory entity {}).search c).on engine).1 = .ok out ∧ _ :=
    exists_of_any (p := fun out => (out.aggregations.get? "color").any fun r =>
      r.bucketList.any isRed) (by decide +kernel)
  obtain ⟨r, b, hr, hb, h⟩ := exists_bucket_of_any h
  obtain ⟨r', b', hr', hb', h'⟩ := exists_bucket_of_any h'
  obtain ⟨hkey, hcount⟩ := hred b h
  obtain ⟨hkey', hcount'⟩ := hred b' h'
  obtain ⟨out', hout', htotal⟩ := htables s t rfl rfl (by decide) (by decide +kernel)
    (by decide +kernel) (by decide) out _ r b (Prod.ext hout rfl) hr hb (by simp [hkey])
  obtain ⟨found', hfound', htotal'⟩ := hindices engine _ rfl rfl (by decide +kernel)
    (by decide) found _ r' b' (Prod.ext hfound rfl) hr' hb' (by simp [hkey'])
  rw [hkey] at hout'
  rw [hkey'] at hfound'
  exact ⟨⟨out, _, Prod.ext hout rfl, out', hout', htotal.trans hcount⟩, found, _,
    Prod.ext hfound rfl, found', hfound', htotal'.trans hcount'⟩

/-- In a document store where two aggregations share a name a facet may lead to a
search that fails. Here the one of a composite reads as a wrapper as long as it
has a key to go on after. -/
theorem a_shared_name_leads_to_a_search_that_fails :
    let entity : Entity := { name := "product", storage := "products" }
    let c : Criteria := { aggregations := [(Aggregation.filtered "g" []).named "after_key",
      .composite "after_key" [("g", "g")], .terms "f"] }
    let ix : Indices.Index := { documents := [⟨"1", .obj [("f", .str "a"), ("id", .int 1)]⟩,
      ⟨"2", .obj [("g", .int 1), ("id", .int 2)]⟩] }
    let engine : Indices.Engine := { indices := [("products", ix)] }
    c.OnlyFilters ∧ engine.find entity.storage = .ok ix ∧
      (∀ d ∈ ix.documents, ∀ j ∈ Indices.valuesAt d.source "f", Kind.text.Has (.ofJson j)) ∧
      ¬ DrillsDown (Documents.inMemory entity {}).search engine c (.terms "f") "f" := by
  intro entity c ix engine
  refine ⟨⟨rfl, rfl, rfl, rfl, rfl, rfl⟩, rfl, by decide +kernel, fun hdrills => ?_⟩
  let isA (b : Bucket) : Bool := b.key.text? == some "a"
  have hA : ∀ b, isA b = true → b.key = .str "a" := by
    rintro ⟨key, count, distinct⟩ h
    cases key <;> simp_all [isA, Json.text?]
  obtain ⟨out, hout, h⟩ :
      ∃ out, (((Documents.inMemory entity {}).search c).on engine).1 = .ok out ∧ _ :=
    exists_of_any (p := fun out => (out.aggregations.get? "f").any fun r =>
      r.bucketList.any isA) (by decide +kernel)
  obtain ⟨r, b, hr, hb, h⟩ := exists_bucket_of_any h
  obtain ⟨out', hout', -⟩ :=
    hdrills out _ r b (Prod.ext hout rfl) hr hb (hA b h ▸ nofun)
  have hfails : (((Documents.inMemory entity {}).search (c.narrowed "f" (.str "a"))).on
      (((Documents.inMemory entity {}).search c).on engine).2).1.toOption.isNone = true := by
    decide +kernel
  rw [hA b h] at hout'
  rw [hout'] at hfails
  cases hfails

end EntityStore
