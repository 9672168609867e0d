-- Scrolling through a table. A search after an identity asks for the rows that
-- match and have a greater one, in the order of identities.
import EntityStore.Proofs.Store.Answers
import EntityStore.Proofs.Store.Confirming
import EntityStore.Proofs.Store.Scrolling

namespace EntityStore

open Call (Gives)
open Sql (Column Direction Predicate Query passes)

/-! ## Rows that match -/

namespace Plan.Scope

variable {s : Scope} {settings : Settings} {c : Criteria} {row : Row}

/-- The text of a search is in one of its fields, where it names some. -/
def TextHolds (s : Scope) (row : Row) (t : FullText) : Prop :=
  t.fields = [] ∨ ∃ f ∈ t.fields, ∃ column, s.resolve .filter f = .ok column ∧
    (Predicate.like column (Like.pattern t.text)).holds row = true

/-- A row passes all filters of some criteria. -/
structure Matches (s : Scope) (c : Criteria) (row : Row) : Prop where
  filters : ∀ g ∈ c.filters, s.GroupHolds row g
  texts : ∀ t ∈ c.fullText, s.TextHolds row t
  postFilters : ∀ g ∈ c.postFilters, s.GroupHolds row g

theorem passes_groups_iff {gs : List Filter.Group} {p : Option Predicate}
    (h : s.groups gs = .ok p) : passes p row = true ↔ ∀ g ∈ gs, s.GroupHolds row g := by
  obtain ⟨found, hfound, -, hpasses⟩ := groups_eq_ok (compile_of_groups h)
  cases h.symm.trans hfound
  exact hpasses row

theorem passes_fullText_iff {t : FullText} {p : Option Predicate} (h : s.fullText t = .ok p) :
    passes p row = true ↔ s.TextHolds row t := by
  obtain ⟨columns, hcolumns, h⟩ := bind_eq_ok_iff.mp h
  cases h
  have hmem := fun column => mem_mapM_iff hcolumns (b := column)
  cases hfields : t.fields with
  | nil =>
    rw [hfields] at hcolumns
    cases hcolumns
    simp [TextHolds, hfields, passes, Predicate.anyOf]
  | cons f fields =>
    have hne : columns.map (Predicate.like · (Like.pattern t.text)) ≠ [] := by
      have hf : f ∈ t.fields := hfields ▸ List.mem_cons_self
      obtain ⟨column, hcolumn⟩ := exists_of_mapM hcolumns f hf
      exact List.ne_nil_of_mem (List.mem_map_of_mem ((hmem column).mpr ⟨f, hf, hcolumn⟩))
    rw [Sql.passes_anyOf_iff row hne, TextHolds]
    simp only [List.mem_map, exists_exists_and_eq_and, hmem, hfields, reduceCtorEq, false_or]
    constructor
    · rintro ⟨column, ⟨f, hf, hcolumn⟩, hholds⟩
      exact ⟨f, hf, column, hcolumn, hholds⟩
    · rintro ⟨f, hf, column, hcolumn, hholds⟩
      exact ⟨column, ⟨f, hf, hcolumn⟩, hholds⟩

/-- A row passes the predicate of a plan when it passes all filters. -/
theorem passes_parts_iff {common : List Predicate} {post : Option Predicate}
    (hcommon : s.commonParts c = .ok common) (hpost : s.groups c.postFilters = .ok post) :
    passes (Predicate.allOf (common ++ post.toList)) row = true ↔ s.Matches c row := by
  obtain ⟨filter, hfilter, hcommon⟩ := bind_eq_ok_iff.mp hcommon
  obtain ⟨texts, htexts, hcommon⟩ := bind_eq_ok_iff.mp hcommon
  cases hcommon
  have hoption : ∀ p : Option Predicate, (∀ q ∈ p.toList, q.holds row = true) ↔
      passes p row = true := by
    intro p
    cases p <;> simp [passes]
  have htexts : (∀ q ∈ texts.filterMap id, q.holds row = true) ↔
      ∀ t ∈ c.fullText, s.TextHolds row t := by
    constructor
    · intro hall t ht
      obtain ⟨p, hp⟩ := exists_of_mapM htexts t ht
      have hmem := (mem_mapM_iff htexts).mpr ⟨t, ht, hp⟩
      rw [← passes_fullText_iff hp, ← hoption]
      intro q hq
      rw [Option.mem_toList] at hq
      exact hall q (List.mem_filterMap.mpr ⟨p, hmem, hq⟩)
    · intro hall q hq
      obtain ⟨p, hmem, hp⟩ := List.mem_filterMap.mp hq
      obtain ⟨t, ht, hfull⟩ := (mem_mapM_iff htexts).mp hmem
      exact (hoption p).mpr ((passes_fullText_iff hfull).mpr (hall t ht)) q
        (Option.mem_toList.mpr hp)
  rw [Sql.passes_allOf_iff]
  simp only [List.mem_append, or_imp, forall_and, hoption, htexts, passes_groups_iff hfilter,
    passes_groups_iff hpost]
  constructor
  · rintro ⟨⟨hfilters, htexts⟩, hposts⟩
    exact ⟨hfilters, htexts, hposts⟩
  · intro h
    exact ⟨⟨h.filters, h.texts⟩, h.postFilters⟩

end Plan.Scope

/-! ## Plans -/

/-- One more part of a predicate that may not be there. -/
def Sql.Predicate.andAfter (p : Option Predicate) (q : Predicate) : Predicate :=
  match p with
  | some existing => existing.and q
  | none => q

theorem Sql.passes_andAfter (row : Row) (p : Option Predicate) (q : Predicate) :
    passes (some (Predicate.andAfter p q)) row = (passes p row && q.holds row) := by
  cases p with
  | none => simp [passes, Predicate.andAfter]
  | some existing => exact holds_and row existing q

namespace Relational

variable {entity : Entity} {settings : Settings} {t : Tables.Table} {columns : Columns}
  {ts : Tables} {c : Criteria} {limit : Nat} {start : Value}

/-- The page of a search after an identity. -/
def scrollPage (entity : Entity) (p : Option Predicate) (last : Value) (limit : Nat) : Query :=
  .ofPage entity.storage (some (.andAfter p (.gt (.plain entity.idField) last)))
    [(.plain entity.idField, .asc)] (some limit) 0

theorem outputs_after (hc : c.Scrolls limit) (s : Plan.Scope) (last : Value) :
    s.outputs (c.after last) = .ok [] := by
  have hfields : s.outputFields (c.after last) = [] := by
    have houtput : s.outputFields (c.after last) = s.outputFields c := rfl
    rw [houtput, Plan.Scope.outputFields, hc.included, hc.excluded]
    rfl
  have hraw : (c.after last).rawItems = [] := hc.rawItems
  rw [Plan.Scope.outputs, hfields, hraw]
  rfl

theorem base_after (hc : c.Scrolls limit) (s : Plan.Scope) (last : Value) :
    s.base (c.after last) [] [] = { table := s.entity.storage } := by
  have hbase : s.base (c.after last) [] [] =
      { distinct := c.distinct, table := s.entity.storage, joins := c.joins } := rfl
  rw [hbase, hc.distinct, hc.joins]

theorem page_after (hc : c.Scrolls limit) {id : Column}
    (hid : ((inMemory entity settings).scope columns).resolve .output entity.idField = .ok id)
    (p : Option Predicate) (last : Value) :
    ((inMemory entity settings).scope columns).page (c.after last) (.ofTable entity.storage p) =
      .ok (.ofPage entity.storage (some (.andAfter p (.gt id last))) [(id, .asc)]
        (some limit) 0) := by
  have hpage : ((inMemory entity settings).scope columns).page (c.after last)
      (.ofTable entity.storage p) = do
    let id ← ((inMemory entity settings).scope columns).resolve .output entity.idField
    return .ofPage entity.storage (some (.andAfter p (.gt id last))) [(id, .asc)]
      c.page.limit 0 := rfl
  rw [hpage, hid, hc.page]
  rfl

/-- The queries of searches after different identities differ in the identity
alone. -/
theorem plan_after (hc : c.Scrolls limit) (hname : Text.hasChar '.' entity.idField = false)
    {plan : Plan}
    (h : ((inMemory entity settings).scope columns).plan settings (c.after start) = .ok plan) :
    ∃ p, (∀ row, passes p row = true ↔
        ((inMemory entity settings).scope columns).Matches c row) ∧
      ∀ last, ((inMemory entity settings).scope columns).plan settings (c.after last) = .ok
        ⟨scrollPage entity p last limit, .ofTable entity.storage p, plan.aggregations⟩ := by
  have hcollapse := Plan.Scope.collapse_of_plan h
  obtain ⟨items, groupBy, common, post, hplanned⟩ := Plan.Scope.planned_of_plan h
  have hscope : ((inMemory entity settings).scope columns).withJoins c.joins =
      (inMemory entity settings).scope columns := by
    rw [hc.joins]
    rfl
  have hjoins : ∀ last, ((inMemory entity settings).scope columns).withJoins
      (c.after last).joins = (inMemory entity settings).scope columns := fun _ => hscope
  rw [hjoins] at hplanned
  have hid : ((inMemory entity settings).scope columns).resolve .output entity.idField =
      .ok (.plain entity.idField) := by
    obtain ⟨id, hid, -⟩ := bind_eq_ok_iff.mp hplanned.page_eq
    exact (eq_plain_of_resolve hname hid) ▸ hid
  refine ⟨Predicate.allOf (common ++ post.toList),
    fun row => Plan.Scope.passes_parts_iff hplanned.common_eq hplanned.post_eq, fun last => ?_⟩
  have hafter : (((inMemory entity settings).scope columns).withJoins
      (c.after last).joins).Planned settings (c.after last)
      ⟨scrollPage entity (Predicate.allOf (common ++ post.toList)) last limit,
        .ofTable entity.storage (Predicate.allOf (common ++ post.toList)), plan.aggregations⟩
      [] [] common post := by
    rw [hjoins]
    exact {
      items_eq := outputs_after hc _ last
      groupBy_eq := by
        have hgroupBy : (c.after last).groupBy = [] := hc.groupBy
        rw [hgroupBy]
        rfl
      common_eq := hplanned.common_eq
      post_eq := hplanned.post_eq
      count_eq := by
        rw [base_after hc, restrict?_ofTable]
        rfl
      page_eq := page_after hc hid _ last
      aggregations_eq := hplanned.aggregations_eq }
  exact Plan.Scope.plan_of_planned hcollapse hafter

/-! ## Runs -/

/-- The identity of a row. -/
def idOf (entity : Entity) (row : Row) : Value := (Column.plain entity.idField).valueOrNull row

/-- A record as a row of the table shows it. -/
def shownRow (row : Row) : Fields Json := Row.toJson (Tables.bareColumns row)

/-- The rows that match, in the order of identities. -/
def matching (entity : Entity) (p : Option Predicate) (rows : List Row) : List Row :=
  (rows.filter (passes p)).mergeSort (Tables.ranks [(.plain entity.idField, .asc)])

theorem matching_eq_ofPage (entity : Entity) (p : Option Predicate) (limit : Nat)
    (ht : ts.find entity.storage = .ok t) :
    Tables.select ts (.ofPage entity.storage p [(.plain entity.idField, .asc)] (some limit) 0) =
      .ok (((matching entity p t.rows).take limit).map Tables.bareColumns) := by
  rw [Tables.select_ofPage ht, Tables.slice_map]
  rfl

theorem givesRows_after {p : Option Predicate} {aggregations : List Plan.AggregationQuery}
    {last : Value} (hplan : ((inMemory entity settings).scope columns).plan settings
      (c.after last) = .ok
        ⟨scrollPage entity p last limit, .ofTable entity.storage p, aggregations⟩)
    (ht : ts.find entity.storage = .ok t)
    (haggregations : (aggregations.mapM (aggregate? ts)).isSome = true) :
    Call.GivesRows (Holds True entity t columns ts)
      ((inMemory entity settings).search (c.after last))
      (((matching entity (some (.andAfter p (.gt (.plain entity.idField) last))) t.rows).take
        limit).map shownRow) := by
  obtain ⟨results, hresults⟩ := Option.isSome_iff_exists.mp haggregations
  have hgives : Gives (Holds True entity t columns ts)
      ((inMemory entity settings).search (c.after last)) _ := gives_search entity settings _
  rw [hplan] at hgives
  have hanswer : answer? ts ⟨scrollPage entity p last limit, .ofTable entity.storage p,
      aggregations⟩ = some {
        rows := (((matching entity (some (.andAfter p (.gt (.plain entity.idField) last)))
          t.rows).take limit).map Tables.bareColumns).map Row.toJson
        total := (t.rows.filter (passes p)).length
        aggregations := Fields.ofList results } := by
    unfold answer?
    rw [Tables.count_ofTable ht, hresults]
    unfold scrollPage
    rw [matching_eq_ofPage entity _ limit ht]
    rfl
  refine ⟨_, hgives.congr hanswer, ?_⟩
  rw [List.map_map]
  rfl

variable {rows : List Row}

theorem get?_of_has {row : Row} (h : Kind.integer.Has (idOf entity row)) :
    row.get? entity.idField = some (idOf entity row) := by
  have hid : idOf entity row = (row.get? entity.idField).getD .null := rfl
  rw [hid] at h ⊢
  cases hget : row.get? entity.idField with
  | some v => rfl
  | none =>
    rw [hget] at h
    exact absurd h Kind.integer.not_has_null

theorem ranks_id {a b : Row} (ha : Kind.integer.Has (idOf entity a))
    (hb : Kind.integer.Has (idOf entity b)) :
    Tables.ranks [(.plain entity.idField, .asc)] a b =
      (Value.order (idOf entity a) (idOf entity b)).isLE := by
  rw [Tables.ranks, Tables.orderBy_cons, ← ha.sortOrder hb]
  exact congrArg _ Ordering.then_eq

theorem holds_gt {row : Row} {last : Value} (h : Kind.integer.Has (idOf entity row)) :
    (Predicate.gt (.plain entity.idField) last).holds row =
      Value.compares Ordering.isGT (idOf entity row) last := by
  have hvalue : (Column.plain entity.idField).value? row = some (idOf entity row) := get?_of_has h
  rw [Predicate.holds, Sql.compares, hvalue, Option.any_some]

theorem matching_after (p : Option Predicate) {last : Value}
    (hints : ∀ row ∈ rows, Kind.integer.Has (idOf entity row))
    (hdistinct : rows.Pairwise fun a b => idOf entity a ≠ idOf entity b) :
    matching entity (some (.andAfter p (.gt (.plain entity.idField) last))) rows =
      (matching entity p rows).filter fun row =>
        Value.compares Ordering.isGT (idOf entity row) last := by
  have hmem : ∀ row ∈ rows.filter (passes p), row ∈ rows := fun _ h => (List.mem_filter.mp h).1
  have hfilter := mergeSort_filter (fun a ha => hints a (hmem a ha)) (hdistinct.filter _)
    fun a ha b hb => ranks_id (hints a (hmem a ha)) (hints b (hmem b hb))
  rw [matching, matching, ← hfilter, List.filter_filter]
  refine congrArg (List.mergeSort · _) (List.filter_congr fun row hrow => ?_)
  rw [Sql.passes_andAfter, holds_gt (hints row hrow), Bool.and_comm]

theorem matching_sorted (p : Option Predicate)
    (hints : ∀ row ∈ rows, Kind.integer.Has (idOf entity row))
    (hdistinct : rows.Pairwise fun a b => idOf entity a ≠ idOf entity b) :
    (matching entity p rows).Pairwise fun a b =>
      Value.precedes (idOf entity a) (idOf entity b) = true := by
  have hmem : ∀ row ∈ rows.filter (passes p), row ∈ rows := fun _ h => (List.mem_filter.mp h).1
  exact precedes_of_mergeSort (fun a ha => hints a (hmem a ha)) (hdistinct.filter _)
    fun a ha b hb => ranks_id (hints a (hmem a ha)) (hints b (hmem b hb))

/-- Where a search of a table after a value below all identities is accepted, a
run of searches from there shows each row that matches, once and in the order
of identities. -/
theorem scrollsThrough_table (hc : c.Scrolls limit) (hlimit : 0 < limit)
    (hname : Text.hasChar '.' entity.idField = false) {s : State Tables.Engine} {out : Outcome}
    (hs : Holds True entity t columns ts s) (hids : Numbered (idOf entity) start t.rows)
    (hfirst : (((inMemory entity settings).search (c.after start)).on s).1 = .ok out) :
    ScrollsThrough (inMemory entity settings).search entity.idField c start s (idOf entity)
      shownRow t.rows (((inMemory entity settings).scope columns).Matches c) := by
  obtain ⟨hints, hdistinct, hstart⟩ := hids
  have hgives := (gives_search entity settings (c.after start)).of_ok hs hfirst
  cases hplan : ((inMemory entity settings).scope columns).plan settings (c.after start) with
  | error e =>
    rw [hplan] at hgives
    cases hgives
  | ok plan =>
    rw [hplan] at hgives
    have haggregations : (plan.aggregations.mapM (aggregate? ts)).isSome = true := by
      have hanswer : answer? ts plan = some out := hgives
      simp only [answer?, Option.bind_eq_some_iff, Option.map_eq_some_iff] at hanswer
      obtain ⟨_, -, _, -, _, haggregations, -⟩ := hanswer
      rw [haggregations]
      rfl
    obtain ⟨p, hmatches, hplans⟩ := plan_after hc hname hplan
    have hmem : ∀ row, row ∈ matching entity p t.rows ↔ row ∈ t.rows ∧ passes p row = true :=
      fun _ => List.mem_mergeSort.trans List.mem_filter
    have hfound : ∀ row ∈ matching entity p t.rows, Kind.integer.Has (idOf entity row) :=
      fun row hrow => hints row ((hmem row).mp hrow).1
    have hsorted : (matching entity p t.rows).Pairwise _ := matching_sorted p hints hdistinct
    have hshown : ∀ row ∈ matching entity p t.rows,
        (shownRow row).get? entity.idField = some (idOf entity row).toJson := by
      intro row hrow
      rw [shownRow, get?_record hname, get?_of_has (hfound row hrow), Option.map_some]
    have hpages := fun last => givesRows_after (hplans last) hs.find haggregations
    simp only [matching_after p hints hdistinct] at hpages
    have hfromStart := hpages start
    rw [List.filter_eq_self.mpr fun row hrow => hstart row ((hmem row).mp hrow).1] at hfromStart
    obtain ⟨pages, hscrolled, hflat⟩ := scrolled_of_gives hlimit hfound hsorted hshown hs
      hfromStart fun a ha => by
        have hbehind := List.filter_congr fun row hrow =>
          isGT_compares (hfound a ha) (hfound row hrow)
        rw [← hbehind]
        exact hpages (idOf entity a)
    exact ⟨_, pages, hscrolled, hflat, hsorted, fun row => (hmem row).trans
      (and_congr_right fun _ => hmatches row)⟩

end Relational

end EntityStore
