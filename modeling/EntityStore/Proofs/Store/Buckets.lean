-- Buckets of a terms aggregation, and what they count. A database groups the rows
-- that match by the column, and a document store the documents that match by their
-- values.
import EntityStore.Proofs.Indices.Groups
import EntityStore.Proofs.Store.Answering
import EntityStore.Proofs.Store.ScrollingTables
import EntityStore.Proofs.Tables.Grouping
import EntityStore.Proofs.Value.Doubles

namespace EntityStore

open Aggregation (Bucket Result)
open Sql (Column Predicate Query passes)

/-! ## Criteria -/

/-- Nothing but filters and texts decides which records count, and each of them
counts on its own. -/
structure Criteria.OnlyFilters (c : Criteria) : Prop where
  postFilters : c.postFilters = []
  joins : c.joins = []
  distinct : c.distinct = false
  groupBy : c.groupBy = []
  collapse : c.collapse = none
  scrollAfter : c.scrollAfter = none

variable {k : Kind}

/-! ## Keys of one kind -/

/-- A list of one value that is null or of a kind. -/
def Kind.IsKey (k : Kind) (vs : List Value) : Prop := ∃ v, vs = [v] ∧ k.Allows v

theorem Kind.Allows.isEq_iff {v w : Value} (hv : k.Allows v) (hw : k.Allows w) :
    (Value.order v w).isEq = true ↔ v = w := by
  rcases hv with rfl | hv
  · rcases hw with rfl | hw
    · exact ⟨fun _ => rfl, fun _ => rfl⟩
    · constructor
      · intro h
        have hnull := Value.isNull_of_beq (v := .null) (w := w) h
        rw [hw.isNull] at hnull
        cases hnull
      · rintro rfl
        exact absurd hw k.not_has_null
  · rcases hw with rfl | hw
    · constructor
      · intro h
        have hnull := Value.isNull_of_beq (v := v) (w := .null) h
        rw [hv.isNull] at hnull
        cases hnull
      · rintro rfl
        exact absurd hv k.not_has_null
    · exact hv.beq_iff hw

theorem tellsApart_isKey (k : Kind) : Tables.TellsApart k.IsKey := by
  rintro _ _ ⟨v, rfl, hv⟩ ⟨w, rfl, hw⟩
  rw [Value.orderLists, Value.orderLists, Ordering.then_eq, hv.isEq_iff hw, List.cons.injEq]
  simp

/-! ## Groups of rows -/

namespace Plan.Scope

open Tables (Grouped)

variable {column : Column} {rows : List Row} {ts : Tables} {t : Tables.Table} {table : String}
  {p : Option Predicate} {limit : Nat}

/-- The key of a row in a column. -/
def keyIn (column : Column) (row : Row) : List Value := [column.valueOrNull row]

/-- What is put out for a group. -/
def groupOut (column : Column) (g : List Row) : Row :=
  Fields.ofList [(keyName, column.valueOrNull (g.headD [])), (countName, .int g.length)]

/-- The buckets of a column are the groups of the rows that pass, the fullest
first, and as many as asked for. -/
theorem select_bucketQuery (limit : Nat) (ht : ts.find table = .ok t)
    (hkind : ∀ row ∈ t.rows, k.Allows (column.valueOrNull row)) :
    ∃ gs, ∃ shown : List (List Value × List Row),
      Grouped (keyIn column) (t.rows.filter (passes p)) gs ∧ shown.Perm gs ∧
      Tables.select ts { bucketQuery column limit with table := table, predicate := p } =
        .ok ((shown.take limit).map fun g => groupOut column g.2) := by
  let q : Query := { bucketQuery column limit with table := table, predicate := p }
  let rows := t.rows.filter (passes p)
  have hrows : Tables.sourceRows ts q = .ok rows := by
    rw [Tables.sourceRows_of_alone (q := q) rfl, ht]
    rfl
  have hgrouped : Grouped (keyIn column) rows _ := Tables.grouped_foldl (tellsApart_isKey k)
    fun row hrow => ⟨_, rfl, hkind row (List.mem_filter.mp hrow).1⟩
  generalize hgs : rows.foldl
    (fun gs row => Tables.addToGroup (keyIn column row) row gs) [] = gs at hgrouped
  have hgroups : Tables.groups q rows = gs.map (·.2) := by
    rw [← hgs]
    rfl
  let out (g : List Value × List Row) : Row × Row := (groupOut column g.2, g.2.headD [])
  let ranks (a b : Row × Row) : Bool :=
    (Tables.orderBy q.orderBy (Tables.groupValue a.1 a.2) (Tables.groupValue b.1 b.2)).isLE
  let shown := gs.mergeSort fun a b => ranks (out a) (out b)
  have hsorted : shown.map out = (gs.map out).mergeSort ranks :=
    List.map_mergeSort fun _ _ _ _ => rfl
  have hout : Tables.outputRows q rows =
      .ok (shown.map fun g => groupOut column g.2) := by
    have hmapM : (gs.map (·.2)).mapM (fun g => do return (← Tables.groupRow q g, g.headD [])) =
        Except.ok (ε := TableFault) (gs.map out) := by
      rw [List.mapM_map]
      exact mapM_eq_ok fun g _ => rfl
    have houtput : Tables.outputRows q rows = do
        let out ← (Tables.groups q rows).mapM fun g => do return (← Tables.groupRow q g, g.headD [])
        return (out.mergeSort ranks).map (·.1) := rfl
    rw [houtput, hgroups, hmapM]
    show Except.ok (((gs.map out).mergeSort ranks).map (·.1)) = _
    rw [← hsorted, List.map_map]
    rfl
  refine ⟨gs, shown, hgrouped, List.mergeSort_perm _ _, ?_⟩
  refine bind_eq_ok_iff.mpr ⟨rows, hrows, bind_eq_ok_iff.mpr ⟨_, hout, ?_⟩⟩
  show Except.ok (((shown.map fun g => groupOut column g.2).drop 0).take limit) = _
  rw [List.drop_zero, List.map_take]

/-- The first row of a group has its key. -/
theorem key_of_grouped (hkind : ∀ row ∈ rows, k.Allows (column.valueOrNull row))
    {gs : List (List Value × List Row)} (h : Grouped (keyIn column) rows gs)
    {g : List Value × List Row} (hg : g ∈ gs) :
    g.1 = [column.valueOrNull (g.2.headD [])] ∧ ∃ row ∈ rows, keyIn column row = g.1 := by
  obtain ⟨row, hrow, hkey⟩ := h.filled g hg
  refine ⟨?_, row, hrow, hkey⟩
  have hsort : k.IsKey g.1 := ⟨_, hkey.symm, hkind row hrow⟩
  have hmem : row ∈ g.2 := by
    rw [h.held g hg]
    refine List.mem_filter.mpr ⟨hrow, ?_⟩
    exact (tellsApart_isKey k _ _ hsort ⟨_, rfl, hkind row hrow⟩).mpr hkey.symm
  obtain ⟨first, rest, hfirst⟩ := List.exists_cons_of_ne_nil (List.ne_nil_of_mem hmem)
  have hhead : first ∈ rows.filter (Tables.hasKey (keyIn column) g.1) := by
    rw [← h.held g hg, hfirst]
    exact List.mem_cons_self
  obtain ⟨hfirstRow, hhas⟩ := List.mem_filter.mp hhead
  rw [hfirst]
  exact (tellsApart_isKey k _ _ hsort ⟨_, rfl, hkind first hfirstRow⟩).mp hhas

/-! ## Queries of aggregations -/

variable {s : Scope} {settings : Settings} {c : Criteria} {a : Aggregation} {f : String}
  {parts : List Predicate} {q : AggregationQuery}

theorem facet_of_onlyFilters (hc : c.OnlyFilters) (settings : Settings) (parts : List Predicate)
    (a : Aggregation) : s.facet settings c parts a = s.aggregation settings parts a := by
  unfold facet
  rw [hc.postFilters]
  show s.aggregation settings (parts ++ []) a = _
  rw [List.append_nil]

theorem aggregation_of_facet {q : AggregationQuery} (h : s.facet settings c parts a = .ok q) :
    q.aggregation = a := by
  obtain ⟨post, -, h⟩ := bind_eq_ok_iff.mp h
  obtain ⟨own, -, h⟩ := bind_eq_ok_iff.mp h
  obtain ⟨⟨q', more⟩, -, h⟩ := bind_eq_ok_iff.mp h
  cases h
  rfl

/-- The query of a terms aggregation is for the buckets of its column. -/
theorem query_of_terms (hkind : a.kind = .terms) (htarget : a.target = .field f)
    (h : s.aggregation settings parts a = .ok q) :
    ∃ column, s.resolve .output f = .ok column ∧ q = ⟨a, {
      bucketQuery column (a.bucketLimit.getD (settings.bucketLimitFor f)) with
        table := s.entity.storage
        predicate := Predicate.allOf parts }⟩ := by
  obtain ⟨own, hown, h⟩ := bind_eq_ok_iff.mp h
  obtain ⟨⟨q, more⟩, hquery, h⟩ := bind_eq_ok_iff.mp h
  unfold ownGroups at hown
  unfold aggregationQuery at hquery
  rw [hkind] at hown hquery
  rw [htarget] at hquery
  obtain ⟨column, hcolumn, hquery⟩ := bind_eq_ok_iff.mp hquery
  cases hown
  cases hquery
  cases h
  refine ⟨column, hcolumn, ?_⟩
  rw [restrict?_of_none rfl, Option.toList_none, List.append_nil, List.append_nil]

end Plan.Scope

namespace Relational

open Plan.Scope (groupOut keyIn)
open Tables (Grouped)

variable {entity : Entity} {settings : Settings} {t : Tables.Table} {columns : Columns}
  {ts : Tables} {s : State Tables.Engine} {c : Criteria} {a : Aggregation} {f : String} {i : Nat}
  {out : Outcome}

/-! ## Buckets of a table -/

/-- The bucket of a group of rows. -/
def groupBucket (g : List Value × List Row) : Bucket where
  key := (g.1.headD .null).toJson
  count := countOf (some (.int g.2.length))

theorem bucket_groupOut {column : Column} {g : List Value × List Row}
    (hkey : g.1 = [column.valueOrNull (g.2.headD [])]) :
    bucket (singleKey (groupOut column g.2)) (groupOut column g.2) = groupBucket g := by
  have hget : ∀ k, (groupOut column g.2).get? k = _ := fun k => by
    rw [groupOut, Fields.get?_ofList_cons, Fields.get?_ofList_cons, Fields.get?_ofList_nil]
  rw [groupBucket, hkey, bucket, singleKey, hget, hget]
  rfl

/-- A count that a double has room for is read as it is. -/
theorem countOf_int {n : Nat} (hn : n < 2 ^ 53) : countOf (some (.int n)) = n := by
  have hnumeric : Value.numeric? (.int n) = some (Float.ofInt n) := rfl
  rw [countOf, Option.bind_some, hnumeric]
  dsimp only
  rcases Nat.eq_zero_or_pos n with rfl | hpos
  · decide
  · rw [if_pos (Doubles.ofInt_pos hpos hn), Doubles.toUInt64_ofInt hpos hn]

/-- The outcome under the name of an aggregation is what its query says, where no
later one has the name. -/
theorem result_of_answer {plan : Plan} {q : Plan.AggregationQuery}
    (h : answer? ts plan = some out) (hq : plan.aggregations[i]? = some q)
    (hlast : q.aggregation.name ∉ (plan.aggregations.drop (i + 1)).map (·.aggregation.name)) :
    ∃ rows, Tables.select ts q.query = .ok rows ∧
      out.aggregations.get? q.aggregation.name = some (result q.aggregation rows) := by
  unfold answer? at h
  obtain ⟨page, -, h⟩ := Option.bind_eq_some_iff.mp h
  obtain ⟨total, -, h⟩ := Option.bind_eq_some_iff.mp h
  obtain ⟨found, hfound, rfl⟩ := Option.map_eq_some_iff.mp h
  rw [mapM_eq_some_iff] at hfound
  have hplace : (found.map some)[i]? = some (aggregate? ts q) := by
    rw [← hfound, List.getElem?_map, hq]
    rfl
  rw [List.getElem?_map, Option.map_eq_some_iff] at hplace
  obtain ⟨pair, hpair, haggregate⟩ := hplace
  obtain ⟨rows, hrows, rfl⟩ := Option.map_eq_some_iff.mp haggregate.symm
  have hnames : found.map (·.1) = plan.aggregations.map (·.aggregation.name) := by
    have hall : (found.map some).map (Option.map (·.1)) =
        (plan.aggregations.map (·.aggregation.name)).map some := by
      rw [← hfound, List.map_map, List.map_map]
      refine List.map_congr_left fun q hq => ?_
      have hmem : aggregate? ts q ∈ found.map some := hfound ▸ List.mem_map_of_mem hq
      obtain ⟨pair, -, hpair⟩ := List.mem_map.mp hmem
      obtain ⟨rows, -, rfl⟩ := Option.map_eq_some_iff.mp hpair.symm
      rw [Function.comp_apply, ← hpair]
      rfl
    rw [List.map_map, List.map_map] at hall
    have hsome : (found.map (·.1)).map some =
        (plan.aggregations.map (·.aggregation.name)).map some := by
      rw [List.map_map, List.map_map]
      exact hall
    exact (List.map_inj_right fun _ _ => Option.some.inj).mp hsome
  refine ⟨rows, ?_, ?_⟩
  · exact toOption_eq_some_iff.mp hrows
  · refine Fields.get?_ofList_of_getElem? hpair ?_
    rw [Fields.keys, List.map_drop, hnames, ← List.map_drop]
    exact hlast

/-- The buckets of a terms aggregation over a column of one kind are those of the
rows that match, grouped by their values. -/
theorem buckets_of_search (hc : c.OnlyFilters) (hs : Holds True entity t columns ts s)
    (hname : Text.hasChar '.' f = false)
    (hvalues : ∀ row ∈ t.rows, k.Allows ((Column.plain f).valueOrNull row))
    (ha : c.aggregations[i]? = some a) (hkind : a.kind = .terms) (htarget : a.target = .field f)
    (hlast : a.name ∉ (c.aggregations.drop (i + 1)).map Aggregation.name)
    (h : (((inMemory entity settings).search c).on s).1 = .ok out) :
    ∃ p : Option Predicate,
      (∀ row, passes p row = true ↔ ((inMemory entity settings).scope columns).Matches c row) ∧
      ∃ gs, ∃ shown : List (List Value × List Row),
        Grouped (keyIn (.plain f)) (t.rows.filter (passes p)) gs ∧ shown.Perm gs ∧
          out.aggregations.get? a.name = some (.buckets ((shown.take
            (a.bucketLimit.getD (settings.bucketLimitFor f))).map groupBucket)) := by
  have hgives := (gives_search entity settings c).of_ok hs h
  obtain ⟨plan, hplan, hanswer⟩ := Option.bind_eq_some_iff.mp hgives
  rw [toOption_eq_some_iff] at hplan
  obtain ⟨common, q, hcommon, hq, hplace⟩ := Plan.Scope.facet_of_plan hplan ha
  have hscope : ((inMemory entity settings).scope columns).withJoins c.joins =
      (inMemory entity settings).scope columns := by
    rw [hc.joins]
    rfl
  rw [hscope] at hcommon hq
  obtain ⟨items, groupBy, common', post, hplanned⟩ := Plan.Scope.planned_of_plan hplan
  have hnames : plan.aggregations.map (·.aggregation.name) = c.aggregations.map Aggregation.name :=
    map_eq_of_mapM hplanned.aggregations_eq fun a q hq =>
      congrArg Aggregation.name (Plan.Scope.aggregation_of_facet hq)
  obtain ⟨rows, hrows, hget⟩ := result_of_answer hanswer hplace <| by
    rw [List.map_drop, hnames, ← List.map_drop, Plan.Scope.aggregation_of_facet hq]
    exact hlast
  rw [Plan.Scope.facet_of_onlyFilters hc] at hq
  obtain ⟨column, hcolumn, rfl⟩ := Plan.Scope.query_of_terms hkind htarget hq
  obtain rfl := eq_plain_of_resolve hname hcolumn
  have hpost : ((inMemory entity settings).scope columns).groups c.postFilters = .ok none := by
    rw [hc.postFilters]
    rfl
  have hpasses : ∀ row, passes (Predicate.allOf common) row = true ↔
      ((inMemory entity settings).scope columns).Matches c row := fun row => by
    have hparts : passes (Predicate.allOf (common ++ Option.toList none)) row = true ↔ _ :=
      Plan.Scope.passes_parts_iff hcommon hpost
    rw [Option.toList_none, List.append_nil] at hparts
    exact hparts
  obtain ⟨gs, shown, hgrouped, hperm, hselect⟩ := Plan.Scope.select_bucketQuery
    (p := Predicate.allOf common) (a.bucketLimit.getD (settings.bucketLimitFor f)) hs.find hvalues
  refine ⟨_, hpasses, gs, shown, hgrouped, hperm, ?_⟩
  obtain rfl := Except.ok.inj (hrows.symm.trans hselect)
  rw [hget, result, hkind]
  refine congrArg (fun bs => some (Result.buckets bs)) ?_
  rw [List.map_map]
  refine List.map_congr_left fun g hg => ?_
  have hmem : g ∈ gs := hperm.mem_iff.mp (List.mem_of_mem_take hg)
  exact bucket_groupOut (Plan.Scope.key_of_grouped
    (fun row hrow => hvalues row (List.mem_filter.mp hrow).1) hgrouped hmem).1

end Relational

namespace Documents

open Indices (GroupedAt PlainAt rootParts)
open Search (Matches NamesApart bucketOf countedBy)

variable {entity : Entity} {settings : Settings} {c : Criteria} {a : Aggregation} {f : String}
  {engine : Indices.Engine} {ix : Indices.Index} {out : Outcome}

/-! ## Buckets of an index -/

/-- The bucket of a group of documents. -/
def cellBucket {κ : Type} (cell : Indices.Cell κ) : Bucket where
  key := cell.shown
  count := cell.docs.length

theorem bucketOf_of_none {κ : Type} (hcollapse : c.collapse = none) (nested : Option String)
    (roots : List Json) : bucketOf (κ := κ) c nested roots = cellBucket := by
  funext cell
  rw [bucketOf, hcollapse]
  rfl

theorem namesApart_of_nodup (hcollapse : c.collapse = none)
    (h : (c.aggregations.map Aggregation.name).Nodup) : NamesApart c :=
  ⟨h, fun hsome => by rw [hcollapse] at hsome; cases hsome⟩

theorem countedBy_of_terms (hc : c.OnlyFilters) (hkind : a.kind = .terms) :
    countedBy entity c a = c := by
  have hown : a.filterGroups = [] := by rw [Aggregation.filterGroups, hkind]
  rw [countedBy, hc.postFilters, hown]
  show ({ c with postFilters := [] } : Criteria) = c
  rw [← hc.postFilters]

theorem commonPath_of_name (hname : Text.hasChar '.' f = false) (htarget : a.target = .field f) :
    Search.commonPath entity a = .ok none := by
  rw [Search.commonPath_of_field htarget, entity.nestedPath?_of_name hname]

/-- The buckets of a terms aggregation over a field of plain values are those of
the documents that match, grouped by their values. -/
theorem buckets_of_search (hc : c.OnlyFilters)
    (hnames : (c.aggregations.map Aggregation.name).Nodup)
    (hix : engine.find entity.storage = .ok ix) (hname : Text.hasChar '.' f = false)
    (hvalues : ∀ d ∈ ix.documents, ∀ j ∈ Indices.valuesAt d.source f, (Value.ofJson j).IsPlain)
    (ha : a ∈ c.aggregations) (hkind : a.kind = .terms) (htarget : a.target = .field f)
    (h : (((inMemory entity settings).search c).on engine).1 = .ok out) :
    ∃ counts : Json → Bool, (∀ doc, counts doc = true ↔ Matches entity c doc) ∧
      ∃ cells, ∃ shown : List (Indices.Cell Value),
        GroupedAt f (rootParts ((ix.documents.map (·.source)).filter counts)) cells ∧
          shown.Perm cells ∧ out.aggregations.get? a.name = some (.buckets ((shown.take
            (a.bucketLimit.getD (settings.bucketLimitFor f))).map cellBucket)) := by
  obtain ⟨ix', hix', heach⟩ :=
    aggregation_of_search (namesApart_of_nodup hc.collapse hnames) h
  obtain rfl := Except.ok.inj (hix.symm.trans hix')
  obtain ⟨counts, hcounts, r, hdirect, hget⟩ := heach a ha
  rw [countedBy_of_terms hc hkind] at hcounts
  rw [Search.direct_terms hkind htarget (commonPath_of_name hname htarget),
    bucketOf_of_none hc.collapse] at hdirect
  have hplain : PlainAt f (rootParts ((ix.documents.map (·.source)).filter counts)) := by
    intro p hp
    obtain ⟨d, hd, heq⟩ := List.mem_map.mp
      (List.mem_filter.mp (Indices.doc_mem_of_mem_rootParts hp)).1
    rw [← heq]
    exact hvalues d hd
  refine ⟨counts, hcounts, _, Indices.rank _, Indices.groupedAt_termCells hplain,
    List.mergeSort_perm _ _, ?_⟩
  rw [hget, ← Option.some.inj hdirect]
  rfl

end Documents

end EntityStore
