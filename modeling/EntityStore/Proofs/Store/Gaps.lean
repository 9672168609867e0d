-- Buckets of the same records in a table and in an index. Both count each value of
-- a field alike. A database also has a bucket for the records without a value.
import EntityStore.Proofs.Store.FlatDocuments
import EntityStore.Proofs.Store.Narrowing
import Mathlib.Data.List.Perm.Subperm

namespace EntityStore

open Aggregation (Bucket Result)
open Sql (Column Predicate passes)

variable {k : Kind} {b : Bucket} {f : String}

/-! ## Buckets of values -/

theorem Kind.Has.toJson_ne_null {v : Value} (h : k.Has v) : v.toJson ≠ .null := by
  intro heq
  rw [← h.ofJson_toJson, heq] at h
  exact k.not_has_null h

/-- The bucket of a value among the values of some records. -/
def Value.bucketAmong (vs : List Value) (v : Value) : Bucket where
  key := v.toJson
  count := (vs.filter (v == ·)).length

theorem Value.bucketAmong_null (vs : List Value) : Value.bucketAmong vs .null =
    { key := .null, count := (vs.filter Value.isNull).length } := by
  have hnull : ∀ v : Value, (Value.null == v) = v.isNull := fun v =>
    Bool.eq_iff_iff.mpr ⟨fun h => (Value.isNull_of_beq h).symm,
      fun h => by rw [Value.isNull_iff.mp h]; rfl⟩
  rw [Value.bucketAmong, funext hnull]
  rfl

theorem tellsApart_allows (k : Kind) : Value.TellsApart k.Allows :=
  fun _ _ hv hw => hv.isEq_iff hw

/-- Of values that differ there are no more than different values. -/
theorem length_le_distinct {vs keys : List Value} (h : ∀ v ∈ vs, k.Allows v)
    (hnodup : keys.Nodup) (hmem : ∀ v ∈ keys, v ∈ vs) :
    keys.length ≤ (Value.distinct vs).length := by
  obtain ⟨-, hdistinct⟩ := Value.distinct_of_apart (tellsApart_allows k) h
  exact (hnodup.subperm fun v hv => (hdistinct v).mpr (hmem v hv)).length_le

/-! ## Tables -/

namespace Relational

open Plan.Scope (keyIn)
open Tables (Grouped)

variable {column : Column} {rows : List Row} {gs : List (List Value × List Row)}

theorem groupBucket_eq (hrows : rows.length < 2 ^ 53) (h : Grouped (keyIn column) rows gs)
    {g : List Value × List Row} (hg : g ∈ gs) {v : Value} (hkey : g.1 = [v]) :
    groupBucket g = Value.bucketAmong (rows.map column.valueOrNull) v := by
  have hlength : g.2.length = ((rows.map column.valueOrNull).filter (v == ·)).length := by
    rw [h.held g hg, hkey, List.filter_map, List.length_map]
    refine congrArg List.length (List.filter_congr fun row _ => ?_)
    exact congrArg Ordering.isEq Ordering.then_eq
  have hroom : ((rows.map column.valueOrNull).filter (v == ·)).length < 2 ^ 53 :=
    Nat.lt_of_le_of_lt (List.length_filter_le _ _) (List.length_map column.valueOrNull ▸ hrows)
  rw [groupBucket, Value.bucketAmong, hlength, countOf_int hroom, hkey]
  rfl

/-- The groups of a column have a bucket for each of its values. -/
theorem mem_groupBuckets_iff (hrows : rows.length < 2 ^ 53)
    (h : Grouped (keyIn column) rows gs) :
    b ∈ gs.map groupBucket ↔ ∃ v ∈ rows.map column.valueOrNull,
      b = Value.bucketAmong (rows.map column.valueOrNull) v := by
  constructor
  · intro hb
    obtain ⟨g, hg, rfl⟩ := List.mem_map.mp hb
    obtain ⟨row, hrow, hkey⟩ := h.filled g hg
    exact ⟨_, List.mem_map_of_mem hrow, groupBucket_eq hrows h hg hkey.symm⟩
  · rintro ⟨v, hv, rfl⟩
    obtain ⟨row, hrow, rfl⟩ := List.mem_map.mp hv
    obtain ⟨g, hg, hkey⟩ := h.covers row hrow
    exact List.mem_map.mpr ⟨g, hg, groupBucket_eq hrows h hg hkey⟩

theorem length_groups_le (hkind : ∀ row ∈ rows, k.Allows (column.valueOrNull row))
    (h : Grouped (keyIn column) rows gs) :
    gs.length ≤ (Value.distinct (rows.map column.valueOrNull)).length := by
  have hkeys : ∀ g ∈ gs, ∃ row ∈ rows, g.1 = [column.valueOrNull row] := fun g hg =>
    have ⟨row, hrow, hkey⟩ := h.filled g hg
    ⟨row, hrow, hkey.symm⟩
  have hnodup : (gs.map fun g => g.1.headD .null).Nodup := by
    refine List.pairwise_map.mpr (h.distinct.imp_of_mem fun hg hg' hne heq => hne ?_)
    obtain ⟨row, -, hkey⟩ := hkeys _ hg
    obtain ⟨row', -, hkey'⟩ := hkeys _ hg'
    rw [hkey, hkey'] at heq ⊢
    exact congrArg (fun v => [v]) heq
  have hle := length_le_distinct (List.forall_mem_map.mpr hkind) hnodup fun v hv => by
    obtain ⟨g, hg, rfl⟩ := List.mem_map.mp hv
    obtain ⟨row, hrow, hkey⟩ := hkeys g hg
    rw [hkey]
    exact List.mem_map_of_mem hrow
  rwa [List.length_map] at hle

end Relational

/-! ## Documents -/

namespace Documents

open Indices (GroupedAt finds rootParts valuesAt)

variable {found : List (Fields Json)} {cells : List (Indices.Cell Value)}

/-- The value of a cell is that of a record, and not null. -/
theorem key_of_cell (hname : Flat.IsName f) (hkind : ∀ r ∈ found, k.Allows (Flat.value r f))
    (h : GroupedAt f (rootParts (found.map .obj)) cells) {c : Indices.Cell Value} (hc : c ∈ cells) :
    k.Has c.key ∧ ∃ r ∈ found, Flat.value r f = c.key := by
  obtain ⟨hkey, p, hp, hshown⟩ := h.shown c hc
  obtain ⟨r, hr, heq⟩ := List.mem_map.mp (Indices.doc_mem_of_mem_rootParts hp)
  obtain ⟨hvalue, hhas⟩ := Flat.value_of_mem hname (hkind r hr) (heq ▸ hshown)
  rw [← hkey, hvalue]
  exact ⟨hhas, r, hr, rfl⟩

theorem cellBucket_eq (hname : Flat.IsName f) (hkind : ∀ r ∈ found, k.Allows (Flat.value r f))
    (h : GroupedAt f (rootParts (found.map .obj)) cells) {c : Indices.Cell Value} (hc : c ∈ cells) :
    cellBucket c = Value.bucketAmong (found.map (Flat.value · f)) c.key := by
  obtain ⟨hhas, -⟩ := key_of_cell hname hkind h hc
  have hshown := (h.shown c hc).1
  have hkey : c.shown = c.key.toJson := by
    rw [← hshown]
    exact (toJson_ofJson_of_allows (.inr (hshown ▸ hhas))).symm
  have hlength : c.docs.length = ((found.map (Flat.value · f)).filter (c.key == ·)).length := by
    rw [h.docs c hc, Indices.length_filter_rootParts, List.filter_map, List.filter_map,
      List.length_map, List.length_map]
    refine congrArg List.length (List.filter_congr fun r hr => Bool.eq_iff_iff.mpr ?_)
    have hplain : ∀ j ∈ valuesAt (.obj r) f, (Value.ofJson j).IsPlain := fun j hj =>
      have ⟨heq, hvalue⟩ := Flat.value_of_mem hname (hkind r hr) hj
      ⟨k, heq ▸ hvalue⟩
    show finds (.term f c.shown) (.obj r) = true ↔ (c.key == Flat.value r f) = true
    rw [Indices.finds_term_iff hplain ⟨k, hshown ▸ hhas⟩, hshown,
      Flat.values_of_allows hname (hkind r hr), tellsApart_allows k _ _ (.inr hhas) (hkind r hr)]
    split
    · rename_i hnull
      rw [Value.isNull_iff.mp hnull]
      exact ⟨nofun, fun heq => absurd (heq ▸ hhas) k.not_has_null⟩
    · exact List.mem_singleton
  rw [cellBucket, Value.bucketAmong, hlength, hkey]

/-- The groups of a field have a bucket for each of its values that is not null. -/
theorem mem_cellBuckets_iff (hname : Flat.IsName f) (hkind : ∀ r ∈ found, k.Allows (Flat.value r f))
    (h : GroupedAt f (rootParts (found.map .obj)) cells) :
    b ∈ cells.map cellBucket ↔ ∃ v ∈ found.map (Flat.value · f), v ≠ .null ∧
      b = Value.bucketAmong (found.map (Flat.value · f)) v := by
  constructor
  · intro hb
    obtain ⟨c, hc, rfl⟩ := List.mem_map.mp hb
    obtain ⟨hhas, r, hr, hvalue⟩ := key_of_cell hname hkind h hc
    exact ⟨c.key, hvalue ▸ List.mem_map_of_mem hr, fun hnull => k.not_has_null (hnull ▸ hhas),
      cellBucket_eq hname hkind h hc⟩
  · rintro ⟨v, hv, hnull, rfl⟩
    obtain ⟨r, hr, rfl⟩ := List.mem_map.mp hv
    have hvalues := Flat.values_of_allows hname (hkind r hr)
    rw [if_neg fun h => hnull (Value.isNull_iff.mp h)] at hvalues
    obtain ⟨j, hj, hvalue⟩ := List.mem_map.mp (hvalues ▸ List.mem_cons_self)
    obtain ⟨p, hp, hdoc⟩ := Indices.exists_rootPart (List.mem_map_of_mem (f := Json.obj) hr)
    obtain ⟨c, hc, hkey⟩ := h.covers p hp j (hdoc ▸ hj)
    rw [hvalue] at hkey
    exact List.mem_map.mpr ⟨c, hc, hkey ▸ cellBucket_eq hname hkind h hc⟩

theorem length_cells_le (hname : Flat.IsName f) (hkind : ∀ r ∈ found, k.Allows (Flat.value r f))
    (h : GroupedAt f (rootParts (found.map .obj)) cells) :
    cells.length ≤ (Value.distinct (found.map (Flat.value · f))).length := by
  have hkeys : ∀ v ∈ cells.map (·.key), k.Has v ∧ ∃ r ∈ found, Flat.value r f = v :=
    List.forall_mem_map.mpr fun c hc => key_of_cell hname hkind h hc
  have hnodup : (cells.map (·.key)).Nodup := by
    refine List.pairwise_map.mpr (h.rising.imp_of_mem fun hc _ hlt => ?_)
    exact Value.orders_plain.ne_of_lt ⟨k, (key_of_cell hname hkind h hc).1⟩ hlt
  have hle := length_le_distinct (List.forall_mem_map.mpr hkind) hnodup fun v hv => by
    obtain ⟨-, r, hr, rfl⟩ := hkeys v hv
    exact List.mem_map_of_mem hr
  rwa [List.length_map] at hle

end Documents

/-! ## Both stores -/

/-- The rows of a table hold the records as far as a field goes, and criteria select
a row in the table when they select the document of its record. -/
def HoldsAlike (s : Plan.Scope) (c : Criteria) (f : String) (rows : List Row)
    (records : List (Fields Json)) : Prop :=
  List.Forall₂ (fun row r => (Column.plain f).valueOrNull row = Flat.value r f ∧
    (s.Matches c row ↔ Search.Matches s.entity c (.obj r))) rows records

theorem map_eq_of_forall₂ {α β γ : Type} {g : α → γ} {g' : β → γ} {l : List α} {l' : List β}
    (h : List.Forall₂ (fun a b => g a = g' b) l l') : l.map g = l'.map g' :=
  List.forall₂_eq_eq_eq ▸ List.forall₂_map_left_iff.mpr (List.forall₂_map_right_iff.mpr h)

section

variable {s : Plan.Scope} {c : Criteria} {rows : List Row} {records : List (Fields Json)}

theorem HoldsAlike.allows (h : HoldsAlike s c f rows records)
    (hkind : ∀ r ∈ records, k.Allows (Flat.value r f)) :
    ∀ row ∈ rows, k.Allows ((Column.plain f).valueOrNull row) := by
  have hvalues := map_eq_of_forall₂ (h.imp fun _ _ hsame => hsame.1)
  rw [← List.forall_mem_map (P := k.Allows), hvalues]
  exact List.forall_mem_map.mpr hkind

/-- The selected rows have the values of the selected records. -/
theorem HoldsAlike.values {p : Option Predicate} {counts : Json → Bool}
    (h : HoldsAlike s c f rows records) (hp : ∀ row, passes p row = true ↔ s.Matches c row)
    (hcounts : ∀ doc, counts doc = true ↔ Search.Matches s.entity c doc) :
    (rows.filter (passes p)).map (Column.plain f).valueOrNull =
      (records.filter fun r => counts (.obj r)).map (Flat.value · f) := by
  have hselected := List.rel_filter (p := passes p) (q := fun r => counts (.obj r))
    (fun row r hsame => ((hp row).trans hsame.2).trans (hcounts (.obj r)).symm) h
  exact map_eq_of_forall₂ (hselected.imp fun _ _ hsame => hsame.1)

end

/-- Where a table and an index hold the same records and select the same ones, a
terms aggregation that may have a bucket for each of their values counts each value
alike in both. Only the table has one more bucket, for the records without a
value, if there are any. -/
theorem records_without_a_value_have_a_bucket_in_a_table_alone (entity : Entity)
    (settings : Settings) (c : Criteria) (hc : c.OnlyFilters)
    (hnames : (c.aggregations.map Aggregation.name).Nodup) (k : Kind) {f : String}
    (hname : Flat.IsName f) {a : Aggregation} (ha : a ∈ c.aggregations) (hkind : a.kind = .terms)
    (htarget : a.target = .field f) {s : Relational.State Tables.Engine} {t : Tables.Table}
    {engine : Indices.Engine} {ix : Indices.Index} {records : List (Fields Json)}
    (hfaults : s.timed.state.faults = []) (ht : s.timed.state.tables.find entity.storage = .ok t)
    (hix : engine.find entity.storage = .ok ix) (hrows : t.rows.length < 2 ^ 53)
    (hdocuments : ix.documents.map (·.source) = records.map .obj)
    (hvalues : ∀ r ∈ records, k.Allows (Flat.value r f))
    (halike : HoldsAlike ⟨entity, Relational.knownColumns entity t s, []⟩ c f t.rows records)
    {out out' : Outcome} (h : (((Relational.inMemory entity settings).search c).on s).1 = .ok out)
    (h' : (((Documents.inMemory entity settings).search c).on engine).1 = .ok out') :
    ∃ counts : Json → Bool, (∀ doc, counts doc = true ↔ Search.Matches entity c doc) ∧
      let vs := (records.filter fun r => counts (.obj r)).map (Flat.value · f)
      ((Value.distinct vs).length ≤ a.bucketLimit.getD (settings.bucketLimitFor f) →
        ∃ bs bs', out.aggregations.get? a.name = some (.buckets bs) ∧
          out'.aggregations.get? a.name = some (.buckets bs') ∧ (∀ b ∈ bs', b.key ≠ .null) ∧
          ∀ b, b ∈ bs ↔ b ∈ bs' ∨ .null ∈ vs ∧
            b = { key := .null, count := (vs.filter Value.isNull).length }) := by
  have hs : Relational.Holds True entity t (Relational.knownColumns entity t s)
      s.timed.state.tables s := ⟨⟨rfl, fun _ => hfaults⟩, ht, rfl⟩
  have hplain : ∀ d ∈ ix.documents, ∀ j ∈ Indices.valuesAt d.source f,
      (Value.ofJson j).IsPlain := by
    intro d hd j hj
    obtain ⟨r, hr, heq⟩ := List.mem_map.mp (hdocuments ▸ List.mem_map_of_mem hd)
    obtain ⟨hvalue, hhas⟩ := Flat.value_of_mem hname (hvalues r hr) (heq ▸ hj)
    exact ⟨k, hvalue ▸ hhas⟩
  obtain ⟨i, hi⟩ := List.mem_iff_getElem?.mp ha
  obtain ⟨p, hp, gs, shown, hgroups, hperm, hget⟩ := Relational.buckets_of_search hc hs hname
    (halike.allows hvalues) hi hkind htarget
    ((Documents.namesApart_of_nodup hc.collapse hnames).keepsName hi).1 h
  obtain ⟨counts, hcounts, cells, shown', hcells, hperm', hget'⟩ :=
    Documents.buckets_of_search hc hnames hix hname hplain ha hkind htarget h'
  have hsame := halike.values hp hcounts
  rw [hdocuments, List.filter_map] at hcells
  let found := records.filter fun r => counts (.obj r)
  have hfound : ∀ r ∈ found, k.Allows (Flat.value r f) :=
    fun r hr => hvalues r (List.mem_filter.mp hr).1
  have hallowed : ∀ row ∈ t.rows.filter (passes p), k.Allows ((Column.plain f).valueOrNull row) :=
    fun row hrow => halike.allows hvalues row (List.mem_filter.mp hrow).1
  refine ⟨counts, hcounts, fun hlimit => ⟨_, _, hget, hget', ?_⟩⟩
  -- Neither store leaves out a bucket.
  have hgroupsLe := Relational.length_groups_le hallowed hgroups
  rw [hsame, ← hperm.length_eq] at hgroupsLe
  have hcellsLe := Documents.length_cells_le hname hfound hcells
  rw [← hperm'.length_eq] at hcellsLe
  rw [List.take_of_length_le (Nat.le_trans hgroupsLe hlimit),
    List.take_of_length_le (Nat.le_trans hcellsLe hlimit)]
  have htable : ∀ b, b ∈ shown.map Relational.groupBucket ↔ ∃ v ∈ found.map (Flat.value · f),
      b = Value.bucketAmong (found.map (Flat.value · f)) v := fun b => by
    rw [(hperm.map _).mem_iff, ← hsame]
    exact Relational.mem_groupBuckets_iff
      (Nat.lt_of_le_of_lt (List.length_filter_le _ _) hrows) hgroups
  have hindex : ∀ b, b ∈ shown'.map Documents.cellBucket ↔ ∃ v ∈ found.map (Flat.value · f),
      v ≠ .null ∧ b = Value.bucketAmong (found.map (Flat.value · f)) v := fun b => by
    rw [(hperm'.map _).mem_iff]
    exact Documents.mem_cellBuckets_iff hname hfound hcells
  refine ⟨fun b hb => ?_, fun b => ?_⟩
  · obtain ⟨v, hv, hnull, rfl⟩ := (hindex b).mp hb
    obtain ⟨r, hr, rfl⟩ := List.mem_map.mp hv
    exact ((hfound r hr).resolve_left hnull).toJson_ne_null
  · rw [htable, hindex, ← Value.bucketAmong_null]
    constructor
    · rintro ⟨v, hv, rfl⟩
      by_cases hnull : v = .null
      · exact .inr ⟨hnull ▸ hv, hnull ▸ rfl⟩
      · exact .inl ⟨v, hv, hnull, rfl⟩
    · rintro (⟨v, hv, -, rfl⟩ | ⟨hnull, rfl⟩)
      · exact ⟨v, hv, rfl⟩
      · exact ⟨.null, hnull, rfl⟩

/-- The product on the first shelf has no color. A table counts it under null, an
index nowhere. -/
theorem a_product_without_a_color_is_counted_by_a_table :
    let entity : Entity := { name := "product", storage := "products" }
    let colors : Criteria := { aggregations := [.terms "color"] }
    let c := colors.narrowed "shelf" (.int 1)
    let plain : Fields Json := [("id", .int 1), ("shelf", .int 1)]
    let red : Fields Json := [("color", .str "red"), ("id", .int 2), ("shelf", .int 2)]
    let t : Tables.Table := {
      shape := .make "products" "id" [("color", .text), ("shelf", .integer)] []
      rows := [[("color", .null), ("id", .int 1), ("shelf", .int 1)],
        [("color", .text "red"), ("id", .int 2), ("shelf", .int 2)]] }
    let s : Relational.State Tables.Engine := .initial {} { tables := [("products", t)] }
    let engine : Indices.Engine :=
      { indices := [("products", { documents := [⟨"1", .obj plain⟩, ⟨"2", .obj red⟩] })] }
    ∃ out out' bs bs', (((Relational.inMemory entity {}).search c).on s).1 = .ok out ∧
      (((Documents.inMemory entity {}).search c).on engine).1 = .ok out' ∧
      out.aggregations.get? "color" = some (.buckets bs) ∧
      out'.aggregations.get? "color" = some (.buckets bs') ∧
      { key := .null, count := 1 } ∈ bs ∧ ∀ b ∈ bs', b.key ≠ .null := by
  intro entity colors c plain red t s engine
  let scope : Plan.Scope := ⟨entity, Relational.knownColumns entity t s, []⟩
  have hall : ∀ row doc, scope.Matches colors row ↔ Search.Matches entity colors doc :=
    fun _ _ => ⟨fun _ => ⟨nofun, nofun, nofun⟩, fun _ => ⟨nofun, nofun, nofun⟩⟩
  have hselect : ∀ row doc, ((Predicate.eq (.plain "shelf") (.int 1)).holds row = true ↔
      Indices.finds (Search.termOf "shelf" (.int 1)) doc = true) →
      (scope.Matches c row ↔ Search.Matches entity c doc) := fun row doc hiff => by
    have hresolve : scope.resolve .filter "shelf" = .ok (.plain "shelf") := by rfl
    rw [Plan.Scope.matches_narrowed_iff hresolve (by decide +kernel),
      Search.matches_narrowed_iff (by decide)]
    exact and_congr (hall row doc) hiff
  have halike : HoldsAlike scope c "color" t.rows [plain, red] :=
    .cons ⟨rfl, hselect _ _ (by decide +kernel)⟩
      (.cons ⟨rfl, hselect _ _ (by decide +kernel)⟩ .nil)
  obtain ⟨out, hout, -⟩ :
      ∃ out, (((Relational.inMemory entity {}).search c).on s).1 = .ok out ∧ _ :=
    exists_of_any (p := fun _ => true) (by decide +kernel)
  obtain ⟨out', hout', -⟩ :
      ∃ out, (((Documents.inMemory entity {}).search c).on engine).1 = .ok out ∧ _ :=
    exists_of_any (p := fun _ => true) (by decide +kernel)
  obtain ⟨counts, hcounts, hbuckets⟩ :=
    records_without_a_value_have_a_bucket_in_a_table_alone entity {} c ⟨rfl, rfl, rfl, rfl, rfl, rfl⟩ (by decide) .text (f := "color") (by decide)
    (a := .terms "color") List.mem_cons_self rfl rfl rfl rfl rfl (by decide) rfl
    (by decide +kernel) halike hout hout'
  obtain rfl : counts = Indices.finds (Search.termOf "shelf" (.int 1)) := funext fun doc =>
    Bool.eq_iff_iff.mpr (((hcounts doc).trans (Search.matches_narrowed_iff (by decide))).trans
      ⟨And.right, fun hfinds => ⟨⟨nofun, nofun, nofun⟩, hfinds⟩⟩)
  have hplain : Indices.finds (Search.termOf "shelf" (.int 1)) (.obj plain) = true := by
    decide +kernel
  have hred : Indices.finds (Search.termOf "shelf" (.int 1)) (.obj red) = false := by
    decide +kernel
  have hnull : Flat.value plain "color" = .null := Value.isNull_iff.mp (by decide +kernel)
  have hvalues : ([plain, red].filter fun r => Indices.finds (Search.termOf "shelf" (.int 1))
      (.obj r)).map (Flat.value · "color") = [.null] := by
    simp only [List.filter_cons, List.filter_nil, hplain, hred, if_true, Bool.false_eq_true,
      if_false, List.map_cons, List.map_nil, hnull]
  obtain ⟨bs, bs', hbs, hbs', hkeys, hboth⟩ := hbuckets (by rw [hvalues]; decide)
  rw [hvalues] at hboth
  exact ⟨out, out', bs, bs', hout, hout', hbs, hbs',
    (hboth _).mpr (.inr ⟨List.mem_cons_self, rfl⟩), hkeys⟩

end EntityStore
