-- The columns that a search over tables puts out. They are the fields that its
-- criteria ask for. Where the criteria exclude all fields that they ask for, no
-- output is left, and no outputs stand for all columns.
import EntityStore.Proofs.Store.Answers
import EntityStore.Proofs.Tables.Pages
import EntityStore.Proofs.Tables.Steps

namespace EntityStore

open Sql (Column Item Query)

/-! ## Fields that are asked for -/

namespace Criteria

/-- The fields that criteria ask for of these columns: those that they include, or
all, without those that they exclude. -/
def asked (c : Criteria) (columns : List String) : List String :=
  (if c.included.isEmpty then columns else c.included).filter fun f => !c.excluded.contains f

/-- The columns that are shown. Where no field is left, all are. -/
def shownColumns (c : Criteria) (columns : List String) : List String :=
  if (c.asked columns).isEmpty then columns else c.asked columns

end Criteria

namespace Plan.Scope

variable {s : Scope} {c : Criteria} {items : List Item}

theorem shownColumns_eq (s : Scope) (c : Criteria) :
    c.shownColumns (Fields.keys s.columns) =
      if (s.outputFields c).isEmpty then Fields.keys s.columns else s.outputFields c := by
  unfold Criteria.shownColumns Criteria.asked outputFields
  cases hincluded : c.included.isEmpty
  · rfl
  · cases hexcluded : c.excluded.isEmpty
    · rfl
    · have hall : (Fields.keys s.columns).filter (fun f => !c.excluded.contains f) =
          Fields.keys s.columns := by
        rw [List.isEmpty_iff.mp hexcluded]
        exact List.filter_eq_self.mpr fun _ _ => rfl
      simp only [if_true, Bool.not_true, Bool.false_eq_true, if_false, List.isEmpty_nil, hall,
        ite_self]

theorem mem_of_mem_outputFields {f : String} (h : f ∈ s.outputFields c) :
    f ∈ c.included ∨ f ∈ Fields.keys s.columns := by
  unfold outputFields at h
  split at h
  · exact .inl (List.mem_filter.mp h).1
  · split at h
    · cases h
    · exact .inr (List.mem_filter.mp h).1

/-- Without raw outputs each output is the column of a field. -/
theorem outputs_eq_ok (hraw : c.rawItems = []) (h : s.outputs c = .ok items) :
    ∃ columns, (s.outputFields c).mapM (s.resolve .output) = .ok columns ∧
      items = columns.map (Item.column · none) := by
  obtain ⟨columns, hcolumns, h⟩ := bind_eq_ok_iff.mp h
  dsimp only at h
  rw [hraw, if_pos List.isEmpty_nil] at h
  exact ⟨columns, hcolumns, (Except.ok.inj h).symm⟩

end Plan.Scope

/-! ## Rows that are put out -/

namespace Tables

variable {ts : Tables} {q : Query} {t : Table} {rows : List Row} {stored row : Row}
  {columns : List Column}

theorem mem_keys_bareColumns {f : String} : f ∈ Fields.keys (bareColumns stored) ↔
    f ∈ Fields.keys stored ∧ Text.hasChar '.' f = false := by
  rw [bareColumns, Fields.keys, List.mem_map, Fields.keys, List.mem_map]
  constructor
  · rintro ⟨p, hp, rfl⟩
    obtain ⟨hp, hname⟩ := List.mem_filter.mp hp
    exact ⟨⟨p, hp, rfl⟩, by simpa using hname⟩
  · rintro ⟨⟨p, hp, rfl⟩, hname⟩
    exact ⟨p, List.mem_filter.mpr ⟨hp, by simpa using hname⟩, rfl⟩

/-- A row that is put out has the names of the outputs. -/
theorem mem_keys_of_outputRow (hitems : q.items = columns.map (Item.column · none))
    (hcolumns : columns ≠ []) (h : outputRow q stored = .ok row) (f : String) :
    f ∈ Fields.keys row ↔ f ∈ columns.map Column.leaf := by
  have hsome : ¬ q.items.isEmpty = true := by simpa [hitems] using hcolumns
  have hread : q.items.mapM (itemColumns q stored) =
      .ok (q.items.map fun item => (itemColumns q stored item).toOption.getD []) := by
    refine mapM_eq_ok fun item hitem => ?_
    rw [hitems] at hitem
    obtain ⟨c, -, rfl⟩ := List.mem_map.mp hitem
    rfl
  have hflat : (columns.map fun c => [(c.leaf, c.valueOrNull stored)]).flatten =
      columns.map fun c => (c.leaf, c.valueOrNull stored) := by
    rw [← List.flatMap_def, List.map_eq_flatMap]
  rw [outputRow, if_neg hsome, hread, hitems, List.map_map] at h
  cases h
  show f ∈ Fields.keys (Fields.ofList
    (columns.map fun c => [(c.leaf, c.valueOrNull stored)]).flatten) ↔ _
  rw [hflat, Fields.mem_keys_ofList, Fields.keys, List.map_map]
  rfl

theorem mem_of_sourceRows (ht : ts.find q.table = .ok t) (hjoins : q.joins = [])
    (h : sourceRows ts q = .ok rows) (hrow : row ∈ rows) : row ∈ t.rows := by
  obtain ⟨base, hbase, h⟩ := bind_eq_ok_iff.mp h
  cases ht.symm.trans hbase
  dsimp only at h
  rw [hjoins, if_pos List.isEmpty_nil] at h
  cases h
  split at hrow
  · exact (List.mem_filter.mp hrow).1
  · exact hrow

/-- A query of one table without groups puts out its rows. -/
theorem exists_stored_of_select (ht : ts.find q.table = .ok t) (hjoins : q.joins = [])
    (hgrouped : isGrouped q = false) (h : select ts q = .ok rows) (hrow : row ∈ rows) :
    ∃ stored ∈ t.rows, outputRow q stored = .ok row := by
  obtain ⟨source, hsource, h⟩ := bind_eq_ok_iff.mp h
  obtain ⟨out, hout, h⟩ := bind_eq_ok_iff.mp h
  cases h
  have hmem : row ∈ out := by
    have hslice := mem_of_mem_slice hrow
    split at hslice
    · exact (eraseDups_sublist out).subset hslice
    · exact hslice
  rw [outputRows, hgrouped] at hout
  obtain ⟨stored, hstored, hput⟩ := exists_of_mem_mapM hout hmem
  refine ⟨stored, mem_of_sourceRows ht hjoins hsource (List.mem_mergeSort.mp hstored), hput⟩

end Tables

/-! ## Searches -/

namespace Relational

variable {entity : Entity} {settings : Settings} {columns : Columns} {c : Criteria}

theorem leaves_of_resolve {fs : List String} (hnames : ∀ f ∈ fs, Text.hasChar '.' f = false)
    {found : List Column}
    (h : fs.mapM (((inMemory entity settings).scope columns).resolve .output) = .ok found) :
    found.map Column.leaf = fs := by
  have hleaves : found.map Column.leaf = fs.map id :=
    map_eq_of_mem_mapM h fun f hf column hcolumn =>
      congrArg Column.leaf (eq_plain_of_resolve (hnames f hf) hcolumn)
  rwa [List.map_id] at hleaves

theorem isGrouped_of_columns {q : Query} {found : List Column} (hgroups : q.groupBy = [])
    (hitems : q.items = found.map (Item.column · none)) : Tables.isGrouped q = false := by
  rw [Tables.isGrouped, hgroups, hitems, List.any_map]
  simp [Item.isAggregate]

/-- A page of one table that is neither grouped nor has raw outputs puts out the
columns of fields. -/
theorem columns_of_page {plan : Plan}
    (h : ((inMemory entity settings).scope columns).plan settings c = .ok plan)
    (hraw : c.rawItems = []) (hgroups : c.groupBy = []) (hjoins : c.joins = []) :
    ∃ found, (((inMemory entity settings).scope columns).outputFields c).mapM
        (((inMemory entity settings).scope columns).resolve .output) = .ok found ∧
      plan.page.items = found.map (Item.column · none) ∧
      plan.page.joins = [] ∧ Tables.isGrouped plan.page = false := by
  obtain ⟨items, groupBy, common, post, hplanned⟩ := Plan.Scope.planned_of_plan h
  rw [hjoins] at hplanned
  obtain ⟨p, orders, limit, offset, hpage⟩ := hplanned.page_base
  obtain ⟨found, hfound, rfl⟩ := Plan.Scope.outputs_eq_ok hraw hplanned.items_eq
  have hungrouped : groupBy = [] := by
    have hgroupBy := hplanned.groupBy_eq
    rw [hgroups] at hgroupBy
    exact (Except.ok.inj hgroupBy).symm
  have hitems : plan.page.items = found.map (Item.column · none) := by rw [hpage]; rfl
  refine ⟨found, hfound, hitems, by rw [hpage]; exact hjoins, ?_⟩
  exact isGrouped_of_columns (by rw [hpage]; exact hungrouped) hitems

/-- From rows that have the columns of their table such a page makes rows of the
columns that are shown. -/
theorem mem_keys_of_page {t : Tables.Table} {ts : Tables} (ht : ts.find entity.storage = .ok t)
    (hrows : ∀ row ∈ t.rows, ∀ f, f ∈ Fields.keys row ↔ f ∈ Fields.keys columns)
    (hnames : ∀ f ∈ Fields.keys columns, Text.hasChar '.' f = false)
    (hincluded : ∀ f ∈ c.included, Text.hasChar '.' f = false)
    (hraw : c.rawItems = []) (hgroups : c.groupBy = []) (hjoins : c.joins = []) {plan : Plan}
    (hplan : ((inMemory entity settings).scope columns).plan settings c = .ok plan)
    {rows : List Row} (hselect : Tables.select ts plan.page = .ok rows) {row : Row}
    (hrow : row ∈ rows) (f : String) :
    f ∈ Fields.keys row ↔ f ∈ c.shownColumns (Fields.keys columns) := by
  have htable : plan.page.table = entity.storage := table_of_plan hplan
  obtain ⟨found, hfound, hitems, hpageJoins, hgrouped⟩ :=
    columns_of_page hplan hraw hgroups hjoins
  obtain ⟨stored, hstored, hput⟩ :=
    Tables.exists_stored_of_select (htable ▸ ht) hpageJoins hgrouped hselect hrow
  have hfields : ∀ f ∈ ((inMemory entity settings).scope columns).outputFields c,
      Text.hasChar '.' f = false := by
    intro f hf
    rcases Plan.Scope.mem_of_mem_outputFields hf with hf | hf
    · exact hincluded f hf
    · exact hnames f hf
  have hshown : c.shownColumns (Fields.keys columns) =
      if (found.map Column.leaf).isEmpty then Fields.keys columns else found.map Column.leaf := by
    rw [leaves_of_resolve hfields hfound]
    exact Plan.Scope.shownColumns_eq ((inMemory entity settings).scope columns) c
  rw [hshown]
  cases found with
  | nil =>
    have hall : Tables.outputRow plan.page stored = .ok (Tables.bareColumns stored) := by
      rw [Tables.outputRow, hitems]
      rfl
    cases hall.symm.trans hput
    rw [List.map_nil, List.isEmpty_nil, if_pos rfl, Tables.mem_keys_bareColumns,
      hrows stored hstored]
    exact ⟨fun hf => hf.1, fun hf => ⟨hf, hnames f hf⟩⟩
  | cons column rest =>
    exact Tables.mem_keys_of_outputRow hitems (List.cons_ne_nil column rest) hput f

/-- A search over a table whose columns are known puts out the fields that its
criteria ask for, and nothing else. Where they exclude all that they ask for,
each row comes with all columns. -/
theorem a_search_puts_out_what_it_is_asked_for_or_all_columns (entity : Entity)
    (settings : Settings) (e : Tables.Engine) (steps : List Tables.Step) {shape : Tables.Shape}
    (hstorage : shape.name = entity.storage)
    (hkey : shape.primaryKey ∈ Fields.keys shape.columns)
    (hnames : ∀ f ∈ Fields.keys shape.columns, Text.hasChar '.' f = false)
    {s : State Tables.Engine}
    (hstate : s.timed.state = steps.foldl Tables.Step.run (e.create shape))
    (hknown : Fields.keys (knownColumns entity { shape := shape } s) = Fields.keys shape.columns)
    {c : Criteria} (hincluded : ∀ f ∈ c.included, Text.hasChar '.' f = false)
    (hraw : c.rawItems = []) (hgroups : c.groupBy = []) (hjoins : c.joins = [])
    {out : Outcome} (hsearch : (((inMemory entity settings).search c).on s).1 = .ok out) :
    ∀ row ∈ out.rows,
      (c.asked (Fields.keys shape.columns) ≠ [] →
        ∀ f, f ∈ Fields.keys row ↔ f ∈ c.asked (Fields.keys shape.columns)) ∧
      (c.asked (Fields.keys shape.columns) = [] →
        ∀ f, f ∈ Fields.keys row ↔ f ∈ Fields.keys shape.columns) := by
  obtain ⟨t, ht, hshape, hfits⟩ := Tables.has_complete e hkey steps
  rw [hstorage, ← hstate] at ht
  obtain ⟨columns, plan, rows, hcolumns, hplan, hselect, hout, -⟩ := exists_answer_of_search hsearch
  have hfound : columns = knownColumns entity t s := by
    have hs : Holds False entity t (knownColumns entity t s) s.timed.state.tables s :=
      ⟨⟨rfl, nofun⟩, ht, rfl⟩
    exact (leads_columns.of_ok hs (Prod.ext hcolumns rfl)).1
  have hkeys : Fields.keys columns = Fields.keys shape.columns := by
    rw [hfound, ← hknown, knownColumns, knownColumns, hshape]
  intro row hrow
  rw [hout] at hrow
  obtain ⟨stored, hstored, rfl⟩ := List.mem_map.mp hrow
  have hrowKeys : Fields.keys (Row.toJson stored) = Fields.keys stored := by
    rw [Row.toJson, Fields.mapValues, Fields.keys, Fields.keys, List.map_map]
    rfl
  have hmem : ∀ f, f ∈ Fields.keys stored ↔ f ∈ c.shownColumns (Fields.keys shape.columns) := by
    rw [← hkeys] at hnames ⊢
    exact mem_keys_of_page ht (fun row hrow f => hkeys ▸ hfits row hrow f) hnames hincluded hraw
      hgroups hjoins hplan hselect hstored
  rw [hrowKeys]
  constructor
  · intro hsome f
    rw [hmem f, Criteria.shownColumns, if_neg fun hnone => hsome (List.isEmpty_iff.mp hnone)]
  · intro hnone f
    rw [hmem f, Criteria.shownColumns, if_pos (List.isEmpty_iff.mpr hnone)]

/-- Of a product its name is shown, and the price that is excluded is not. Where
nothing but the price is asked for, it is shown with all else. -/
theorem an_excluded_price_is_shown_where_nothing_is_left :
    let entity : Entity := { name := "product", storage := "products" }
    let shape := Tables.Shape.make "products" "id" [("name", .text), ("price", .integer)] []
    let steps : List Tables.Step :=
      [.seed "products" [.obj [("id", .int 1), ("name", .str "Oak"), ("price", .int 5)]]]
    let s : State Tables.Engine := .initial {} (steps.foldl Tables.Step.run (.create {} shape))
    let named : Criteria := { included := ["name", "price", "name"], excluded := ["price"] }
    let nothing : Criteria := { included := ["price"], excluded := ["price"] }
    (∃ out, (((inMemory entity {}).search named).on s).1 = .ok out ∧ out.rows.length = 1 ∧
      ∀ row ∈ out.rows, ∀ f, f ∈ Fields.keys row ↔ f ∈ ["name", "name"]) ∧
    ∃ out, (((inMemory entity {}).search nothing).on s).1 = .ok out ∧ out.rows.length = 1 ∧
      ∀ row ∈ out.rows, "price" ∈ Fields.keys row := by
  intro entity shape steps s named nothing
  have hkey : shape.primaryKey ∈ Fields.keys shape.columns := by decide
  have hnames : ∀ f ∈ Fields.keys shape.columns, Text.hasChar '.' f = false := by decide
  have hstate : s.timed.state = steps.foldl Tables.Step.run (Tables.Engine.create {} shape) := rfl
  have hknown : Fields.keys (knownColumns entity { shape := shape } s) =
      Fields.keys shape.columns := rfl
  constructor
  · obtain ⟨out, hout, hlength⟩ : ∃ out, (((inMemory entity {}).search named).on s).1 = .ok out ∧
        (out.rows.length == 1) = true := exists_of_any (by decide +kernel)
    refine ⟨out, hout, beq_iff_eq.mp hlength, fun row hrow => ?_⟩
    have hincluded : ∀ f ∈ named.included, Text.hasChar '.' f = false := by decide
    exact (a_search_puts_out_what_it_is_asked_for_or_all_columns entity {} {} steps rfl hkey hnames
      hstate hknown hincluded rfl rfl rfl hout row hrow).1 (by decide)
  · obtain ⟨out, hout, hlength⟩ : ∃ out, (((inMemory entity {}).search nothing).on s).1 = .ok out ∧
        (out.rows.length == 1) = true := exists_of_any (by decide +kernel)
    refine ⟨out, hout, beq_iff_eq.mp hlength, fun row hrow => ?_⟩
    have hincluded : ∀ f ∈ nothing.included, Text.hasChar '.' f = false := by decide
    have hall := (a_search_puts_out_what_it_is_asked_for_or_all_columns entity {} {} steps rfl hkey
      hnames hstate hknown hincluded rfl rfl rfl hout row hrow).2 (by decide)
    exact (hall "price").mpr (by decide)

end Relational

end EntityStore
