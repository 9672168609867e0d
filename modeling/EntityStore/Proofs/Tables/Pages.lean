-- A page of one table: the rows that pass the predicate, in the order of the sorts, and how
-- many they are. A count of groups counts groups, so groups that look alike make the
-- difference.
import EntityStore.Proofs.Fallible
import EntityStore.Proofs.Sql.Evaluation
import EntityStore.Tables.Queries

namespace EntityStore

/-- The query for all columns of the rows that pass a predicate. -/
def Sql.Query.ofTable (table : String) (p : Option Sql.Predicate) : Sql.Query where
  table := table
  predicate := p

/-- The query for a part of these rows, in the order of the sorts. -/
def Sql.Query.ofPage (table : String) (p : Option Sql.Predicate)
    (orders : List (Sql.Column × Sql.Direction)) (limit : Option Nat) (offset : Nat) :
    Sql.Query where
  table := table
  predicate := p
  orderBy := orders
  limit := limit
  offset := offset

namespace Tables

open Sql (Column Direction Predicate Query passes)

variable {ts : Tables} {table : String} {t : Table} {p : Option Predicate}
  {orders : List (Column × Direction)}

/-- The order of two values under one column. -/
def valueOrder (d : Direction) (v w : Value) : Ordering :=
  match d with
  | .asc => Value.sortOrder v w
  | .desc => Value.sortOrder w v

/-- The first column that tells two rows apart decides on their order. -/
theorem orderBy_cons (c : Column) (d : Direction) (orders : List (Column × Direction))
    (a b : Column → Value) :
    orderBy ((c, d) :: orders) a b = (valueOrder d (a c) (b c)).then (orderBy orders a b) := by
  let step (o : Ordering) (p : Column × Direction) : Ordering :=
    o.then (valueOrder p.2 (a p.1) (b p.1))
  have hfold : ∀ o, orders.foldl step o = o.then (orders.foldl step .eq) := by
    induction orders with
    | nil => exact fun o => Ordering.then_eq.symm
    | cons p orders ih =>
      intro o
      rw [List.foldl_cons, List.foldl_cons, ih (step o p), ih (step .eq p), ← Ordering.then_assoc]
      rfl
  exact hfold _

/-- One row does not come behind another one. -/
def ranks (orders : List (Column × Direction)) (a b : Row) : Bool :=
  (orderBy orders (·.valueOrNull a) (·.valueOrNull b)).isLE

theorem sourceRows_ofPage (ht : ts.find table = .ok t) (limit : Option Nat) (offset : Nat) :
    sourceRows ts (.ofPage table p orders limit offset) = .ok (t.rows.filter (passes p)) := by
  cases p with
  | none =>
    have hsource : sourceRows ts (.ofPage table none orders limit offset) = do
      let base ← ts.find table
      return base.rows := rfl
    rw [hsource, ht]
    exact congrArg Except.ok (List.filter_eq_self.mpr fun _ _ => rfl).symm
  | some p =>
    have hsource : sourceRows ts (.ofPage table (some p) orders limit offset) = do
      let base ← ts.find table
      return base.rows.filter fun row => p.holds row := rfl
    rw [hsource, ht]
    rfl

theorem select_ofPage (ht : ts.find table = .ok t) (limit : Option Nat) (offset : Nat) :
    select ts (.ofPage table p orders limit offset) =
      .ok (slice offset limit (((t.rows.filter (passes p)).mergeSort (ranks orders)).map
        bareColumns)) := by
  have hout : ∀ rows, outputRows (.ofPage table p orders limit offset) rows =
      .ok ((rows.mergeSort (ranks orders)).map bareColumns) := by
    intro rows
    have hsorted : outputRows (.ofPage table p orders limit offset) rows =
        (rows.mergeSort (ranks orders)).mapM fun row => .ok (bareColumns row) := rfl
    rw [hsorted]
    exact mapM_eq_ok fun _ _ => rfl
  rw [select, sourceRows_ofPage ht]
  exact bind_eq_ok_iff.mpr ⟨_, rfl, bind_eq_ok_iff.mpr ⟨_, hout _, rfl⟩⟩

theorem slice_map {α β : Type} (offset : Nat) (limit : Option Nat) (f : α → β) (xs : List α) :
    slice offset limit (xs.map f) = (slice offset limit xs).map f := by
  cases limit with
  | none => exact List.map_drop.symm
  | some n => rw [slice, slice, List.map_take, List.map_drop]

theorem mem_of_mem_slice {α : Type} {offset : Nat} {limit : Option Nat} {xs : List α} {x : α}
    (h : x ∈ slice offset limit xs) : x ∈ xs := by
  cases limit with
  | none => exact List.mem_of_mem_drop h
  | some n => exact List.mem_of_mem_drop (List.mem_of_mem_take h)

/-- Parts of one length after one another are a beginning of the list. -/
theorem flatten_slices {α : Type} (n k : Nat) (xs : List α) :
    ((List.range k).map fun i => slice (i * n) (some n) xs).flatten = xs.take (k * n) := by
  induction k with
  | zero => simp
  | succ k ih =>
    rw [List.range_succ, List.map_append, List.flatten_append, ih, Nat.succ_mul, List.take_add]
    simp [slice]

/-! ## Any query -/

/-- All rows that a query puts out, whatever part of them is asked for. -/
def selectAll (ts : Tables) (q : Query) : Except TableFault (List Row) := do
  let rows ← sourceRows ts q
  let out ← outputRows q rows
  return if q.distinct then out.eraseDups else out

theorem select_eq (ts : Tables) (q : Query) :
    select ts q = (selectAll ts q).map (slice q.offset q.limit) := by
  unfold select selectAll
  cases sourceRows ts q with
  | error f => rfl
  | ok rows =>
    simp only [Bind.bind, Except.bind]
    cases outputRows q rows <;> rfl

theorem count_ofTable (ht : ts.find table = .ok t) :
    count ts (.ofTable table p) = .ok (t.rows.filter (passes p)).length := by
  have hpage : Query.ofTable table p = .ofPage table p [] none 0 := rfl
  rw [count, hpage, sourceRows_ofPage ht]
  rfl

end Tables

end EntityStore

namespace EntityStore

namespace Sql.Query

/-- The query without an order and a page. -/
def whole (q : Query) : Query := { q with orderBy := [], limit := none, offset := 0 }

/-- The query for all its rows, also for those that look alike. -/
def withAlike (q : Query) : Query := { q with distinct := false }

end Sql.Query

namespace Tables

open Sql (Item Query)

/-! ## Different rows -/

section

variable {α : Type} [BEq α]

/-- No entry equals an earlier one. -/
def AllDiffer (xs : List α) : Prop := xs.Pairwise fun x y => (y == x) = false

theorem eraseDups_sublist (xs : List α) : xs.eraseDups.Sublist xs := by
  induction h : xs.length using Nat.strongRecOn generalizing xs with
  | ind n ih =>
    cases xs with
    | nil => exact .slnil
    | cons x rest =>
      rw [List.length_cons] at h
      have hfilter := List.length_filter_le (fun y => !y == x) rest
      have hrest := ih _ (by omega) (rest.filter fun y => !y == x) rfl
      rw [List.eraseDups_cons]
      exact (hrest.trans List.filter_sublist).cons_cons x

theorem length_eraseDups_le (xs : List α) : xs.eraseDups.length ≤ xs.length :=
  (eraseDups_sublist xs).length_le

/-- Nothing is left out just where all entries differ. -/
theorem length_eraseDups_eq_iff (xs : List α) :
    xs.eraseDups.length = xs.length ↔ AllDiffer xs := by
  induction xs with
  | nil => exact ⟨fun _ => .nil, fun _ => rfl⟩
  | cons x rest ih =>
    have hkept : (∀ y ∈ rest, (y == x) = false) ↔ (rest.filter fun y => !y == x) = rest := by
      simp [List.filter_eq_self]
    rw [AllDiffer, List.pairwise_cons, ← AllDiffer, ← ih, hkept, List.eraseDups_cons,
      List.length_cons, List.length_cons]
    constructor
    · intro h
      have hle := length_eraseDups_le (rest.filter fun y => !y == x)
      have hfilter := List.length_filter_le (fun y => !y == x) rest
      have heq : (rest.filter fun y => !y == x) = rest :=
        List.filter_sublist.eq_of_length (by omega)
      rw [heq] at h
      exact ⟨heq, Nat.succ.inj h⟩
    · rintro ⟨heq, h⟩
      rw [heq, h]

end

/-! ## Outputs without an order -/

variable {ts : Tables} {q : Query} {rows out : List Row}

theorem mergeSort_unordered {α : Type} (le : α → α → Bool) (h : ∀ x y, le x y = true)
    (xs : List α) : xs.mergeSort le = xs :=
  List.mergeSort_of_pairwise (List.pairwise_of_forall h)

/-- Without groups each row is put out. -/
theorem outputRows_of_rows (hitems : q.items.any Item.isAggregate = false)
    (hgroups : q.groupBy = []) :
    outputRows q.whole rows = rows.mapM (outputRow q.whole) := by
  have hgrouped : isGrouped q.whole = false := by
    rw [isGrouped, Query.whole, hgroups, hitems]
    rfl
  rw [outputRows, hgrouped]
  exact congrArg (List.mapM _) (mergeSort_unordered _ (fun _ _ => rfl) rows)

/-- With groups there is one row for each of them. -/
theorem length_outputRows_of_groups (hgroups : q.groupBy ≠ [])
    (h : outputRows q.whole rows = .ok out) : out.length = (groups q rows).length := by
  have hgrouped : isGrouped q.whole = true := by
    have hfilled : q.groupBy.isEmpty = false := by simpa using hgroups
    rw [isGrouped, Query.whole, hfilled]
    rfl
  rw [outputRows, if_pos hgrouped] at h
  obtain ⟨found, hfound, h⟩ := bind_eq_ok_iff.mp h
  cases h
  rw [List.length_map, List.length_mergeSort, length_of_mapM hfound]
  rfl

/-- A query without an order and a page puts out its rows, each once where only
different ones are asked for. -/
theorem select_whole_eq_ok_iff :
    select ts q.whole = .ok rows ↔ ∃ found out, sourceRows ts q = .ok found ∧
      outputRows q.whole found = .ok out ∧ rows = if q.distinct then out.eraseDups else out := by
  constructor
  · intro h
    obtain ⟨found, hfound, h⟩ := bind_eq_ok_iff.mp h
    obtain ⟨out, hout, h⟩ := bind_eq_ok_iff.mp h
    exact ⟨found, out, hfound, hout, (Except.ok.inj h).symm⟩
  · rintro ⟨found, out, hfound, hout, rfl⟩
    exact bind_eq_ok_iff.mpr ⟨found, hfound, bind_eq_ok_iff.mpr ⟨out, hout, rfl⟩⟩

/-! ## Counts -/

/-- A query with groups has as many rows as there are groups. -/
theorem count_of_groups (hgroups : q.groupBy ≠ []) (h : sourceRows ts q = .ok rows) :
    count ts q = .ok (groups q rows).length := by
  have hfilled : (!q.groupBy.isEmpty) = true := by simpa using hgroups
  refine bind_eq_ok_iff.mpr ⟨rows, h, ?_⟩
  rw [if_pos hfilled]
  rfl

/-- A query without groups has as many rows as it puts out. -/
theorem count_of_rows (hgroups : q.groupBy = []) (h : sourceRows ts q = .ok rows)
    (hout : rows.mapM (outputRow q.whole) = .ok out) :
    count ts q = .ok (if q.distinct then out.eraseDups else out).length := by
  refine bind_eq_ok_iff.mpr ⟨rows, h, ?_⟩
  have hempty : ¬ (!q.groupBy.isEmpty) = true := by simp [hgroups]
  rw [if_neg hempty]
  cases hdistinct : q.distinct with
  | false =>
    rw [if_neg Bool.false_ne_true, if_neg Bool.false_ne_true, length_of_mapM hout]
    rfl
  | true =>
    rw [if_pos rfl, if_pos rfl]
    exact bind_eq_ok_iff.mpr ⟨out, hout, rfl⟩

/-- A query without aggregates that can be answered can be counted. The count is
the number of its rows without an order and a page, unless different groups that
look alike are asked for once: these are counted one by one. -/
theorem a_count_is_the_number_of_rows_unless_groups_look_alike (ts : Tables) (q : Query)
    (hitems : q.items.any Item.isAggregate = false) {rows : List Row}
    (h : select ts q.whole = .ok rows) :
    ∃ n all, count ts q = .ok n ∧ select ts q.withAlike.whole = .ok all ∧
      rows = (if q.distinct then all.eraseDups else all) ∧ rows.length ≤ n ∧
      (n = rows.length ↔ q.groupBy = [] ∨ q.distinct = false ∨ AllDiffer all) := by
  obtain ⟨found, all, hfound, hall, hrows⟩ := select_whole_eq_ok_iff.mp h
  have hselect : select ts q.withAlike.whole = .ok all :=
    select_whole_eq_ok_iff.mpr ⟨found, all, hfound, hall, rfl⟩
  by_cases hgroups : q.groupBy = []
  · rw [outputRows_of_rows hitems hgroups] at hall
    refine ⟨rows.length, all, ?_, hselect, hrows, Nat.le_refl _, by simp [hgroups]⟩
    rw [hrows]
    exact count_of_rows hgroups hfound hall
  · -- There is one row for each group, and rows that look alike are left out last.
    refine ⟨all.length, all, ?_, hselect, hrows, ?_, ?_⟩
    · rw [length_outputRows_of_groups hgroups hall]
      exact count_of_groups hgroups hfound
    · rw [hrows]
      split
      · exact length_eraseDups_le all
      · exact Nat.le_refl _
    · rw [hrows]
      cases q.distinct with
      | false => simp
      | true => simp [hgroups, ← length_eraseDups_eq_iff, eq_comm]

/-- Oaks of two sizes are two groups, and one row where only kinds are put out. -/
theorem two_sizes_of_oaks_count_twice :
    let ts : Tables := [("trees", {
      shape := .make "trees" "id" [("kind", .text), ("size", .integer)] []
      rows := [[("id", .int 1), ("kind", .text "oak"), ("size", .int 1)],
        [("id", .int 2), ("kind", .text "oak"), ("size", .int 2)]] })]
    let q : Query := {
      items := [.column (.plain "kind") none], distinct := true, table := "trees"
      groupBy := [.plain "kind", .plain "size"] }
    ∃ n rows all, select ts q.whole = .ok rows ∧ count ts q = .ok n ∧
      select ts q.withAlike.whole = .ok all ∧ rows = all.eraseDups ∧ rows.length ≤ n ∧
      (n = rows.length ↔ AllDiffer all) := by
  intro ts q
  obtain ⟨rows, hrows, -⟩ : ∃ rows, select ts q.whole = .ok rows ∧ _ :=
    exists_of_any (p := fun _ => true) (by decide +kernel)
  obtain ⟨n, all, hcount, hall, heq, hle, hiff⟩ :=
    a_count_is_the_number_of_rows_unless_groups_look_alike ts q rfl hrows
  refine ⟨n, rows, all, hrows, hcount, hall, heq, hle, hiff.trans ?_⟩
  simp [q]

end Tables

end EntityStore
