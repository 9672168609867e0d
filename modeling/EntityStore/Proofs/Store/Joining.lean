-- Rows of joined tables, by the ways in which they come about. A row goes through
-- the joins one after the other and takes up the rows that it is joined to. What it
-- has under a name, it has from where it began or from a table in which it found a
-- partner.
import EntityStore.Proofs.Store.Negating
import EntityStore.Tables.Queries

namespace EntityStore

/-! ## Full names -/

/-- A full name has the qualifier before its first point. -/
theorem Text.takeWhile_fullName {q : String} (hq : hasChar '.' q = false) (c : String) :
    (q ++ "." ++ c).toList.takeWhile (· != '.') = q.toList := by
  have hpoint : ∀ x ∈ q.toList, (x != '.') = true := by
    intro x hx
    have hmem : '.' ∉ q.toList := by simpa [hasChar] using hq
    exact bne_iff_ne.mpr fun h => hmem (h ▸ hx)
  have htext : (q ++ "." ++ c).toList = q.toList ++ '.' :: c.toList := by simp
  rw [htext, List.takeWhile_append_of_pos hpoint]
  simp

/-- Full names with different qualifiers differ. -/
theorem Text.fullName_ne {q r : String} (hq : hasChar '.' q = false) (hr : hasChar '.' r = false)
    (hne : q ≠ r) (c d : String) : q ++ "." ++ c ≠ r ++ "." ++ d := by
  intro heq
  refine hne (String.toList_inj.mp ?_)
  rw [← takeWhile_fullName hq c, heq, takeWhile_fullName hr d]

theorem Text.fullName_ne_of_name {name : String} (hname : hasChar '.' name = false)
    (q c : String) : q ++ "." ++ c ≠ name := by
  rintro rfl
  simp [hasChar] at hname

/-! ## Columns without a value -/

namespace Sql

/-- The predicate compares what a column is with values, or asks that it be there. -/
inductive Predicate.Asks (c : Column) : Predicate → Prop where
  | eq (v : Value) : Asks c (.eq c v)
  | ne (v : Value) : Asks c (.ne c v)
  | lt (v : Value) : Asks c (.lt c v)
  | le (v : Value) : Asks c (.le c v)
  | gt (v : Value) : Asks c (.gt c v)
  | ge (v : Value) : Asks c (.ge c v)
  | isIn (vs : List Value) : Asks c (.isIn c vs)
  | notIn (vs : List Value) : Asks c (.notIn c vs)
  | between (low high : Value) : Asks c (.between c low high)
  | notNull : Asks c (.notNull c)
  | like (pattern : String) : Asks c (.like c pattern)
  | notLike (pattern : String) : Asks c (.notLike c pattern)
  | regexp (pattern : String) : Asks c (.regexp c pattern)
  | notRegexp (pattern : String) : Asks c (.notRegexp c pattern)
  | contains (v : Value) : Asks c (.contains c v)

variable {c : Column} {row other : Row} {p : Predicate}

theorem document?_of_stored (h : ∀ v ∈ c.stored? row, v.isNull = true) :
    c.document? row = none := by
  unfold Column.document?
  cases hstored : c.stored? row with
  | none => rfl
  | some w =>
    rw [Value.isNull_iff.mp (h w hstored)]
    rfl

/-- Nothing is true of a column that is null, but that it is. -/
theorem Predicate.Asks.not_holds (hp : p.Asks c) (h : ∀ v ∈ c.stored? row, v.isNull = true) :
    p.holds row = false := by
  have hlacks : Lacks row c := lacks_of_stored h
  cases hp with
  | eq v | ne v | lt v | le v | gt v | ge v => exact hlacks.compares v _
  | notIn vs => exact hlacks.notIn vs
  | isIn vs =>
    exact hlacks.any (List.any_eq_false.mpr fun v _ => Bool.false_ne_true)
  | between low high => exact hlacks.any rfl
  | notNull => exact hlacks.any rfl
  | like pattern | notLike pattern | regexp pattern | notRegexp pattern =>
    rw [Predicate.holds, hlacks.text?]
    rfl
  | contains v =>
    rw [Predicate.holds, document?_of_stored h]
    rfl

theorem isNull_of_stored (h : ∀ v ∈ c.stored? row, v.isNull = true) :
    (Predicate.isNull c).holds row = true := by
  rcases (lacks_of_stored h).value? with hvalue | hvalue
  · rw [Predicate.holds, hvalue]
    rfl
  · rw [Predicate.holds, hvalue]
    rfl

/-- What is asked of a column depends on what is stored under it. -/
theorem Predicate.Asks.holds_congr (hp : p.Asks c) (h : c.stored? row = c.stored? other) :
    p.holds row = p.holds other := by
  have hvalue : c.value? row = c.value? other := by rw [Column.value?, Column.value?, h]
  have htext : c.text? row = c.text? other := by rw [Column.text?, Column.text?, hvalue]
  have hdocument : c.document? row = c.document? other := by
    rw [Column.document?, Column.document?, h]
  cases hp with
  | like pattern | notLike pattern | regexp pattern | notRegexp pattern =>
    rw [Predicate.holds, Predicate.holds, htext]
  | contains v => rw [Predicate.holds, Predicate.holds, hdocument]
  | eq v | ne v | lt v | le v | gt v | ge v =>
    rw [Predicate.holds, Predicate.holds, compares, compares, hvalue]
  | isIn vs | notIn vs | between low high | notNull =>
    rw [Predicate.holds, Predicate.holds, hvalue]

end Sql

namespace Tables

open Sql (Column Join Predicate Query)

variable {ts : Tables} {q : Query} {t base : Table} {j : Join} {js : List Join}
  {left right : List Row} {l r row : Row} {found : List String} {k n : String}

/-! ## What a row takes up -/

theorem get?_qualified_of_ne (h : ∀ c, n ++ "." ++ c ≠ k) (r : Row) :
    (qualified n r).get? k = none := by
  rw [Fields.get?_eq_none_iff, qualified, Fields.mem_keys_ofList]
  intro hk
  obtain ⟨_, hp, rfl⟩ := List.mem_map.mp hk
  obtain ⟨p, -, rfl⟩ := List.mem_map.mp hp
  exact h p.1 rfl

/-- A row that takes up the columns of a table keeps what it has under all other
names. -/
theorem get?_extend_qualified (h : ∀ c, n ++ "." ++ c ≠ k) (l r : Row) :
    (Fields.extend l (qualified n r)).get? k = l.get? k := by
  have hordered : (qualified n r).Ordered := Fields.ordered_ofList _
  have hextend : (Fields.extend l (qualified n r)).get? k = _ := Fields.get?_extend _ _ _
  rw [hextend, Fields.get?_ofList hordered, get?_qualified_of_ne h, Option.none_or]

/-! ## Ways through the joins -/

/-- A row goes through joins. At each of them it takes up a row that it is joined
to, or goes on as it is where it finds none and the join keeps it. The names are
those of the tables in which it found one. -/
inductive Through (ts : Tables) : List Join → Row → List String → Row → Prop where
  | done (row : Row) : Through ts [] row [] row
  | partner {j : Join} {js : List Join} {t : Table} {l r row : Row} {found : List String} :
    ts.find j.table = .ok t → r ∈ t.rows → joins j l (qualified j.reference r) = true →
    Through ts js (Fields.extend l (qualified j.reference r)) found row →
    Through ts (j :: js) l (j.reference :: found) row
  | alone {j : Join} {js : List Join} {t : Table} {l row : Row} {found : List String} :
    ts.find j.table = .ok t → j.kind = .left →
    (∀ r ∈ t.rows, joins j l (qualified j.reference r) = false) →
    Through ts js l found row → Through ts (j :: js) l found row

/-- A row that went through joins has what it had under every name that is no
full name of a table in which it found a partner. -/
theorem Through.get?_eq (h : Through ts js l found row) (hk : ∀ n ∈ found, ∀ c, n ++ "." ++ c ≠ k) :
    row.get? k = l.get? k := by
  induction h with
  | done row => rfl
  | partner _ _ _ _ ih =>
    rw [List.forall_mem_cons] at hk
    rw [ih hk.2, get?_extend_qualified hk.1]
  | alone _ _ _ _ ih => exact ih hk

theorem Through.mem_references (h : Through ts js l found row) :
    ∀ n ∈ found, n ∈ js.map Join.reference := by
  induction h with
  | done row => exact nofun
  | partner _ _ _ _ ih =>
    exact List.forall_mem_cons.mpr
      ⟨List.mem_cons_self, fun n hn => List.mem_cons_of_mem _ (ih n hn)⟩
  | alone _ _ _ _ ih => exact fun n hn => List.mem_cons_of_mem _ (ih n hn)

/-- A row without a partner has come past a join that keeps it. -/
theorem Through.kind_eq_left (h : Through ts js l found row) (hj : j ∈ js)
    (hfound : j.reference ∉ found) : j.kind = .left := by
  induction h with
  | done row => cases hj
  | partner _ _ _ _ ih =>
    rw [List.mem_cons, not_or] at hfound
    rcases List.mem_cons.mp hj with rfl | hj
    · exact absurd rfl hfound.1
    · exact ih hj hfound.2
  | alone _ hkind _ _ ih =>
    rcases List.mem_cons.mp hj with rfl | hj
    · exact hkind
    · exact ih hj hfound

/-! ## The rows of a query -/

theorem mem_joinedRows_iff : row ∈ joinedRows j right l ↔
    (∃ r ∈ right, joins j l r = true ∧ Fields.extend l r = row) ∨
      (j.kind = .left ∧ (∀ r ∈ right, joins j l r = false) ∧ row = l) := by
  have hempty : ((right.filter (joins j l)).map (Fields.extend l)).isEmpty = true ↔
      ∀ r ∈ right, joins j l r = false := by
    simp [List.isEmpty_iff, List.filter_eq_nil_iff]
  have hfound : row ∈ (right.filter (joins j l)).map (Fields.extend l) ↔
      ∃ r ∈ right, joins j l r = true ∧ Fields.extend l r = row := by
    simp only [List.mem_map, List.mem_filter, and_assoc]
  unfold joinedRows
  dsimp only
  split
  · rename_i hkept
    rw [Bool.and_eq_true, hempty, decide_eq_true_iff] at hkept
    rw [List.mem_singleton]
    constructor
    · exact fun hrow => .inr ⟨hkept.2, hkept.1, hrow⟩
    · rintro (⟨r, hr, hjoins, -⟩ | ⟨-, -, hrow⟩)
      · cases (hkept.1 r hr).symm.trans hjoins
      · exact hrow
  · rename_i hkept
    rw [Bool.and_eq_true, hempty, decide_eq_true_iff] at hkept
    rw [hfound]
    constructor
    · exact .inl
    · rintro (hrow | ⟨hkind, hnone, -⟩)
      · exact hrow
      · exact absurd ⟨hnone, hkind⟩ hkept

theorem mem_joinRows_iff : row ∈ joinRows j left right ↔ (∃ l ∈ left, row ∈ joinedRows j right l) ∨
    (j.kind = .right ∧ row ∈ right ∧ ∀ l ∈ left, joins j l row = false) := by
  unfold joinRows
  rw [List.mem_append, List.mem_flatMap]
  apply or_congr_right
  split
  · rename_i hkind
    simp [hkind, List.mem_filter]
  · rename_i hkind
    simp [hkind]

theorem joinTable_eq_ok {rows : List Row} (h : joinTable ts left j = .ok rows) :
    ∃ t, ts.find j.table = .ok t ∧ rows = joinRows j left (t.rows.map (qualified j.reference)) := by
  obtain ⟨t, ht, h⟩ := bind_eq_ok_iff.mp h
  exact ⟨t, ht, (Except.ok.inj h).symm⟩

/-- The rows that go through the joins are among those that come out. -/
theorem Through.exists_joined (h : Through ts js l found row) (hl : l ∈ left) :
    ∃ rows, js.foldlM (joinTable ts) left = .ok rows ∧ row ∈ rows := by
  induction h generalizing left with
  | done row => exact ⟨left, rfl, hl⟩
  | partner ht hr hjoins _ ih =>
    obtain ⟨rows, hrows, hrow⟩ := ih (mem_joinRows_iff.mpr (.inl ⟨_, hl,
      mem_joinedRows_iff.mpr (.inl ⟨_, List.mem_map_of_mem hr, hjoins, rfl⟩)⟩))
    exact ⟨rows, bind_eq_ok_iff.mpr ⟨_, bind_eq_ok_iff.mpr ⟨_, ht, rfl⟩, hrows⟩, hrow⟩
  | alone ht hkind hnone _ ih =>
    obtain ⟨rows, hrows, hrow⟩ := ih (mem_joinRows_iff.mpr (.inl ⟨_, hl,
      mem_joinedRows_iff.mpr (.inr ⟨hkind, List.forall_mem_map.mpr hnone, rfl⟩)⟩))
    exact ⟨rows, bind_eq_ok_iff.mpr ⟨_, bind_eq_ok_iff.mpr ⟨_, ht, rfl⟩, hrows⟩, hrow⟩

/-- A row of a table begins its way at the join of the table, which keeps its rows. -/
def BeginsAt (ts : Tables) (js : List Join) (row : Row) : Prop :=
  ∃ before j after t r found, js = before ++ j :: after ∧ j.kind = .right ∧
    ts.find j.table = .ok t ∧ r ∈ t.rows ∧ Through ts after (qualified j.reference r) found row

theorem BeginsAt.cons (h : BeginsAt ts js row) (j : Join) : BeginsAt ts (j :: js) row := by
  obtain ⟨before, i, after, t, r, found, rfl, hi⟩ := h
  exact ⟨j :: before, i, after, t, r, found, rfl, hi⟩

/-- Each row that comes out of the joins has gone through all of them, or through
those behind the join at which it begins. -/
theorem through_of_joined {rows : List Row} (h : js.foldlM (joinTable ts) left = .ok rows)
    (hrow : row ∈ rows) :
    (∃ l ∈ left, ∃ found, Through ts js l found row) ∨ BeginsAt ts js row := by
  induction js generalizing left with
  | nil =>
    cases h
    exact .inl ⟨row, hrow, [], .done row⟩
  | cons j js ih =>
    obtain ⟨next, hnext, h⟩ := bind_eq_ok_iff.mp h
    obtain ⟨t, ht, rfl⟩ := joinTable_eq_ok hnext
    rcases ih h with ⟨m, hm, found, hthrough⟩ | hbegins
    · rcases mem_joinRows_iff.mp hm with ⟨l, hl, hm⟩ | ⟨hkind, hm, -⟩
      · rcases mem_joinedRows_iff.mp hm with ⟨_, htaken, hjoins, rfl⟩ | ⟨hkind, hnone, rfl⟩
        · obtain ⟨r, hr, rfl⟩ := List.mem_map.mp htaken
          exact .inl ⟨l, hl, _, .partner ht hr hjoins hthrough⟩
        · exact .inl ⟨m, hl, found, .alone ht hkind (List.forall_mem_map.mp hnone) hthrough⟩
      · obtain ⟨r, hr, rfl⟩ := List.mem_map.mp hm
        exact .inr ⟨[], j, js, t, r, found, rfl, hkind, ht, hr, hthrough⟩
    · exact .inr (hbegins.cons j)

/-- The rows of a query with joins, before its predicate is asked. -/
theorem sourceRows_of_joins (hjoins : q.joins ≠ []) (hbase : ts.find q.table = .ok base) :
    sourceRows ts { q with predicate := none } =
      q.joins.foldlM (joinTable ts) (base.rows.map (withQualified q.reference)) := by
  have hsource : sourceRows ts { q with predicate := none } = do
      let base ← ts.find q.table
      let rows ← if q.joins.isEmpty then pure base.rows
        else q.joins.foldlM (joinTable ts) (base.rows.map (withQualified q.reference))
      return rows := rfl
  rw [hsource, hbase]
  cases hjs : q.joins with
  | nil => exact absurd hjs hjoins
  | cons j js =>
    exact bind_pure ((j :: js).foldlM (joinTable ts) (base.rows.map (withQualified q.reference)))

/-! ## What is read without a partner -/

/-- A row that went through joins has under a name what the row of the first table
has there, unless it is the full name of a column of another table. -/
theorem Through.get?_base (h : Through ts js (withQualified n r) found row)
    (hn : ∀ c, n ++ "." ++ c ≠ k) (hk : ∀ m ∈ found, ∀ c, m ++ "." ++ c ≠ k) :
    row.get? k = r.get? k := by
  rw [h.get?_eq hk]
  exact get?_extend_qualified hn r r

/-- Under a column of a table in which a row found no partner stands what the row of
the first table has there. -/
theorem Through.stored?_eq (h : Through ts js (withQualified n r) found row)
    (hnames : ∀ m ∈ n :: js.map Join.reference, Text.hasChar '.' m = false)
    (hj : j ∈ js) (hn : j.reference ≠ n) (hfound : j.reference ∉ found) {c : Column}
    (hqualifier : c.qualifier = some j.reference) (hname : Text.hasChar '.' c.name = false) :
    c.stored? row = c.stored? r := by
  rw [List.forall_mem_cons] at hnames
  have hpoint : Text.hasChar '.' j.reference = false := hnames.2 _ (List.mem_map_of_mem hj)
  have hfull : row.get? (j.reference ++ "." ++ c.name) = r.get? (j.reference ++ "." ++ c.name) :=
    h.get?_base (fun d => Text.fullName_ne hnames.1 hpoint hn.symm d c.name) fun m hm d =>
      Text.fullName_ne (hnames.2 m (h.mem_references m hm)) hpoint
        (fun heq => hfound (heq ▸ hm)) d c.name
  have hbare : row.get? c.name = r.get? c.name :=
    h.get?_base (fun d => Text.fullName_ne_of_name hname n d) fun m _ d =>
      Text.fullName_ne_of_name hname m d
  rw [Column.stored?, Column.stored?, hqualifier]
  dsimp only
  rw [hfull, hbare]

/-- Let the tables of a query have names of their own, and let a row of the first
table go through the joins without a partner in one of the tables. In the joined row
each column of that table reads as the column of the same name in the first table.
Where there is none or it is null, the column is null and nothing else is true of it.
Where it has a value, this is the value of the column, and what is asked of it is
answered by that value. -/
theorem a_column_without_a_partner_reads_the_first_table {ts : Tables} {q : Query} {base : Table}
    {rows : List Row} (hjoins : q.joins ≠ []) (hbase : ts.find q.table = .ok base)
    (hrows : sourceRows ts { q with predicate := none } = .ok rows)
    (hnames : ∀ n ∈ q.reference :: q.joins.map Join.reference, Text.hasChar '.' n = false) :
    (∀ row ∈ rows, (∃ b ∈ base.rows, ∃ found,
        Through ts q.joins (withQualified q.reference b) found row) ∨
      BeginsAt ts q.joins row) ∧
    ∀ b ∈ base.rows, ∀ found row, Through ts q.joins (withQualified q.reference b) found row →
      row ∈ rows ∧ ∀ j ∈ q.joins, j.reference ≠ q.reference → j.reference ∉ found →
        ∀ c : Column, c.qualifier = some j.reference → Text.hasChar '.' c.name = false →
          j.kind = .left ∧ c.value? row = c.value? b ∧
          (∀ p : Predicate, p.Asks c → p.holds row = p.holds b) ∧
          ((∀ v ∈ c.stored? b, v.isNull = true) →
            (Predicate.isNull c).holds row = true ∧
              ∀ p : Predicate, p.Asks c → p.holds row = false) := by
  rw [sourceRows_of_joins hjoins hbase] at hrows
  refine ⟨fun row hrow => ?_, fun b hb found row hthrough => ⟨?_, ?_⟩⟩
  · rcases through_of_joined hrows hrow with ⟨l, hl, found, hthrough⟩ | hbegins
    · obtain ⟨b, hb, rfl⟩ := List.mem_map.mp hl
      exact .inl ⟨b, hb, found, hthrough⟩
    · exact .inr hbegins
  · obtain ⟨rows', hrows', hrow⟩ := hthrough.exists_joined (List.mem_map_of_mem hb)
    cases hrows.symm.trans hrows'
    exact hrow
  · intro j hj hn hfound c hqualifier hname
    have hstored : c.stored? row = c.stored? b :=
      hthrough.stored?_eq hnames hj hn hfound hqualifier hname
    refine ⟨hthrough.kind_eq_left hj hfound, by rw [Column.value?, Column.value?, hstored],
      fun p hp => hp.holds_congr hstored, fun hnull => ?_⟩
    rw [← hstored] at hnull
    exact ⟨Sql.isNull_of_stored hnull, fun p hp => hp.not_holds hnull⟩

/-- An order without a customer has the name of the order as the name of its
customer, and no city. -/
theorem an_order_lends_its_name_to_a_missing_customer :
    let orders : Table := {
      shape := .make "orders" "id" [("name", .text), ("customer", .integer)] []
      rows := [[("customer", .int 9), ("id", .int 1), ("name", .text "gift")]] }
    let customers : Table := {
      shape := .make "customers" "id" [("city", .text), ("name", .text)] []
      rows := [[("city", .text "Oslo"), ("id", .int 2), ("name", .text "Ann")]] }
    let ts : Tables := [("customers", customers), ("orders", orders)]
    let join : Join := {
      kind := .left, table := "customers", leftColumn := some "orders.customer"
      rightColumn := some "customers.id" }
    let q : Query := { table := "orders", joins := [join] }
    ∃ rows, sourceRows ts q = .ok rows ∧ ∃ row ∈ rows,
      (Column.qualified "customers" "name").value? row = some (.text "gift") ∧
      (Predicate.isNull (.qualified "customers" "city")).holds row = true := by
  intro orders customers ts join q
  let gift : Row := [("customer", .int 9), ("id", .int 1), ("name", .text "gift")]
  have hbase : ts.find q.table = .ok orders := rfl
  have hcustomers : ts.find join.table = .ok customers := rfl
  have hnone : ∀ r ∈ customers.rows,
      joins join (withQualified q.reference gift) (qualified join.reference r) = false := by
    rw [List.forall_mem_singleton]
    decide +kernel
  have hthrough : Through ts q.joins (withQualified q.reference gift) []
      (withQualified q.reference gift) := .alone hcustomers rfl hnone (.done _)
  obtain ⟨rows, hrows, -⟩ : ∃ rows, sourceRows ts q = .ok rows ∧ _ :=
    exists_of_any (p := fun _ => true) (by decide +kernel)
  obtain ⟨-, hreads⟩ := a_column_without_a_partner_reads_the_first_table (List.cons_ne_nil _ _)
    hbase hrows (by decide)
  obtain ⟨hrow, hcolumns⟩ := hreads gift (List.mem_singleton_self _) _ _ hthrough
  have hcolumn := hcolumns join (List.mem_singleton_self _) (by decide) List.not_mem_nil
  obtain ⟨-, hname, -⟩ := hcolumn (.qualified "customers" "name") rfl (by decide)
  obtain ⟨-, -, -, hcity⟩ := hcolumn (.qualified "customers" "city") rfl (by decide)
  exact ⟨rows, hrows, _, hrow, hname, (hcity nofun).1⟩

end Tables

end EntityStore
