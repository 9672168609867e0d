-- Flat records in a table. Conditions, groups and sorts say of their rows
-- what they say of the records.
import EntityStore.Proofs.Store.Flat
import EntityStore.Proofs.Store.Relational
import EntityStore.Proofs.Tables.Inserting

namespace EntityStore.Flat

open EntityStore.Filter (Condition Group)
open Sql (Column Predicate)

variable {e : Entity} {settings : Settings} {columns : Columns} {kinds : String → Kind}
  {records : List (Fields Json)}

/-! ## Columns -/

theorem isJson_eq_false {cs : Columns} (h : ∀ c ∈ cs, c.2 ≠ .json) (c : String) :
    cs.isJson c = false := by
  cases hc : cs.isJson c with
  | false => rfl
  | true => exact absurd rfl (h _ (Fields.mem_of_get? (beq_iff_eq.mp hc)))

theorem noDocuments_shape (h : Fits e columns kinds records) :
    ∀ c ∈ (shape e columns).columns, c.2 ≠ .json := by
  intro c hc
  rcases Fields.mem_extend hc with hc | hc
  · rw [List.mem_singleton.mp hc]
    exact nofun
  · exact h.noDocuments c (List.mem_append_left _ hc)

theorem noDocuments_known (h : Fits e columns kinds records) :
    ∀ c ∈ known e columns, c.2 ≠ .json := by
  intro c hc
  rcases Fields.mem_extend hc with hc | hc
  · exact noDocuments_shape h c hc
  · exact h.noDocuments c (List.mem_append_right _ hc)

/-- A known name means its column. -/
theorem resolve_known (purpose : Plan.Purpose) {f : String} (hname : IsName f)
    (hknown : f ∈ (known e columns).keys) :
    ((Relational.inMemory e settings).scope (known e columns)).resolve purpose f =
      .ok (.plain f) := by
  have hcheck : ((Relational.inMemory e settings).scope (known e columns)).checkColumn f =
      .ok () := by
    have hcontains : Fields.contains (known e columns) f = true := Fields.contains_iff.mpr hknown
    exact if_pos (by simp [Relational.scope, hcontains])
  rw [Plan.Scope.resolve, Text.split_of_hasChar_eq_false hname, Plan.Scope.resolveParts,
    Plan.Scope.ownColumn, hcheck]
  rfl

/-! ## Rows -/

theorem bind_shape (h : Fits e columns kinds records) (c : String) (j : Json) :
    (shape e columns).bind c j = Value.ofJson j := by
  rw [Tables.Shape.bind, isJson_eq_false (noDocuments_shape h)]
  cases j <;> rfl

/-- The row of a record holds its values. What is no column has none. -/
theorem get?_row (h : Fits e columns kinds records) {r : Fields Json} (hr : r ∈ records)
    (f : String) :
    (((shape e columns).row r).get? f).getD .null = value r f ∧
      (f ∈ (shape e columns).columns.keys →
        ((shape e columns).row r).get? f = some (value r f)) := by
  rw [Tables.Shape.get?_row (h.ordered r hr), value]
  cases hj : Fields.get? r f with
  | some j => simp [bind_shape h]
  | none =>
    cases hc : Fields.get? (shape e columns).columns f with
    | some c => simp
    | none =>
      refine ⟨rfl, fun hf => ?_⟩
      exact absurd hf (Fields.get?_eq_none_iff.mp hc)

theorem valueOrNull_row (h : Fits e columns kinds records) {r : Fields Json} (hr : r ∈ records)
    (f : String) : (Column.plain f).valueOrNull ((shape e columns).row r) = value r f :=
  (get?_row h hr f).1

/-- A test of a column that null does not pass is a test of the value. -/
theorem any_row (h : Fits e columns kinds records) {r : Fields Json} (hr : r ∈ records)
    (f : String) {test : Value → Bool} (hnull : test .null = false) :
    ((Column.plain f).value? ((shape e columns).row r)).any test = test (value r f) := by
  have hvalue := (get?_row h hr f).1
  have hcolumn : (Column.plain f).value? ((shape e columns).row r) =
      ((shape e columns).row r).get? f := rfl
  rw [hcolumn, ← hvalue]
  cases ((shape e columns).row r).get? f with
  | none => exact hnull.symm
  | some v => rfl

/-! ## Conditions -/

theorem compares_row (h : Fits e columns kinds records) {r : Fields Json} (hr : r ∈ records)
    {f : String} {v : Value} (hv : (kinds f).Has v) (accept : Ordering → Bool) :
    Sql.compares ((shape e columns).row r) (.plain f) v accept =
      (!(value r f).isNull && accept (Value.order (value r f) v)) := by
  rw [Sql.compares, any_row h hr f rfl, (h.allowed r hr f).compares hv]

/-- The predicate of an operator says of a row what the operator asks of the
value. -/
theorem valuePredicate_row (h : Fits e columns kinds records) {f : String}
    {op : Filter.Operator} {operand : Filter.Operand} (hop : Filter.Accepts (kinds f) op operand) :
    ∃ p, Plan.valuePredicate? (.plain f) op operand = some p ∧
      ∀ r ∈ records, p.holds ((shape e columns).row r) = holds ⟨f, op, operand⟩ r := by
  cases hop with
  | scalar hop hv =>
    simp only [List.mem_cons, List.not_mem_nil, or_false] at hop
    rcases hop with rfl | rfl | rfl | rfl | rfl | rfl
    case inr.inl =>
      refine ⟨_, rfl, fun r hr => (compares_row h hr hv _).trans ?_⟩
      rw [Value.isNe_eq]
      rfl
    all_goals exact ⟨_, rfl, fun r hr => compares_row h hr hv _⟩
  | list hop hvs =>
    simp only [List.mem_cons, List.not_mem_nil, or_false] at hop
    rcases hop with rfl | rfl
    · refine ⟨_, rfl, fun r hr => ?_⟩
      have hallowed := h.allowed r hr f
      rw [Predicate.holds, any_row h hr f]
      · exact hallowed.any_compares hvs Ordering.isEq
      · exact (kinds f).allows_null.any_compares hvs Ordering.isEq
    · refine ⟨_, rfl, fun r hr => ?_⟩
      have hallowed := h.allowed r hr f
      rw [Predicate.holds, any_row h hr f rfl, hallowed.all_compares hvs Ordering.isNe]
      simp only [Value.isNe_eq]
      rfl
  | range hlow hhigh =>
    refine ⟨_, rfl, fun r hr => ?_⟩
    have hallowed := h.allowed r hr f
    have hboth : ∀ n a b : Bool, (n && a && (n && b)) = (n && (a && b)) := by decide
    rw [Predicate.holds, any_row h hr f rfl, hallowed.compares hlow,
      hallowed.compares hhigh, hboth]
    rfl
  | absent hop =>
    simp only [List.mem_cons, List.not_mem_nil, or_false] at hop
    rcases hop with rfl | rfl | rfl
    · exact ⟨_, rfl, fun r hr => (any_row h hr f rfl).trans (Bool.and_true _).symm⟩
    · exact ⟨_, rfl, fun r hr => (any_row h hr f rfl).trans (Bool.and_true _).symm⟩
    · refine ⟨_, rfl, fun r hr => ?_⟩
      have hvalue := (get?_row h hr f).1
      have hcolumn : (Column.plain f).value? ((shape e columns).row r) =
          ((shape e columns).row r).get? f := rfl
      rw [Predicate.holds, hcolumn]
      change _ = (value r f).isNull
      rw [← hvalue]
      cases ((shape e columns).row r).get? f <;> rfl

variable (settings) in
/-- A condition of known fields has a predicate, which says of a row what the
condition says of the record. -/
theorem condition_row (h : Fits e columns kinds records) {c : Condition} (hname : IsName c.field)
    (hknown : c.field ∈ (known e columns).keys) (hsuits : c.Suits (kinds c.field)) :
    ∃ p, ((Relational.inMemory e settings).scope (known e columns)).condition c = .ok p ∧
      ∀ r ∈ records, p.holds ((shape e columns).row r) = holds c r := by
  obtain ⟨p, hp, hholds⟩ := valuePredicate_row h hsuits.accepts
  have hdocument : ((Relational.inMemory e settings).scope (known e columns)).isDocument
      (.plain c.field) = false := isJson_eq_false (noDocuments_known h) c.field
  refine ⟨p, Plan.Scope.condition_eq_ok_iff.mpr ⟨_, resolve_known .filter hname hknown, ?_⟩, hholds⟩
  rw [Plan.Scope.predicate?_eq, hdocument]
  · exact hp
  · intro vs hop
    have hpattern := hsuits.1
    rw [hop] at hpattern
    cases hpattern

/-! ## Groups -/

variable (settings) in
/-- Groups of such conditions have a predicate, which the rows of those
records pass that pass the groups. -/
theorem groups_row (h : Fits e columns kinds records) {gs : List Group}
    (hgs : Suit e columns kinds gs) :
    ∃ found, ((Relational.inMemory e settings).scope (known e columns)).groups gs = .ok found ∧
      ∀ r ∈ records, Sql.passes found ((shape e columns).row r) = passes gs r := by
  have hcompile : ((Relational.inMemory e settings).scope (known e columns)).Compile gs := by
    intro g hg c hc
    obtain ⟨hname, hknown, hsuits⟩ := hgs g hg c hc
    obtain ⟨p, hp, -⟩ := condition_row settings h hname hknown hsuits
    exact ⟨p, hp⟩
  obtain ⟨found, hfound, -, hpasses⟩ := Plan.Scope.groups_eq_ok hcompile
  refine ⟨found, hfound, fun r hr => ?_⟩
  have hcondition : ∀ g ∈ gs, ∀ c ∈ g.conditions,
      (((Relational.inMemory e settings).scope (known e columns)).ConditionHolds
        ((shape e columns).row r) c ↔ holds c r = true) := by
    intro g hg c hc
    obtain ⟨hname, hknown, hsuits⟩ := hgs g hg c hc
    obtain ⟨p, hp, hholds⟩ := condition_row settings h hname hknown hsuits
    rw [Plan.Scope.ConditionHolds, ← hholds r hr, hp]
    simp
  rw [Bool.eq_iff_iff, hpasses, passes, List.all_eq_true]
  apply forall_congr'
  intro g
  apply imp_congr_right
  intro hg
  rw [Plan.Scope.GroupHolds, passesGroup]
  cases g.effective with
  | and =>
    rw [List.all_eq_true]
    exact forall_congr' fun c => imp_congr_right fun hc => hcondition g hg c hc
  | or =>
    rw [List.any_eq_true]
    exact exists_congr fun c => and_congr_right fun hc => hcondition g hg c hc

/-! ## Sorts -/

variable (settings) in
theorem sorts_known {sorts : List SortBy} (hsorts : Sorted e columns records sorts) :
    ((Relational.inMemory e settings).scope (known e columns)).sorts sorts =
      .ok (sorts.map fun s => (.plain s.field, s.direction)) := by
  apply mapM_eq_ok
  intro s hs
  rw [resolve_known .output (hsorts s hs).1 (hsorts s hs).2.1]
  rfl

/-- Rows are sorted as their records are. -/
theorem ranks_row (h : Fits e columns kinds records) {sorts : List SortBy}
    (hsorts : Sorted e columns records sorts) {a b : Fields Json} (ha : a ∈ records)
    (hb : b ∈ records) :
    Tables.ranks (sorts.map fun s => (.plain s.field, s.direction)) ((shape e columns).row a)
      ((shape e columns).row b) = (order sorts a b).isLE := by
  rw [Tables.ranks]
  congr 1
  induction sorts with
  | nil => rfl
  | cons s sorts ih =>
    rw [Sorted, List.forall_mem_cons] at hsorts
    obtain ⟨⟨-, -, hvalues⟩, hrest⟩ := hsorts
    have hasValue := h.has_value ha (hvalues a ha)
    have hasOther := h.has_value hb (hvalues b hb)
    rw [List.map_cons, Tables.orderBy_cons, ih hrest, valueOrNull_row h ha, valueOrNull_row h hb,
      order]
    congr 1
    cases s.direction with
    | asc => exact hasValue.sortOrder hasOther
    | desc => exact (hasOther.sortOrder hasValue).trans (Value.order_swap _ _).symm

/-! ## The table -/

/-- An engine whose table the records came into, and what came of it. -/
def seeded (e : Entity) (columns : Columns) (records : List (Fields Json)) :
    Except TableFault Nat × Tables.Engine :=
  ((({} : Tables.Engine).create (shape e columns)).seed e.storage (records.map .obj))

/-- The number of a record. -/
def number (e : Entity) (r : Fields Json) : Int :=
  match value r e.idField with
  | .int n => n
  | _ => 0

theorem value_id (h : Fits e columns kinds records) {r : Fields Json} (hr : r ∈ records) :
    value r e.idField = .int (number e r) := by
  obtain ⟨n, hn⟩ := (h.identified r hr).eq_int
  rw [number, hn]

/-- All records come into the table, each as its row, in their order. -/
theorem seeded_eq (h : Fits e columns kinds records) :
    ∃ engine next, seeded e columns records = (.ok records.length, engine) ∧
      engine.faults = [] ∧ engine.tables.find e.storage =
        .ok ⟨shape e columns, records.map (shape e columns).row, next⟩ := by
  have hcreated : (({} : Tables.Engine).create (shape e columns)).tables.find e.storage =
      .ok { shape := shape e columns } := by
    have hget : Fields.get? (({} : Tables.Engine).create (shape e columns)).tables e.storage =
        some { shape := shape e columns } := Fields.get?_insert_self _ _ _
    rw [Tables.find, hget]
  have hid : e.idField ∈ (shape e columns).columns.keys :=
    Fields.mem_keys_extend.mpr (Or.inl List.mem_cons_self)
  have hcolumns : ∀ r ∈ records, ∀ c ∈ r.keys,
      Fields.contains (shape e columns).columns c = true :=
    fun r hr c hc => Fields.contains_iff.mpr (h.named r hr c hc).2
  have hnumbers : ∀ r ∈ records,
      ((shape e columns).row r).get? e.idField = some (.int (number e r)) := by
    intro r hr
    rw [(get?_row h hr e.idField).2 hid, value_id h hr]
  have hdistinct : records.Pairwise fun a b => number e a ≠ number e b := by
    refine h.distinct.imp_of_mem fun ha hb hne hnumber => hne ?_
    rw [value_id h ha, value_id h hb, hnumber]
  obtain ⟨next, hseed⟩ := Tables.seed_of_new (t := { shape := shape e columns }) (number e) rfl
    hcolumns hnumbers (List.forall_mem_nil _) hdistinct 0
  obtain ⟨engine, hengine, hfaults, hfind⟩ := Tables.Engine.seed_of_seed hcreated hseed
  rw [Nat.zero_add] at hengine
  exact ⟨engine, next, hengine, hfaults, hfind⟩

/-! ## Searches -/

/-- What a search shows of a record: the columns of its row, but those that go
by a path. -/
def shown (e : Entity) (columns : Columns) (r : Fields Json) : Fields Json :=
  Row.toJson (Tables.bareColumns ((shape e columns).row r))

/-- A record is shown with its identity. -/
theorem get?_shown_id (h : Fits e columns kinds records) {r : Fields Json} (hr : r ∈ records) :
    (shown e columns r).get? e.idField = r.get? e.idField := by
  have hid : e.idField ∈ (shape e columns).columns.keys :=
    Fields.mem_keys_extend.mpr (Or.inl List.mem_cons_self)
  cases hj : Fields.get? r e.idField with
  | none =>
    have hnull := h.identified r hr
    rw [value, hj] at hnull
    exact hnull.elim
  | some j =>
    have hvalue : value r e.idField = Value.ofJson j := by
      rw [value, hj]
      rfl
    have hname : Text.hasChar '.' e.idField = false :=
      (h.named r hr e.idField (List.mem_map.mpr ⟨_, Fields.mem_of_get? hj, rfl⟩)).1
    have hrow := (get?_row h hr e.idField).2 hid
    have hallowed := h.allowed r hr e.idField
    rw [hvalue] at hrow hallowed
    rw [shown, Row.toJson, Fields.get?_mapValues, Tables.bareColumns,
      Fields.get?_filter fun k => !Text.hasChar '.' k, hname, hrow]
    exact congrArg some (toJson_ofJson_of_allows hallowed)

variable {filters postFilters : List Group} {sorts : List SortBy}

/-- A search of the table gives the page of the records that pass. -/
theorem search_table (h : Fits e columns kinds records) (settings : Settings) (page : Page)
    (hfilters : Suit e columns kinds filters) (hpost : Suit e columns kinds postFilters)
    (hsorts : Sorted e columns records sorts) :
    (((Relational.inMemory e settings).search (.ofPage filters postFilters sorts page)).on
      (.initial settings (seeded e columns records).2)).1 = .ok {
        rows := (Tables.slice page.offset page.limit
          (found filters postFilters sorts records)).map (shown e columns)
        total := (found filters postFilters sorts records).length } := by
  obtain ⟨engine, next, hseeded, hfaults, htable⟩ := seeded_eq h
  obtain ⟨f, hf, hfpasses⟩ := groups_row settings h hfilters
  obtain ⟨p, hp, hppasses⟩ := groups_row settings h hpost
  have hfound : ((records.map (shape e columns).row).filter fun row =>
      Sql.passes f row && Sql.passes p row).mergeSort
        (Tables.ranks (sorts.map fun s => (.plain s.field, s.direction))) =
      (found filters postFilters sorts records).map (shape e columns).row := by
    rw [List.filter_map, List.filter_congr (q := fun r => passes filters r && passes postFilters r)]
    · refine (List.map_mergeSort fun a ha b hb => ?_).symm
      exact (ranks_row h hsorts (List.mem_filter.mp ha).1 (List.mem_filter.mp hb).1).symm
    · intro r hr
      rw [Function.comp, hfpasses r hr, hppasses r hr]
  have hsearch := Relational.search_ofPage settings page hfaults htable hf hp
    (sorts_known settings hsorts)
  dsimp only at hsearch
  rw [hfound] at hsearch
  rw [hseeded, hsearch]
  simp only [Tables.slice_map, List.map_map, List.length_map]
  rfl

end EntityStore.Flat
