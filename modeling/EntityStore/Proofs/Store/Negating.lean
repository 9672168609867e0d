-- Negated conditions where there is no value to compare with. In an index no
-- document without a value meets one. In a table no row does, unless the column
-- holds documents: that a document is missing there counts as its not
-- containing the value.
import EntityStore.Proofs.Plan.Additions
import EntityStore.Proofs.Store.FlatDocuments

namespace EntityStore

open EntityStore.Filter (Condition Operator Operand)
open Sql (Column Predicate)

/-! ## Values in documents -/

namespace Indices

/-- The path leads from a document to another one. Each part of it is the name
of a member, and it may pass through any item of a list. -/
inductive Leads : Json → List String → Json → Prop where
  | here (j : Json) : Leads j [] j
  | member {members : Fields Json} {part : String} {rest : List String} {j k : Json} :
    members.get? part = some j → Leads j rest k → Leads (.obj members) (part :: rest) k
  | item {items : List Json} {part : String} {rest : List String} {j k : Json} :
    j ∈ items → Leads j (part :: rest) k → Leads (.arr items) (part :: rest) k

/-- Null is no value, and a list is one if it has an item that is not null. -/
def IsValue : Json → Prop
  | .null => False
  | .arr items => ∃ j ∈ items, j.isNull = false
  | _ => True

/-- The document has a value at the field. -/
def HasValue (doc : Json) (field : String) : Prop :=
  ∃ j, Leads doc (Text.split '.' field) j ∧ IsValue j

variable {part : String} {rest : List String} {k : Json}

mutual

theorem leads_cons_iff :
    ∀ j : Json, Leads j (part :: rest) k ↔ ∃ i ∈ children part j, Leads i rest k
  | .obj members => by
    rw [children]
    constructor
    · rintro (_ | ⟨hget, hrest⟩)
      exact ⟨_, Option.mem_toList.mpr hget, hrest⟩
    · rintro ⟨i, hi, hrest⟩
      exact .member (Option.mem_toList.mp hi) hrest
  | .arr items => by
    rw [children, ← leads_some_iff items]
    constructor
    · rintro (_ | _ | ⟨hj, hrest⟩)
      exact ⟨_, hj, hrest⟩
    · rintro ⟨j, hj, hrest⟩
      exact .item hj hrest
  | .null => ⟨nofun, fun ⟨_, h, _⟩ => nomatch h⟩
  | .bool _ => ⟨nofun, fun ⟨_, h, _⟩ => nomatch h⟩
  | .int _ => ⟨nofun, fun ⟨_, h, _⟩ => nomatch h⟩
  | .float _ => ⟨nofun, fun ⟨_, h, _⟩ => nomatch h⟩
  | .str _ => ⟨nofun, fun ⟨_, h, _⟩ => nomatch h⟩

theorem leads_some_iff :
    ∀ items : List Json, (∃ j ∈ items, Leads j (part :: rest) k) ↔
      ∃ i ∈ childrenOfAll part items, Leads i rest k
  | [] => iff_of_false (fun ⟨_, h, _⟩ => nomatch h) (fun ⟨_, h, _⟩ => nomatch h)
  | j :: items => by
    simp only [childrenOfAll, List.mem_cons, List.mem_append, or_and_right, exists_or,
      exists_eq_left, leads_cons_iff j, leads_some_iff items]

end

theorem mem_reached_iff {docs : List Json} {path : List String} :
    k ∈ reached docs path ↔ ∃ j ∈ docs, Leads j path k := by
  induction path generalizing docs with
  | nil =>
    constructor
    · exact fun hk => ⟨k, hk, .here k⟩
    · rintro ⟨_, hk, ⟨⟩⟩
      exact hk
  | cons part path ih =>
    show k ∈ reached (docs.flatMap (children part)) path ↔ _
    rw [ih]
    simp only [List.mem_flatMap, leads_cons_iff]
    constructor
    · rintro ⟨i, ⟨j, hj, hi⟩, hpath⟩
      exact ⟨j, hj, i, hi, hpath⟩
    · rintro ⟨j, hj, i, hi, hpath⟩
      exact ⟨i, ⟨j, hj, hi⟩, hpath⟩

theorem spread_eq_nil_iff {j : Json} : spread j = [] ↔ ¬ IsValue j := by
  cases j with
  | arr items => simp [spread, IsValue]
  | _ => simp [spread, IsValue]

theorem valuesAt_eq_nil_iff {doc : Json} {field : String} :
    valuesAt doc field = [] ↔ ¬ HasValue doc field := by
  rw [valuesAt, List.flatMap_eq_nil_iff]
  simp only [mem_reached_iff, List.mem_singleton, exists_eq_left, spread_eq_nil_iff]
  constructor
  · rintro h ⟨j, hj, hvalue⟩
    exact h j hj hvalue
  · intro h j hj hvalue
    exact h ⟨j, hj, hvalue⟩

end Indices

/-! ## Rows without a value -/

/-- What the row has in the column, or at the path into its document, is null
if it is there at all. -/
def Sql.Lacks (row : Row) (column : Column) : Prop := ∀ v ∈ column.value? row, v.isNull = true

namespace Sql

variable {row : Row} {column : Column}

/-- In a column that is null or not there no path leads to a value. -/
theorem lacks_of_stored (h : ∀ v ∈ column.stored? row, v.isNull = true) : Lacks row column := by
  unfold Lacks Column.value?
  cases column.path with
  | none => exact h
  | some path =>
    cases hstored : column.stored? row with
    | none => exact nofun
    | some w =>
      rw [Value.isNull_iff.mp (h w hstored)]
      exact nofun

theorem Lacks.value? (h : Lacks row column) :
    column.value? row = none ∨ column.value? row = some .null := by
  cases hvalue : column.value? row with
  | none => exact .inl rfl
  | some w => exact .inr (congrArg some (Value.isNull_iff.mp (h w hvalue)))

/-- What is not true of null is not true of the value. -/
theorem Lacks.any (h : Lacks row column) {test : Value → Bool} (hnull : test .null = false) :
    (column.value? row).any test = false := by
  rcases h.value? with hvalue | hvalue
  · rw [hvalue]
    rfl
  · rw [hvalue]
    exact hnull

theorem Lacks.compares (h : Lacks row column) (v : Value) (accept : Ordering → Bool) :
    Sql.compares row column v accept = false := h.any rfl

theorem Lacks.notIn (h : Lacks row column) (vs : List Value) :
    (Predicate.notIn column vs).holds row = false := by
  rw [Predicate.holds]
  exact h.any rfl

theorem Lacks.text? (h : Lacks row column) : column.text? row = none := by
  unfold Column.text?
  rcases h.value? with hvalue | hvalue
  · rw [hvalue]
    rfl
  · rw [hvalue]
    rfl

theorem Lacks.document? (h : Lacks row column) (hpath : column.path = none) :
    column.document? row = none := by
  have hstored : column.value? row = column.stored? row := by rw [Column.value?, hpath]
  unfold Column.document?
  rw [← hstored]
  rcases h.value? with hvalue | hvalue
  · rw [hvalue]
    rfl
  · rw [hvalue]
    rfl

theorem Lacks.contains (h : Lacks row column) (hpath : column.path = none) (v : Value) :
    (Predicate.contains column v).holds row = false := by
  rw [Predicate.holds, h.document? hpath]
  rfl

theorem Lacks.containsAny (h : Lacks row column) (hpath : column.path = none)
    (vs : List Value) : (Plan.containsAny column vs).holds row = false := by
  rw [← Bool.not_eq_true, Filter.holds_containsAny_iff]
  rintro ⟨v, -, hv⟩
  rw [h.contains hpath v] at hv
  cases hv

end Sql

/-! ## Negated conditions -/

namespace Filter

/-- The operator asks for records whose value is not like its operand. -/
def Operator.isNegated : Operator → Bool
  | .neq | .notIn | .notLike | .notRegexp => true
  | _ => false

/-- A condition with a negated operator and an operand that fits it. -/
inductive Negated : Condition → Prop where
  | neq (field : String) (v : Value) : Negated ⟨field, .neq, .scalar v⟩
  | notIn (field : String) (vs : List Value) : Negated ⟨field, .notIn, .list vs⟩
  | notLike (field : String) (v : Value) : Negated ⟨field, .notLike, .scalar v⟩
  | notRegexp (field : String) (v : Value) : Negated ⟨field, .notRegexp, .scalar v⟩

theorem negated_of_accept {field : String} {op : Operator} {operand accepted : Operand}
    (hop : op.isNegated = true) (h : Condition.accept field op operand = .ok accepted) :
    Negated ⟨field, op, accepted⟩ := by
  cases op with
  | neq =>
    cases operand <;> cases h
    exact .neq field _
  | notIn =>
    cases operand with
    | list vs =>
      change (if vs.isEmpty then .error _ else .ok (.list vs)) = Except.ok accepted at h
      split at h
      · cases h
      · cases h
        exact .notIn field vs
    | scalar v =>
      cases h
      exact .notIn field [v]
    | _ => cases h
  | notLike =>
    cases operand <;> cases h
    exact .notLike field _
  | notRegexp =>
    cases operand <;> cases h
    exact .notRegexp field _
  | _ => cases hop

/-- What a negated operator is made with fits it. -/
theorem negated_of_make {field : String} {op : Operator} {operand : Operand} {c : Condition}
    (hop : op.isNegated = true) (h : Condition.make field op operand = .ok c) :
    Negated c ∧ c.field = field ∧ c.operator = op := by
  unfold Condition.make at h
  split at h
  · cases h
  · split at h
    · rename_i accepted haccept
      cases h
      exact ⟨negated_of_accept hop haccept, rfl, rfl⟩
    · cases h

end Filter

/-! ## Negated conditions on rows -/

namespace Plan.Scope

variable {s : Scope} {column : Column}

theorem isDocument_path (h : s.isDocument column = true) : column.path = none := by
  rw [isDocument, Bool.and_eq_true] at h
  exact Option.isNone_iff_eq_none.mp h.1

theorem predicate?_neq {v : Value} :
    s.predicate? column .neq (.scalar v) =
      some (if s.isDocument column then .not (.contains column v) else .ne column v) := by
  unfold predicate?
  dsimp only
  cases s.isDocument column <;> rfl

theorem predicate?_notIn {vs : List Value} :
    s.predicate? column .notIn (.list vs) =
      some (if s.isDocument column then .not (containsAny column vs) else .notIn column vs) := by
  unfold predicate?
  dsimp only
  cases s.isDocument column <;> rfl

theorem predicate?_notLike {v : Value} :
    s.predicate? column .notLike (.scalar v) = some (.notLike column (likePattern v)) := by
  unfold predicate?
  dsimp only
  cases s.isDocument column <;> rfl

theorem predicate?_notRegexp {v : Value} :
    s.predicate? column .notRegexp (.scalar v) =
      some (.notRegexp column (Regex.whole v.patternText)) := by
  unfold predicate?
  dsimp only
  cases s.isDocument column <;> rfl

end Plan.Scope

/-- A negated condition has a predicate wherever its field means a column. On
a row without a value the predicate holds only as the negation of what is asked
of a document. -/
theorem negated_row {c : Condition} (hc : Filter.Negated c) {s : Plan.Scope} {column : Column}
    (hcolumn : s.resolve .filter c.field = .ok column) :
    ∃ p, s.condition c = .ok p ∧ ∀ row, Sql.Lacks row column →
      (p.holds row = true ↔
        s.isDocument column = true ∧ (c.operator = .neq ∨ c.operator = .notIn)) := by
  have hpredicate : ∀ p, s.predicate? column c.operator c.operand = some p →
      s.condition c = .ok p :=
    fun p hp => Plan.Scope.condition_eq_ok_iff.mpr ⟨column, hcolumn, hp⟩
  cases hc with
  | neq field v =>
    refine ⟨_, hpredicate _ Plan.Scope.predicate?_neq, fun row hrow => ?_⟩
    cases hdocument : s.isDocument column with
    | true =>
      have hcontains := hrow.contains (Plan.Scope.isDocument_path hdocument) v
      rw [if_pos rfl, Predicate.holds, hcontains]
      exact iff_of_true rfl ⟨rfl, .inl rfl⟩
    | false =>
      rw [if_neg Bool.false_ne_true, Predicate.holds, hrow.compares]
      exact iff_of_false Bool.false_ne_true fun h => Bool.false_ne_true h.1
  | notIn field vs =>
    refine ⟨_, hpredicate _ Plan.Scope.predicate?_notIn, fun row hrow => ?_⟩
    cases hdocument : s.isDocument column with
    | true =>
      have hcontains := hrow.containsAny (Plan.Scope.isDocument_path hdocument) vs
      rw [if_pos rfl, Predicate.holds, hcontains]
      exact iff_of_true rfl ⟨rfl, .inr rfl⟩
    | false =>
      rw [if_neg Bool.false_ne_true, hrow.notIn]
      exact iff_of_false Bool.false_ne_true fun h => Bool.false_ne_true h.1
  | notLike field v =>
    refine ⟨_, hpredicate _ Plan.Scope.predicate?_notLike, fun row hrow => ?_⟩
    rw [Predicate.holds, hrow.text?]
    exact iff_of_false Bool.false_ne_true (by simp)
  | notRegexp field v =>
    refine ⟨_, hpredicate _ Plan.Scope.predicate?_notRegexp, fun row hrow => ?_⟩
    rw [Predicate.holds, hrow.text?]
    exact iff_of_false Bool.false_ne_true (by simp)

/-! ## Negated conditions on documents -/

/-- A negated condition asks for a value first. -/
theorem negated_document {c : Condition} (hc : Filter.Negated c) :
    ∃ clause, Search.condition c = .ok clause ∧
      ∀ doc, ¬ Indices.HasValue doc c.field → ¬ Indices.Holds clause doc := by
  have hpresent : ∀ q doc, ¬ Indices.HasValue doc c.field →
      ¬ Indices.Holds ⟨Search.presentBut c.field q, false⟩ doc := by
    intro q doc hnone hholds
    rw [Indices.Holds, Flat.finds_presentBut, Indices.finds,
      Indices.valuesAt_eq_nil_iff.mpr hnone] at hholds
    cases hholds
  cases hc with
  | neq field v => exact ⟨_, rfl, hpresent _⟩
  | notIn field vs => exact ⟨_, rfl, hpresent _⟩
  | notLike field v => exact ⟨_, rfl, hpresent _⟩
  | notRegexp field v => exact ⟨_, rfl, hpresent _⟩

/-! ## Negated conditions -/

/-- A negated condition that is accepted finds no document without a value at
its field. Of the rows without a value in its column it finds none, or, where
it asks a column of documents for other values, all. -/
theorem a_negated_condition_finds_what_has_no_value_in_columns_of_documents_alone
    {field : String} {op : Operator} {operand : Operand} {c : Condition}
    (hop : op.isNegated = true) (h : Condition.make field op operand = .ok c) :
    (∀ (s : Plan.Scope) (column : Column), s.resolve .filter field = .ok column →
      ∃ p, s.condition c = .ok p ∧ ∀ row, Sql.Lacks row column →
        (p.holds row = true ↔ s.isDocument column = true ∧ (op = .neq ∨ op = .notIn))) ∧
    ∃ clause, Search.condition c = .ok clause ∧
      ∀ doc, ¬ Indices.HasValue doc field → ¬ Indices.Holds clause doc := by
  obtain ⟨hnegated, rfl, rfl⟩ := Filter.negated_of_make hop h
  exact ⟨fun s column hcolumn => negated_row hnegated hcolumn, negated_document hnegated⟩

/-- A row without tags and a title is found by its tags and not by its title,
and a document without tags is not found. -/
theorem negated_conditions_find_a_row_without_tags_and_no_such_document :
    let s : Plan.Scope := {
      entity := { name := "product", storage := "products" }
      columns := [("id", .integer), ("tags", .json), ("title", .text)] }
    let tags : Condition := ⟨"tags", .neq, .scalar (.text "blue")⟩
    let title : Condition := ⟨"title", .notLike, .scalar (.text "*stool")⟩
    let row : Row := [("id", .int 2), ("title", .null)]
    (∃ p, s.condition tags = .ok p ∧ p.holds row = true) ∧
      (∃ p, s.condition title = .ok p ∧ ¬ p.holds row = true) ∧
      ∃ clause, Search.condition tags = .ok clause ∧
        ¬ Indices.Holds clause (.obj [("id", .int 2), ("tags", .arr [.null])]) := by
  intro s tags title row
  have hlacks : Sql.Lacks row (.plain "tags") ∧ Sql.Lacks row (.plain "title") := by
    refine ⟨nofun, Sql.lacks_of_stored ?_⟩
    rintro _ ⟨⟩
    rfl
  have hmake : Condition.make "tags" .neq (.scalar (.text "blue")) = .ok tags := rfl
  have hmake' : Condition.make "title" .notLike (.scalar (.text "*stool")) = .ok title := rfl
  obtain ⟨htags, clause, hclause, hdocument⟩ :=
    a_negated_condition_finds_what_has_no_value_in_columns_of_documents_alone rfl hmake
  obtain ⟨htitle, -⟩ :=
    a_negated_condition_finds_what_has_no_value_in_columns_of_documents_alone rfl hmake'
  obtain ⟨p, hp, hrow⟩ := htags s (.plain "tags") rfl
  obtain ⟨q, hq, hrow'⟩ := htitle s (.plain "title") rfl
  refine ⟨⟨p, hp, (hrow row hlacks.1).mpr ⟨rfl, .inl rfl⟩⟩, ⟨q, hq, fun hholds => ?_⟩,
    clause, hclause, hdocument _ (Indices.valuesAt_eq_nil_iff.mp rfl)⟩
  exact Bool.false_ne_true ((hrow' row hlacks.2).mp hholds).1

end EntityStore
