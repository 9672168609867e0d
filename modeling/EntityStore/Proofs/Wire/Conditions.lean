-- The two ways to write a condition: an operator with its value as the filter
-- of a field, and a condition among the filters of criteria. Both give the
-- same condition or refuse it. What they give has a clause in a document
-- store, and a predicate in a table where its field means a column.
import EntityStore.Filter.Builder
import EntityStore.Proofs.Plan.Groups
import EntityStore.Proofs.Plan.Names
import EntityStore.Search.Conditions
import EntityStore.Wire.Contract

namespace EntityStore.Filter

/-! ## Operands that fit -/

/-- The operand is what conditions with the operator have: nothing where it
takes no value, two bounds for a range, at least one value of a list, and one
value elsewhere. -/
inductive Operand.Fits : Operator → Operand → Prop
  | absent {op : Operator} : op.takesValue = false → Fits op .absent
  | range (low high : Value) : Fits .between (.range low high)
  | list {op : Operator} {vs : List Value} : op.takesList = true → vs ≠ [] → Fits op (.list vs)
  | scalar {op : Operator} (v : Value) :
      op.takesValue = true → op.takesList = false → op ≠ .between → Fits op (.scalar v)

variable {field name : String} {op : Operator} {operand accepted : Operand} {c : Condition}

theorem fits_of_accept (h : Condition.accept field op operand = .ok accepted) :
    accepted.Fits op := by
  unfold Condition.accept at h
  split at h
  · rename_i hvalue
    split at h <;> cases h
    exact .absent (by simpa using hvalue)
  · rename_i hvalue
    have hvalue : op.takesValue = true := by simpa using hvalue
    split at h
    · cases h
    · split at h <;> cases h
      exact .range _ _
    · cases h
    · rename_i v hbetween
      cases h
      split
      · rename_i hlist
        exact .list hlist (List.cons_ne_nil v [])
      · rename_i hlist
        exact .scalar v hvalue (by simpa using hlist) fun hop => hbetween hop
    · split at h
      · rename_i hlist
        split at h
        · cases h
        · rename_i hne
          cases h
          exact .list hlist (by simpa using hne)
      · cases h
    · cases h

/-- A document store has a clause for an operand that fits. -/
theorem exists_clause (h : operand.Fits op) (field : String) :
    ∃ clause, Search.clause? field op operand = some clause := by
  cases h with
  | absent hvalue => cases op <;> first | exact ⟨_, rfl⟩ | cases hvalue
  | range low high => exact ⟨_, rfl⟩
  | list hlist hne => cases op <;> first | exact ⟨_, rfl⟩ | cases hlist
  | scalar v hvalue hlist hbetween =>
    cases op <;> first
      | exact ⟨_, rfl⟩
      | exact absurd hvalue (by decide)
      | exact absurd hlist (by decide)
      | exact absurd rfl hbetween

theorem exists_inOrLikes (column : Sql.Column) {vs : List Value} (h : vs ≠ []) :
    ∃ p, Plan.inOrLikes column vs = some p := by
  cases hp : Plan.inOrLikes column vs with
  | some p => exact ⟨p, rfl⟩
  | none =>
    -- Neither a pattern nor another value would be among the values.
    unfold Plan.inOrLikes at hp
    rw [Sql.anyOf_eq_none_iff, List.append_eq_nil_iff, List.map_eq_nil_iff] at hp
    obtain ⟨hexact, hpatterns⟩ := hp
    obtain ⟨v, hv⟩ := List.exists_mem_of_ne_nil vs h
    cases hpattern : Plan.isPattern v with
    | true =>
      have hmem : v ∈ vs.filter Plan.isPattern := List.mem_filter.mpr ⟨hv, hpattern⟩
      rw [hpatterns] at hmem
      cases hmem
    | false =>
      have hmem : v ∈ vs.filter fun v => !Plan.isPattern v :=
        List.mem_filter.mpr ⟨hv, by rw [hpattern]; rfl⟩
      split at hexact
      · rename_i hempty
        rw [List.isEmpty_iff.mp hempty] at hmem
        cases hmem
      · cases hexact

/-- A column has a predicate for an operand that fits. -/
theorem exists_predicate (h : operand.Fits op) (s : Plan.Scope) (column : Sql.Column) :
    ∃ p, s.predicate? column op operand = some p := by
  cases h with
  | absent hvalue =>
    cases op <;> cases hvalue <;> unfold Plan.Scope.predicate? <;> dsimp only <;>
      cases s.isDocument column <;> exact ⟨_, rfl⟩
  | range low high =>
    unfold Plan.Scope.predicate?
    dsimp only
    cases s.isDocument column <;> exact ⟨_, rfl⟩
  | list hlist hne =>
    cases op with
    | inOrLikes => exact exists_inOrLikes column hne
    | isIn | notIn =>
      unfold Plan.Scope.predicate?
      dsimp only
      cases s.isDocument column <;> exact ⟨_, rfl⟩
    | _ => cases hlist
  | scalar v hvalue hlist hbetween =>
    unfold Plan.Scope.predicate?
    cases op <;> first
      | exact absurd hvalue (by decide)
      | exact absurd hlist (by decide)
      | exact absurd rfl hbetween
      | (dsimp only; cases s.isDocument column <;> exact ⟨_, rfl⟩)

/-! ## What is accepted -/

theorem accept_absent (hvalue : op.takesValue = false) :
    Condition.accept field op .absent = .ok .absent := by
  cases op <;> first | rfl | exact absurd hvalue (by decide)

theorem accept_nothing (field : String) (hvalue : op.takesValue = true) :
    ∃ m, Condition.accept field op .absent = .error m := by
  cases op <;> first | exact ⟨_, rfl⟩ | exact absurd hvalue (by decide)

theorem accept_list (hlist : op.takesList = true) {vs : List Value} :
    (∃ accepted, Condition.accept field op (.list vs) = .ok accepted) ↔ vs ≠ [] := by
  have haccept : ∃ m, Condition.accept field op (.list vs) =
      if vs.isEmpty then .error m else .ok (.list vs) := by
    cases op <;> first | exact ⟨_, rfl⟩ | exact absurd hlist (by decide)
  obtain ⟨m, haccept⟩ := haccept
  rw [haccept]
  cases vs with
  | nil => simp
  | cons v rest => exact ⟨fun _ => List.cons_ne_nil v rest, fun _ => ⟨_, rfl⟩⟩

theorem accept_scalar (hvalue : op.takesValue = true) (hbetween : op ≠ .between) (v : Value) :
    ∃ accepted, Condition.accept field op (.scalar v) = .ok accepted := by
  cases op <;> first
    | exact ⟨_, rfl⟩
    | exact absurd hvalue (by decide)
    | exact absurd rfl hbetween

theorem accept_range {low high : Value} :
    (∃ accepted, Condition.accept field .between (.range low high) = .ok accepted) ↔
      low.isNull = false ∧ high.isNull = false := by
  have haccept : ∃ m, Condition.accept field .between (.range low high) =
      if low.isNull || high.isNull then .error m else .ok (.range low high) := ⟨_, rfl⟩
  obtain ⟨m, haccept⟩ := haccept
  rw [haccept]
  cases low.isNull <;> cases high.isNull <;> simp

/-- A condition is made where its field has a name and its operand is
accepted. Where it is not, it is refused as a filter that is not valid. -/
theorem make_cases (field : String) (op : Operator) (operand : Operand) :
    (field ≠ "" ∧ ∃ accepted, Condition.accept field op operand = .ok accepted ∧
        Condition.make field op operand = .ok ⟨field, op, accepted⟩) ∨
      ¬(field ≠ "" ∧ ∃ accepted, Condition.accept field op operand = .ok accepted) ∧
        ∃ m, Condition.make field op operand = .error (.invalidFilter m) := by
  unfold Condition.make
  split
  · rename_i hempty
    exact .inr ⟨fun h => h.1 (String.isEmpty_iff.mp hempty), _, rfl⟩
  · rename_i hne
    cases haccept : Condition.accept field op operand with
    | ok accepted => exact .inl ⟨fun h => hne (String.isEmpty_iff.mpr h), accepted, rfl, rfl⟩
    | error m => exact .inr ⟨fun ⟨_, _, h⟩ => (nomatch h), m, rfl⟩

/-! ## What a document writes -/

/-- The operator takes what the document writes: anything if it takes no value, two bounds for a
range, and no empty list where it takes a list. Elsewhere it takes all but null. -/
def Operator.Takes (op : Operator) (v : Json) : Prop :=
  op.takesValue = true →
    v ≠ .null ∧ (op.takesList = true → v ≠ .arr []) ∧
      (op = .between → ∃ members low high, v = .obj members ∧
        Fields.get? members "from" = some low ∧ low ≠ .null ∧
        Fields.get? members "to" = some high ∧ high ≠ .null)

/-- The operand of a condition of criteria, where null stands for none. -/
def Operator.wired (op : Operator) (v : Json) : Operand :=
  Wire.operandOf op ((some v).filter fun v => !v.isNull)

/-- The bound of a range that the members of a document write. -/
def boundOf (members : Fields Json) (k : String) : Value :=
  ((Fields.get? members k).map Value.ofJson).getD .null

variable {v : Json} {members : Fields Json}

theorem isNull_ofJson_iff {j : Json} : (Value.ofJson j).isNull = true ↔ j = .null := by
  cases j with
  | int n =>
    rw [Value.ofJson]
    split <;> simp [Value.isNull]
  | _ => simp [Value.ofJson, Value.isNull]

theorem isNull_boundOf_iff {k : String} :
    (boundOf members k).isNull = false ↔ ∃ j, Fields.get? members k = some j ∧ j ≠ .null := by
  unfold boundOf
  cases Fields.get? members k with
  | none => simp [Value.isNull]
  | some j => simp [← isNull_ofJson_iff]

theorem wired_of_takesNone (hvalue : op.takesValue = false) : op.wired v = .absent := by
  cases op <;> first | rfl | exact absurd hvalue (by decide)

theorem wired_null : op.wired .null = .absent := by cases op <;> rfl

theorem wired_between (hnull : v ≠ .null) :
    (∃ members, v = .obj members ∧
        Operator.between.wired v = .range (boundOf members "from") (boundOf members "to")) ∨
      (∀ members, v ≠ .obj members) ∧ Operator.between.wired v = .scalar (Value.ofJson v) := by
  cases v with
  | null => exact absurd rfl hnull
  | obj members => exact .inl ⟨members, rfl, rfl⟩
  | _ => exact .inr ⟨nofun, rfl⟩

theorem wired_of_takesList (hlist : op.takesList = true) (hnull : v ≠ .null) :
    (∃ items, v = .arr items ∧ op.wired v = .list (items.map Value.ofJson)) ∨
      (∀ items, v ≠ .arr items) ∧ op.wired v = .scalar (Value.ofJson v) := by
  cases op <;> first | exact absurd hlist (by decide) | skip
  all_goals
    cases v with
    | null => exact absurd rfl hnull
    | arr items => exact .inl ⟨items, rfl, rfl⟩
    | _ => exact .inr ⟨nofun, rfl⟩

theorem wired_scalar (hvalue : op.takesValue = true) (hlist : op.takesList = false)
    (hbetween : op ≠ .between) (hnull : v ≠ .null) : op.wired v = .scalar (Value.ofJson v) := by
  cases op <;> first
    | exact absurd hvalue (by decide)
    | exact absurd hlist (by decide)
    | exact absurd rfl hbetween
    | (cases v <;> first | rfl | exact absurd rfl hnull)

theorem ne_between_of_takesList (hlist : op.takesList = true) : op ≠ .between := by
  rintro rfl
  cases hlist

/-- The operand of a condition is accepted where the operator takes what the
document writes. -/
theorem accept_wired_iff :
    (∃ accepted, Condition.accept field op (op.wired v) = .ok accepted) ↔ op.Takes v := by
  cases hvalue : op.takesValue with
  | false =>
    rw [wired_of_takesNone hvalue, accept_absent hvalue, Operator.Takes, hvalue]
    simp
  | true =>
    rw [Operator.Takes, forall_prop_of_true hvalue]
    by_cases hnull : v = .null
    · subst hnull
      obtain ⟨m, hnothing⟩ := accept_nothing field hvalue
      rw [wired_null, hnothing]
      simp
    · cases hlist : op.takesList with
      | true =>
        rcases wired_of_takesList hlist hnull with ⟨items, rfl, hwired⟩ | ⟨hother, hwired⟩
        · rw [hwired, accept_list hlist]
          simp [ne_between_of_takesList hlist]
        · rw [hwired]
          simp [accept_scalar hvalue (ne_between_of_takesList hlist), hnull, hother,
            ne_between_of_takesList hlist]
      | false =>
        by_cases hbetween : op = .between
        · subst hbetween
          rcases wired_between hnull with ⟨members, rfl, hwired⟩ | ⟨hother, hwired⟩
          · rw [hwired, accept_range, isNull_boundOf_iff, isNull_boundOf_iff]
            constructor
            · rintro ⟨⟨low, hlow, hlow'⟩, high, hhigh, hhigh'⟩
              exact ⟨nofun, nofun, fun _ => ⟨members, low, high, rfl, hlow, hlow', hhigh, hhigh'⟩⟩
            · rintro ⟨-, -, h⟩
              obtain ⟨_, low, high, ⟨⟩, hlow, hlow', hhigh, hhigh'⟩ := h rfl
              exact ⟨⟨low, hlow, hlow'⟩, high, hhigh, hhigh'⟩
          · rw [hwired]
            constructor
            · exact fun ⟨_, h⟩ => nomatch h
            · rintro ⟨-, -, h⟩
              obtain ⟨members, _, _, hmembers, -⟩ := h rfl
              exact absurd hmembers (hother members)
        · rw [wired_scalar hvalue hlist hbetween hnull]
          simp [accept_scalar hvalue hbetween, hnull, hbetween]

/-- The filter of a field reads the same operand. Where it refuses one, a
condition with the operand is refused as well. -/
theorem operand_cases (field : String) (op : Operator) (v : Json) :
    Input.operand field op v = .ok (op.wired v) ∨
      ¬op.Takes v ∧ ∃ m, Input.operand field op v = .error (.invalidFilter m) := by
  cases hvalue : op.takesValue with
  | false =>
    left
    rw [wired_of_takesNone hvalue]
    unfold Input.operand
    rw [if_pos (by simp [hvalue])]
  | true =>
    by_cases hnull : v = .null
    · subst hnull
      left
      rw [wired_null]
      unfold Input.operand
      rw [if_pos (by simp [Json.isNull])]
    · by_cases hbetween : op = .between
      · subst hbetween
        cases v with
        | null => exact absurd rfl hnull
        | obj members => exact .inl rfl
        | _ =>
          refine .inr ⟨fun h => ?_, _, rfl⟩
          obtain ⟨_, _, _, hmembers, -⟩ := (h rfl).2.2 rfl
          cases hmembers
      · left
        cases op <;> first
          | exact absurd hvalue (by decide)
          | exact absurd rfl hbetween
          | (cases v <;> rfl)

/-! ## The two ways to write a condition -/

/-- Criteria that ask for one condition. -/
def wiredCondition (field name : String) (v : Json) : Json :=
  .obj [("filter", .arr [.obj [("group", .arr [.obj
    [("field", .str field), ("operator", .str name), ("value", v)]])]])]

theorem read_entry (hname : Operator.ofName? name = some op) (field : String) (v : Json)
    (lenient : Bool) : Input.read field (.obj [(name, v)]) lenient =
      (Input.operand field op v).map (Input.operator op) := by
  have hrange : Input.range? [(name, v)] = none := by
    have hfrom : name ≠ "from" := by rintro rfl; cases hname
    have hto : name ≠ "to" := by rintro rfl; cases hname
    simp [Input.range?, Fields.keys, hfrom, hto]
  rw [Input.read, hrange]
  simp only [Input.entry?, hname]
  cases Input.operand field op v <;> rfl

theorem resolveGroups_singleton (c : Wire.Condition) :
    Wire.resolveGroups [⟨.and, [c]⟩] = c.resolve.map fun c => [.all [c]] := by
  show [Wire.Group.mk .and [c]].mapM Wire.Group.resolve = _
  rw [List.mapM_cons, List.mapM_nil, Wire.Group.resolve, List.mapM_cons, List.mapM_nil]
  cases c.resolve <;> rfl

theorem ofJson_wiredCondition (hname : Operator.ofName? name = some op) (field : String)
    (v : Json) : Criteria.ofJson (wiredCondition field name v) =
      (Condition.make field op (op.wired v)).map fun c => { filters := [.all [c]] } := by
  have hread : Wire.readContract (wiredCondition field name v) = .ok
      { filters := [⟨.and, [⟨field, name, (some v).filter fun v => !v.isNull⟩]⟩]
        sorts := [], page := none, aggregations := none, postFilters := [], fullText := []
        excluded := [] } := rfl
  have hresolve : Wire.Condition.resolve ⟨field, name, (some v).filter fun v => !v.isNull⟩ =
      Condition.make field op (op.wired v) := by
    rw [Wire.Condition.resolve, hname]
    rfl
  rw [Criteria.ofJson, hread]
  show (Wire.resolveGroups [⟨.and, [⟨field, name, _⟩]⟩] >>= _) = _
  rw [resolveGroups_singleton, hresolve]
  cases Condition.make field op (op.wired v) <;> rfl

end EntityStore.Filter

namespace EntityStore.Plan.Scope

/-! ## Fields that mean no column -/

/-- Why the parts of a field mean no column: the column is not known, or has no documents for a
path to lead into, or filters may not use the path. Columns of joined tables are not looked at. -/
inductive Unresolved (s : Scope) : List String → AccessError → Prop
  | column {head : String} {rest : List String} :
      rest = [] ∨ head ∉ s.joined → s.columns ≠ [] → Fields.contains s.columns head = false →
        Unresolved s (head :: rest) (.query (.columnNotFound s.entity.storage head))
  | document {head next : String} {rest : List String} :
      head ∉ s.joined → Fields.contains s.columns head = true → s.columns.isJson head = false →
        Unresolved s (head :: next :: rest)
          (.query (.invalid s!"column '{head}' is not a JSON column"))
  | path {head next : String} {rest : List String} :
      head ∉ s.joined → s.columns = [] ∨ s.columns.isJson head = true →
        s.entity.allowsJsonFilter head (dotted (head :: next :: rest)) = false →
        Unresolved s (head :: next :: rest)
          (.fieldNotAllowed s.entity.name (dotted (head :: next :: rest)))

variable {s : Scope} {field head : String} {parts rest : List String} {c : Sql.Column}
  {e : AccessError}

theorem withoutOwn_ne_nil (h : parts ≠ []) : s.withoutOwn parts ≠ [] := by
  fun_induction withoutOwn s parts with
  | case1 head next rest hown ih => exact ih (List.cons_ne_nil next rest)
  | case2 head next rest hother => exact List.cons_ne_nil head _
  | case3 parts hparts => exact h

theorem unknown_of_checkColumn (h : s.checkColumn head = .error e) :
    s.columns ≠ [] ∧ Fields.contains s.columns head = false ∧
      e = .query (.columnNotFound s.entity.storage head) := by
  unfold checkColumn at h
  split at h
  · cases h
  · rename_i hknown
    cases h
    rw [Bool.or_eq_true, not_or, List.isEmpty_iff, Bool.not_eq_true] at hknown
    exact ⟨hknown.1, hknown.2, rfl⟩

/-- A path is refused where there are no documents, or where filters may not use
it. -/
theorem refused_of_checkPath {path : String} (h : s.checkPath .filter head path = .error e) :
    s.columns ≠ [] ∧ s.columns.isJson head = false ∧
        e = .query (.invalid s!"column '{head}' is not a JSON column") ∨
      (s.columns = [] ∨ s.columns.isJson head = true) ∧
        s.entity.allowsJsonFilter head path = false ∧
          e = .fieldNotAllowed s.entity.name path := by
  unfold checkPath at h
  split at h
  · rename_i hdocument
    cases h
    rw [Bool.and_eq_true, Bool.not_eq_true', Bool.not_eq_true'] at hdocument
    exact .inl ⟨List.isEmpty_eq_false_iff.mp hdocument.1, hdocument.2, rfl⟩
  · rename_i hdocument
    split at h
    · rename_i hrefused
      cases h
      rw [Bool.and_eq_true, Classical.not_and_iff_not_or_not, Bool.not_eq_true', Bool.not_eq_true',
        Bool.not_eq_false, Bool.not_eq_false, List.isEmpty_iff] at hdocument
      exact .inr ⟨hdocument, by simpa using hrefused, rfl⟩
    · cases h

/-- A column of the entity's table is refused for its name or for its path. -/
theorem unresolved_of_ownColumn (hjoined : rest = [] ∨ head ∉ s.joined)
    (h : s.ownColumn .filter head rest = .error e) : s.Unresolved (head :: rest) e := by
  rcases bind_eq_error_iff.mp h with hcheck | ⟨_, hcheck, h⟩
  · obtain ⟨hcolumns, hunknown, rfl⟩ := unknown_of_checkColumn hcheck
    exact .column hjoined hcolumns hunknown
  · cases rest with
    | nil => cases h
    | cons next rest =>
      have hjoined := hjoined.resolve_left (List.cons_ne_nil next rest)
      have hknown := checkColumn_eq_ok hcheck
      rw [Bool.or_eq_true, List.isEmpty_iff] at hknown
      rcases bind_eq_error_iff.mp h with hpath | ⟨_, -, h⟩
      · rcases refused_of_checkPath hpath with
          ⟨hcolumns, hdocument, rfl⟩ | ⟨hdocument, hrefused, rfl⟩
        · exact .document hjoined (hknown.resolve_left hcolumns) hdocument
        · exact .path hjoined hdocument hrefused
      · cases h

theorem unresolved_of_columnOf (hparts : parts ≠ []) (h : s.columnOf .filter parts = .error e) :
    s.Unresolved parts e := by
  unfold columnOf at h
  split at h
  · exact absurd rfl hparts
  · exact unresolved_of_ownColumn (.inl rfl) h
  · split at h
    · cases h
    · rename_i hjoined
      exact unresolved_of_ownColumn (.inr hjoined) h

theorem not_unresolved_of_columnOf (h : s.columnOf .filter parts = .ok c) :
    ¬s.Unresolved parts e := by
  intro hunresolved
  cases hunresolved with
  | @column head rest hjoined hcolumns hknown =>
    have hown : s.ownColumn .filter head rest = .ok c := by
      cases rest with
      | nil => exact h
      | cons next rest =>
        rwa [columnOf, if_neg (hjoined.resolve_left (List.cons_ne_nil next rest))] at h
    have hcheck := checkColumn_eq_ok (ownColumn_eq_ok hown).1
    rw [hknown, Bool.or_false, List.isEmpty_iff] at hcheck
    exact hcolumns hcheck
  | document hjoined hknown hdocument =>
    rw [columnOf, if_neg hjoined] at h
    have hpath := (ownColumn_eq_ok h).2.2.2 (List.cons_ne_nil _ _)
    have hcolumns : s.columns.isEmpty = false := by
      cases hempty : s.columns with
      | nil => rw [hempty] at hknown; cases hknown
      | cons _ _ => rfl
    rw [checkPath, hcolumns, hdocument] at hpath
    cases hpath
  | path hjoined hdocument hrefused =>
    rw [columnOf, if_neg hjoined] at h
    have hallowed := checkPath_eq_ok ((ownColumn_eq_ok h).2.2.2 (List.cons_ne_nil _ _))
    rw [hrefused] at hallowed
    cases hallowed

/-- A condition whose operand fits has a predicate, unless its field means no
column. -/
theorem condition_of_fits {cond : Filter.Condition} (hfits : cond.operand.Fits cond.operator)
    (s : Scope) :
    match s.condition cond with
    | .ok _ => ∀ e, ¬s.Unresolved (s.withoutOwn (Text.split '.' cond.field)) e
    | .error e => s.Unresolved (s.withoutOwn (Text.split '.' cond.field)) e := by
  cases hresolve : s.resolve .filter cond.field with
  | ok column =>
    obtain ⟨p, hp⟩ := Filter.exists_predicate hfits s column
    rw [condition_eq_ok_iff.mpr ⟨column, hresolve, hp⟩]
    rw [resolve_eq] at hresolve
    exact fun e => not_unresolved_of_columnOf hresolve
  | error e =>
    have hcondition : s.condition cond = .error e := by
      rw [condition, hresolve]
      rfl
    rw [hcondition]
    rw [resolve_eq] at hresolve
    refine unresolved_of_columnOf (withoutOwn_ne_nil ?_) hresolve
    simp [Text.split, Text.splitChars_ne_nil]

end EntityStore.Plan.Scope

namespace EntityStore.Filter

/-- Whatever the field, the spelling of the operator and the document are, the filter of a field
and the condition of criteria give one and the same condition where the field has a name and the
operator takes what the document writes, and both refuse it elsewhere. That condition has a
clause in a document store. In a statement it has a predicate, unless its field means no
column. -/
theorem both_ways_to_write_a_condition_agree {name : String} {op : Operator}
    (hname : Operator.ofName? name = some op) (field : String) (v : Json) (lenient : Bool) :
    let read := Input.read field (.obj [(name, v)]) lenient >>= Input.conditions field
    let wired := Criteria.ofJson (wiredCondition field name v)
    ((field ≠ "" ∧ op.Takes v) ∧ ∃ c : Condition, c.field = field ∧ c.operator = op ∧
        read = .ok [c] ∧ wired = .ok { filters := [.all [c]] } ∧
        (∃ clause, Search.condition c = .ok clause) ∧
        ∀ s : Plan.Scope, match s.condition c with
          | .ok _ => ∀ e, ¬s.Unresolved (s.withoutOwn (Text.split '.' field)) e
          | .error e => s.Unresolved (s.withoutOwn (Text.split '.' field)) e) ∨
      ¬(field ≠ "" ∧ op.Takes v) ∧
        (∃ m, read = .error (.invalidFilter m)) ∧ ∃ m, wired = .error (.invalidFilter m) := by
  intro read wired
  have hwired : wired = _ := ofJson_wiredCondition hname field v
  have hread : read = (Input.operand field op v).map (Input.operator op) >>=
      Input.conditions field := by
    rw [← read_entry hname field v lenient]
  rcases make_cases field op (op.wired v) with
    ⟨hfield, accepted, haccept, hmake⟩ | ⟨hrefused, m, hmake⟩
  · have htakes : op.Takes v := accept_wired_iff.mp ⟨accepted, haccept⟩
    have hfits := fits_of_accept haccept
    obtain ⟨clause, hclause⟩ := exists_clause hfits field
    have hoperand : Input.operand field op v = .ok (op.wired v) :=
      (operand_cases field op v).resolve_right fun h => h.1 htakes
    refine .inl ⟨⟨hfield, htakes⟩, ⟨field, op, accepted⟩, rfl, rfl, ?_, ?_, ⟨clause, ?_⟩,
      Plan.Scope.condition_of_fits hfits⟩
    · rw [hread, hoperand]
      show (Condition.make field op (op.wired v)).map _ = _
      rw [hmake]
      rfl
    · rw [hwired, hmake]
      rfl
    · rw [Search.condition, hclause]
  · rw [accept_wired_iff] at hrefused
    refine .inr ⟨hrefused, ?_, m, by rw [hwired, hmake]; rfl⟩
    rcases operand_cases field op v with hoperand | ⟨-, m', hoperand⟩
    · refine ⟨m, ?_⟩
      rw [hread, hoperand]
      show (Condition.make field op (op.wired v)).map _ = _
      rw [hmake]
      rfl
    · exact ⟨m', by rw [hread, hoperand]; rfl⟩

/-- A range in capital letters, with both of its bounds. -/
theorem a_range_is_written_in_both_ways :
    let v : Json := .obj [("from", .int 10), ("to", .int 20)]
    let c : Condition := .between "price" (.int 10) (.int 20)
    Operator.ofName? "BETWEEN" = some .between ∧
      (Input.read "price" (.obj [("BETWEEN", v)]) false >>= Input.conditions "price") = .ok [c] ∧
      Criteria.ofJson (wiredCondition "price" "BETWEEN" v) = .ok { filters := [.all [c]] } ∧
      ∃ clause, Search.condition c = .ok clause := by
  intro v c
  have hname : Operator.ofName? "BETWEEN" = some .between := by decide
  have htakes : Operator.between.Takes v := fun _ =>
    ⟨nofun, nofun, fun _ => ⟨_, .int 10, .int 20, rfl, rfl, nofun, rfl, nofun⟩⟩
  rcases both_ways_to_write_a_condition_agree hname "price" v false with
    ⟨-, found, -, -, hread, hwired, hclause, -⟩ | ⟨hrefused, -⟩
  · have hfound : found = c := by
      have hread' : (Input.read "price" (.obj [("BETWEEN", v)]) false >>=
          Input.conditions "price") = .ok [c] := rfl
      rw [hread'] at hread
      cases hread
      rfl
    subst hfound
    exact ⟨hname, hread, hwired, hclause⟩
  · exact absurd ⟨by decide, htakes⟩ hrefused

end EntityStore.Filter
