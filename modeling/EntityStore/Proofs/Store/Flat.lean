-- Flat records: each field holds a scalar of the field's kind, or nothing.
-- What criteria ask of such records does not depend on the store.
import EntityStore.Criteria.Basic
import EntityStore.Proofs.Value.Kinds
import EntityStore.Tables.Basic

namespace EntityStore

open EntityStore.Filter (Condition Group Operator Operand)

/-! ## Criteria -/

/-- Criteria for a page of the records that pass some filters. -/
def Criteria.ofPage (filters postFilters : List Group) (sorts : List SortBy) (page : Page) :
    Criteria where
  filters := filters
  postFilters := postFilters
  sorts := sorts
  page := page

/-- The operator asks for a pattern, and not for the place of a value in the
order of values. -/
def Filter.Operator.takesPattern : Operator → Bool
  | .like => true
  | .notLike => true
  | .regexp => true
  | .notRegexp => true
  | .inOrLikes => true
  | _ => false

/-- All values of an operand are of a kind. -/
def Filter.Operand.Has (k : Kind) : Operand → Prop
  | .absent => True
  | .scalar v => k.Has v
  | .list vs => ∀ v ∈ vs, k.Has v
  | .range low high => k.Has low ∧ k.Has high

instance (k : Kind) (operand : Operand) : Decidable (operand.Has k) :=
  match operand with
  | .absent => .isTrue trivial
  | .scalar v => inferInstanceAs (Decidable (k.Has v))
  | .list vs => inferInstanceAs (Decidable (∀ v ∈ vs, k.Has v))
  | .range low high => inferInstanceAs (Decidable (k.Has low ∧ k.Has high))

/-- An accepted condition that compares a field with values of its kind. -/
def Filter.Condition.Suits (k : Kind) (c : Condition) : Prop :=
  c.operator.takesPattern = false ∧
    ∃ operand, operand.Has k ∧ Condition.make c.field c.operator operand = .ok c

/-- The operators that accept an operand with values of a kind. -/
inductive Filter.Accepts (k : Kind) : Operator → Operand → Prop
  | scalar {op : Operator} {v : Value} :
      op ∈ [.eq, .neq, .lt, .lte, .gt, .gte] → k.Has v → Accepts k op (.scalar v)
  | list {op : Operator} {vs : List Value} :
      op ∈ [.isIn, .notIn] → (∀ v ∈ vs, k.Has v) → Accepts k op (.list vs)
  | range {low high : Value} : k.Has low → k.Has high → Accepts k .between (.range low high)
  | absent {op : Operator} : op ∈ [.exists, .notNull, .notExists] → Accepts k op .absent

theorem Filter.accepts_of_accept {k : Kind} {field : String} {op : Operator}
    {operand accepted : Operand} (hpattern : op.takesPattern = false) (hhas : operand.Has k)
    (h : Condition.accept field op operand = .ok accepted) : Filter.Accepts k op accepted := by
  unfold Condition.accept at h
  split at h
  · rename_i hvalue
    split at h <;> cases h
    cases op <;> first | exact .absent (by decide) | exact absurd hvalue (by decide)
  · rename_i hvalue
    split at h
    · cases h
    · split at h <;> cases h
      exact .range hhas.1 hhas.2
    · cases h
    · cases h
      cases op <;> first
        | exact .scalar (by decide) hhas
        | exact .list (by decide) (List.forall_mem_singleton.mpr hhas)
        | exact absurd hpattern (by decide)
        | exact absurd rfl hvalue
        | contradiction
    · split at h
      · rename_i hlist
        split at h <;> cases h
        cases op <;> first
          | exact .list (by decide) hhas
          | exact absurd hpattern (by decide)
          | exact absurd hlist (by decide)
      · cases h
    · cases h

theorem Filter.Condition.Suits.accepts {k : Kind} {c : Condition} (h : c.Suits k) :
    Filter.Accepts k c.operator c.operand := by
  obtain ⟨field, op, accepted⟩ := c
  obtain ⟨hpattern, operand, hhas, hmake⟩ := h
  rw [Condition.make] at hmake
  split at hmake
  · cases hmake
  · split at hmake
    · rename_i haccept
      cases hmake
      exact Filter.accepts_of_accept hpattern hhas haccept
    · cases hmake

/-! ## What conditions ask for -/

namespace Flat

/-- The value of a record in a field. -/
def value (r : Fields Json) (field : String) : Value := ((r.get? field).map Value.ofJson).getD .null

/-- What an operator and its operand ask of a value. -/
def asks (op : Operator) (operand : Operand) (w : Value) : Bool :=
  match op, operand with
  | .eq, .scalar v => w == v
  | .neq, .scalar v => !(w == v)
  | .lt, .scalar v => (Value.order w v).isLT
  | .lte, .scalar v => (Value.order w v).isLE
  | .gt, .scalar v => (Value.order w v).isGT
  | .gte, .scalar v => (Value.order w v).isGE
  | .isIn, .list vs => vs.any (w == ·)
  | .notIn, .list vs => vs.all fun v => !(w == v)
  | .between, .range low high => (Value.order w low).isGE && (Value.order w high).isLE
  | _, _ => true

/-- A condition holds on a record. Only one that asks for no value holds
where there is none. -/
def holds (c : Condition) (r : Fields Json) : Bool :=
  if c.operator = .notExists then (value r c.field).isNull
  else !(value r c.field).isNull && asks c.operator c.operand (value r c.field)

/-- A record passes a group. -/
def passesGroup (g : Group) (r : Fields Json) : Bool :=
  match g.effective with
  | .and => g.conditions.all fun c => holds c r
  | .or => g.conditions.any fun c => holds c r

/-- A record passes all groups. -/
def passes (gs : List Group) (r : Fields Json) : Bool := gs.all fun g => passesGroup g r

/-! ## Order -/

/-- The order of two values in a direction. -/
def directed (d : Sql.Direction) (o : Ordering) : Ordering :=
  match d with
  | .asc => o
  | .desc => o.swap

/-- The order of two records by the sorts. -/
def order : List SortBy → Fields Json → Fields Json → Ordering
  | [], _, _ => .eq
  | s :: sorts, a, b =>
    (directed s.direction (Value.order (value a s.field) (value b s.field))).then (order sorts a b)

/-- The records that pass, in the order of the sorts. -/
def found (filters postFilters : List Group) (sorts : List SortBy)
    (records : List (Fields Json)) : List (Fields Json) :=
  (records.filter fun r => passes filters r && passes postFilters r).mergeSort
    fun a b => (order sorts a b).isLE

/-! ## Records that fit a table -/

/-- What is read of each field is of its kind when each value held is. -/
theorem allows_value {kinds : String → Kind} {r : Fields Json}
    (h : ∀ p ∈ r, (kinds p.1).Allows (Value.ofJson p.2)) (field : String) :
    (kinds field).Allows (value r field) := by
  rw [value]
  cases hj : Fields.get? r field with
  | none => exact (kinds field).allows_null
  | some j => exact h _ (Fields.mem_of_get? hj)

/-- The name of a field is no path. -/
def IsName (field : String) : Prop := Text.hasChar '.' field = false

instance (field : String) : Decidable (IsName field) :=
  inferInstanceAs (Decidable (Text.hasChar '.' field = false))

/-- The table that holds the records of an entity, with no key besides their
identities. -/
def shape (e : Entity) (columns : Columns) : Tables.Shape :=
  .make e.storage e.idField columns []

/-- The columns that statements know: those of the table, and those that the
entity declares. -/
def known (e : Entity) (columns : Columns) : Columns :=
  Fields.extend (shape e columns).columns e.columns

/-- Flat records that fit the table of their entity. -/
structure Fits (e : Entity) (columns : Columns) (kinds : String → Kind)
    (records : List (Fields Json)) : Prop where
  noDocuments : ∀ c ∈ columns ++ e.columns, c.2 ≠ .json
  notNested : e.nestedPaths = []
  ordered : ∀ r ∈ records, r.Ordered
  named : ∀ r ∈ records, ∀ f ∈ r.keys, IsName f ∧ f ∈ (shape e columns).columns.keys
  allowed : ∀ r ∈ records, ∀ f, (kinds f).Allows (value r f)
  identified : ∀ r ∈ records, Kind.integer.Has (value r e.idField)
  distinct : records.Pairwise fun a b => value a e.idField ≠ value b e.idField

theorem Fits.has_value {e : Entity} {columns : Columns} {kinds : String → Kind}
    {records : List (Fields Json)} (h : Fits e columns kinds records) {r : Fields Json}
    (hr : r ∈ records) {f : String} (hnull : value r f ≠ .null) : (kinds f).Has (value r f) :=
  (h.allowed r hr f).resolve_left hnull

/-- Groups whose conditions compare known fields with values of their
kinds. -/
def Suit (e : Entity) (columns : Columns) (kinds : String → Kind) (gs : List Group) : Prop :=
  ∀ g ∈ gs, ∀ c ∈ g.conditions,
    IsName c.field ∧ c.field ∈ (known e columns).keys ∧ c.Suits (kinds c.field)

/-- Sorts by known fields that hold a value in each record. -/
def Sorted (e : Entity) (columns : Columns) (records : List (Fields Json)) (sorts : List SortBy) :
    Prop :=
  ∀ s ∈ sorts, IsName s.field ∧ s.field ∈ (known e columns).keys ∧
    ∀ r ∈ records, value r s.field ≠ .null

end Flat

end EntityStore
