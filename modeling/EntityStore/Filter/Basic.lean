-- Filters: conditions on fields, and groups of conditions. A record passes
-- a list of groups when it passes each group. A group asks for all of its
-- conditions or for one of them.
import EntityStore.Error
import EntityStore.Value.Basic

namespace EntityStore.Filter

/-! ## Operators -/

inductive Operator where
  | eq
  | neq
  | isIn
  | notIn
  | between
  | like
  | notLike
  | regexp
  | notRegexp
  | exists
  | notExists
  | lt
  | gt
  | lte
  | gte
  | notNull
  | inOrLikes
  deriving DecidableEq, Repr

namespace Operator

/-- All operators. -/
def all : List Operator :=
  [.eq, .neq, .isIn, .notIn, .between, .like, .notLike, .regexp, .notRegexp, .exists,
    .notExists, .lt, .gt, .lte, .gte, .notNull, .inOrLikes]

def name : Operator → String
  | .eq => "eq"
  | .neq => "neq"
  | .isIn => "in"
  | .notIn => "not_in"
  | .between => "between"
  | .like => "like"
  | .notLike => "not_like"
  | .regexp => "regexp"
  | .notRegexp => "not_regexp"
  | .exists => "exists"
  | .notExists => "not_exists"
  | .lt => "lt"
  | .gt => "gt"
  | .lte => "lte"
  | .gte => "gte"
  | .notNull => "not_null"
  | .inOrLikes => "in_or_likes"

/-- The operator of a name, in any case of the letters of ASCII. -/
def ofName? (s : String) : Option Operator :=
  let lowered := String.ofList (s.toList.map Char.toLower)
  all.find? fun op => op.name == lowered

/-- The operator compares with something. -/
def takesValue : Operator → Bool
  | .exists => false
  | .notExists => false
  | .notNull => false
  | _ => true

/-- The operator compares with a list of values. -/
def takesList : Operator → Bool
  | .isIn => true
  | .notIn => true
  | .inOrLikes => true
  | _ => false

/-- The name of an operator as diagnostics show it. -/
def shown : Operator → String
  | .eq => "Eq"
  | .neq => "Neq"
  | .isIn => "In"
  | .notIn => "NotIn"
  | .between => "Between"
  | .like => "Like"
  | .notLike => "NotLike"
  | .regexp => "Regexp"
  | .notRegexp => "NotRegexp"
  | .exists => "Exists"
  | .notExists => "NotExists"
  | .lt => "Lt"
  | .gt => "Gt"
  | .lte => "Lte"
  | .gte => "Gte"
  | .notNull => "NotNull"
  | .inOrLikes => "InOrLikes"

end Operator

/-! ## Operands -/

/-- What an operator compares with. -/
inductive Operand where
  | absent
  | scalar (v : Value)
  | list (vs : List Value)
  | range (low high : Value)

/-- An operand as diagnostics show it. -/
def Operand.shown : Operand → String
  | .absent => "Absent"
  | .scalar v => "Scalar(" ++ v.shown ++ ")"
  | .list vs => "List(" ++ bracketed (vs.map Value.shown) ++ ")"
  | .range low high => "Range \x7b from: " ++ low.shown ++ ", to: " ++ high.shown ++ " \x7d"

/-! ## Conditions -/

structure Condition where
  field : String
  operator : Operator
  operand : Operand

namespace Condition

def eq (field : String) (v : Value) : Condition := ⟨field, .eq, .scalar v⟩

def inList (field : String) (vs : List Value) : Condition := ⟨field, .isIn, .list vs⟩

def between (field : String) (low high : Value) : Condition := ⟨field, .between, .range low high⟩

/-- The operand that an operator makes of the given one: an operator for
lists takes a single value as a list of one. -/
def accept (field : String) (op : Operator) (operand : Operand) : Except String Operand :=
  if !op.takesValue then
    match operand with
    | .absent => .ok .absent
    | _ => .error s!"operator '{op.name}' on '{field}' takes no value"
  else
    match op, operand with
    | _, .absent => .error s!"operator '{op.name}' on '{field}' requires a value"
    | .between, .range low high =>
      if low.isNull || high.isNull then
        .error s!"between on '{field}' requires both 'from' and 'to'"
      else .ok (.range low high)
    | .between, _ => .error s!"between on '{field}' requires a from/to range"
    | _, .scalar v => .ok (if op.takesList then .list [v] else .scalar v)
    | _, .list vs =>
      if op.takesList then
        if vs.isEmpty then
          .error s!"operator '{op.name}' on '{field}' requires at least one value"
        else .ok (.list vs)
      else
        .error s!"operator '{op.name}' on '{field}' does not accept {operand.shown}"
    | _, .range _ _ =>
      .error s!"operator '{op.name}' on '{field}' does not accept {operand.shown}"

/-- A condition whose operand fits its operator. -/
def make (field : String) (op : Operator) (operand : Operand) : Except AccessError Condition :=
  if field.isEmpty then .error (.invalidFilter "field name is empty")
  else
    match accept field op operand with
    | .ok operand => .ok ⟨field, op, operand⟩
    | .error message => .error (.invalidFilter message)

/-- The error of an operand that does not fit its operator. -/
def misfit (c : Condition) : AccessError :=
  .invalidFilter s!"operator '{c.operator.name}' on '{c.field}' cannot take {c.operand.shown}"

/-- A condition as diagnostics show it. -/
def shown (c : Condition) : String :=
  "FilterCondition \x7b field: " ++ Text.quoted c.field ++ ", operator: " ++ c.operator.shown ++
    ", value: " ++ c.operand.shown ++ " \x7d"

end Condition

/-! ## Groups -/

inductive Logic where
  | and
  | or
  deriving DecidableEq, Repr

def Logic.name : Logic → String
  | .and => "and"
  | .or => "or"

structure Group where
  logic : Logic := .and
  conditions : List Condition

namespace Group

def all (conditions : List Condition) : Group := ⟨.and, conditions⟩

def any (conditions : List Condition) : Group := ⟨.or, conditions⟩

def isEmpty (g : Group) : Bool := g.conditions.isEmpty

/-- A group asks for one of its conditions only when it has a choice. -/
def effective (g : Group) : Logic := if g.conditions.length < 2 then .and else g.logic

def fields (g : Group) : List String := g.conditions.map (·.field)

/-- The groups without the conditions on some fields. A group that has none
left is dropped. -/
def withoutFields (excluded : List String) (groups : List Group) : List Group :=
  (groups.map fun g =>
    { g with conditions := g.conditions.filter fun c => !excluded.contains c.field }).filter
    fun g => !g.isEmpty

/-- A group as diagnostics show it. -/
def shown (g : Group) : String :=
  let logic := match g.logic with
    | .and => "And"
    | .or => "Or"
  "FilterGroup \x7b logic: " ++ logic ++ ", conditions: " ++
    bracketed (g.conditions.map Condition.shown) ++ " \x7d"

end Group

end EntityStore.Filter
