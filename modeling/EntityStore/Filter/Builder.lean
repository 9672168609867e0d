-- What callers write for the filter of one field: a value, a range, a list of values, an
-- operator with its operand, or a list of such operators. And groups of conditions that grow
-- call by call. The last group may be open: then further conditions join it. A group of its own
-- closes it. All filters by identity share one condition, whose place is remembered.
import EntityStore.Filter.Basic
import EntityStore.Value.Order

namespace EntityStore.Filter

/-- The filter of one field. -/
inductive Input where
  | equality (v : Value)
  | range (low high : Option Value)
  | operator (op : Operator) (operand : Operand)
  | operators (entries : List (Operator × Operand))

namespace Input

def isList : Input → Bool
  | .operators _ => true
  | _ => false

/-! ## Reading -/

/-- The operand that a document writes for an operator. -/
def operand (field : String) (op : Operator) (raw : Json) : Except AccessError Operand :=
  if !op.takesValue || raw.isNull then .ok .absent
  else
    match op, raw with
    | .between, .obj members =>
      let bound (k : String) : Value := ((Fields.get? members k).map Value.ofJson).getD .null
      .ok (.range (bound "from") (bound "to"))
    | .between, _ =>
      .error (.invalidFilter s!"between on '{field}' expects an object with 'from' and 'to'")
    | op, .arr items =>
      .ok (if op.takesList then .list (items.map Value.ofJson) else .scalar (Value.ofJson raw))
    | _, raw => .ok (.scalar (Value.ofJson raw))

/-- An object with one member that names an operator. Anything else is no
such entry. -/
def entry? (field : String) (input : Json) : Except AccessError (Option (Operator × Operand)) :=
  match input with
  | .obj [(key, raw)] =>
    match Operator.ofName? key with
    | none => .ok none
    | some op => (operand field op raw).map fun operand => some (op, operand)
  | _ => .ok none

/-- The names that stand where an operator was expected. -/
def unknownNames : Json → String
  | .obj members => ",".intercalate (Fields.keys members)
  | .arr items => ",".intercalate (items.flatMap fun item => (item.members?.getD []).keys)
  | _ => ""

/-- A filter of no known form: refused, or an equality with its text. -/
def unknown (field : String) (input : Json) (lenient : Bool) : Except AccessError Input :=
  if lenient then .ok (.equality (.text input.compact))
  else .error (.unknownOperator field (unknownNames input))

/-- The entries of a list, when each item is one. -/
def entries? (field : String) : List Json → Except AccessError (Option (List (Operator × Operand)))
  | [] => .ok (some [])
  | item :: rest => do
    match ← entry? field item with
    | none => return none
    | some e => return (← entries? field rest).map (e :: ·)

/-- A range with at least one bound named. A null bound is no bound. -/
def range? (members : Fields Json) : Option Input :=
  if !members.isEmpty && members.keys.all (fun k => k == "from" || k == "to") then
    some (.range ((Json.present? members "from").map Value.ofJson)
      ((Json.present? members "to").map Value.ofJson))
  else none

/-- The filter of a field that a document writes. -/
def read (field : String) (input : Json) (lenient : Bool) : Except AccessError Input :=
  match input with
  | .null => .error (.invalidFilter s!"null filter value for '{field}'")
  | .obj members =>
    match range? members with
    | some filter => .ok filter
    | none => do
      match ← entry? field input with
      | some (op, operand) => return .operator op operand
      | none => unknown field input lenient
  | .arr items =>
    if items.all Json.isScalar then .ok (.operator .isIn (.list (items.map Value.ofJson)))
    else do
      match ← entries? field items with
      | some entries => return .operators entries
      | none => unknown field input lenient
  | scalar => .ok (.equality (Value.ofJson scalar))

/-! ## Conditions -/

/-- The conditions that a filter puts on its field. -/
def conditions (field : String) : Input → Except AccessError (List Condition)
  | .equality v => (Condition.make field .eq (.scalar v)).map ([·])
  | .range (some low) (some high) => (Condition.make field .between (.range low high)).map ([·])
  | .range (some low) none => (Condition.make field .gte (.scalar low)).map ([·])
  | .range none (some high) => (Condition.make field .lte (.scalar high)).map ([·])
  | .range none none =>
    .error (.invalidFilter s!"range on '{field}' has neither 'from' nor 'to'")
  | .operator op operand => (Condition.make field op operand).map ([·])
  | .operators entries => entries.mapM fun (op, operand) => Condition.make field op operand

end Input

structure Builder where
  groups : List Group := []
  /-- Further conditions join the last group. -/
  isOpen : Bool := false
  /-- The place of the identity condition: its group, and its place there. -/
  idsAt : Option (Nat × Nat) := none

namespace Builder

def isEmpty (b : Builder) : Bool := b.groups.all Group.isEmpty

/-- Further conditions, which a record has to meet all. -/
def extend (b : Builder) (conditions : List Condition) : Builder :=
  if b.isOpen then
    { b with groups := b.groups.modify (b.groups.length - 1) fun g =>
        { g with conditions := g.conditions ++ conditions } }
  else { b with groups := b.groups ++ [.all conditions], isOpen := true }

/-- A closed group at the end. -/
def close (b : Builder) (g : Group) : Builder :=
  { b with groups := b.groups ++ [g], isOpen := false }

/-! ## Filters -/

/-- The filter of a field. A list of operators of which one is enough makes
a group of its own. -/
def addFilter (b : Builder) (field : String) (filter : Input) (logic : Logic) :
    Except AccessError Builder := do
  let conditions ← filter.conditions field
  if filter.isList && logic == .or && conditions.length > 1 then
    return b.close (.any conditions)
  else return b.extend conditions

def addCondition (b : Builder) (c : Condition) : Builder := b.extend [c]

/-- A group of its own. An empty group is left out. -/
def addGroup (b : Builder) (g : Group) : Builder := if g.isEmpty then b else b.close g

/-! ## Identities -/

/-- The identities that are not null, each once, in the order of their first
occurrence. -/
def cleanIds (ids : List Value) : List Value := Value.distinct (ids.filter fun v => !v.isNull)

/-- The values that a condition lists. -/
def Operand.listed : Operand → List Value
  | .list vs => vs
  | _ => []

/-- The condition at a place. -/
def conditionAt? (b : Builder) (place : Nat × Nat) : Option Condition :=
  (b.groups[place.1]?).bind fun g => g.conditions[place.2]?

/-- The builder with another operand at a place. -/
def setOperand (b : Builder) (place : Nat × Nat) (operand : Operand) : Builder :=
  { b with groups := b.groups.modify place.1 fun g =>
      { g with conditions := g.conditions.modify place.2 fun c => { c with operand := operand } } }

/-- The place of the last condition. -/
def lastPlace (b : Builder) : Nat × Nat :=
  let i := b.groups.length - 1
  (i, ((b.groups[i]?).map fun g => g.conditions.length - 1).getD 0)

/-- Only records with one of these identities, or of those asked for before.
The answer holds all identities in effect. -/
def addIds (b : Builder) (idField : String) (ids : List Value) :
    Except AccessError (Builder × List Value) :=
  match b.idsAt with
  | some place =>
    let known := ((b.conditionAt? place).map fun c => Operand.listed c.operand).getD []
    let merged := cleanIds (known ++ ids)
    .ok (b.setOperand place (.list merged), merged)
  | none => do
    let fresh := cleanIds ids
    if fresh.isEmpty then throw (.invalidFilter "ids filter needs at least one id")
    let c ← Condition.make idField .isIn (.list fresh)
    let b := b.extend [c]
    return ({ b with idsAt := some b.lastPlace }, fresh)

end Builder

end EntityStore.Filter
