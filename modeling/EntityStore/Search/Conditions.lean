-- Filters as queries of a document store. Conditions under one nested path
-- that belong together have to hold of one and the same object.
import EntityStore.Entity
import EntityStore.Filter.Basic
import EntityStore.Pattern.Wildcard
import EntityStore.Search.Query

namespace EntityStore.Search

/-! ## Clauses -/

/-- A query that has to match, or has not to. -/
structure Clause where
  query : Query
  negated : Bool := false

/-- The clause as one query. -/
def Clause.whole (c : Clause) : Query := if c.negated then c.query.negate else c.query

/-- The field has a value, and the query does not match. -/
def presentBut (field : String) (q : Query) : Query := .bool [] [.exists field] [] [q] none

/-- All clauses hold. -/
def conjunction (cs : List Clause) : Query :=
  ({ filter := (cs.filter fun c => !c.negated).map Clause.query
     mustNot := (cs.filter Clause.negated).map Clause.query } : Junction).query

/-- One of the queries matches; one query stands for itself. -/
def disjunction (qs : List Query) : Query :=
  match qs with
  | [q] => q
  | qs => Junction.anyOf qs

/-! ## Conditions -/

def termOf (field : String) (v : Value) : Query := .term field v.toJson

def termsOf (field : String) (vs : List Value) : Query := .terms field (vs.map Value.toJson)

def wildcardOf (field : String) (v : Value) : Query :=
  .wildcard field (Wildcard.pattern v.patternText) true

def regexpOf (field : String) (v : Value) : Query := .regexp field v.patternText true

/-- The value is a pattern and not a value to be found as it is. -/
def isStarred (v : Value) : Bool := Text.hasChar Like.star v.patternText

/-- One of the values, where those with a star are patterns. -/
def inOrLikes (field : String) (vs : List Value) : Query :=
  let exact := vs.filter fun v => !isStarred v
  disjunction ((if exact.isEmpty then [] else [termsOf field exact]) ++
    (vs.filter isStarred).map (wildcardOf field))

/-- The clause of an operator and its operand, where they fit. -/
def clause? (field : String) (op : Filter.Operator) (operand : Filter.Operand) : Option Clause :=
  match op, operand with
  | .eq, .scalar v => some ⟨termOf field v, false⟩
  | .neq, .scalar v => some ⟨presentBut field (termOf field v), false⟩
  | .isIn, .list vs => some ⟨termsOf field vs, false⟩
  | .notIn, .list vs => some ⟨presentBut field (termsOf field vs), false⟩
  | .between, .range low high =>
    some ⟨.range field { ge := some low.toJson, le := some high.toJson }, false⟩
  | .lt, .scalar v => some ⟨.range field { lt := some v.toJson }, false⟩
  | .lte, .scalar v => some ⟨.range field { le := some v.toJson }, false⟩
  | .gt, .scalar v => some ⟨.range field { gt := some v.toJson }, false⟩
  | .gte, .scalar v => some ⟨.range field { ge := some v.toJson }, false⟩
  | .exists, _ => some ⟨.exists field, false⟩
  | .notNull, _ => some ⟨.exists field, false⟩
  | .notExists, _ => some ⟨.exists field, true⟩
  | .like, .scalar v => some ⟨wildcardOf field v, false⟩
  | .notLike, .scalar v => some ⟨presentBut field (wildcardOf field v), false⟩
  | .regexp, .scalar v => some ⟨regexpOf field v, false⟩
  | .notRegexp, .scalar v => some ⟨presentBut field (regexpOf field v), false⟩
  | .inOrLikes, .list vs => some ⟨inOrLikes field vs, false⟩
  | _, _ => none

/-- The clause of a condition. -/
def condition (c : Filter.Condition) : Except AccessError Clause :=
  match clause? c.field c.operator c.operand with
  | some clause => .ok clause
  | none => .error c.misfit

/-! ## Nested paths -/

/-- The clauses of a group: those of the document itself, and those under
each nested path. -/
structure Partition where
  logic : Filter.Logic
  root : List Clause
  nested : Fields (List Clause)

/-- The clauses by the path that they lie under. -/
def Partition.ofClauses (logic : Filter.Logic) (cs : List (Option String × Clause)) :
    Partition where
  logic := logic
  root := (cs.filter fun c => c.1.isNone).map (·.2)
  nested := (Fields.names (cs.filterMap (·.1))).map fun path =>
    (path, (cs.filter fun c => c.1 == some path).map (·.2))

/-- The clauses of a group. -/
def partition (e : Entity) (g : Filter.Group) : Except AccessError Partition := do
  let cs ← g.conditions.mapM fun c => do return (e.nestedPath? c.field, ← condition c)
  return .ofClauses g.effective cs

/-- The clauses of the groups that have conditions. -/
def partitions (e : Entity) (gs : List Filter.Group) : Except AccessError (List Partition) :=
  (gs.filter fun g => !g.isEmpty).mapM (partition e)

/-- The query on the objects under a path. -/
def container (e : Entity) (withHits : Bool) (path : String) (q : Query) : Query :=
  .nested path q
    (if withHits && e.innerHits.contains path then some (single "name" (.str path)) else none)

/-! ## Groups -/

/-- What a group adds to the filters of a junction. -/
def Partition.filters (e : Entity) (withHits : Bool) (p : Partition) : List Query :=
  match p.logic with
  | .and =>
    (p.root.filter fun c => !c.negated).map Clause.query ++
      p.nested.map fun (path, cs) => container e withHits path (conjunction cs)
  | .or =>
    [disjunction (p.root.map Clause.whole ++
      p.nested.map fun (path, cs) =>
        container e withHits path (disjunction (cs.map Clause.whole)))]

/-- What a group adds to the queries that must not match. -/
def Partition.refused (p : Partition) : List Query :=
  match p.logic with
  | .and => (p.root.filter Clause.negated).map Clause.query
  | .or => []

/-- All groups together. -/
def junction (e : Entity) (withHits : Bool) (ps : List Partition) : Junction where
  filter := ps.flatMap (Partition.filters e withHits)
  mustNot := ps.flatMap Partition.refused

/-- The query of all groups together. Where nothing filters there is none. -/
def groups (e : Entity) (withHits : Bool) (gs : List Filter.Group) :
    Except AccessError (Option Query) := do
  let j := junction e withHits (← partitions e gs)
  return if j.isEmpty then none else some j.query

/-- The clauses under a path that every hit has to meet. -/
def requiredUnder (ps : List Partition) (path : String) : List Clause :=
  ps.flatMap fun p =>
    match p.logic with
    | .and => (p.nested.get? path).getD []
    | .or => []

end EntityStore.Search
