-- What a predicate says of a row, and what an aggregate makes of rows. A
-- comparison with null does not hold, and neither does its negation.
import EntityStore.Json.Members
import EntityStore.Pattern.Regex.Reader
import EntityStore.Pattern.Wildcard
import EntityStore.Sql.Row
import EntityStore.Value.Order

namespace EntityStore.Sql

/-! ## Predicates -/

/-- The column has a value, and its order with another one is accepted. -/
def compares (row : Row) (c : Column) (v : Value) (accept : Ordering → Bool) : Bool :=
  (c.value? row).any fun w => Value.compares accept w v

mutual

/-- The predicate holds on the row. -/
def Predicate.holds (row : Row) : Predicate → Bool
  | .eq c v => compares row c v Ordering.isEq
  | .ne c v => compares row c v Ordering.isNe
  | .lt c v => compares row c v Ordering.isLT
  | .le c v => compares row c v Ordering.isLE
  | .gt c v => compares row c v Ordering.isGT
  | .ge c v => compares row c v Ordering.isGE
  | .isIn c vs => (c.value? row).any fun w => vs.any fun v => Value.agrees w v
  | .notIn c vs =>
    (c.value? row).any fun w => !w.isNull && vs.all fun v => Value.compares Ordering.isNe w v
  | .between c low high =>
    (c.value? row).any fun w =>
      Value.compares Ordering.isGE w low && Value.compares Ordering.isLE w high
  | .isNull c => (c.value? row).all Value.isNull
  | .notNull c => (c.value? row).any fun w => !w.isNull
  | .like c p => (c.text? row).any fun s => Like.test s p
  | .notLike c p => (c.text? row).any fun s => !Like.test s p
  | .regexp c p => (c.text? row).any fun s => Regex.test? s p == some true
  | .notRegexp c p => (c.text? row).any fun s => Regex.test? s p == some false
  | .contains c v => (c.document? row).any fun doc => doc.covers v.toJson
  | .all ps => allHold row ps
  | .any ps => anyHolds row ps
  | .not p => !p.holds row

/-- All predicates hold on the row. -/
def allHold (row : Row) : List Predicate → Bool
  | [] => true
  | p :: ps => p.holds row && allHold row ps

/-- Some predicate holds on the row. -/
def anyHolds (row : Row) : List Predicate → Bool
  | [] => false
  | p :: ps => p.holds row || anyHolds row ps

end

/-! ## Aggregates -/

/-- A whole number, or none. -/
def wholeNumber? : Value → Option Int
  | .int n => some n
  | _ => none

/-- The sum of values: a whole number when all are, and a double otherwise. -/
def sumValues (vs : List Value) : Value :=
  if vs.isEmpty then .null
  else
    match vs.mapM wholeNumber? with
    | some ns => .int (ns.foldl (· + ·) 0)
    | none => .float (Value.sumFloats (vs.filterMap Value.numeric?))

/-- The mean of the numbers among values. -/
def meanValue (vs : List Value) : Value :=
  match vs.filterMap Value.numeric? with
  | [] => .null
  | xs => .float (Value.sumFloats xs / Float.ofNat xs.length)

/-- What an aggregate makes of the rows of a group. -/
def Aggregate.value (a : Aggregate) (rows : List Row) : Value :=
  match a with
  | .count => .int rows.length
  | .countDistinct c => .int (Value.distinct (c.present rows)).length
  | .sum c => sumValues (c.present rows)
  | .avg c => meanValue (c.present rows)
  | .min c => (Value.least? (c.present rows)).getD .null
  | .max c => (Value.greatest? (c.present rows)).getD .null

end EntityStore.Sql
