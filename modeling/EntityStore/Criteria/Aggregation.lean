-- Aggregations: what is asked of the records of a search besides the records themselves. And
-- what a search gives, whatever store answered it.
import EntityStore.Filter.Basic
import EntityStore.Json.Basic

namespace EntityStore

inductive Metric where
  | avg
  | min
  | max
  | sum
  | stats
  | valueCount
  deriving DecidableEq, Repr

namespace Metric

def name : Metric → String
  | .avg => "avg"
  | .min => "min"
  | .max => "max"
  | .sum => "sum"
  | .stats => "stats"
  | .valueCount => "value_count"

/-- All metrics. -/
def all : List Metric := [.avg, .min, .max, .sum, .stats, .valueCount]

def ofName? (s : String) : Option Metric := all.find? fun m => m.name == s

/-- A metric as diagnostics show it. -/
def shown : Metric → String
  | .avg => "Avg"
  | .min => "Min"
  | .max => "Max"
  | .sum => "Sum"
  | .stats => "Stats"
  | .valueCount => "ValueCount"

end Metric

namespace Aggregation

inductive Kind where
  /-- A bucket for each value. -/
  | terms
  /-- A bucket for each step of numbers. -/
  | histogram
  | metric (m : Metric)
  /-- A bucket for each value, of the records that pass the groups. -/
  | filter (groups : List Filter.Group)
  /-- A bucket for each combination of values. -/
  | composite

/-- A kind as diagnostics show it. -/
def Kind.shown : Kind → String
  | .terms => "Terms"
  | .histogram => "Histogram"
  | .metric m => "Metric(" ++ m.shown ++ ")"
  | .filter groups => "Filter(" ++ bracketed (groups.map Filter.Group.shown) ++ ")"
  | .composite => "Composite"

/-- What an aggregation is over: one field, or several by other names. -/
inductive Target where
  | field (name : String)
  | fields (sources : Fields String)

/-- The fields of a target. -/
def Target.names : Target → List String
  | .field name => [name]
  | .fields sources => sources.values

/-- A target as diagnostics show it. -/
def Target.shown : Target → String
  | .field name => "Field(" ++ Text.quoted name ++ ")"
  | .fields sources => "Fields(" ++
      braced (sources.map fun (k, f) => Text.quoted k ++ ": " ++ Text.quoted f) ++ ")"

end Aggregation

structure Aggregation where
  name : String
  kind : Aggregation.Kind
  target : Aggregation.Target
  /-- How many buckets there are at most. -/
  bucketLimit : Option Nat := none
  /-- The width of the buckets of a histogram. -/
  interval : Option Float := none
  /-- The key after which the buckets of a composite go on. -/
  afterKey : Option Json := none

namespace Aggregation

def terms (field : String) : Aggregation :=
  { name := field, kind := .terms, target := .field field }

def histogram (field : String) (interval : Option Float) : Aggregation :=
  { name := field, kind := .histogram, target := .field field, interval := interval }

/-- A metric is named after its field and what it computes. -/
def metric (field : String) (m : Metric) : Aggregation :=
  { name := field ++ "_" ++ m.name, kind := .metric m, target := .field field }

def filtered (field : String) (groups : List Filter.Group) : Aggregation :=
  { name := field, kind := .filter groups, target := .field field }

def composite (name : String) (sources : Fields String) : Aggregation :=
  { name := name, kind := .composite, target := .fields sources }

def named (a : Aggregation) (name : String) : Aggregation := { a with name := name }

/-- The field of an aggregation over one field. -/
def primaryField? (a : Aggregation) : Option String :=
  match a.target with
  | .field name => some name
  | .fields _ => none

/-- The error of a kind that cannot have such a target. -/
def misfit (a : Aggregation) : AccessError :=
  .invalidFilter
    s!"aggregation '{a.name}' of kind {a.kind.shown} cannot target {a.target.shown}"

/-! ## Results -/

/-- The records of an aggregation that share a key. -/
structure Bucket where
  key : Json
  count : Nat
  /-- How many records are left when those that share a value are counted
  once. -/
  distinct : Option Nat := none

/-- The count to be shown. -/
def Bucket.effective (b : Bucket) : Nat := b.distinct.getD b.count

structure Stats where
  count : Nat := 0
  min : Option Float := none
  max : Option Float := none
  avg : Option Float := none
  sum : Float := 0.0

/-- What an aggregation gives. -/
inductive Result where
  | buckets (bs : List Bucket)
  | metric (x : Option Float)
  | stats (s : Stats)
  /-- Buckets, and the key of the last one. -/
  | composite (bs : List Bucket) (afterKey : Option Json)

namespace Result

def bucketList : Result → List Bucket
  | .buckets bs => bs
  | .composite bs _ => bs
  | _ => []

def metric? : Result → Option Float
  | .metric x => x
  | _ => none

end Result

end Aggregation

/-- The records of a page, how many there are in all, and what the
aggregations gave. -/
structure Outcome where
  rows : List (Fields Json) := []
  total : Nat := 0
  aggregations : Fields Aggregation.Result := []

end EntityStore
