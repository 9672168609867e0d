-- The order of hits. A hit is sorted by keys, and one that has no value for
-- a key comes after those that have one.
import EntityStore.Criteria.Basic
import EntityStore.Indices.Matching
import EntityStore.Json.Members
import EntityStore.Search.Query.Reader

namespace EntityStore.Indices

/-! ## Faults of requests -/

/-- A request that makes no sense. -/
def badRequest (message : String) : IndexFault := ⟨some 400, message⟩

/-- The query that a document writes, if there is one. -/
def clause? (j : Option Json) : Except IndexFault (Option Search.Query) :=
  match j with
  | none => .ok none
  | some j =>
    match Search.Query.ofJson j with
    | .ok q => .ok (some q)
    | .error e => .error (badRequest e.message)

/-! ## Keys -/

/-- What hits are sorted by: the values of a field, those in the objects at
a path where there is one. -/
structure SortKey where
  field : String
  descending : Bool
  mode : SortMode
  nested : Option (String × Option Search.Query)

namespace SortKey

/-- The mean of doubles is their sum divided by their number. -/
def sumOrMean (mean : Bool) (vs : List Value) : Option Value :=
  match vs.filterMap Value.number? with
  | [] => none
  | xs =>
    let sum := Value.sumFloats xs
    some (.float (if mean then sum / Float.ofNat xs.length else sum))

/-- The one value that many values are sorted by. -/
def reduce (mode : SortMode) (vs : List Value) : Option Value :=
  match mode with
  | .min => Value.least? vs
  | .max => Value.greatest? vs
  | .sum => sumOrMean false vs
  | .avg => sumOrMean true vs
  | .median => (Value.sort vs)[vs.length / 2]?

/-- The documents whose values a hit is sorted by. -/
def scopes (s : SortKey) (doc : Json) : List Json :=
  match s.nested with
  | none => [doc]
  | some (path, filter) => (nestedAt doc path).filter fun e => filter.all (finds · e)

/-- The value that a document is sorted by. -/
def value? (s : SortKey) (doc : Json) : Option Value :=
  reduce s.mode (((s.scopes doc).flatMap (valuesAt · s.field)).map Value.ofJson)

/-- The order of two hits by a key. -/
def order (s : SortKey) (a b : Option Value) : Ordering :=
  match a, b with
  | none, none => .eq
  | none, some _ => .gt
  | some _, none => .lt
  | some x, some y =>
    let o := Value.sortOrder x y
    if s.descending then o.swap else o

end SortKey

/-- The order of two hits by all keys. -/
def orderHits : List SortKey → List (Option Value) → List (Option Value) → Ordering
  | [], _, _ => .eq
  | s :: ss, as, bs => (s.order as.head?.join bs.head?.join).then (orderHits ss as.tail bs.tail)

/-! ## Reading -/

/-- The field of an entry of a sort, and what is said of it. -/
def sortEntry (j : Json) : Except IndexFault (String × Json) :=
  match j with
  | .str field => .ok (field, .null)
  | .obj [(field, spec)] => .ok (field, spec)
  | j => .error (badRequest s!"malformed sort entry {j.compact}")

/-- The direction alone may stand for all that is said of a field. -/
def sortsDown (spec : Json) : Bool :=
  let name := match spec with
    | .str name => name
    | spec => spec.textOr "order" "asc"
  Text.lowerAscii name == "desc"

/-- Of many values, a hit is sorted by the one that brings it to the front,
unless a mode is given. -/
def sortMode (spec : Json) (descending : Bool) : Except IndexFault SortMode :=
  match spec.textAt? "mode" with
  | none => .ok (if descending then .max else .min)
  | some name =>
    match SortMode.ofName? name with
    | some m => .ok m
    | none => .error (badRequest s!"unknown sort mode [{name}]")

/-- The path of the objects that have the values, and which of them count. -/
def sortPath (spec : Json) : Except IndexFault (Option (String × Option Search.Query)) :=
  match spec.get? "nested" with
  | none => .ok none
  | some n =>
    match n.textAt? "path" with
    | none => .error (badRequest "nested sort needs a path")
    | some path => (clause? (n.get? "filter")).map fun q => some (path, q)

def SortKey.read (j : Json) : Except IndexFault SortKey := do
  let (field, spec) ← sortEntry j
  return {
    field := field
    descending := sortsDown spec
    mode := ← sortMode spec (sortsDown spec)
    nested := ← sortPath spec }

end EntityStore.Indices
