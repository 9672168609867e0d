-- What a search of an index is asked for, and the document that writes it: besides hits, how
-- the documents that it found are broken down and summed up. A breakdown has breakdowns of its
-- own for the documents of each of its parts.
import EntityStore.Criteria.Aggregation
import EntityStore.Indices.Sorting

namespace EntityStore.Indices

namespace Breakdown

/-- How documents are broken down. -/
inductive Kind where
  /-- A bucket for each value of a field, the fullest first. -/
  | terms (field : String) (limit : Nat)
  /-- A bucket for each step of the numbers of a field. -/
  | histogram (field : String) (interval : Float) (least : Nat)
  | metric (m : Metric) (field : String)
  /-- How many different values a field has. -/
  | cardinality (field : String)
  /-- The documents that a query finds. -/
  | filter (q : Search.Query)
  /-- The objects at a path. -/
  | nested (path : String)
  /-- The whole documents that objects are from. -/
  | whole
  /-- A bucket for each combination of the values of fields, which go by
  other names, from some combination on. -/
  | composite (sources : List (String × String)) (limit : Nat) (after : Option (List Value))

end Breakdown

/-- A breakdown, which may turn out to be one that cannot be asked for. -/
inductive Breakdown where
  | mk (kind : Except IndexFault Breakdown.Kind) (parts : List (String × Breakdown))

namespace Breakdown

/-! ## Reading kinds -/

/-- As many buckets are shown where no number is given. -/
def usualLimit : Nat := 10

/-- What has to be there, or a fault. -/
def need {α : Type} (x : Option α) (message : String) : Except IndexFault α :=
  match x with
  | some v => .ok v
  | none => .error (badRequest message)

def field (name : String) (body : Json) : Except IndexFault String :=
  need (body.textAt? "field") s!"aggregation [{name}] needs a field"

/-- The width of the steps of a histogram. -/
def interval (name : String) (body : Json) : Except IndexFault Float :=
  need (((body.get? "interval").bind Json.number?).filter fun x => 0.0 < x)
    s!"histogram [{name}] needs a positive interval"

/-- The field of a source of a composite, and the name that it goes by. -/
def source (name : String) (j : Json) : Except IndexFault (String × String) :=
  match j with
  | .obj ((label, spec) :: _) => do
    let f ← need ((spec.at? ["terms", "field"]).bind Json.text?)
      s!"composite source [{label}] needs terms.field"
    return (label, f)
  | _ => .error (badRequest s!"composite [{name}] has an empty source")

/-- The combination behind which the buckets begin. -/
def after? (sources : List (String × String)) (body : Json) : Option (List Value) :=
  (body.get? "after").map fun after =>
    sources.map fun (label, _) => Value.ofJson (after.field label)

def readComposite (name : String) (body : Json) : Except IndexFault Kind := do
  let listed ← need ((body.get? "sources").bind Json.items?) s!"composite [{name}] needs sources"
  let sources ← listed.mapM (source name)
  return .composite sources (body.natOr "size" usualLimit) (after? sources body)

/-- The kind of a breakdown by its name and what is said of it. -/
def readKind (name kind : String) (body : Json) : Except IndexFault Kind :=
  match kind with
  | "terms" => do return .terms (← field name body) (body.natOr "size" usualLimit)
  | "histogram" => do
    return .histogram (← field name body) (← interval name body) (body.natOr "min_doc_count" 0)
  | "cardinality" => do return .cardinality (← field name body)
  | "filter" =>
    match Search.Query.ofJson body with
    | .ok q => .ok (.filter q)
    | .error e => .error (badRequest e.message)
  | "nested" => do return .nested (← need (body.textAt? "path") s!"nested [{name}] needs a path")
  | "reverse_nested" => .ok .whole
  | "composite" => readComposite name body
  | kind =>
    match Metric.ofName? kind with
    | some m => do return .metric m (← field name body)
    | none => .error (badRequest s!"unknown aggregation type [{kind}] for [{name}]")

/-- The kind that the members of a breakdown name. -/
def kindOf (name : String) (members : Fields Json) : Except IndexFault Kind :=
  match List.find? (fun (k, _) => k != "aggs" && k != "meta") members with
  | some (kind, body) => readKind name kind body
  | none => .error (badRequest s!"aggregation [{name}] has no type")

/-! ## Reading -/

mutual

/-- The breakdown that a document writes. -/
def read (name : String) : Json → Breakdown
  | .obj members => .mk (kindOf name members) (readParts members)
  | _ => .mk (kindOf name []) []

/-- The parts of a breakdown among its members. -/
def readParts : List (String × Json) → List (String × Breakdown)
  | [] => []
  | (k, .obj parts) :: rest => if k = "aggs" then readAll parts else readParts rest
  | _ :: rest => readParts rest

/-- The breakdowns that documents write. -/
def readAll : List (String × Json) → List (String × Breakdown)
  | [] => []
  | (name, j) :: rest => (name, read name j) :: readAll rest

end

end Breakdown

structure Request where
  query : Search.Query
  /-- The hits are those that this one finds as well. -/
  postFilter : Option Search.Query
  sorts : List SortKey
  breakdowns : Option (List (String × Breakdown))
  /-- The hits are those behind these keys. -/
  after : Option (List (Option Value))
  /-- Of hits with one value in this field only the first stays. -/
  collapse : Option String
  /-- The name under which all hits with the value are shown. -/
  collapseName : Option String
  offset : Nat
  limit : Nat
  shown : Option Json

namespace Request

/-- As many hits are shown where no number is given. -/
def usualLimit : Nat := 10

/-- The keys behind which the hits begin. -/
def readAfter (j : Json) : Option (List (Option Value)) :=
  ((j.get? "search_after").bind Json.items?).map fun keys =>
    keys.map fun k => if k.isNull then none else some (Value.ofJson k)

/-- The request that a document writes. -/
def ofJson (j : Json) : Except IndexFault Request := do
  return {
    query := (← clause? (j.get? "query")).getD .matchAll
    postFilter := ← clause? (j.get? "post_filter")
    sorts := ← (j.itemsAt "sort").mapM SortKey.read
    breakdowns := ((j.get? "aggs").bind Json.members?).map Breakdown.readAll
    after := readAfter j
    collapse := (j.at? ["collapse", "field"]).bind Json.text?
    collapseName := (j.at? ["collapse", "inner_hits", "name"]).bind Json.text?
    offset := j.natOr "from" 0
    limit := j.natOr "size" usualLimit
    shown := j.get? "_source" }

end Request

end EntityStore.Indices
