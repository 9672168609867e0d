-- What breakdowns make of the documents that a search found.
import EntityStore.Indices.Cells
import EntityStore.Indices.Request

namespace EntityStore.Indices

/-! ## Metrics -/

/-- The smaller of two doubles. One that is not a number does not count. -/
def smaller (x y : Float) : Float := if x.isNaN || y < x then y else x

/-- The larger of two doubles. One that is not a number does not count. -/
def larger (x y : Float) : Float := if x.isNaN || x < y then y else x

/-- What a function makes of all doubles of a list, from left to right. -/
def reduceFloats (f : Float → Float → Float) : List Float → Option Float
  | [] => none
  | x :: xs => some (xs.foldl f x)

/-- The mean of doubles. -/
def mean (xs : List Float) : Option Float :=
  if xs.isEmpty then none else some (Value.sumFloats xs / Float.ofNat xs.length)

/-- The document of a number that may not be there. -/
def maybeNumber (x : Option Float) : Json := (x.map numberJson).getD .null

/-- An object with a value. -/
def valueJson (j : Json) : Json := .obj [("value", j)]

/-- What a metric makes of the numbers at a field. -/
def Breakdown.measure (m : Metric) (field : String) (docs : List Part) : Json :=
  let xs := docs.flatMap (numbersAt field)
  match m with
  | .avg => valueJson (maybeNumber (mean xs))
  | .min => valueJson (maybeNumber (reduceFloats smaller xs))
  | .max => valueJson (maybeNumber (reduceFloats larger xs))
  | .sum => valueJson (numberJson (Value.sumFloats xs))
  | .valueCount => valueJson (Json.ofNat (docs.flatMap fun p => valuesAt p.doc field).length)
  | .stats => Json.object [
      ("count", Json.ofNat xs.length),
      ("min", maybeNumber (reduceFloats smaller xs)),
      ("max", maybeNumber (reduceFloats larger xs)),
      ("avg", maybeNumber (mean xs)),
      ("sum", numberJson (Value.sumFloats xs))]

/-- How many different values documents have at a field. -/
def cardinality (field : String) (docs : List Part) : Nat :=
  (Value.distinct ((docs.flatMap fun p => valuesAt p.doc field).map Value.ofJson)).length

/-! ## Other documents -/

/-- The objects at a path in documents. -/
def nestedParts (path : String) (docs : List Part) : List Part :=
  docs.flatMap fun p => (nestedAt p.doc path).map fun e => ⟨p.root, e⟩

/-- The whole documents that parts are from, each once. -/
def wholeParts (roots : List Json) (docs : List Part) : List Part :=
  (roots.zipIdx.filter fun (_, i) => docs.any fun p => p.root == i).map fun (doc, i) => ⟨i, doc⟩

/-- All documents, each as a part of its own. -/
def rootParts (roots : List Json) : List Part := roots.zipIdx.map fun (doc, i) => ⟨i, doc⟩

/-! ## Buckets -/

/-- The groups with most documents first. -/
def rank (cells : List (Cell Value)) : List (Cell Value) :=
  cells.mergeSort fun a b => b.docs.length ≤ a.docs.length

/-- The groups behind a combination, as many as asked for. -/
def page (limit : Nat) (after : Option (List Value)) (cells : List (Cell (List Value))) :
    List (Cell (List Value)) :=
  (cells.filter fun c => after.all fun a => (Value.orderLists c.key a).isGT).take limit

/-- The document of a bucket. What is said of its documents has its own
members. -/
def bucketJson {κ : Type} (c : Cell κ) (parts : Fields Json) : Json :=
  .obj (Fields.extend
    (Fields.ofList [("key", c.shown), ("doc_count", Json.ofNat c.docs.length)]) parts)

/-- The document of buckets of which some are not shown. -/
def termsJson (hidden : Nat) (buckets : List Json) : Json :=
  Json.object [("doc_count_error_upper_bound", .int 0), ("sum_other_doc_count", Json.ofNat hidden),
    ("buckets", .arr buckets)]

/-- The document of a page of buckets, with the combination of the last. -/
def pageJson (shown : List (Cell (List Value))) (buckets : List Json) : Json :=
  Json.object (("buckets", .arr buckets) ::
    (shown.getLast?.map fun c => ("after_key", c.shown)).toList)

/-- The document of documents that are one bucket. -/
def singleJson (docs : List Part) (parts : Fields Json) : Json :=
  .obj (Fields.extend [("doc_count", Json.ofNat docs.length)] parts)

/-! ## Breakdowns -/

namespace Breakdown

mutual

/-- What a breakdown makes of documents. -/
def summary (roots : List Json) : Breakdown → List Part → Except IndexFault Json
  | .mk kind parts, docs => do
    match ← kind with
    | .terms f limit =>
      let cells := rank (termCells f docs)
      let shown := cells.take limit
      let buckets ← shown.mapM fun c => do return bucketJson c (← summaries roots parts c.docs)
      return termsJson (Cell.count cells - Cell.count shown) buckets
    | .histogram f interval least =>
      let buckets ← (stepCells f interval least docs).mapM fun c => do
        return bucketJson c (← summaries roots parts c.docs)
      return .obj [("buckets", .arr buckets)]
    | .composite sources limit after =>
      let shown := page limit after (comboCells sources docs)
      let buckets ← shown.mapM fun c => do return bucketJson c (← summaries roots parts c.docs)
      return pageJson shown buckets
    | .metric m f => return measure m f docs
    | .cardinality f => return valueJson (Json.ofNat (cardinality f docs))
    | .filter q =>
      let kept := docs.filter fun p => finds q p.doc
      return singleJson kept (← summaries roots parts kept)
    | .nested path =>
      let inner := nestedParts path docs
      return singleJson inner (← summaries roots parts inner)
    | .whole =>
      let outer := wholeParts roots docs
      return singleJson outer (← summaries roots parts outer)

/-- What breakdowns make of documents, by their names. -/
def summaries (roots : List Json) :
    List (String × Breakdown) → List Part → Except IndexFault (Fields Json)
  | [], _ => .ok []
  | (name, b) :: rest, docs => do
    let j ← summary roots b docs
    return (name, j) :: (← summaries roots rest docs)

end

end Breakdown

end EntityStore.Indices
