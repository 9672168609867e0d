-- What a dotted path leads to in a document, and documents grouped by such keys. Each part of
-- a path names a member, and a list stands for all its items. The groups are in the order of
-- their keys.
import EntityStore.Decimal
import EntityStore.Json.Basic
import EntityStore.Text.Splitting
import EntityStore.Value.Order

namespace EntityStore.Indices

/-! ## Members through lists -/

mutual

/-- The members under a name, of an object or of all objects in a list. -/
def children (part : String) : Json → List Json
  | .obj members => (Fields.get? members part).toList
  | .arr items => childrenOfAll part items
  | _ => []

def childrenOfAll (part : String) : List Json → List Json
  | [] => []
  | j :: rest => children part j ++ childrenOfAll part rest

end

/-- The documents that a path leads to, by its parts. -/
def reached (docs : List Json) (parts : List String) : List Json :=
  parts.foldl (fun docs part => docs.flatMap (children part)) docs

/-! ## Values -/

/-- What a document counts for as a value: a list for its items, and null
for nothing. -/
def spread : Json → List Json
  | .arr items => items.filter fun j => !j.isNull
  | .null => []
  | j => [j]

/-- The values at a path. -/
def valuesAt (doc : Json) (path : String) : List Json :=
  (reached [doc] (Text.split '.' path)).flatMap spread

/-- The objects at a path. -/
def objectsAt (doc : Json) (path : String) : List Json := (valuesAt doc path).filter Json.isObject

/-- The document that has nothing but an element at a path. -/
def under (path : String) (element : Json) : Json :=
  (Text.split '.' path).foldr (fun part inner => .obj [(part, inner)]) element

/-- The objects at a path, each as a document of its own. -/
def nestedAt (doc : Json) (path : String) : List Json := (objectsAt doc path).map (under path)

end EntityStore.Indices

namespace EntityStore.Indices

/-- A document or an object in one, and which of the documents it is
from. -/
structure Part where
  root : Nat
  doc : Json

/-- The documents that have a key, and how the key is shown. -/
structure Cell (κ : Type) where
  key : κ
  shown : Json
  docs : List Part

namespace Cell

variable {κ : Type}

/-- A document joins the group of its key, or makes a new group. -/
def add (order : κ → κ → Ordering) (key : κ) (shown : Json) (p : Part) :
    List (Cell κ) → List (Cell κ)
  | [] => [⟨key, shown, [p]⟩]
  | c :: rest =>
    match order key c.key with
    | .lt => ⟨key, shown, [p]⟩ :: c :: rest
    | .eq => { c with docs := c.docs ++ [p] } :: rest
    | .gt => c :: add order key shown p rest

/-- The groups of documents, each of which may have several keys. -/
def group (order : κ → κ → Ordering) (keys : Part → List (κ × Json)) (docs : List Part) :
    List (Cell κ) :=
  docs.foldl
    (fun cells p => (keys p).foldl (fun cells (key, shown) => add order key shown p cells) cells) []

/-- The number of entries in all groups. -/
def count (cells : List (Cell κ)) : Nat := cells.foldl (fun n c => n + c.docs.length) 0

end Cell

/-! ## Values as keys -/

/-- A value takes the place of the one that equals it, or its place in the
order. -/
def keepValue (v : Value) (shown : Json) : List (Value × Json) → List (Value × Json)
  | [] => [(v, shown)]
  | (w, old) :: rest =>
    match Value.order v w with
    | .lt => (v, shown) :: (w, old) :: rest
    | .eq => (v, shown) :: rest
    | .gt => (w, old) :: keepValue v shown rest

/-- The different values at a field, in order, and how they are shown. -/
def keysAt (field : String) (p : Part) : List (Value × Json) :=
  (valuesAt p.doc field).foldl (fun keys j => keepValue (Value.ofJson j) j keys) []

/-- The documents by the values at a field. -/
def termCells (field : String) (docs : List Part) : List (Cell Value) :=
  Cell.group Value.order (keysAt field) docs

/-! ## Combinations of values -/

/-- Each combination goes on with each value of one more source. -/
def combine (p : Part) (combos : List (List Value × Fields Json)) (source : String × String) :
    List (List Value × Fields Json) :=
  let keys := keysAt source.2 p
  combos.flatMap fun (values, shown) =>
    keys.map fun (v, j) => (values ++ [v], shown.insert source.1 j)

/-- The combinations of a document's values at all sources. -/
def combosOf (sources : List (String × String)) (p : Part) : List (List Value × Json) :=
  (sources.foldl (combine p) [([], [])]).map fun (values, shown) => (values, .obj shown)

/-- The documents by the combinations of their values. -/
def comboCells (sources : List (String × String)) (docs : List Part) : List (Cell (List Value)) :=
  Cell.group Value.orderLists (combosOf sources) docs

/-! ## Numbers -/

/-- The number that a value counts for, if it does. -/
def numberOf? : Json → Option Float
  | .str s => Value.readNumber? s
  | j => j.number?

/-- The numbers at a field. -/
def numbersAt (field : String) (p : Part) : List Float := (valuesAt p.doc field).filterMap numberOf?

/-- The document of a double, or null where a document has none. -/
def numberJson (x : Float) : Json := (Value.float x).toJson

/-- The number at which a step begins. -/
def stepJson (interval : Float) (step : Int) : Json := numberJson (Float.ofInt step * interval)

/-- The different steps of the numbers at a field. -/
def stepsAt (field : String) (interval : Float) (p : Part) : List (Int × Json) :=
  let steps := (numbersAt field p).map fun x => Decimal.step (x / interval)
  steps.eraseDups.map fun step => (step, stepJson interval step)

/-- All steps from the first to the last, those without documents too. -/
def fillSteps (interval : Float) (cells : List (Cell Int)) : List (Cell Int) :=
  match cells.head?, cells.getLast? with
  | some first, some last =>
    (List.range (last.key - first.key + 1).toNat).map fun i : Nat =>
      let step : Int := first.key + (i : Int)
      (cells.find? fun c => c.key == step).getD ⟨step, stepJson interval step, []⟩
  | _, _ => []

/-- The documents by the steps of their numbers. A step that has fewer
documents than asked for is left out. -/
def stepCells (field : String) (interval : Float) (least : Nat) (docs : List Part) :
    List (Cell Int) :=
  let cells := Cell.group compare (stepsAt field interval) docs
  if least = 0 then fillSteps interval cells else cells.filter fun c => least ≤ c.docs.length

end EntityStore.Indices
