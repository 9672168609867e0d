-- The order of values: by kind, and within a kind by size. Whole numbers
-- and doubles are one kind. Documents are ordered by their compact texts.
-- A query compares values in another way: null compares with nothing, a text
-- meets a number as the number it writes, and a boolean meets a whole number
-- as one or zero.
import EntityStore.Decimal
import EntityStore.Text.Ranges
import EntityStore.Value.Basic

namespace EntityStore

/-! ## The order of doubles -/

/-- The place of a double in the order of all doubles: negative ones by
falling size, then negative zero, zero, and positive ones by rising size.
Doubles that are not numbers come first or last, by their sign. -/
def Decimal.rank (x : Float) : Int :=
  if isNegative x then -(magnitudeBits x) - 1 else magnitudeBits x

namespace Value

/-! ## The order of values -/

/-- The place of a kind among the kinds. -/
def kindRank : Value → Nat
  | .null => 0
  | .bool _ => 1
  | .int _ => 2
  | .float _ => 2
  | .text _ => 3
  | .json _ => 4

/-- The order of values. A whole number meets a double as a double. -/
def order (a b : Value) : Ordering :=
  match a, b with
  | .bool a, .bool b => compare a b
  | .int a, .int b => compare a b
  | .float a, .float b => compare (Decimal.rank a) (Decimal.rank b)
  | .int a, .float b => compare (Decimal.rank (Float.ofInt a)) (Decimal.rank b)
  | .float a, .int b => compare (Decimal.rank a) (Decimal.rank (Float.ofInt b))
  | .text a, .text b => compare a b
  | .json a, .json b => compare a.compact b.compact
  | a, b => compare a.kindRank b.kindRank

instance : Ord Value := ⟨order⟩

/-- Values are equal when neither comes before the other, so 1 and 1.0 are
equal. -/
instance : BEq Value := ⟨fun a b => (order a b).isEq⟩

/-! ## Lists of values -/

/-- The order of lists of values: the first difference decides, and a list
comes before its extensions. -/
def orderLists : List Value → List Value → Ordering
  | [], [] => .eq
  | [], _ :: _ => .lt
  | _ :: _, [] => .gt
  | a :: as, b :: bs => (order a b).then (orderLists as bs)

/-- The values in rising order. Equal values keep their order. -/
def sort (vs : List Value) : List Value := vs.mergeSort fun a b => (order a b).isLE

/-- What stays behind a value that was kept: a value that equals the last
one kept is dropped. -/
def dropRepeatsOf (kept : Value) : List Value → List Value
  | [] => []
  | v :: rest => if v == kept then dropRepeatsOf kept rest else v :: dropRepeatsOf v rest

/-- Of neighbours that are equal only the first stays. -/
def dropRepeats : List Value → List Value
  | [] => []
  | v :: rest => v :: dropRepeatsOf v rest

/-- The different values, in the order of their first occurrence. -/
def distinct (vs : List Value) : List Value :=
  vs.foldl (fun seen v => if seen.any (· == v) then seen else seen ++ [v]) []

/-- The least value; of equal ones the first. -/
def least? : List Value → Option Value
  | [] => none
  | v :: rest => some (rest.foldl (fun m w => if (order m w).isGT then w else m) v)

/-- The greatest value; of equal ones the last. -/
def greatest? : List Value → Option Value
  | [] => none
  | v :: rest => some (rest.foldl (fun m w => if (order m w).isGT then m else w) v)

/-! ## Sums -/

/-- The sum of doubles, from left to right. The sum of no doubles is
negative zero, which changes no double that is added to it. -/
def sumFloats (xs : List Float) : Float := xs.foldl (· + ·) (-0.0)

/-! ## Comparing in queries -/

/-- The order of two doubles as numbers. What is not a number has none. -/
def compareFloats (x y : Float) : Option Ordering :=
  if x < y then some .lt else if x == y then some .eq else if y < x then some .gt else none

/-- The number that a text writes, white space around it aside. -/
def readNumber? (s : String) : Option Float := Decimal.parse? (Text.trim s)

/-- The number of a value: its own, or the one that its text writes. -/
def numeric? : Value → Option Float
  | .text s => readNumber? s
  | v => v.number?

/-- A document that is a scalar counts as the value it holds. -/
def unwrap : Value → Value
  | .json doc => if doc.isScalar then ofJson doc else .json doc
  | v => v

/-- How two values compare, when neither is a scalar document. -/
def compareUnwrapped : Value → Value → Option Ordering
  | .null, _ => none
  | _, .null => none
  | .text s, .int n => (readNumber? s).bind fun x => compareFloats x (Float.ofInt n)
  | .text s, .float y => (readNumber? s).bind fun x => compareFloats x y
  | .int n, .text s => (readNumber? s).bind fun y => compareFloats (Float.ofInt n) y
  | .float x, .text s => (readNumber? s).bind fun y => compareFloats x y
  | .bool b, .int n => some (compare (if b then 1 else 0) n)
  | .int n, .bool b => some (compare n (if b then 1 else 0))
  | a, b => some (order a b)

/-- How two values compare in a query, if they do. -/
def compare? (a b : Value) : Option Ordering := compareUnwrapped a.unwrap b.unwrap

/-- The values compare, and the order between them is accepted. -/
def compares (accept : Ordering → Bool) (a b : Value) : Bool := (compare? a b).any accept

/-- The values are equal in a query. -/
def agrees (a b : Value) : Bool := compares Ordering.isEq a b

/-- The order of values for sorting: the order of a query where it has one,
and the order of all values elsewhere. -/
def sortOrder (a b : Value) : Ordering := (compare? a b).getD (order a b)

end Value

end EntityStore
