-- Classes of characters are tables: a list of ranges of code points. Maps
-- of characters are tables too: a list of runs that all move by one
-- distance. Both are read from the front. White space is such a class, after
-- the Unicode property White_Space, and texts are trimmed of it.

namespace EntityStore.Text

/-! ## Classes -/

/-- Some range of the table holds the code point. -/
def inRanges (ranges : List (Nat × Nat)) (n : Nat) : Bool :=
  ranges.any fun r => r.1 ≤ n && n ≤ r.2

theorem inRanges_iff {ranges : List (Nat × Nat)} {n : Nat} :
    inRanges ranges n = true ↔ ∃ r ∈ ranges, r.1 ≤ n ∧ n ≤ r.2 := by
  simp [inRanges]

/-! ## Maps -/

/-- Every `step`-th code point from `first` to `last` moves by `shift`. -/
structure Run where
  first : Nat
  last : Nat
  step : Nat
  shift : Int

/-- The run moves the code point. -/
def Run.moves (r : Run) (n : Nat) : Bool :=
  r.first ≤ n && n ≤ r.last && (n - r.first) % r.step == 0

/-- The image of a code point: the first run that moves it decides, and a
code point that no run moves stays. -/
def Run.image (runs : List Run) (n : Nat) : Nat :=
  match runs.find? (·.moves n) with
  | some r => (n + r.shift).toNat
  | none => n

/-- The code points that the runs move onto the given one. -/
def Run.sources (runs : List Run) (n : Nat) : List Nat :=
  runs.filterMap fun r =>
    let m := (n - r.shift : Int).toNat
    if r.moves m then some m else none

end EntityStore.Text

namespace EntityStore.Text

/-- The property White_Space. -/
def blankRanges : List (Nat × Nat) := [
  (0x9, 0xd), (0x20, 0x20), (0x85, 0x85), (0xa0, 0xa0), (0x1680, 0x1680),
  (0x2000, 0x200a), (0x2028, 0x2029), (0x202f, 0x202f), (0x205f, 0x205f), (0x3000, 0x3000)]

/-- White space. -/
def isBlank (c : Char) : Bool := inRanges blankRanges c.toNat

/-- The text without the characters of a class at either end. -/
def trimWhere (p : Char → Bool) (cs : List Char) : List Char :=
  ((cs.dropWhile p).reverse.dropWhile p).reverse

/-- The text without white space at either end. -/
def trim (s : String) : String := String.ofList (trimWhere isBlank s.toList)

end EntityStore.Text
