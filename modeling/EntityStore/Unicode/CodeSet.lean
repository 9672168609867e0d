-- Sets of code points, kept as ranges in ascending order that do not touch.
-- Surrogates are no characters, and a set never gains one. Tables write sets
-- in short: in turn how many code points are outside and how many are inside.
-- The table of a partition gives how many code points in a row have which
-- value. All numbers are hexadecimal, and words are parted by spaces.
import EntityStore.Text.Ranges

namespace EntityStore

structure CodeSet where
  ranges : List (Nat × Nat)
  deriving DecidableEq, Repr, Inhabited

namespace CodeSet

/-- The set holds the code point. -/
def contains (s : CodeSet) (n : Nat) : Bool := Text.inRanges s.ranges n

/-- The set holds the character. -/
def mem (s : CodeSet) (c : Char) : Bool := s.contains c.toNat

/-! ## From ranges -/

def lastCode : Nat := 0x10ffff

def firstSurrogate : Nat := 0xd800

def lastSurrogate : Nat := 0xdfff

/-- A range and those behind it, in ascending order, joined where they meet. -/
def joinOnto (r : Nat × Nat) : List (Nat × Nat) → List (Nat × Nat)
  | [] => [r]
  | t :: rest =>
    if t.1 ≤ r.2 + 1 then joinOnto (r.1, max r.2 t.2) rest else r :: joinOnto t rest

/-- A range without surrogates. -/
def cutSurrogates (r : Nat × Nat) : List (Nat × Nat) :=
  [(r.1, min r.2 (firstSurrogate - 1)), (max r.1 (lastSurrogate + 1), r.2)].filter
    fun t => t.1 ≤ t.2

/-- The set of all code points in some ranges, which come in any order. -/
def ofRanges (rs : List (Nat × Nat)) : CodeSet :=
  match (rs.flatMap cutSurrogates).mergeSort fun a b => a.1 ≤ b.1 with
  | [] => ⟨[]⟩
  | r :: rest => ⟨joinOnto r rest⟩

def empty : CodeSet := ⟨[]⟩

/-- The code points from the first to the last. -/
def range (first last : Nat) : CodeSet := ofRanges [(first, last)]

def single (n : Nat) : CodeSet := ofRanges [(n, n)]

def singleChar (c : Char) : CodeSet := single c.toNat

/-! ## Sets made from sets -/

def union (s t : CodeSet) : CodeSet := ofRanges (s.ranges ++ t.ranges)

def unions (ss : List CodeSet) : CodeSet := ofRanges (ss.flatMap ranges)

/-- What lies between the ranges, from a code point on. -/
def gaps (next : Nat) : List (Nat × Nat) → List (Nat × Nat)
  | [] => if next ≤ lastCode then [(next, lastCode)] else []
  | r :: rest =>
    if next < r.1 then (next, r.1 - 1) :: gaps (r.2 + 1) rest else gaps (r.2 + 1) rest

/-- The code points that the set does not hold. -/
def compl (s : CodeSet) : CodeSet := ofRanges (gaps 0 s.ranges)

/-- All code points. -/
def all : CodeSet := compl empty

def inter (s t : CodeSet) : CodeSet := (s.compl.union t.compl).compl

/-- The code points of the first set that the second one does not hold. -/
def diff (s t : CodeSet) : CodeSet := s.inter t.compl

/-- The code points that exactly one of the sets holds. -/
def symmDiff (s t : CodeSet) : CodeSet := (s.diff t).union (t.diff s)

/-! ## Questions -/

def isEmpty (s : CodeSet) : Bool := s.ranges.isEmpty

/-- All code points are of ASCII. -/
def isAscii (s : CodeSet) : Bool := s.ranges.all fun r => r.2 < 128

/-- The only code point of the set. -/
def single? (s : CodeSet) : Option Nat :=
  match s.ranges with
  | [(a, b)] => if a = b then some a else none
  | _ => none

end CodeSet

/-! ## Tables -/

namespace Unicode

/-- The words of some lines. -/
def tableWords (lines : List String) : List (List Char) :=
  lines.flatMap fun line => (line.splitOn " ").map String.toList

def isHexDigit (c : Char) : Bool := c.isDigit || ('a' ≤ c && c ≤ 'f')

def hexDigitValue (c : Char) : Nat :=
  if c.isDigit then c.toNat - '0'.toNat else c.toNat - 'a'.toNat + 10

/-- The number that hexadecimal digits write. -/
def hexNumber (digits : List Char) : Nat := digits.foldl (fun n c => 16 * n + hexDigitValue c) 0

/-- The ranges that the counts of code points outside and inside give, from a
code point on. -/
def rangesOfGaps (next : Nat) : List Nat → List (Nat × Nat)
  | outside :: inside :: rest =>
    (next + outside, next + outside + inside - 1) :: rangesOfGaps (next + outside + inside) rest
  | _ => []

end Unicode

/-- The set of a table of counts outside and inside. -/
def CodeSet.ofGaps (lines : List String) : CodeSet :=
  ⟨Unicode.rangesOfGaps 0 ((Unicode.tableWords lines).map Unicode.hexNumber)⟩

/-- One value for each code point: the ranges of one value, in order. -/
structure Partition where
  stretches : List ((Nat × Nat) × String)

namespace Partition

/-- The stretches that counts of code points with one value give, from a code
point on. -/
def stretchesOf (next : Nat) : List (Nat × String) → List ((Nat × Nat) × String)
  | [] => []
  | (count, value) :: rest => ((next, next + count - 1), value) :: stretchesOf (next + count) rest

/-- A count and the value behind it. -/
def countAndValue (word : List Char) : Nat × String :=
  (Unicode.hexNumber (word.takeWhile Unicode.isHexDigit),
    String.ofList (word.dropWhile Unicode.isHexDigit))

/-- The partition of a table of counts and values. -/
def ofRuns (lines : List String) : Partition :=
  ⟨stretchesOf 0 ((Unicode.tableWords lines).map countAndValue)⟩

/-- The code points that have one of the values. -/
def among (p : Partition) (values : List String) : CodeSet :=
  .ofRanges ((p.stretches.filter fun s => values.contains s.2).map (·.1))

end Partition

end EntityStore
