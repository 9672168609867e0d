-- Decimal numbers and doubles. The shortest decimal that reads back as a given double, and how
-- it is written: which exponents are written out as zeros, how an exponent looks, and whether a
-- whole number keeps a fraction. A double is a whole number times a power of two, and all reals
-- closer to it than to its neighbours read back as it. For one digit, two digits and so on, the
-- two grid points around the value are tried, until one reads back. And reading a decimal: an
-- optional sign, digits with an optional point, an optional exponent. The result is the nearest
-- double.

namespace EntityStore.Decimal

/-! ## Doubles as whole numbers -/

/-- The value `num / den`, and the bounds of the interval that reads back as
it, over the same denominator. The bounds belong to the interval when
`closed` holds. -/
structure Interval where
  low : Nat
  num : Nat
  high : Nat
  den : Nat
  closed : Bool

/-- The sign bit. -/
def isNegative (x : Float) : Bool := x.toBits >>> 63 == 1

/-- The bits below the sign: eleven of exponent and 52 of fraction. -/
def magnitudeBits (x : Float) : Nat := x.toBits.toNat % 0x8000000000000000

/-- The bit above the fraction, which normal doubles do not store. -/
def hiddenBit : Nat := 0x10000000000000

/-- The absolute value of a finite double is `m * 2 ^ (q - 1074)` for the
pair `(m, q)`. -/
def parts (x : Float) : Nat × Nat :=
  let exponent := magnitudeBits x / hiddenBit
  let fraction := magnitudeBits x % hiddenBit
  if exponent = 0 then (fraction, 0) else (hiddenBit + fraction, exponent - 1)

/-- Below a power of two the neighbours lie closer, so the lower bound is
half as far away there. -/
def interval (x : Float) : Interval :=
  let (m, q) := parts x
  let below := if m = hiddenBit ∧ 0 < q then 1 else 2
  let up := Nat.pow 2 (q - 1076)
  { low := (4 * m - below) * up
    num := 4 * m * up
    high := (4 * m + 2) * up
    den := Nat.pow 2 (1076 - q)
    closed := m % 2 = 0 }

/-! ## Digits -/

/-- A decimal `0.d₁d₂… * 10 ^ (exponent + 1)`: its digits as a whole number
of `length` digits, and the exponent of its first digit. -/
structure Digits where
  digits : Nat
  length : Nat
  exponent : Int

/-- The fraction `num / den` times a power of ten, as a fraction. -/
def scale (num den : Nat) (e : Int) : Nat × Nat :=
  (num * Nat.pow 10 e.toNat, den * Nat.pow 10 (-e).toNat)

/-- The exponent of the first decimal digit of `num / den`, searched upward
from a bound below it. -/
def leadingExponent (num den : Nat) : Int :=
  let guess : Int := ((num.log2 : Int) - den.log2 - 1) * 30103 / 100000 - 1
  let fits (e : Int) : Bool := let (a, b) := scale num den (-e); a < 10 * b
  if fits guess then guess
  else if fits (guess + 1) then guess + 1
  else if fits (guess + 2) then guess + 2
  else guess + 3

/-- The grid point `d` in units of `10 ^ unit` lies in the interval. -/
def Interval.holds (r : Interval) (d : Nat) (unit : Int) : Bool :=
  let (a, b) := scale d 1 unit
  let point := a * r.den
  if r.closed then r.low * b ≤ point && point ≤ r.high * b
  else r.low * b < point && point < r.high * b

/-- Of the two grid points around the value, the one that reads back; of
two, the nearer one, and of two at one distance the even one. -/
def Interval.pick? (r : Interval) (unit : Int) : Option Nat :=
  let (a, b) := scale r.num r.den (-unit)
  let d := a / b
  let twice := 2 * (a % b)
  match r.holds d unit, r.holds (d + 1) unit with
  | false, false => none
  | true, false => some d
  | false, true => some (d + 1)
  | true, true => some (if twice < b || twice == b && d % 2 == 0 then d else d + 1)

/-- The first grid with a hit, from the given digit count on. Seventeen
digits always read back, so the search ends there. -/
def Interval.search (r : Interval) (e : Int) : Nat → Nat → Digits
  | 0, n => ⟨r.num * Nat.pow 10 (n - 1 - e).toNat / r.den, n, e⟩
  | fuel + 1, n =>
    match r.pick? (e + 1 - n) with
    | some d => if d = Nat.pow 10 n then ⟨Nat.pow 10 (n - 1), n, e + 1⟩ else ⟨d, n, e⟩
    | none => r.search e fuel (n + 1)

/-- The shortest digits of the absolute value of a finite double. -/
def shortest (x : Float) : Digits :=
  if magnitudeBits x = 0 then ⟨0, 1, 0⟩
  else
    let r := interval x
    r.search (leadingExponent r.num r.den) 17 1

/-! ## Rounding down -/

/-- The greatest whole number that is not above a finite double. -/
def floor (x : Float) : Int :=
  let (m, q) := parts x
  let n : Int := if isNegative x then -m else m
  if 1074 ≤ q then n * Nat.pow 2 (q - 1074) else n / Nat.pow 2 (1074 - q)

/-- Steps are counted with 64 bits. -/
def leastStep : Int := -0x8000000000000000

def greatestStep : Int := 0x7fffffffffffffff

/-- The step that a double lies on: it rounded down, within the bounds of
steps. What is not a number lies on the step zero. -/
def step (x : Float) : Int :=
  if x.isNaN then 0 else max leastStep (min greatestStep (floor x))

/-! ## Layouts -/

structure Layout where
  /-- The least exponent of the first digit that is written without an
  exponent; without a bound all small numbers are. -/
  least : Option Int
  /-- The first exponent that is written with an exponent; without a bound
  no large number is. -/
  limit : Option Int
  /-- What a number without an exponent has after it when it is whole. -/
  wholeMark : String
  /-- What stands before an exponent that is not negative. -/
  plus : String

/-- Numbers of documents: from `0.00001` up to sixteen digits before the
point without an exponent, and always with a fraction. -/
def Layout.document : Layout := ⟨some (-5), some 16, ".0", "+"⟩

/-- Numbers of keys and of query text: never with an exponent, and whole
numbers without a fraction. -/
def Layout.plain : Layout := ⟨none, none, "", ""⟩

/-- Numbers of diagnostics: from `0.0001` up to sixteen digits before the
point without an exponent, and then with a fraction. -/
def Layout.diagnostic : Layout := ⟨some (-4), some 16, ".0", ""⟩

/-! ## Writing -/

def Layout.isPlain (l : Layout) (e : Int) : Bool :=
  l.least.all (· ≤ e) && l.limit.all (e < ·)

/-- The digits with a point after the first `e + 1` of them. -/
def Layout.writePlain (l : Layout) (d : Digits) : String :=
  let ds := toString d.digits
  if d.exponent < 0 then
    "0." ++ String.ofList (List.replicate (-d.exponent - 1).toNat '0') ++ ds
  else
    let whole := d.exponent.toNat + 1
    if ds.length ≤ whole then
      ds ++ String.ofList (List.replicate (whole - ds.length) '0') ++ l.wholeMark
    else String.ofList (ds.toList.take whole) ++ "." ++ String.ofList (ds.toList.drop whole)

/-- One digit, a point, the other digits, and the exponent. -/
def Layout.writeScientific (l : Layout) (d : Digits) : String :=
  let ds := (toString d.digits).toList
  let fraction := match ds.drop 1 with
    | [] => ""
    | rest => "." ++ String.ofList rest
  String.ofList (ds.take 1) ++ fraction ++ "e" ++
    (if d.exponent < 0 then "" else l.plus) ++ toString d.exponent

/-- The text of a double. -/
def Layout.write (l : Layout) (x : Float) : String :=
  if x.isNaN then "NaN"
  else
    let sign := if isNegative x then "-" else ""
    if x.isInf then sign ++ "inf"
    else
      let d := shortest x
      sign ++ (if l.isPlain d.exponent then l.writePlain d else l.writeScientific d)

/-! ## Reading -/

/-- The digits at the front, and the rest. -/
def spanDigits (cs : List Char) : List Char × List Char :=
  (cs.takeWhile Char.isDigit, cs.dropWhile Char.isDigit)

/-- The number that decimal digits write. -/
def ofDigits (ds : List Char) : Nat :=
  ds.foldl (fun n c => 10 * n + (c.toNat - '0'.toNat)) 0

/-- The sign in front, and the rest. Without a sign a number is positive. -/
def spanSign : List Char → Bool × List Char
  | '-' :: rest => (true, rest)
  | '+' :: rest => (false, rest)
  | cs => (false, cs)

/-- The exponent behind the digits, when the rest is nothing but one. -/
def exponent? : List Char → Option Int
  | [] => some 0
  | c :: rest =>
    if c == 'e' || c == 'E' then
      let (negative, rest) := spanSign rest
      let (ds, rest) := spanDigits rest
      if ds.isEmpty || !rest.isEmpty then none
      else
        let n : Int := ofDigits ds
        some (if negative then -n else n)
    else none

/-! ## Numbers -/

/-- The double nearest to `digits * 10 ^ e`. Beyond a thousand places the
result is zero or infinite, whatever the digits. -/
def nearest (digits : Nat) (e : Int) : Float :=
  if digits = 0 then 0.0
  else
    let places : Int := (toString digits).length
    if places + e > 1000 then 1.0 / 0.0
    else if places + e < -1000 then 0.0
    else Float.ofScientific digits (e < 0) e.natAbs

/-- A number of digits and an exponent, without a sign. -/
def unsigned? (cs : List Char) : Option Float :=
  let (whole, rest) := spanDigits cs
  let (fraction, rest) := match rest with
    | '.' :: rest => spanDigits rest
    | rest => ([], rest)
  if whole.isEmpty && fraction.isEmpty then none
  else (exponent? rest).map fun e => nearest (ofDigits (whole ++ fraction)) (e - fraction.length)

/-- The names of the doubles that no digits write, in any case. -/
def named? (cs : List Char) : Option Float :=
  match String.ofList (cs.map Char.toLower) with
  | "inf" => some (1.0 / 0.0)
  | "infinity" => some (1.0 / 0.0)
  | "nan" => some (0.0 / 0.0)
  | _ => none

/-- The double that a text writes, if the whole text writes one. -/
def parse? (s : String) : Option Float :=
  let (negative, rest) := spanSign s.toList
  ((unsigned? rest).or (named? rest)).map fun x => if negative then -x else x

end EntityStore.Decimal
