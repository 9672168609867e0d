-- Reading the text of a document. The whole text must be one document, at
-- most 127 levels deep. Of two members with one name the later one stays.
import EntityStore.Decimal
import EntityStore.Json.Basic

namespace EntityStore.Json

/-! ## Blanks and texts -/

def isSpace (c : Char) : Bool := c == ' ' || c == '\n' || c == '\t' || c == '\r'

def skipSpace (cs : List Char) : List Char := cs.dropWhile isSpace

/-- The value of a hexadecimal digit. -/
def hexValue? (c : Char) : Option Nat :=
  if c.isDigit then some (c.toNat - '0'.toNat)
  else if 'a' ≤ c ∧ c ≤ 'f' then some (c.toNat - 'a'.toNat + 10)
  else if 'A' ≤ c ∧ c ≤ 'F' then some (c.toNat - 'A'.toNat + 10)
  else none

/-- The number that four hexadecimal digits write. -/
def hexUnit? (a b c d : Char) : Option Nat := do
  let a ← hexValue? a
  let b ← hexValue? b
  let c ← hexValue? c
  let d ← hexValue? d
  return ((a * 16 + b) * 16 + c) * 16 + d

/-- The character behind a backslash. -/
def unescape? : Char → Option Char
  | '"' => some '"'
  | '\\' => some '\\'
  | '/' => some '/'
  | 'b' => some '\x08'
  | 'f' => some '\x0c'
  | 'n' => some '\n'
  | 'r' => some '\r'
  | 't' => some '\t'
  | _ => none

/-- The characters up to the closing quote, and the rest. A character
beyond the first plane may be written as two units; a lone half of such a
pair is refused. -/
def quoted? : List Char → Option (List Char × List Char)
  | [] => none
  | '"' :: rest => some ([], rest)
  | '\\' :: 'u' :: a :: b :: c :: d :: rest =>
    match hexUnit? a b c d with
    | none => none
    | some high =>
      if 0xD800 ≤ high && high < 0xDC00 then
        match rest with
        | '\\' :: 'u' :: e :: f :: g :: h :: rest =>
          match hexUnit? e f g h with
          | none => none
          | some low =>
            if 0xDC00 ≤ low && low < 0xE000 then
              let code := 0x10000 + (high - 0xD800) * 0x400 + (low - 0xDC00)
              (quoted? rest).map fun (s, r) => (Char.ofNat code :: s, r)
            else none
        | _ => none
      else if 0xDC00 ≤ high && high < 0xE000 then none
      else (quoted? rest).map fun (s, r) => (Char.ofNat high :: s, r)
  | '\\' :: c :: rest =>
    match unescape? c with
    | none => none
    | some c => (quoted? rest).map fun (s, r) => (c :: s, r)
  | c :: rest =>
    if c.val < 32 then none else (quoted? rest).map fun (s, r) => (c :: s, r)

/-! ## Numbers -/

/-- The largest whole number that the digits of a double are gathered in. -/
def maxDigits : Nat := 0xffffffffffffffff

/-- Digits are gathered while the number stays within `maxDigits`. The
digits that no longer fit are left over. -/
def gather (n : Nat) : List Char → Nat × List Char
  | [] => (n, [])
  | c :: rest =>
    let m := 10 * n + (c.toNat - '0'.toNat)
    if m ≤ maxDigits then gather m rest else (n, c :: rest)

/-- A power of ten as a double. -/
def powerOfTen (k : Nat) : Float := Float.ofScientific 1 false k

/-- A double times a power of ten. Small results may be reached in several
steps; one that is too large is refused. -/
def scaled? (x : Float) (e : Int) : Nat → Option Float
  | 0 => some 0.0
  | steps + 1 =>
    if e.natAbs ≤ 308 then
      let y := if 0 ≤ e then x * powerOfTen e.natAbs else x / powerOfTen e.natAbs
      if y.isInf then none else some y
    else if x == 0.0 then some x
    else if 0 ≤ e then none
    else scaled? (x / powerOfTen 308) (e + 308) steps

/-- The double of the digits before the point, those behind it, and an
exponent: the digits that fit are rounded to a double and then scaled. -/
def double? (negative : Bool) (whole fraction : List Char) (e : Int) : Option Float :=
  let (n, left) := gather 0 whole
  let (m, more) := gather n fraction
  let places : Int := left.length - (fraction.length - more.length : Int)
  (scaled? (Float.ofNat m) (e + places) 4).map fun x => if negative then -x else x

/-- A number without fraction and exponent: a whole number of 64 bits, and a
double when it is none of these or a negative zero. -/
def whole? (negative : Bool) (digits : List Char) : Option Json :=
  let n := Decimal.ofDigits digits
  if negative then
    if n = 0 then some (.float (-0.0))
    else if n ≤ 0x8000000000000000 then some (.int (-n))
    else (double? true digits [] 0).map .float
  else if n ≤ maxDigits then some (.int n)
  else (double? false digits [] 0).map .float

/-- The exponent of a number, if it has one, and the rest. -/
def exponentPart? : List Char → Option (Option Int × List Char)
  | c :: rest =>
    if c == 'e' || c == 'E' then
      let (negative, rest) := Decimal.spanSign rest
      let (ds, rest) := Decimal.spanDigits rest
      if ds.isEmpty then none
      else
        let n : Int := Decimal.ofDigits ds
        some (some (if negative then -n else n), rest)
    else some (none, c :: rest)
  | [] => some (none, [])

/-- The digits behind the point of a number, if it has one, and the rest. -/
def fractionPart? : List Char → Option (List Char × List Char)
  | '.' :: rest =>
    let (ds, rest) := Decimal.spanDigits rest
    if ds.isEmpty then none else some (ds, rest)
  | rest => some ([], rest)

/-- A number, and the rest. No further digit follows a leading zero. -/
def number (negative : Bool) (cs : List Char) : Option (Json × List Char) := do
  let (whole, rest) := Decimal.spanDigits cs
  if whole.isEmpty || (whole.head? == some '0' && whole.length > 1) then none
  else
    let (fraction, rest) ← fractionPart? rest
    let (e, rest) ← exponentPart? rest
    if fraction.isEmpty && e.isNone then
      (whole? negative whole).map (·, rest)
    else
      (double? negative whole fraction (e.getD 0)).map fun x => (.float x, rest)

/-! ## Documents -/

/-- Lists and objects nest at most this deep. -/
def maxDepth : Nat := 127

mutual

/-- One document in front, and the rest. -/
def readValue? (depth : Nat) (cs : List Char) : Nat → Option (Json × List Char)
  | 0 => none
  | fuel + 1 =>
    match skipSpace cs with
    | 'n' :: 'u' :: 'l' :: 'l' :: rest => some (.null, rest)
    | 't' :: 'r' :: 'u' :: 'e' :: rest => some (.bool true, rest)
    | 'f' :: 'a' :: 'l' :: 's' :: 'e' :: rest => some (.bool false, rest)
    | '"' :: rest => (quoted? rest).map fun (s, r) => (.str (String.ofList s), r)
    | '[' :: rest =>
      if depth = 0 then none
      else match skipSpace rest with
        | ']' :: rest => some (.arr [], rest)
        | rest => (readItems? (depth - 1) rest fuel).map fun (js, r) => (.arr js, r)
    | '\x7b' :: rest =>
      if depth = 0 then none
      else match skipSpace rest with
        | '\x7d' :: rest => some (.obj [], rest)
        | rest => (readMembers? (depth - 1) rest fuel).map fun (ms, r) => (object ms, r)
    | '-' :: rest => number true rest
    | rest => number false rest

/-- The documents of a list up to its end. -/
def readItems? (depth : Nat) (cs : List Char) : Nat → Option (List Json × List Char)
  | 0 => none
  | fuel + 1 =>
    match readValue? depth cs fuel with
    | none => none
    | some (j, rest) =>
      match skipSpace rest with
      | ',' :: rest => (readItems? depth rest fuel).map fun (js, r) => (j :: js, r)
      | ']' :: rest => some ([j], rest)
      | _ => none

/-- The members of an object up to its end. -/
def readMembers? (depth : Nat) (cs : List Char) : Nat → Option (List (String × Json) × List Char)
  | 0 => none
  | fuel + 1 =>
    match skipSpace cs with
    | '"' :: rest =>
      match quoted? rest with
      | none => none
      | some (k, rest) =>
        match skipSpace rest with
        | ':' :: rest =>
          match readValue? depth rest fuel with
          | none => none
          | some (j, rest) =>
            let member := (String.ofList k, j)
            match skipSpace rest with
            | ',' :: rest => (readMembers? depth rest fuel).map fun (ms, r) => (member :: ms, r)
            | '\x7d' :: rest => some ([member], rest)
            | _ => none
        | _ => none
    | _ => none

end

/-- The document that a text writes, if the whole text writes one. Every two
steps take a character, so twice the length of the text is enough of them. -/
def parse? (s : String) : Option Json :=
  match readValue? maxDepth s.toList (2 * s.length + 2) with
  | some (j, rest) => if (skipSpace rest).isEmpty then some j else none
  | none => none

end EntityStore.Json
