-- What a backslash in a regular expression and the characters behind it
-- stand for, and the bounds of repetitions.
import EntityStore.Pattern.Regex.Flags

namespace EntityStore.Regex

/-! ## Numbers -/

/-- A number of 32 bits with white space around it. -/
def count? (cs : List Char) : Option Nat :=
  let digits := Text.trimWhere Text.isBlank cs
  let n := digits.foldl (fun n c => 10 * n + (c.toNat - '0'.toNat)) 0
  if digits.isEmpty || !digits.all Char.isDigit || n ≥ 0x100000000 then none else some n

/-- The bounds of a repetition behind the opening brace, and the rest. -/
def readBounds? (f : Flags) (cs : List Char) : Option (Nat × Option Nat × List Char) := do
  let (inside, rest) ← f.upToBrace false cs
  let least ← count? (inside.takeWhile (· != ','))
  match inside.dropWhile (· != ',') with
  | [] => some (least, some least, rest)
  | [_] => some (least, none, rest)
  | _ :: bound =>
    let most ← count? bound
    if least ≤ most then some (least, some most, rest) else none

def hexValue? (c : Char) : Option Nat :=
  if c.isDigit then some (c.toNat - '0'.toNat)
  else if 'a' ≤ c ∧ c ≤ 'f' then some (c.toNat - 'a'.toNat + 10)
  else if 'A' ≤ c ∧ c ≤ 'F' then some (c.toNat - 'A'.toNat + 10)
  else none

/-- The character whose code point the hexadecimal digits write. -/
def hexChar? (digits : List Char) : Option Char :=
  if digits.isEmpty then none
  else
    match digits.foldlM (fun n c => (hexValue? c).map (16 * n + ·)) 0 with
    | none => none
    | some n => if h : n.isValidChar then some (Char.ofNatAux n h) else none

/-- A code point in braces, or of a fixed number of digits, and the rest. Two
digits write a byte, and with the characters of ASCII only that is less than
a character from 128 on. -/
def readHex? (f : Flags) (count : Nat) (cs : List Char) : Option (Char × List Char) :=
  match f.skip cs with
  | '\x7b' :: rest => do
    let (digits, rest) ← f.upToBrace false rest
    return (← hexChar? digits, rest)
  | cs => do
    let (digits, rest) ← f.takeChars count cs
    let c ← hexChar? digits
    if count = 2 ∧ 128 ≤ c.val ∧ !f.allScripts then none else some (c, rest)

/-! ## Properties -/

/-- What the text in the braces of a class asks for: a name alone, or a
property and its value. -/
inductive Condition where
  | named (name : List Char)
  | equal (name value : List Char)
  | unequal (name value : List Char)

/-- What stands before and behind the first exclamation mark that an equals
sign follows. -/
def splitUnequal? : List Char → Option (List Char × List Char)
  | [] => none
  | '!' :: '=' :: rest => some ([], rest)
  | c :: rest => (splitUnequal? rest).map fun (name, value) => (c :: name, value)

/-- The condition that the text in braces writes. An exclamation mark with
an equals sign parts it before all else, and then a colon. -/
def Condition.read (inside : List Char) : Condition :=
  match splitUnequal? inside with
  | some (name, value) => .unequal name value
  | none =>
    let sign := if inside.contains ':' then ':' else '='
    match inside.dropWhile (· != sign) with
    | _ :: value => .equal (inside.takeWhile (· != sign)) value
    | [] => .named inside

/-- The characters that a condition asks for, and whether it is turned round. -/
def Condition.set? : Condition → Option (Bool × CodeSet)
  | .named name => (Unicode.named? (String.ofList name)).map (false, ·)
  | .equal name value =>
    (Unicode.valued? (String.ofList name) (String.ofList value)).map (false, ·)
  | .unequal name value =>
    (Unicode.valued? (String.ofList name) (String.ofList value)).map (true, ·)

/-- A class by a property, behind its letter, and the rest. -/
def readProperty? (f : Flags) (negated : Bool) (cs : List Char) : Option (CodeSet × List Char) :=
  if !f.allScripts then none
  else do
    let (condition, rest) ← match f.skip cs with
      | [] => none
      | '\\' :: _ => none
      | '\x7b' :: rest =>
        (f.upToBrace false rest).map fun (inside, rest) => (Condition.read inside, rest)
      | c :: rest => some (.named [c], rest)
    let (turned, s) ← condition.set?
    let s ← f.class? (negated != turned) s
    return (s, rest)

/-! ## Word boundaries -/

/-- The kinds of word boundaries that have a name in braces. -/
def namedBoundary? (w : CodeSet) : String → Option Assertion
  | "start" => some (.wordStart w)
  | "end" => some (.wordEnd w)
  | "start-half" => some (.afterNonWord w)
  | "end-half" => some (.beforeNonWord w)
  | _ => none

/-- A word boundary behind its letter: braces with a name make it one of a
kind, and braces with anything else belong to a repetition. -/
def readBoundary? (f : Flags) (cs : List Char) : Option (Assertion × List Char) :=
  match cs with
  | '\x7b' :: rest =>
    if (f.skip rest).head?.any fun c => c.isAlpha || c == '-' then do
      let (name, rest) ← f.upToBrace false rest
      let a ← namedBoundary? f.wordSet (String.ofList name)
      return (a, rest)
    else some (.edge f.wordSet, cs)
  | _ => some (.edge f.wordSet, cs)

/-! ## Escapes -/

/-- What a backslash and the characters behind it stand for. -/
inductive Escaped where
  | char (c : Char)
  | set (s : CodeSet)
  | assert (a : Assertion)

/-- Characters that mean themselves behind a backslash. -/
def isPlainEscape (c : Char) : Bool :=
  c.val < 128 && !c.isAlphanum && c != '<' && c != '>'

/-- What follows a backslash, and the rest. -/
def readEscape? (f : Flags) : List Char → Option (Escaped × List Char)
  | [] => none
  | c :: rest =>
    if isPlainEscape c then some (.char c, rest)
    else
      match c with
      | 'a' => some (.char '\x07', rest)
      | 'f' => some (.char '\x0c', rest)
      | 'n' => some (.char '\n', rest)
      | 'r' => some (.char '\r', rest)
      | 't' => some (.char '\t', rest)
      | 'v' => some (.char '\x0b', rest)
      | 'x' => (readHex? f 2 rest).map fun (c, r) => (.char c, r)
      | 'u' => (readHex? f 4 rest).map fun (c, r) => (.char c, r)
      | 'U' => (readHex? f 8 rest).map fun (c, r) => (.char c, r)
      | 'p' => (readProperty? f false rest).map fun (s, r) => (.set s, r)
      | 'P' => (readProperty? f true rest).map fun (s, r) => (.set s, r)
      | 'd' => some (.set f.digitSet, rest)
      | 's' => some (.set f.blankSet, rest)
      | 'w' => some (.set f.wordSet, rest)
      | 'D' => (f.compl? f.digitSet).map fun s => (.set s, rest)
      | 'S' => (f.compl? f.blankSet).map fun s => (.set s, rest)
      | 'W' => (f.compl? f.wordSet).map fun s => (.set s, rest)
      | 'A' => some (.assert .textStart, rest)
      | 'z' => some (.assert .textEnd, rest)
      | 'b' => (readBoundary? f rest).map fun (a, r) => (.assert a, r)
      | 'B' => some (.assert (.noEdge f.wordSet), rest)
      | '<' => some (.assert (.wordStart f.wordSet), rest)
      | '>' => some (.assert (.wordEnd f.wordSet), rest)
      | _ => none

end EntityStore.Regex
