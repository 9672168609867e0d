-- Sets in brackets, as regular expressions write them: characters, ranges,
-- classes and sets inside sets, joined by operators.
import EntityStore.Pattern.Regex.Escape

namespace EntityStore.Regex

/-- Brackets, groups and repetitions nest no deeper than this. -/
def maxDepth : Nat := 250

/-! ## Parts of sets -/

/-- A set, and how deep the brackets that write it nest. -/
structure Operand where
  set : CodeSet
  depth : Nat

/-- What a set in brackets holds so far: how many members, and the greatest
depth of one. -/
structure Members where
  ranges : List (Nat × Nat)
  count : Nat
  depth : Nat

namespace Members

def none : Members := ⟨[], 0, 0⟩

def add (m : Members) (o : Operand) : Members :=
  ⟨o.set.ranges ++ m.ranges, m.count + 1, max m.depth o.depth⟩

/-- The members as one set. Several of them count as a level. -/
def operand (m : Members) : Operand :=
  ⟨.ofRanges m.ranges, if m.count ≤ 1 then m.depth else m.depth + 1⟩

end Members

/-- How two sets are joined. -/
inductive SetOp where
  | inter
  | diff
  | symmDiff
  deriving DecidableEq, Repr

/-- Two sets joined. Both are folded first. -/
def SetOp.apply (f : Flags) (op : SetOp) (s t : CodeSet) : CodeSet :=
  match op with
  | .inter => (f.fold s).inter (f.fold t)
  | .diff => (f.fold s).diff (f.fold t)
  | .symmDiff => (f.fold s).symmDiff (f.fold t)

/-- A set in brackets that is open: whether it is complemented, the operand
before its last operator, and its members since. -/
structure Bracket where
  negated : Bool
  pending : Option (Operand × SetOp)
  members : Members

namespace Bracket

/-- The operands so far as one. -/
def joined (b : Bracket) (f : Flags) : Operand :=
  let last := b.members.operand
  match b.pending with
  | none => last
  | some (first, op) => ⟨op.apply f first.set last.set, max first.depth last.depth + 1⟩

/-- The set of the closed brackets. -/
def close? (b : Bracket) (f : Flags) : Option Operand :=
  let o := b.joined f
  (f.class? b.negated o.set).map fun s => ⟨s, o.depth + 1⟩

def add (b : Bracket) (o : Operand) : Bracket := { b with members := b.members.add o }

/-- The brackets behind an operator. -/
def operator (b : Bracket) (f : Flags) (op : SetOp) : Bracket :=
  { b with pending := some (b.joined f, op), members := .none }

end Bracket

/-! ## Reading -/

/-- The operator in front, and the rest. -/
def readSetOp? : List Char → Option (SetOp × List Char)
  | '&' :: '&' :: rest => some (.inter, rest)
  | '-' :: '-' :: rest => some (.diff, rest)
  | '~' :: '~' :: rest => some (.symmDiff, rest)
  | _ => none

/-- A class with a name in brackets and colons, behind the first bracket:
whether it is complemented, its set, and the rest. -/
def readNamedClass? (cs : List Char) : Option (Bool × CodeSet × List Char) :=
  match cs with
  | ':' :: rest =>
    let (negated, rest) := match rest with
      | '^' :: rest => (true, rest)
      | rest => (false, rest)
    match rest.dropWhile (· != ':') with
    | ':' :: ']' :: after =>
      (CharSet.named? (String.ofList (rest.takeWhile (· != ':')))).map (negated, ·, after)
    | _ => none
  | _ => none

/-- One member of a set, which is a character or a set, and the rest. -/
def readMember? (f : Flags) : List Char → Option (Escaped × List Char)
  | [] => none
  | '\\' :: rest => readEscape? f rest
  | c :: rest => some (.char c, rest)

/-- A character that a set may hold: any, or one of ASCII. -/
def Flags.allows (f : Flags) (c : Char) : Bool := f.allScripts || c.val < 128

/-- The set of one member. -/
def memberSet? (f : Flags) : Escaped → Option CodeSet
  | .char c => if f.allows c then some (.singleChar c) else none
  | .set s => some s
  | .assert _ => none

/-- The range between two members, which are characters. -/
def rangeSet? (f : Flags) : Escaped → Escaped → Option CodeSet
  | .char a, .char b =>
    if a ≤ b && f.allows a && f.allows b then some (.range a.toNat b.toNat) else none
  | _, _ => none

/-- One member or range of members, and the rest. A minus sign before the
closing bracket or another minus sign makes no range. -/
def readRange? (f : Flags) (cs : List Char) : Option (CodeSet × List Char) := do
  let (first, rest) ← readMember? f cs
  match f.skip rest with
  | [] => none
  | '-' :: after =>
    let next := f.peek? after
    if next == some ']' || next == some '-' then
      return (← memberSet? f first, '-' :: after)
    else
      let (last, rest) ← readMember? f (f.skip after)
      return (← rangeSet? f first last, rest)
  | rest => return (← memberSet? f first, rest)

/-- The number of minus signs in front, and the rest. -/
def minusSigns (f : Flags) : Nat → List Char → Nat × List Char
  | n + 1, '-' :: rest =>
    let (count, after) := minusSigns f n (f.skip rest)
    (count + 1, after)
  | _, cs => (0, cs)

/-- The brackets behind their opening sign, and the rest. Minus signs that
come first are members, and so is a closing bracket that comes first. -/
def openBracket (f : Flags) (cs : List Char) : Bracket × List Char :=
  let (negated, cs) := match f.skip cs with
    | '^' :: rest => (true, f.skip rest)
    | cs => (false, cs)
  match minusSigns f cs.length cs with
  | (0, ']' :: rest) =>
    (⟨negated, none, Members.none.add ⟨.singleChar ']', 0⟩⟩, f.skip rest)
  | (0, rest) => (⟨negated, none, .none⟩, rest)
  | (count, rest) => (⟨negated, none, ⟨(CodeSet.singleChar '-').ranges, count, 0⟩⟩, rest)

/-- The rest of a set in brackets, up to its closing bracket. Given are the
brackets that are open, the innermost one first. -/
def readBracket? (f : Flags) (b : Bracket) (outer : List Bracket) (cs : List Char) :
    Nat → Option (Operand × List Char)
  | 0 => none
  | fuel + 1 =>
    match f.skip cs with
    | [] => none
    | ']' :: rest =>
      match b.close? f, outer with
      | none, _ => none
      | some o, [] => some (o, rest)
      | some o, parent :: outer => readBracket? f (parent.add o) outer rest fuel
    | '[' :: rest =>
      match readNamedClass? rest with
      | some (negated, s, rest) =>
        match f.class? negated s with
        | none => none
        | some s => readBracket? f (b.add ⟨s, 0⟩) outer rest fuel
      | none =>
        if maxDepth ≤ outer.length + 1 then none
        else
          let (inner, rest) := openBracket f rest
          readBracket? f inner (b :: outer) rest fuel
    | cs =>
      match readSetOp? cs with
      | some (op, rest) => readBracket? f (b.operator f op) outer rest fuel
      | none =>
        match readRange? f cs with
        | none => none
        | some (s, rest) => readBracket? f (b.add ⟨s, 0⟩) outer rest fuel

end EntityStore.Regex
