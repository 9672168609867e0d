-- Expressions in the form that automata are built from: sequences and choices
-- are flat, text stands together, and what is simple in a longer way is
-- written in the short one.
import EntityStore.Pattern.Regex.Basic

namespace EntityStore.Regex

inductive Normal where
  | empty
  /-- The code points of a text. -/
  | text (codes : List Nat)
  /-- One code point of a set, which does not hold exactly one. -/
  | set (s : CodeSet)
  | assert (a : Assertion)
  | times (n : Normal) (least : Nat) (most : Option Nat)
  /-- An expression whose match is remembered. -/
  | group (n : Normal)
  | seq (ns : List Normal)
  | choice (ns : List Normal)

namespace Normal

/-! ## Lengths of what matches -/

mutual

/-- The least length of a match, if something matches in any case. -/
def least? : Normal → Option Nat
  | .empty => some 0
  | .text codes => some codes.length
  | .set s => if s.isEmpty then none else some 1
  | .assert _ => some 0
  | .times n least _ => n.least?.map (· * least)
  | .group n => n.least?
  | .seq ns => leastSum? ns
  | .choice ns => leastOf? none ns

/-- The least length of a sequence. -/
def leastSum? : List Normal → Option Nat
  | [] => some 0
  | n :: ns =>
    match n.least?, leastSum? ns with
    | some k, some l => some (k + l)
    | _, _ => none

/-- The least length of a choice, given that of the branches before. -/
def leastOf? (before : Option Nat) : List Normal → Option Nat
  | [] => before
  | n :: ns => n.least?.bind fun k => leastOf? (some (before.elim k (min k))) ns

end

/-- No match is empty. -/
def isNeverEmpty (n : Normal) : Bool := n.least?.any (0 < ·)

mutual

/-- All matches are empty. -/
def isAlwaysEmpty : Normal → Bool
  | .empty => true
  | .text _ => false
  | .set _ => false
  | .assert _ => true
  | .times n _ most => n.isAlwaysEmpty && most.isSome
  | .group n => n.isAlwaysEmpty
  | .seq ns => areAlwaysEmpty ns
  | .choice ns => areAlwaysEmpty ns

def areAlwaysEmpty : List Normal → Bool
  | [] => true
  | n :: ns => n.isAlwaysEmpty && areAlwaysEmpty ns

end

/-! ## Anchors -/

mutual

/-- Each match starts where the assertion holds. -/
def startsAt (a : Assertion) : Normal → Bool
  | .assert b => a = b
  | .times n least _ => 0 < least && n.startsAt a
  | .group n => n.startsAt a
  | .seq ns => someStartsAt a ns
  | .choice ns => allStartAt a ns
  | _ => false

/-- A sequence starts where the assertion holds: one of its parts says so,
and those before it are empty. -/
def someStartsAt (a : Assertion) : List Normal → Bool
  | [] => false
  | n :: ns => n.startsAt a || (n.isAlwaysEmpty && someStartsAt a ns)

def allStartAt (a : Assertion) : List Normal → Bool
  | [] => true
  | n :: ns => n.startsAt a && allStartAt a ns

end

mutual

/-- Each match ends where the assertion holds. -/
def endsAt (a : Assertion) : Normal → Bool
  | .assert b => a = b
  | .times n least _ => 0 < least && n.endsAt a
  | .group n => n.endsAt a
  | .seq ns => someEndsAt a ns
  | .choice ns => allEndAt a ns
  | _ => false

/-- A sequence ends where the assertion holds: one of its parts says so, and
those behind it are empty. -/
def someEndsAt (a : Assertion) : List Normal → Bool
  | [] => false
  | n :: ns => someEndsAt a ns || (areAlwaysEmpty ns && n.endsAt a)

def allEndAt (a : Assertion) : List Normal → Bool
  | [] => true
  | n :: ns => n.endsAt a && allEndAt a ns

end

/-! ## Simple forms -/

/-- One code point of a set. -/
def ofSet (s : CodeSet) : Normal :=
  match s.single? with
  | some n => .text [n]
  | none => .set s

/-- A repetition. More than one turn of what is always empty is one turn. -/
def repeated (n : Normal) (least : Nat) (most : Option Nat) : Normal :=
  let (least, most) :=
    if n.isAlwaysEmpty then (min least 1, some (min 1 (most.getD 1))) else (least, most)
  if most = some 0 then .empty
  else if least = 1 ∧ most = some 1 then n
  else .times n least most

/-- The parts of a sequence. -/
def parts : Normal → List Normal
  | .empty => []
  | .seq ns => ns
  | n => [n]

/-- The sequence of some parts. -/
def ofParts : List Normal → Normal
  | [] => .empty
  | [n] => n
  | ns => .seq ns

/-- A part in front of others. Text in front of text becomes one. -/
def consPart (n : Normal) (ns : List Normal) : List Normal :=
  match n, ns with
  | .text codes, .text more :: ns => .text (codes ++ more) :: ns
  | n, ns => n :: ns

/-- One expression behind the other. -/
def append (n m : Normal) : Normal := ofParts (n.parts.foldr consPart m.parts)

/-! ## Choices -/

mutual

/-- Both are written alike. What is remembered is like nothing else. -/
def same : Normal → Normal → Bool
  | .empty, .empty => true
  | .text codes, .text others => codes = others
  | .set s, .set t => s = t
  | .assert a, .assert b => a = b
  | .times n least most, .times m least' most' => least = least' && most = most' && n.same m
  | .seq ns, .seq ms => sameAll ns ms
  | .choice ns, .choice ms => sameAll ns ms
  | _, _ => false

def sameAll : List Normal → List Normal → Bool
  | [], [] => true
  | n :: ns, m :: ms => n.same m && sameAll ns ms
  | _, _ => false

end

/-- The parts that two sequences both begin with. -/
def commonParts : List Normal → List Normal → List Normal
  | n :: ns, m :: ms => if n.same m then n :: commonParts ns ms else []
  | _, _ => []

/-- The code point of a text of one. -/
def code? : Normal → Option Nat
  | .text [n] => some n
  | _ => none

def set? : Normal → Option CodeSet
  | .set s => some s
  | _ => none

def seq? : Normal → Option (List Normal)
  | .seq ns => some ns
  | _ => none

/-- The branches of a choice. -/
def branches : Normal → List Normal
  | .choice ns => ns
  | n => [n]

/-- A choice from its branches: single characters and sets become one set,
and what all sequences begin with comes first. The number bounds how often
that is done. -/
def choose : Nat → List Normal → Normal
  | _, [] => .set .empty
  | _, [n] => n
  | fuel, ns =>
    let ns := ns.flatMap branches
    match ns.mapM code?, ns.mapM set?, ns.mapM seq?, fuel with
    | some codes, _, _, _ => ofSet (.ofRanges (codes.map fun n => (n, n)))
    | _, some sets, _, _ => ofSet (.unions sets)
    | _, _, some (first :: others), fuel + 1 =>
      match others.foldl commonParts first with
      | [] => .choice ns
      | common =>
        let suffixes := (first :: others).map fun parts => ofParts (parts.drop common.length)
        append (ofParts common) (choose fuel suffixes)
    | _, _, _, _ => .choice ns

/-- A choice from its branches. -/
def ofBranches : List Normal → Normal
  | [n] => n
  | ns => choose (((ns.flatMap branches).map fun n => n.parts.length).foldl max 0) ns

/-- The branches of an expression, in their simple form. -/
def branchesOf : Regex → List Normal
  | .empty => [.empty]
  | .set s => [ofSet s]
  | .assert a => [.assert a]
  | .cat r s => [append (ofBranches (branchesOf r)) (ofBranches (branchesOf s))]
  | .alt r s => ofBranches (branchesOf r) :: branchesOf s
  | .times r least most => [repeated (ofBranches (branchesOf r)) least most]
  | .group true r => [.group (ofBranches (branchesOf r))]
  | .group false r => [ofBranches (branchesOf r)]

/-- The simple form of an expression. -/
def ofRegex (r : Regex) : Normal := ofBranches (branchesOf r)

end Normal

end EntityStore.Regex
