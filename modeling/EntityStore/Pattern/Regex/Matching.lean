-- Matching of regular expressions. A matcher works on sets of places in the
-- text: from the places where an expression may start it finds those where
-- it may end. Place `i` is the one behind `i` characters, and a set of
-- places is a number in which bit `i` stands for place `i`.
import EntityStore.Pattern.Regex.Basic

namespace EntityStore

/-! ## Places -/

/-- The characters on either side of a place, as far as there are any. -/
structure Place where
  before : Option Char
  next : Option Char

namespace Place

/-- The places of a text in order. -/
def all (text : List Char) : List Place :=
  List.zipWith Place.mk (none :: text.map some) (text.map some ++ [none])

/-- The set of the places at which a list has `true`. -/
def bits (bs : List Bool) : Nat := bs.foldr (fun b n => 2 * n + b.toNat) 0

/-- The set of the first `n` places. -/
def firsts (n : Nat) : Nat := (1 <<< n) - 1

end Place

/-- The assertion holds at the place. -/
def Assertion.holds (a : Assertion) (p : Place) : Bool :=
  match a with
  | .textStart => p.before.isNone
  | .textEnd => p.next.isNone
  | .lineStart => p.before.all (· == '\n')
  | .lineEnd => p.next.all (· == '\n')
  | .lineStartReturn => p.before.all fun c => c == '\n' || (c == '\r' && p.next != some '\n')
  | .lineEndReturn => p.next.all fun c => c == '\r' || (c == '\n' && p.before != some '\r')
  | .edge w => p.before.any w.mem != p.next.any w.mem
  | .noEdge w => p.before.any w.mem == p.next.any w.mem
  | .wordStart w => !p.before.any w.mem && p.next.any w.mem
  | .wordEnd w => p.before.any w.mem && !p.next.any w.mem
  | .afterNonWord w => !p.before.any w.mem
  | .beforeNonWord w => !p.next.any w.mem

/-! ## Plans -/

namespace Regex

/-- An expression for one text: sets and assertions have become the places
where a character of the set follows, or where the assertion holds. -/
inductive Plan where
  | stay
  /-- On over one character, at these places. -/
  | over (places : Thunk Nat)
  /-- Not on, at these places. -/
  | within (places : Thunk Nat)
  | both (p q : Plan)
  | either (p q : Plan)
  | times (p : Plan) (least : Nat) (most : Option Nat)

/-- The plan of an expression for a text. -/
def plan (text : List Char) : Regex → Plan
  | .empty => .stay
  | .set s => .over (Thunk.mk fun _ => Place.bits (text.map s.mem))
  | .assert a => .within (Thunk.mk fun _ => Place.bits ((Place.all text).map a.holds))
  | .cat r s => .both (r.plan text) (s.plan text)
  | .alt r s => .either (r.plan text) (s.plan text)
  | .times r least most => .times (r.plan text) least most
  | .group _ r => r.plan text

namespace Plan

/-! ## Repetitions -/

/-- A move made a given number of times. -/
def repeated (move : Nat → Nat) : Nat → Nat → Nat
  | 0, starts => starts
  | n + 1, starts =>
    let ends := move starts
    if ends = starts then starts else repeated move n ends

/-- The places seen, and those that at most the given number of further
moves reach from the newest ones. -/
def reach (move : Nat → Nat) : Nat → Nat → Nat → Nat
  | 0, seen, _ => seen
  | n + 1, seen, newest =>
    let all := seen ||| move newest
    if all = seen then seen else reach move n all (all ^^^ seen)

/-- The places where one move or more end that start at a place seen, given
those for all but the newest places seen. Each round but the last one sees a
new place. -/
def endsOfMany (move : Nat → Nat) : Nat → Nat → Nat → Nat → Nat
  | 0, _, _, ends => ends
  | n + 1, seen, newest, ends =>
    let new := move newest
    let all := seen ||| new
    if all = seen then ends ||| new
    else endsOfMany move n all (all ^^^ seen) (ends ||| new)

/-- One move or more in a text of the given length. -/
def many (move : Nat → Nat) (length : Nat) (starts : Nat) : Nat :=
  endsOfMany move (length + 2) starts starts 0

/-! ## Matching -/

/-- The places where a plan ends that starts at one of the given places, in a
text of the given length. -/
def ends (length : Nat) : Plan → Nat → Nat
  | .stay, starts => starts
  | .over places, starts => if starts = 0 then 0 else (starts &&& places.get) <<< 1
  | .within places, starts => if starts = 0 then 0 else starts &&& places.get
  | .both p q, starts => q.ends length (p.ends length starts)
  | .either p q, starts => p.ends length starts ||| q.ends length starts
  | .times p least none, starts =>
    match least with
    | 0 => starts ||| many (p.ends length) length starts
    | n + 1 => many (p.ends length) length (repeated (p.ends length) n starts)
  | .times p least (some most), starts =>
    let enough := repeated (p.ends length) least starts
    reach (p.ends length) (most - least) enough enough

end Plan

/-- The expression matches somewhere in the text. -/
def found (r : Regex) (text : String) : Bool :=
  let cs := text.toList
  (r.plan cs).ends cs.length (Place.firsts (cs.length + 1)) != 0

end Regex

end EntityStore
