-- The size of the automata that a regular expression compiles to. There are two, one that
-- reads forward and one that reads backward, and an expression for which one of them would grow
-- too large is refused. A draft counts the states of an automaton and the memory that they
-- take. An automaton reads bytes, so that sets of characters become states that read UTF-8:
-- ranges of code points are sequences of ranges of bytes.
import EntityStore.Pattern.Regex.Normal
import EntityStore.Unicode.CodeSet
import Std.Data.HashMap

namespace EntityStore.Utf8

/-- The bytes of a code point. -/
def bytes (n : Nat) : List Nat :=
  let tail (n : Nat) : Nat := 0x80 + n % 0x40
  if n < 0x80 then [n]
  else if n < 0x800 then [0xc0 + n / 0x40, tail n]
  else if n < 0x10000 then [0xe0 + n / 0x1000, tail (n / 0x40), tail n]
  else [0xf0 + n / 0x40000, tail (n / 0x1000), tail (n / 0x40), tail n]

/-- The last code points of one, two and three bytes. -/
def lastOfLength : List Nat := [0x7f, 0x7ff, 0xffff]

/-- The numbers of code points that differ in the last byte, in the last two
and in the last three. -/
def blockSizes : List Nat := [0x40, 0x1000, 0x40000]

/-- Where a range has to be parted, so that each part is all that a sequence
of ranges of bytes stands for: the last code point of the first part. -/
def partAt? (first last : Nat) : Option Nat :=
  match lastOfLength.find? fun n => first ≤ n && n < last with
  | some n => some n
  | none =>
    if last < 0x80 then none
    else blockSizes.findSome? fun size =>
      if first / size = last / size then none
      else if first % size != 0 then some (first / size * size + size - 1)
      else if last % size != size - 1 then some (last / size * size - 1)
      else none

/-- The sequences of ranges of bytes that stand for a range of code points,
in ascending order. -/
def sequences (first last : Nat) : List (List (Nat × Nat)) :=
  match partAt? first last with
  | none => [(bytes first).zip (bytes last)]
  | some n =>
    if first ≤ n ∧ n < last then sequences first n ++ sequences (n + 1) last
    else [(bytes first).zip (bytes last)]
termination_by last - first

end EntityStore.Utf8

namespace EntityStore.Regex

/-- An automaton as far as it is built: the number of its states, and the
bytes of memory that they take. -/
structure Draft where
  states : Nat
  size : Nat
  deriving DecidableEq, Repr

namespace Draft

def empty : Draft := ⟨0, 0⟩

/-- The memory that an automaton may take. -/
def limit : Nat := 10 * 1024 * 1024

/-- The automaton takes more memory than it may. -/
def isFull (d : Draft) : Bool := limit < d.size

/-- A state more, which takes some memory besides its own. -/
def addState (d : Draft) (extra : Nat) : Draft := ⟨d.states + 1, d.size + 32 + extra⟩

/-- A branch more of a fork. -/
def addBranch (d : Draft) : Draft := { d with size := d.size + 4 }

/-- The end of a part linked with the start of the next one. A fork has to
remember where it leads. -/
def link (d : Draft) (isFork : Bool) : Draft := if isFork then d.addBranch else d

/-- States that read some bytes, one after the other. -/
def addText (d : Draft) (bytes : Nat) : Draft := ⟨d.states + bytes, d.size + 32 * bytes⟩

/-- A state that reads a byte in one of some ranges. -/
def addChoice (d : Draft) (ranges : Nat) : Draft := d.addState (8 * ranges)

/-! ## Sets of characters -/

/-- The hash of no numbers. -/
def noHash : UInt64 := 14695981039346656037

/-- The hash of some numbers and one number more. -/
def mixHash (hash : UInt64) (n : Nat) : UInt64 := (hash ^^^ UInt64.ofNat n) * 1099511628211

/-- The slot for a hash in a cache of the given size. -/
def slot (size hash : UInt64) : Nat := (hash % size).toNat

/-- A range of bytes, and the number of the state behind it. -/
structure Arrow where
  first : Nat
  last : Nat
  next : Nat
  deriving DecidableEq, Repr

/-- The hash of some numbers and those of an arrow. -/
def Arrow.mixHash (a : Arrow) (hash : UInt64) : UInt64 :=
  Draft.mixHash (Draft.mixHash (Draft.mixHash hash a.first) a.last) a.next

/-- A state that is not finished: the arrows that are, newest first, and the
range of bytes of one more. -/
structure Pending where
  arrows : List Arrow
  range : Option (Nat × Nat)

/-- The arrows of a state, newest first, when the newest one leads to the
given state. -/
def Pending.closed (p : Pending) (next : Nat) : List Arrow :=
  match p.range with
  | none => p.arrows
  | some (first, last) => ⟨first, last, next⟩ :: p.arrows

/-- A draft, and the states that may be shared. Each slot remembers the
newest state only. -/
structure Sharing (α : Type) where
  draft : Draft
  known : Std.HashMap Nat (α × Nat)

/-- The state with the given arrows, newest first: a known one, or a new
one. -/
def Sharing.state (m : Sharing (List Arrow)) (arrows : List Arrow) :
    Nat × Sharing (List Arrow) :=
  let s := slot 10000 (arrows.foldr Arrow.mixHash noHash)
  let new := (m.draft.states,
    ⟨m.draft.addChoice arrows.length, m.known.insert s (arrows, m.draft.states)⟩)
  match m.known[s]? with
  | some (others, id) => if others = arrows then (id, m) else new
  | none => new

/-- The number of the first of some unfinished states, the last one of which
leads to the target. -/
def finish (target : Nat) : List Pending → Sharing (List Arrow) → Nat × Sharing (List Arrow)
  | [], m => (target, m)
  | p :: deeper, m =>
    let (next, m) := finish target deeper m
    m.state (p.closed next)

/-- Puts a sequence of ranges of bytes behind those before, with which it
shares what it can. -/
def addSequence (target : Nat) :
    List (Nat × Nat) → List Pending → Sharing (List Arrow) → List Pending × Sharing (List Arrow)
  | [], path, m => (path, m)
  | r :: rs, [], m => (⟨[], some r⟩ :: rs.map (⟨[], some ·⟩), m)
  | r :: rs, p :: deeper, m =>
    if p.range = some r then
      let (deeper, m) := addSequence target rs deeper m
      (p :: deeper, m)
    else
      let (next, m) := finish target deeper m
      (⟨p.closed next, some r⟩ :: rs.map (⟨[], some ·⟩), m)

/-- The sequences of ranges of bytes of a set. -/
def sequences (s : CodeSet) : List (List (Nat × Nat)) :=
  s.ranges.flatMap fun r => Utf8.sequences r.1 r.2

/-- States that read a character of a set, first byte first. -/
def addSetForward (d : Draft) (s : CodeSet) : Draft :=
  let target := d.states
  let start : List Pending × Sharing (List Arrow) := ([⟨[], none⟩], ⟨d.addState 0, ∅⟩)
  let (path, m) := (sequences s).foldl (fun x rs => addSequence target rs x.1 x.2) start
  (finish target path m).2.draft

/-- The state that reads the bytes of a sequence, last byte first, and then
goes on to the given state. -/
def readBackward (next : Nat) :
    List (Nat × Nat) → Sharing (Nat × Nat × Nat) → Sharing (Nat × Nat × Nat)
  | [], m => m
  | r :: rs, m =>
    let s := slot 1000 (mixHash (mixHash (mixHash noHash next) r.1) r.2)
    let new (_ : Unit) := readBackward m.draft.states rs
      ⟨m.draft.addState 0, m.known.insert s ((next, r.1, r.2), m.draft.states)⟩
    match m.known[s]? with
    | some (key, id) => if key = (next, r.1, r.2) then readBackward id rs m else new ()
    | none => new ()

/-- States that read a character of a set, last byte first. -/
def addSetBackward (d : Draft) (s : CodeSet) : Draft :=
  let d := d.addState 0
  let last := d.states
  let start : Sharing (Nat × Nat × Nat) := ⟨d.addState 0, ∅⟩
  let m := (sequences s).foldl (fun m rs =>
    let m := readBackward last rs m
    { m with draft := m.draft.addBranch }) start
  m.draft

/-- States that read a character of a set. -/
def addSet (d : Draft) (backward : Bool) (s : CodeSet) : Draft :=
  if s.isAscii then (d.addState 0).addChoice s.ranges.length
  else if backward then d.addSetBackward s
  else d.addSetForward s

/-! ## Choices between texts -/

/-- Texts in order, parted where one of them ends: a text that ends counts
unless it is the second one that ends before any other goes on. -/
def partAtEnds (texts : List (List Nat)) : List (List (List Nat)) :=
  let add (parts : List (List (List Nat)) × List (List Nat)) (text : List Nat) :=
    let (done, current) := parts
    if !text.isEmpty then (done, current ++ [text])
    else if current.isEmpty && !done.isEmpty && done.all List.isEmpty then parts
    else (done ++ [current], [])
  let (done, current) := texts.foldl add ([], [])
  done ++ [current]

/-- The texts by their first bytes: what stands behind each first byte. -/
def byFirstByte (texts : List (List Nat)) : List (Nat × List (List Nat)) :=
  let add (groups : List (Nat × List (List Nat))) (text : List Nat) :=
    match text with
    | [] => groups
    | b :: rest =>
      if groups.any (·.1 == b) then
        groups.map fun g => if g.1 == b then (b, g.2 ++ [rest]) else g
      else groups ++ [(b, [rest])]
  texts.foldl add []

/-- States that read one of some texts, which are no longer than the given
number. What texts begin with is read once. -/
def addTexts : Nat → List (List Nat) → Draft → Draft
  | 0, _, d => d
  | fuel + 1, texts, d =>
    let parts := partAtEnds texts
    let addGroup (d : Draft) (rests : List (List Nat)) : Draft :=
      if rests.all List.isEmpty then d else addTexts fuel rests d
    let addPart (x : Draft × Nat) (part : List (List Nat)) : Draft × Nat :=
      match (byFirstByte part).map (·.2) with
      | [] => x
      | [rests] => ((addGroup x.1 rests).addState 0, x.2 + 1)
      | groups => ((groups.foldl addGroup x.1).addChoice groups.length, x.2 + 1)
    let (d, count) := parts.foldl addPart (d, 0)
    let branches := count + (parts.length - 1)
    if branches = 1 then d else d.addState (4 * branches)

/-! ## Parts -/

/-- A draft, and whether it ends with a fork that can still lead on. -/
structure Open where
  draft : Draft
  isFork : Bool

/-- A part of an automaton, as what it adds to a draft. -/
abbrev Fragment := Draft → Open

namespace Fragment

/-- A part once more and again, linked with what is before. A draft that is
full stays as it is. -/
def again (part : Fragment) : Nat → Open → Open
  | 0, x => x
  | n + 1, x =>
    if x.draft.isFull then x
    else
      let y := part x.draft
      again part n ⟨y.draft.link x.isFork, y.isFork⟩

/-- A part a given number of times. -/
def exactly (part : Fragment) : Nat → Fragment
  | 0 => fun d => ⟨d.addState 0, false⟩
  | n + 1 => fun d => again part n (part d)

/-- A part that may be left out. -/
def optional (part : Fragment) : Fragment := fun d =>
  let x := part (d.addState 0)
  ⟨(x.draft.addBranch.addBranch.addState 0).link x.isFork, false⟩

/-- A part any number of times, which is never empty. -/
def star (part : Fragment) : Fragment := fun d =>
  let x := part (d.addState 0)
  ⟨x.draft.addBranch.link x.isFork, true⟩

/-- A part any number of times, which may be empty. -/
def starOfEmpty (part : Fragment) : Fragment := fun d =>
  let x := part d
  let d := ((x.draft.addState 8).addState 8).addState 0
  ⟨d.link x.isFork, false⟩

/-- A part at least a given number of times, which is not zero. -/
def atLeast (part : Fragment) (least : Nat) : Fragment := fun d =>
  let x := exactly part least d
  ⟨((x.draft.addState 0).link x.isFork).addBranch, true⟩

/-- Optional parts one behind the other. Each can be reached only through
the one before. -/
def optionals (part : Fragment) : Nat → Open → Open
  | 0, x => x
  | n + 1, x =>
    if x.draft.isFull then x
    else
      let y := part (x.draft.addState 8)
      optionals part n ⟨y.draft.link x.isFork, y.isFork⟩

/-- A part at least and at most a given number of times. -/
def between (part : Fragment) (least most : Nat) : Fragment := fun d =>
  let x := exactly part least d
  if least = most then x
  else
    let y := optionals part (most - least) ⟨x.draft.addState 0, x.isFork⟩
    ⟨y.draft.link y.isFork, false⟩

end Fragment

/-! ## Expressions -/

/-- The texts of a choice between nothing but texts. -/
def texts? (backward : Bool) (ns : List Normal) : Option (List (List Nat)) :=
  ns.mapM fun n =>
    match n with
    | .text codes =>
      let bytes := codes.flatMap Utf8.bytes
      some (if backward then bytes.reverse else bytes)
    | _ => none

mutual

/-- The part of an automaton that an expression compiles to. -/
def compile (backward : Bool) : Normal → Fragment
  | .empty => fun d => ⟨d.addState 0, false⟩
  | .text codes => fun d => ⟨d.addText (codes.flatMap Utf8.bytes).length, false⟩
  | .set s => fun d => ⟨d.addSet backward s, false⟩
  | .assert _ => fun d => ⟨d.addState 0, false⟩
  | .times n least most =>
    let part := compile backward n
    match least, most with
    | 0, some 1 => part.optional
    | 0, none => if n.isNeverEmpty then part.star else part.starOfEmpty
    | least, none => part.atLeast least
    | least, some most => part.between least most
  | .group n => fun d =>
    if backward then compile backward n d
    else
      let x := compile backward n (d.addState 0)
      ⟨(x.draft.addState 0).link x.isFork, false⟩
  | .seq ns => fun d =>
    if backward then compileBackward ns d else compileForward ns ⟨d, false⟩
  | .choice ns => fun d =>
    match texts? backward ns with
    | some texts =>
      ⟨addTexts ((texts.map List.length).foldl max 0 + 1) texts (d.addState 0), false⟩
    | none => ⟨compileBranches backward 1 ns d, false⟩

/-- The rest of a sequence, first part first. -/
def compileForward : List Normal → Open → Open
  | [], x => x
  | n :: ns, x =>
    let y := compile false n x.draft
    compileForward ns ⟨y.draft.link x.isFork, y.isFork⟩

/-- A sequence, last part first. -/
def compileBackward : List Normal → Fragment
  | [] => fun d => ⟨d, false⟩
  | n :: ns => fun d =>
    let x := compileBackward ns d
    let y := compile true n x.draft
    ⟨y.draft.link x.isFork, y.isFork⟩

/-- The branches of a choice from the given one on. Behind the second one
come the fork in front of all and the state behind all. -/
def compileBranches (backward : Bool) (number : Nat) : List Normal → Draft → Draft
  | [], d => d
  | n :: ns, d =>
    if d.isFull then d
    else
      let x := compile backward n d
      let d := if number = 2 then (x.draft.addState 0).addState 0 else x.draft
      compileBranches backward (number + 1) ns (d.addBranch.link x.isFork)

end

/-- The automaton of an expression. Unless all matches are at one end of the
text, it starts with a part that skips any bytes. -/
def ofNormal (backward : Bool) (n : Normal) : Draft :=
  let anchored := if backward then n.endsAt .textEnd else n.startsAt .textStart
  let d := if anchored then empty.addState 0 else ((empty.addState 4).addState 0).addChoice 1
  let x := compile backward (if backward then n else .group n) d
  ((x.draft.addState 0).link x.isFork).link !anchored

end Draft

/-- Neither automaton of the expression takes more memory than it may. -/
def fits (r : Regex) : Bool :=
  let n := Normal.ofRegex r
  !(Draft.ofNormal false n).isFull && !(Draft.ofNormal true n).isFull

end EntityStore.Regex
