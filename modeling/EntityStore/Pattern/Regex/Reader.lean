-- Reading regular expressions. Letter case does not matter unless a flag in
-- the pattern says otherwise. Look-around and references back to a group
-- are no part of the dialect, and a pattern that uses them is refused.
import EntityStore.Pattern.Regex.Automaton
import EntityStore.Pattern.Regex.Bracket
import EntityStore.Pattern.Regex.Matching
import EntityStore.Text.Letters

namespace EntityStore.Regex

/-! ## Parts of a pattern -/

/-- An expression, and how deep its parts nest in the pattern. -/
structure Nested where
  regex : Regex
  depth : Nat

/-- A part of a sequence, and whether a repetition may follow it. -/
structure Part where
  regex : Regex
  depth : Nat
  repeats : Bool

/-- A sequence from its parts, the last one first. Several parts count as a
level. -/
def ofParts (parts : List Part) : Nested :=
  let deepest := (parts.map (·.depth)).foldl max 0
  ⟨parts.foldl (fun r p => .cat p.regex r) .empty,
    if parts.length ≤ 1 then deepest else deepest + 1⟩

/-- A choice from its branches, the last one first. -/
def ofBranches (last : Nested) (before : List Nested) : Nested :=
  if before.isEmpty then last
  else
    ⟨before.foldl (fun r b => .alt b.regex r) last.regex,
      (before.map (·.depth)).foldl max last.depth + 1⟩

/-- A group that is open, or the whole pattern: the flags that count behind
it, whether what it matches is remembered, its branches before the current
one, and the parts of that one, the last one first. -/
structure Level where
  flagsBehind : Flags
  remembered : Bool
  branches : List Nested
  parts : List Part

namespace Level

def start (flagsBehind : Flags) (remembered : Bool) : Level := ⟨flagsBehind, remembered, [], []⟩

def add (l : Level) (p : Part) : Level := { l with parts := p :: l.parts }

/-- The level behind a sign that starts a new branch. -/
def branch (l : Level) : Level :=
  { l with branches := ofParts l.parts :: l.branches, parts := [] }

/-- The expression of the level. -/
def close (l : Level) : Nested := ofBranches (ofParts l.parts) l.branches

/-- The level with its last part repeated, if it can be. -/
def repeatLast? (l : Level) (least : Nat) (most : Option Nat) : Option Level :=
  match l.parts with
  | ⟨r, depth, true⟩ :: before =>
    some { l with parts := ⟨.times r least most, depth + 1, true⟩ :: before }
  | _ => none

end Level

/-- What has been read of a pattern: the flags that count now, the names of
groups, the innermost open level, and the levels around it. -/
structure Progress where
  flags : Flags
  names : List String
  level : Level
  outer : List Level

namespace Progress

def start : Progress := ⟨.initial, [], .start .initial false, []⟩

def add (p : Progress) (r : Regex) (depth : Nat) : Progress :=
  { p with level := p.level.add ⟨r, depth, true⟩ }

/-- Opens a group. -/
def openGroup (p : Progress) (flags : Flags) (remembered : Bool) : Progress :=
  { p with flags := flags, level := .start p.flags remembered, outer := p.level :: p.outer }

/-- Changes the flags from here on. Nothing can repeat the change. -/
def changeFlags (p : Progress) (flags : Flags) : Progress :=
  { p with flags := flags, level := p.level.add ⟨.empty, 0, false⟩ }

/-- Closes the innermost group, if one is open. -/
def closeGroup? (p : Progress) : Option Progress :=
  match p.outer with
  | [] => none
  | parent :: outer =>
    let inside := p.level.close
    let group : Part := ⟨.group p.level.remembered inside.regex, inside.depth + 1, true⟩
    some ⟨p.level.flagsBehind, p.names, parent.add group, outer⟩

/-- Repeats the last part. A question mark behind the repetition asks for few
turns, which is the same when all that counts is whether the text matches. -/
def repeatLast? (p : Progress) (least : Nat) (most : Option Nat) (rest : List Char) :
    Option (Progress × List Char) :=
  (p.level.repeatLast? least most).map fun level =>
    ({ p with level := level }, match rest with
      | '?' :: rest => rest
      | rest => rest)

end Progress

/-! ## Groups -/

def isNameStart (c : Char) : Bool := c == '_' || Text.isAlphabetic c

def isNameChar (c : Char) : Bool :=
  c == '_' || c == '.' || c == '[' || c == ']' || Text.isLetterOrDigit c

/-- The name of a group up to its closing angle bracket, and the rest. -/
def readName? (cs : List Char) : Option (String × List Char) :=
  match cs.takeWhile (· != '>'), cs.dropWhile (· != '>') with
  | c :: name, _ :: rest =>
    if isNameStart c && name.all isNameChar then some (String.ofList (c :: name), rest) else none
  | _, _ => none

/-- Opens a group with a name, which no other group has. -/
def openNamed? (p : Progress) (cs : List Char) : Option (Progress × List Char) :=
  match readName? cs with
  | none => none
  | some (name, rest) =>
    if p.names.contains name then none
    else some ({ p.openGroup p.flags true with names := name :: p.names }, rest)

/-- What an opening bracket starts: a group, or a change of flags. -/
def readOpening? (p : Progress) (cs : List Char) : Option (Progress × List Char) :=
  match p.flags.skip cs with
  | '?' :: 'P' :: '<' :: rest => openNamed? p rest
  | '?' :: '<' :: '=' :: _ => none
  | '?' :: '<' :: '!' :: _ => none
  | '?' :: '<' :: rest => openNamed? p rest
  | '?' :: rest =>
    match readFlags ⟨p.flags, []⟩ rest with
    | some (g, ':' :: rest) => some (p.openGroup g.flags false, rest)
    | some (g, ')' :: rest) => if g.seen.isEmpty then none else some (p.changeFlags g.flags, rest)
    | _ => none
  | rest => some (p.openGroup p.flags true, rest)

/-! ## Patterns -/

/-- Reads what a character of the pattern starts. -/
def step? (p : Progress) (c : Char) (rest : List Char) : Option (Progress × List Char) :=
  let f := p.flags
  match c with
  | '(' => readOpening? p rest
  | ')' => p.closeGroup?.map (·, rest)
  | '|' => some ({ p with level := p.level.branch }, rest)
  | '*' => p.repeatLast? 0 none rest
  | '+' => p.repeatLast? 1 none rest
  | '?' => p.repeatLast? 0 (some 1) rest
  | '\x7b' => do
    let (least, most, rest) ← readBounds? f rest
    p.repeatLast? least most (f.skip rest)
  | '.' => do return (p.add (.set (← f.point?)) 0, rest)
  | '^' => some (p.add (.assert f.startAssertion) 0, rest)
  | '$' => some (p.add (.assert f.endAssertion) 0, rest)
  | '\\' => do
    let (e, rest) ← readEscape? f rest
    let r := match e with
      | .char c => .set (f.charSet c)
      | .set s => .set s
      | .assert a => .assert a
    return (p.add r 0, rest)
  | '[' => do
    let (b, inside) := openBracket f rest
    let (o, rest) ← readBracket? f b [] inside inside.length
    return (p.add (.set o.set) o.depth, rest)
  | c => some (p.add (.set (f.charSet c)) 0, rest)

/-- Reads a pattern to its end. Each step takes at least one character. -/
def readFrom? (p : Progress) (cs : List Char) : Nat → Option Nested
  | 0 => none
  | fuel + 1 =>
    match p.flags.skip cs with
    | [] => if p.outer.isEmpty then some p.level.close else none
    | c :: rest =>
      match step? p c rest with
      | none => none
      | some (p, rest) => readFrom? p rest fuel

/-- The expression that a pattern writes, if the whole pattern writes one. A
pattern that nests too deep is refused, and one whose automaton would grow
too large. -/
def read? (pattern : List Char) : Option Regex :=
  match readFrom? .start pattern (pattern.length + 1) with
  | none => none
  | some n => if n.depth ≤ maxDepth && n.regex.fits then some n.regex else none

/-- The pattern matches somewhere in the text. A pattern that is no regular
expression has no answer. -/
def test? (text pattern : String) : Option Bool :=
  (read? pattern.toList).map fun r => r.found text

/-! ## Patterns of filters -/

/-- A filter's pattern must match the whole text. -/
def whole (raw : String) : String := "^(" ++ raw ++ ")$"

end EntityStore.Regex
