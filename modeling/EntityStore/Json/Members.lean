-- Members of documents, with what counts where they are missing or of
-- another kind. Dotted paths lead to members further in: a part of a path names
-- a member of an object or counts an item of a list. A document contains another
-- one by the members and items that it has.
import EntityStore.Json.Basic
import EntityStore.Text.Splitting

namespace EntityStore.Json

variable (j : Json) (k : String)

/-- A member, or null. -/
def field : Json := (j.get? k).getD .null

def has : Bool := (j.get? k).isSome

/-- A member that is not null. -/
def given? : Option Json := (j.get? k).filter fun v => !v.isNull

def textAt? : Option String := (j.get? k).bind text?

def textOr (missing : String) : String := (j.textAt? k).getD missing

def textAt : String := j.textOr k ""

def itemsAt : List Json := ((j.get? k).bind items?).getD []

/-- The texts of a list, without anything else. -/
def textsAt : List String := (j.itemsAt k).filterMap text?

def membersAt : Fields Json := ((j.get? k).bind members?).getD []

def flagOr (missing : Bool) : Bool := ((j.get? k).bind bool?).getD missing

def flagAt : Bool := j.flagOr k false

def natAt? : Option Nat := (j.get? k).bind nat?

def natOr (missing : Nat) : Nat := (j.natAt? k).getD missing

def intAt (missing : Int) : Int :=
  match j.get? k with
  | some (.int n) => n
  | _ => missing

end EntityStore.Json

namespace EntityStore.Json

/-- The position that a text writes: decimal digits below 2⁶⁴, with or
without a plus sign. -/
def position? (s : String) : Option Nat :=
  let digits := match s.toList with
    | '+' :: rest => rest
    | cs => cs
  if digits.isEmpty || !digits.all Char.isDigit then none
  else
    let n := digits.foldl (fun n c => 10 * n + (c.toNat - '0'.toNat)) 0
    if n < 0x10000000000000000 then some n else none

/-- The document under one part of a path. -/
def child? (j : Json) (part : String) : Option Json :=
  match j with
  | .obj members => Fields.get? members part
  | .arr items => (position? part).bind fun i => items[i]?
  | _ => none

/-- The document that a dotted path leads to. -/
def follow? (j : Json) (path : String) : Option Json :=
  (Text.split '.' path).foldlM child? j

end EntityStore.Json

namespace EntityStore.Json

mutual

/-- The first document contains the second one. Numbers are compared as
numbers, and all other scalars must be the same. -/
def covers : Json → Json → Bool
  | .arr items, .arr wanted => wanted.all fun w => someCovers items w
  | .arr items, w => someCovers items w
  | .obj members, .obj wanted => wanted.all fun w => memberCovers members w.1 w.2
  | .int a, .float y => Float.ofInt a == y
  | .float x, .int b => x == Float.ofInt b
  | .int a, .int b => Float.ofInt a == Float.ofInt b
  | j, w => j == w

/-- Some item contains the document. -/
def someCovers : List Json → Json → Bool
  | [], _ => false
  | j :: rest, w => covers j w || someCovers rest w

/-- The member under the name contains the document. -/
def memberCovers : List (String × Json) → String → Json → Bool
  | [], _, _ => false
  | (l, j) :: rest, k, w => if k = l then covers j w else memberCovers rest k w

end

end EntityStore.Json
