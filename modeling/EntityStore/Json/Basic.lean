-- Documents: null, booleans, whole numbers, doubles, texts, lists and objects. Whole numbers
-- and doubles are apart: 1 and 1.0 are different documents. The members of an object come in
-- the order of their names. The compact text of a document has no blanks, and only quotes,
-- backslashes and control characters are escaped.
import EntityStore.Decimal
import EntityStore.Fields

namespace EntityStore

inductive Json where
  | null
  | bool (b : Bool)
  | int (n : Int)
  | float (x : Float)
  | str (s : String)
  | arr (items : List Json)
  | obj (members : List (String × Json))
  deriving Inhabited

namespace Json

/-! ## Equality -/

mutual

/-- Two documents are the same: of one kind, with the same parts. Doubles
are compared as numbers. -/
def same : Json → Json → Bool
  | .null, .null => true
  | .bool a, .bool b => a == b
  | .int a, .int b => a == b
  | .float a, .float b => a == b
  | .str a, .str b => a == b
  | .arr as, .arr bs => sameItems as bs
  | .obj as, .obj bs => sameMembers as bs
  | _, _ => false

def sameItems : List Json → List Json → Bool
  | [], [] => true
  | a :: as, b :: bs => same a b && sameItems as bs
  | _, _ => false

def sameMembers : List (String × Json) → List (String × Json) → Bool
  | [], [] => true
  | (k, a) :: as, (l, b) :: bs => k == l && same a b && sameMembers as bs
  | _, _ => false

end

instance : BEq Json := ⟨same⟩

/-! ## Making documents -/

/-- An object from named members in any order. -/
def object (members : List (String × Json)) : Json := .obj (Fields.ofList members)

def ofNat (n : Nat) : Json := .int n

/-- A list of texts. -/
def texts (ss : List String) : Json := .arr (ss.map .str)

/-- A document, or null for nothing. -/
def ofOption : Option Json → Json
  | some j => j
  | none => .null

/-! ## Looking into documents -/

def isNull : Json → Bool
  | .null => true
  | _ => false

def isObject : Json → Bool
  | .obj _ => true
  | _ => false

/-- Neither a list nor an object. -/
def isScalar : Json → Bool
  | .arr _ => false
  | .obj _ => false
  | _ => true

def text? : Json → Option String
  | .str s => some s
  | _ => none

def bool? : Json → Option Bool
  | .bool b => some b
  | _ => none

def items? : Json → Option (List Json)
  | .arr items => some items
  | _ => none

def members? : Json → Option (Fields Json)
  | .obj members => some members
  | _ => none

/-- A whole number that is not negative. -/
def nat? : Json → Option Nat
  | .int (.ofNat n) => some n
  | _ => none

/-- A number as a double. -/
def number? : Json → Option Float
  | .int n => some (Float.ofInt n)
  | .float x => some x
  | _ => none

/-- The member of an object under a name. -/
def get? (j : Json) (k : String) : Option Json :=
  j.members?.bind fun members => members.get? k

/-- The document that a path of names leads to. -/
def at? (j : Json) : List String → Option Json
  | [] => some j
  | k :: path => (j.get? k).bind fun child => child.at? path

/-- A member that is there and not null. -/
def present? (members : Fields Json) (k : String) : Option Json :=
  (members.get? k).filter fun v => !v.isNull

/-! ## Texts -/

/-- A hexadecimal digit in lower case. -/
def hexDigit (n : Nat) : Char := Nat.digitChar (n % 16)

/-- A character inside quotes. -/
def escapeChar (c : Char) : List Char :=
  if c = '"' then ['\\', '"']
  else if c = '\\' then ['\\', '\\']
  else if c = '\n' then ['\\', 'n']
  else if c = '\r' then ['\\', 'r']
  else if c = '\t' then ['\\', 't']
  else if c = '\x08' then ['\\', 'b']
  else if c = '\x0c' then ['\\', 'f']
  else if c.val < 32 then ['\\', 'u', '0', '0', hexDigit (c.toNat / 16), hexDigit c.toNat]
  else [c]

/-- A text in quotes. -/
def quote (s : String) : String :=
  String.ofList ('"' :: s.toList.flatMap escapeChar ++ ['"'])

/-! ## Documents -/

/-- A double. Those that are not finite have no text of their own. -/
def writeFloat (x : Float) : String :=
  if x.isFinite then Decimal.Layout.document.write x else "null"

mutual

def compact : Json → String
  | .null => "null"
  | .bool b => if b then "true" else "false"
  | .int n => toString n
  | .float x => writeFloat x
  | .str s => quote s
  | .arr items => "[" ++ ",".intercalate (compactItems items) ++ "]"
  | .obj members => "\x7b" ++ ",".intercalate (compactMembers members) ++ "\x7d"

def compactItems : List Json → List String
  | [] => []
  | j :: rest => compact j :: compactItems rest

def compactMembers : List (String × Json) → List String
  | [] => []
  | (k, j) :: rest => (quote k ++ ":" ++ compact j) :: compactMembers rest

end

end Json

end EntityStore
