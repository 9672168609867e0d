-- Values: what a column of a row or an operand of a filter holds. A value
-- is null, a boolean, a whole number, a double, a text, or a document.
-- Diagnostics show values and documents with the names of their kinds.
import EntityStore.Json.Basic
import EntityStore.Text.Quoted

namespace EntityStore

inductive Value where
  | null
  | bool (b : Bool)
  | int (n : Int)
  | float (x : Float)
  | text (s : String)
  | json (doc : Json)
  deriving Inhabited

namespace Value

/-! ## Questions -/

def isNull : Value → Bool
  | .null => true
  | _ => false

def text? : Value → Option String
  | .text s => some s
  | _ => none

/-- A number as a double. -/
def number? : Value → Option Float
  | .int n => some (Float.ofInt n)
  | .float x => some x
  | _ => none

/-- The name of the kind of a value. -/
def kindName : Value → String
  | .null => "null"
  | .bool _ => "boolean"
  | .int _ => "integer"
  | .float _ => "float"
  | .text _ => "text"
  | .json _ => "json"

/-! ## Values and documents -/

/-- Whole numbers reach up to here; larger ones become doubles. -/
def maxInt : Int := 0x7fffffffffffffff

/-- The value of a document: scalars become values of their kind, and lists
and objects stay documents. -/
def ofJson : Json → Value
  | .null => .null
  | .bool b => .bool b
  | .int n => if n ≤ maxInt then .int n else .float (Float.ofInt n)
  | .float x => .float x
  | .str s => .text s
  | doc => .json doc

/-- The document of a value. A double that is not finite has none, and
becomes null. -/
def toJson : Value → Json
  | .null => .null
  | .bool b => .bool b
  | .int n => .int n
  | .float x => if x.isFinite then .float x else .null
  | .text s => .str s
  | .json doc => doc

/-- The text of a value as a key. The key of null is empty. -/
def key : Value → String
  | .null => ""
  | .bool b => if b then "true" else "false"
  | .int n => toString n
  | .float x => Decimal.Layout.plain.write x
  | .text s => s
  | .json doc => doc.compact

/-- The text of a value as a pattern: a text itself, any other value by its
key. -/
def patternText (v : Value) : String := v.text?.getD v.key

end Value

/-! ## Diagnostics -/

/-- Shown parts between brackets. -/
def bracketed (parts : List String) : String := "[" ++ ", ".intercalate parts ++ "]"

/-- Shown parts between braces. -/
def braced (parts : List String) : String := "\x7b" ++ ", ".intercalate parts ++ "\x7d"

namespace Json

mutual

/-- A document as diagnostics show it. -/
def shown : Json → String
  | .null => "Null"
  | .bool b => if b then "Bool(true)" else "Bool(false)"
  | .int n => "Number(" ++ toString n ++ ")"
  | .float x => "Number(" ++ writeFloat x ++ ")"
  | .str s => "String(" ++ Text.quoted s ++ ")"
  | .arr items => "Array " ++ bracketed (shownItems items)
  | .obj members => "Object " ++ braced (shownMembers members)

def shownItems : List Json → List String
  | [] => []
  | j :: rest => shown j :: shownItems rest

def shownMembers : List (String × Json) → List String
  | [] => []
  | (k, j) :: rest => (Text.quoted k ++ ": " ++ shown j) :: shownMembers rest

end

end Json

/-- A value as diagnostics show it. -/
def Value.shown : Value → String
  | .null => "Null"
  | .bool b => if b then "Boolean(true)" else "Boolean(false)"
  | .int n => "Integer(" ++ toString n ++ ")"
  | .float x => "Float(" ++ Decimal.Layout.diagnostic.write x ++ ")"
  | .text s => "Text(" ++ Text.quoted s ++ ")"
  | .json doc => "Json(" ++ doc.shown ++ ")"

end EntityStore
