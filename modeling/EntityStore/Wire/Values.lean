-- Shapes of documents, read strictly, and documents that write values. Members that have no
-- meaning are skipped, and those that have one must have the right shape. A value that a
-- plain document cannot write goes by a sign: a scalar that is a document, and a double
-- that is not finite.
import EntityStore.Json.Basic
import EntityStore.Json.Members
import EntityStore.Sql.Row

namespace EntityStore.Wire

/-- A reader of documents of one shape. -/
abbrev Reader (α : Type) := Json → Option α

def text : Reader String := Json.text?

/-- A list whose items all have a shape. -/
def list {α : Type} (item : Reader α) : Reader (List α)
  | .arr items => items.mapM item
  | _ => none

/-- A document of a shape, or null. -/
def nullable {α : Type} (item : Reader α) : Reader (Option α)
  | .null => some none
  | j => (item j).map some

/-- The member of an object, which may be missing. -/
def member {α : Type} (members : Fields Json) (k : String) (item : Reader α) (missing : Option α) :
    Option α :=
  match members.get? k with
  | some j => item j
  | none => missing

/-- One of some names. A name may also be the only member of an object, with
null. -/
def name {α : Type} (ofName? : String → Option α) : Reader α
  | .str s => ofName? s
  | .obj [(s, .null)] => ofName? s
  | _ => none

/-- The members of an object. A list stands for the members in the given
order, and may stop early. -/
def record (names : List String) : Reader (Fields Json)
  | .obj members => some members
  | .arr items =>
    if items.length ≤ names.length then some (Fields.ofList (names.zip items)) else none
  | _ => none

/-- A whole number within bounds. -/
def whole (low high : Int) : Reader Int
  | .int n => if low ≤ n && n ≤ high then some n else none
  | _ => none

/-- An object whose members all have a shape. -/
def object {α : Type} (item : Reader α) : Reader (Fields α)
  | .obj members => members.mapM fun (k, j) => (item j).map (k, ·)
  | _ => none

end EntityStore.Wire

namespace EntityStore

namespace Value

/-! ## Values -/

/-- The sign of a document. -/
def documentSign : String := "$json"

/-- The sign of a double that is not finite. -/
def floatSign : String := "$float"

/-- The name of a double that is not finite. -/
def floatName (x : Float) : String := if x.isNaN then "NaN" else if x > 0.0 then "inf" else "-inf"

/-- The double of a name. -/
def namedFloat (name : String) : Float :=
  match name with
  | "NaN" => 0.0 / 0.0
  | "inf" => 1.0 / 0.0
  | _ => -1.0 / 0.0

/-- The value that a document writes. -/
def ofWire (j : Json) : Value :=
  match j with
  | .obj [(sign, body)] =>
    if sign = documentSign then .json body
    else if sign = floatSign then .float (namedFloat (body.text?.getD ""))
    else .ofJson j
  | j => .ofJson j

/-- The document that writes a value. -/
def toWire (v : Value) : Json :=
  match v with
  | .json doc => .obj [(documentSign, doc)]
  | .float x => if x.isFinite then .float x else .obj [(floatSign, .str (floatName x))]
  | v => v.toJson

end Value

/-! ## Parts of documents -/

/-- The value of a member. -/
def Json.valueAt (j : Json) (k : String) : Value := .ofWire (j.field k)

def Json.valuesAt (j : Json) (k : String) : List Value := (j.itemsAt k).map .ofWire

/-- The row whose values a document writes. -/
def Row.ofWire (j : Json) : Row := (j.members?.getD []).mapValues Value.ofWire

def Row.toWire (row : Row) : Json := .obj (row.mapValues Value.toWire)

/-! ## Lists and options -/

namespace Wire

/-- The documents of a list. -/
def listOf {α : Type} (write : α → Json) (xs : List α) : Json := .arr (xs.map write)

/-- The document of what is there, or null. -/
def optionOf {α : Type} (write : α → Json) (x : Option α) : Json := Json.ofOption (x.map write)

/-- The document of a double that is no value of its own. One that is not
finite is null there. -/
def float (x : Float) : Json := (Value.float x).toJson

end Wire

end EntityStore
