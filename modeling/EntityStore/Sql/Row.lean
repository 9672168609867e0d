-- Rows, and what a column of a statement finds in one.
import EntityStore.Json.Members
import EntityStore.Json.Reader
import EntityStore.Sql.Statement

namespace EntityStore

/-- The document that a value is or writes. Null is none. -/
def Value.document? : Value → Option Json
  | .json doc => some doc
  | .text s => Json.parse? s
  | .null => none
  | v => some v.toJson

/-- The values of a row by the names of their columns. -/
abbrev Row := Fields Value

/-- The row as the members of an object. -/
def Row.toJson (row : Row) : Fields Json := row.mapValues Value.toJson

namespace Sql.Column

/-- The value stored under the column. Where no column goes by its full
name, the one without the qualifier counts. -/
def stored? (c : Column) (row : Row) : Option Value :=
  match c.qualifier with
  | some q => (row.get? (q ++ "." ++ c.name)).or (row.get? c.name)
  | none => row.get? c.name

/-- The value of the column, which may lie inside a document. -/
def value? (c : Column) (row : Row) : Option Value :=
  match c.path with
  | none => c.stored? row
  | some path => do
    let doc ← (← c.stored? row).document?
    let found ← doc.follow? path
    return Value.ofJson found

/-- The value of the column, or null. -/
def valueOrNull (c : Column) (row : Row) : Value := (c.value? row).getD .null

/-- The document in the column. -/
def document? (c : Column) (row : Row) : Option Json := do
  let doc ← (← c.stored? row).document?
  match c.path with
  | some path => doc.follow? path
  | none => return doc

/-- The text of the column. Null has none. -/
def text? (c : Column) (row : Row) : Option String :=
  (c.value? row).bind fun v => if v.isNull then none else some v.key

/-- The values of the column in the rows that have one. -/
def present (c : Column) (rows : List Row) : List Value :=
  (rows.filterMap c.value?).filter fun v => !v.isNull

end Sql.Column

end EntityStore
