-- Entities: what is known of the records of one kind, whatever store holds
-- them.
import EntityStore.Fields
import EntityStore.Text.Splitting

namespace EntityStore

/-! ## Columns -/

inductive ColumnType where
  | text
  | integer
  | float
  | decimal
  | boolean
  | timestamp
  | json
  deriving DecidableEq, Repr

/-- The columns of a table with their types. -/
abbrev Columns := Fields ColumnType

/-- The column holds documents. -/
def Columns.isJson (columns : Columns) (column : String) : Bool :=
  Fields.get? columns column == some .json

/-! ## Entities -/

structure Entity where
  name : String
  /-- The table or index that holds the records. -/
  storage : String
  idField : String := "id"
  columns : Columns := []
  /-- The columns and paths of documents that filters may use. -/
  jsonFilters : List String := []
  /-- The fields whose values no two records share. -/
  uniqueFields : List String := []
  /-- The fields that are equal where a value counts as shared. -/
  uniqueScope : List String := []
  /-- The field that lists the locked fields of its record. -/
  lockedField : Option String := none
  requiredFields : List String := []
  /-- The paths whose objects are matched one by one. -/
  nestedPaths : List String := []
  /-- The nested paths whose matching objects come with a hit. -/
  innerHits : List String := []
  /-- Fields that show one facet together, by the name of the facet. -/
  facets : Fields (List String) := []

namespace Entity

/-- The path is a proper beginning of the field, up to a point. -/
def isUnder (path field : String) : Bool := (path ++ ".").toList.isPrefixOf field.toList

/-- The longer one of two paths; of equally long ones the second. -/
def longer (best : Option String) (path : String) : Option String :=
  match best with
  | none => some path
  | some p => if path.utf8ByteSize < p.utf8ByteSize then some p else some path

/-- The longest nested path that the field lies under. -/
def nestedPath? (e : Entity) (field : String) : Option String :=
  (e.nestedPaths.filter (isUnder · field)).foldl longer none

/-- The fields of all facets that the field belongs to, and the field. -/
def facetFields (e : Entity) (field : String) : List String :=
  Fields.names (field :: (e.facets.values.filter (·.contains field)).flatten)

/-- A filter may use the path in the column. -/
def allowsJsonFilter (e : Entity) (column path : String) : Bool :=
  e.jsonFilters.contains column || e.jsonFilters.contains path

end Entity

end EntityStore
