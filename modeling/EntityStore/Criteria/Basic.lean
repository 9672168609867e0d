-- Criteria: all that a search asks for, whatever store answers it.
import EntityStore.Criteria.Aggregation
import EntityStore.Sql.Statement

namespace EntityStore

/-! ## Sorting -/

/-- Which of several values of a field a record is sorted by. -/
inductive SortMode where
  | min
  | max
  | avg
  | sum
  | median
  deriving DecidableEq, Repr

namespace SortMode

def name : SortMode → String
  | .min => "min"
  | .max => "max"
  | .avg => "avg"
  | .sum => "sum"
  | .median => "median"

/-- All modes. -/
def all : List SortMode := [.min, .max, .avg, .sum, .median]

def ofName? (s : String) : Option SortMode := all.find? fun m => m.name == s

end SortMode

def Sql.Direction.name : Sql.Direction → String
  | .asc => "asc"
  | .desc => "desc"

structure SortBy where
  field : String
  direction : Sql.Direction := .asc
  mode : Option SortMode := none

/-! ## Pages -/

/-- A page of a result. Without a limit the page is the whole result. -/
structure Page where
  number : Nat := 1
  limit : Option Nat := none

namespace Page

/-- The greatest row that a page may end at. -/
def lastRow : Nat := 0x7fffffffffffffff

/-- The limit that stands for no limit. -/
def unboundedLimit : Int := -1

/-- A page by its number and limit. Pages count from one, a limit is
positive or the one that stands for none, and the page ends at a row that
has a number. -/
def make (number : Nat) (limit : Int) : Except AccessError Page :=
  if number < 1 then .error (.invalidFilter "page must be at least 1")
  else if limit = unboundedLimit then .ok ⟨number, none⟩
  else if limit < 1 then
    .error (.invalidFilter s!"limit must be positive or -1 for unbounded, got {limit}")
  else
    let n := limit.toNat
    if (number - 1) * n + n > lastRow then
      .error (.invalidFilter s!"page {number} of {n} items is past the last addressable row")
    else .ok ⟨number, some n⟩

/-- How many rows come before the page. -/
def offset (p : Page) : Nat :=
  match p.limit with
  | some n => (p.number - 1) * n
  | none => 0

end Page

/-! ## Full text -/

/-- How the words of a text search meet those of a field. -/
inductive MatchType where
  | bestFields
  | mostFields
  | crossFields
  | phrase
  | phrasePrefix
  | boolPrefix
  deriving DecidableEq, Repr

namespace MatchType

def name : MatchType → String
  | .bestFields => "best_fields"
  | .mostFields => "most_fields"
  | .crossFields => "cross_fields"
  | .phrase => "phrase"
  | .phrasePrefix => "phrase_prefix"
  | .boolPrefix => "bool_prefix"

/-- All match types. -/
def all : List MatchType :=
  [.bestFields, .mostFields, .crossFields, .phrase, .phrasePrefix, .boolPrefix]

def ofName? (s : String) : Option MatchType := all.find? fun m => m.name == s

end MatchType

structure FullText where
  fields : List String
  text : String
  matchType : MatchType := .bestFields
  parameters : Fields Json := []

/-! ## Collapsing -/

/-- One record stands for all that share the value of a field. -/
structure Collapse where
  field : String
  /-- The field whose different values are counted. -/
  countField : String
  /-- The name under which the other records come with the one. -/
  innerHits : Option String := none

/-! ## Criteria -/

structure Criteria where
  filters : List Filter.Group := []
  /-- Filters that facets of their own fields do not see. -/
  postFilters : List Filter.Group := []
  sorts : List SortBy := []
  page : Page := {}
  aggregations : List Aggregation := []
  fullText : List FullText := []
  included : List String := []
  excluded : List String := []
  /-- The identity after which the records go on, in the order of
  identities. -/
  scrollAfter : Option Value := none
  collapse : Option Collapse := none
  joins : List Sql.Join := []
  rawItems : List String := []
  distinct : Bool := false
  groupBy : List String := []

namespace Criteria

def hasFilters (c : Criteria) : Bool := c.filters.any fun g => !g.isEmpty

/-- All records that pass one group. -/
def ofGroup (g : Filter.Group) : Criteria := { filters := [g] }

end Criteria

end EntityStore
