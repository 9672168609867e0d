-- Queries of a document store, and the documents that write them.
import EntityStore.Criteria.Basic
import EntityStore.Json.Basic

namespace EntityStore.Search

/-! ## Queries -/

/-- The bounds of a range. A bound that is not there does not bound. -/
structure Bounds where
  gt : Option Json := none
  ge : Option Json := none
  lt : Option Json := none
  le : Option Json := none

inductive Query where
  | matchAll
  /-- The field has the value. -/
  | term (field : String) (value : Json)
  /-- The field has one of the values. -/
  | terms (field : String) (values : List Json)
  | range (field : String) (bounds : Bounds)
  /-- The field has some value. -/
  | exists (field : String)
  | wildcard (field pattern : String) (anyCase : Bool)
  | regexp (field pattern : String) (anyCase : Bool)
  /-- The words of a text are in the fields. -/
  | multiMatch (text : String) (fields : List String) (matchType : MatchType)
      (parameters : Fields Json)
  /-- One of the objects under a path matches. Those that do may come with
  the hit. -/
  | nested (path : String) (query : Query) (innerHits : Option Json)
  /-- All of `must` and `filter` match, none of `mustNot`, and at least so
  many of `should`. -/
  | bool (must filter should mustNot : List Query) (least : Option Nat)
  deriving Inhabited

/-! ## Junctions -/

/-- The parts of a boolean query while it is put together. -/
structure Junction where
  must : List Query := []
  filter : List Query := []
  should : List Query := []
  mustNot : List Query := []
  least : Option Nat := none

namespace Junction

def isEmpty (j : Junction) : Bool :=
  j.must.isEmpty && j.filter.isEmpty && j.should.isEmpty && j.mustNot.isEmpty

/-- The junction as a query. Without parts all documents match, and a single
filter stands for itself. -/
def query (j : Junction) : Query :=
  if j.isEmpty then .matchAll
  else
    match j with
    | ⟨[], [q], [], [], _⟩ => q
    | j => .bool j.must j.filter j.should j.mustNot j.least

/-- One of the queries matches. -/
def anyOf (qs : List Query) : Query := .bool [] [] qs [] (some 1)

end Junction

/-- The query does not match. -/
def Query.negate (q : Query) : Query := .bool [] [] [] [q] none

/-! ## Documents of queries -/

/-- An object with one member. -/
def single (k : String) (v : Json) : Json := .obj [(k, v)]

/-- A member, where there is a value for it. -/
def optional (k : String) (v : Option Json) : List (String × Json) := (v.map fun j => (k, j)).toList

/-- A list of documents, where it is not empty. -/
def unlessEmpty (k : String) (docs : List Json) : List (String × Json) :=
  if docs.isEmpty then [] else [(k, .arr docs)]

def Bounds.toJson (b : Bounds) : Json :=
  Json.object (optional "gt" b.gt ++ optional "gte" b.ge ++ optional "lt" b.lt ++
    optional "lte" b.le)

/-- The document of a pattern query. -/
def patternJson (kind field pattern : String) (anyCase : Bool) : Json :=
  single kind (single field
    (Json.object [("value", .str pattern), ("case_insensitive", .bool anyCase)]))

namespace Query

mutual

/-- The document that writes a query. -/
def toJson : Query → Json
  | .matchAll => single "match_all" (.obj [])
  | .term f v => single "term" (single f (single "value" v))
  | .terms f vs => single "terms" (single f (.arr vs))
  | .range f bounds => single "range" (single f bounds.toJson)
  | .exists f => single "exists" (single "field" (.str f))
  | .wildcard f pattern anyCase => patternJson "wildcard" f pattern anyCase
  | .regexp f pattern anyCase => patternJson "regexp" f pattern anyCase
  | .multiMatch text fields matchType parameters =>
    single "multi_match" (.obj (Fields.extend parameters [("query", .str text),
      ("fields", Json.texts fields), ("type", .str matchType.name)]))
  | .nested path q innerHits =>
    single "nested" (Json.object ([("path", .str path), ("query", q.toJson)] ++
      optional "inner_hits" innerHits))
  | .bool must filter should mustNot least =>
    single "bool" (Json.object (unlessEmpty "must" (toJsons must) ++
      unlessEmpty "filter" (toJsons filter) ++ unlessEmpty "should" (toJsons should) ++
      unlessEmpty "must_not" (toJsons mustNot) ++
      optional "minimum_should_match" (least.map Json.ofNat)))

/-- The documents that write queries. -/
def toJsons : List Query → List Json
  | [] => []
  | q :: qs => q.toJson :: toJsons qs

end

end Query

end EntityStore.Search
