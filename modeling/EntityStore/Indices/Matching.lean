-- Which documents a query finds.
import EntityStore.Indices.Cells
import EntityStore.Pattern.Regex.Reader
import EntityStore.Pattern.Wildcard
import EntityStore.Search.Query
import EntityStore.Text.LetterCase
import EntityStore.Value.Order

namespace EntityStore.Indices

open Search (Query Bounds)

/-! ## Single values -/

/-- The text that a value is matched by. -/
def textOf (j : Json) : String := (Value.ofJson j).key

/-- Two documents are one value. -/
def sameValue (a b : Json) : Bool := Value.ofJson a == Value.ofJson b

/-- A value is on the accepted side of a bound, if there is one. -/
def respects (accept : Ordering → Bool) (v : Json) (bound : Option Json) : Bool :=
  bound.all fun b => Value.compares accept (Value.ofJson v) (Value.ofJson b)

/-- A value is within bounds. -/
def within (bounds : Bounds) (v : Json) : Bool :=
  respects Ordering.isGT v bounds.gt && respects Ordering.isGE v bounds.ge &&
    respects Ordering.isLT v bounds.lt && respects Ordering.isLE v bounds.le

/-- The expression for a pattern that has to match a whole text. -/
def anchored (pattern : String) (anyCase : Bool) : String :=
  (if anyCase then "" else "(?-i)") ++ "^(?:" ++ pattern ++ ")$"

/-- Some value at a field matches an expression. -/
def someMatches (doc : Json) (field regex : String) : Bool :=
  (valuesAt doc field).any fun v => Regex.test? (textOf v) regex == some true

/-! ## Texts -/

/-- The texts that a text search looks into: those of the fields, whose
weights do not count, or without fields all texts of the document itself. -/
def searchedTexts (doc : Json) (fields : List String) : List String :=
  if fields.isEmpty then (doc.members?.getD []).values.filterMap Json.text?
  else fields.flatMap fun f => (valuesAt doc ((Text.split '^' f).headD f)).map textOf

/-- A text search asks for all its words. -/
def asksForAll (parameters : Fields Json) : Bool :=
  ((parameters.get? "operator").bind Json.text?).any fun op => Text.lowerAscii op == "and"

/-- How many of the wanted words a text has. -/
def wordHits (wanted present : List String) : Nat := (wanted.filter present.contains).length

/-- A text has words of the search, all of them or at least one. -/
def hasWords (wanted : List String) (all : Bool) (text : String) : Bool :=
  let hits := wordHits wanted (Text.words text)
  if all then !wanted.isEmpty && hits == wanted.length else 0 < hits

/-- A text has words of the search, of which the last may be unfinished. -/
def hasWordsSoFar (wanted : List String) (all : Bool) (text : String) : Bool :=
  match wanted.getLast? with
  | none => false
  | some last =>
    let begun := (Text.words text).any (Text.startsWith · last)
    let hits := wordHits wanted.dropLast (Text.words text)
    if all then begun && hits == wanted.dropLast.length else begun || 0 < hits

/-- A text meets a text search. -/
def meetsSearch (query : String) (how : MatchType) (all : Bool) (text : String) : Bool :=
  match how with
  | .phrase | .phrasePrefix => Text.holds (Text.lower text) (Text.lower query)
  | .boolPrefix => hasWordsSoFar (Text.words query) all text
  | _ => hasWords (Text.words query) all text

/-! ## Queries -/

/-- How many optional parts have to match. Without other parts that have to,
one of them does. -/
def leastHits (must filter should : List Query) (least : Option Nat) : Nat :=
  least.getD (if must.isEmpty && filter.isEmpty && !should.isEmpty then 1 else 0)

mutual

/-- The query finds the document. -/
def finds : Query → Json → Bool
  | .matchAll, _ => true
  | .term f v, doc => (valuesAt doc f).any fun w => sameValue w v
  | .terms f vs, doc => (valuesAt doc f).any fun w => vs.any fun v => sameValue w v
  | .range f bounds, doc => (valuesAt doc f).any (within bounds)
  | .exists f, doc => !(valuesAt doc f).isEmpty
  | .wildcard f pattern anyCase, doc =>
    someMatches doc f (anchored (Wildcard.regex pattern) anyCase)
  | .regexp f pattern anyCase, doc => someMatches doc f (anchored pattern anyCase)
  | .multiMatch text fields how parameters, doc =>
    (searchedTexts doc fields).any (meetsSearch text how (asksForAll parameters))
  | .nested path q _, doc => (nestedAt doc path).any fun element => finds q element
  | .bool must filter should mustNot least, doc =>
    hits must doc == must.length && hits filter doc == filter.length && hits mustNot doc == 0 &&
      leastHits must filter should least ≤ hits should doc

/-- How many of the queries find the document. -/
def hits : List Query → Json → Nat
  | [], _ => 0
  | q :: qs, doc => (if finds q doc then 1 else 0) + hits qs doc

end

/-! ## Inner hits -/

/-- A list of hits, with their number. -/
def hitList (found : List Json) : Json :=
  .obj [("hits", Json.object [
    ("total", Json.object [("value", Json.ofNat found.length), ("relation", .str "eq")]),
    ("hits", .arr found)])]

/-- The nested objects that a query finds. -/
def innerHits (path : String) (q : Query) (doc : Json) : Json :=
  hitList (((objectsAt doc path).filter fun e => finds q (under path e)).map fun e =>
    .obj [("_source", e)])

/-- The name that inner hits go by. -/
def innerName (path : String) (spec : Json) : String :=
  ((spec.get? "name").bind Json.text?).getD path

mutual

/-- The inner hits that a query asks for, by their names. -/
def addInnerHits (doc : Json) : Query → Fields Json → Fields Json
  | .nested path q (some spec), found => found.insert (innerName path spec) (innerHits path q doc)
  | .bool must filter should _ _, found =>
    addAllInnerHits doc should (addAllInnerHits doc filter (addAllInnerHits doc must found))
  | _, found => found

def addAllInnerHits (doc : Json) : List Query → Fields Json → Fields Json
  | [], found => found
  | q :: qs, found => addAllInnerHits doc qs (addInnerHits doc q found)

end

end EntityStore.Indices
