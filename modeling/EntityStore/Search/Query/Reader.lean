-- Reading queries of a document store from the documents that write them.
-- A document may also write a query in a shorter form.
import EntityStore.Wire.Contract
import EntityStore.Search.Query
import EntityStore.Text.Quoted

namespace EntityStore.Search.Query

/-! ## Parts of documents -/

/-- The only member of an object. -/
def only (j : Json) : Except AccessError (String × Json) :=
  match j with
  | .obj [(k, v)] => .ok (k, v)
  | j => .error (.decode s!"expected a single-key object, got {j.compact}")

/-- What has to be there, or a message. -/
def need {α : Type} (x : Option α) (message : String) : Except AccessError α :=
  match x with
  | some v => .ok v
  | none => .error (.decode message)

/-- What has a shape, if it is there. The complaint says what is wrong with
a document that has not. -/
def shaped {α : Type} (item : Wire.Reader α) (complaint : Json → String) (j : Option Json) :
    Except AccessError (Option α) :=
  match j with
  | none => .ok none
  | some j =>
    match item j with
    | some v => .ok (some v)
    | none => .error (.shape (complaint j))

/-! ## Complaints -/

/-- A text in the marks that complaints put around it. -/
def marked (s : String) : String := "\x60" ++ s ++ "\x60"

/-- A document as a complaint names it. -/
def described : Json → String
  | .null => "null"
  | .bool b => "boolean " ++ marked (Json.bool b).compact
  | .int n => "integer " ++ marked (Json.int n).compact
  | .float x => "floating point " ++ marked (Json.float x).compact
  | .str s => "string " ++ Text.quoted s
  | .arr _ => "sequence"
  | .obj _ => "map"

/-- A document stands where something else is wanted. -/
def misplaced (j : Json) (wanted : String) : String :=
  s!"invalid type: {described j}, expected {wanted}"

/-- What is wrong with a document that is no list of texts: itself, or its
first item that is no text. -/
def textsComplaint : Json → String
  | .arr items => misplaced ((items.find? fun j => j.text?.isNone).getD .null) "a string"
  | j => misplaced j "a sequence"

/-- What is wrong with a document that is no match type. -/
def matchTypeComplaint : Json → String
  | .str s => unknown s
  | .obj [(s, j)] => if (MatchType.ofName? s).isNone then unknown s else misplaced j "unit"
  | .obj _ => "invalid value: map, expected map with a single key"
  | j => misplaced j "string or map"
where
  unknown (s : String) : String :=
    "unknown variant " ++ marked s ++ ", expected one of " ++
      ", ".intercalate (MatchType.all.map fun m => marked m.name)

/-! ## Queries without parts -/

def readTerm (body : Json) : Except AccessError Query := do
  let (f, spec) ← only body
  return .term f ((spec.get? "value").getD spec)

def readTerms (body : Json) : Except AccessError Query := do
  let (f, values) ← only body
  return .terms f (← need values.items? s!"terms on '{f}' needs an array")

def readRange (body : Json) : Except AccessError Query := do
  let (f, spec) ← only body
  return .range f ⟨spec.get? "gt", spec.get? "gte", spec.get? "lt", spec.get? "lte"⟩

def readExists (body : Json) : Except AccessError Query := do
  return .exists (← need ((body.get? "field").bind Json.text?) "exists needs a field")

/-- A field, its pattern, and whether letters match in any case. -/
def readPattern (kind : String) (body : Json) : Except AccessError (String × String × Bool) := do
  let (f, spec) ← only body
  match spec with
  | .str pattern => return (f, pattern, false)
  | spec =>
    let pattern ← need ((spec.get? "value").bind Json.text?) s!"{kind} on '{f}' needs a value"
    return (f, pattern, ((spec.get? "case_insensitive").bind Json.bool?).getD false)

def readMultiMatch (body : Json) : Except AccessError Query := do
  let ms ← need body.members? "multi_match needs an object"
  let text ← need ((ms.get? "query").bind Json.text?) "multi_match needs a query"
  let fields ← shaped (Wire.list Wire.text) textsComplaint (ms.get? "fields")
  let matchType ← shaped (Wire.name MatchType.ofName?) matchTypeComplaint (ms.get? "type")
  return .multiMatch text (fields.getD []) (matchType.getD .bestFields)
    (((ms.erase "query").erase "fields").erase "type")

/-- A query of a kind that has no queries as parts. -/
def readSimple (kind : String) (body : Json) : Except AccessError Query :=
  match kind with
  | "match_all" => .ok .matchAll
  | "term" => readTerm body
  | "terms" => readTerms body
  | "range" => readRange body
  | "exists" => readExists body
  | "wildcard" => do
    let (f, pattern, anyCase) ← readPattern kind body
    return .wildcard f pattern anyCase
  | "regexp" => do
    let (f, pattern, anyCase) ← readPattern kind body
    return .regexp f pattern anyCase
  | "multi_match" => readMultiMatch body
  | kind => .error (.decode s!"unsupported query type '{kind}'")

/-! ## All queries -/

/-- How many of the optional parts have to match. -/
def readLeast (members : Fields Json) : Option Nat :=
  ((members.get? "minimum_should_match").bind Json.nat?).map (· % 0x100000000)

mutual

/-- The query that a document writes. -/
def ofJson : Json → Except AccessError Query
  | .obj [(kind, .obj members)] =>
    if kind = "nested" then do
      let path ← need ((Fields.get? members "path").bind Json.text?) "nested needs a path"
      match memberQuery "query" members with
      | none => throw (.decode "nested needs a query")
      | some q => return .nested path (← q) (Fields.get? members "inner_hits")
    else if kind = "bool" then do
      return .bool (← memberQueries "must" members) (← memberQueries "filter" members)
        (← memberQueries "should" members) (← memberQueries "must_not" members)
        (readLeast members)
    else readSimple kind (.obj members)
  | .obj [(kind, body)] =>
    if kind = "nested" then .error (.decode "nested needs a path")
    else if kind = "bool" then .ok (.bool [] [] [] [] none)
    else readSimple kind body
  | j => (only j).bind fun e => readSimple e.1 e.2

/-- The query under a name, if there is one. -/
def memberQuery (k : String) : List (String × Json) → Option (Except AccessError Query)
  | [] => none
  | (l, j) :: rest => if k = l then some (ofJson j) else memberQuery k rest

/-- The queries under a name. One query stands for a list of one. -/
def memberQueries (k : String) : List (String × Json) → Except AccessError (List Query)
  | [] => .ok []
  | (l, .arr items) :: rest => if k = l then ofJsons items else memberQueries k rest
  | (l, j) :: rest => if k = l then (ofJson j).map ([·]) else memberQueries k rest

/-- The queries that documents write. -/
def ofJsons : List Json → Except AccessError (List Query)
  | [] => .ok []
  | j :: rest => do return (← ofJson j) :: (← ofJsons rest)

end

end EntityStore.Search.Query
