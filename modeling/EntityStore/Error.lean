-- Everything that can go wrong, as causes. The wording of a cause is made
-- in one place, its `message`.
import EntityStore.Json.Basic

namespace EntityStore

/-! ## Queries that cannot be built -/

inductive QueryError where
  | columnNotFound (table column : String)
  | invalid (reason : String)
  /-- The kind of store has no such clause. -/
  | unsupported (store clause : String)
  | tooDeep (depth limit : Nat)

namespace QueryError

def message : QueryError → String
  | .columnNotFound table column => s!"column '{column}' not found in table '{table}'"
  | .invalid reason => s!"invalid query: {reason}"
  | .unsupported store clause => s!"{store} backend does not support {clause}"
  | .tooDeep depth limit =>
    s!"expression depth {depth} exceeds maximum allowed depth of {limit}"

/-- The name of the cause. -/
def code : QueryError → String
  | .columnNotFound _ _ => "column_not_found"
  | .invalid _ => "invalid_query"
  | .unsupported _ _ => "unsupported_clause"
  | .tooDeep _ _ => "expression_too_deep"

end QueryError

/-! ## Faults of stores -/

/-- A fault that a database reports. -/
structure TableFault where
  code : Option Nat
  state : Option String
  message : String

namespace TableFault

/-- A fault with a message and nothing else. -/
def plain (message : String) : TableFault := ⟨none, none, message⟩

def duplicateEntry (value key : String) : TableFault :=
  ⟨some 1062, some "23000", s!"Duplicate entry '{value}' for key '{key}'"⟩

def serverGoneAway : TableFault := ⟨some 2006, none, "MySQL server has gone away"⟩

def lostConnection : TableFault :=
  ⟨some 2013, none, "Lost connection to MySQL server during query"⟩

def deadlock : TableFault :=
  ⟨some 1213, some "40001",
    "Deadlock found when trying to get lock; try restarting transaction"⟩

def lockWaitTimeout : TableFault :=
  ⟨some 1205, none, "Lock wait timeout exceeded; try restarting transaction"⟩

end TableFault

/-- A fault that a document store reports. -/
structure IndexFault where
  status : Option Nat
  message : String

/-- The wording of a fault of a document store. -/
def IndexFault.text (e : IndexFault) : String :=
  let status := match e.status with
    | some n => s!"Some({n})"
    | none => "None"
  s!"document store error ({status}): {e.message}"

/-! ## Conflicts of a batch -/

/-- Which items of a batch repeat a value that has to be unique. An item
goes by its identity or by its place in the batch, and its fields come with
the repeated values. -/
structure ConflictReport where
  entity : String
  conflicts : Fields (Fields Json)

namespace ConflictReport

def empty (entity : String) : ConflictReport := ⟨entity, []⟩

def isEmpty (r : ConflictReport) : Bool := r.conflicts.isEmpty

/-- One more field of an item repeats its value. -/
def record (r : ConflictReport) (subject field : String) (value : Json) : ConflictReport :=
  { r with conflicts := r.conflicts.alter subject fun fs => Fields.insert (fs.getD []) field value }

def message (r : ConflictReport) : String :=
  let item (subject : String) (fields : Fields Json) : String :=
    subject ++ " (" ++ ", ".intercalate (fields.map fun (f, v) => f ++ "=" ++ v.compact) ++ ")"
  let items := r.conflicts.map fun (subject, fields) => item subject fields
  s!"{r.conflicts.length} conflicting '{r.entity}' item(s)" ++
    (if items.isEmpty then "" else ": " ++ "; ".intercalate items)

end ConflictReport

/-! ## Errors of the library -/

/-- A fault that another attempt may not meet again. -/
inductive Transient where
  | connectionLost
  | deadlock
  deriving DecidableEq

def Transient.text : Transient → String
  | .connectionLost => "connection lost"
  | .deadlock => "deadlock"

inductive AccessError where
  /-- Records are deleted by a filter only. -/
  | noFilter (entity : String)
  | emptyBatch (operation : String)
  | emptyResult (operation : String)
  | noChanges (entity : String)
  | conflict (report : ConflictReport)
  | duplicateKey (entity message : String)
  /-- The fault came back until no attempts were left. -/
  | transient (fault : Transient) (attempts : Nat) (message : String)
  | fatal (message : String)
  | batchShape (message : String)
  | fieldNotAllowed (entity field : String)
  | unknownOperator (field operator : String)
  | invalidFilter (message : String)
  | invalidSettings (message : String)
  /-- A document does not mean what it has to. -/
  | decode (message : String)
  /-- A document does not have the shape that its use asks for. -/
  | shape (problem : String)
  | query (cause : QueryError)
  /-- A count had no next number. This is no answer: the program stops. -/
  | overrun

namespace AccessError

def message : AccessError → String
  | .noFilter entity => s!"refusing to delete from '{entity}' without a filter"
  | .emptyBatch operation => s!"empty batch for {operation}"
  | .emptyResult operation => s!"no records matched for {operation}"
  | .noChanges entity => s!"no changes detected for '{entity}'"
  | .conflict report => s!"uniqueness conflict: {report.message}"
  | .duplicateKey entity message => s!"duplicate key in '{entity}': {message}"
  | .transient fault attempts message =>
    s!"{fault.text} persisted after {attempts} attempts: {message}"
  | .fatal message => s!"storage fault: {message}"
  | .batchShape message => s!"invalid batch: {message}"
  | .fieldNotAllowed entity field => s!"filtering on '{field}' is not allowed for '{entity}'"
  | .unknownOperator field operator => s!"unknown operator '{operator}' for field '{field}'"
  | .invalidFilter message => s!"invalid filter: {message}"
  | .invalidSettings message => s!"invalid config: {message}"
  | .decode message => s!"decode error: {message}"
  | .shape problem => s!"decode error: {problem}"
  | .query cause => cause.message
  | .overrun => "attempt to add with overflow"

/-- The name of the cause. -/
def code : AccessError → String
  | .noFilter _ => "filter_not_specified"
  | .emptyBatch _ => "empty_batch"
  | .emptyResult _ => "empty_result"
  | .noChanges _ => "no_changes_detected"
  | .conflict _ => "uniqueness_conflict"
  | .duplicateKey _ _ => "duplicate_key"
  | .transient _ _ _ => "transient_storage_fault"
  | .fatal _ => "fatal_storage_fault"
  | .batchShape _ => "invalid_batch_shape"
  | .fieldNotAllowed _ _ => "unauthorized_field_access"
  | .unknownOperator _ _ => "unknown_operator"
  | .invalidFilter _ => "invalid_filter"
  | .invalidSettings _ => "invalid_config"
  | .decode _ => "decode"
  | .shape _ => "decode"
  | .query _ => "invalid_query"
  | .overrun => "panic"

/-- The caller asked for something that is not allowed, and the store was
not at fault. -/
def isValidation : AccessError → Bool
  | .noFilter _ => true
  | .emptyBatch _ => true
  | .noChanges _ => true
  | .conflict _ => true
  | .duplicateKey _ _ => true
  | .batchShape _ => true
  | .fieldNotAllowed _ _ => true
  | .unknownOperator _ _ => true
  | .invalidFilter _ => true
  | _ => false

end AccessError

/-- A fault of a document store is fatal. -/
def IndexFault.toError (e : IndexFault) : AccessError := .fatal e.text

end EntityStore
