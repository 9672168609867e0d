-- Collections: criteria that grow call by call, and the records that they
-- find. The records are loaded when they are first asked for, and again
-- after a change of the criteria. A change is there twice, as what the
-- collection is after it, and in place, as assignments one after the other.
import EntityStore.Filter.Builder
import EntityStore.Record
import EntityStore.Store.Basic
import EntityStore.Wire.Contract

namespace EntityStore

/-! ## Filters in place -/

namespace Filter.Builder.InPlace

def push (g : Group) : Call Builder Unit := modify fun b => { b with groups := b.groups ++ [g] }

def setOpen (isOpen : Bool) : Call Builder Unit := modify fun b => { b with isOpen := isOpen }

def extend (conditions : List Condition) : Call Builder Unit := do
  if (← get).isOpen then
    modify fun b => { b with groups := b.groups.modify (b.groups.length - 1) fun g =>
      { g with conditions := g.conditions ++ conditions } }
  else
    push (.all conditions)
    setOpen true

def addFilter (field : String) (filter : Input) (logic : Logic) : Call Builder Unit := do
  let conditions ← Call.lift (filter.conditions field)
  if filter.isList && logic == .or && conditions.length > 1 then
    setOpen false
    push (.any conditions)
  else extend conditions

def addGroup (g : Group) : Call Builder Unit := do
  if !g.isEmpty then
    setOpen false
    push g

def addIds (idField : String) (ids : List Value) : Call Builder (List Value) := do
  let b ← get
  match b.idsAt with
  | some place =>
    let known := ((b.conditionAt? place).map fun c => Operand.listed c.operand).getD []
    let merged := cleanIds (known ++ ids)
    modify (·.setOperand place (.list merged))
    return merged
  | none =>
    let fresh := cleanIds ids
    if fresh.isEmpty then throw (.invalidFilter "ids filter needs at least one id")
    let c ← Call.lift (Condition.make idField .isIn (.list fresh))
    extend [c]
    modify fun b => { b with idsAt := some b.lastPlace }
    return fresh

def clear : Call Builder Unit := do
  modify fun b => { b with groups := [] }
  setOpen false
  modify fun b => { b with idsAt := none }

end Filter.Builder.InPlace

/-! ## Collections -/

/-- What was loaded. -/
structure Loaded where
  records : List Record
  total : Nat
  aggregations : Fields Aggregation.Result

structure Collection where
  filters : Filter.Builder := {}
  /-- The criteria without the filters. -/
  rest : Criteria := {}
  loaded : Option Loaded := none

namespace Collection

def isLoaded (c : Collection) : Bool := c.loaded.isSome

/-- The criteria with the filters. -/
def criteria (c : Collection) : Criteria := { c.rest with filters := c.filters.groups }

/-! ## Growing criteria -/

/-- Other filters. What was loaded counts no more. -/
def withFilters (c : Collection) (b : Filter.Builder) : Collection :=
  { c with filters := b, loaded := none }

/-- Other criteria. What was loaded counts no more. -/
def adjust (c : Collection) (f : Criteria → Criteria) : Collection :=
  { c with rest := f c.rest, loaded := none }

/-- One more filter of a field. -/
def addFilter (c : Collection) (field : String) (filter : Filter.Input) (logic : Filter.Logic) :
    Except AccessError Collection :=
  (c.filters.addFilter field filter logic).map c.withFilters

/-- One more filter of a field, which a document writes. -/
def addFilterJson (c : Collection) (settings : Settings) (field : String) (input : Json)
    (logic : Filter.Logic) : Except AccessError Collection := do
  c.addFilter field (← Filter.Input.read field input settings.lenientOperators) logic

def addCondition (c : Collection) (cond : Filter.Condition) : Collection :=
  c.withFilters (c.filters.addCondition cond)

def addGroup (c : Collection) (g : Filter.Group) : Collection :=
  c.withFilters (c.filters.addGroup g)

def addPostFilter (c : Collection) (g : Filter.Group) : Collection :=
  c.adjust fun r => if g.isEmpty then r else { r with postFilters := r.postFilters ++ [g] }

/-- Only records with one of these identities. The answer holds all
identities in effect. -/
def addIds (c : Collection) (e : Entity) (ids : List Value) :
    Except AccessError (Collection × List Value) := do
  let (b, applied) ← c.filters.addIds e.idField ids
  return (c.withFilters b, applied)

def addSort (c : Collection) (s : SortBy) : Collection :=
  c.adjust fun r => { r with sorts := r.sorts ++ [s] }

def setPage (c : Collection) (number : Nat) (limit : Int) : Except AccessError Collection :=
  (Page.make number limit).map fun p => c.adjust fun r => { r with page := p }

def addAggregation (c : Collection) (a : Aggregation) : Collection :=
  c.adjust fun r => { r with aggregations := r.aggregations ++ [a] }

def addFullText (c : Collection) (t : FullText) : Collection :=
  c.adjust fun r => { r with fullText := r.fullText ++ [t] }

def includeFields (c : Collection) (fields : List String) : Collection :=
  c.adjust fun r => { r with included := r.included ++ fields }

def excludeFields (c : Collection) (fields : List String) : Collection :=
  c.adjust fun r => { r with excluded := r.excluded ++ fields }

def scrollAfter (c : Collection) (last : Value) : Collection :=
  c.adjust fun r => { r with scrollAfter := some last }

def setCollapse (c : Collection) (collapse : Collapse) : Collection :=
  c.adjust fun r => { r with collapse := some collapse }

def addJoin (c : Collection) (j : Sql.Join) : Collection :=
  c.adjust fun r => { r with joins := r.joins ++ [j] }

def addRawItem (c : Collection) (expression : String) : Collection :=
  c.adjust fun r => { r with rawItems := r.rawItems ++ [expression] }

def setDistinct (c : Collection) (distinct : Bool) : Collection :=
  c.adjust fun r => { r with distinct := distinct }

def setGroupBy (c : Collection) (fields : List String) : Collection :=
  c.adjust fun r => { r with groupBy := fields }

/-- Criteria joined to those that are there. Only a page takes the place of
the one before. -/
def apply (c : Collection) (incoming : Criteria) (hasPage : Bool) : Collection :=
  let c := c.withFilters (incoming.filters.foldl Filter.Builder.addGroup c.filters)
  c.adjust fun r => { r with
    postFilters := r.postFilters ++ incoming.postFilters
    sorts := r.sorts ++ incoming.sorts
    page := if hasPage then incoming.page else r.page
    aggregations := r.aggregations ++ incoming.aggregations
    fullText := r.fullText ++ incoming.fullText
    excluded := r.excluded ++ incoming.excluded }

/-- Criteria that a document writes, joined to those that are there. -/
def applyJson (c : Collection) (input : Json) : Except AccessError Collection := do
  let w ← Wire.readContract input
  return c.apply (← w.resolve) w.page.isSome

/-! ## Changes -/

/-- What a call of a collection answers. -/
inductive Answer where
  | done
  | identities (ids : List Value)
  | records (rs : List Record)
  | rows (rows : List (Fields Json))
  | number (n : Nat)
  | aggregation (r : Option Aggregation.Result)
  | aggregations (rs : Fields Aggregation.Result)

/-- A call that changes the criteria of a collection. -/
inductive Change where
  | addFilter (field : String) (input : Filter.Input) (logic : Filter.Logic)
  | addFilterJson (field : String) (doc : Json) (logic : Filter.Logic)
  | addCondition (cond : Filter.Condition)
  | addGroup (g : Filter.Group)
  | addPostFilter (g : Filter.Group)
  | addIds (ids : List Value)
  | addSort (s : SortBy)
  | setPage (number : Nat) (limit : Int)
  | addAggregation (a : Aggregation)
  | addFullText (t : FullText)
  | includeFields (fields : List String)
  | excludeFields (fields : List String)
  | scrollAfter (last : Value)
  | setCollapse (collapsed : Collapse)
  | addJoin (j : Sql.Join)
  | addRawItem (expression : String)
  | setDistinct (isDistinct : Bool)
  | setGroupBy (fields : List String)
  | applyJson (doc : Json)

/-- The collection after a change, and the answer of the change. -/
def Change.apply (e : Entity) (settings : Settings) (c : Collection) :
    Change → Except AccessError (Collection × Answer)
  | .addFilter field input logic => (c.addFilter field input logic).map (·, .done)
  | .addFilterJson field doc logic => (c.addFilterJson settings field doc logic).map (·, .done)
  | .addCondition cond => .ok (c.addCondition cond, .done)
  | .addGroup g => .ok (c.addGroup g, .done)
  | .addPostFilter g => .ok (c.addPostFilter g, .done)
  | .addIds ids => (c.addIds e ids).map fun (c, applied) => (c, .identities applied)
  | .addSort s => .ok (c.addSort s, .done)
  | .setPage number limit => (c.setPage number limit).map (·, .done)
  | .addAggregation a => .ok (c.addAggregation a, .done)
  | .addFullText t => .ok (c.addFullText t, .done)
  | .includeFields fields => .ok (c.includeFields fields, .done)
  | .excludeFields fields => .ok (c.excludeFields fields, .done)
  | .scrollAfter last => .ok (c.scrollAfter last, .done)
  | .setCollapse collapsed => .ok (c.setCollapse collapsed, .done)
  | .addJoin j => .ok (c.addJoin j, .done)
  | .addRawItem expression => .ok (c.addRawItem expression, .done)
  | .setDistinct isDistinct => .ok (c.setDistinct isDistinct, .done)
  | .setGroupBy fields => .ok (c.setGroupBy fields, .done)
  | .applyJson doc => (c.applyJson doc).map (·, .done)

/-! ## Changes in place -/

namespace InPlace

/-- A call of the filters, which leaves the rest as it is. -/
def onFilters {α : Type} (call : Call Filter.Builder α) : Call Collection α :=
  call.part (·.filters) fun c b => { c with filters := b }

/-- Changes the criteria besides the filters. -/
def onRest (f : Criteria → Criteria) : Call Collection Unit :=
  modify fun c => { c with rest := f c.rest }

/-- What was loaded counts no more. -/
def touch : Call Collection Unit := modify fun c => { c with loaded := none }

/-- A call after which what was loaded counts no more. -/
def touching (call : Call Collection Unit) : Call Collection Answer := do
  call
  touch
  return .done

/-- Criteria that a document writes join those that are there, one kind after
the other. -/
def join (incoming : Criteria) (hasPage : Bool) : Call Collection Unit := do
  incoming.filters.forM fun g => onFilters (Filter.Builder.InPlace.addGroup g)
  onRest fun r => { r with postFilters := r.postFilters ++ incoming.postFilters }
  onRest fun r => { r with sorts := r.sorts ++ incoming.sorts }
  if hasPage then onRest fun r => { r with page := incoming.page }
  onRest fun r => { r with aggregations := r.aggregations ++ incoming.aggregations }
  onRest fun r => { r with fullText := r.fullText ++ incoming.fullText }
  onRest fun r => { r with excluded := r.excluded ++ incoming.excluded }

def clear : Call Collection Answer := do
  onFilters Filter.Builder.InPlace.clear
  onRest fun _ => {}
  touch
  return .done

end InPlace

open InPlace (onFilters onRest touch touching)

/-- The change in place. -/
def Change.perform (e : Entity) (settings : Settings) : Change → Call Collection Answer
  | .addFilter field input logic =>
    touching (onFilters (Filter.Builder.InPlace.addFilter field input logic))
  | .addFilterJson field doc logic => do
    let input ← Call.lift (Filter.Input.read field doc settings.lenientOperators)
    touching (onFilters (Filter.Builder.InPlace.addFilter field input logic))
  | .addCondition cond => touching (onFilters (Filter.Builder.InPlace.extend [cond]))
  | .addGroup g => touching (onFilters (Filter.Builder.InPlace.addGroup g))
  | .addPostFilter g => touching do
    if !g.isEmpty then onRest fun r => { r with postFilters := r.postFilters ++ [g] }
  | .addIds ids => do
    let applied ← onFilters (Filter.Builder.InPlace.addIds e.idField ids)
    touch
    return .identities applied
  | .addSort s => touching (onRest fun r => { r with sorts := r.sorts ++ [s] })
  | .setPage number limit => do
    let page ← Call.lift (Page.make number limit)
    touching (onRest fun r => { r with page := page })
  | .addAggregation a =>
    touching (onRest fun r => { r with aggregations := r.aggregations ++ [a] })
  | .addFullText t => touching (onRest fun r => { r with fullText := r.fullText ++ [t] })
  | .includeFields fields => touching (onRest fun r => { r with included := r.included ++ fields })
  | .excludeFields fields => touching (onRest fun r => { r with excluded := r.excluded ++ fields })
  | .scrollAfter last => touching (onRest fun r => { r with scrollAfter := some last })
  | .setCollapse collapsed => touching (onRest fun r => { r with collapse := some collapsed })
  | .addJoin j => touching (onRest fun r => { r with joins := r.joins ++ [j] })
  | .addRawItem expression =>
    touching (onRest fun r => { r with rawItems := r.rawItems ++ [expression] })
  | .setDistinct isDistinct => touching (onRest fun r => { r with distinct := isDistinct })
  | .setGroupBy fields => touching (onRest fun r => { r with groupBy := fields })
  | .applyJson doc => do
    let w ← Call.lift (Wire.readContract doc)
    let incoming ← Call.lift w.resolve
    touching (InPlace.join incoming w.page.isSome)

/-! ## With a store -/

/-- A collection and the state of its store. -/
structure Opened (σ : Type) where
  collection : Collection := {}
  state : σ

variable {σ : Type}

/-- A call of the store, which leaves the collection as it is. -/
def onStore {α : Type} (c : Call σ α) : Call (Opened σ) α :=
  c.part (·.state) fun o s => { o with state := s }

/-- What the criteria find, loaded if it is not there. -/
def load (st : Store σ) : Call (Opened σ) Loaded := do
  let o ← get
  match o.collection.loaded with
  | some l => return l
  | none =>
    let found ← onStore (st.search o.collection.criteria)
    let l : Loaded := ⟨found.rows.map .ofStored, found.total, found.aggregations⟩
    modify fun o => { o with collection := { o.collection with loaded := some l } }
    return l

/-- What was loaded counts no more. -/
def unload : Call (Opened σ) Unit :=
  modify fun o => { o with collection := { o.collection with loaded := none } }

/-- What the criteria find now. -/
def reload (st : Store σ) : Call (Opened σ) Loaded := do
  unload
  load st

/-- Deletes the records that pass the filters. All records are never
deleted. -/
def delete (st : Store σ) : Call (Opened σ) Nat := do
  let o ← get
  if o.collection.filters.isEmpty then throw (.noFilter st.entity.name)
  let n ← onStore (st.delete o.collection.filters.groups)
  unload
  return n

end Collection

end EntityStore
