-- What a collection shows. What it has loaded is what the last search found, and
-- that search was for the criteria that it has. A change of the criteria that
-- succeeds lets go of it, and one that fails changes nothing.
import EntityStore.Proofs.Collection.InPlace
import EntityStore.Proofs.Fallible

namespace EntityStore

/-! ## Searches that are noted -/

namespace Store

variable {σ α : Type}

/-- A search that was run, and what it gave. -/
structure Note where
  criteria : Criteria
  result : Except AccessError Outcome

/-- The state of a store, and all searches that were run on it. -/
structure Noting (σ : Type) where
  state : σ
  notes : List Note := []

/-- A call of the store that is not noted. -/
def unnoted (call : Call σ α) : Call (Noting σ) α :=
  call.part (·.state) fun n s => { n with state := s }

/-- The store with a note of each search. -/
def noted (st : Store σ) : Store (Noting σ) where
  entity := st.entity
  settings := st.settings
  search c := Call.mk fun n =>
    let (r, s) := (st.search c).on n.state
    (r, ⟨s, n.notes ++ [⟨c, r⟩]⟩)
  insert docs := unnoted (st.insert docs)
  upsert docs field updated := unnoted (st.upsert docs field updated)
  update changes := unnoted (st.update changes)
  delete groups := unnoted (st.delete groups)

end Store

namespace Collection

variable {σ : Type}

/-! ## Calls of a collection -/

/-- What the collection keeps of what a search found. -/
def ofOutcome (out : Outcome) : Loaded := ⟨out.rows.map .ofStored, out.total, out.aggregations⟩

/-- A question that is answered by what is loaded. -/
inductive Reading where
  | load
  | data
  | size
  | total
  | aggregation (name : String)
  | aggregations

def Reading.answer (l : Loaded) : Reading → Answer
  | .load => .records l.records
  | .data => .rows (l.records.map Record.fields)
  | .size => .number l.records.length
  | .total => .number l.total
  | .aggregation name => .aggregation (l.aggregations.get? name)
  | .aggregations => .aggregations l.aggregations

/-- A call of a collection. -/
inductive Action where
  | change (change : Change)
  | read (reading : Reading)
  | reload
  | clear
  | delete

/-- A call of the collection alone. -/
def onCollection {α : Type} (call : Call Collection α) : Call (Opened σ) α :=
  call.part (·.collection) fun o c => { o with collection := c }

def Reading.perform (st : Store σ) (reading : Reading) : Call (Opened σ) Answer := do
  return reading.answer (← Collection.load st)

def Action.perform (st : Store σ) : Action → Call (Opened σ) Answer
  | .change c => onCollection (c.perform st.entity st.settings)
  | .read reading => reading.perform st
  | .reload => do return .records (← Collection.reload st).records
  | .clear => onCollection InPlace.clear
  | .delete => do return .number (← Collection.delete st)

/-- The state after some calls, whether they succeed or not. -/
def run (st : Store σ) (actions : List Action) (o : Opened σ) : Opened σ :=
  actions.foldl (fun o action => ((action.perform st).on o).2) o

/-! ## Single calls -/

variable {st : Store σ} {o : Opened σ}

theorem on_load_of_loaded {l : Loaded} (h : o.collection.loaded = some l) :
    (load st).on o = (.ok l, o) := by
  obtain ⟨⟨filters, rest, loaded⟩, state⟩ := o
  obtain rfl : loaded = some l := h
  rfl

theorem on_onStore {α : Type} (call : Call σ α) (o : Opened σ) :
    (onStore call).on o = ((call.on o.state).1, { o with state := (call.on o.state).2 }) := rfl

theorem on_load_of_unloaded (h : o.collection.loaded = none) :
    (load st).on o = match (st.search o.collection.criteria).on o.state with
      | (.ok out, s) =>
        (.ok (ofOutcome out), ⟨{ o.collection with loaded := some (ofOutcome out) }, s⟩)
      | (.error e, s) => (.error e, { o with state := s }) := by
  obtain ⟨⟨filters, rest, loaded⟩, state⟩ := o
  obtain rfl : loaded = none := h
  let c : Collection := ⟨filters, rest, none⟩
  have hstore : (onStore (st.search c.criteria)).on ⟨c, state⟩ = _ := on_onStore _ _
  have hload : (load st).on ⟨c, state⟩ = (onStore (st.search c.criteria) >>= fun found => do
      modify fun o =>
        { o with collection := { o.collection with loaded := some (ofOutcome found) } }
      return ofOutcome found).on ⟨c, state⟩ := rfl
  refine hload.trans ?_
  cases hsearch : (st.search c.criteria).on state with
  | mk r s =>
    rw [hsearch] at hstore
    cases r with
    | ok out => exact Call.on_bind hstore
    | error e => exact Call.on_bind_error hstore

theorem on_delete (o : Opened σ) :
    (delete st).on o =
      if o.collection.filters.isEmpty then (.error (.noFilter st.entity.name), o)
      else match (st.delete o.collection.filters.groups).on o.state with
        | (.ok n, s) => (.ok n, ⟨{ o.collection with loaded := none }, s⟩)
        | (.error e, s) => (.error e, { o with state := s }) := by
  have hget : (get : Call (Opened σ) (Opened σ)).on o = (.ok o, o) := rfl
  have hstore : (onStore (st.delete o.collection.filters.groups)).on o = _ := on_onStore _ _
  unfold delete
  refine (Call.on_bind hget).trans ?_
  split
  · rfl
  · cases hdelete : (st.delete o.collection.filters.groups).on o.state with
    | mk r s =>
      rw [hdelete] at hstore
      cases r with
      | ok n => exact Call.on_bind hstore
      | error e => exact Call.on_bind_error hstore

theorem on_noted_search (c : Criteria) (n : Store.Noting σ) :
    (st.noted.search c).on n = (((st.search c).on n.state).1,
      ⟨((st.search c).on n.state).2, n.notes ++ [⟨c, ((st.search c).on n.state).1⟩]⟩) := rfl

theorem on_noted_delete (gs : List Filter.Group) (n : Store.Noting σ) :
    (st.noted.delete gs).on n =
      (((st.delete gs).on n.state).1, { n with state := ((st.delete gs).on n.state).2 }) := rfl

theorem on_change (change : Change) (o : Opened σ) :
    ((Action.change change).perform st).on o =
      ((Call.settle o.collection (change.apply st.entity st.settings o.collection)).1,
        { o with collection :=
          (Call.settle o.collection (change.apply st.entity st.settings o.collection)).2 }) := by
  rw [← on_perform]
  rfl

/-! ## Changes -/

theorem loaded_of_addFilter {c d : Collection} {field : String} {input : Filter.Input}
    {logic : Filter.Logic} (h : c.addFilter field input logic = .ok d) : d.loaded = none := by
  obtain ⟨b, -, rfl⟩ := map_eq_ok_iff.mp h
  rfl

/-- A change of the whole collection lets go of what was loaded. -/
theorem loaded_of_apply {e : Entity} {settings : Settings} {change : Change} {c d : Collection}
    {x : Answer} (h : change.apply e settings c = .ok (d, x)) : d.loaded = none := by
  cases change with
  | addFilter field input logic =>
    obtain ⟨next, hnext, h⟩ := map_eq_ok_iff.mp h
    cases h
    exact loaded_of_addFilter hnext
  | addFilterJson field doc logic =>
    obtain ⟨next, hnext, h⟩ := map_eq_ok_iff.mp h
    obtain ⟨input, -, hnext⟩ := bind_eq_ok_iff.mp hnext
    cases h
    exact loaded_of_addFilter hnext
  | addIds ids =>
    obtain ⟨next, hnext, h⟩ := map_eq_ok_iff.mp h
    obtain ⟨p, -, hnext⟩ := bind_eq_ok_iff.mp hnext
    cases hnext
    cases h
    rfl
  | setPage number limit =>
    obtain ⟨next, hnext, h⟩ := map_eq_ok_iff.mp h
    obtain ⟨page, -, rfl⟩ := map_eq_ok_iff.mp hnext
    cases h
    rfl
  | applyJson doc =>
    obtain ⟨next, hnext, h⟩ := map_eq_ok_iff.mp h
    obtain ⟨w, -, hnext⟩ := bind_eq_ok_iff.mp hnext
    obtain ⟨incoming, -, hnext⟩ := bind_eq_ok_iff.mp hnext
    cases hnext
    cases h
    rfl
  | _ =>
    cases h
    rfl

variable {change : Change} {next : Opened σ}

/-- A change that fails leaves everything as it was. -/
theorem eq_of_change_error {e : AccessError}
    (h : ((Action.change change).perform st).on o = (.error e, next)) : next = o := by
  rw [on_change] at h
  cases hsettle : Call.settle o.collection (change.apply st.entity st.settings o.collection) with
  | mk r d =>
    rw [hsettle] at h
    obtain ⟨rfl, rfl⟩ := Prod.mk.inj h
    rw [Call.eq_of_settle_error hsettle]

/-- After a change that succeeds nothing is loaded. -/
theorem loaded_of_change_ok {x : Answer}
    (h : ((Action.change change).perform st).on o = (.ok x, next)) :
    next.collection.loaded = none := by
  rw [on_change] at h
  obtain ⟨hdone, rfl⟩ := Prod.mk.inj h
  exact loaded_of_apply (Call.eq_ok_of_settle (Prod.ext hdone rfl))

/-! ## Readings -/

/-- What is loaded answers a reading, which does nothing else. -/
theorem on_reading_of_loaded {l : Loaded} (h : o.collection.loaded = some l) (reading : Reading) :
    (reading.perform st).on o = (.ok (reading.answer l), o) :=
  Call.on_bind (on_load_of_loaded h)

/-! ## What is loaded -/

/-- What is loaded is what the last search found, and that search was for the
criteria of the collection. -/
def Fresh (o : Opened (Store.Noting σ)) : Prop :=
  ∀ l, o.collection.loaded = some l →
    ∃ out, o.state.notes.getLast? = some ⟨o.collection.criteria, .ok out⟩ ∧ l = ofOutcome out

theorem fresh_of_unloaded {o : Opened (Store.Noting σ)} (h : o.collection.loaded = none) :
    Fresh o := by
  intro l hl
  cases h.symm.trans hl

open Call (Keeps)

theorem keeps_load : Keeps Fresh (load st.noted) := by
  intro o ho
  cases hloaded : o.collection.loaded with
  | some l =>
    rw [on_load_of_loaded hloaded]
    exact ho
  | none =>
    rw [on_load_of_unloaded hloaded, on_noted_search]
    cases hr : ((st.search o.collection.criteria).on o.state.state).1 with
    | error e => exact fresh_of_unloaded hloaded
    | ok out =>
      rintro l ⟨⟩
      exact ⟨out, List.getLast?_concat .., rfl⟩

theorem keeps_reading (reading : Reading) : Keeps Fresh (reading.perform st.noted) :=
  keeps_load.bind fun _ => Call.keeps_pure _

/-- Each call keeps fresh what is loaded. -/
theorem keeps_perform (action : Action) : Keeps Fresh (action.perform st.noted) := by
  cases action with
  | change change =>
    intro o ho
    split
    · rename_i x next hon
      exact fresh_of_unloaded (loaded_of_change_ok hon)
    · rename_i e next hon
      rw [eq_of_change_error hon]
      exact ho
  | read reading => exact keeps_reading reading
  | reload =>
    have hunload : Keeps (Fresh (σ := σ)) unload := fun o _ => fresh_of_unloaded rfl
    exact (hunload.bind fun _ => keeps_load).bind fun _ => Call.keeps_pure _
  | clear =>
    intro o _
    have hloaded : (InPlace.clear.on o.collection).2.loaded = none := by rw [InPlace.on_clear]
    exact fresh_of_unloaded hloaded
  | delete =>
    have hdelete : Keeps Fresh (delete st.noted) := by
      intro o ho
      rw [on_delete, on_noted_delete]
      by_cases hempty : o.collection.filters.isEmpty = true
      · rw [if_pos hempty]
        exact ho
      · rw [if_neg hempty]
        cases ((st.delete o.collection.filters.groups).on o.state.state).1 with
        | ok n => exact fresh_of_unloaded rfl
        | error e => exact ho
    exact hdelete.bind fun _ => Call.keeps_pure _

theorem fresh_run (actions : List Action) {o : Opened (Store.Noting σ)} (h : Fresh o) :
    Fresh (run st.noted actions o) := by
  induction actions generalizing o with
  | nil => exact h
  | cons action actions ih => exact ih ((keeps_perform action).on h)

/-! ## Without notes -/

/-- The collection on the store itself. -/
def forget (o : Opened (Store.Noting σ)) : Opened σ := ⟨o.collection, o.state.state⟩

/-- A call does the same with notes and without. -/
def Forgets {α : Type} (noted : Call (Opened (Store.Noting σ)) α) (plain : Call (Opened σ) α) :
    Prop :=
  ∀ o, plain.on (forget o) = ((noted.on o).1, forget (noted.on o).2)

theorem Forgets.bind {α β : Type} {noted : Call (Opened (Store.Noting σ)) α}
    {plain : Call (Opened σ) α} {f : α → Call (Opened (Store.Noting σ)) β}
    {g : α → Call (Opened σ) β} (h : Forgets noted plain) (hf : ∀ x, Forgets (f x) (g x)) :
    Forgets (noted >>= f) (plain >>= g) := by
  intro o
  have ho := h o
  cases hnoted : noted.on o with
  | mk r next =>
    rw [hnoted] at ho
    cases r with
    | ok x =>
      rw [Call.on_bind hnoted, Call.on_bind ho]
      exact hf x next
    | error e => rw [Call.on_bind_error hnoted, Call.on_bind_error ho]

theorem forgets_pure {α : Type} (x : α) : Forgets (σ := σ) (pure x) (pure x) := fun _ => rfl

theorem forgets_onCollection {α : Type} (call : Call Collection α) :
    Forgets (σ := σ) (onCollection call) (onCollection call) := fun _ => rfl

theorem forgets_load : Forgets (load st.noted) (load st) := by
  intro o
  cases hloaded : o.collection.loaded with
  | some l =>
    rw [on_load_of_loaded hloaded]
    exact on_load_of_loaded hloaded
  | none =>
    have hforgotten : (forget o).collection.loaded = none := hloaded
    rw [on_load_of_unloaded hloaded, on_load_of_unloaded hforgotten, on_noted_search]
    show (match (st.search o.collection.criteria).on o.state.state with
      | (.ok out, s) => _
      | (.error e, s) => _) = _
    cases (st.search o.collection.criteria).on o.state.state with
    | mk r s => cases r <;> rfl

theorem forgets_delete : Forgets (delete st.noted) (delete st) := by
  intro o
  rw [on_delete, on_delete, on_noted_delete]
  by_cases hempty : o.collection.filters.isEmpty = true
  · rw [if_pos hempty]
    exact if_pos hempty
  · rw [if_neg hempty]
    refine (if_neg hempty).trans ?_
    show (match (st.delete o.collection.filters.groups).on o.state.state with
      | (.ok n, s) => _
      | (.error e, s) => _) = _
    cases (st.delete o.collection.filters.groups).on o.state.state with
    | mk r s => cases r <;> rfl

theorem forgets_perform (action : Action) :
    Forgets (action.perform st.noted) (action.perform st) := by
  cases action with
  | change change => exact forgets_onCollection _
  | read reading => exact forgets_load.bind fun _ => forgets_pure _
  | reload =>
    have hunload : Forgets (σ := σ) unload unload := fun _ => rfl
    exact (hunload.bind fun _ => forgets_load).bind fun _ => forgets_pure _
  | clear => exact forgets_onCollection _
  | delete => exact forgets_delete.bind fun _ => forgets_pure _

theorem forget_run (actions : List Action) (o : Opened (Store.Noting σ)) :
    forget (run st.noted actions o) = run st actions (forget o) := by
  induction actions generalizing o with
  | nil => rfl
  | cons action actions ih =>
    have hstep : ((action.perform st).on (forget o)).2 =
        forget ((action.perform st.noted).on o).2 := by rw [forgets_perform action o]
    refine (ih _).trans ?_
    rw [← hstep]
    rfl

/-- After any calls of a collection, what is loaded is what the last search found.
That search was for the criteria of the collection, and no reading searches
again. A change that fails leaves everything as it was, and after one that
succeeds nothing is loaded. -/
theorem what_is_loaded_is_what_the_last_search_found (st : Store σ) (s : σ)
    (actions : List Action) :
    let o := run st.noted actions ⟨{}, ⟨s, []⟩⟩
    forget o = run st actions ⟨{}, s⟩ ∧
    (∀ l, o.collection.loaded = some l →
      (∃ out, o.state.notes.getLast? = some ⟨o.collection.criteria, .ok out⟩ ∧
        l.records = out.rows.map .ofStored ∧ l.total = out.total ∧
        l.aggregations = out.aggregations) ∧
      ∀ reading : Reading, (reading.perform st.noted).on o = (.ok (reading.answer l), o)) ∧
    ∀ change : Change,
      (∀ e next, ((Action.change change).perform st.noted).on o = (.error e, next) → next = o) ∧
      ∀ x next, ((Action.change change).perform st.noted).on o = (.ok x, next) →
        next.collection.isLoaded = false := by
  intro o
  refine ⟨forget_run actions _, fun l hl => ⟨?_, on_reading_of_loaded hl⟩, fun change =>
    ⟨fun e next => eq_of_change_error, fun x next hon => ?_⟩⟩
  · have hfresh : Fresh o := fresh_run actions (fresh_of_unloaded rfl)
    obtain ⟨out, hlast, rfl⟩ := hfresh l hl
    exact ⟨out, hlast, rfl, rfl, rfl⟩
  · rw [isLoaded, loaded_of_change_ok hon]
    rfl

/-- A collection that has loaded the one oak still shows it after a page of no
records was refused, and lets go of it for a page of five. -/
theorem a_page_that_is_refused_leaves_the_oak :
    let oak : Outcome := { rows := [[("name", .str "Oak")]], total := 1 }
    let st : Store Unit := {
      entity := { name := "product", storage := "products" }
      settings := {}
      search := fun _ => pure oak
      insert := fun _ => pure []
      upsert := fun _ _ _ => pure []
      update := fun _ => pure []
      delete := fun _ => pure 0 }
    let actions : List Action := [.change (.addCondition (.eq "name" (.text "Oak"))), .read .load,
      .change (.setPage 1 0)]
    let o := run st.noted actions ⟨{}, ⟨(), []⟩⟩
    (∃ l, o.collection.loaded = some l ∧
      ((Reading.perform st.noted .total).on o) = (.ok (.number 1), o)) ∧
    ∃ x next, ((Action.change (.setPage 1 5)).perform st.noted).on o = (.ok x, next) ∧
      next.collection.isLoaded = false := by
  intro oak st actions o
  obtain ⟨-, hloaded, hchange⟩ := what_is_loaded_is_what_the_last_search_found st () actions
  constructor
  · have hl : o.collection.loaded = some (ofOutcome oak) := rfl
    obtain ⟨-, hreading⟩ := hloaded _ hl
    exact ⟨_, hl, hreading .total⟩
  · have hpage : ((Action.change (.setPage 1 5)).perform st.noted).on o = (.ok .done, _) := rfl
    exact ⟨_, _, hpage, (hchange (.setPage 1 5)).2 _ _ hpage⟩

end Collection

end EntityStore
