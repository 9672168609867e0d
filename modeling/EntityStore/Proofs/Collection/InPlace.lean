-- Changes of a collection in place. Filters and other criteria are changed one
-- after the other, and an error would leave what was changed before it. All that
-- can fail comes first, so a change is made as a whole or not at all.
import EntityStore.Collection
import EntityStore.Proofs.Calls

namespace EntityStore

namespace Call

variable {σ α β : Type}

/-- What a call gives that leaves a state where it succeeds only. -/
def settle (s : σ) : Except AccessError (σ × α) → Except AccessError α × σ
  | .ok (t, x) => (.ok x, t)
  | .error e => (.error e, s)

theorem eq_of_settle_error {s t : σ} {r : Except AccessError (σ × α)} {e : AccessError}
    (h : settle s r = (.error e, t)) : t = s := by
  cases r with
  | ok p => cases h
  | error e => exact (Prod.mk.inj h).2.symm

theorem eq_ok_of_settle {s t : σ} {r : Except AccessError (σ × α)} {x : α}
    (h : settle s r = (.ok x, t)) : r = .ok (t, x) := by
  cases r with
  | ok p =>
    obtain ⟨hx, rfl⟩ := Prod.mk.inj h
    rw [← Except.ok.inj hx]
  | error e => cases h

/-- What fails before anything is changed leaves all as it is. -/
theorem on_lift_bind {r : Except AccessError β} {f : β → Call σ α}
    {g : β → Except AccessError (σ × α)} {s : σ} (h : ∀ x, (f x).on s = settle s (g x)) :
    on (lift r >>= f) s = settle s (r >>= g) := by
  cases r with
  | ok x => exact (on_bind (on_lift ..)).trans (h x)
  | error e => exact on_bind_error (on_lift ..)

end Call

/-! ## Filters -/

namespace Filter.Builder.InPlace

variable (b : Builder)

theorem on_extend (conditions : List Condition) :
    (extend conditions).on b = (.ok (), b.extend conditions) := by
  obtain ⟨groups, isOpen, idsAt⟩ := b
  cases isOpen <;> rfl

theorem on_addFilter (field : String) (filter : Input) (logic : Logic) :
    (addFilter field filter logic).on b =
      Call.settle b ((b.addFilter field filter logic).map (·, ())) := by
  unfold addFilter Builder.addFilter
  cases hconditions : filter.conditions field with
  | error e => exact Call.on_bind_error (Call.on_lift ..)
  | ok conditions =>
    refine (Call.on_bind (Call.on_lift ..)).trans ?_
    show _ = Call.settle b (Except.map (·, ()) (if _ then _ else _))
    split
    · rfl
    · exact on_extend b conditions

theorem on_addGroup (g : Group) : (addGroup g).on b = (.ok (), b.addGroup g) := by
  unfold addGroup Builder.addGroup
  cases g.isEmpty <;> rfl

theorem on_addIds (idField : String) (ids : List Value) :
    (addIds idField ids).on b = Call.settle b (b.addIds idField ids) := by
  have hget : (get : Call Builder Builder).on b = (.ok b, b) := rfl
  refine (Call.on_bind hget).trans ?_
  unfold Builder.addIds
  cases b.idsAt with
  | some place => rfl
  | none =>
    dsimp only
    split
    · rfl
    · cases hmade : Condition.make idField .isIn (.list (cleanIds ids)) with
      | error e => exact Call.on_bind_error (Call.on_lift ..)
      | ok c =>
        refine (Call.on_bind (Call.on_lift ..)).trans ?_
        exact Call.on_bind (on_extend b [c])

end Filter.Builder.InPlace

/-! ## Changes -/

namespace Collection

open InPlace (onFilters touching)

variable (c : Collection)

theorem InPlace.on_onFilters {α : Type} (call : Call Filter.Builder α) :
    (onFilters call).on c = ((call.on c.filters).1, { c with filters := (call.on c.filters).2 }) :=
  rfl

theorem InPlace.on_touching {call : Call Collection Unit} {d : Collection}
    (h : call.on c = (.ok (), d)) : (touching call).on c = (.ok .done, { d with loaded := none }) :=
  Call.on_bind h

/-- Back to an empty collection, with nothing loaded. -/
theorem InPlace.on_clear : InPlace.clear.on c = (.ok .done, {}) := rfl

theorem InPlace.on_forM (gs : List Filter.Group) :
    (gs.forM fun g => onFilters (Filter.Builder.InPlace.addGroup g)).on c =
      (.ok (), { c with filters := gs.foldl Filter.Builder.addGroup c.filters }) := by
  induction gs generalizing c with
  | nil => rfl
  | cons g gs ih =>
    have hfirst : (onFilters (Filter.Builder.InPlace.addGroup g)).on c =
        (.ok (), { c with filters := c.filters.addGroup g }) := by
      rw [InPlace.on_onFilters, Filter.Builder.InPlace.on_addGroup]
    exact (Call.on_bind hfirst).trans (ih _)

theorem InPlace.on_join (incoming : Criteria) (hasPage : Bool) :
    (touching (InPlace.join incoming hasPage)).on c = (.ok .done, c.apply incoming hasPage) := by
  have hjoin : (InPlace.join incoming hasPage).on c =
      (.ok (), { c.apply incoming hasPage with loaded := c.loaded }) := by
    refine (Call.on_bind (InPlace.on_forM c incoming.filters)).trans ?_
    cases hasPage <;> rfl
  exact InPlace.on_touching c hjoin

/-- A change of the filters that is made as a whole or not at all is such a change
of the collection. -/
theorem InPlace.on_touching_onFilters {call : Call Filter.Builder Unit}
    {r : Except AccessError Filter.Builder}
    (h : call.on c.filters = Call.settle c.filters (r.map (·, ()))) :
    (touching (onFilters call)).on c =
      Call.settle c ((r.map c.withFilters).map (·, Answer.done)) := by
  have hon : (onFilters call).on c = _ := InPlace.on_onFilters c call
  rw [h] at hon
  cases r with
  | error e => exact Call.on_bind_error hon
  | ok b => exact InPlace.on_touching c hon

theorem InPlace.on_addFilter (field : String) (input : Filter.Input) (logic : Filter.Logic) :
    (touching (onFilters (Filter.Builder.InPlace.addFilter field input logic))).on c =
      Call.settle c ((c.addFilter field input logic).map (·, Answer.done)) :=
  InPlace.on_touching_onFilters c (Filter.Builder.InPlace.on_addFilter c.filters field input logic)

/-- A change in place gives what the change of the whole collection gives, and a
change that fails leaves the collection as it is. -/
theorem on_perform (e : Entity) (settings : Settings) (change : Change) :
    (change.perform e settings).on c = Call.settle c (change.apply e settings c) := by
  cases change with
  | addFilter field input logic => exact InPlace.on_addFilter c field input logic
  | addFilterJson field doc logic =>
    rw [Change.perform, Change.apply, addFilterJson]
    refine (Call.on_lift_bind fun input => InPlace.on_addFilter c field input logic).trans ?_
    cases Filter.Input.read field doc settings.lenientOperators <;> rfl
  | addCondition cond =>
    exact InPlace.on_touching_onFilters c (r := .ok (c.filters.addCondition cond))
      (Filter.Builder.InPlace.on_extend c.filters [cond])
  | addGroup g =>
    exact InPlace.on_touching_onFilters c (r := .ok (c.filters.addGroup g))
      (Filter.Builder.InPlace.on_addGroup c.filters g)
  | addPostFilter g =>
    rw [Change.perform, Change.apply, addPostFilter]
    cases g.isEmpty <;> rfl
  | addIds ids =>
    have hon : (onFilters (Filter.Builder.InPlace.addIds e.idField ids)).on c = _ :=
      InPlace.on_onFilters c _
    rw [Filter.Builder.InPlace.on_addIds] at hon
    rw [Change.perform, Change.apply, addIds]
    cases hids : c.filters.addIds e.idField ids with
    | error err =>
      rw [hids] at hon
      exact Call.on_bind_error hon
    | ok p =>
      rw [hids] at hon
      exact Call.on_bind hon
  | setPage number limit =>
    rw [Change.perform, Change.apply, setPage]
    cases Page.make number limit <;> rfl
  | applyJson doc =>
    rw [Change.perform, Change.apply, applyJson]
    refine (Call.on_lift_bind (g := fun w : Wire.Contract => w.resolve >>= fun incoming =>
      .ok (c.apply incoming w.page.isSome, .done)) fun w => Call.on_lift_bind fun incoming =>
        InPlace.on_join c incoming w.page.isSome).trans ?_
    cases Wire.readContract doc with
    | error e => rfl
    | ok w =>
      show Call.settle c (w.resolve >>= _) = Call.settle c (Except.map _ (w.resolve >>= _))
      cases w.resolve <;> rfl
  | _ => rfl

end Collection

end EntityStore
