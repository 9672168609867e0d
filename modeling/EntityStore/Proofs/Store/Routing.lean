-- Which connection the statements of a store run on. A write runs on the primary, and so
-- does all that its call executes after it. Other reads run where the router sends reads,
-- and no call leaves a scope open.
import EntityStore.Proofs.Batch.Creating
import EntityStore.Proofs.Batch.Locks
import EntityStore.Proofs.Batch.Upserting
import EntityStore.Proofs.Store.Faults
import EntityStore.Proofs.Store.Tracing

namespace EntityStore

open Call (Ends Leads Keeps)

/-! ## Routers -/

namespace Router

theorem route_true (r : Router) : r.route true = .primary := rfl

theorem route_force (r : Router) (write : Bool) : r.force.route write = .primary := by
  simp [route, isForced, force]

theorem release_force (r : Router) : r.force.release = r := rfl

theorem route_eq (r : Router) (write : Bool) : r.route write =
    if write then .primary
    else if r.readReplicas ∧ r.forced = 0 then .replica else .primary := by
  cases write <;> cases hreplicas : r.readReplicas <;> cases hforced : r.forced <;>
    simp [route, isForced, hreplicas, hforced]

end Router

/-! ## Traces -/

/-- A write was executed in the last call of the trace. -/
def wroteSince (trace : List Note) : Bool :=
  trace.foldl (fun wrote note => match note with
    | .call => false
    | .executed _ s => s.isWrite || wrote) false

theorem wroteSince_call (trace : List Note) : wroteSince (trace ++ [.call]) = false := by
  rw [wroteSince, List.foldl_concat]

theorem wroteSince_executed (trace : List Note) (role : Role) (s : Sql.Statement) :
    wroteSince (trace ++ [.executed role s]) = (s.isWrite || wroteSince trace) := by
  rw [wroteSince, List.foldl_concat]
  rfl

/-- A router sends each statement of the trace where it ran, once a write and
all that follows it in its call count as writes. -/
def Routed (home : Router) (trace : List Note) : Prop :=
  ∀ before role s after, trace = before ++ .executed role s :: after →
    role = home.route (s.isWrite || wroteSince before)

namespace Routed

variable {home : Router} {trace : List Note}

theorem nil : Routed home [] := by
  intro before role s after h
  cases before <;> cases h

theorem concat (h : Routed home trace) {note : Note}
    (hnote : ∀ role s, note = .executed role s →
      role = home.route (s.isWrite || wroteSince trace)) : Routed home (trace ++ [note]) := by
  intro before role s after heq
  rcases List.eq_nil_or_concat after with rfl | ⟨rest, last, rfl⟩
  · obtain ⟨rfl, hlast⟩ := List.append_inj' heq rfl
    exact hnote role s (List.singleton_inj.mp hlast)
  · rw [List.concat_eq_append, ← List.cons_append, ← List.append_assoc] at heq
    exact h before role s rest (List.append_inj' heq rfl).1

theorem called (h : Routed home trace) : Routed home (trace ++ [.call]) :=
  h.concat fun _ _ heq => by cases heq

theorem executed (h : Routed home trace) {role : Role} {s : Sql.Statement}
    (hrole : role = home.route (s.isWrite || wroteSince trace)) :
    Routed home (trace ++ [.executed role s]) := by
  apply h.concat
  rintro _ _ ⟨⟩
  exact hrole

end Routed

/-! ## Statements -/

/-- Once the statement was executed, its call has written if it had before or if
the statement is a write. Before that an execution makes it so. -/
def Retry.Settles (s : Sql.Statement) (wrote : Bool) (trace : List Note) : Phase → Prop
  | .execute => (s.isWrite || wroteSince trace) = (s.isWrite || wrote)
  | .reconnect => wroteSince trace = (s.isWrite || wrote)

/-- Each attempt of a statement runs on one connection, so a run is routed when
its first attempt is. -/
theorem Retry.routed_run {σ : Type} (db : Database σ) (p : Policy) {role : Role}
    {s : Sql.Statement} {home : Router} {wrote : Bool}
    (hrole : role = home.route (s.isWrite || wrote)) {t : Timed (σ × List Note)}
    (hrouted : Routed home t.state.2) (hwrote : wroteSince t.state.2 = wrote) :
    Routed home (run db.traced p role s t).2.state.2 ∧
      wroteSince (run db.traced p role s t).2.state.2 = (s.isWrite || wrote) := by
  -- Only the first attempt meets a trace without the statement, and a connection is not
  -- opened again before it.
  refine run_induction
    (I := fun phase a (u : Timed (σ × List Note)) =>
      Routed home u.state.2 ∧ Settles s wrote u.state.2 phase ∧
        (a.executions ≠ 0 → wroteSince u.state.2 = (s.isWrite || wrote)))
    (Q := fun _ u => Routed home u.state.2 ∧ wroteSince u.state.2 = (s.isWrite || wrote))
    ?_ ?_ ?_ ⟨hrouted, by rw [Settles, hwrote], fun hne => absurd rfl hne⟩
  · rintro a u ⟨hrouted, -, hlater⟩ hspent
    exact ⟨hrouted, hlater (Attempts.executions_ne_zero hspent)⟩
  · rintro a u ⟨hrouted, hwrote, -⟩ -
    have hafter : Routed home (u.state.2 ++ [.executed role s]) ∧
        wroteSince (u.state.2 ++ [.executed role s]) = (s.isWrite || wrote) :=
      ⟨hrouted.executed (by rw [hrole, hwrote]), by rw [wroteSince_executed, hwrote]⟩
    have hcall : db.traced.execute role s u.state = ((db.execute role s u.state.1).1,
      (db.execute role s u.state.1).2, u.state.2 ++ [.executed role s]) := rfl
    rw [hcall]
    cases (db.execute role s u.state.1).1 with
    | ok out => exact hafter
    | error f =>
      refine resumes_of_forall (fun _ _ _ => hafter) fun phase _ _ =>
        ⟨hafter.1, ?_, fun _ => hafter.2⟩
      cases phase with
      | execute =>
        rw [Settles, hafter.2, ← Bool.or_assoc, Bool.or_self]
      | reconnect => exact hafter.2
  · rintro a u ⟨hrouted, hwrote, -⟩
    have hcall : db.traced.reconnect role u.state = ((db.reconnect role u.state.1).1,
      (db.reconnect role u.state.1).2, u.state.2) := rfl
    have hagain : (s.isWrite || wroteSince u.state.2) = (s.isWrite || wrote) := by
      rw [hwrote, ← Bool.or_assoc, Bool.or_self]
    rw [hcall]
    cases (db.reconnect role u.state.1).1 with
    | ok _ => exact ⟨hrouted, hagain, fun _ => hwrote⟩
    | error f =>
      refine resumes_of_forall (fun _ _ _ => ⟨hrouted, hwrote⟩) fun phase _ _ =>
        ⟨hrouted, ?_, fun _ => hwrote⟩
      cases phase with
      | execute => exact hagain
      | reconnect => exact hwrote

namespace Relational

variable {σ α : Type} {home router : Router} {wrote : Bool}

/-! ## Calls under way -/

/-- The router is this one, and so far each statement ran where the router
that the first call met sends it. -/
structure Follows (home router : Router) (s : State (σ × List Note)) : Prop where
  router_eq : s.router = router
  routed : Routed home s.trace

/-- The call under way has written, or not. -/
structure Steers (home router : Router) (wrote : Bool) (s : State (σ × List Note)) : Prop extends
    Follows home router s where
  wrote_eq : wroteSince s.trace = wrote

variable (r : Relational σ)

/-- A look at the columns executes no statement. -/
theorem keeps_traced_columns : Keeps (Steers home router wrote) r.traced.columns := by
  intro s hs
  have hdescribe : (r.traced.describe s.timed).2.state.2 = s.trace := by
    unfold describe
    split <;> rename_i hcall <;> exact congrArg (fun x => x.2.2) hcall.symm
  have htrace : (r.traced.columns.on s).2.trace = s.trace := by
    rcases s.cache.fetch_state ⟨r.traced.database.connection, r.traced.entity.storage⟩
      r.traced.describe s.timed with hsame | hasked
    · exact congrArg (fun t => t.state.2) hsame
    · exact (congrArg (fun t => t.state.2) hasked).trans hdescribe
  have hrouter : (r.traced.columns.on s).2.router = s.router := rfl
  have hkept : Steers home router wrote (r.traced.columns.on s).2 :=
    ⟨⟨hrouter.trans hs.router_eq, by rw [htrace]; exact hs.routed⟩,
      by rw [htrace]; exact hs.wrote_eq⟩
  split <;> rename_i hcall <;> rwa [hcall] at hkept

theorem leads_traced_run (statement : Sql.Statement)
    (hrole : router.route statement.isWrite = home.route (statement.isWrite || wrote)) :
    Leads (Steers home router wrote) (r.traced.run statement)
      (fun _ => Steers home router (statement.isWrite || wrote))
      (Steers home router (statement.isWrite || wrote)) := by
  intro s hs
  have hrole' : s.router.route statement.isWrite = home.route (statement.isWrite || wrote) := by
    rw [hs.router_eq, hrole]
  have hran := Retry.routed_run r.database (.ofSettings r.settings) hrole' hs.routed hs.wrote_eq
  have hafter : Steers home router (statement.isWrite || wrote) ((r.traced.run statement).on s).2 :=
    ⟨⟨hs.router_eq, hran.1⟩, hran.2⟩
  split <;> rename_i hcall <;> rwa [hcall] at hafter

theorem leads_traced_write {statement : Sql.Statement} (hwrite : statement.isWrite = true) :
    Leads (Steers home home wrote) (r.traced.run statement) (fun _ => Steers home home true)
      (Follows home home) := by
  have hwrote : (statement.isWrite || wrote) = true := by rw [hwrite, Bool.true_or]
  have hrole : home.route statement.isWrite = home.route (statement.isWrite || wrote) := by
    rw [hwrote, hwrite]
  have hran := r.leads_traced_run statement hrole
  rw [hwrote] at hran
  exact hran.weakenError fun _ hs => hs.toFollows

theorem keeps_traced_search (hrole : router.route false = home.route wrote) (c : Criteria) :
    Keeps (Steers home router wrote) (r.traced.search c) := by
  refine keeps_search_of r.keeps_traced_columns (fun statement hread => ?_) c
  have hwrote : (statement.isWrite || wrote) = wrote := by rw [hread, Bool.false_or]
  have hran := r.leads_traced_run statement (by rw [hwrote, hread]; exact hrole)
  rwa [hwrote] at hran

omit r in
theorem keeps_pinned {c : Call (State (σ × List Note)) α}
    (h : Keeps (Steers home home.force wrote) c) :
    Keeps (Steers home home wrote) (onPrimary c) := by
  intro s hs
  have hforced := h.on (s := { s with router := s.router.force })
    ⟨⟨congrArg Router.force hs.router_eq, hs.routed⟩, hs.wrote_eq⟩
  have hreleased : Steers home home wrote ((onPrimary c).on s).2 :=
    ⟨⟨(congrArg Router.release hforced.router_eq).trans home.release_force, hforced.routed⟩,
      hforced.wrote_eq⟩
  split <;> rename_i hcall <;> rwa [hcall] at hreleased

/-- Where nothing was written there is nothing to confirm. -/
theorem keeps_traced_confirm {docs : List (Fields Json)} (h : wrote = true ∨ docs = [])
    (field : String) : Keeps (Steers home home wrote) (r.traced.confirm field docs) := by
  refine Call.Keeps.bind (keeps_pinned ?_) fun _ => Call.keeps_pure _
  rcases h with rfl | rfl
  · exact Store.keeps_findWith
      (r.keeps_traced_search ((home.route_force false).trans home.route_true.symm)) _ _
  · exact Call.keeps_pure _

/-! ## Whole calls -/

/-- A call looks at the columns and says what it executes. It may fail before it
executes anything. -/
theorem leads_said {β : Type} (say : Columns → Except AccessError α)
    {f : α → Call (State (σ × List Note)) β}
    (hf : ∀ columns x, say columns = .ok x →
      Leads (Steers home home false) (f x) (fun _ => Follows home home) (Follows home home)) :
    Leads (Steers home home false) (do f (← Call.lift (say (← r.traced.columns))))
      (fun _ => Follows home home) (Follows home home) :=
  (r.keeps_traced_columns.leads fun _ hs => hs.toFollows).bind fun columns =>
    Call.leads_lift_bind (fun _ hs => hs.toFollows) fun x hx => hf columns x hx

theorem leads_traced_insertion (s : Sql.Insert) (field : String) (docs : List (Fields Json)) :
    Leads (Steers home home false)
      (do let _ ← r.traced.run (.insert s); r.traced.confirm field docs)
      (fun _ => Follows home home) (Follows home home) :=
  (r.leads_traced_write rfl).bind fun _ => (r.keeps_traced_confirm (.inl rfl) field).weaken
    (fun _ _ hs => hs.toFollows) fun _ hs => hs.toFollows

theorem leads_traced_updates (statements : List Sql.Update) :
    Leads (Steers home home wrote)
      (statements.forM fun s => do let _ ← r.traced.run (.update s))
      (fun _ => Steers home home (wrote || !statements.isEmpty)) (Follows home home) := by
  induction statements generalizing wrote with
  | nil => exact Call.leads_pure fun s hs => by rwa [List.isEmpty_nil, Bool.not_true, Bool.or_false]
  | cons s statements ih =>
    rw [List.isEmpty_cons, Bool.not_false, Bool.or_true]
    exact Leads.bind (R := fun _ => Steers home home true)
      ((r.leads_traced_write rfl).bind fun _ => Call.leads_pure fun _ hs => hs) fun _ => ih

theorem leads_traced_update (changes : List (Value × Fields Json)) :
    Leads (Steers home home false) (r.traced.update changes) (fun _ => Follows home home)
      (Follows home home) := by
  refine r.leads_said (fun columns => changes.mapM _) fun columns statements h => ?_
  refine (r.leads_traced_updates statements).bind fun _ => ?_
  refine (r.keeps_traced_confirm ?_ _).weaken (fun _ _ hs => hs.toFollows) fun _ hs => hs.toFollows
  -- Without a statement there is no change to be confirmed.
  have hlength := length_of_mapM h
  cases statements with
  | nil => exact .inr (by rw [List.eq_nil_of_length_eq_zero hlength.symm]; rfl)
  | cons s statements => exact .inl rfl

omit r in
theorem keeps_noting {c : Call (State (σ × List Note)) α}
    (h : Leads (Steers home home false) c (fun _ => Follows home home) (Follows home home)) :
    Keeps (Follows home home) (noting c) :=
  fun s hs => h s.called ⟨⟨hs.router_eq, hs.routed.called⟩, wroteSince_call s.trace⟩

end Relational

/-- What all calls of a store keep, its batches keep. -/
theorem Store.keeps_work {σ α : Type} {st : Store σ} {P : σ → Prop}
    (hsearch : ∀ c, Keeps P (st.search c)) (hinsert : ∀ docs, Keeps P (st.insert docs))
    (hupsert : ∀ docs field updated, Keeps P (st.upsert docs field updated))
    (hupdate : ∀ changes, Keeps P (st.update changes))
    (hdelete : ∀ groups, Keeps P (st.delete groups)) (w : Work α) : Keeps P (w.on st) := by
  have hfound (field : String) (vs : List Value) : Ends P (st.findBy field vs)
      (fun _ s => True ∧ P s) fun _ => P :=
    Ends.weaken (keeps_findWith hsearch field vs) (fun _ _ hs => ⟨trivial, hs⟩) fun _ _ hs => hs
  cases w with
  | search c => exact hsearch c
  | insert docs => exact hinsert docs
  | upsert docs field updated => exact hupsert docs field updated
  | update changes => exact hupdate changes
  | delete groups => exact hdelete groups
  | createBatch b =>
    exact (Batch.ends_create_of (Q := fun _ => P) (fun _ _ hs => hs) hsearch
      (hinsert b.items)).weaken (fun _ _ ⟨_, hs, _⟩ => hs) fun _ _ hs => hs
  | updateBatch b =>
    exact (Batch.ends_update_of (Q := fun _ => P) (fun _ _ hs => hs) (fun _ _ hs => hs) hsearch
      (hfound _ _) fun _ _ _ => hupdate _).weaken (fun _ _ ⟨_, _, _, hs⟩ => hs) fun _ _ hs => hs
  | upsertBatch b =>
    exact (Batch.ends_upsert_of (Q := fun _ => P) (fun _ _ hs => hs) (fun _ _ hs => hs) hsearch
      (hfound _ _) fun _ _ _ => hupsert _ _ _).weaken (fun _ _ ⟨_, _, _, hs⟩ => hs)
        fun _ _ hs => hs

namespace Relational

variable {σ α : Type}

theorem keeps_tracedStore (r : Relational σ) {home : Router} (w : Work α) :
    Keeps (Follows home home) (w.on r.tracedStore) := by
  refine Store.keeps_work (fun c => ?_) (fun docs => ?_) (fun docs field updated => ?_)
    (fun changes => ?_) (fun groups => ?_) w
  · exact keeps_noting ((r.keeps_traced_search rfl c).weaken (fun _ _ hs => hs.toFollows)
      fun _ hs => hs.toFollows)
  · exact keeps_noting (r.leads_said (fun columns => (r.traced.scope columns).insert docs [])
      fun _ s _ => r.leads_traced_insertion s _ docs)
  · exact keeps_noting (r.leads_said (fun columns => (r.traced.scope columns).insert docs updated)
      fun _ s _ => r.leads_traced_insertion s field docs)
  · exact keeps_noting (r.leads_traced_update changes)
  · exact keeps_noting (r.leads_said (fun columns => (r.traced.scope columns).delete groups)
      fun _ s _ => (r.leads_traced_write rfl).bind fun _ =>
        Call.leads_pure fun _ hs => hs.toFollows)

/-- Whatever a store is asked for and whatever its database answers, each write runs on
the primary, and so does each statement that its call executes after a write.
Another statement runs on the replica when replicas may be read and no scope asks
for the primary. After the work as many scopes are open as before it. -/
theorem writes_and_what_confirms_them_run_on_the_primary (r : Relational σ) (w : Work α)
    (s : State σ) :
    ∃ result t, (w.on r.tracedStore).on s.traced = (result, t) ∧
      (w.on r.store).on s = (result, t.untraced) ∧ t.router = s.router ∧
      ∀ before role statement after,
        t.trace = before ++ .executed role statement :: after →
        role = if statement.isWrite || wroteSince before then .primary
          else if s.router.readReplicas ∧ s.router.forced = 0 then .replica else .primary := by
  have hfollows : Follows s.router s.router s.traced := ⟨rfl, Routed.nil⟩
  have hafter := (r.keeps_tracedStore w).on hfollows
  refine ⟨_, _, rfl, r.mirrors_tracedStore.work w s.traced, hafter.router_eq, ?_⟩
  intro before role statement after htrace
  rw [hafter.routed before role statement after htrace, Router.route_eq]

end Relational

end EntityStore
