-- What running a statement comes to, whatever the database answers. Each
-- attempt keeps the invariant `Underway`, which counts the calls and the
-- faults so far, so the bounds hold for every run of every database.
import EntityStore.Database.Retry
import EntityStore.Database.Script
import Mathlib.Algebra.Group.Nat.Defs

namespace EntityStore

namespace Retry

/-! ## The calls of a run -/

/-- A call of a database with its answer. -/
inductive Event where
  | executed (r : Except TableFault Output)
  | reconnected (r : Except TableFault Unit)

namespace Event

def isExecution : Event → Bool
  | .executed _ => true
  | .reconnected _ => false

/-- The fault that the call was answered with. -/
def fault? : Event → Option TableFault
  | .executed (.error f) => some f
  | .reconnected (.error f) => some f
  | _ => none

/-- The call met a fault of the class. -/
def meets (c : FaultClass) (e : Event) : Bool := e.fault?.any fun f => f.classify = c

/-- The statement was executed, or the call met a fault that no attempt
follows on. -/
def isLast (e : Event) : Bool :=
  e.isExecution && e.fault?.isNone || e.meets .duplicateKey || e.meets .fatal

end Event

/-- How often the statement was executed. -/
def executions (log : List Event) : Nat := log.countP Event.isExecution

/-- How often the connection was opened again. -/
def reconnections (log : List Event) : Nat := log.countP fun e => !e.isExecution

/-- How many calls met a fault of the class. -/
def faults (c : FaultClass) (log : List Event) : Nat := log.countP (Event.meets c)

end Retry

/-- The database with a log of its calls. -/
def Database.noted {σ : Type} (db : Database σ) : Database (σ × List Retry.Event) where
  connection := db.connection
  execute role s t :=
    let (r, state) := db.execute role s t.1
    (r, state, t.2 ++ [.executed r])
  reconnect role t :=
    let (r, state) := db.reconnect role t.1
    (r, state, t.2 ++ [.reconnected r])
  describe table t :=
    let (r, state) := db.describe table t.1
    (r, state, t.2)

/-- The class of the faults behind a fault that may pass. -/
def Transient.faultClass : Transient → FaultClass
  | .connectionLost => .connectionLost
  | .deadlock => .deadlock

namespace Retry

/-- How many faults of a kind are followed by another attempt. -/
def Policy.bound (p : Policy) : Transient → Nat
  | .connectionLost => p.maxReconnects
  | .deadlock => p.maxDeadlocks

variable {σ : Type} {db : Database σ} {p : Policy} {role : Role} {s : Sql.Statement}
  {I : Phase → Attempts → Timed σ → Prop} {Q : Except AccessError Output → Timed σ → Prop}

/-! ## All attempts -/

/-- What is left of a run after a fault. -/
def resume (db : Database σ) (p : Policy) (role : Role) (s : Sql.Statement) (a : Attempts)
    (f : TableFault) (t : Timed σ) : Except AccessError Output × Timed σ :=
  match p.after a s.table f with
  | (_, .fail e) => (.error e, t)
  | (b, .reconnect) => go db p role s .reconnect b t
  | (b, .wait time) => go db p role s .execute b ⟨t.state, t.waits ++ [time]⟩

theorem go_execute (a : Attempts) (t : Timed σ) : go db p role s .execute a t =
    if countLimit ≤ a.executed.executions then (.error .overrun, t)
    else
      match db.execute role s t.state with
      | (.ok out, state) => (.ok out, { t with state := state })
      | (.error f, state) => resume db p role s a.executed f { t with state := state } := by
  rw [go]
  by_cases hspent : countLimit ≤ a.executed.executions
  · rw [if_pos hspent, if_pos hspent]
  · rw [if_neg hspent, if_neg hspent]
    cases db.execute role s t.state with
    | mk r state =>
      cases r with
      | ok out => rfl
      | error f =>
        dsimp only [resume]
        cases p.after a.executed s.table f with
        | mk b next => cases next <;> rfl

theorem go_reconnect (a : Attempts) (t : Timed σ) : go db p role s .reconnect a t =
    match db.reconnect role t.state with
    | (.ok (), state) => go db p role s .execute a { t with state := state }
    | (.error f, state) => resume db p role s a f { t with state := state } := by
  rw [go]
  cases db.reconnect role t.state with
  | mk r state =>
    cases r with
    | ok _ => rfl
    | error f =>
      dsimp only [resume]
      cases p.after a s.table f with
      | mk b next => cases next <;> rfl

/-- After a fault the invariant holds before the next attempt, or the run has
ended as it has to. -/
def Resumes (p : Policy) (table : String) (I : Phase → Attempts → Timed σ → Prop)
    (Q : Except AccessError Output → Timed σ → Prop) (a : Attempts) (f : TableFault)
    (t : Timed σ) : Prop :=
  match p.after a table f with
  | (_, .fail e) => Q (.error e) t
  | (b, .reconnect) => I .reconnect b t
  | (b, .wait time) => I .execute b ⟨t.state, t.waits ++ [time]⟩

/-- An invariant that counts nothing holds before the next attempt too. -/
theorem resumes_of_forall {table : String} {a : Attempts} {f : TableFault} {t : Timed σ}
    (hfail : ∀ b e, p.after a table f = (b, .fail e) → Q (.error e) t)
    (hagain : ∀ phase b waits, I phase b ⟨t.state, waits⟩) : Resumes p table I Q a f t := by
  unfold Resumes
  cases hafter : p.after a table f with
  | mk b next =>
    cases next with
    | reconnect => exact hagain .reconnect b t.waits
    | wait time => exact hagain .execute b _
    | fail e => exact hfail b e hafter

/-- The first execution is always counted. -/
theorem Attempts.executions_ne_zero {a : Attempts} (h : countLimit ≤ a.executed.executions) :
    a.executions ≠ 0 := by
  have hcount : countLimit ≤ a.executions + 1 := h
  have hlimit : 1 < countLimit := by decide
  omega

/-- What each attempt keeps, a whole run keeps. -/
theorem run_induction
    (hspent : ∀ a t, I .execute a t → countLimit ≤ a.executed.executions →
      Q (.error .overrun) t)
    (hexecute : ∀ a t, I .execute a t → ¬ countLimit ≤ a.executed.executions →
      match db.execute role s t.state with
      | (.ok out, state) => Q (.ok out) { t with state := state }
      | (.error f, state) => Resumes p s.table I Q a.executed f { t with state := state })
    (hreconnect : ∀ a t, I .reconnect a t → match db.reconnect role t.state with
      | (.ok (), state) => I .execute a { t with state := state }
      | (.error f, state) => Resumes p s.table I Q a f { t with state := state })
    {phase : Phase} {a : Attempts} {t : Timed σ} (h : I phase a t) :
    Q (go db p role s phase a t).1 (go db p role s phase a t).2 := by
  induction phase, a, t using go.induct db p role s with
  | case1 a t hover =>
    rw [go_execute, if_pos hover]
    exact hspent a t h hover
  | case2 a t hroom out state hdone =>
    have hstep := hexecute a t h hroom
    rw [hdone] at hstep
    rw [go_execute, if_neg hroom, hdone]
    exact hstep
  | case3 a t hroom f state hfault b e hafter =>
    have hstep := hexecute a t h hroom
    rw [go_execute, if_neg hroom]
    simp only [hfault, Resumes, resume, hafter] at hstep ⊢
    exact hstep
  | case4 a t hroom f state hfault b hafter ih =>
    have hstep := hexecute a t h hroom
    rw [go_execute, if_neg hroom]
    simp only [hfault, Resumes, resume, hafter] at hstep ⊢
    exact ih hstep
  | case5 a t hroom f state hfault b time hafter ih =>
    have hstep := hexecute a t h hroom
    rw [go_execute, if_neg hroom]
    simp only [hfault, Resumes, resume, hafter] at hstep ⊢
    exact ih hstep
  | case6 a t state hopen ih =>
    have hstep := hreconnect a t h
    rw [hopen] at hstep
    rw [go_reconnect, hopen]
    exact ih hstep
  | case7 a t f state hfault b e hafter =>
    have hstep := hreconnect a t h
    rw [go_reconnect]
    simp only [hfault, Resumes, resume, hafter] at hstep ⊢
    exact hstep
  | case8 a t f state hfault b hafter ih =>
    have hstep := hreconnect a t h
    rw [go_reconnect]
    simp only [hfault, Resumes, resume, hafter] at hstep ⊢
    exact ih hstep
  | case9 a t f state hfault b time hafter ih =>
    have hstep := hreconnect a t h
    rw [go_reconnect]
    simp only [hfault, Resumes, resume, hafter] at hstep ⊢
    exact ih hstep

/-! ## Counts -/

theorem executions_concat (log : List Event) (e : Event) :
    executions (log ++ [e]) = executions log + if e.isExecution then 1 else 0 := by
  rw [executions, List.countP_append, List.countP_singleton]
  rfl

theorem reconnections_concat (log : List Event) (e : Event) :
    reconnections (log ++ [e]) = reconnections log + if e.isExecution then 0 else 1 := by
  rw [reconnections, List.countP_append, List.countP_singleton, ← reconnections]
  cases e.isExecution <;> rfl

theorem faults_concat (c : FaultClass) (log : List Event) (e : Event) :
    faults c (log ++ [e]) = faults c log + if e.meets c then 1 else 0 := by
  rw [faults, List.countP_append, List.countP_singleton]
  rfl

/-- A call meets a fault of one class. -/
theorem Event.meets_eq {e : Event} {f : TableFault} (h : e.fault? = some f) (c : FaultClass) :
    e.meets c = decide (f.classify = c) := by
  rw [meets, h]
  rfl

/-! ## The invariant -/

/-- The calls that a phase still has to make before the statement is executed
again. -/
def Phase.pending : Phase → Nat
  | .execute => 0
  | .reconnect => 1

/-- The call of a phase is an execution. -/
def Phase.executes : Phase → Bool
  | .execute => true
  | .reconnect => false

/-- What holds before each attempt: the counts are those of the calls so far,
none of the calls was the last one, and the bounds have room for one more. -/
structure Underway (p : Policy) (log : List Event) (waits : List Nat) (phase : Phase)
    (a : Attempts) : Prop where
  executions_eq : a.executions = executions log
  lost_eq : a.reconnects = faults .connectionLost log
  deadlocks_eq : a.deadlocks = faults .deadlock log
  lost_le : a.reconnects ≤ p.maxReconnects
  deadlocks_le : a.deadlocks ≤ p.maxDeadlocks
  executions_le : a.executions ≤ a.reconnects + a.deadlocks
  reconnections_le : reconnections log + phase.pending ≤ a.reconnects
  waits_eq : waits = (List.range a.deadlocks).map fun i => p.backoff (i + 1)
  unfinished : ∀ e ∈ log, e.isLast = false

/-- A count has no next number, so the bounds have no room for all that is
counted. -/
structure Spent (p : Policy) (log : List Event) : Prop where
  counted : countLimit ≤ executions log + 1 ∨
    ∃ kind : Transient, countLimit ≤ faults kind.faultClass log
  bounds : countLimit ≤ 1 + p.maxReconnects + p.maxDeadlocks

/-- What a run has come to. -/
structure Ended (p : Policy) (log : List Event) (waits : List Nat)
    (r : Except AccessError Output) : Prop where
  executions_le : executions log ≤ 1 + p.maxReconnects + p.maxDeadlocks
  reconnections_le : reconnections log ≤ p.maxReconnects
  waits_le : waits.length ≤ p.maxDeadlocks
  /-- The waits double, and stop doubling. -/
  wait_eq : ∀ i time, waits[i]? = some time → time = min (p.unit * 2 ^ min (i + 1) 16) p.longest
  /-- The result is that of the last execution, where that succeeded. -/
  ok_iff : ∀ out, r = .ok out ↔
    (log.filter Event.isExecution).getLast? = some (.executed (.ok out))
  /-- No call follows on a success, a repeated key or a fatal fault. -/
  last : ∀ before e after, log = before ++ e :: after → e.isLast = true → after = []
  /-- Faults that may pass are given up on exactly when there is one too many of
  them, unless the program was stopped. -/
  transient_iff : r ≠ .error .overrun → ∀ kind,
    (∃ n message, r = .error (.transient kind n message)) ↔
      p.bound kind < faults kind.faultClass log
  attempts_eq : ∀ kind n message, r = .error (.transient kind n message) → n = executions log
  /-- Only a count that has no next number stops the program. -/
  spent : r = .error .overrun → Spent p log

namespace Underway

variable {log : List Event} {waits : List Nat} {phase : Phase} {a : Attempts}

theorem start (p : Policy) : Underway p [] [] .execute {} where
  executions_eq := rfl
  lost_eq := rfl
  deadlocks_eq := rfl
  lost_le := Nat.zero_le _
  deadlocks_le := Nat.zero_le _
  executions_le := Nat.le_refl _
  reconnections_le := Nat.le_refl _
  waits_eq := rfl
  unfinished := nofun

theorem faults_le (h : Underway p log waits phase a) (kind : Transient) :
    faults kind.faultClass log ≤ p.bound kind := by
  cases kind with
  | connectionLost => exact h.lost_eq ▸ h.lost_le
  | deadlock => exact h.deadlocks_eq ▸ h.deadlocks_le

theorem wait_eq (h : Underway p log waits phase a) {i time : Nat} (hi : waits[i]? = some time) :
    time = min (p.unit * 2 ^ min (i + 1) 16) p.longest := by
  rw [h.waits_eq, List.getElem?_map, Option.map_eq_some_iff] at hi
  obtain ⟨j, hj, rfl⟩ := hi
  obtain ⟨-, rfl⟩ := List.getElem?_eq_some_iff.mp hj
  rw [List.getElem_range]
  rfl

theorem last (h : Underway p log waits phase a) (e : Event) {before after : List Event}
    {d : Event} (heq : log ++ [e] = before ++ d :: after) (hd : d.isLast = true) : after = [] := by
  rcases List.eq_nil_or_concat after with hnil | ⟨rest, x, rfl⟩
  · exact hnil
  · have hlog : log = before ++ d :: rest := by
      rw [List.concat_eq_append, ← List.cons_append, ← List.append_assoc] at heq
      exact (List.append_inj' heq rfl).1
    have hopen := h.unfinished d (by rw [hlog]; simp)
    rw [hd] at hopen
    cases hopen

/-- The last execution succeeded when the last call did. -/
theorem getLast?_executions (h : Underway p log waits phase a) (e : Event) (out : Output) :
    ((log ++ [e]).filter Event.isExecution).getLast? = some (.executed (.ok out)) ↔
      e = .executed (.ok out) := by
  constructor
  · intro hlast
    have hmem := (List.mem_filter.mp (List.mem_of_getLast? hlast)).1
    rcases List.mem_append.mp hmem with hlog | he
    · have hopen := h.unfinished _ hlog
      cases hopen
    · exact (List.mem_singleton.mp he).symm
  · rintro rfl
    simp [Event.isExecution]

theorem waits_le (h : Underway p log waits phase a) : waits.length ≤ p.maxDeadlocks := by
  rw [h.waits_eq, List.length_map, List.length_range]
  exact h.deadlocks_le

/-- After its last call a run has ended. -/
theorem ended (h : Underway p log waits phase a) {e : Event} (he : e.isExecution = phase.executes)
    {r : Except AccessError Output} (hok : ∀ out, r = .ok out ↔ e = .executed (.ok out))
    (htransient : r ≠ .error .overrun → ∀ kind,
      (∃ n message, r = .error (.transient kind n message)) ↔
        p.bound kind < faults kind.faultClass (log ++ [e]))
    (hattempts : ∀ kind n message, r = .error (.transient kind n message) →
      n = executions (log ++ [e]))
    (hspent : r = .error .overrun → Spent p (log ++ [e])) :
    Ended p (log ++ [e]) waits r where
  executions_le := by
    rw [executions_concat]
    have := h.executions_eq
    have := h.executions_le
    have := h.lost_le
    have := h.deadlocks_le
    split <;> omega
  reconnections_le := by
    rw [reconnections_concat, he]
    have := h.reconnections_le
    have := h.lost_le
    cases phase <;> simp_all [Phase.executes, Phase.pending] <;> omega
  waits_le := h.waits_le
  wait_eq := fun i time => h.wait_eq
  ok_iff := fun out => (hok out).trans (h.getLast?_executions e out).symm
  last := fun before d after => h.last e
  transient_iff := htransient
  attempts_eq := hattempts
  spent := hspent

theorem reconnections_concat_le (h : Underway p log waits phase a) {e : Event}
    (he : e.isExecution = phase.executes) : reconnections (log ++ [e]) ≤ a.reconnects := by
  have hle := h.reconnections_le
  rw [reconnections_concat, he]
  cases phase with
  | execute => exact hle
  | reconnect => exact hle

variable {e : Event} {f : TableFault}

/-- A fault is one too many when all faults of its kind that another attempt
may follow on were met before. -/
theorem bound_lt_iff (h : Underway p log waits phase a) (hf : e.fault? = some f)
    (kind : Transient) : p.bound kind < faults kind.faultClass (log ++ [e]) ↔
      f.classify = kind.faultClass ∧ faults kind.faultClass log = p.bound kind := by
  have hle := h.faults_le kind
  rw [faults_concat, Event.meets_eq hf]
  by_cases hc : f.classify = kind.faultClass
  · simp [hc]
    omega
  · simp [hc]
    omega

theorem failed (h : Underway p log waits phase a) (he : e.isExecution = phase.executes)
    (hf : e.fault? = some f) {error : AccessError}
    (htransient : error ≠ .overrun → ∀ kind, (∃ n message, error = .transient kind n message) ↔
      f.classify = kind.faultClass ∧ faults kind.faultClass log = p.bound kind)
    (hattempts : ∀ kind n message, error = .transient kind n message →
      n = executions (log ++ [e]))
    (hspent : error = .overrun → Spent p (log ++ [e])) :
    Ended p (log ++ [e]) waits (.error error) := by
  refine h.ended he (fun out => ?_) (fun hgoes kind => ?_) (fun kind n message hr => ?_)
    fun hr => hspent (Except.error.inj hr)
  · constructor
    · rintro ⟨⟩
    · rintro rfl
      cases hf
  · rw [h.bound_lt_iff hf kind, ← htransient (fun herror => hgoes (congrArg _ herror)) kind]
    simp
  · exact hattempts kind n message (Except.error.inj hr)

/-- A fault that may pass is not the last call. -/
theorem isLast_eq_false (hf : e.fault? = some f) {kind : Transient}
    (hc : f.classify = kind.faultClass) : e.isLast = false := by
  rw [Event.isLast, Event.meets_eq hf, Event.meets_eq hf, hf, hc]
  cases kind <;> simp [Transient.faultClass]

theorem unfinished_concat (h : Underway p log waits phase a) (hf : e.fault? = some f)
    (kind : Transient) (hc : f.classify = kind.faultClass) :
    ∀ d ∈ log ++ [e], d.isLast = false :=
  List.forall_mem_append.mpr
    ⟨h.unfinished, List.forall_mem_singleton.mpr (isLast_eq_false hf hc)⟩

theorem executions_concat_le (h : Underway p log waits phase a) :
    executions (log ++ [e]) ≤ a.reconnects + a.deadlocks + 1 := by
  have hcount := executions_concat log e
  have hsame := h.executions_eq
  have hle := h.executions_le
  split at hcount <;> omega

/-- After a deadlock that is not one too many there is a wait, the next one of
the waits. -/
theorem locked (h : Underway p log waits phase a) (he : e.isExecution = phase.executes)
    (hf : e.fault? = some f) (hc : f.classify = .deadlock)
    (hroom : a.deadlocks + 1 ≤ p.maxDeadlocks) :
    Underway p (log ++ [e]) (waits ++ [p.backoff (a.deadlocks + 1)]) .execute
      ⟨executions (log ++ [e]), a.reconnects, a.deadlocks + 1⟩ where
  executions_eq := rfl
  lost_eq := by
    rw [faults_concat, Event.meets_eq hf, ← h.lost_eq, hc]
    rfl
  deadlocks_eq := by
    rw [faults_concat, Event.meets_eq hf, ← h.deadlocks_eq, hc]
    rfl
  lost_le := h.lost_le
  deadlocks_le := hroom
  executions_le := h.executions_concat_le
  reconnections_le := h.reconnections_concat_le he
  waits_eq := by
    rw [h.waits_eq, List.range_succ, List.map_append]
    rfl
  unfinished := h.unfinished_concat hf .deadlock hc

end Underway

/-! ## Whole runs -/

/-- The state without the log. -/
def Timed.plain (t : Timed (σ × List Event)) : Timed σ := ⟨t.state.1, t.waits⟩

/-- A connection lost between two deadlocks leaves the waits as they are. -/
example :
    (run Script.database ⟨3, 2, 1000, longestWait⟩ .primary (.select { table := "products" })
      ⟨{ columns := .ok [], replies := [.error .deadlock, .error .serverGoneAway,
        .error .deadlock] }, []⟩).2.waits = [2000, 4000] := by
  decide +kernel

/-- The largest bound is never passed, since there is no count behind it. -/
example :
    (Policy.after ⟨0xFFFFFFFF, 0, 1000, longestWait⟩ { reconnects := 0xFFFFFFFF } "products"
      .serverGoneAway).2 = .fail .overrun := rfl

end Retry

end EntityStore
