-- What calls end in. A call that starts in a state of one kind ends in a
-- state of another, whether it gives a result or fails. Where no matter which
-- error it fails with, it is said to lead there.
import EntityStore.Call

namespace EntityStore.Call

variable {σ α β : Type} {P E E' : σ → Prop} {c : Call σ α}

/-- From a state in `P` the call gives a result in a state that satisfy `Q`
together, or fails with an error in a state that satisfy `F` together. -/
def Ends (P : σ → Prop) (c : Call σ α) (Q : α → σ → Prop) (F : AccessError → σ → Prop) : Prop :=
  ∀ s, P s → match c.on s with
    | (.ok x, t) => Q x t
    | (.error e, t) => F e t

/-- From a state in `P` the call gives a result in a state that satisfy `Q`
together, or fails in a state in `E`. -/
def Leads (P : σ → Prop) (c : Call σ α) (Q : α → σ → Prop) (E : σ → Prop) : Prop :=
  Ends P c Q fun _ => E

/-- Whatever the call does, its state stays in `P`. -/
def Keeps (P : σ → Prop) (c : Call σ α) : Prop := Leads P c (fun _ => P) P

section

variable {Q : α → σ → Prop} {F F' : AccessError → σ → Prop}

theorem Ends.of_ok {s t : σ} {x : α} (h : Ends P c Q F) (hs : P s) (hon : c.on s = (.ok x, t)) :
    Q x t := by
  have hend := h s hs
  rw [hon] at hend
  exact hend

theorem Ends.of_error {s t : σ} {e : AccessError} (h : Ends P c Q F) (hs : P s)
    (hon : c.on s = (.error e, t)) : F e t := by
  have hend := h s hs
  rw [hon] at hend
  exact hend

/-- What a call ends in may be said with less. -/
theorem Ends.weaken {Q' : α → σ → Prop} (h : Ends P c Q F) (hQ : ∀ x s, Q x s → Q' x s)
    (hF : ∀ e s, F e s → F' e s) : Ends P c Q' F' := by
  intro s hs
  split
  · rename_i x t hon
    exact hQ x t (h.of_ok hs hon)
  · rename_i e t hon
    exact hF e t (h.of_error hs hon)

/-- A call from one state ends in what it gives there. -/
theorem Ends.startingAt {s : σ} (h : Ends P c Q F) (hs : P s) :
    Ends (fun t => t = s) c (fun x t => (c.on s).1 = .ok x ∧ Q x t) F := by
  rintro _ rfl
  split
  · rename_i x t hon
    exact ⟨by rw [hon], h.of_ok hs hon⟩
  · rename_i e t hon
    exact h.of_error hs hon

/-- What is said of a call twice holds together. -/
theorem Ends.and {P' : σ → Prop} {Q' : α → σ → Prop} (h : Ends P c Q F) (h' : Ends P' c Q' F') :
    Ends (fun s => P s ∧ P' s) c (fun x s => Q x s ∧ Q' x s) fun e s => F e s ∧ F' e s := by
  rintro s ⟨hs, hs'⟩
  split
  · rename_i x t hon
    exact ⟨h.of_ok hs hon, h'.of_ok hs' hon⟩
  · rename_i e t hon
    exact ⟨h.of_error hs hon, h'.of_error hs' hon⟩

end

theorem Leads.of_ok {Q : α → σ → Prop} {s t : σ} {x : α} (h : Leads P c Q E) (hs : P s)
    (hon : c.on s = (.ok x, t)) : Q x t :=
  Ends.of_ok h hs hon

theorem Leads.of_error {Q : α → σ → Prop} {s t : σ} {e : AccessError} (h : Leads P c Q E)
    (hs : P s) (hon : c.on s = (.error e, t)) : E t :=
  Ends.of_error h hs hon

/-- What a call leads to may be said with less. -/
theorem Leads.weaken {Q Q' : α → σ → Prop} (h : Leads P c Q E) (hQ : ∀ x s, Q x s → Q' x s)
    (hE : ∀ s, E s → E' s) : Leads P c Q' E' :=
  Ends.weaken h hQ fun _ => hE

theorem Leads.weakenError {Q : α → σ → Prop} (h : Leads P c Q E) (hE : ∀ s, E s → E' s) :
    Leads P c Q E' :=
  h.weaken (fun _ _ hQ => hQ) hE

/-- A call from one state leads to what it gives there. -/
theorem Leads.startingAt {Q : α → σ → Prop} {s : σ} (h : Leads P c Q E) (hs : P s) :
    Leads (fun t => t = s) c (fun x t => (c.on s).1 = .ok x ∧ Q x t) E :=
  Ends.startingAt h hs

/-- A call that cannot fail gives a result. -/
theorem Leads.exists_ok {Q : α → σ → Prop} {s : σ} (h : Leads P c Q E) (hs : P s)
    (hE : ∀ t, ¬ E t) : ∃ x t, c.on s = (.ok x, t) ∧ Q x t := by
  cases hon : c.on s with
  | mk r t =>
    cases r with
    | ok x => exact ⟨x, t, rfl, h.of_ok hs hon⟩
    | error e => exact absurd (h.of_error hs hon) (hE t)

theorem exists_of_isOk {s : σ} (h : (c.on s).1.isOk = true) : ∃ x t, c.on s = (.ok x, t) := by
  cases hon : c.on s with
  | mk r t =>
    rw [hon] at h
    cases r with
    | ok x => exact ⟨x, t, rfl⟩
    | error e => cases h

/-- The call fails with an error that passes the test. -/
def failsWith (c : Call σ α) (s : σ) (test : AccessError → Bool) : Bool :=
  match (c.on s).1 with
  | .ok _ => false
  | .error e => test e

theorem exists_of_failsWith {s : σ} {test : AccessError → Bool} (h : c.failsWith s test = true) :
    ∃ e t, c.on s = (.error e, t) ∧ test e = true := by
  unfold failsWith at h
  cases hon : c.on s with
  | mk r t =>
    rw [hon] at h
    cases r with
    | ok x => cases h
    | error e => exact ⟨e, t, rfl, h⟩

/-! ## Single steps -/

theorem ends_lift {Q : α → σ → Prop} {F : AccessError → σ → Prop} {r : Except AccessError α}
    (hok : ∀ x, r = .ok x → ∀ s, P s → Q x s) (herror : ∀ e, r = .error e → ∀ s, P s → F e s) :
    Ends P (lift r) Q F := by
  intro s hs
  rw [on_lift]
  cases r with
  | ok x => exact hok x rfl s hs
  | error e => exact herror e rfl s hs

theorem ends_pure {Q : α → σ → Prop} {F : AccessError → σ → Prop} {x : α}
    (h : ∀ s, P s → Q x s) : Ends P (pure x) Q F :=
  fun s hs => h s hs

theorem leads_pure {Q : α → σ → Prop} {x : α} (h : ∀ s, P s → Q x s) : Leads P (pure x) Q E :=
  ends_pure h

theorem leads_throw {Q : α → σ → Prop} {e : AccessError} (h : ∀ s, P s → E s) :
    Leads P (throw e) Q E :=
  fun s hs => h s hs

theorem leads_lift {Q : α → σ → Prop} {r : Except AccessError α}
    (hok : ∀ x, r = .ok x → ∀ s, P s → Q x s) (herror : ∀ e, r = .error e → ∀ s, P s → E s) :
    Leads P (lift r) Q E :=
  ends_lift hok herror

/-! ## Steps together -/

theorem on_bind_error {f : α → Call σ β} {s t : σ} {e : AccessError}
    (h : c.on s = (.error e, t)) : on (c >>= f) s = (.error e, t) := by
  have hc : c s = (.error e, t) := h
  simp only [on, Bind.bind, ExceptT.bind, ExceptT.mk, StateT.bind, hc]
  rfl

/-- A call of two steps gives a result when both do. -/
theorem exists_of_on_bind {f : α → Call σ β} {s u : σ} {y : β}
    (h : on (c >>= f) s = (.ok y, u)) : ∃ x t, c.on s = (.ok x, t) ∧ (f x).on t = (.ok y, u) := by
  cases hon : c.on s with
  | mk r t =>
    cases r with
    | ok x =>
      rw [on_bind hon] at h
      exact ⟨x, t, rfl, h⟩
    | error e =>
      rw [on_bind_error hon] at h
      cases h

theorem Ends.bind {f : α → Call σ β} {R : α → σ → Prop} {Q : β → σ → Prop}
    {F : AccessError → σ → Prop} (hc : Ends P c R F) (hf : ∀ x, Ends (R x) (f x) Q F) :
    Ends P (c >>= f) Q F := by
  intro s hs
  cases hon : c.on s with
  | mk r t =>
    cases r with
    | ok x =>
      rw [on_bind hon]
      exact hf x t (hc.of_ok hs hon)
    | error e =>
      rw [on_bind_error hon]
      exact hc.of_error hs hon

/-- A call whose result is known goes on with that result. -/
theorem Ends.andThen {f : α → Call σ β} {x : α} {R : σ → Prop} {Q : β → σ → Prop}
    {F : AccessError → σ → Prop} (hc : Ends P c (fun y s => y = x ∧ R s) F)
    (hf : Ends R (f x) Q F) : Ends P (c >>= f) Q F := by
  apply hc.bind
  rintro y s ⟨rfl, hs⟩
  exact hf s hs

/-- What does not look at the state goes on with its result, if it has one. -/
theorem ends_lift_bind {r : Except AccessError α} {f : α → Call σ β} {Q : β → σ → Prop}
    {F : AccessError → σ → Prop} (herror : ∀ e, r = .error e → ∀ s, P s → F e s)
    (hf : ∀ x, r = .ok x → Ends P (f x) Q F) : Ends P (lift r >>= f) Q F := by
  refine (ends_lift (Q := fun x s => r = .ok x ∧ P s) ?_ herror).bind fun x s h => ?_
  · exact fun x hx s hs => ⟨hx, hs⟩
  · exact hf x h.1 s h.2

theorem Leads.bind {f : α → Call σ β} {R : α → σ → Prop} {Q : β → σ → Prop}
    (hc : Leads P c R E) (hf : ∀ x, Leads (R x) (f x) Q E) : Leads P (c >>= f) Q E :=
  Ends.bind hc hf

/-- A call whose result is known goes on with that result. -/
theorem Leads.andThen {f : α → Call σ β} {x : α} {R : σ → Prop} {Q : β → σ → Prop}
    (hc : Leads P c (fun y s => y = x ∧ R s) E) (hf : Leads R (f x) Q E) :
    Leads P (c >>= f) Q E :=
  Ends.andThen hc hf

/-- What does not look at the state goes on with its result, if it has one. -/
theorem leads_lift_bind {r : Except AccessError α} {f : α → Call σ β} {Q : β → σ → Prop}
    (herror : ∀ s, P s → E s) (hf : ∀ x, r = .ok x → Leads P (f x) Q E) :
    Leads P (lift r >>= f) Q E :=
  ends_lift_bind (fun _ _ => herror) hf

/-! ## What is kept -/

theorem Keeps.leads (h : Keeps P c) (hE : ∀ s, P s → E s) : Leads P c (fun _ => P) E :=
  Leads.weakenError h hE

theorem Keeps.on {s : σ} (h : Keeps P c) (hs : P s) : P (c.on s).2 := by
  have hkept := h s hs
  split at hkept <;> rename_i hon <;> rwa [hon]

theorem keeps_pure (x : α) : Keeps P (pure x) := leads_pure fun _ hs => hs

theorem keeps_lift (r : Except AccessError α) : Keeps P (lift r) :=
  leads_lift (fun _ _ _ hs => hs) fun _ _ _ hs => hs

theorem Keeps.bind {f : α → Call σ β} (hc : Keeps P c) (hf : ∀ x, Keeps P (f x)) :
    Keeps P (c >>= f) :=
  Leads.bind hc hf

/-- A list of calls keeps what each of them keeps. -/
theorem ends_mapM {f : α → Call σ β} {F : AccessError → σ → Prop} {xs : List α}
    (hf : ∀ x ∈ xs, Ends P (f x) (fun _ => P) F) : Ends P (xs.mapM f) (fun _ => P) F := by
  induction xs with
  | nil => exact ends_pure fun _ hs => hs
  | cons x xs ih =>
    rw [List.forall_mem_cons] at hf
    rw [List.mapM_cons]
    exact hf.1.bind fun _ => (ih hf.2).bind fun _ => ends_pure fun _ hs => hs

/-- What all results of a list of calls show is what it is for each call. -/
theorem map_eq_of_on_mapM {γ : Type} {f : α → Call σ β} {g : β → γ} {k : α → γ}
    (hf : ∀ x s y t, (f x).on s = (.ok y, t) → g y = k x) {xs : List α} {ys : List β} {s t : σ}
    (h : (xs.mapM f).on s = (.ok ys, t)) : ys.map g = xs.map k := by
  induction xs generalizing ys s t with
  | nil =>
    obtain rfl := Except.ok.inj (Prod.mk.inj h).1
    rfl
  | cons x xs ih =>
    rw [List.mapM_cons] at h
    obtain ⟨y, s₁, hy, h⟩ := exists_of_on_bind h
    obtain ⟨rest, s₂, hrest, h⟩ := exists_of_on_bind h
    obtain rfl := Except.ok.inj (Prod.mk.inj h).1
    rw [List.map_cons, List.map_cons, hf x s y s₁ hy, ih hrest]

/-! ## What is given from all states of a kind -/

/-- From each state in `P` the call gives the same result, or fails where there
is none, and its state stays in `P`. -/
def Gives (P : σ → Prop) (c : Call σ α) (x : Option α) : Prop :=
  ∀ s, P s → (c.on s).1.toOption = x ∧ P (c.on s).2

theorem Gives.exists_ok {x : α} {s : σ} (h : Gives P c (some x)) (hs : P s) :
    ∃ t, c.on s = (.ok x, t) ∧ P t := by
  obtain ⟨hx, ht⟩ := h s hs
  cases hon : c.on s with
  | mk r t =>
    rw [hon] at hx ht
    cases r with
    | ok y => exact ⟨t, by rw [Option.some.inj hx], ht⟩
    | error e => cases hx

theorem Gives.of_ok {x : Option α} {y : α} {s : σ} (h : Gives P c x) (hs : P s)
    (hon : (c.on s).1 = .ok y) : x = some y := by
  rw [← (h s hs).1, hon]
  rfl

theorem Gives.congr {x y : Option α} (h : Gives P c x) (hxy : x = y) : Gives P c y := hxy ▸ h

/-- A call that cannot fail gives what it leads to. -/
theorem Leads.gives {x : α} (h : Leads P c (fun y s => y = x ∧ P s) fun _ => False) :
    Gives P c (some x) := by
  intro s hs
  obtain ⟨_, t, hon, rfl, ht⟩ := h.exists_ok hs fun _ => id
  rw [hon]
  exact ⟨rfl, ht⟩

theorem gives_pure (x : α) : Gives P (pure x) (some x) := fun _ hs => ⟨rfl, hs⟩

theorem gives_lift (r : Except AccessError α) : Gives P (lift r) r.toOption :=
  fun _ hs => ⟨rfl, hs⟩

theorem Gives.bind {f : α → Call σ β} {x : Option α} {y : α → Option β} (hc : Gives P c x)
    (hf : ∀ a, Gives P (f a) (y a)) : Gives P (c >>= f) (x.bind y) := by
  intro s hs
  obtain ⟨hx, ht⟩ := hc s hs
  cases hon : c.on s with
  | mk r t =>
    rw [hon] at hx ht
    subst hx
    cases r with
    | ok a =>
      rw [on_bind hon]
      exact hf a t ht
    | error e =>
      rw [on_bind_error hon]
      exact ⟨rfl, ht⟩

/-- A list of calls gives the list of what they give. -/
theorem gives_mapM {f : α → Call σ β} {g : α → Option β} {xs : List α}
    (hf : ∀ x ∈ xs, Gives P (f x) (g x)) : Gives P (xs.mapM f) (xs.mapM g) := by
  induction xs with
  | nil => exact gives_pure []
  | cons x xs ih =>
    rw [List.forall_mem_cons] at hf
    rw [List.mapM_cons, List.mapM_cons]
    exact hf.1.bind fun _ => (ih hf.2).bind fun _ => gives_pure _

end EntityStore.Call
