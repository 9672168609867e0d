-- Scrolling through the records of a search: each search goes on after the
-- identity of the last record that the one before it gave, until one gives
-- nothing more. Where searches show records in the order of identities, all
-- of them are shown, each once.
import EntityStore.Proofs.Calls
import EntityStore.Proofs.Value.Kinds
import EntityStore.Store.Basic

namespace EntityStore

open Call (Gives)

/-! ## Runs of searches -/

/-- The same criteria for the records after an identity. -/
def Criteria.after (c : Criteria) (last : Value) : Criteria := { c with scrollAfter := some last }

/-- The criteria take records as they are, and ask for so many at a time. -/
structure Criteria.Scrolls (c : Criteria) (limit : Nat) : Prop where
  joins : c.joins = []
  included : c.included = []
  excluded : c.excluded = []
  rawItems : c.rawItems = []
  distinct : c.distinct = false
  groupBy : c.groupBy = []
  collapse : c.collapse = none
  page : c.page.limit = some limit

/-- From a state and after an identity, searches one after the other give
these pages, until a page is empty. Each goes on after the last record of the
one before it. -/
inductive Scrolled {σ : Type} (search : Criteria → Call σ Outcome) (idField : String)
    (c : Criteria) : Value → σ → List (List (Fields Json)) → Prop
  | done {last : Value} {s t : σ} {out : Outcome} :
      (search (c.after last)).on s = (.ok out, t) → out.rows = [] →
      Scrolled search idField c last s []
  | next {last : Value} {s t : σ} {out : Outcome} {row : Fields Json} {id : Json}
      {pages : List (List (Fields Json))} :
      (search (c.after last)).on s = (.ok out, t) → out.rows.getLast? = some row →
      row.get? idField = some id → Scrolled search idField c (.ofJson id) t pages →
      Scrolled search idField c last s (out.rows :: pages)

/-! ## The order of identities -/

section

variable {ι : Type} {id : ι → Value} {items : List ι}

/-- Items have different whole numbers as identities, and all of them are above
a value. -/
structure Numbered (id : ι → Value) (start : Value) (items : List ι) : Prop where
  integers : ∀ a ∈ items, Kind.integer.Has (id a)
  distinct : items.Pairwise fun a b => id a ≠ id b
  above : ∀ a ∈ items, Value.compares Ordering.isGT (id a) start = true

theorem ne_of_not_beq (h : items.Pairwise fun a b => (id a == id b) = false) :
    items.Pairwise fun a b => id a ≠ id b := by
  refine h.imp fun hne heq => ?_
  rw [heq, Value.beq_self] at hne
  cases hne

/-- One identity comes before another one. -/
def Value.precedes (v w : Value) : Bool := (order v w).isLT

theorem Value.isGT_order (v w : Value) : (order v w).isGT = precedes w v := by
  rw [precedes, ← order_swap v w]
  cases order v w <;> rfl

theorem Value.not_precedes_of_precedes {v w : Value} (h : precedes v w = true) :
    precedes w v = false := by
  rw [← isGT_order]
  unfold precedes at h
  cases horder : order v w <;> rw [horder] at h <;> first | rfl | cases h

/-- A query finds a greater whole number where it comes behind. -/
theorem isGT_compares {v w : Value} (hv : Kind.integer.Has v) (hw : Kind.integer.Has w) :
    Value.compares Ordering.isGT w v = Value.precedes v w := by
  rw [Value.compares, hw.compare hv, Option.any_some, Value.isGT_order]

theorem Value.not_precedes_self (v : Value) : precedes v v = false := by
  cases h : precedes v v with
  | false => rfl
  | true => rw [← h, not_precedes_of_precedes h]

theorem Kind.precedes_of_ne {v w : Value} (hv : Kind.integer.Has v) (hw : Kind.integer.Has w)
    (hne : v ≠ w) (hle : (Value.order v w).isLE = true) : Value.precedes v w = true := by
  obtain ⟨a, rfl⟩ := hv.eq_int
  obtain ⟨b, rfl⟩ := hw.eq_int
  have hnot : Value.order (.int a) (.int b) ≠ .eq := by
    intro heq
    exact hne ((hv.beq_iff hw).mp (by show (Value.order _ _).isEq = true; rw [heq]; rfl))
  unfold Value.precedes
  cases horder : Value.order (.int a) (.int b) with
  | lt => rfl
  | eq => exact absurd horder hnot
  | gt =>
    rw [horder] at hle
    cases hle

/-- The whole number that a value is. -/
def Value.number : Value → Int
  | .int n => n
  | _ => 0

theorem Kind.Has.isLE_order {v w : Value} (hv : Kind.integer.Has v) (hw : Kind.integer.Has w) :
    (Value.order v w).isLE = decide (v.number ≤ w.number) := by
  obtain ⟨m, rfl⟩ := hv.eq_int
  obtain ⟨n, rfl⟩ := hw.eq_int
  rw [Value.order, Value.number, Value.number]
  exact Bool.eq_iff_iff.mpr (by rw [Int.isLE_compare, decide_eq_true_eq])

/-- Items with different whole numbers as identities, sorted by them, come in
their strict order. -/
theorem precedes_of_mergeSort {le : ι → ι → Bool} (hints : ∀ a ∈ items, Kind.integer.Has (id a))
    (hdistinct : items.Pairwise fun a b => id a ≠ id b)
    (hle : ∀ a ∈ items, ∀ b ∈ items, le a b = (Value.order (id a) (id b)).isLE) :
    (items.mergeSort le).Pairwise fun a b => Value.precedes (id a) (id b) = true := by
  have horder : ∀ a ∈ items, ∀ b ∈ items,
      le a b = decide ((id a).number ≤ (id b).number) := by
    intro a ha b hb
    rw [hle a ha b hb, (hints a ha).isLE_order (hints b hb)]
  have hsorted : ((items.map fun a => (id a).number).mergeSort fun m n =>
      decide (m ≤ n)).Pairwise (· ≤ ·) :=
    (List.pairwise_mergeSort (by simpa using fun a b c => Int.le_trans)
      (by simpa using fun a b => Int.le_total a b) _).imp (by simp)
  rw [← List.map_mergeSort horder, List.pairwise_map] at hsorted
  have hne : (items.mergeSort le).Pairwise fun a b => id a ≠ id b :=
    ((List.mergeSort_perm items le).pairwise_iff fun h => h.symm).mpr hdistinct
  refine (hsorted.and hne).imp_of_mem fun {a b} ha hb hab => ?_
  have ha := List.mem_mergeSort.mp ha
  have hb := List.mem_mergeSort.mp hb
  refine Kind.precedes_of_ne (hints a ha) (hints b hb) hab.2 ?_
  rw [← hle a ha b hb, horder a ha b hb, decide_eq_true_eq]
  exact hab.1

/-- Sorted items that pass a test are the items that pass it, sorted. -/
theorem mergeSort_filter {le : ι → ι → Bool} (hints : ∀ a ∈ items, Kind.integer.Has (id a))
    (hdistinct : items.Pairwise fun a b => id a ≠ id b)
    (hle : ∀ a ∈ items, ∀ b ∈ items, le a b = (Value.order (id a) (id b)).isLE) (p : ι → Bool) :
    (items.filter p).mergeSort le = (items.mergeSort le).filter p := by
  have hmem : ∀ a ∈ items.filter p, a ∈ items := fun a ha => (List.mem_filter.mp ha).1
  have hsorted := precedes_of_mergeSort (fun a ha => hints a (hmem a ha)) (hdistinct.filter p)
    fun a ha b hb => hle a (hmem a ha) b (hmem b hb)
  refine List.Perm.eq_of_pairwise (fun a b _ _ hab hba => ?_) hsorted
    ((precedes_of_mergeSort hints hdistinct hle).filter p) ?_
  · rw [Value.not_precedes_of_precedes hab] at hba
    cases hba
  · exact (List.mergeSort_perm _ le).trans ((List.mergeSort_perm items le).filter p).symm

/-- What one of some sorted items precedes are the items behind it. -/
theorem filter_precedes {before behind : List ι} {a : ι}
    (h : (before ++ a :: behind).Pairwise fun a b => Value.precedes (id a) (id b) = true) :
    (before ++ a :: behind).filter (fun b => Value.precedes (id a) (id b)) = behind := by
  obtain ⟨-, hrest, hbefore⟩ := List.pairwise_append.mp h
  rw [List.pairwise_cons] at hrest
  have hnone : before.filter (fun b => Value.precedes (id a) (id b)) = [] := by
    rw [List.filter_eq_nil_iff]
    intro b hb
    rw [Value.not_precedes_of_precedes (hbefore b hb a List.mem_cons_self)]
    exact nofun
  rw [List.filter_append, hnone, List.nil_append, List.filter_cons,
    Value.not_precedes_self, if_neg nofun,
    List.filter_eq_self.mpr hrest.1]

/-! ## Whole runs -/

variable {σ : Type} {P : σ → Prop} {search : Criteria → Call σ Outcome} {c : Criteria}
  {idField : String} {shown : ι → Fields Json} {limit : Nat}

/-- A run of searches that starts after a value ends, and shows each item that
matches once, in the order of identities. -/
def ScrollsThrough (search : Criteria → Call σ Outcome) (idField : String) (c : Criteria)
    (start : Value) (s : σ) (id : ι → Value) (shown : ι → Fields Json) (items : List ι)
    (Matches : ι → Prop) : Prop :=
  ∃ (found : List ι) (pages : List (List (Fields Json))),
    Scrolled search idField c start s pages ∧ pages.flatten = found.map shown ∧
      (found.Pairwise fun a b => Value.precedes (id a) (id b) = true) ∧
      ∀ a, a ∈ found ↔ a ∈ items ∧ Matches a

/-- From each state of a kind a search gives these rows, and the state stays of
the kind. -/
def Call.GivesRows (P : σ → Prop) (call : Call σ Outcome) (rows : List (Fields Json)) : Prop :=
  ∃ out, Gives P call (some out) ∧ out.rows = rows

/-- A run that has still to show the last items of a list shows them. -/
theorem scrolled_rest (hlimit : 0 < limit) (hints : ∀ a ∈ items, Kind.integer.Has (id a))
    (hsorted : items.Pairwise fun a b => Value.precedes (id a) (id b) = true)
    (hshown : ∀ a ∈ items, (shown a).get? idField = some (id a).toJson)
    (hnext : ∀ a ∈ items, Call.GivesRows P (search (c.after (id a)))
      (((items.filter fun b => Value.precedes (id a) (id b)).take limit).map shown))
    (n : Nat) : ∀ (before rest : List ι) (last : Value) (s : σ), rest.length ≤ n →
      items = before ++ rest → P s →
      Call.GivesRows P (search (c.after last)) ((rest.take limit).map shown) →
      ∃ pages, Scrolled search idField c last s pages ∧ pages.flatten = rest.map shown := by
  induction n with
  | zero =>
    rintro before rest last s hlength - hs ⟨out, hgives, hrows⟩
    obtain ⟨t, hon, -⟩ := hgives.exists_ok hs
    obtain rfl := List.length_eq_zero_iff.mp (Nat.le_zero.mp hlength)
    rw [List.take_nil, List.map_nil] at hrows
    exact ⟨[], .done hon hrows, rfl⟩
  | succ n ih =>
    rintro before rest last s hlength hitems hs ⟨out, hgives, hrows⟩
    obtain ⟨t, hon, ht⟩ := hgives.exists_ok hs
    rcases List.eq_nil_or_concat (rest.take limit) with hnil | ⟨begun, a, hpage⟩
    · have hrest : rest = [] := by
        rw [List.take_eq_nil_iff] at hnil
        exact hnil.resolve_left (by omega)
      rw [hnil, List.map_nil] at hrows
      exact ⟨[], .done hon hrows, by rw [hrest]; rfl⟩
    · have hbehind : items = (before ++ begun) ++ a :: rest.drop limit :=
        calc items = before ++ (rest.take limit ++ rest.drop limit) := by
              rw [List.take_append_drop, hitems]
          _ = (before ++ begun) ++ a :: rest.drop limit := by
              rw [hpage]
              simp
      have ha : a ∈ items := by
        rw [hbehind]
        exact List.mem_append_right _ List.mem_cons_self
      have hgoes := hnext a ha
      have hfilter : (items.filter fun b => Value.precedes (id a) (id b)) = rest.drop limit := by
        rw [hbehind] at hsorted ⊢
        exact filter_precedes hsorted
      rw [hfilter] at hgoes
      have hshorter : (rest.drop limit).length ≤ n := by
        rw [List.length_drop]
        have := congrArg List.length hpage
        rw [List.length_take, List.length_concat] at this
        omega
      obtain ⟨pages, hscrolled, hflat⟩ := ih (before ++ begun ++ [a]) (rest.drop limit) (id a) t
        hshorter (by rw [hbehind]; simp) ht hgoes
      have hlast : out.rows.getLast? = some (shown a) := by
        rw [hrows, hpage]
        simp
      refine ⟨out.rows :: pages, .next hon hlast (hshown a ha) ?_, ?_⟩
      · rw [(hints a ha).ofJson_toJson]
        exact hscrolled
      · rw [List.flatten_cons, hflat, hrows, ← List.map_append, List.take_append_drop]

/-- Where searches show sorted items that the last identity precedes, as many
as the limit, a run that starts before all of them shows each of them once. -/
theorem scrolled_of_gives (hlimit : 0 < limit) (hints : ∀ a ∈ items, Kind.integer.Has (id a))
    (hsorted : items.Pairwise fun a b => Value.precedes (id a) (id b) = true)
    (hshown : ∀ a ∈ items, (shown a).get? idField = some (id a).toJson) {start : Value} {s : σ}
    (hs : P s)
    (hfirst : Call.GivesRows P (search (c.after start)) ((items.take limit).map shown))
    (hnext : ∀ a ∈ items, Call.GivesRows P (search (c.after (id a)))
      (((items.filter fun b => Value.precedes (id a) (id b)).take limit).map shown)) :
    ∃ pages, Scrolled search idField c start s pages ∧ pages.flatten = items.map shown :=
  scrolled_rest hlimit hints hsorted hshown hnext items.length [] items start s
    (Nat.le_refl _) rfl hs hfirst

end

end EntityStore
