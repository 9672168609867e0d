-- What a stored row takes over from a row that comes in, and rows that have
-- primary keys of one kind, all different.
import EntityStore.Proofs.Tables.Inserting
import EntityStore.Proofs.Value.Kinds

namespace EntityStore

namespace Tables

/-! ## Taking over -/

/-- A column has a value, up to the difference of numbers like 1 and 1.0. -/
def Shows (row : Row) (c : String) (v : Value) : Prop := ∃ w, row.get? c = some w ∧ (w == v) = true

theorem get?_assign_of_ne {row : Row} {c d : String} {v : Value} (h : d ≠ c) :
    (assign row c v).1.get? d = row.get? d := by
  unfold assign
  split
  · rfl
  · exact (Fields.get?_insert ..).trans (if_neg h)

theorem shows_assign (row : Row) (c : String) (v : Value) : Shows (assign row c v).1 c v := by
  unfold assign
  split
  · rename_i hsame
    cases hget : row.get? c with
    | none => rw [hget] at hsame; cases hsame
    | some w =>
      rw [hget] at hsame
      exact ⟨w, hget, hsame⟩
  · exact ⟨v, Fields.get?_insert_self .., Value.beq_self v⟩

/-- A value that is there already is not written again. -/
theorem assign_of_shows {row : Row} {c : String} {v : Value} (h : Shows row c v) :
    (assign row c v).1 = row := by
  obtain ⟨w, hget, heq⟩ := h
  have hsame : (row.get? c == some v) = true := by rw [hget]; exact heq
  rw [assign, if_pos hsame]

/-- One assignment after the other, without the note of what has changed. -/
theorem assignAll_cons (row : Row) (p : String × Value) (ps : List (String × Value)) :
    (assignAll row (p :: ps)).1 = (assignAll (assign row p.1 p.2).1 ps).1 := by
  let step (s : Row × Bool) (p : String × Value) : Row × Bool :=
    ((assign s.1 p.1 p.2).1, s.2 || (assign s.1 p.1 p.2).2)
  have hfold : ∀ (row : Row) (a b : Bool),
      (ps.foldl step (row, a)).1 = (ps.foldl step (row, b)).1 := by
    induction ps with
    | nil => exact fun _ _ _ => rfl
    | cons q ps ih => exact fun row a b => ih ..
  exact hfold _ _ _

theorem get?_assignAll_of_not_mem {c : String} {ps : List (String × Value)} (row : Row)
    (h : ∀ p ∈ ps, p.1 ≠ c) : (assignAll row ps).1.get? c = row.get? c := by
  induction ps generalizing row with
  | nil => rfl
  | cons p ps ih =>
    rw [List.forall_mem_cons] at h
    rw [assignAll_cons, ih _ h.2, get?_assign_of_ne h.1.symm]

/-- A column that shows what it is assigned keeps its value. -/
theorem get?_assignAll_of_shows {row : Row} {c : String} {ps : List (String × Value)}
    (h : ∀ p ∈ ps, p.1 = c → Shows row c p.2) : (assignAll row ps).1.get? c = row.get? c := by
  induction ps generalizing row with
  | nil => rfl
  | cons p ps ih =>
    rw [List.forall_mem_cons] at h
    have hfirst : (assign row p.1 p.2).1.get? c = row.get? c := by
      by_cases hp : p.1 = c
      · rw [hp, assign_of_shows (h.1 hp)]
      · exact get?_assign_of_ne (Ne.symm hp)
    rw [assignAll_cons, ih, hfirst]
    intro q hq hqc
    obtain ⟨w, hw, heq⟩ := h.2 q hq hqc
    exact ⟨w, hfirst.trans hw, heq⟩

theorem shows_assignAll {c : String} {v : Value} {ps : List (String × Value)} (row : Row)
    (hvalue : ∀ p ∈ ps, p.1 = c → p.2 = v) (h : Shows row c v ∨ ∃ p ∈ ps, p.1 = c) :
    Shows (assignAll row ps).1 c v := by
  induction ps generalizing row with
  | nil =>
    rcases h with h | ⟨p, hp, -⟩
    · exact h
    · cases hp
  | cons p ps ih =>
    rw [List.forall_mem_cons] at hvalue
    rw [assignAll_cons]
    apply ih _ hvalue.2
    by_cases hp : p.1 = c
    · rw [← hp, ← hvalue.1 hp]
      exact .inl (shows_assign ..)
    · rcases h with ⟨w, hw, heq⟩ | ⟨q, hq, hqc⟩
      · exact .inl ⟨w, (get?_assign_of_ne (Ne.symm hp)).trans hw, heq⟩
      · rcases List.mem_cons.mp hq with rfl | hq
        · exact absurd hqc hp
        · exact .inr ⟨q, hq, hqc⟩

/-- A column keeps its value or takes the one that it is assigned. -/
theorem get?_assignAll_eq_or {c : String} {v : Value} {ps : List (String × Value)} (row : Row)
    (hvalue : ∀ p ∈ ps, p.1 = c → p.2 = v) :
    (assignAll row ps).1.get? c = row.get? c ∨ (assignAll row ps).1.get? c = some v := by
  induction ps generalizing row with
  | nil => exact .inl rfl
  | cons p ps ih =>
    rw [List.forall_mem_cons] at hvalue
    have hfirst : (assign row p.1 p.2).1.get? c = row.get? c ∨
        (assign row p.1 p.2).1.get? c = some v := by
      by_cases hp : p.1 = c
      · rw [← hvalue.1 hp, hp, assign]
        split
        · exact .inl rfl
        · exact .inr (Fields.get?_insert_self ..)
      · exact .inl (get?_assign_of_ne (Ne.symm hp))
    rw [assignAll_cons]
    rcases ih _ hvalue.2 with hrest | hrest
    · rwa [hrest]
    · exact .inr hrest

theorem assignAll_of_shows {row : Row} {ps : List (String × Value)}
    (h : ∀ p ∈ ps, Shows row p.1 p.2) : (assignAll row ps).1 = row := by
  induction ps with
  | nil => rfl
  | cons p ps ih =>
    rw [List.forall_mem_cons] at h
    rw [assignAll_cons, assign_of_shows h.1]
    exact ih h.2

theorem mem_takeOver {incoming : Row} {columns : List String} {p : String × Value} :
    p ∈ takeOver incoming columns ↔ p.1 ∈ columns ∧ incoming.get? p.1 = some p.2 := by
  unfold takeOver
  rw [List.mem_filterMap]
  constructor
  · rintro ⟨c, hc, hp⟩
    obtain ⟨v, hv, rfl⟩ := Option.map_eq_some_iff.mp hp
    exact ⟨hc, hv⟩
  · rintro ⟨hc, hv⟩
    exact ⟨p.1, hc, by rw [hv]; rfl⟩

/-- The stored row after another one with its key came in. -/
def takeFrom (onDuplicate : List String) (row incoming : Row) : Row :=
  (assignAll row (takeOver incoming onDuplicate)).1

variable {onDuplicate : List String} {row incoming : Row} {c : String}

theorem get?_takeFrom_of_not_mem (h : c ∉ onDuplicate) :
    (takeFrom onDuplicate row incoming).get? c = row.get? c := by
  apply get?_assignAll_of_not_mem
  rintro p hp rfl
  exact h (mem_takeOver.mp hp).1

theorem get?_takeFrom_of_shows (h : ∀ v, incoming.get? c = some v → Shows row c v) :
    (takeFrom onDuplicate row incoming).get? c = row.get? c := by
  apply get?_assignAll_of_shows
  rintro p hp rfl
  exact h p.2 (mem_takeOver.mp hp).2

theorem shows_takeFrom (h : c ∈ onDuplicate) {v : Value} (hv : incoming.get? c = some v) :
    Shows (takeFrom onDuplicate row incoming) c v := by
  apply shows_assignAll
  · rintro p hp rfl
    exact Option.some.inj ((mem_takeOver.mp hp).2.symm.trans hv)
  · exact .inr ⟨(c, v), mem_takeOver.mpr ⟨h, hv⟩, rfl⟩

/-- A row that shows all that it would take over stays as it is. -/
theorem takeFrom_of_shows
    (h : ∀ c ∈ onDuplicate, ∀ v, incoming.get? c = some v → Shows row c v) :
    takeFrom onDuplicate row incoming = row := by
  apply assignAll_of_shows
  intro p hp
  obtain ⟨hc, hv⟩ := mem_takeOver.mp hp
  exact h p.1 hc p.2 hv

/-- A column keeps its value, which shows what would be taken over, or takes
over the one that comes in. -/
theorem get?_takeFrom_eq_or :
    ((takeFrom onDuplicate row incoming).get? c = row.get? c ∧
      (c ∈ onDuplicate → ∀ v, incoming.get? c = some v → Shows row c v)) ∨
    ∃ v, incoming.get? c = some v ∧ (takeFrom onDuplicate row incoming).get? c = some v := by
  by_cases hc : c ∈ onDuplicate
  · cases hv : incoming.get? c with
    | none => exact .inl ⟨get?_takeFrom_of_shows (by simp [hv]), nofun⟩
    | some v =>
      have hvalue : ∀ p ∈ takeOver incoming onDuplicate, p.1 = c → p.2 = v := by
        rintro p hp rfl
        exact Option.some.inj ((mem_takeOver.mp hp).2.symm.trans hv)
      rcases get?_assignAll_eq_or row hvalue with hkept | htaken
      · refine .inl ⟨hkept, fun _ u hu => ?_⟩
        cases hu
        obtain ⟨w, hw, heq⟩ : Shows (takeFrom onDuplicate row incoming) c v := shows_takeFrom hc hv
        exact ⟨w, hkept.symm.trans hw, heq⟩
      · exact .inr ⟨v, rfl, htaken⟩
  · exact .inl ⟨get?_takeFrom_of_not_mem hc, fun hmem => absurd hmem hc⟩

/-! ## Keyed rows -/

/-- Each row has a primary key of one kind, and no two rows have the same. -/
structure Keyed (s : Shape) (k : Kind) (rows : List Row) : Prop where
  has : ∀ row ∈ rows, ∃ v, row.get? s.primaryKey = some v ∧ k.Has v
  distinct : rows.Pairwise fun a b => a.get? s.primaryKey ≠ b.get? s.primaryKey

variable {s : Shape} {k : Kind} {rows : List Row} {v : Value}

theorem test_at_of_position?_eq_none {test : Row → Bool} {skip : Option Nat}
    (h : position? test rows skip = none) {i : Nat} {row : Row} (hrow : rows[i]? = some row)
    (hi : skip ≠ some i) : test row = false := by
  rw [position?, Option.map_eq_none_iff, List.find?_eq_none] at h
  simpa [Ne.symm hi] using h (row, i) (List.mem_zipIdx_iff_getElem?.mpr hrow)

theorem test_of_position?_eq_none {test : Row → Bool} (h : position? test rows none = none) :
    ∀ row ∈ rows, test row = false := by
  intro row hrow
  obtain ⟨i, hi⟩ := List.mem_iff_getElem?.mp hrow
  exact test_at_of_position?_eq_none h hi nofun

theorem assignId_of_has {row : Row} (hv : k.Has v) (hrow : row.get? s.primaryKey = some v)
    (n : Int) : (assignId s row n).1 = row := by
  unfold assignId
  rw [hrow]
  cases v with
  | null => exact absurd hv k.not_has_null
  | _ => rfl

theorem Keyed.same_place (h : Keyed s k rows) {i j : Nat} {a b : Row} (ha : rows[i]? = some a)
    (hb : rows[j]? = some b) (hab : a.get? s.primaryKey = b.get? s.primaryKey) : i = j := by
  obtain ⟨hi, rfl⟩ := List.getElem?_eq_some_iff.mp ha
  obtain ⟨hj, rfl⟩ := List.getElem?_eq_some_iff.mp hb
  have hpairs := List.pairwise_iff_getElem.mp h.distinct
  rcases Nat.lt_trichotomy i j with hlt | heq | hlt
  · exact absurd hab (hpairs i j hi hj hlt)
  · exact heq
  · exact absurd hab.symm (hpairs j i hj hi hlt)

/-- Rows with different whole numbers as primary keys are keyed. -/
theorem keyed_of_ints (ids : List Int)
    (hrows : rows.map (·.get? s.primaryKey) = ids.map fun n => some (.int n))
    (hdistinct : ids.Nodup) (hhas : ∀ n ∈ ids, Kind.integer.Has (.int n)) :
    Keyed s .integer rows := by
  constructor
  · intro row hrow
    have hmem := List.mem_map_of_mem (f := (·.get? s.primaryKey)) hrow
    rw [hrows] at hmem
    obtain ⟨n, hn, heq⟩ := List.mem_map.mp hmem
    exact ⟨.int n, heq.symm, hhas n hn⟩
  · have hpairs : (rows.map (·.get? s.primaryKey)).Pairwise (· ≠ ·) := by
      rw [hrows, List.pairwise_map]
      exact hdistinct.imp fun hne heq => hne (Value.int.inj (Option.some.inj heq))
    exact List.pairwise_map.mp hpairs

end Tables

end EntityStore
