-- Updates of a table as functions of its rows. An update that succeeds makes of
-- each row what its predicate and its assignments tell. A column that holds what it
-- is assigned keeps its value, and 1 counts as 1.0 there.
import EntityStore.Proofs.Tables.Reaching

namespace EntityStore.Tables

variable {s : Shape} {u : Sql.Update} {us : List Sql.Update} {t next : Table} {row : Row}
  {c : String} {v : Value} {n : Nat}

/-! ## Assignments -/

/-- What a column holds after it was assigned a value. -/
def assigned (old : Option Value) (v : Value) : Option Value :=
  if old == some v then old else some v

theorem get?_assign_self : (assign row c v).1.get? c = assigned (row.get? c) v := by
  unfold assign assigned
  split
  · rfl
  · exact Fields.get?_insert_self ..

/-- Where no column is assigned twice, each holds what it was assigned. -/
theorem get?_assignAll {ps : Fields Value} (hps : ps.keys.Nodup) (row : Row) (c : String) :
    (assignAll row ps).1.get? c = match ps.get? c with
      | some v => assigned (row.get? c) v
      | none => row.get? c := by
  induction ps generalizing row with
  | nil => rfl
  | cons p ps ih =>
    obtain ⟨hnew, hrest⟩ := List.nodup_cons.mp hps
    rw [assignAll_cons, Fields.get?_cons]
    by_cases hc : c = p.1
    · subst hc
      have hothers : ∀ q ∈ ps, q.1 ≠ p.1 := fun q hq heq =>
        hnew (List.mem_map.mpr ⟨q, hq, heq⟩)
      rw [if_pos rfl, get?_assignAll_of_not_mem _ hothers, get?_assign_self]
    · rw [if_neg hc, ih hrest, get?_assign_of_ne hc]

-- The note of what has changed never goes back, so a row without it was assigned
-- nothing new on the way.
theorem assignAll_of_unchanged {ps : List (String × Value)} (h : (assignAll row ps).2 = false) :
    (assignAll row ps).1 = row := by
  let step (s : Row × Bool) (p : String × Value) : Row × Bool :=
    ((assign s.1 p.1 p.2).1, s.2 || (assign s.1 p.1 p.2).2)
  have hfold : ∀ (ps : List (String × Value)) (row : Row) (changed : Bool),
      (ps.foldl step (row, changed)).2 = false →
        changed = false ∧ (ps.foldl step (row, changed)).1 = row := by
    intro ps
    induction ps with
    | nil => exact fun row changed h => ⟨h, rfl⟩
    | cons p ps ih =>
      intro row changed h
      obtain ⟨hchanged, hsame⟩ := ih _ _ h
      rw [Bool.or_eq_false_iff] at hchanged
      have hkept : (assign row p.1 p.2).1 = row := by
        have hnot := hchanged.2
        unfold assign at hnot ⊢
        split at hnot
        · rw [if_pos ‹_›]
        · cases hnot
      exact ⟨hchanged.1, hsame.trans hkept⟩
  exact (hfold ps row false h).2

/-! ## Updates -/

/-- What an update makes of a row. -/
def revised (u : Sql.Update) (row : Row) : Row :=
  if u.predicate.holds row then (assignAll row u.assignments).1 else row

theorem rows_eq_map_of_updateRows {done rest rows : List Row} {m : Nat}
    (h : updateRows s u done rest m = .ok (n, rows)) : rows = done ++ rest.map (revised u) := by
  induction rest generalizing done m with
  | nil =>
    cases h
    exact (List.append_nil _).symm
  | cons row rest ih =>
    have hput : ∀ {next : Row} {m : Nat}, revised u row = next →
        updateRows s u (done ++ [next]) rest m = .ok (n, rows) →
          rows = done ++ (row :: rest).map (revised u) := by
      rintro next m rfl h
      rw [ih h, List.append_assoc, List.singleton_append, List.map_cons]
    unfold updateRows at h
    split at h
    · rename_i hnot
      exact hput (if_neg (by simpa using hnot)) h
    · rename_i hholds
      have hnext : revised u row = (assignAll row u.assignments).1 :=
        if_pos (by simpa using hholds)
      dsimp only at h
      split at h
      · rename_i hunchanged
        exact hput (hnext.trans (assignAll_of_unchanged (by simpa using hunchanged))) h
      · split at h
        · cases h
        · exact hput hnext h

/-- An update that succeeds makes something of each row, and nothing else. -/
theorem eq_of_update (h : update t u = .ok (n, next)) :
    next = { t with rows := t.rows.map (revised u) } := by
  obtain ⟨_, -, h⟩ := bind_eq_ok_iff.mp h
  obtain ⟨⟨m, rows⟩, hrows, h⟩ := bind_eq_ok_iff.mp h
  cases h
  rw [rows_eq_map_of_updateRows hrows, List.nil_append]

/-- What all updates make of a row, one after the other. -/
def revisedBy (us : List Sql.Update) (row : Row) : Row := us.foldl (fun r u => revised u r) row

theorem eq_of_updateAll (h : updateAll us t = .ok next) :
    next = { t with rows := t.rows.map (revisedBy us) } := by
  induction us generalizing t with
  | nil =>
    cases h
    have hsame : next.rows.map (revisedBy []) = next.rows := List.map_id _
    rw [hsame]
  | cons u us ih =>
    rw [updateAll, List.foldlM_cons] at h
    obtain ⟨middle, hupdate, h⟩ := bind_eq_ok_iff.mp h
    obtain ⟨⟨n, _⟩, hu, rfl⟩ := map_eq_ok_iff.mp hupdate
    rw [ih h, eq_of_update hu, List.map_map]
    rfl

/-- A row that no update is for stays as it is. -/
theorem revisedBy_of_unmet (h : ∀ u ∈ us, u.predicate.holds row = false) :
    revisedBy us row = row := by
  induction us with
  | nil => rfl
  | cons u us ih =>
    rw [List.forall_mem_cons] at h
    have hfirst : revised u row = row := if_neg (by simp [h.1])
    rw [revisedBy, List.foldl_cons, hfirst]
    exact ih h.2

theorem ordered_revisedBy (h : row.Ordered) (us : List Sql.Update) : (revisedBy us row).Ordered := by
  induction us generalizing row with
  | nil => exact h
  | cons u us ih =>
    have hfirst : (revised u row).Ordered := by
      unfold revised
      split
      · exact ordered_assignAll h _
      · exact h
    exact ih hfirst

end EntityStore.Tables
