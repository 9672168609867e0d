-- Which statements have a text. A query has one where it names a table, its
-- joins name the columns they compare and its predicate is not too deep. A
-- statement whose predicate is not too deep is never refused as such, whatever
-- else it misses.
import EntityStore.Proofs.Fallible
import EntityStore.Proofs.Sql.Evaluation
import EntityStore.Sql.Text

namespace EntityStore

/-- A predicate was refused because it is nested too deep. -/
def QueryError.TooDeep (e : QueryError) : Prop := ∃ depth limit, e = .tooDeep depth limit

namespace Sql

open QueryError (TooDeep)

/-! ## Predicates -/

/-- A predicate that is not too deep. -/
def Predicate.Shallow (p : Predicate) : Prop := p.depth ≤ maxDepth

theorem Predicate.checkDepth_eq_ok_iff {p : Predicate} : p.checkDepth = .ok () ↔ p.Shallow := by
  constructor
  · intro h
    unfold checkDepth at h
    split at h
    · cases h
    · rename_i hdeep
      exact Nat.le_of_not_lt hdeep
  · exact checkDepth_eq_ok

/-! ## Joins -/

/-- A join that names both columns it compares, or compares none. -/
def Join.Complete (j : Join) : Prop :=
  j.kind ≠ .cross → j.leftColumn.isSome = true ∧ j.rightColumn.isSome = true

instance (j : Join) : Decidable j.Complete :=
  inferInstanceAs (Decidable (j.kind ≠ .cross → _))

theorem Join.exists_pieces_iff {j : Join} : (∃ ps, j.pieces = .ok ps) ↔ j.Complete := by
  obtain ⟨table, label, kind, left, right⟩ := j
  unfold pieces Complete
  dsimp only
  split
  · rename_i hcross
    exact ⟨fun _ hkind => absurd hcross hkind, fun _ => ⟨_, rfl⟩⟩
  · rename_i hkind
    split
    · exact ⟨fun _ _ => ⟨rfl, rfl⟩, fun _ => ⟨_, rfl⟩⟩
    · rename_i hmissing
      constructor
      · rintro ⟨ps, ⟨⟩⟩
      · intro hboth
        obtain ⟨hleft, hright⟩ := hboth hkind
        obtain ⟨l, rfl⟩ := Option.isSome_iff_exists.mp hleft
        obtain ⟨r, rfl⟩ := Option.isSome_iff_exists.mp hright
        exact (hmissing l r rfl rfl).elim

theorem Join.avoids_pieces (j : Join) : Avoids TooDeep j.pieces := by
  unfold pieces
  dsimp only
  split
  · exact avoids_ok
  · split
    · exact avoids_ok
    · exact avoids_error nofun

/-! ## Queries -/

namespace Query

variable {q : Query}

/-- The predicate of a query, where it has one, is not too deep. -/
def Shallow (q : Query) : Prop := ∀ p, q.predicate = some p → p.Shallow

/-- A query that has a text. -/
structure Writable (q : Query) : Prop where
  table : q.table ≠ ""
  joins : ∀ j ∈ q.joins, j.Complete
  shallow : q.Shallow

/-- The pieces of the predicate of a query. -/
def filterPieces (q : Query) : Except QueryError (List Piece) :=
  match q.predicate with
  | some p => p.checkDepth.map fun _ => .word " WHERE " :: p.pieces false
  | none => .ok []

theorem exists_filterPieces_iff : (∃ ps, q.filterPieces = .ok ps) ↔ q.Shallow := by
  unfold filterPieces Shallow
  cases q.predicate with
  | none => exact ⟨fun _ => nofun, fun _ => ⟨[], rfl⟩⟩
  | some p =>
    constructor
    · rintro ⟨ps, h⟩ _ ⟨⟩
      obtain ⟨⟨⟩, hdepth, -⟩ := map_eq_ok_iff.mp h
      exact Predicate.checkDepth_eq_ok_iff.mp hdepth
    · intro h
      exact ⟨_, map_eq_ok_iff.mpr ⟨(), Predicate.checkDepth_eq_ok_iff.mpr (h p rfl), rfl⟩⟩

/-- The tables of a query are written after its joins and its predicate. -/
theorem fromPieces_eq (htable : q.table ≠ "") :
    ∃ text : List (List Piece) → List Piece → List Piece,
      q.fromPieces = q.joins.mapM Join.pieces >>= fun joins => q.filterPieces.map (text joins) := by
  refine ⟨fun joins filter => .word " FROM " :: .ident q.table :: labelPieces q.label ++
    joins.flatten ++ filter ++ (if q.groupBy.isEmpty then []
      else .word " GROUP BY " :: Piece.separate ", " (q.groupBy.map Column.pieces)), ?_⟩
  have hnamed : q.table.isEmpty = false := by simpa using htable
  unfold fromPieces filterPieces
  simp only [hnamed, Bool.false_eq_true, if_false]
  refine bind_congr fun joins => ?_
  cases q.predicate with
  | none => rfl
  | some p =>
    cases hdepth : p.checkDepth with
    | error e => simp only [hdepth]; rfl
    | ok _ => simp only [hdepth]; rfl

theorem fromPieces_of_no_table (htable : q.table = "") :
    q.fromPieces = .error (.invalid "query has no table") := by
  unfold fromPieces
  rw [htable]
  rfl

theorem exists_fromPieces_iff : (∃ ps, q.fromPieces = .ok ps) ↔ q.Writable := by
  by_cases htable : q.table = ""
  · rw [fromPieces_of_no_table htable]
    constructor
    · rintro ⟨ps, ⟨⟩⟩
    · exact fun h => absurd htable h.table
  · obtain ⟨text, htext⟩ := fromPieces_eq htable
    rw [htext]
    constructor
    · rintro ⟨ps, h⟩
      obtain ⟨joins, hjoins, h⟩ := bind_eq_ok_iff.mp h
      obtain ⟨filter, hfilter, -⟩ := map_eq_ok_iff.mp h
      exact ⟨htable, fun j hj => Join.exists_pieces_iff.mp (exists_of_mapM hjoins j hj),
        exists_filterPieces_iff.mp ⟨filter, hfilter⟩⟩
    · intro h
      obtain ⟨joins, hjoins⟩ := exists_mapM fun j hj => Join.exists_pieces_iff.mpr (h.joins j hj)
      obtain ⟨filter, hfilter⟩ := exists_filterPieces_iff.mpr h.shallow
      exact ⟨_, bind_eq_ok_iff.mpr ⟨joins, hjoins, map_eq_ok_iff.mpr ⟨filter, hfilter, rfl⟩⟩⟩

theorem avoids_fromPieces (h : q.Shallow) : Avoids TooDeep q.fromPieces := by
  by_cases htable : q.table = ""
  · rw [fromPieces_of_no_table htable]
    exact avoids_error nofun
  · obtain ⟨text, htext⟩ := fromPieces_eq htable
    obtain ⟨filter, hfilter⟩ := exists_filterPieces_iff.mpr h
    rw [htext, hfilter]
    exact (Avoids.mapM fun j _ => j.avoids_pieces).bind fun _ _ => avoids_ok

theorem exists_pieces_iff : (∃ ps, q.pieces = .ok ps) ↔ q.Writable := by
  rw [← exists_fromPieces_iff]
  constructor
  · rintro ⟨ps, h⟩
    obtain ⟨tables, htables, -⟩ := bind_eq_ok_iff.mp h
    exact ⟨tables, htables⟩
  · rintro ⟨tables, htables⟩
    exact ⟨_, bind_eq_ok_iff.mpr ⟨tables, htables, rfl⟩⟩

theorem avoids_pieces (h : q.Shallow) : Avoids TooDeep q.pieces :=
  (avoids_fromPieces h).bind fun _ _ => avoids_ok

/-- The page of a query does not decide whether it has a text. -/
theorem writable_unpaged_iff : q.unpaged.Writable ↔ q.Writable :=
  ⟨fun h => ⟨h.table, h.joins, h.shallow⟩, fun h => ⟨h.table, h.joins, h.shallow⟩⟩

theorem exists_countPieces_iff : (∃ ps, q.countPieces = .ok ps) ↔ q.Writable := by
  rw [← writable_unpaged_iff]
  unfold countPieces
  split
  · rw [← exists_pieces_iff]
    constructor
    · rintro ⟨ps, h⟩
      obtain ⟨inner, hinner, -⟩ := bind_eq_ok_iff.mp h
      exact ⟨inner, hinner⟩
    · rintro ⟨inner, hinner⟩
      exact ⟨_, bind_eq_ok_iff.mpr ⟨inner, hinner, rfl⟩⟩
  · rw [← exists_fromPieces_iff]
    constructor
    · rintro ⟨ps, h⟩
      obtain ⟨tables, htables, -⟩ := bind_eq_ok_iff.mp h
      exact ⟨tables, htables⟩
    · rintro ⟨tables, htables⟩
      exact ⟨_, bind_eq_ok_iff.mpr ⟨tables, htables, rfl⟩⟩

theorem avoids_countPieces (h : q.Shallow) : Avoids TooDeep q.countPieces := by
  have hunpaged : q.unpaged.Shallow := h
  unfold countPieces
  split
  · exact (avoids_pieces hunpaged).bind fun _ _ => avoids_ok
  · exact (avoids_fromPieces hunpaged).bind fun _ _ => avoids_ok

end Query

/-! ## Writes -/

theorem exists_rowPieces_iff {columns i : Nat} {rows : List (List Value)} :
    (∃ ps, rowPieces columns i rows = .ok ps) ↔ ∀ row ∈ rows, row.length = columns := by
  induction rows generalizing i with
  | nil => exact ⟨fun _ => nofun, fun _ => ⟨[], rfl⟩⟩
  | cons row rest ih =>
    rw [rowPieces, List.forall_mem_cons]
    split
    · rename_i hlength
      constructor
      · rintro ⟨ps, ⟨⟩⟩
      · exact fun h => absurd h.1 hlength
    · rename_i hlength
      rw [← ih (i := i + 1)]
      simp only [map_eq_ok_iff]
      constructor
      · rintro ⟨_, pss, hpss, -⟩
        exact ⟨by omega, pss, hpss⟩
      · rintro ⟨-, pss, hpss⟩
        exact ⟨_, pss, hpss, rfl⟩

theorem avoids_rowPieces {columns i : Nat} {rows : List (List Value)} :
    Avoids TooDeep (rowPieces columns i rows) := by
  induction rows generalizing i with
  | nil => exact avoids_ok
  | cons row rest ih =>
    rw [rowPieces]
    split
    · exact avoids_error nofun
    · exact ih.map _

/-- An insert with values for its columns. -/
structure Insert.Full (s : Insert) : Prop where
  columns : s.columns ≠ []
  rows : s.rows ≠ []
  aligned : ∀ row ∈ s.rows, row.length = s.columns.length

/-- An insert is written by its rows, where it has any and columns for them. -/
theorem Insert.pieces_eq {s : Insert} (hcolumns : s.columns ≠ []) (hrows : s.rows ≠ []) :
    ∃ text : List (List Piece) → List Piece,
      s.pieces = (rowPieces s.columns.length 0 s.rows).map text := by
  have hfilled : (s.columns.isEmpty || s.rows.isEmpty) = false := by simp [hcolumns, hrows]
  unfold pieces
  simp only [hfilled, Bool.false_eq_true, if_false]
  exact ⟨_, rfl⟩

theorem Insert.pieces_of_empty {s : Insert} (h : s.columns = [] ∨ s.rows = []) :
    ∃ reason, s.pieces = .error (.invalid reason) := by
  have hempty : (s.columns.isEmpty || s.rows.isEmpty) = true := by simpa using h
  unfold pieces
  simp only [hempty, if_true]
  exact ⟨_, rfl⟩

theorem Insert.exists_pieces_iff {s : Insert} : (∃ ps, s.pieces = .ok ps) ↔ s.Full := by
  by_cases hempty : s.columns = [] ∨ s.rows = []
  · obtain ⟨reason, hreason⟩ := pieces_of_empty hempty
    rw [hreason]
    constructor
    · rintro ⟨ps, ⟨⟩⟩
    · exact fun h => (hempty.elim h.columns h.rows).elim
  · obtain ⟨hcolumns, hrows⟩ := not_or.mp hempty
    obtain ⟨text, htext⟩ := pieces_eq hcolumns hrows
    rw [htext]
    constructor
    · rintro ⟨ps, h⟩
      obtain ⟨rows, hwritten, -⟩ := map_eq_ok_iff.mp h
      exact ⟨hcolumns, hrows, exists_rowPieces_iff.mp ⟨rows, hwritten⟩⟩
    · intro h
      obtain ⟨rows, hwritten⟩ := exists_rowPieces_iff.mpr h.aligned
      exact ⟨_, map_eq_ok_iff.mpr ⟨rows, hwritten, rfl⟩⟩

theorem Insert.avoids_pieces (s : Insert) : Avoids TooDeep s.pieces := by
  by_cases hempty : s.columns = [] ∨ s.rows = []
  · obtain ⟨reason, hreason⟩ := pieces_of_empty hempty
    rw [hreason]
    exact avoids_error nofun
  · obtain ⟨hcolumns, hrows⟩ := not_or.mp hempty
    obtain ⟨text, htext⟩ := pieces_eq hcolumns hrows
    rw [htext]
    exact avoids_rowPieces.map _

/-! ## Statements -/

namespace Statement

/-- A statement that has a text. -/
def Writable : Statement → Prop
  | .select q => q.Writable
  | .count q => q.Writable
  | .insert s => s.Full
  | .update s => s.assignments ≠ []
  | .delete s => s.predicate.Shallow

/-- The predicate of a statement is not too deep. That of an update is not
looked at. -/
def Shallow : Statement → Prop
  | .select q => q.Shallow
  | .count q => q.Shallow
  | .insert _ => True
  | .update _ => True
  | .delete s => s.predicate.Shallow

/-- A statement has a text exactly where it is complete and not too deep. -/
theorem exists_render_iff {st : Statement} : (∃ r, st.render = .ok r) ↔ st.Writable := by
  have hpieces : (∃ r, st.render = .ok r) ↔ ∃ ps, st.pieces = .ok ps := by
    simp only [render, map_eq_ok_iff]
    constructor
    · rintro ⟨_, ps, hps, -⟩
      exact ⟨ps, hps⟩
    · rintro ⟨ps, hps⟩
      exact ⟨_, ps, hps, rfl⟩
  rw [hpieces]
  cases st with
  | select q => exact Query.exists_pieces_iff
  | count q => exact Query.exists_countPieces_iff
  | insert s => exact Insert.exists_pieces_iff
  | update s =>
    show (∃ ps, s.pieces = .ok ps) ↔ s.assignments ≠ []
    unfold Update.pieces
    split
    · rename_i hempty
      constructor
      · rintro ⟨ps, ⟨⟩⟩
      · exact fun h => absurd (List.isEmpty_iff.mp hempty) h
    · rename_i hempty
      exact ⟨fun _ => by simpa using hempty, fun _ => ⟨_, rfl⟩⟩
  | delete s =>
    show (∃ ps, s.pieces = .ok ps) ↔ s.predicate.Shallow
    rw [← Predicate.checkDepth_eq_ok_iff]
    constructor
    · rintro ⟨ps, h⟩
      obtain ⟨⟨⟩, hdepth, -⟩ := bind_eq_ok_iff.mp h
      exact hdepth
    · exact fun hdepth => ⟨_, bind_eq_ok_iff.mpr ⟨(), hdepth, rfl⟩⟩

theorem avoids_render {st : Statement} (h : st.Shallow) : Avoids TooDeep st.render := by
  refine Avoids.map ?_ _
  cases st with
  | select q => exact Query.avoids_pieces h
  | count q => exact Query.avoids_countPieces h
  | insert s => exact s.avoids_pieces
  | update s =>
    show Avoids TooDeep s.pieces
    unfold Update.pieces
    split
    · exact avoids_error nofun
    · exact avoids_ok
  | delete s =>
    show Avoids TooDeep s.pieces
    unfold Delete.pieces
    rw [Predicate.checkDepth_eq_ok_iff.mpr h]
    exact avoids_ok

end Statement

end Sql

end EntityStore
