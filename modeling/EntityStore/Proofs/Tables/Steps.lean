-- What is done to an engine, step by step. What the writes to a table keep of it
-- holds of the table in the end, whatever else was done. So each row of a table
-- has every column of the table and no others.
import EntityStore.Proofs.Fallible
import EntityStore.Proofs.Tables.Placing
import EntityStore.Tables.Engine

namespace EntityStore.Tables

/-! ## Steps -/

/-- Something that is done to an engine. -/
inductive Step where
  | seed (table : String) (docs : List Json)
  | execute (role : Role) (statement : Sql.Statement)

/-- The engine after the step, whether it succeeds or not. -/
def Step.run (e : Engine) : Step → Engine
  | .seed table docs => (e.seed table docs).2
  | .execute role statement => (e.execute role statement).2

/-- The table with a name is there, and a property holds of it. -/
def Has (name : String) (P : Table → Prop) (ts : Tables) : Prop :=
  ∃ t, ts.find name = .ok t ∧ P t

/-- Where the step writes to the table with a name, it keeps a property of the
table. -/
def Step.Keeps (name : String) (P : Table → Prop) : Step → Prop
  | .seed table docs => table = name → ∀ t, P t → P (Tables.seed t docs 0).2
  | .execute _ (.insert i) => i.table = name → ∀ t n next, insert t i = .ok (n, next) → P t → P next
  | .execute _ (.update u) => u.table = name → ∀ t n next, update t u = .ok (n, next) → P t → P next
  | .execute _ (.delete d) => d.table = name → ∀ t, P t → P (delete t d).2
  | .execute _ (.select _) => True
  | .execute _ (.count _) => True

variable {name : String} {P : Table → Prop} {ts : Tables} {e : Engine} {t next : Table}

/-- Documents come in by plain inserts, and those before a failure stay. -/
theorem seed_keeps {n : Nat} (h : P t)
    (hinsert : ∀ t doc k next, insert t (seedInsert t.shape doc) = .ok (k, next) → P t → P next)
    (docs : List Json) : P (seed t docs n).2 := by
  induction docs generalizing t n with
  | nil => exact h
  | cons doc docs ih =>
    unfold seed
    split
    · exact h
    · rename_i heq
      cases heq
      split
      · rename_i hinserted
        exact ih (hinsert _ _ _ _ hinserted h)
      · exact h
    · exact h

/-! ## What steps keep -/

theorem has_create {s : Shape} (h : P { shape := s }) (e : Engine) :
    Has s.name P (e.create s).tables := by
  refine ⟨{ shape := s }, ?_, h⟩
  rw [Engine.create, find, Fields.get?_insert_self]

theorem Has.store (h : Has name P ts) {written : String} (ht : ts.find written = .ok t)
    (hkept : written = name → P t → P next) : Has name P (Engine.store ts written next) := by
  obtain ⟨own, hfind, hown⟩ := h
  by_cases hname : written = name
  · subst hname
    cases ht.symm.trans hfind
    refine ⟨next, ?_, hkept rfl hown⟩
    rw [find, Engine.store, Fields.get?_insert_self]
  · refine ⟨own, ?_, hown⟩
    rw [← hfind, find, find, Engine.store, Fields.get?_insert, if_neg (Ne.symm hname)]

theorem Has.write (h : Has name P ts) {written : String} {w : Table → Except TableFault Written}
    (hkept : written = name → ∀ t n next, w t = .ok (n, next) → P t → P next)
    {out : Output} {after : Tables} (hwrite : Engine.write ts written w = .ok (out, after)) :
    Has name P after := by
  obtain ⟨t, ht, hwrite⟩ := bind_eq_ok_iff.mp hwrite
  obtain ⟨⟨n, next⟩, hw, hwrite⟩ := bind_eq_ok_iff.mp hwrite
  cases hwrite
  exact h.store ht fun hname => hkept hname t n next hw

theorem Has.apply (h : Has name P ts) {role : Role} {st : Sql.Statement}
    (hkeeps : (Step.execute role st).Keeps name P) {out : Output} {after : Tables}
    (happly : Engine.apply ts st = .ok (out, after)) : Has name P after := by
  cases st with
  | select q =>
    obtain ⟨_, -, happly⟩ := bind_eq_ok_iff.mp happly
    cases happly
    exact h
  | count q =>
    obtain ⟨_, -, happly⟩ := bind_eq_ok_iff.mp happly
    cases happly
    exact h
  | insert i => exact h.write hkeeps happly
  | update u => exact h.write hkeeps happly
  | delete d =>
    refine h.write (fun hname t n next hw ht => ?_) happly
    cases hw
    exact hkeeps hname t ht

/-- What one step keeps. -/
theorem Has.step (h : Has name P e.tables) {step : Step} (hkeeps : step.Keeps name P) :
    Has name P (step.run e).tables := by
  cases step with
  | seed table docs =>
    unfold Step.run Engine.seed
    dsimp only
    split
    · exact h
    · rename_i t ht
      exact h.store ht fun hname hown => hkeeps hname t hown
  | execute role st =>
    show Has name P (e.run st).2.tables
    unfold Engine.run
    split
    · exact h
    · split
      · rename_i happly
        exact h.apply hkeeps happly
      · exact h

theorem Has.steps (h : Has name P e.tables) {steps : List Step}
    (hkeeps : ∀ step ∈ steps, step.Keeps name P) : Has name P (steps.foldl Step.run e).tables := by
  induction steps generalizing e with
  | nil => exact h
  | cons step steps ih =>
    rw [List.forall_mem_cons] at hkeeps
    exact ih (h.step hkeeps.1) hkeeps.2

variable {s : Shape} {row incoming : Row}

/-! ## Rows that fit -/

/-- The row has the columns of the shape and no others. -/
def Shape.Fits (s : Shape) (row : Row) : Prop :=
  ∀ c, c ∈ Fields.keys row ↔ c ∈ Fields.keys s.columns

theorem Shape.fits_blank (s : Shape) : s.Fits s.blank := by
  intro c
  rw [blank, Fields.mapValues, Fields.keys, List.map_map]
  rfl

theorem Shape.Fits.insert (h : s.Fits row) {c : String} (hc : c ∈ Fields.keys s.columns)
    (v : Value) : s.Fits (Fields.insert row c v) := by
  intro d
  rw [Fields.mem_keys_insert, h d]
  constructor
  · rintro (rfl | hd)
    · exact hc
    · exact hd
  · exact .inr

theorem Shape.Fits.assignAll (h : s.Fits row) {ps : List (String × Value)}
    (hps : ∀ p ∈ ps, p.1 ∈ Fields.keys s.columns) : s.Fits (assignAll row ps).1 := by
  induction ps generalizing row with
  | nil => exact h
  | cons p ps ih =>
    rw [List.forall_mem_cons] at hps
    rw [assignAll_cons]
    refine ih ?_ hps.2
    unfold assign
    split
    · exact h
    · exact h.insert hps.1 p.2

/-- A stored row takes over columns that the row that comes in has. -/
theorem Shape.Fits.takeFrom (h : s.Fits row) (hincoming : s.Fits incoming)
    (onDuplicate : List String) : s.Fits (takeFrom onDuplicate row incoming) := by
  refine h.assignAll fun p hp => (hincoming p.1).mp ?_
  obtain ⟨-, hv⟩ := mem_takeOver.mp hp
  exact Fields.contains_iff.mp (by rw [Fields.contains, hv]; rfl)

theorem Shape.Fits.assignId (h : s.Fits row) (hkey : s.primaryKey ∈ Fields.keys s.columns)
    (n : Int) : s.Fits (assignId s row n).1 := by
  unfold Tables.assignId
  split
  · exact h.insert hkey _
  · exact h.insert hkey _
  · exact h
  · exact h

/-- A row that comes in has null where it is given no value, so it has all
columns. -/
theorem Shape.fits_arrival (hkey : s.primaryKey ∈ Fields.keys s.columns) {columns : List String}
    (hcolumns : ∀ c ∈ columns, c ∈ Fields.keys s.columns) (vs : List Value) (n : Int) :
    s.Fits (arrival s columns vs n) := by
  have hincoming : s.Fits (incomingRow s columns vs) := by
    intro c
    rw [incomingRow, Fields.mem_keys_extend, s.fits_blank c]
    constructor
    · rintro (hc | hc)
      · exact hc
      · obtain ⟨p, hp, rfl⟩ := List.mem_map.mp hc
        exact hcolumns p.1 (List.of_mem_zip hp).1
    · exact .inl
  exact hincoming.assignId hkey n

/-! ## Tables -/

/-- A table of the shape whose rows all fit it. -/
structure Complete (s : Shape) (t : Table) : Prop where
  shape : t.shape = s
  fits : ∀ row ∈ t.rows, s.Fits row

variable {n : Nat}

theorem Complete.insert (h : Complete s t) (hkey : s.primaryKey ∈ Fields.keys s.columns)
    {i : Sql.Insert} (hinsert : insert t i = .ok (n, next)) : Complete s next := by
  obtain ⟨rfl, hrows⟩ := h
  obtain ⟨hcolumns, f, hfold, rfl⟩ := insert_eq_ok hinsert
  have harrival : ∀ (vs : List Value) (n : Int), t.shape.Fits (arrival t.shape i.columns vs n) :=
    Shape.fits_arrival hkey fun c hc => Fields.contains_iff.mp (hcolumns c hc)
  exact ⟨rfl, forall_of_foldlM hfold (fun vs _ n _ => harrival vs n)
    (fun vs _ n _ row hrow _ => hrow.takeFrom (harrival vs n) i.onDuplicate) hrows⟩

theorem Complete.update (h : Complete s t) {u : Sql.Update} (hupdate : update t u = .ok (n, next)) :
    Complete s next := by
  obtain ⟨rfl, hrows⟩ := h
  obtain ⟨hshape, hchanges⟩ := rows_of_update hupdate
  obtain ⟨_, hcheck, -⟩ := bind_eq_ok_iff.mp hupdate
  have hcolumns : ∀ c ∈ u.assignments.map (·.1), Fields.contains t.shape.columns c = true :=
    contains_of_checkColumns ((List.forM_map ..).trans hcheck)
  have hassigned : ∀ p ∈ u.assignments, p.1 ∈ Fields.keys t.shape.columns := fun p hp =>
    Fields.contains_iff.mp (hcolumns p.1 (List.mem_map_of_mem hp))
  refine ⟨hshape, fun row hrow => ?_⟩
  obtain ⟨i, hi, rfl⟩ := List.getElem_of_mem hrow
  have hi' : i < t.rows.length := hchanges.length_eq ▸ hi
  have hstored : t.shape.Fits t.rows[i] := hrows _ (List.getElem_mem hi')
  have hchanged : Changes u t.rows[i] next.rows[i] := hchanges.get hi' hi
  rcases hchanged with hsame | ⟨-, hnew⟩
  · rwa [hsame]
  · rw [hnew]
    exact hstored.assignAll hassigned

theorem Complete.delete (h : Complete s t) (d : Sql.Delete) : Complete s (delete t d).2 :=
  ⟨h.shape, fun row hrow => h.fits row (List.mem_filter.mp hrow).1⟩

/-! ## Complete tables of engines -/

theorem keeps_complete (hkey : s.primaryKey ∈ Fields.keys s.columns) (step : Step) :
    step.Keeps s.name (Complete s) := by
  cases step with
  | seed table docs =>
    exact fun _ _ ht => seed_keeps ht (fun _ _ _ _ hinsert h => h.insert hkey hinsert) docs
  | execute role st =>
    cases st with
    | select q => trivial
    | count q => trivial
    | insert i => exact fun _ _ _ _ hinsert ht => ht.insert hkey hinsert
    | update u => exact fun _ _ _ _ hupdate ht => ht.update hupdate
    | delete d => exact fun _ _ ht => ht.delete d

/-- Whatever is done to an engine after a table was made, all rows of the table
fit it. -/
theorem has_complete (e : Engine) (hkey : s.primaryKey ∈ Fields.keys s.columns)
    (steps : List Step) : Has s.name (Complete s) (steps.foldl Step.run (e.create s)).tables :=
  (has_create ⟨rfl, nofun⟩ e).steps fun step _ => keeps_complete hkey step

end EntityStore.Tables
