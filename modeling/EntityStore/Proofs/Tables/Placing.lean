-- Rows that come into a table with any keys. Each is put behind the rows that
-- are there, or a row that shares a key with it takes over from it, and what
-- one such step keeps all of them keep. Where rows share keys only with rows of
-- their own primary key, the last one with a primary key decides.
import EntityStore.Proofs.Tables.Upserting

namespace EntityStore.Tables

variable {s : Shape} {columns onDuplicate : List String} {rows : List Row} {f g : Filling}
  {vs : List Value} {incoming : Row}

/-! ## One row that comes in -/

/-- The row of some values, with the given primary key if it has none of its
own. -/
def arrival (s : Shape) (columns : List String) (vs : List Value) (n : Int) : Row :=
  (assignId s (incomingRow s columns vs) n).1

theorem conflict?_eq_none_iff :
    s.conflict? rows incoming none = none ↔ ∀ row ∈ rows, ¬ SharesKey s row incoming := by
  constructor
  · rintro hnone row hrow ⟨k, hk, vs, hvs, hvalues⟩
    have hkey := List.findSome?_eq_none_iff.mp hnone k hk
    rw [hvs] at hkey
    cases hposition : position? (hasValues · k.columns vs) rows none with
    | none =>
      have hfalse := test_of_position?_eq_none hposition row hrow
      rw [hvalues] at hfalse
      cases hfalse
    | some i =>
      rw [Option.bind_eq_bind, Option.bind_some, hposition] at hkey
      cases hkey
  · intro hall
    cases hconflict : s.conflict? rows incoming none with
    | none => rfl
    | some c =>
      obtain ⟨row, hrow, hshares⟩ := sharesKey_of_conflict? hconflict
      exact absurd hshares (hall row (List.mem_of_getElem? hrow))

/-- A row that comes in shares no key with the rows that are there and is put
behind them, or one of those that it shares a key with takes over from it. -/
theorem place_eq_ok (h : place s columns onDuplicate f vs = .ok g) :
    f.nextId ≤ g.nextId ∧
    (((∀ row ∈ f.rows, ¬ SharesKey s row (arrival s columns vs f.nextId)) ∧
        g.rows = f.rows ++ [arrival s columns vs f.nextId]) ∨
      ∃ (i : Nat) (row : Row), f.rows[i]? = some row ∧
        SharesKey s row (arrival s columns vs f.nextId) ∧
        g.rows = f.rows.set i (takeFrom onDuplicate row (arrival s columns vs f.nextId))) := by
  have hnext := le_assignId s (incomingRow s columns vs) f.nextId
  unfold place at h
  dsimp only at h
  split at h
  · rename_i hnone
    cases h
    exact ⟨hnext, .inl ⟨conflict?_eq_none_iff.mp hnone, rfl⟩⟩
  · rename_i c hconflict
    obtain ⟨row, hrow, hshares⟩ := sharesKey_of_conflict? hconflict
    split at h
    · cases h
    · rw [hrow, Option.getD_some] at h
      cases h
      exact ⟨hnext, .inr ⟨c.place, row, hrow, hshares, rfl⟩⟩

/-! ## Sharing keys -/

/-- The value of a row under a column, null where it has none. -/
def valueAt (row : Row) (c : String) : Value := (row.get? c).getD .null

theorem valueAt_of_some {row : Row} {c : String} {v : Value} (h : row.get? c = some v) :
    valueAt row c = v := by
  rw [valueAt, h, Option.getD_some]

theorem get?_of_valueAt_ne {row : Row} {c : String} (h : valueAt row c ≠ .null) :
    row.get? c = some (valueAt row c) := by
  cases hv : row.get? c with
  | none => exact absurd (by rw [valueAt, hv]; rfl) h
  | some v => rw [valueAt_of_some hv]

/-- The values of two rows under a column are equal in a query. -/
def Agree (row incoming : Row) (c : String) : Prop :=
  Value.agrees (valueAt row c) (valueAt incoming c) = true

theorem not_agree_of_null {row : Row} {c : String} (h : valueAt incoming c = .null) :
    ¬ Agree row incoming c := by
  rw [Agree, h, Value.not_agrees_null]
  exact Bool.false_ne_true

theorem agree_iff {row : Row} {c : String} : Agree row incoming c ↔
    ∃ w v, row.get? c = some w ∧ incoming.get? c = some v ∧ Value.agrees w v = true := by
  constructor
  · intro h
    cases hv : incoming.get? c with
    | none =>
      refine absurd h (not_agree_of_null ?_)
      rw [valueAt, hv]
      rfl
    | some v =>
      cases hw : row.get? c with
      | none =>
        rw [Agree, valueAt, hw, Option.getD_none, Value.not_null_agrees] at h
        cases h
      | some w =>
        rw [Agree, valueAt_of_some hw, valueAt_of_some hv] at h
        exact ⟨w, v, rfl, rfl, h⟩
  · rintro ⟨w, v, hw, hv, h⟩
    rwa [Agree, valueAt_of_some hw, valueAt_of_some hv]

/-- A row has the values of another one under a key when it agrees with it on
each of the columns. -/
theorem hasValues_iff {key : Key} {row : Row} :
    (∃ vs, key.of? incoming = some vs ∧ hasValues row key.columns vs = true) ↔
      ∀ c ∈ key.columns, Agree row incoming c := by
  unfold Key.of?
  induction key.columns with
  | nil => simp [hasValues]
  | cons c cs ih =>
    rw [List.forall_mem_cons, ← ih]
    constructor
    · rintro ⟨vs, hvs, hvalues⟩
      rw [List.mapM_cons] at hvs
      obtain ⟨v, hv, hvs⟩ := Option.bind_eq_some_iff.mp hvs
      obtain ⟨rest, hrest, hvs⟩ := Option.bind_eq_some_iff.mp hvs
      cases hvs
      obtain ⟨hfirst, hothers⟩ : ((row.get? c).any fun w => Value.agrees w v) = true ∧
          hasValues row cs rest = true := by
        simpa [hasValues] using hvalues
      obtain ⟨w, hw, hagrees⟩ := (Option.any_eq_true ..).mp hfirst
      exact ⟨agree_iff.mpr ⟨w, v, hw, (Option.filter_eq_some_iff.mp hv).1, hagrees⟩, rest, hrest,
        hothers⟩
    · rintro ⟨hagree, rest, hrest, hothers⟩
      obtain ⟨w, v, hw, hv, hagrees⟩ := agree_iff.mp hagree
      have hnull : v.isNull = false := by
        rw [← Bool.not_eq_true, Value.isNull_iff]
        rintro rfl
        rw [Value.not_agrees_null] at hagrees
        cases hagrees
      refine ⟨v :: rest, ?_, ?_⟩
      · rw [List.mapM_cons, hv, Option.filter_some, hnull, hrest]
        rfl
      · have hfirst : ((row.get? c).any fun w => Value.agrees w v) = true := by
          rw [hw]
          exact hagrees
        simpa [hasValues] using And.intro hfirst hothers

/-- To share a key is to agree on each of its columns. -/
theorem sharesKey_iff {row : Row} :
    SharesKey s row incoming ↔ ∃ key ∈ s.keys, ∀ c ∈ key.columns, Agree row incoming c :=
  exists_congr fun _ => and_congr_right fun _ => hasValues_iff

theorem sharesKey_primary {row : Row} (h : Agree row incoming s.primaryKey) :
    SharesKey s row incoming :=
  sharesKey_iff.mpr ⟨_, List.mem_cons_self, List.forall_mem_singleton.mpr h⟩

/-- Without other keys two rows share a key when their primary keys agree. -/
theorem agrees_of_sharesKey {row : Row} (hunique : s.uniqueKeys = [])
    (h : SharesKey s row incoming) :
    ∃ w v, row.get? s.primaryKey = some w ∧ incoming.get? s.primaryKey = some v ∧
      Value.agrees w v = true := by
  obtain ⟨key, hkey, hagree⟩ := sharesKey_iff.mp h
  rw [Shape.keys, hunique, List.mem_singleton] at hkey
  subst hkey
  exact agree_iff.mp (hagree s.primaryKey (List.mem_singleton_self _))

/-! ## A row in its place -/

variable {all : List (List Value)} {P : Row → Prop} {row : Row} {i : Nat}

/-- A row stays as it is, or it shares a key with the row that comes in and
takes over from it. -/
theorem row_of_place (h : place s columns onDuplicate f vs = .ok g)
    (hrow : f.rows[i]? = some row) :
    g.rows[i]? = some row ∨ SharesKey s row (arrival s columns vs f.nextId) ∧
      g.rows[i]? = some (takeFrom onDuplicate row (arrival s columns vs f.nextId)) := by
  have hi : i < f.rows.length := (List.getElem?_eq_some_iff.mp hrow).1
  rcases (place_eq_ok h).2 with ⟨-, hg⟩ | ⟨j, stored, hstored, hshares, hg⟩
  · rw [hg, List.getElem?_append_left hi]
    exact .inl hrow
  · by_cases hij : j = i
    · subst hij
      cases hrow.symm.trans hstored
      rw [hg, List.getElem?_set_self hi]
      exact .inr ⟨hshares, rfl⟩
    · rw [hg, List.getElem?_set_ne hij]
      exact .inl hrow

-- A row may come in without a primary key. Which number it is given depends on
-- the rows before it, so nothing is assumed of its count but that it is between
-- the one before all rows and the one behind them.
/-- What holds of a row still holds of it in the end, when it is kept each time
that the row takes over from one that it shares a key with. -/
theorem row_of_foldlM (h : all.foldlM (place s columns onDuplicate) f = .ok g)
    (hrow : f.rows[i]? = some row) (hP : P row)
    (hstep : ∀ vs ∈ all, ∀ n, f.nextId ≤ n → n ≤ g.nextId → ∀ row, P row →
      SharesKey s row (arrival s columns vs n) →
        P (takeFrom onDuplicate row (arrival s columns vs n))) :
    ∃ later, g.rows[i]? = some later ∧ P later := by
  induction all generalizing f row with
  | nil =>
    cases h
    exact ⟨row, hrow, hP⟩
  | cons vs all ih =>
    have hlast := nextId_of_foldlM h
    rw [List.forall_mem_cons] at hstep
    rw [List.foldlM_cons] at h
    obtain ⟨next, hplace, h⟩ := bind_eq_ok_iff.mp h
    have hle := (place_eq_ok hplace).1
    have hlater := fun ws hws n hn => hstep.2 ws hws n (Int.le_trans hle hn)
    rcases row_of_place hplace hrow with hsame | ⟨hshares, htaken⟩
    · exact ih h hsame hP hlater
    · exact ih h htaken (hstep.1 f.nextId (Int.le_refl _) hlast row hP hshares) hlater

/-! ## All rows that come in -/

/-- Before a row comes in those in front of it have, and then those behind it
do. -/
theorem foldlM_append_cons {before later : List (List Value)}
    (h : (before ++ vs :: later).foldlM (place s columns onDuplicate) f = .ok g) :
    ∃ own next, before.foldlM (place s columns onDuplicate) f = .ok own ∧
      place s columns onDuplicate own vs = .ok next ∧
      later.foldlM (place s columns onDuplicate) next = .ok g := by
  rw [List.foldlM_append] at h
  obtain ⟨own, hbefore, h⟩ := bind_eq_ok_iff.mp h
  rw [List.foldlM_cons] at h
  obtain ⟨next, hplace, h⟩ := bind_eq_ok_iff.mp h
  exact ⟨own, next, hbefore, hplace, h⟩

/-- A row of some sort is still there in the end when none stops being of the
sort by what it takes over. -/
theorem exists_of_foldlM (h : all.foldlM (place s columns onDuplicate) f = .ok g)
    (hstep : ∀ vs ∈ all, ∀ n, f.nextId ≤ n → ∀ row, P row →
      SharesKey s row (arrival s columns vs n) →
        P (takeFrom onDuplicate row (arrival s columns vs n)))
    (hrow : ∃ row ∈ f.rows, P row) : ∃ row ∈ g.rows, P row := by
  obtain ⟨row, hmem, hP⟩ := hrow
  obtain ⟨i, hi⟩ := List.mem_iff_getElem?.mp hmem
  obtain ⟨later, hlater, hPlater⟩ := row_of_foldlM h hi hP fun vs hvs n hn _ => hstep vs hvs n hn
  exact ⟨later, List.mem_of_getElem? hlater, hPlater⟩

/-- All rows are of some sort in the end when those that come in are, and none
stops being of the sort by what it takes over. -/
theorem forall_of_foldlM (h : all.foldlM (place s columns onDuplicate) f = .ok g)
    (hnew : ∀ vs ∈ all, ∀ n, f.nextId ≤ n → P (arrival s columns vs n))
    (hstep : ∀ vs ∈ all, ∀ n, f.nextId ≤ n → ∀ row, P row →
      SharesKey s row (arrival s columns vs n) →
        P (takeFrom onDuplicate row (arrival s columns vs n)))
    (hrows : ∀ row ∈ f.rows, P row) : ∀ row ∈ g.rows, P row := by
  induction all generalizing f with
  | nil =>
    cases h
    exact hrows
  | cons vs all ih =>
    rw [List.forall_mem_cons] at hnew hstep
    rw [List.foldlM_cons] at h
    obtain ⟨next, hplace, h⟩ := bind_eq_ok_iff.mp h
    obtain ⟨hle, hplaced⟩ := place_eq_ok hplace
    refine ih h (fun ws hws n hn => hnew.2 ws hws n (Int.le_trans hle hn))
      (fun ws hws n hn => hstep.2 ws hws n (Int.le_trans hle hn)) ?_
    intro row hrow
    rcases hplaced with ⟨-, hplaced⟩ | ⟨i, stored, hstored, hshares, hplaced⟩
    · rw [hplaced] at hrow
      rcases List.mem_append.mp hrow with hrow | hrow
      · exact hrows row hrow
      · rw [List.mem_singleton.mp hrow]
        exact hnew.1 f.nextId (Int.le_refl _)
    · rw [hplaced] at hrow
      rcases List.mem_or_eq_of_mem_set hrow with hrow | rfl
      · exact hrows row hrow
      · exact hstep.1 f.nextId (Int.le_refl _) stored (hrows stored (List.mem_of_getElem? hstored))
          hshares

/-! ## Rows told apart by their primary keys -/

/-- Under each column a row has the value of one of some rows, which has its
primary key too. -/
def MadeOf (s : Shape) (sources : List Row) (row : Row) : Prop :=
  ∀ c v, row.get? c = some v → ∃ source ∈ sources,
    source.get? s.primaryKey = row.get? s.primaryKey ∧ source.get? c = some v

theorem madeOf_of_mem (h : row ∈ rows) : MadeOf s rows row :=
  fun _ _ hv => ⟨row, h, rfl, hv⟩

theorem MadeOf.takeFrom (h : MadeOf s rows row) (hincoming : incoming ∈ rows)
    (honDuplicate : s.primaryKey ∉ onDuplicate)
    (hkey : row.get? s.primaryKey = incoming.get? s.primaryKey) :
    MadeOf s rows (takeFrom onDuplicate row incoming) := by
  have hkept : (Tables.takeFrom onDuplicate row incoming).get? s.primaryKey =
      row.get? s.primaryKey := get?_takeFrom_of_not_mem honDuplicate
  intro c v hv
  rw [hkept]
  rcases get?_takeFrom_eq_or (c := c) with ⟨hsame, -⟩ | ⟨w, hw, htaken⟩
  · exact h c v (hsame ▸ hv)
  · cases htaken.symm.trans hv
    exact ⟨incoming, hincoming, hkey.symm, hw⟩

/-- Whatever rows with one primary key have taken over from each other, a row
that comes in shares a unique key only with those that have its primary key. -/
def Aligned (s : Shape) (rows incoming : List Row) : Prop :=
  ∀ new ∈ incoming, ∀ row, MadeOf s (rows ++ incoming) row → ∀ key ∈ s.uniqueKeys,
    (∀ c ∈ key.columns, Agree row new c) → row.get? s.primaryKey = new.get? s.primaryKey

theorem aligned_of_nil {incoming : List Row} (h : s.uniqueKeys = []) : Aligned s rows incoming := by
  simp [Aligned, h]

/-- Rows come in that share a key only with rows of their own primary key, which
is of a kind and never taken over. -/
structure ToldApart (s : Shape) (k : Kind) (onDuplicate : List String)
    (rows incoming : List Row) : Prop where
  kept : s.primaryKey ∉ onDuplicate
  has : ∀ row ∈ rows ++ incoming, ∃ v, row.get? s.primaryKey = some v ∧ k.Has v
  aligned : Aligned s rows incoming

section

variable {k : Kind} {new : List Row} (htold : ToldApart s k onDuplicate rows new)

include htold

theorem ToldApart.primary_of_sharesKey (hincoming : incoming ∈ new)
    (hmade : MadeOf s (rows ++ new) row) (hshares : SharesKey s row incoming) :
    row.get? s.primaryKey = incoming.get? s.primaryKey := by
  obtain ⟨key, hkey, hagree⟩ := sharesKey_iff.mp hshares
  rcases List.mem_cons.mp hkey with rfl | hkey
  · obtain ⟨w, v, hw, hv, hagrees⟩ := agree_iff.mp (hagree _ (List.mem_singleton_self _))
    obtain ⟨source, hsource, -, hsame⟩ := hmade _ w hw
    obtain ⟨_, hw', hhas⟩ := htold.has source hsource
    obtain ⟨_, hv', hhas'⟩ := htold.has incoming (List.mem_append_right _ hincoming)
    cases hw'.symm.trans hsame
    cases hv'.symm.trans hv
    rw [hw, hv, (hhas.agrees_iff hhas').mp hagrees]
  · exact htold.aligned incoming hincoming row hmade key hkey hagree

theorem ToldApart.arrival_eq (hvs : incomingRow s columns vs ∈ new) (n : Int) :
    arrival s columns vs n = incomingRow s columns vs := by
  obtain ⟨v, hv, hhas⟩ := htold.has _ (List.mem_append_right _ hvs)
  exact assignId_of_has hhas hv n

/-- What holds of a row still holds of it in the end, when it is kept each time
that a row with the same primary key comes in. -/
theorem ToldApart.row_of_foldlM (hnew : ∀ vs ∈ all, incomingRow s columns vs ∈ new)
    (h : all.foldlM (place s columns onDuplicate) f = .ok g) (hrow : f.rows[i]? = some row)
    (hmade : MadeOf s (rows ++ new) row) (hP : P row)
    (hstep : ∀ vs ∈ all, (incomingRow s columns vs).get? s.primaryKey = row.get? s.primaryKey →
      ∀ r, P r → P (takeFrom onDuplicate r (incomingRow s columns vs))) :
    ∃ later, g.rows[i]? = some later ∧ later.get? s.primaryKey = row.get? s.primaryKey ∧
      P later := by
  obtain ⟨later, hlater, hkey, -, hPlater⟩ := Tables.row_of_foldlM (P := fun r =>
    r.get? s.primaryKey = row.get? s.primaryKey ∧ MadeOf s (rows ++ new) r ∧ P r) h hrow
    ⟨rfl, hmade, hP⟩ (by
      rintro vs hvs n - - r ⟨hkey, hmade, hPr⟩ hshares
      have hmem := hnew vs hvs
      rw [htold.arrival_eq hmem] at hshares ⊢
      have hsame := htold.primary_of_sharesKey hmem hmade hshares
      exact ⟨(get?_takeFrom_of_not_mem htold.kept).trans hkey,
        hmade.takeFrom (List.mem_append_right _ hmem) htold.kept hsame,
        hstep vs hvs (hsame.symm.trans hkey) r hPr⟩)
  exact ⟨later, hlater, hkey, hPlater⟩

theorem ToldApart.madeOf_of_foldlM (hnew : ∀ vs ∈ all, incomingRow s columns vs ∈ new)
    (h : all.foldlM (place s columns onDuplicate) f = .ok g)
    (hmade : ∀ row ∈ f.rows, MadeOf s (rows ++ new) row) :
    ∀ row ∈ g.rows, MadeOf s (rows ++ new) row := by
  refine forall_of_foldlM h (fun vs hvs n _ => ?_) (fun vs hvs n _ r hr hshares => ?_) hmade
  · rw [htold.arrival_eq (hnew vs hvs)]
    exact madeOf_of_mem (List.mem_append_right _ (hnew vs hvs))
  · have hmem := hnew vs hvs
    rw [htold.arrival_eq hmem] at hshares ⊢
    exact hr.takeFrom (List.mem_append_right _ hmem) htold.kept
      (htold.primary_of_sharesKey hmem hr hshares)

/-- The last row with a primary key that comes in decides what the stored row
shows in the columns that are taken over. -/
theorem ToldApart.row_of_last {before later : List (List Value)}
    (hnew : ∀ ws ∈ before ++ vs :: later, incomingRow s columns ws ∈ new)
    (hrows : f.rows = rows)
    (h : (before ++ vs :: later).foldlM (place s columns onDuplicate) f = .ok g)
    (hlast : ∀ ws ∈ later, (incomingRow s columns ws).get? s.primaryKey ≠
      (incomingRow s columns vs).get? s.primaryKey) :
    ∃ row ∈ g.rows, row.get? s.primaryKey = (incomingRow s columns vs).get? s.primaryKey ∧
      ∀ c ∈ onDuplicate, ∀ v, (incomingRow s columns vs).get? c = some v → Shows row c v := by
  obtain ⟨own, next, hbefore, hplace, hlater⟩ := foldlM_append_cons h
  rw [List.forall_mem_append, List.forall_mem_cons] at hnew
  obtain ⟨hfirst, hvs, hrest⟩ := hnew
  have hown : ∀ row ∈ own.rows, MadeOf s (rows ++ new) row := by
    refine htold.madeOf_of_foldlM hfirst hbefore fun row hrow => ?_
    exact madeOf_of_mem (List.mem_append_left _ (hrows ▸ hrow))
  -- The row is there after its own turn, and no later row touches it.
  obtain ⟨i, row, hrow, hmade, hkey, hshows⟩ : ∃ (i : Nat) (row : Row),
      next.rows[i]? = some row ∧ MadeOf s (rows ++ new) row ∧
      row.get? s.primaryKey = (incomingRow s columns vs).get? s.primaryKey ∧
      ∀ c ∈ onDuplicate, ∀ v, (incomingRow s columns vs).get? c = some v → Shows row c v := by
    have hmem := List.mem_append_right rows hvs
    obtain ⟨-, hplaced⟩ := place_eq_ok hplace
    rw [htold.arrival_eq hvs] at hplaced
    rcases hplaced with ⟨-, hg⟩ | ⟨i, stored, hstored, hshares, hg⟩
    · refine ⟨own.rows.length, incomingRow s columns vs, by simp [hg], madeOf_of_mem hmem, rfl, ?_⟩
      exact fun c _ w hw => ⟨w, hw, Value.beq_self w⟩
    · have hi : i < own.rows.length := (List.getElem?_eq_some_iff.mp hstored).1
      have hmade := hown stored (List.mem_of_getElem? hstored)
      have hsame := htold.primary_of_sharesKey hvs hmade hshares
      refine ⟨i, takeFrom onDuplicate stored (incomingRow s columns vs), ?_,
        hmade.takeFrom hmem htold.kept hsame, ?_, fun c hc w hw => shows_takeFrom hc hw⟩
      · rw [hg, List.getElem?_set_self hi]
      · exact (get?_takeFrom_of_not_mem htold.kept).trans hsame
  obtain ⟨_, hend, -, rfl⟩ := htold.row_of_foldlM (P := fun r => r = row) hrest hlater hrow hmade rfl
    fun ws hws hsame => absurd (hsame.trans hkey) (hlast ws hws)
  exact ⟨_, List.mem_of_getElem? hend, hkey, hshows⟩

end

/-! ## Rows that show what they would take over -/

/-- A row that comes in changes nothing where it shares a key with a row, and
all those show what they would take over. -/
theorem place_of_shown (hsome : onDuplicate ≠ [])
    (hshares : ∃ row ∈ f.rows, SharesKey s row (arrival s columns vs f.nextId))
    (hshown : ∀ row ∈ f.rows, SharesKey s row (arrival s columns vs f.nextId) →
      takeFrom onDuplicate row (arrival s columns vs f.nextId) = row) :
    ∃ next, place s columns onDuplicate f vs = .ok next ∧ next.rows = f.rows := by
  obtain ⟨row, hrow, hshared⟩ := hshares
  unfold place
  dsimp only
  split
  · rename_i hnone
    exact absurd hshared (conflict?_eq_none_iff.mp hnone row hrow)
  · rename_i conflict hconflict
    obtain ⟨stored, hstored, hmet⟩ := sharesKey_of_conflict? hconflict
    obtain ⟨hi, hget⟩ := List.getElem?_eq_some_iff.mp hstored
    rw [if_neg (by simpa using hsome), hstored, Option.getD_some]
    refine ⟨_, rfl, ?_⟩
    have htaken : (assignAll stored (takeOver
        (assignId s (incomingRow s columns vs) f.nextId).1 onDuplicate)).1 = stored :=
      hshown stored (List.mem_of_getElem? hstored) hmet
    dsimp only
    rw [htaken, ← hget]
    exact List.set_getElem_self hi

/-- Where every row that comes in finds a row that it shares a key with, and
all those show what they would take over, nothing changes. Either all come in
with primary keys or all are given the next ones, which are those up to the
last one. -/
theorem foldlM_of_shown {last : Int} (hsome : onDuplicate ≠ [])
    (hkeys : (∀ vs ∈ all, valueAt (incomingRow s columns vs) s.primaryKey ≠ .null) ∨
      (∀ vs ∈ all, valueAt (incomingRow s columns vs) s.primaryKey = .null) ∧
        f.nextId + all.length ≤ last)
    (hshares : ∀ vs ∈ all, ∀ n, ∃ row ∈ f.rows, SharesKey s row (arrival s columns vs n))
    (hshown : ∀ vs ∈ all, ∀ n, f.nextId ≤ n →
      (valueAt (incomingRow s columns vs) s.primaryKey = .null → n < last) → ∀ row ∈ f.rows,
        SharesKey s row (arrival s columns vs n) →
          takeFrom onDuplicate row (arrival s columns vs n) = row) :
    ∃ g, all.foldlM (place s columns onDuplicate) f = .ok g ∧ g.rows = f.rows := by
  induction all generalizing f with
  | nil => exact ⟨f, rfl, rfl⟩
  | cons vs all ih =>
    rw [List.forall_mem_cons] at hshares hshown
    have hnumber : valueAt (incomingRow s columns vs) s.primaryKey = .null → f.nextId < last := by
      intro hnull
      rcases hkeys with hkeyed | ⟨-, hroom⟩
      · exact absurd hnull (hkeyed vs List.mem_cons_self)
      · rw [List.length_cons] at hroom
        omega
    obtain ⟨next, hplace, hsame⟩ := place_of_shown hsome (hshares.1 f.nextId)
      (hshown.1 f.nextId (Int.le_refl _) hnumber)
    have hle := (place_eq_ok hplace).1
    have hkeys' : (∀ vs ∈ all, valueAt (incomingRow s columns vs) s.primaryKey ≠ .null) ∨
        (∀ vs ∈ all, valueAt (incomingRow s columns vs) s.primaryKey = .null) ∧
          next.nextId + all.length ≤ last := by
      rcases hkeys with hkeyed | ⟨hkeyless, hroom⟩
      · exact .inl (List.forall_mem_cons.mp hkeyed).2
      · rw [List.forall_mem_cons] at hkeyless
        refine .inr ⟨hkeyless.2, ?_⟩
        rw [nextId_of_place hplace, assignId_of_isNull (Value.isNull_iff.mpr hkeyless.1)]
        rw [List.length_cons] at hroom
        dsimp only
        omega
    rw [List.foldlM_cons, hplace]
    obtain ⟨g, hfold, hg⟩ := ih (f := next) hkeys' (fun ws hws n => hsame ▸ hshares.2 ws hws n)
      (fun ws hws n hn => hsame ▸ hshown.2 ws hws n (Int.le_trans hle hn))
    exact ⟨g, hfold, hg.trans hsame⟩

/-- An insert of such rows changes no row of the table. -/
theorem insert_of_shown {t : Table} {i : Sql.Insert} (last : Int)
    (hcolumns : ∀ c ∈ i.columns, Fields.contains t.shape.columns c = true)
    (hsome : i.onDuplicate ≠ [])
    (hkeys : (∀ vs ∈ i.rows,
        valueAt (incomingRow t.shape i.columns vs) t.shape.primaryKey ≠ .null) ∨
      (∀ vs ∈ i.rows, valueAt (incomingRow t.shape i.columns vs) t.shape.primaryKey = .null) ∧
        t.nextId + i.rows.length ≤ last)
    (hshares : ∀ vs ∈ i.rows, ∀ n, ∃ row ∈ t.rows,
      SharesKey t.shape row (arrival t.shape i.columns vs n))
    (hshown : ∀ vs ∈ i.rows, ∀ n, t.nextId ≤ n →
      (valueAt (incomingRow t.shape i.columns vs) t.shape.primaryKey = .null → n < last) →
        ∀ row ∈ t.rows, SharesKey t.shape row (arrival t.shape i.columns vs n) →
          takeFrom i.onDuplicate row (arrival t.shape i.columns vs n) = row) :
    ∃ n nextId, insert t i = .ok (n, { t with nextId := nextId }) := by
  obtain ⟨g, hfold, hsame⟩ :=
    foldlM_of_shown (f := ⟨t.rows, t.nextId, 0⟩) hsome hkeys hshares hshown
  refine ⟨g.affected, g.nextId, bind_eq_ok_iff.mpr ⟨(), checkColumns_eq_ok hcolumns,
    bind_eq_ok_iff.mpr ⟨g, hfold, ?_⟩⟩⟩
  rw [hsame]
  rfl

end EntityStore.Tables
