-- Rows that come into a table under different values of a column that has a
-- key of its own. Where each of them shares a key only with the row that has
-- its value, this row takes over from it, or it is put behind all rows.
import EntityStore.Proofs.Tables.Placing

namespace EntityStore.Tables

variable {s : Shape} {c : String} {k : Kind} {columns onDuplicate : List String}
  {rows : List Row} {row incoming : Row} {nextId last : Int} {vs : List Value} {v : Value}
  {f g : Filling} {P : Value → Prop}

/-! ## Rows told apart by a column -/

/-- No two rows have the same one of some values under a column. -/
def Told (P : Value → Prop) (c : String) (rows : List Row) : Prop :=
  (rows.map (·.get? c)).Pairwise fun a b => ∀ v, P v → a = some v → b ≠ some v

theorem Told.same_place (h : Told P c rows) (hv : P v) {i j : Nat} {a b : Row}
    (ha : rows[i]? = some a) (hb : rows[j]? = some b) (hac : a.get? c = some v)
    (hbc : b.get? c = some v) : i = j := by
  obtain ⟨hi, rfl⟩ := List.getElem?_eq_some_iff.mp ha
  obtain ⟨hj, rfl⟩ := List.getElem?_eq_some_iff.mp hb
  have hpairs := List.pairwise_iff_getElem.mp (List.pairwise_map.mp h)
  rcases Nat.lt_trichotomy i j with hlt | heq | hlt
  · exact absurd hbc (hpairs i j hi hj hlt v hv hac)
  · exact heq
  · exact absurd hac (hpairs j i hj hi hlt v hv hbc)

/-- Two rows with the same value are the same. -/
theorem Told.eq_of_value (h : Told P c rows) (hv : P v) {a b : Row} (ha : a ∈ rows) (hb : b ∈ rows)
    (hac : a.get? c = some v) (hbc : b.get? c = some v) : a = b := by
  obtain ⟨i, hi⟩ := List.mem_iff_getElem?.mp ha
  obtain ⟨j, hj⟩ := List.mem_iff_getElem?.mp hb
  obtain rfl := h.same_place hv hi hj hac hbc
  exact Option.some.inj (hi.symm.trans hj)

theorem Told.set (h : Told P c rows) {i : Nat} {next : Row} (hrow : rows[i]? = some row)
    (hc : next.get? c = row.get? c) : Told P c (rows.set i next) := by
  have hmap : (rows.set i next).map (·.get? c) = rows.map (·.get? c) := by
    obtain ⟨hi, hsame⟩ := List.getElem?_eq_some_iff.mp
      (show (rows.map (·.get? c))[i]? = some (next.get? c) by rw [List.getElem?_map, hrow, hc]; rfl)
    rw [List.map_set, ← hsame, List.set_getElem_self]
  rwa [Told, hmap]

theorem Told.concat (h : Told P c rows)
    (hnew : ∀ v, P v → incoming.get? c = some v → ∀ row ∈ rows, row.get? c ≠ some v) :
    Told P c (rows ++ [incoming]) := by
  rw [Told, List.map_append, List.pairwise_append]
  refine ⟨h, List.pairwise_singleton .., ?_⟩
  simp only [List.map_singleton, List.forall_mem_singleton, List.forall_mem_map]
  exact fun row hrow v hv hvalue hsame => hnew v hv hsame row hrow hvalue

/-- The values under a column are of a kind, where they are not null, and no
two rows have the same. -/
structure Apart (c : String) (k : Kind) (rows : List Row) : Prop where
  allows : ∀ row ∈ rows, k.Allows ((row.get? c).getD .null)
  told : Told k.Has c rows

theorem Apart.set (h : Apart c k rows) {i : Nat} {next : Row} (hrow : rows[i]? = some row)
    (hc : next.get? c = row.get? c) : Apart c k (rows.set i next) := by
  refine ⟨fun r hr => ?_, h.told.set hrow hc⟩
  rcases List.mem_or_eq_of_mem_set hr with hr | rfl
  · exact h.allows r hr
  · rw [hc]
    exact h.allows row (List.mem_of_getElem? hrow)

theorem Apart.concat (h : Apart c k rows) (hv : k.Has v) (hc : incoming.get? c = some v)
    (hnew : ∀ row ∈ rows, row.get? c ≠ some v) : Apart c k (rows ++ [incoming]) := by
  constructor
  · rw [List.forall_mem_append, List.forall_mem_singleton, hc]
    exact ⟨h.allows, .inr hv⟩
  · refine h.told.concat fun w _ hw => ?_
    cases hc.symm.trans hw
    exact hnew

/-- The value is a whole number. -/
def IsNumber (v : Value) : Prop := ∃ n, v = .int n

/-! ## Rows that come in for one row -/

/-- Values come in under a value of the column. Whichever number below the
largest one they are given, they share a key with no row but the one that has
this value, and it keeps its primary key when it takes over from them. -/
structure Addressed (s : Shape) (c : String) (k : Kind) (columns onDuplicate : List String)
    (rows : List Row) (nextId : Int) (vs : List Value) (v : Value) : Prop where
  value : (incomingRow s columns vs).get? c = some v
  has : k.Has v
  own : ∀ row ∈ rows, ∀ n, nextId ≤ n → n < Value.maxInt →
    SharesKey s row (arrival s columns vs n) → row.get? c = some v
  primary : ∀ row ∈ rows, row.get? c = some v → ∀ n, nextId ≤ n →
    (takeFrom onDuplicate row (arrival s columns vs n)).get? s.primaryKey =
      row.get? s.primaryKey

theorem get?_arrival (hvalue : (incomingRow s columns vs).get? c = some v) (hv : k.Has v)
    (n : Int) : (arrival s columns vs n).get? c = some v := by
  by_cases hc : c = s.primaryKey
  · rw [arrival, assignId_of_has hv (hc ▸ hvalue), hvalue]
  · rw [arrival, get?_assignId_of_ne hc, hvalue]

/-- Rows with the same value share the key of the column. -/
theorem sharesKey_of_value (hkeyed : ∃ key ∈ s.keys, key.columns = [c]) (hv : k.Has v)
    (hrow : row.get? c = some v) (hincoming : incoming.get? c = some v) :
    SharesKey s row incoming := by
  obtain ⟨key, hkey, hcolumns⟩ := hkeyed
  refine sharesKey_iff.mpr ⟨key, hkey, ?_⟩
  rw [hcolumns, List.forall_mem_singleton]
  exact agree_iff.mpr ⟨v, v, hrow, hincoming, (hv.agrees_iff hv).mpr rfl⟩

/-- Values without a primary key use up the next one. -/
theorem lt_nextId_of_place (h : place s columns onDuplicate f vs = .ok g)
    (hnull : valueAt (incomingRow s columns vs) s.primaryKey = .null) :
    f.nextId < g.nextId := by
  rw [nextId_of_place h, assignId_of_isNull (Value.isNull_iff.mpr hnull)]
  exact Int.lt_add_one_of_le (Int.le_refl _)

/-! ## All rows that come in -/

/-- Where values come to: the row with their value takes over from them, or
they come in as a row of their own. A number that they are given is one of
those up to the last one. -/
def Lands (s : Shape) (c : String) (columns onDuplicate : List String) (rows : List Row)
    (nextId last : Int) (vs : List Value) (row : Row) : Prop :=
  ∃ n, nextId ≤ n ∧
    (valueAt (incomingRow s columns vs) s.primaryKey = .null → n < last) ∧
    ((∃ old ∈ rows, old.get? c = (incomingRow s columns vs).get? c ∧
        row = takeFrom onDuplicate old (arrival s columns vs n)) ∨
      (∀ old ∈ rows, old.get? c ≠ (incomingRow s columns vs).get? c) ∧
        row = arrival s columns vs n)

theorem Lands.mono (h : Lands s c columns onDuplicate rows nextId last vs row) {later : Int}
    (hle : last ≤ later) : Lands s c columns onDuplicate rows nextId later vs row := by
  obtain ⟨n, hn, hlt, hlands⟩ := h
  exact ⟨n, hn, fun hnull => Int.lt_of_lt_of_le (hlt hnull) hle, hlands⟩

theorem Lands.get?_value (h : Lands s c columns onDuplicate rows nextId last vs row)
    (hc : c ∉ onDuplicate) (hvalue : (incomingRow s columns vs).get? c = some v) (hv : k.Has v) :
    row.get? c = some v := by
  obtain ⟨n, -, -, ⟨old, -, hold, rfl⟩ | ⟨-, rfl⟩⟩ := h
  · rw [get?_takeFrom_of_not_mem hc, hold, hvalue]
  · exact get?_arrival hvalue hv n

/-- What is known of a table after some values have come in, each under
another value of the column. -/
structure Filled (s : Shape) (c : String) (k : Kind) (columns onDuplicate : List String)
    (rows : List Row) (nextId : Int) (done : List (List Value)) (f : Filling) : Prop where
  apart : Apart c k f.rows
  numbers : Told IsNumber s.primaryKey f.rows
  least : nextId ≤ f.nextId
  kept : ∀ row ∈ rows, ∃ r ∈ f.rows, r.get? c = row.get? c
  lands : ∀ vs ∈ done, ∃ row ∈ f.rows,
    Lands s c columns onDuplicate rows nextId f.nextId vs row
  origin : ∀ row ∈ f.rows,
    (∃ vs ∈ done, Lands s c columns onDuplicate rows nextId f.nextId vs row) ∨
      row ∈ rows ∧ ∀ vs ∈ done, (incomingRow s columns vs).get? c ≠ row.get? c

variable {done all : List (List Value)}

theorem filled_of_apart (h : Apart c k rows) (hnumbers : Told IsNumber s.primaryKey rows) (n : Nat) :
    Filled s c k columns onDuplicate rows nextId [] ⟨rows, nextId, n⟩ where
  apart := h
  numbers := hnumbers
  least := Int.le_refl _
  kept row hrow := ⟨row, hrow, rfl⟩
  lands := nofun
  origin _ hrow := .inr ⟨hrow, nofun⟩

section

variable (h : Filled s c k columns onDuplicate rows nextId done f)
  (hvs : Addressed s c k columns onDuplicate rows nextId vs v) (hle : f.nextId ≤ g.nextId)
  (hlt : valueAt (incomingRow s columns vs) s.primaryKey = .null → f.nextId < g.nextId)

include h hvs hle hlt

/-- The values have come in as a row of their own. -/
theorem Filled.concat (hnew : ∀ row ∈ f.rows, row.get? c ≠ some v)
    (hfresh : ∀ row ∈ f.rows, ¬ SharesKey s row (arrival s columns vs f.nextId))
    (hg : g.rows = f.rows ++ [arrival s columns vs f.nextId]) :
    Filled s c k columns onDuplicate rows nextId (done ++ [vs]) g := by
  have hlands : Lands s c columns onDuplicate rows nextId g.nextId vs
      (arrival s columns vs f.nextId) := by
    refine ⟨f.nextId, h.least, hlt, .inr ⟨fun old hold hsame => ?_, rfl⟩⟩
    obtain ⟨r, hr, hrc⟩ := h.kept old hold
    exact hnew r hr (hrc.trans (hsame.trans hvs.value))
  refine ⟨?_, ?_, Int.le_trans h.least hle, fun row hrow => ?_, ?_, ?_⟩
  · rw [hg]
    exact h.apart.concat hvs.has (get?_arrival hvs.value hvs.has _) hnew
  · rw [hg]
    refine h.numbers.concat ?_
    rintro _ ⟨n, rfl⟩ hnumber row hrow hsame
    exact hfresh row hrow (sharesKey_primary
      (agree_iff.mpr ⟨_, _, hsame, hnumber, (agrees_int n n).mpr rfl⟩))
  · obtain ⟨r, hr, hsame⟩ := h.kept row hrow
    exact ⟨r, hg ▸ List.mem_append_left _ hr, hsame⟩
  · rw [List.forall_mem_append, List.forall_mem_singleton]
    refine ⟨fun ws hws => ?_, _, hg ▸ List.mem_append_right _ (List.mem_singleton_self _), hlands⟩
    obtain ⟨row, hrow, hlanded⟩ := h.lands ws hws
    exact ⟨row, hg ▸ List.mem_append_left _ hrow, hlanded.mono hle⟩
  · rw [hg, List.forall_mem_append, List.forall_mem_singleton]
    refine ⟨fun row hrow => ?_, .inl ⟨vs, by simp, hlands⟩⟩
    rcases h.origin row hrow with ⟨ws, hws, hlanded⟩ | ⟨hold, hother⟩
    · exact .inl ⟨ws, by simp [hws], hlanded.mono hle⟩
    · refine .inr ⟨hold, ?_⟩
      rw [List.forall_mem_append, List.forall_mem_singleton, hvs.value]
      exact ⟨hother, (hnew row hrow).symm⟩

/-- The row with their value has taken over from the values. -/
theorem Filled.taken (hc : c ∉ onDuplicate)
    (hdone : ∀ ws ∈ done, ∃ w, (incomingRow s columns ws).get? c = some w ∧ k.Has w ∧ w ≠ v)
    {i : Nat} {stored : Row} (hstored : f.rows[i]? = some stored) (hvalue : stored.get? c = some v)
    (hg : g.rows = f.rows.set i (takeFrom onDuplicate stored (arrival s columns vs f.nextId))) :
    Filled s c k columns onDuplicate rows nextId (done ++ [vs]) g := by
  have hmem := List.mem_of_getElem? hstored
  have hi : i < f.rows.length := (List.getElem?_eq_some_iff.mp hstored).1
  have hothers : ∀ ws ∈ done, ∀ row,
      Lands s c columns onDuplicate rows nextId f.nextId ws row → row.get? c ≠ some v := by
    intro ws hws _ hlands hsame
    obtain ⟨w, hw, hhas, hne⟩ := hdone ws hws
    exact hne (Option.some.inj ((hlands.get?_value hc hw hhas).symm.trans hsame))
  -- No values before these came to the row, so it is as it was.
  have hold : stored ∈ rows := by
    rcases h.origin stored hmem with ⟨ws, hws, hlanded⟩ | ⟨hold, -⟩
    · exact absurd hvalue (hothers ws hws stored hlanded)
    · exact hold
  have hlands : Lands s c columns onDuplicate rows nextId g.nextId vs
      (takeFrom onDuplicate stored (arrival s columns vs f.nextId)) :=
    ⟨f.nextId, h.least, hlt, .inl ⟨stored, hold, hvalue.trans hvs.value.symm, rfl⟩⟩
  have htaken : takeFrom onDuplicate stored (arrival s columns vs f.nextId) ∈ g.rows := by
    rw [hg]
    exact List.mem_of_getElem? (List.getElem?_set_self hi)
  have hstays : ∀ row ∈ f.rows, row.get? c ≠ some v → row ∈ g.rows := by
    intro row hrow hother
    obtain ⟨j, hj⟩ := List.mem_iff_getElem?.mp hrow
    have hne : i ≠ j := by
      rintro rfl
      cases hj.symm.trans hstored
      exact hother hvalue
    rw [hg]
    exact List.mem_of_getElem? ((List.getElem?_set_ne hne).trans hj)
  refine ⟨?_, ?_, Int.le_trans h.least hle, fun row hrow => ?_, ?_, fun row hrow => ?_⟩
  · rw [hg]
    exact h.apart.set hstored (get?_takeFrom_of_not_mem hc)
  · rw [hg]
    exact h.numbers.set hstored (hvs.primary stored hold hvalue _ h.least)
  · obtain ⟨r, hr, hsame⟩ := h.kept row hrow
    by_cases hrc : r.get? c = some v
    · obtain rfl := h.apart.told.eq_of_value hvs.has hr hmem hrc hvalue
      exact ⟨_, htaken, (get?_takeFrom_of_not_mem hc).trans hsame⟩
    · exact ⟨r, hstays r hr hrc, hsame⟩
  · rw [List.forall_mem_append, List.forall_mem_singleton]
    refine ⟨fun ws hws => ?_, _, htaken, hlands⟩
    obtain ⟨row, hrow, hlanded⟩ := h.lands ws hws
    exact ⟨row, hstays row hrow (hothers ws hws row hlanded), hlanded.mono hle⟩
  · obtain ⟨j, hj⟩ := List.mem_iff_getElem?.mp (hg ▸ hrow)
    by_cases hij : i = j
    · subst hij
      rw [List.getElem?_set_self hi] at hj
      cases hj
      exact .inl ⟨vs, by simp, hlands⟩
    · rw [List.getElem?_set_ne hij] at hj
      rcases h.origin row (List.mem_of_getElem? hj) with ⟨ws, hws, hlanded⟩ | ⟨hrowOld, hother⟩
      · exact .inl ⟨ws, by simp [hws], hlanded.mono hle⟩
      · refine .inr ⟨hrowOld, ?_⟩
        rw [List.forall_mem_append, List.forall_mem_singleton, hvs.value]
        exact ⟨hother, fun hsame =>
          hij (h.apart.told.same_place hvs.has hstored hj hvalue hsame.symm)⟩

end

/-- Values come in beside others: they do not have the value of the others
under the column, and share no key with the row that the others come to. -/
structure Beside (s : Shape) (c : String) (columns onDuplicate : List String) (rows : List Row)
    (nextId : Int) (ws vs : List Value) : Prop where
  value : (incomingRow s columns ws).get? c ≠ (incomingRow s columns vs).get? c
  shares : ∀ row last, Lands s c columns onDuplicate rows nextId last ws row →
    ∀ n, nextId ≤ n → last ≤ n → n < Value.maxInt →
      ¬ SharesKey s row (arrival s columns vs n)

theorem Filled.place (h : Filled s c k columns onDuplicate rows nextId done f)
    (hkeyed : ∃ key ∈ s.keys, key.columns = [c]) (hc : c ∉ onDuplicate)
    (hvs : Addressed s c k columns onDuplicate rows nextId vs v)
    (hdone : ∀ ws ∈ done, (∃ w, Addressed s c k columns onDuplicate rows nextId ws w) ∧
      Beside s c columns onDuplicate rows nextId ws vs)
    (hroom : f.nextId < Value.maxInt) (hplace : place s columns onDuplicate f vs = .ok g) :
    Filled s c k columns onDuplicate rows nextId (done ++ [vs]) g := by
  have hlt := lt_nextId_of_place hplace
  obtain ⟨hle, hplaced⟩ := place_eq_ok hplace
  have hshares : ∀ row ∈ f.rows,
      SharesKey s row (arrival s columns vs f.nextId) → row.get? c = some v := by
    intro row hrow hshared
    rcases h.origin row hrow with ⟨ws, hws, hlanded⟩ | ⟨hold, -⟩
    · exact absurd hshared
        ((hdone ws hws).2.shares row _ hlanded _ h.least (Int.le_refl _) hroom)
    · exact hvs.own row hold _ h.least hroom hshared
  rcases hplaced with ⟨hfresh, hg⟩ | ⟨i, stored, hstored, hshared, hg⟩
  · refine h.concat hvs hle hlt (fun row hrow hvalue => hfresh row hrow ?_) hfresh hg
    exact sharesKey_of_value hkeyed hvs.has hvalue (get?_arrival hvs.value hvs.has _)
  · refine h.taken hvs hle hlt hc (fun ws hws => ?_) hstored
      (hshares stored (List.mem_of_getElem? hstored) hshared) hg
    obtain ⟨⟨w, hw⟩, hbeside⟩ := hdone ws hws
    refine ⟨w, hw.value, hw.has, ?_⟩
    rintro rfl
    exact hbeside.value (hw.value.trans hvs.value.symm)

/-- What is known of a table after all values have come in, each beside those
in front of it. -/
theorem Filled.foldlM (h : Filled s c k columns onDuplicate rows nextId done f)
    (hkeyed : ∃ key ∈ s.keys, key.columns = [c]) (hc : c ∉ onDuplicate)
    (hall : ∀ vs ∈ done ++ all, ∃ v, Addressed s c k columns onDuplicate rows nextId vs v)
    (hbeside : (done ++ all).Pairwise (Beside s c columns onDuplicate rows nextId))
    (hfold : all.foldlM (Tables.place s columns onDuplicate) f = .ok g)
    (hroom : g.nextId < Value.maxInt) :
    Filled s c k columns onDuplicate rows nextId (done ++ all) g := by
  induction all generalizing done f with
  | nil =>
    cases hfold
    rwa [List.append_nil]
  | cons vs all ih =>
    rw [List.foldlM_cons] at hfold
    obtain ⟨next, hplace, hfold⟩ := bind_eq_ok_iff.mp hfold
    obtain ⟨v, hvs⟩ := hall vs (by simp)
    have hdone : ∀ ws ∈ done, (∃ w, Addressed s c k columns onDuplicate rows nextId ws w) ∧
        Beside s c columns onDuplicate rows nextId ws vs := fun ws hws =>
      ⟨hall ws (by simp [hws]),
        (List.pairwise_append.mp hbeside).2.2 ws hws vs List.mem_cons_self⟩
    have hle := Int.le_trans (place_eq_ok hplace).1 (nextId_of_foldlM hfold)
    have hstep := h.place hkeyed hc hvs hdone (Int.lt_of_le_of_lt hle hroom) hplace
    rw [List.append_cons] at hall hbeside ⊢
    exact ih hstep hall hbeside hfold

end EntityStore.Tables
