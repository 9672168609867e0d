-- Rows that come into a table without taking the place of others. Documents with
-- primary keys of their own, all different, become rows behind all others one by
-- one. Of several rows one shares a key and nothing comes in, or all are put
-- behind the rows that are there, in their order. In an update every row stays in
-- its place.
import EntityStore.Proofs.Fallible
import EntityStore.Proofs.Value.Kinds
import EntityStore.Tables.Engine
import Mathlib.Data.List.Forall2

namespace EntityStore.Tables

/-! ## Rows of documents -/

/-- The row of a document: its values, and null in all other columns. -/
def Shape.row (s : Shape) (doc : Fields Json) : Row :=
  Fields.extend s.blank (List.map (fun p => (p.1, s.bind p.1 p.2)) doc)

theorem Shape.get?_row {s : Shape} {doc : Fields Json} (h : doc.Ordered) (c : String) :
    (s.row doc).get? c =
      ((doc.get? c).map (s.bind c)).or ((s.columns.get? c).map fun _ => Value.null) := by
  rw [row, Fields.get?_extend, Fields.get?_ofList (h.map s.bind), Fields.get?_map, blank,
    Fields.get?_mapValues]

theorem incomingRow_seed (s : Shape) (doc : Fields Json) :
    incomingRow s doc.keys (doc.map fun (c, j) => s.bind c j) = s.row doc := by
  rw [incomingRow, Fields.keys, List.zip_map']
  rfl

/-! ## Keys -/

theorem agrees_int (a b : Int) : Value.agrees (.int a) (.int b) = true ↔ a = b := by
  have hagrees : Value.agrees (.int a) (.int b) = (compare a b).isEq := rfl
  rw [hagrees, Ordering.isEq_iff_eq_eq, Std.LawfulEqCmp.compare_eq_iff_eq]

theorem position?_eq_none {test : Row → Bool} {rows : List Row} {skip : Option Nat}
    (h : ∀ r ∈ rows, test r = false) : position? test rows skip = none := by
  rw [position?, Option.map_eq_none_iff, List.find?_eq_none]
  rintro ⟨r, i⟩ hr
  have hmem : r ∈ rows := (List.mem_zipIdx' hr).2 ▸ List.getElem_mem _
  simp [h r hmem]

/-- A row of a table without unique keys shares its key with no stored row
whose primary key is another one. -/
theorem Shape.conflict?_eq_none {s : Shape} {rows : List Row} {row : Row} {n : Int}
    (hunique : s.uniqueKeys = []) (hid : row.get? s.primaryKey = some (.int n))
    (hnew : ∀ r ∈ rows, ∃ m, r.get? s.primaryKey = some (.int m) ∧ m ≠ n) :
    s.conflict? rows row none = none := by
  have hkey : Key.of? ⟨"PRIMARY", [s.primaryKey]⟩ row = some [.int n] := by
    rw [Key.of?, List.mapM_cons, hid]
    rfl
  have hposition : position? (hasValues · [s.primaryKey] [.int n]) rows none = none := by
    apply position?_eq_none
    intro r hr
    obtain ⟨m, hm, hmn⟩ := hnew r hr
    have hagrees : Value.agrees (.int m) (.int n) = false :=
      Bool.eq_false_iff.mpr fun h => hmn ((agrees_int m n).mp h)
    simp [hasValues, hm, hagrees]
  rw [conflict?, keys, hunique, List.findSome?_cons, hkey]
  simp [hposition]

/-! ## Seeding -/

theorem checkColumns_eq_ok {s : Shape} {columns : List String}
    (h : ∀ c ∈ columns, Fields.contains s.columns c = true) :
    columns.forM s.checkColumn = .ok () := by
  induction columns with
  | nil => rfl
  | cons c columns ih =>
    rw [List.forall_mem_cons] at h
    have hcheck : s.checkColumn c = .ok () := by
      rw [Shape.checkColumn, if_pos h.1]
    exact bind_eq_ok_iff.mpr ⟨(), hcheck, ih h.2⟩

/-- A document with a new primary key becomes one more row. -/
theorem insert_of_new {t : Table} {doc : Fields Json} {n : Int}
    (hunique : t.shape.uniqueKeys = [])
    (hcolumns : ∀ c ∈ doc.keys, Fields.contains t.shape.columns c = true)
    (hid : (t.shape.row doc).get? t.shape.primaryKey = some (.int n))
    (hnew : ∀ r ∈ t.rows, ∃ m, r.get? t.shape.primaryKey = some (.int m) ∧ m ≠ n) :
    insert t (seedInsert t.shape doc) = .ok (1, { t with
      rows := t.rows ++ [t.shape.row doc]
      nextId := countPast t.nextId n }) := by
  have hassign : assignId t.shape (t.shape.row doc) t.nextId =
      (t.shape.row doc, countPast t.nextId n) := by
    rw [assignId, hid]
  have hplace : place t.shape doc.keys [] ⟨t.rows, t.nextId, 0⟩
      (doc.map fun (c, j) => t.shape.bind c j) =
      .ok ⟨t.rows ++ [t.shape.row doc], countPast t.nextId n, 1⟩ := by
    rw [place, incomingRow_seed, hassign]
    dsimp only
    rw [Shape.conflict?_eq_none hunique hid hnew]
  have hfold : (seedInsert t.shape doc).rows.foldlM (place t.shape doc.keys [])
      ⟨t.rows, t.nextId, 0⟩ = .ok ⟨t.rows ++ [t.shape.row doc], countPast t.nextId n, 1⟩ := by
    rw [seedInsert, List.foldlM_cons, hplace]
    rfl
  have hcheck : (seedInsert t.shape doc).columns.forM t.shape.checkColumn = .ok () :=
    checkColumns_eq_ok hcolumns
  exact bind_eq_ok_iff.mpr ⟨(), hcheck, bind_eq_ok_iff.mpr ⟨_, hfold, rfl⟩⟩

/-- Documents with primary keys that are all different, and new to the table,
become rows behind all others, in their order. -/
theorem seed_of_new {t : Table} {docs : List (Fields Json)} (id : Fields Json → Int)
    (hunique : t.shape.uniqueKeys = [])
    (hcolumns : ∀ doc ∈ docs, ∀ c ∈ doc.keys, Fields.contains t.shape.columns c = true)
    (hid : ∀ doc ∈ docs, (t.shape.row doc).get? t.shape.primaryKey = some (.int (id doc)))
    (hnew : ∀ r ∈ t.rows, ∀ doc ∈ docs,
      ∃ m, r.get? t.shape.primaryKey = some (.int m) ∧ m ≠ id doc)
    (hdistinct : docs.Pairwise fun a b => id a ≠ id b) (count : Nat) :
    ∃ next, seed t (docs.map .obj) count = (.ok (count + docs.length), { t with
      rows := t.rows ++ docs.map t.shape.row
      nextId := next }) := by
  induction docs generalizing t count with
  | nil => exact ⟨t.nextId, by simp [seed]⟩
  | cons doc docs ih =>
    obtain ⟨hhead, htail⟩ := List.pairwise_cons.mp hdistinct
    rw [List.forall_mem_cons] at hcolumns hid
    have hinsert := insert_of_new hunique hcolumns.1 hid.1 fun r hr =>
      hnew r hr doc List.mem_cons_self
    obtain ⟨next, hseed⟩ := ih (t := { t with
        rows := t.rows ++ [t.shape.row doc]
        nextId := countPast t.nextId (id doc) }) hunique hcolumns.2 hid.2 (by
      intro r hr later hlater
      rcases List.mem_append.mp hr with hr | hr
      · exact hnew r hr later (List.mem_cons_of_mem doc hlater)
      · rw [List.mem_singleton.mp hr]
        exact ⟨id doc, hid.1, hhead later hlater⟩) htail (count + 1)
    refine ⟨next, ?_⟩
    rw [List.map_cons, seed, hinsert]
    dsimp only
    have hcount : count + 1 + docs.length = count + (docs.length + 1) := by omega
    rw [hseed, hcount, List.length_cons, List.map_cons, List.append_assoc]
    rfl

/-- Seeding changes one table of an engine, and nothing else. -/
theorem Engine.seed_of_seed {e : Engine} {table : String} {t next : Table} {docs : List Json}
    {out : Except TableFault Nat} (ht : e.tables.find table = .ok t)
    (hseed : Tables.seed t docs 0 = (out, next)) :
    ∃ after, e.seed table docs = (out, after) ∧ after.faults = e.faults ∧
      after.tables.find table = .ok next := by
  rw [seed, ht]
  dsimp only
  rw [hseed]
  refine ⟨_, rfl, rfl, ?_⟩
  rw [find, store, Fields.get?_insert_self]

end EntityStore.Tables

namespace EntityStore

/-! ## Names of several lists -/

theorem Fields.mem_allKeys {α : Type} {ms : List (Fields α)} {k : String} :
    k ∈ allKeys ms ↔ ∃ m ∈ ms, k ∈ keys m := by
  have hfold : ∀ seen : List String,
      k ∈ ms.foldl (fun seen m => seen ++ (keys m).filter fun k => !seen.contains k) seen ↔
        k ∈ seen ∨ ∃ m ∈ ms, k ∈ keys m := by
    induction ms with
    | nil => simp
    | cons m ms ih =>
      intro seen
      rw [List.foldl_cons, ih, List.mem_append, List.mem_filter]
      by_cases hk : k ∈ seen <;> simp [hk]
  rw [allKeys, hfold]
  simp

theorem Fields.get?_ofList_map {α : Type} (f : String → α) (ks : List String) (k : String) :
    get? (ofList (ks.map fun l => (l, f l))) k = if k ∈ ks then some (f k) else none := by
  induction ks with
  | nil => simp [get?_ofList_nil]
  | cons l ks ih =>
    rw [List.map_cons, get?_ofList_cons, ih]
    by_cases hk : k ∈ ks
    · simp [hk]
    · by_cases hkl : k = l
      · subst hkl
        simp [hk]
      · simp [hk, hkl]

theorem zip_map_self {α β : Type} (f : α → β) (xs : List α) :
    xs.zip (xs.map f) = xs.map fun x => (x, f x) := by
  rw [← List.zip_map', List.map_id']

namespace Tables

variable {s : Shape} {columns : List String}

/-! ## One row -/

/-- Under each column of the table an incoming row has the value that comes
in. -/
theorem get?_incomingRow (value : String → Value)
    (hcolumns : ∀ c ∈ columns, Fields.contains s.columns c = true)
    (hothers : ∀ c, c ∉ columns → value c = .null) (c : String) :
    (incomingRow s columns (columns.map value)).get? c =
      if Fields.contains s.columns c then some (value c) else none := by
  rw [incomingRow, Fields.get?_extend, zip_map_self, Fields.get?_ofList_map, Shape.blank,
    Fields.get?_mapValues]
  by_cases hc : c ∈ columns
  · simp [hc, hcolumns c hc]
  · rw [if_neg hc, Option.none_or, hothers c hc, Fields.contains]
    cases Fields.get? s.columns c <;> rfl

/-- A primary key changes nothing but its own column. -/
theorem get?_assignId_of_ne {row : Row} {n : Int} {c : String} (hc : c ≠ s.primaryKey) :
    (assignId s row n).1.get? c = row.get? c := by
  unfold assignId
  split
  · exact (Fields.get?_insert ..).trans (if_neg hc)
  · exact (Fields.get?_insert ..).trans (if_neg hc)
  · rfl
  · rfl

/-- A row keeps a value, unless it is a primary key that it does not have. -/
theorem get?_assignId_of_some {row : Row} {c : String} {v : Value} {n : Int}
    (h : row.get? c = some v) (hnull : c = s.primaryKey → v ≠ .null) :
    (assignId s row n).1.get? c = some v := by
  by_cases hc : c = s.primaryKey
  · unfold assignId
    rw [← hc, h]
    cases v with
    | null => exact absurd rfl (hnull hc)
    | _ => exact h
  · rw [get?_assignId_of_ne hc, h]

/-- A row without a primary key is given the next one. -/
theorem get?_assignId_self (s : Shape) (row : Row) (n : Int) :
    (assignId s row n).1.get? s.primaryKey =
      some (if ((row.get? s.primaryKey).getD .null).isNull then .int (word n)
        else (row.get? s.primaryKey).getD .null) := by
  unfold assignId
  split
  · rename_i hkey
    simp [hkey, Value.isNull]
  · rename_i hkey
    simp [hkey, Value.isNull]
  · rename_i id hkey
    simp [hkey, Value.isNull]
  · rename_i v hnull hint hkey
    have hv : v.isNull = false := by
      cases v with
      | null => exact absurd rfl hnull
      | _ => rfl
    simp [hkey, hv]

theorem assignId_of_isNull {row : Row} {n : Int}
    (h : ((row.get? s.primaryKey).getD .null).isNull = true) :
    assignId s row n = (row.insert s.primaryKey (.int (word n)), n + 1) := by
  unfold assignId
  cases hkey : Fields.get? row s.primaryKey with
  | none => rfl
  | some v =>
    rw [hkey, Option.getD_some, Value.isNull_iff] at h
    rw [h]

/-- A count that fits is its own number. -/
theorem word_of_le {n : Int} (h : n ≤ Value.maxInt) : word n = n := if_pos h

theorem word_le (n : Int) : word n ≤ Value.maxInt := by
  unfold word
  split
  · assumption
  · have hlt := Int.bmod_lt (x := n) (m := 0x10000000000000000) (by decide)
    unfold Value.maxInt
    omega

theorem word_of_lt {n : Int} (h : Value.maxInt < n) :
    word n = (n + 0x8000000000000000) % 0x10000000000000000 - 0x8000000000000000 := by
  rw [word, if_neg (Int.not_le.mpr h), Int.bmod_def]
  split <;> omega

/-- As numbers of 64 bits counts go on from each other, whatever was left out of
them before. -/
theorem word_word_add_one (n : Int) : word (word n + 1) = word (n + 1) := by
  by_cases h : n ≤ Value.maxInt
  · rw [word_of_le h]
  · have hn := word_of_lt (Int.not_le.mp h)
    have hsucc := word_of_lt (n := n + 1) (by omega)
    have hle := word_le n
    by_cases hlast : word n + 1 ≤ Value.maxInt
    · rw [word_of_le hlast]
      unfold Value.maxInt at *
      omega
    · rw [word_of_lt (Int.not_le.mp hlast), hsucc, hn]
      omega

theorem word_countPast (n id : Int) : word (countPast n id) = max (word n) (word (id + 1)) := by
  have hle := word_le (id + 1)
  unfold countPast
  generalize word (id + 1) = m at *
  by_cases h : n ≤ Value.maxInt
  · rw [word_of_le h, word_of_le (by omega)]
    omega
  · have hn := word_of_lt (Int.not_le.mp h)
    rw [word_of_lt (by omega), hn]
    unfold Value.maxInt at *
    omega

theorem le_assignId (s : Shape) (row : Row) (n : Int) : n ≤ (assignId s row n).2 := by
  unfold assignId countPast
  split <;> dsimp only <;> omega

/-! ## All rows -/

/-- A row that comes in is put behind all others, or the insert fails. -/
theorem place_of_plain {f g : Filling} {vs : List Value} (h : place s columns [] f vs = .ok g) :
    g.rows = f.rows ++ [(assignId s (incomingRow s columns vs) f.nextId).1] ∧
      g.nextId = (assignId s (incomingRow s columns vs) f.nextId).2 := by
  unfold place at h
  dsimp only at h
  split at h
  · cases h
    exact ⟨rfl, rfl⟩
  · cases h

/-- Rows that come in are put behind all others in their order, each with a
primary key. The counts of their numbers are among those up to the last one. -/
theorem rows_of_foldlM {f g : Filling} {rows : List (List Value)}
    (h : rows.foldlM (place s columns []) f = .ok g) :
    f.nextId ≤ g.nextId ∧ ∃ new, g.rows = f.rows ++ new ∧ List.Forall₂
      (fun vs row => ∃ n, f.nextId ≤ n ∧
        row = (assignId s (incomingRow s columns vs) n).1 ∧
        (assignId s (incomingRow s columns vs) n).2 ≤ g.nextId)
      rows new := by
  induction rows generalizing f with
  | nil =>
    cases h
    exact ⟨Int.le_refl _, [], (List.append_nil _).symm, .nil⟩
  | cons vs rows ih =>
    rw [List.foldlM_cons] at h
    obtain ⟨next, hplace, h⟩ := bind_eq_ok_iff.mp h
    obtain ⟨hrows, hnext⟩ := place_of_plain hplace
    have hle : f.nextId ≤ next.nextId := hnext ▸ le_assignId ..
    obtain ⟨hlast, new, hnew, hall⟩ := ih h
    refine ⟨Int.le_trans hle hlast, (assignId s (incomingRow s columns vs) f.nextId).1 :: new, ?_,
      .cons ⟨_, Int.le_refl _, rfl, hnext ▸ hlast⟩ ?_⟩
    · rw [hnew, hrows, List.append_assoc, List.singleton_append]
    · refine hall.imp ?_
      rintro vs row ⟨n, hn, hrow⟩
      exact ⟨n, Int.le_trans hle hn, hrow⟩

/-- Rows that all come in without a primary key are numbered one after the
other. -/
theorem rows_of_foldlM_of_keyless {f g : Filling} {rows : List (List Value)}
    (h : rows.foldlM (place s columns []) f = .ok g)
    (hkeyless : ∀ vs ∈ rows,
      (((incomingRow s columns vs).get? s.primaryKey).getD .null).isNull = true) :
    g.rows = f.rows ++ rows.mapIdx (fun i vs =>
        (assignId s (incomingRow s columns vs) (f.nextId + i)).1) ∧
      g.nextId = f.nextId + rows.length := by
  induction rows generalizing f with
  | nil =>
    cases h
    simp
  | cons vs rows ih =>
    rw [List.foldlM_cons] at h
    obtain ⟨next, hplace, h⟩ := bind_eq_ok_iff.mp h
    rw [List.forall_mem_cons] at hkeyless
    obtain ⟨hrows, hnext⟩ := ih h hkeyless.2
    obtain ⟨hfirst, hid⟩ := place_of_plain hplace
    rw [assignId_of_isNull hkeyless.1] at hid
    have hnumber : ∀ i : Nat, f.nextId + 1 + (i : Int) = f.nextId + ((i + 1 : Nat) : Int) := by
      intro i
      omega
    rw [hid] at hrows hnext
    refine ⟨?_, ?_⟩
    · rw [hrows, hfirst, List.mapIdx_cons, List.append_assoc, List.singleton_append]
      simp only [hnumber]
      simp
    · rw [hnext, List.length_cons]
      omega

theorem contains_of_checkColumns {columns : List String}
    (h : columns.forM s.checkColumn = .ok ()) :
    ∀ c ∈ columns, Fields.contains s.columns c = true := by
  induction columns with
  | nil => exact nofun
  | cons c columns ih =>
    obtain ⟨_, hc, h⟩ := bind_eq_ok_iff.mp h
    refine List.forall_mem_cons.mpr ⟨?_, ih h⟩
    unfold Shape.checkColumn at hc
    split at hc
    · assumption
    · cases hc

/-- An insert that succeeds knows its columns and lets its rows come in one
after the other. -/
theorem insert_eq_ok {t next : Table} {i : Sql.Insert} {n : Nat} (h : insert t i = .ok (n, next)) :
    (∀ c ∈ i.columns, Fields.contains t.shape.columns c = true) ∧ ∃ f,
      i.rows.foldlM (place t.shape i.columns i.onDuplicate) ⟨t.rows, t.nextId, 0⟩ = .ok f ∧
      next = { t with rows := f.rows, nextId := f.nextId } := by
  obtain ⟨_, hcheck, h⟩ := bind_eq_ok_iff.mp h
  obtain ⟨f, hfold, h⟩ := bind_eq_ok_iff.mp h
  cases h
  exact ⟨contains_of_checkColumns hcheck, f, hfold, rfl⟩

/-- Without columns to take over an insert puts its rows behind those of the
table. -/
theorem insert_of_plain {t next : Table} {i : Sql.Insert} {n : Nat} (hplain : i.onDuplicate = [])
    (h : insert t i = .ok (n, next)) :
    (∀ c ∈ i.columns, Fields.contains t.shape.columns c = true) ∧ ∃ new nextId,
      next = { t with rows := t.rows ++ new, nextId := nextId } ∧ List.Forall₂
        (fun vs row => ∃ n, t.nextId ≤ n ∧
          row = (assignId t.shape (incomingRow t.shape i.columns vs) n).1 ∧
          (assignId t.shape (incomingRow t.shape i.columns vs) n).2 ≤ nextId) i.rows new := by
  obtain ⟨hnamed, f, hfold, rfl⟩ := insert_eq_ok h
  rw [hplain] at hfold
  obtain ⟨-, new, hrows, hall⟩ := rows_of_foldlM hfold
  exact ⟨hnamed, new, f.nextId, by rw [hrows], hall⟩

/-! ## Rows that share a key -/

theorem position?_eq_some {rows : List Row} {test : Row → Bool} {i : Nat}
    (h : position? test rows none = some i) : ∃ row, rows[i]? = some row ∧ test row = true := by
  obtain ⟨⟨row, j⟩, hfind, rfl⟩ := Option.map_eq_some_iff.mp h
  have htest := List.find?_some hfind
  have hplace := List.mem_zipIdx_iff_getElem?.mp (List.mem_of_find?_eq_some hfind)
  exact ⟨row, hplace, by simpa using htest⟩

/-- A stored row has the values of another one under a key of the table. -/
def SharesKey (s : Shape) (row incoming : Row) : Prop :=
  ∃ k ∈ s.keys, ∃ vs, k.of? incoming = some vs ∧ hasValues row k.columns vs = true

theorem sharesKey_of_conflict? {rows : List Row} {incoming : Row} {c : Conflict}
    (h : s.conflict? rows incoming none = some c) :
    ∃ row, rows[c.place]? = some row ∧ SharesKey s row incoming := by
  obtain ⟨k, hk, hshared⟩ := List.exists_of_findSome?_eq_some h
  obtain ⟨vs, hvs, hshared⟩ := Option.bind_eq_some_iff.mp hshared
  obtain ⟨i, hi, heq⟩ := Option.bind_eq_some_iff.mp hshared
  cases heq
  obtain ⟨row, hrow, hvalues⟩ := position?_eq_some hi
  exact ⟨row, hrow, k, hk, vs, hvs, hvalues⟩

theorem nextId_of_place {onDuplicate : List String} {f g : Filling} {vs : List Value}
    (h : place s columns onDuplicate f vs = .ok g) :
    g.nextId = (assignId s (incomingRow s columns vs) f.nextId).2 := by
  unfold place at h
  dsimp only at h
  split at h
  · cases h
    rfl
  · split at h
    · cases h
    · cases h
      rfl

theorem nextId_of_foldlM {onDuplicate : List String} {f g : Filling}
    {incoming : List (List Value)}
    (h : incoming.foldlM (place s columns onDuplicate) f = .ok g) : f.nextId ≤ g.nextId := by
  induction incoming generalizing f with
  | nil =>
    cases h
    exact Int.le_refl _
  | cons vs incoming ih =>
    rw [List.foldlM_cons] at h
    obtain ⟨next, hplace, h⟩ := bind_eq_ok_iff.mp h
    have hstep := le_assignId s (incomingRow s columns vs) f.nextId
    rw [← nextId_of_place hplace] at hstep
    exact Int.le_trans hstep (ih h)

end Tables

end EntityStore

namespace EntityStore.Tables

variable {s : Shape} {u : Sql.Update}

/-- What an update makes of a row. -/
def Changes (u : Sql.Update) (row next : Row) : Prop :=
  next = row ∨ u.predicate.holds row = true ∧ next = (assignAll row u.assignments).1

theorem rows_of_updateRows {done rest rows : List Row} {m n : Nat}
    (h : updateRows s u done rest m = .ok (n, rows)) :
    ∃ changed, rows = done ++ changed ∧ List.Forall₂ (Changes u) rest changed := by
  induction rest generalizing done m with
  | nil =>
    cases h
    exact ⟨[], (List.append_nil _).symm, .nil⟩
  | cons row rest ih =>
    have hput : ∀ {next : Row} {m : Nat}, Changes u row next →
        updateRows s u (done ++ [next]) rest m = .ok (n, rows) →
        ∃ changed, rows = done ++ changed ∧ List.Forall₂ (Changes u) (row :: rest) changed := by
      intro next m hnext h
      obtain ⟨changed, hrows, hall⟩ := ih h
      exact ⟨next :: changed, by rw [hrows, List.append_assoc, List.singleton_append],
        .cons hnext hall⟩
    unfold updateRows at h
    split at h
    · exact hput (.inl rfl) h
    · rename_i hholds
      dsimp only at h
      split at h
      · exact hput (.inl rfl) h
      · split at h
        · cases h
        · exact hput (.inr ⟨by simpa using hholds, rfl⟩) h

/-- An update leaves every row in its place, changed or not. -/
theorem rows_of_update {t next : Table} {n : Nat} (h : update t u = .ok (n, next)) :
    next.shape = t.shape ∧ List.Forall₂ (Changes u) t.rows next.rows := by
  obtain ⟨_, -, h⟩ := bind_eq_ok_iff.mp h
  obtain ⟨⟨m, rows⟩, hrows, h⟩ := bind_eq_ok_iff.mp h
  cases h
  obtain ⟨changed, rfl, hall⟩ := rows_of_updateRows hrows
  exact ⟨rfl, hall⟩

def updateAll (us : List Sql.Update) (t : Table) : Except TableFault Table :=
  us.foldlM (fun t u => (update t u).map (·.2)) t

/-- What holds of a row still holds of it after all updates, when each of them
keeps it where its predicate holds. -/
theorem row_of_updateAll {us : List Sql.Update} {t next : Table} {P : Row → Prop} {i : Nat}
    {row : Row} (h : updateAll us t = .ok next) (hrow : t.rows[i]? = some row) (hP : P row)
    (hstep : ∀ u ∈ us, ∀ r, P r → u.predicate.holds r = true →
      P (assignAll r u.assignments).1) :
    ∃ r, next.rows[i]? = some r ∧ P r := by
  induction us generalizing t row with
  | nil =>
    cases h
    exact ⟨row, hrow, hP⟩
  | cons u us ih =>
    obtain ⟨hfirst, hlater⟩ := List.forall_mem_cons.mp hstep
    rw [updateAll, List.foldlM_cons] at h
    obtain ⟨middle, hupdate, h⟩ := bind_eq_ok_iff.mp h
    cases hu : update t u with
    | error f => rw [hu] at hupdate; cases hupdate
    | ok written =>
      rw [hu] at hupdate
      cases hupdate
      obtain ⟨-, hall⟩ := rows_of_update hu
      obtain ⟨hi, rfl⟩ := List.getElem?_eq_some_iff.mp hrow
      have hi' : i < written.2.rows.length := hall.length_eq ▸ hi
      have hchanges : Changes u t.rows[i] written.2.rows[i] := hall.get hi hi'
      refine ih h (List.getElem?_eq_getElem hi') ?_ hlater
      rcases hchanges with hsame | ⟨hholds, hchanged⟩
      · rw [hsame]
        exact hP
      · rw [hchanged]
        exact hfirst _ hP hholds

end EntityStore.Tables
