-- The keys of a table. Whatever is done to an engine, no two rows of a table
-- agree on a key, as long as no insert writes over a column of the key where
-- it meets a stored row. Such a row is not compared with the others again.
import EntityStore.Proofs.Tables.Placing
import EntityStore.Proofs.Tables.Steps
import EntityStore.Proofs.Value.Kinds

namespace EntityStore.Tables

variable {s : Shape} {k : Key} {rows : List Row} {a b row incoming : Row}

/-! ## Rows that agree on a key -/

theorem Agree.symm {c : String} (h : Agree a b c) : Agree b a c := by
  rwa [Agree, Value.agrees_comm]

/-- Two rows agree on each column of the key. So none of these is null. -/
def Key.Joins (k : Key) (a b : Row) : Prop := ∀ c ∈ k.columns, Agree a b c

theorem Key.Joins.symm (h : k.Joins a b) : k.Joins b a := fun c hc => (h c hc).symm

theorem Key.joins_congr (h : ∀ c ∈ k.columns, a.get? c = b.get? c) :
    k.Joins row a ↔ k.Joins row b := by
  refine forall₂_congr fun c hc => ?_
  rw [Agree, Agree, valueAt, valueAt, valueAt, h c hc]

theorem sharesKey_of_joins (hk : k ∈ s.keys) (h : k.Joins row incoming) :
    SharesKey s row incoming :=
  sharesKey_iff.mpr ⟨k, hk, h⟩

theorem not_joins_of_conflict?_eq_none {skip : Option Nat} (hk : k ∈ s.keys)
    (h : s.conflict? rows incoming skip = none) {i : Nat} (hrow : rows[i]? = some row)
    (hi : skip ≠ some i) : ¬ k.Joins row incoming := by
  intro hjoins
  obtain ⟨vs, hvs, hvalues⟩ := hasValues_iff.mpr hjoins
  have hkey := List.findSome?_eq_none_iff.mp h k hk
  rw [hvs, Option.bind_eq_bind, Option.bind_some] at hkey
  cases hposition : position? (hasValues · k.columns vs) rows skip with
  | none =>
    rw [test_at_of_position?_eq_none hposition hrow hi] at hvalues
    cases hvalues
  | some j =>
    rw [hposition] at hkey
    cases hkey

/-! ## Rows that a key tells apart -/

/-- No two rows agree on the key. -/
def Key.Separates (k : Key) (rows : List Row) : Prop := rows.Pairwise fun a b => ¬ k.Joins a b

theorem Key.Separates.not_joins (h : k.Separates rows) {i j : Nat} (ha : rows[i]? = some a)
    (hb : rows[j]? = some b) (hij : i ≠ j) : ¬ k.Joins a b := by
  obtain ⟨hi, rfl⟩ := List.getElem?_eq_some_iff.mp ha
  obtain ⟨hj, rfl⟩ := List.getElem?_eq_some_iff.mp hb
  have hpairs := List.pairwise_iff_getElem.mp h
  rcases Nat.lt_or_gt_of_ne hij with hlt | hlt
  · exact hpairs i j hi hj hlt
  · exact fun hjoins => hpairs j i hj hi hlt hjoins.symm

theorem Key.Separates.concat (h : k.Separates rows)
    (hnew : ∀ row ∈ rows, ¬ k.Joins row incoming) : k.Separates (rows ++ [incoming]) := by
  refine List.pairwise_append.mpr ⟨h, List.pairwise_singleton .., fun row hrow => ?_⟩
  rw [List.forall_mem_singleton]
  exact hnew row hrow

/-- A row that agrees with none of the others may take the place of one. -/
theorem Key.Separates.set (h : k.Separates rows) {i : Nat} {next : Row}
    (hnew : ∀ j row, rows[j]? = some row → j ≠ i → ¬ k.Joins row next) :
    k.Separates (rows.set i next) := by
  refine List.pairwise_iff_getElem.mpr fun m n hm hn hmn => ?_
  rw [List.length_set] at hm hn
  rw [List.getElem_set, List.getElem_set]
  split
  · have hne : n ≠ i := by omega
    rw [if_neg hne.symm]
    exact fun hjoins => hnew n _ (List.getElem?_eq_getElem hn) hne hjoins.symm
  · rename_i him
    split
    · exact hnew m _ (List.getElem?_eq_getElem hm) (Ne.symm him)
    · exact List.pairwise_iff_getElem.mp h m n hm hn hmn

/-! ## Inserts -/

variable {columns onDuplicate : List String} {f g : Filling} {vs : List Value}

/-- A row that comes in is compared with all others, and one that takes over
from it keeps its columns of the key. -/
theorem separates_of_place (hk : k ∈ s.keys) (hkept : ∀ c ∈ k.columns, c ∉ onDuplicate)
    (hrows : k.Separates f.rows) (h : place s columns onDuplicate f vs = .ok g) :
    k.Separates g.rows := by
  rcases (place_eq_ok h).2 with ⟨hfresh, hg⟩ | ⟨i, stored, hstored, -, hg⟩
  · rw [hg]
    exact hrows.concat fun row hrow hjoins => hfresh row hrow (sharesKey_of_joins hk hjoins)
  · rw [hg]
    refine hrows.set fun j row hrow hj => ?_
    rw [Key.joins_congr fun c hc => get?_takeFrom_of_not_mem (hkept c hc)]
    exact hrows.not_joins hrow hstored hj

theorem separates_of_foldlM (hk : k ∈ s.keys) (hkept : ∀ c ∈ k.columns, c ∉ onDuplicate)
    {all : List (List Value)} (hrows : k.Separates f.rows)
    (h : all.foldlM (place s columns onDuplicate) f = .ok g) : k.Separates g.rows := by
  induction all generalizing f with
  | nil =>
    cases h
    exact hrows
  | cons vs all ih =>
    rw [List.foldlM_cons] at h
    obtain ⟨next, hplace, h⟩ := bind_eq_ok_iff.mp h
    exact ih (separates_of_place hk hkept hrows hplace) h

/-! ## Tables -/

/-- A table of the shape whose rows the key tells apart. -/
structure Guarded (s : Shape) (k : Key) (t : Table) : Prop where
  shape : t.shape = s
  separates : k.Separates t.rows

variable {t next : Table} {n : Nat}

theorem Guarded.insert (h : Guarded s k t) (hk : k ∈ s.keys) {i : Sql.Insert}
    (hkept : ∀ c ∈ k.columns, c ∉ i.onDuplicate) (hinsert : insert t i = .ok (n, next)) :
    Guarded s k next := by
  obtain ⟨rfl, hrows⟩ := h
  obtain ⟨-, f, hfold, rfl⟩ := insert_eq_ok hinsert
  exact ⟨rfl, separates_of_foldlM (f := ⟨t.rows, t.nextId, 0⟩) hk hkept hrows hfold⟩

/-- A row that an update changes is compared with all others, the ones that it
has changed before and the ones that are left. -/
theorem separates_of_updateRows (hk : k ∈ s.keys) {u : Sql.Update} {done rest : List Row} {m : Nat}
    (hrows : k.Separates (done ++ rest)) (h : updateRows s u done rest m = .ok (n, rows)) :
    k.Separates rows := by
  induction rest generalizing done m with
  | nil =>
    cases h
    rwa [List.append_nil] at hrows
  | cons row rest ih =>
    have hsame : k.Separates (done ++ [row] ++ rest) := by
      rwa [List.append_assoc, List.singleton_append]
    unfold updateRows at h
    split at h
    · exact ih hsame h
    · dsimp only at h
      split at h
      · exact ih hsame h
      · split at h
        · cases h
        · rename_i hfree
          refine ih ?_ h
          have hset : done ++ [(assignAll row u.assignments).1] ++ rest =
              (done ++ row :: rest).set done.length (assignAll row u.assignments).1 := by
            rw [List.set_append_right _ _ (Nat.le_refl _), Nat.sub_self, List.append_assoc]
            rfl
          rw [hset]
          refine hrows.set fun j other hother hj => ?_
          refine not_joins_of_conflict?_eq_none hk hfree (i := j) ?_ fun hskip =>
            hj (Option.some.inj hskip).symm
          rw [← hother, List.getElem?_append, List.getElem?_append]
          split
          · rfl
          · have hj' : j - done.length ≠ 0 := by omega
            rw [List.getElem?_cons, List.getElem?_cons, if_neg hj', if_neg hj']

theorem Guarded.update (h : Guarded s k t) (hk : k ∈ s.keys) {u : Sql.Update}
    (hupdate : update t u = .ok (n, next)) : Guarded s k next := by
  obtain ⟨rfl, hrows⟩ := h
  obtain ⟨_, -, hupdate⟩ := bind_eq_ok_iff.mp hupdate
  obtain ⟨⟨m, rows⟩, hchanged, hupdate⟩ := bind_eq_ok_iff.mp hupdate
  cases hupdate
  have hrows : k.Separates ([] ++ t.rows) := hrows
  exact ⟨rfl, separates_of_updateRows hk hrows hchanged⟩

theorem Guarded.delete (h : Guarded s k t) (d : Sql.Delete) : Guarded s k (delete t d).2 :=
  ⟨h.shape, h.separates.filter _⟩

/-- Documents come in by plain inserts. -/
theorem Guarded.seed (h : Guarded s k t) (hk : k ∈ s.keys) (docs : List Json) :
    Guarded s k (seed t docs n).2 :=
  seed_keeps h (fun _ _ _ _ hinsert ht => ht.insert hk (fun _ _ => List.not_mem_nil) hinsert) docs

/-! ## Engines -/

/-- The step writes over no column of the key where a row that comes into the
table meets a stored one. -/
def Step.Spares (table : String) (k : Key) : Step → Prop
  | .execute _ (.insert i) => i.table = table → ∀ c ∈ k.columns, c ∉ i.onDuplicate
  | _ => True

/-- The table of the shape is there, and the key tells its rows apart. -/
def Guards (s : Shape) (k : Key) (ts : Tables) : Prop := Has s.name (Guarded s k) ts

variable {e : Engine}

theorem guards_create (s : Shape) (k : Key) (e : Engine) : Guards s k (e.create s).tables :=
  has_create ⟨rfl, .nil⟩ e

theorem Step.Spares.keeps {step : Step} (h : step.Spares s.name k) (hk : k ∈ s.keys) :
    step.Keeps s.name (Guarded s k) := by
  cases step with
  | seed table docs => exact fun _ _ ht => ht.seed hk docs
  | execute role st =>
    cases st with
    | select q => trivial
    | count q => trivial
    | insert i => exact fun hname _ _ _ hinsert ht => ht.insert hk (h hname) hinsert
    | update u => exact fun _ _ _ _ hupdate ht => ht.update hk hupdate
    | delete d => exact fun _ _ ht => ht.delete d

theorem Guards.steps (h : Guards s k e.tables) (hk : k ∈ s.keys) {steps : List Step}
    (hspares : ∀ step ∈ steps, step.Spares s.name k) :
    Guards s k (steps.foldl Step.run e).tables :=
  Has.steps h fun step hstep => (hspares step hstep).keeps hk

/-- Whatever is done to an engine after a table was made, no two rows of the
table agree on a key, if no insert writes over a column of this key. -/
theorem a_key_that_no_insert_writes_over_tells_all_rows_apart (e : Engine) (s : Shape)
    {steps : List Step} {k : Key} (hk : k ∈ s.keys)
    (hspares : ∀ step ∈ steps, step.Spares s.name k) :
    ∃ t, (steps.foldl Step.run (e.create s)).tables.find s.name = .ok t ∧ t.shape = s ∧
      ∀ (i j : Nat) (a b : Row), t.rows[i]? = some a → t.rows[j]? = some b → i ≠ j →
        ∃ c ∈ k.columns, ¬ Agree a b c := by
  obtain ⟨t, ht, hshape, hrows⟩ := (guards_create s k e).steps hk hspares
  refine ⟨t, ht, hshape, fun i j a b ha hb hij => ?_⟩
  by_contra hall
  exact hrows.not_joins ha hb hij fun c hc => by_contra fun hne => hall ⟨c, hc, hne⟩

/-- Products are seeded, and then one of them takes over a name and another
one a sku. -/
theorem the_skus_of_products_stay_apart :
    let shape := Shape.make "products" "id" [("name", .text), ("sku", .text)]
      [⟨"uniq_sku", ["sku"]⟩]
    let steps : List Step := [
      .seed "products" [.obj [("id", .int 1), ("sku", .str "A")],
        .obj [("id", .int 2), ("sku", .str "B")]],
      .execute .primary (.insert ⟨"products", ["id", "sku", "name"],
        [[.int 1, .text "B", .text "Oak"]], ["name"]⟩),
      .execute .primary (.update ⟨"products", [("sku", .text "A")], .eq (.plain "id") (.int 2)⟩)]
    (∀ step ∈ steps, step.Spares "products" ⟨"uniq_sku", ["sku"]⟩) ∧
    ∃ t, (steps.foldl Step.run (Engine.create {} shape)).tables.find "products" = .ok t ∧
      t.shape = shape ∧ ∀ (i j : Nat) (a b : Row), t.rows[i]? = some a → t.rows[j]? = some b →
        i ≠ j → ∃ c ∈ ["sku"], ¬ Agree a b c := by
  intro shape steps
  have hspares : ∀ step ∈ steps, step.Spares "products" ⟨"uniq_sku", ["sku"]⟩ := by
    simp [steps, Step.Spares]
  exact ⟨hspares, a_key_that_no_insert_writes_over_tells_all_rows_apart {} shape
    (k := ⟨"uniq_sku", ["sku"]⟩) (List.mem_cons_of_mem _ List.mem_cons_self) hspares⟩

/-- An insert that writes over the skus of products makes two of them the
same. -/
example :
    let shape := Shape.make "products" "id" [("sku", .text)] [⟨"uniq_sku", ["sku"]⟩]
    let steps : List Step := [
      .seed "products" [.obj [("id", .int 1), ("sku", .str "A")],
        .obj [("id", .int 2), ("sku", .str "B")]],
      .execute .primary (.insert ⟨"products", ["id", "sku"], [[.int 1, .text "B"]], ["sku"]⟩)]
    (steps.foldl Step.run (Engine.create {} shape)).rows "products" =
      [[("id", .int 1), ("sku", .text "B")], [("id", .int 2), ("sku", .text "B")]] := by
  cbv

end EntityStore.Tables
