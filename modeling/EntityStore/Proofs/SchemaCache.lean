-- What the cache of column types tells. Whatever was called before, a table
-- that is known has the columns of its last load, and nothing since that load
-- made the cache forget it.
import EntityStore.SchemaCache
import Mathlib.Data.List.Induction

namespace EntityStore.SchemaCache

variable {ε : Type}

/-! ## Calls -/

/-- One call on the cache. A fetch comes with what its loader gives if it is
run. -/
inductive Use (ε : Type) where
  | get (k : TableKey)
  | fetch (k : TableKey) (outcome : Except ε Columns)
  | invalidate (table : String)
  | invalidateAll
  | setEnabled (enabled : Bool)

def Use.isFetch : Use ε → Bool
  | .fetch _ _ => true
  | _ => false

/-- What a call did. A fetch is a hit, or its loader was run. -/
inductive Note (ε : Type) where
  | got (k : TableKey) (found : Option Columns)
  | hit (k : TableKey) (result : Except ε Columns)
  | loaded (k : TableKey) (result : Except ε Columns)
  | invalidated (table : String)
  | cleared
  | switched (enabled : Bool)

/-- A call on a cache. The loader of a fetch counts its runs. -/
def Use.on (c : SchemaCache) : Use ε → Note ε × SchemaCache
  | .get k =>
    let (found, c) := c.get? k
    (.got k found, c)
  | .fetch k outcome =>
    let (result, c, runs) := c.fetch k (fun runs => (outcome, runs + 1)) 0
    (if runs = 0 then .hit k result else .loaded k result, c)
  | .invalidate table => (.invalidated table, c.invalidate table)
  | .invalidateAll => (.cleared, c.invalidateAll)
  | .setEnabled enabled => (.switched enabled, c.setEnabled enabled)

/-- What some calls on a new cache did, and the cache after them. -/
def run (capacity : Nat) (enabled : Bool) (us : List (Use ε)) : List (Note ε) × SchemaCache :=
  us.foldl (fun (notes, c) u => (notes ++ [(u.on c).1], (u.on c).2)) ([], make capacity enabled)

theorem run_snoc (capacity : Nat) (enabled : Bool) (us : List (Use ε)) (u : Use ε) :
    run capacity enabled (us ++ [u]) =
      ((run capacity enabled us).1 ++ [(u.on (run capacity enabled us).2).1],
        (u.on (run capacity enabled us).2).2) := by
  rw [run, List.foldl_append]
  rfl

/-! ## The last load -/

/-- The call loaded the columns of a table. -/
def Note.Loads (k : TableKey) (n : Note ε) : Prop := ∃ columns, n = .loaded k (.ok columns)

/-- The call made the cache forget a table. -/
def Note.Forgets (k : TableKey) (n : Note ε) : Prop :=
  n = .invalidated k.table ∨ n = .cleared ∨ n = .switched false

/-- The last load of a table gave the columns, and no call since then made
the cache forget the table. -/
def LoadedLast (notes : List (Note ε)) (k : TableKey) (columns : Columns) : Prop :=
  ∃ before after, notes = before ++ .loaded k (.ok columns) :: after ∧
    ∀ n ∈ after, ¬ n.Loads k ∧ ¬ n.Forgets k

variable {notes : List (Note ε)} {c : SchemaCache} {k : TableKey} {columns : Columns}

theorem loadedLast_snoc_self : LoadedLast (notes ++ [.loaded k (.ok columns)]) k columns :=
  ⟨notes, [], rfl, List.forall_mem_nil _⟩

theorem LoadedLast.snoc {n : Note ε} (h : LoadedLast notes k columns) (hload : ¬ n.Loads k)
    (hforget : ¬ n.Forgets k) : LoadedLast (notes ++ [n]) k columns := by
  obtain ⟨before, after, rfl, hafter⟩ := h
  refine ⟨before, after ++ [n], by simp, ?_⟩
  rw [List.forall_mem_append, List.forall_mem_singleton]
  exact ⟨hafter, hload, hforget⟩

/-! ## What the parts of the cache do -/

theorem mem_others_iff {e : TableKey × Columns} : e ∈ c.others k ↔ e ∈ c.entries ∧ e.1 ≠ k := by
  simp [others]

/-- A table that is known is not among the entries without it. -/
theorem length_others_lt (h : (k, columns) ∈ c.entries) :
    (c.others k).length < c.entries.length := by
  rw [others, List.length_filter_lt_length_iff_exists]
  exact ⟨_, h, by simp⟩

/-- A table is found where it is held and the cache is enabled. It moves to
the front. Otherwise nothing happens. -/
theorem get?_cases (c : SchemaCache) (k : TableKey) :
    (∃ columns, c.enabled = true ∧ (k, columns) ∈ c.entries ∧
        c.get? k = (some columns, { c with entries := (k, columns) :: c.others k })) ∨
      (c.enabled = true → ∀ e ∈ c.entries, e.1 ≠ k) ∧ c.get? k = (none, c) := by
  unfold get?
  cases hon : c.enabled with
  | false => exact .inr ⟨nofun, rfl⟩
  | true =>
    rw [if_neg (by simp)]
    cases hfind : c.entries.find? fun e => decide (e.1 = k) with
    | none =>
      rw [List.find?_eq_none] at hfind
      exact .inr ⟨fun _ e he heq => hfind e he (decide_eq_true heq), rfl⟩
    | some e =>
      obtain ⟨key, columns⟩ := e
      obtain rfl : key = k := by simpa using List.find?_some hfind
      exact .inl ⟨columns, rfl, List.mem_of_find?_eq_some hfind, rfl⟩

/-- A fetch is a hit where the table is found, and runs the loader elsewhere. -/
theorem on_fetch_cases (c : SchemaCache) (k : TableKey) (outcome : Except ε Columns) :
    (∃ columns, c.enabled = true ∧ (k, columns) ∈ c.entries ∧
        (Use.fetch k outcome).on c =
          (.hit k (.ok columns),
            { c with entries := (k, columns) :: c.others k, hits := c.hits + 1 })) ∨
      (c.enabled = true → ∀ e ∈ c.entries, e.1 ≠ k) ∧
        (Use.fetch k outcome).on c =
          (.loaded k outcome,
            match outcome with
            | .ok columns => ({ c with misses := c.misses + 1 } : SchemaCache).put k columns
            | .error _ => { c with misses := c.misses + 1 }) := by
  unfold Use.on fetch
  rcases get?_cases c k with ⟨columns, hon, hmem, hget⟩ | ⟨hnew, hget⟩
  · exact .inl ⟨columns, hon, hmem, by simp only [hget]; rfl⟩
  · refine .inr ⟨hnew, ?_⟩
    simp only [hget]
    cases outcome <;> rfl

/-- A table that was put into the cache is found, since there is room for
it. -/
theorem get?_put_of_room (hon : c.enabled = true) (hroom : 0 < c.capacity) :
    ((c.put k columns).get? k).1 = some columns := by
  obtain ⟨room, hroom⟩ := Nat.exists_eq_add_of_le' hroom
  simp [put, get?, hon, hroom]

/-! ## What every call keeps -/

/-- The cache after some calls: it is not too large, and empty where it is
disabled. It knows what was loaded last, and counts each fetch once. -/
structure Coherent (capacity : Nat) (us : List (Use ε)) (notes : List (Note ε))
    (c : SchemaCache) : Prop where
  capacity_eq : c.capacity = max capacity 1
  length_le : c.entries.length ≤ max capacity 1
  empty_of_disabled : c.enabled = false → c.entries = []
  known : ∀ e ∈ c.entries, LoadedLast notes e.1 e.2
  counted : c.hits + c.misses = us.countP Use.isFetch

namespace Coherent

variable {capacity : Nat} {us : List (Use ε)} {u : Use ε} {n : Note ε} {c' : SchemaCache}

theorem start (capacity : Nat) (enabled : Bool) :
    Coherent capacity ([] : List (Use ε)) [] (make capacity enabled) where
  capacity_eq := rfl
  length_le := Nat.zero_le _
  empty_of_disabled _ := rfl
  known := List.forall_mem_nil _
  counted := rfl

/-- A call that puts nothing new into the cache, and takes out what it makes
the cache forget. -/
theorem keep (h : Coherent capacity us notes c) (hload : ∀ k, ¬ n.Loads k)
    (hcapacity : c'.capacity = c.capacity) (hlength : c'.entries.length ≤ c.entries.length)
    (hdisabled : c'.enabled = false → c'.entries = [])
    (hold : ∀ e ∈ c'.entries, e ∈ c.entries ∧ ¬ n.Forgets e.1)
    (hcount : c'.hits + c'.misses = c.hits + c.misses + if u.isFetch then 1 else 0) :
    Coherent capacity (us ++ [u]) (notes ++ [n]) c' where
  capacity_eq := hcapacity.trans h.capacity_eq
  length_le := Nat.le_trans hlength h.length_le
  empty_of_disabled := hdisabled
  known e he := (h.known e (hold e he).1).snoc (hload e.1) (hold e he).2
  counted := by
    rw [hcount, h.counted, List.countP_append, List.countP_singleton]

/-- A table that is found moves to the front. -/
theorem toFront (h : Coherent capacity us notes c) (hload : ∀ k, ¬ n.Loads k)
    (hforget : ∀ k, ¬ n.Forgets k) (hmem : (k, columns) ∈ c.entries)
    (hcapacity : c'.capacity = c.capacity) (henabled : c.enabled = true)
    (henabled' : c'.enabled = c.enabled) (hentries : c'.entries = (k, columns) :: c.others k)
    (hcount : c'.hits + c'.misses = c.hits + c.misses + if u.isFetch then 1 else 0) :
    Coherent capacity (us ++ [u]) (notes ++ [n]) c' := by
  refine h.keep hload hcapacity ?_ ?_ ?_ hcount
  · rw [hentries, List.length_cons]
    exact length_others_lt hmem
  · rw [henabled', henabled]
    nofun
  · rw [hentries, List.forall_mem_cons]
    exact ⟨⟨hmem, hforget k⟩, fun e he => ⟨(mem_others_iff.mp he).1, hforget e.1⟩⟩

/-- A table that was loaded comes to the front, and all others stay or are
dropped. -/
theorem put (h : Coherent capacity us notes c) :
    Coherent capacity (us ++ [.fetch k (.ok columns)]) (notes ++ [.loaded k (.ok columns)])
      (({ c with misses := c.misses + 1 } : SchemaCache).put k columns) := by
  have hcount : c.hits + (c.misses + 1) =
      (us ++ [(.fetch k (.ok columns) : Use ε)]).countP Use.isFetch := by
    rw [List.countP_append, ← h.counted]
    rfl
  unfold SchemaCache.put
  cases hon : c.enabled with
  | false =>
    have hempty := h.empty_of_disabled hon
    simp only [Bool.not_false, if_true]
    exact ⟨h.capacity_eq, h.length_le, fun _ => hempty, by simp [hempty], hcount⟩
  | true =>
    simp only [Bool.not_true, Bool.false_eq_true, if_false]
    refine ⟨h.capacity_eq, ?_, by simp, ?_, hcount⟩
    · exact h.capacity_eq ▸ List.length_take_le _ _
    · intro e he
      rcases List.mem_cons.mp (List.mem_of_mem_take he) with rfl | he
      · exact loadedLast_snoc_self
      · obtain ⟨he, hne⟩ := mem_others_iff.mp he
        refine (h.known e he).snoc ?_ (by simp [Note.Forgets])
        rintro ⟨_, hload⟩
        cases hload
        exact hne rfl

/-- What some calls left is as coherent after one more call. -/
theorem step (h : Coherent capacity us notes c) (u : Use ε) :
    Coherent capacity (us ++ [u]) (notes ++ [(u.on c).1]) (u.on c).2 := by
  have hsame : ∀ n : Note ε, (∀ k, ¬ n.Loads k) → (∀ k, ¬ n.Forgets k) → u.isFetch = false →
      Coherent capacity (us ++ [u]) (notes ++ [n]) c := fun n hload hforget hu =>
    h.keep hload rfl (Nat.le_refl _) h.empty_of_disabled (fun e he => ⟨he, hforget e.1⟩)
      (by simp [hu])
  cases u with
  | get k =>
    unfold Use.on
    rcases get?_cases c k with ⟨columns, hon, hmem, hget⟩ | ⟨-, hget⟩ <;> simp only [hget]
    · exact h.toFront (by simp [Note.Loads]) (by simp [Note.Forgets]) hmem rfl hon rfl rfl rfl
    · exact hsame _ (by simp [Note.Loads]) (by simp [Note.Forgets]) rfl
  | fetch k outcome =>
    rcases on_fetch_cases c k outcome with ⟨columns, hon, hmem, hfetch⟩ | ⟨-, hfetch⟩ <;>
      rw [hfetch]
    · refine h.toFront (by simp [Note.Loads]) (by simp [Note.Forgets]) hmem rfl hon rfl rfl ?_
      exact Nat.add_right_comm ..
    · cases outcome with
      | ok columns => exact h.put
      | error e =>
        exact h.keep (by simp [Note.Loads]) rfl (Nat.le_refl _) h.empty_of_disabled
          (fun e he => ⟨he, by simp [Note.Forgets]⟩) (Nat.add_assoc ..).symm
  | invalidate table =>
    refine h.keep (by simp [Use.on, Note.Loads]) rfl (List.length_filter_le _ _) ?_ ?_ rfl
    · intro hon
      show c.entries.filter _ = []
      rw [h.empty_of_disabled hon]
      rfl
    · intro e he
      obtain ⟨he, hne⟩ := List.mem_filter.mp he
      refine ⟨he, ?_⟩
      rintro (hforget | hforget | hforget) <;> cases hforget
      simp at hne
  | invalidateAll =>
    exact h.keep (by simp [Use.on, Note.Loads]) rfl (Nat.zero_le _) (fun _ => rfl)
      (List.forall_mem_nil _) rfl
  | setEnabled enabled =>
    cases enabled with
    | true =>
      exact h.keep (by simp [Use.on, Note.Loads]) rfl (Nat.le_refl _) nofun
        (fun e he => ⟨he, by simp [Use.on, Note.Forgets]⟩) rfl
    | false =>
      exact h.keep (by simp [Use.on, Note.Loads]) rfl (Nat.zero_le _) (fun _ => rfl)
        (List.forall_mem_nil _) rfl

end Coherent

/-- The cache is coherent after any calls. -/
theorem coherent_run (capacity : Nat) (enabled : Bool) (us : List (Use ε)) :
    Coherent capacity us (run capacity enabled us).1 (run capacity enabled us).2 := by
  induction us using List.reverseRecOn with
  | nil => exact .start capacity enabled
  | append_singleton us u ih =>
    rw [run_snoc]
    exact ih.step u

/-- After any calls the cache holds no more tables than it has room for, and none while it is
disabled, and each fetch was counted once. What the next call finds was loaded last, and not
forgotten since. Where it finds nothing the loader is run, which is so in a disabled cache
always: a failure leaves what is known as it was, and what was loaded is found from then on.
Forgetting a table takes away its columns on every connection, and nothing else. -/
theorem a_cache_tells_what_was_loaded_last (capacity : Nat) (enabled : Bool) (us : List (Use ε)) :
    let notes := (run capacity enabled us).1
    let c := (run capacity enabled us).2
    c.entries.length ≤ max capacity 1 ∧
      (c.enabled = false → c.entries = []) ∧
      c.hits + c.misses = us.countP Use.isFetch ∧
      (∀ k columns, (c.get? k).1 = some columns → LoadedLast notes k columns) ∧
      (∀ k outcome,
        (∃ columns, c.enabled = true ∧ LoadedLast notes k columns ∧
            ((Use.fetch k outcome : Use ε).on c).1 = .hit k (.ok columns)) ∨
          ((Use.fetch k outcome).on c).1 = .loaded k outcome ∧
            let after := ((Use.fetch k outcome).on c).2
            match outcome with
            | .ok columns => c.enabled = true → (after.get? k).1 = some columns
            | .error _ => after.entries = c.entries) ∧
      ∀ table e, e ∈ (c.invalidate table).entries ↔ e ∈ c.entries ∧ e.1.table ≠ table := by
  intro notes c
  have h : Coherent capacity us notes c := coherent_run capacity enabled us
  refine ⟨h.length_le, h.empty_of_disabled, h.counted, ?_, ?_, ?_⟩
  · intro k columns hget
    rcases get?_cases c k with ⟨found, -, hmem, hfound⟩ | ⟨-, hnone⟩
    · rw [hfound] at hget
      cases hget
      exact h.known _ hmem
    · rw [hnone] at hget
      cases hget
  · intro k outcome
    rcases on_fetch_cases c k outcome with ⟨columns, hon, hmem, hfetch⟩ | ⟨-, hfetch⟩
    · exact .inl ⟨columns, hon, h.known _ hmem, by rw [hfetch]⟩
    · refine .inr ⟨by rw [hfetch], ?_⟩
      rw [hfetch]
      cases outcome with
      | error e => rfl
      | ok columns =>
        intro _ hon
        refine get?_put_of_room hon ?_
        show 0 < c.capacity
        rw [h.capacity_eq]
        exact Nat.le_max_right capacity 1
  · intro table e
    simp [invalidate]

end EntityStore.SchemaCache
