-- Named values in the order of their names: the members of a document, the
-- columns of a row. A name occurs once, and names rise in code point order.
-- Every function here keeps that order.

namespace EntityStore

universe u v

/-- Named values, in rising order of the names. -/
abbrev Fields (α : Type u) := List (String × α)

namespace Fields

variable {α : Type u} {β : Type v}

/-- Each name comes before all later ones, so none occurs twice. -/
def Ordered (m : Fields α) : Prop := m.Pairwise fun a b => a.1 < b.1

instance (m : Fields α) : Decidable (Ordered m) :=
  inferInstanceAs (Decidable (m.Pairwise fun a b => a.1 < b.1))

/-! ## Questions -/

/-- The value under a name. -/
def get? : Fields α → String → Option α
  | [], _ => none
  | (l, v) :: rest, k => if k = l then some v else get? rest k

def contains (m : Fields α) (k : String) : Bool := (m.get? k).isSome

def keys (m : Fields α) : List String := List.map (·.1) m

def values (m : Fields α) : List α := List.map (·.2) m

/-! ## Changes -/

/-- The value takes the place of the old one under its name, or the name's
place in the order. -/
def insert : Fields α → String → α → Fields α
  | [], k, v => [(k, v)]
  | (l, w) :: rest, k, v =>
    if k = l then (k, v) :: rest
    else if k < l then (k, v) :: (l, w) :: rest
    else (l, w) :: insert rest k v

def erase : Fields α → String → Fields α
  | [], _ => []
  | (l, w) :: rest, k => if k = l then rest else (l, w) :: erase rest k

/-- The named values of a list. Of two values under one name the later one
stays. -/
def ofList (ps : List (String × α)) : Fields α :=
  ps.foldl (fun m p => insert m p.1 p.2) []

/-- The names of a list in rising order, each once. -/
def names (ks : List String) : List String := keys (ofList (ks.map fun k => (k, ())))

/-- The names of all lists, in the order in which they are met, each once. -/
def allKeys (ms : List (Fields α)) : List String :=
  ms.foldl (fun seen m => seen ++ (keys m).filter fun k => !seen.contains k) []

/-- All values of both, where the second wins. -/
def extend (m n : Fields α) : Fields α := n.foldl (fun m p => insert m p.1 p.2) m

def mapValues (f : α → β) (m : Fields α) : Fields β := List.map (fun p => (p.1, f p.2)) m

/-- The value under a name, changed or made by the function. -/
def alter (m : Fields α) (k : String) (f : Option α → α) : Fields α :=
  insert m k (f (get? m k))

/-! ## Laws -/

@[simp] theorem get?_nil (k : String) : get? ([] : Fields α) k = none := rfl

theorem get?_cons (p : String × α) (rest : Fields α) (k : String) :
    get? (p :: rest) k = if k = p.1 then some p.2 else get? rest k := rfl

theorem get?_insert (m : Fields α) (k l : String) (v : α) :
    get? (insert m k v) l = if l = k then some v else get? m l := by
  induction m with
  | nil => simp [insert, get?]
  | cons p rest ih =>
    obtain ⟨j, w⟩ := p
    by_cases hkj : k = j
    · subst hkj
      by_cases hl : l = k <;> simp [insert, get?, hl]
    · by_cases hlt : k < j
      · by_cases hl : l = k <;> simp [insert, get?, hkj, hlt, hl]
      · by_cases hl : l = k
        · subst hl; simp [insert, get?, hkj, hlt, ih]
        · have hjk : ¬ j = k := fun h => hkj h.symm
          by_cases hlj : l = j <;> simp [insert, get?, hkj, hlt, hl, hlj, hjk, ih]

@[simp] theorem get?_insert_self (m : Fields α) (k : String) (v : α) :
    get? (insert m k v) k = some v := by simp [get?_insert]

/-- Of two values put under one name the second one stays. -/
theorem insert_insert (m : Fields α) (k : String) (v w : α) :
    insert (insert m k v) k w = insert m k w := by
  induction m with
  | nil => simp [insert]
  | cons p rest ih =>
    obtain ⟨l, u⟩ := p
    by_cases hkl : k = l
    · simp [insert, hkl]
    · by_cases hlt : k < l
      · simp [insert, hkl, hlt]
      · simp [insert, hkl, hlt, ih]

theorem mapValues_insert {β : Type} (f : α → β) (m : Fields α) (k : String) (v : α) :
    mapValues f (insert m k v) = insert (mapValues f m) k (f v) := by
  induction m with
  | nil => rfl
  | cons p rest ih =>
    obtain ⟨l, u⟩ := p
    by_cases hkl : k = l
    · simp [insert, mapValues, hkl]
    · by_cases hlt : k < l
      · simp [insert, mapValues, hkl, hlt]
      · simpa [insert, mapValues, hkl, hlt] using ih

/-- Where both have a value under a name, that of the second one counts. -/
theorem get?_extend (m n : Fields α) (k : String) :
    get? (extend m n) k = (get? (ofList n) k).or (get? m k) := by
  induction n generalizing m with
  | nil => rfl
  | cons p rest ih =>
    have hm : get? (extend m (p :: rest)) k = _ := ih (insert m p.1 p.2)
    have hnil : get? (ofList (p :: rest)) k = _ := ih (insert [] p.1 p.2)
    rw [hm, hnil, get?_insert, get?_insert, Option.or_assoc]
    split <;> simp

theorem get?_ofList_append (ps qs : List (String × α)) (k : String) :
    get? (ofList (ps ++ qs)) k = (get? (ofList qs) k).or (get? (ofList ps) k) := by
  have hfold : ofList (ps ++ qs) = extend (ofList ps) qs := List.foldl_append
  rw [hfold, get?_extend]

theorem get?_ofList_nil (k : String) : get? (ofList ([] : List (String × α))) k = none := rfl

theorem get?_ofList_cons (p : String × α) (ps : List (String × α)) (k : String) :
    get? (ofList (p :: ps)) k =
      (get? (ofList ps) k).or (if k = p.1 then some p.2 else none) :=
  get?_ofList_append [p] ps k

theorem get?_eq_none_iff {m : Fields α} {k : String} : get? m k = none ↔ k ∉ keys m := by
  induction m with
  | nil => simp [keys]
  | cons p rest ih =>
    simp only [get?, keys, List.map_cons, List.mem_cons, not_or]
    split
    · simp_all
    · simp_all [keys]

theorem get?_eq_none_of_lt {m : Fields α} {k : String} (h : ∀ p ∈ m, k < p.1) :
    get? m k = none := by
  rw [get?_eq_none_iff]
  intro hk
  obtain ⟨p, hp, rfl⟩ := List.mem_map.mp hk
  exact String.lt_irrefl _ (h p hp)

theorem contains_iff {m : Fields α} {k : String} : contains m k = true ↔ k ∈ keys m := by
  rw [contains, Option.isSome_iff_ne_none, Ne, get?_eq_none_iff, Decidable.not_not]

theorem mem_of_get? {m : Fields α} {k : String} {v : α} (h : get? m k = some v) : (k, v) ∈ m := by
  induction m with
  | nil => cases h
  | cons p rest ih =>
    rw [get?_cons] at h
    split at h
    · rename_i hk
      cases h
      rw [hk]
      exact List.mem_cons_self
    · exact List.mem_cons_of_mem p (ih h)

theorem get?_map (f : String → α → β) (m : Fields α) (k : String) :
    get? (List.map (fun p => (p.1, f p.1 p.2)) m) k = (get? m k).map (f k) := by
  induction m with
  | nil => rfl
  | cons p rest ih =>
    rw [List.map_cons, get?_cons, get?_cons, ih]
    split
    · rename_i hk
      rw [hk]
      rfl
    · rfl

theorem get?_mapValues (f : α → β) (m : Fields α) (k : String) :
    get? (mapValues f m) k = (get? m k).map f := get?_map (fun _ => f) m k

/-- The values under the names that pass a test. -/
theorem get?_filter (test : String → Bool) (m : Fields α) (k : String) :
    get? (List.filter (fun p => test p.1) m) k = if test k then get? m k else none := by
  induction m with
  | nil => simp
  | cons p rest ih =>
    rw [List.filter_cons, get?_cons]
    by_cases hk : k = p.1
    · subst hk
      by_cases htest : test p.1 <;> simp [get?_cons, ih, htest]
    · by_cases htest : test p.1 <;> simp [get?_cons, ih, htest, hk]

/-! ## Order -/

theorem name_lt_or_gt {k l : String} (hne : k ≠ l) (hlt : ¬ k < l) : l < k := by
  have := Std.lt_trichotomy k l
  grind

theorem mem_insert {m : Fields α} {k : String} {v : α} {p : String × α}
    (h : p ∈ insert m k v) : p = (k, v) ∨ p ∈ m := by
  induction m with
  | nil => simpa [insert] using h
  | cons q rest ih =>
    obtain ⟨l, w⟩ := q
    by_cases hkl : k = l
    · grind [insert]
    · by_cases hlt : k < l <;> grind [insert]

theorem mem_extend {m n : Fields α} {p : String × α} (h : p ∈ extend m n) : p ∈ m ∨ p ∈ n := by
  induction n generalizing m with
  | nil => exact Or.inl h
  | cons q rest ih =>
    rcases ih h with h | h
    · rcases mem_insert h with rfl | h
      · exact Or.inr List.mem_cons_self
      · exact Or.inl h
    · exact Or.inr (List.mem_cons_of_mem q h)

theorem mem_of_mem_erase {m : Fields α} {k : String} {p : String × α} (h : p ∈ erase m k) :
    p ∈ m := by
  induction m with
  | nil => simp [erase] at h
  | cons q rest ih => by_cases hkl : k = q.1 <;> grind [erase]

theorem Ordered.insert {m : Fields α} (h : Ordered m) (k : String) (v : α) :
    Ordered (insert m k v) := by
  induction m with
  | nil => simp [Fields.insert, Ordered]
  | cons p rest ih =>
    obtain ⟨l, w⟩ := p
    obtain ⟨hhead, htail⟩ := List.pairwise_cons.1 h
    by_cases hkl : k = l
    · subst hkl
      rw [Fields.insert, if_pos rfl]
      exact List.pairwise_cons.2 ⟨hhead, htail⟩
    · by_cases hlt : k < l
      · have hk : ∀ q ∈ (l, w) :: rest, k < q.1 := by
          intro q hq
          rcases List.mem_cons.1 hq with rfl | hq
          · exact hlt
          · exact String.lt_trans hlt (hhead q hq)
        rw [Fields.insert, if_neg hkl, if_pos hlt]
        exact List.pairwise_cons.2 ⟨hk, h⟩
      · have hl : ∀ q ∈ Fields.insert rest k v, l < q.1 := by
          intro q hq
          rcases mem_insert hq with rfl | hq
          · exact name_lt_or_gt hkl hlt
          · exact hhead q hq
        rw [Fields.insert, if_neg hkl, if_neg hlt]
        exact List.pairwise_cons.2 ⟨hl, ih htail⟩

theorem Ordered.extend {m : Fields α} (h : Ordered m) (n : Fields α) : Ordered (extend m n) := by
  induction n generalizing m with
  | nil => exact h
  | cons p rest ih => exact ih (h.insert p.1 p.2)

theorem ordered_ofList (ps : List (String × α)) : Ordered (ofList ps) :=
  Ordered.extend (m := []) List.Pairwise.nil ps

theorem Ordered.map {m : Fields α} (h : Ordered m) (f : String → α → β) :
    Ordered (List.map (fun p => (p.1, f p.1 p.2)) m) := List.pairwise_map.mpr h

/-- Named values that are in order already stay as they are. -/
theorem get?_ofList {m : Fields α} (h : Ordered m) (k : String) : get? (ofList m) k = get? m k := by
  induction m with
  | nil => rfl
  | cons p rest ih =>
    obtain ⟨hhead, htail⟩ := List.pairwise_cons.1 h
    have hcons : get? (ofList (p :: rest)) k = _ := get?_extend (insert [] p.1 p.2) rest k
    rw [hcons, ih htail, get?_insert, get?_cons]
    split
    · rename_i hk
      rw [get?_eq_none_of_lt (hk ▸ hhead)]
      rfl
    · simp

theorem Ordered.erase {m : Fields α} (h : Ordered m) (k : String) : Ordered (erase m k) := by
  induction m with
  | nil => exact h
  | cons p rest ih =>
    obtain ⟨l, w⟩ := p
    obtain ⟨hhead, htail⟩ := List.pairwise_cons.1 h
    by_cases hkl : k = l
    · rw [Fields.erase, if_pos hkl]
      exact htail
    · rw [Fields.erase, if_neg hkl]
      refine List.pairwise_cons.2 ⟨fun q hq => hhead q ?_, ih htail⟩
      exact mem_of_mem_erase hq

/-! ## Equality -/

/-- No name before the first one has a value. -/
theorem Ordered.get?_eq_none {p : String × α} {m : Fields α} (h : Ordered (p :: m)) {k : String}
    (hk : k < p.1) : get? (p :: m) k = none := by
  apply get?_eq_none_of_lt
  intro q hq
  rcases List.mem_cons.1 hq with rfl | hq
  · exact hk
  · exact String.lt_trans hk ((List.pairwise_cons.1 h).1 q hq)

/-- Named values are what they have under each name. -/
theorem Ordered.ext {m n : Fields α} (hm : Ordered m) (hn : Ordered n)
    (h : ∀ k, get? m k = get? n k) : m = n := by
  induction m generalizing n with
  | nil =>
    cases n with
    | nil => rfl
    | cons q n => simpa [get?_cons] using h q.1
  | cons p m ih =>
    cases n with
    | nil => simpa [get?_cons] using h p.1
    | cons q n =>
      obtain ⟨hp, hmtail⟩ := List.pairwise_cons.1 hm
      obtain ⟨hq, hntail⟩ := List.pairwise_cons.1 hn
      rcases Std.lt_trichotomy p.1 q.1 with hlt | heq | hlt
      · have hnone := hn.get?_eq_none hlt
        rw [← h, get?_cons, if_pos rfl] at hnone
        cases hnone
      · have hhead := h p.1
        rw [get?_cons, get?_cons, if_pos rfl, if_pos heq] at hhead
        have hpq : p = q := Prod.ext heq (Option.some.inj hhead)
        subst hpq
        rw [ih hmtail hntail]
        intro k
        by_cases hk : k = p.1
        · rw [get?_eq_none_of_lt (hk ▸ hp), get?_eq_none_of_lt (hk ▸ hq)]
        · have hrest := h k
          rwa [get?_cons, get?_cons, if_neg hk, if_neg hk] at hrest
      · have hnone := hm.get?_eq_none hlt
        rw [h, get?_cons, if_pos rfl] at hnone
        cases hnone

/-- A value that is there already changes nothing. -/
theorem Ordered.insert_eq_self {m : Fields α} (h : Ordered m) {k : String} {v : α}
    (hk : get? m k = some v) : Fields.insert m k v = m := by
  apply (h.insert k v).ext h
  intro l
  rw [get?_insert]
  by_cases hl : l = k
  · simp [hl, hk]
  · simp [hl]

theorem get?_erase {m : Fields α} (h : Ordered m) (k l : String) :
    get? (erase m k) l = if l = k then none else get? m l := by
  induction m with
  | nil => simp [erase]
  | cons p rest ih =>
    obtain ⟨hhead, htail⟩ := List.pairwise_cons.1 h
    rw [erase]
    split
    · rename_i hk
      by_cases hl : l = k
      · rw [if_pos hl, get?_eq_none_of_lt (hl ▸ hk ▸ hhead)]
      · rw [if_neg hl, get?_cons, if_neg (hk ▸ hl)]
    · rename_i hk
      rw [get?_cons, get?_cons, ih htail]
      by_cases hl : l = k
      · rw [if_pos hl, if_pos hl, if_neg (hl ▸ hk)]
      · rw [if_neg hl, if_neg hl]

/-! ## Names -/

theorem mem_keys_insert {m : Fields α} {k l : String} {v : α} :
    l ∈ keys (insert m k v) ↔ l = k ∨ l ∈ keys m := by
  induction m with
  | nil => simp [insert, keys]
  | cons p rest ih =>
    obtain ⟨j, w⟩ := p
    simp only [keys, List.map_cons, List.mem_cons] at ih ⊢
    by_cases hkj : k = j
    · subst hkj
      simp [insert]
    · by_cases hlt : k < j
      · simp [insert, hkj, hlt]
      · simp only [insert, if_neg hkj, if_neg hlt, List.map_cons, List.mem_cons, ih]
        grind

theorem mem_keys_extend {m n : Fields α} {l : String} :
    l ∈ keys (extend m n) ↔ l ∈ keys m ∨ l ∈ keys n := by
  induction n generalizing m with
  | nil => simp [extend, keys]
  | cons p rest ih =>
    have hrest : l ∈ keys (extend (insert m p.1 p.2) rest) ↔ _ := ih
    rw [mem_keys_insert] at hrest
    have hcons : extend m (p :: rest) = extend (insert m p.1 p.2) rest := rfl
    rw [hcons, hrest]
    simp only [keys, List.map_cons, List.mem_cons]
    grind

theorem mem_keys_ofList {ps : List (String × α)} {l : String} :
    l ∈ keys (ofList ps) ↔ l ∈ keys ps := by
  have h : l ∈ keys (ofList ps) ↔ l ∈ keys [] ∨ l ∈ keys ps := mem_keys_extend
  simpa [keys] using h

/-- Of several values under one name that one counts which comes last. -/
theorem get?_ofList_of_getElem? {ps : List (String × α)} {i : Nat} {p : String × α}
    (hp : ps[i]? = some p) (hlast : p.1 ∉ keys (ps.drop (i + 1))) :
    get? (ofList ps) p.1 = some p.2 := by
  obtain ⟨hi, rfl⟩ := List.getElem?_eq_some_iff.mp hp
  have hsplit : ps = ps.take i ++ ps[i] :: ps.drop (i + 1) := by simp
  have hnone : get? (ofList (ps.drop (i + 1))) ps[i].1 = none :=
    get?_eq_none_iff.mpr fun h => hlast (mem_keys_ofList.mp h)
  rw [congrArg ofList hsplit, get?_ofList_append, get?_ofList_cons, hnone]
  simp

theorem get?_ofList_of_mem {ps : List (String × α)} (hps : (keys ps).Nodup) {p : String × α}
    (hp : p ∈ ps) : get? (ofList ps) p.1 = some p.2 := by
  obtain ⟨i, hi, rfl⟩ := List.getElem_of_mem hp
  refine get?_ofList_of_getElem? (List.getElem?_eq_getElem hi) fun hmem => ?_
  have hsplit : keys ps = keys (ps.take i) ++ ps[i].1 :: keys (ps.drop (i + 1)) := by
    rw [keys, keys, keys, ← List.map_cons, List.getElem_cons_drop, ← List.map_append,
      List.take_append_drop]
  rw [hsplit, List.nodup_append] at hps
  exact (List.nodup_cons.mp hps.2.1).1 hmem

theorem Ordered.pairwise_keys {m : Fields α} (h : Ordered m) : (keys m).Pairwise (· < ·) :=
  List.pairwise_map.mpr h

theorem Ordered.nodup_keys {m : Fields α} (h : Ordered m) : (keys m).Nodup :=
  h.pairwise_keys.imp fun hlt => Std.ne_of_lt hlt

theorem Ordered.get?_of_mem {m : Fields α} (h : Ordered m) {p : String × α} (hp : p ∈ m) :
    get? m p.1 = some p.2 := by
  rw [← get?_ofList h]
  exact get?_ofList_of_mem h.nodup_keys hp

/-- Named values with the same names list them alike. -/
theorem Ordered.keys_eq {m : Fields α} {n : Fields β} (hm : Ordered m) (hn : Ordered n)
    (h : ∀ c, c ∈ keys m ↔ c ∈ keys n) : keys m = keys n := by
  have hperm : (keys m).Perm (keys n) :=
    (List.perm_ext_iff_of_nodup hm.nodup_keys hn.nodup_keys).mpr h
  exact hperm.eq_of_pairwise (fun _ _ _ _ hlt hgt => absurd hgt (Std.not_gt_of_lt hlt))
    hm.pairwise_keys hn.pairwise_keys

theorem mem_names {ks : List String} {k : String} : k ∈ names ks ↔ k ∈ ks := by
  rw [names, mem_keys_ofList]
  simp [keys]

theorem nodup_names (ks : List String) : (names ks).Nodup := (ordered_ofList _).nodup_keys

end Fields

end EntityStore
