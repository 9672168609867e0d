-- Documents grouped by keys. Each key has one group, the groups rise with their
-- keys, and a group holds the documents that have its key. Where values are plain
-- this is so of the values of a field, and of the combinations of several.
import EntityStore.Proofs.Indices.Renumbering
import EntityStore.Proofs.Value.Orders
import Mathlib.Data.List.Forall2

namespace EntityStore.Indices

variable {κ : Type} {order : κ → κ → Ordering} {sort : κ → Prop}

namespace Cell

/-! ## One more document -/

/-- The keys of groups are of a sort, and rise from group to group. -/
structure Sorted (order : κ → κ → Ordering) (sort : κ → Prop) (cells : List (Cell κ)) : Prop where
  keys : ∀ c ∈ cells, sort c.key
  rising : cells.Pairwise fun c d => order c.key d.key = .lt

variable {cells : List (Cell κ)} {key : κ} {shown : Json} {p : Part} {c : Cell κ}

theorem mem_add (horder : Orders order sort) (hcells : Sorted order sort cells) (hkey : sort key) :
    c ∈ add order key shown p cells ↔
      c ∈ cells ∧ c.key ≠ key ∨ (∃ d ∈ cells, d.key = key ∧ c = { d with docs := d.docs ++ [p] }) ∨
        (∀ d ∈ cells, d.key ≠ key) ∧ c = ⟨key, shown, [p]⟩ := by
  induction cells with
  | nil => simp [add]
  | cons d rest ih =>
    obtain ⟨hd, hrest⟩ := List.forall_mem_cons.mp hcells.keys
    obtain ⟨hbehind, hrising⟩ := List.pairwise_cons.mp hcells.rising
    have hne : ∀ e ∈ rest, e.key ≠ d.key := fun e he heq => by
      have := hbehind e he
      rw [heq, horder.self hd] at this
      cases this
    rw [add]
    cases hcompare : order key d.key with
    | lt =>
      have hnone : ∀ e ∈ d :: rest, e.key ≠ key := by
        refine List.forall_mem_cons.mpr ⟨(horder.ne_of_lt hkey hcompare).symm, fun e he => ?_⟩
        exact (horder.ne_of_lt hkey
          (horder.trans hkey hd (hrest e he) hcompare (hbehind e he))).symm
      dsimp only
      rw [List.mem_cons]
      constructor
      · rintro (rfl | hc)
        · exact .inr (.inr ⟨hnone, rfl⟩)
        · exact .inl ⟨hc, hnone c hc⟩
      · rintro (⟨hc, -⟩ | ⟨e, he, heq, -⟩ | ⟨-, rfl⟩)
        · exact .inr hc
        · exact absurd heq (hnone e he)
        · exact .inl rfl
    | eq =>
      obtain rfl := (horder.eq_iff hkey hd).mp hcompare
      dsimp only
      rw [List.mem_cons]
      constructor
      · rintro (rfl | hc)
        · exact .inr (.inl ⟨d, List.mem_cons_self, rfl, rfl⟩)
        · exact .inl ⟨List.mem_cons_of_mem d hc, hne c hc⟩
      · rintro (⟨hc, hcne⟩ | ⟨e, he, heq, rfl⟩ | ⟨hnone, -⟩)
        · exact .inr ((List.mem_cons.mp hc).resolve_left fun h => hcne (h ▸ rfl))
        · rcases List.mem_cons.mp he with rfl | he
          · exact .inl rfl
          · exact absurd heq (hne e he)
        · exact absurd rfl (hnone d List.mem_cons_self)
    | gt =>
      have hdne : d.key ≠ key := horder.ne_of_lt hd (horder.gt_iff.mp hcompare)
      have hsorted : Sorted order sort rest := ⟨hrest, hrising⟩
      simp only [List.mem_cons, ih hsorted]
      constructor
      · rintro (rfl | ⟨hc, hcne⟩ | ⟨e, he, heq, rfl⟩ | ⟨hnone, rfl⟩)
        · exact .inl ⟨.inl rfl, hdne⟩
        · exact .inl ⟨.inr hc, hcne⟩
        · exact .inr (.inl ⟨e, .inr he, heq, rfl⟩)
        · exact .inr (.inr ⟨fun e he => he.elim (· ▸ hdne) (hnone e), rfl⟩)
      · rintro (⟨rfl | hc, hcne⟩ | ⟨e, rfl | he, heq, rfl⟩ | ⟨hnone, rfl⟩)
        · exact .inl rfl
        · exact .inr (.inl ⟨hc, hcne⟩)
        · exact absurd heq hdne
        · exact .inr (.inr (.inl ⟨e, he, heq, rfl⟩))
        · exact .inr (.inr (.inr ⟨fun e he => hnone e (.inr he), rfl⟩))

theorem sorted_add (horder : Orders order sort) (hcells : Sorted order sort cells)
    (hkey : sort key) : Sorted order sort (add order key shown p cells) := by
  refine ⟨fun c hc => ?_, ?_⟩
  · rcases (mem_add horder hcells hkey).mp hc with ⟨hc, -⟩ | ⟨d, hd, -, rfl⟩ | ⟨-, rfl⟩
    · exact hcells.keys c hc
    · exact hcells.keys d hd
    · exact hkey
  · induction cells with
    | nil => exact List.pairwise_singleton _ _
    | cons d rest ih =>
      obtain ⟨hd, hrest⟩ := List.forall_mem_cons.mp hcells.keys
      obtain ⟨hbehind, hrising⟩ := List.pairwise_cons.mp hcells.rising
      have hsorted : Sorted order sort rest := ⟨hrest, hrising⟩
      rw [add]
      cases hcompare : order key d.key with
      | lt =>
        refine List.pairwise_cons.mpr ⟨List.forall_mem_cons.mpr ⟨hcompare, fun e he => ?_⟩,
          hcells.rising⟩
        exact horder.trans hkey hd (hrest e he) hcompare (hbehind e he)
      | eq => exact List.pairwise_cons.mpr ⟨hbehind, hrising⟩
      | gt =>
        refine List.pairwise_cons.mpr ⟨fun e he => ?_, ih hsorted⟩
        rcases (mem_add horder hsorted hkey).mp he with ⟨he, -⟩ | ⟨f, hf, -, rfl⟩ | ⟨-, rfl⟩
        · exact hbehind e he
        · exact hbehind f hf
        · exact horder.gt_iff.mp hcompare

/-! ## All documents -/

/-- A document with one of its keys, and how the key is shown. -/
structure Entry (κ : Type) where
  key : κ
  shown : Json
  part : Part

def Entry.addTo (order : κ → κ → Ordering) (cells : List (Cell κ)) (x : Entry κ) : List (Cell κ) :=
  add order x.key x.shown x.part cells

/-- The key of the entry equals another one. -/
def Entry.hasKey (order : κ → κ → Ordering) (key : κ) (x : Entry κ) : Bool :=
  (order x.key key).isEq

/-- The documents with all their keys. -/
def entries (keys : Part → List (κ × Json)) (docs : List Part) : List (Entry κ) :=
  docs.flatMap fun p => (keys p).map fun k => ⟨k.1, k.2, p⟩

theorem group_eq_foldl (order : κ → κ → Ordering) (keys : Part → List (κ × Json))
    (docs : List Part) :
    group order keys docs = (entries keys docs).foldl (Entry.addTo order) [] := by
  rw [entries, List.foldl_flatMap]
  simp only [List.foldl_map]
  rfl

variable {xs : List (Entry κ)} {x : Entry κ}

/-- Groups hold entries by their keys. -/
structure Groups (order : κ → κ → Ordering) (sort : κ → Prop) (xs : List (Entry κ))
    (cells : List (Cell κ)) : Prop extends Sorted order sort cells where
  docs : ∀ c ∈ cells, c.docs = (xs.filter (Entry.hasKey order c.key)).map (·.part)
  shown : ∀ c ∈ cells, ∃ x ∈ xs, x.key = c.key ∧ x.shown = c.shown
  covers : ∀ x ∈ xs, ∃ c ∈ cells, c.key = x.key

theorem Groups.add (horder : Orders order sort) (h : Groups order sort xs cells)
    (hx : sort x.key) : Groups order sort (xs ++ [x]) (x.addTo order cells) where
  toSorted := sorted_add horder h.toSorted hx
  docs := by
    intro c hc
    rw [List.filter_append, List.map_append]
    rcases (mem_add horder h.toSorted hx).mp hc with ⟨hc, hne⟩ | ⟨d, hd, heq, rfl⟩ | ⟨hnone, rfl⟩
    · have hother : ¬ x.hasKey order c.key = true :=
        fun heq => hne ((horder.isEq_iff hx (h.keys c hc)).mp heq).symm
      rw [List.filter_cons_of_neg hother, List.filter_nil, List.map_nil, List.append_nil]
      exact h.docs c hc
    · have hsame : x.hasKey order d.key = true := (horder.isEq_iff hx (h.keys d hd)).mpr heq.symm
      show d.docs ++ [x.part] = _
      rw [List.filter_cons_of_pos hsame, h.docs d hd]
      rfl
    · have hself : x.hasKey order x.key = true := (horder.isEq_iff hx hx).mpr rfl
      have hbefore : xs.filter (Entry.hasKey order x.key) = [] := by
        refine List.filter_eq_nil_iff.mpr fun y hy heq => ?_
        obtain ⟨c, hc, hkey⟩ := h.covers y hy
        exact hnone c hc (hkey.trans ((horder.isEq_iff (hkey ▸ h.keys c hc) hx).mp heq))
      show [x.part] = _
      rw [hbefore, List.filter_cons_of_pos hself]
      rfl
  shown := by
    intro c hc
    rcases (mem_add horder h.toSorted hx).mp hc with ⟨hc, -⟩ | ⟨d, hd, -, rfl⟩ | ⟨-, rfl⟩
    · obtain ⟨y, hy, hsame⟩ := h.shown c hc
      exact ⟨y, List.mem_append_left _ hy, hsame⟩
    · obtain ⟨y, hy, hsame⟩ := h.shown d hd
      exact ⟨y, List.mem_append_left _ hy, hsame⟩
    · exact ⟨x, List.mem_append_right _ List.mem_cons_self, rfl, rfl⟩
  covers := by
    have hkept : ∀ c ∈ cells, ∃ d ∈ x.addTo order cells, d.key = c.key := by
      intro c hc
      by_cases heq : c.key = x.key
      · exact ⟨_, (mem_add horder h.toSorted hx).mpr (.inr (.inl ⟨c, hc, heq, rfl⟩)), rfl⟩
      · exact ⟨c, (mem_add horder h.toSorted hx).mpr (.inl ⟨hc, heq⟩), rfl⟩
    intro y hy
    rcases List.mem_append.mp hy with hy | hy
    · obtain ⟨c, hc, hkey⟩ := h.covers y hy
      obtain ⟨d, hd, hsame⟩ := hkept c hc
      exact ⟨d, hd, hsame.trans hkey⟩
    · obtain rfl := List.mem_singleton.mp hy
      by_cases hthere : ∃ c ∈ cells, c.key = y.key
      · obtain ⟨c, hc, hkey⟩ := hthere
        obtain ⟨d, hd, hsame⟩ := hkept c hc
        exact ⟨d, hd, hsame.trans hkey⟩
      · have hnone : ∀ d ∈ cells, d.key ≠ y.key := fun d hd heq => hthere ⟨d, hd, heq⟩
        exact ⟨_, (mem_add horder h.toSorted hx).mpr (.inr (.inr ⟨hnone, rfl⟩)), rfl⟩

theorem Groups.foldl (horder : Orders order sort) (h : Groups order sort xs cells)
    {ys : List (Entry κ)} (hys : ∀ y ∈ ys, sort y.key) :
    Groups order sort (xs ++ ys) (ys.foldl (Entry.addTo order) cells) := by
  induction ys generalizing xs cells with
  | nil => rwa [List.append_nil]
  | cons y ys ih =>
    obtain ⟨hy, hys⟩ := List.forall_mem_cons.mp hys
    rw [List.foldl_cons, List.append_cons]
    exact ih (h.add horder hy) hys

/-- What documents are grouped into are the groups of all their keys. -/
theorem groups_group (horder : Orders order sort) {keys : Part → List (κ × Json)}
    {docs : List Part} (hkeys : ∀ p ∈ docs, ∀ k ∈ keys p, sort k.1) :
    Groups order sort (entries keys docs) (group order keys docs) := by
  have hnone : Groups order sort ([] : List (Entry κ)) [] := ⟨⟨nofun, .nil⟩, nofun, nofun, nofun⟩
  rw [group_eq_foldl]
  refine hnone.foldl horder fun x hx => ?_
  obtain ⟨p, hp, hx⟩ := List.mem_flatMap.mp hx
  obtain ⟨k, hk, rfl⟩ := List.mem_map.mp hx
  exact hkeys p hp k hk

/-- A key of the document equals another one. -/
def hasKey (order : κ → κ → Ordering) (keys : Part → List (κ × Json)) (key : κ) (p : Part) : Bool :=
  (keys p).any fun k => (order k.1 key).isEq

variable {keys : Part → List (κ × Json)} {docs : List Part}

theorem hasKey_iff (horder : Orders order sort) (hkeys : ∀ k ∈ keys p, sort k.1) (hkey : sort key) :
    hasKey order keys key p = true ↔ key ∈ (keys p).map (·.1) := by
  rw [hasKey, List.any_eq_true, List.mem_map]
  exact exists_congr fun k => and_congr_right fun hk => horder.isEq_iff (hkeys k hk) hkey

/-- A key that a document has once makes one entry of it. -/
theorem parts_of_distinct (horder : Orders order sort) {ks : List (κ × Json)}
    (hsort : ∀ k ∈ ks, sort k.1) (hdistinct : ks.Pairwise fun k l => k.1 ≠ l.1) (hkey : sort key)
    (p : Part) :
    ((ks.map fun k => (⟨k.1, k.2, p⟩ : Entry κ)).filter (Entry.hasKey order key)).map (·.part) =
      if ks.any (fun k => (order k.1 key).isEq) then [p] else [] := by
  induction ks with
  | nil => rfl
  | cons k rest ih =>
    obtain ⟨hk, hrest⟩ := List.forall_mem_cons.mp hsort
    obtain ⟨hne, hdistinct⟩ := List.pairwise_cons.mp hdistinct
    rw [List.map_cons, List.any_cons]
    cases hsame : (order k.1 key).isEq with
    | true =>
      obtain rfl := (horder.isEq_iff hk hkey).mp hsame
      have hnone : ¬ rest.any (fun l => (order l.1 k.1).isEq) = true := by
        rw [List.any_eq_true]
        rintro ⟨l, hl, heq⟩
        exact hne l hl ((horder.isEq_iff (hrest l hl) hk).mp heq).symm
      have hown : Entry.hasKey order k.1 ⟨k.1, k.2, p⟩ = true := hsame
      rw [List.filter_cons_of_pos hown, List.map_cons, ih hrest hdistinct, if_neg hnone]
      rfl
    | false =>
      have hother : ¬ Entry.hasKey order key ⟨k.1, k.2, p⟩ = true := Bool.eq_false_iff.mp hsame
      rw [List.filter_cons_of_neg hother, ih hrest hdistinct, Bool.false_or]

/-- Where no document has a key twice, each is once in a group. -/
theorem docs_of_mem (horder : Orders order sort) (hkeys : ∀ p ∈ docs, ∀ k ∈ keys p, sort k.1)
    (hdistinct : ∀ p ∈ docs, (keys p).Pairwise fun k l => k.1 ≠ l.1)
    (hc : c ∈ group order keys docs) : c.docs = docs.filter (hasKey order keys c.key) := by
  have hgroups := groups_group horder hkeys
  have hsort := hgroups.keys c hc
  rw [hgroups.docs c hc, entries]
  clear hgroups hc
  induction docs with
  | nil => rfl
  | cons p rest ih =>
    obtain ⟨hp, hrest⟩ := List.forall_mem_cons.mp hkeys
    obtain ⟨hpdistinct, hrestdistinct⟩ := List.forall_mem_cons.mp hdistinct
    rw [List.flatMap_cons, List.filter_append, List.map_append, ih hrest hrestdistinct,
      parts_of_distinct horder hp hpdistinct hsort p, List.filter_cons]
    show (if hasKey order keys c.key p = true then [p] else []) ++ _ = _
    split <;> rfl

end Cell

/-! ## Values as keys -/

variable {v : Value} {j : Json} {shown : List (Value × Json)}

open Value (IsPlain orders_plain)

theorem mem_keepValue {k : Value × Json} (hv : v.IsPlain) (hplain : ∀ l ∈ shown, l.1.IsPlain)
    (hrising : shown.Pairwise fun k l => Value.order k.1 l.1 = .lt) :
    k ∈ keepValue v j shown ↔ k = (v, j) ∨ k ∈ shown ∧ k.1 ≠ v := by
  induction shown with
  | nil => simp [keepValue]
  | cons l rest ih =>
    obtain ⟨w, old⟩ := l
    obtain ⟨hw, hrest⟩ := List.forall_mem_cons.mp hplain
    obtain ⟨hbehind, hrising⟩ := List.pairwise_cons.mp hrising
    have hne : ∀ l ∈ rest, l.1 ≠ w := fun l hl => (orders_plain.ne_of_lt hw (hbehind l hl)).symm
    rw [keepValue]
    cases hcompare : Value.order v w with
    | lt =>
      have hnew : ∀ l ∈ (w, old) :: rest, l.1 ≠ v := by
        refine List.forall_mem_cons.mpr ⟨(orders_plain.ne_of_lt hv hcompare).symm, fun l hl => ?_⟩
        exact (orders_plain.ne_of_lt hv
          (orders_plain.trans hv hw (hrest l hl) hcompare (hbehind l hl))).symm
      rw [List.mem_cons]
      exact or_congr_right ⟨fun hk => ⟨hk, hnew k hk⟩, And.left⟩
    | eq =>
      obtain rfl := (orders_plain.eq_iff hv hw).mp hcompare
      rw [List.mem_cons, List.mem_cons]
      refine or_congr_right ⟨fun hk => ⟨.inr hk, hne k hk⟩, ?_⟩
      rintro ⟨rfl | hk, hkne⟩
      · exact absurd rfl hkne
      · exact hk
    | gt =>
      have hwne : w ≠ v := orders_plain.ne_of_lt hw (orders_plain.gt_iff.mp hcompare)
      rw [List.mem_cons, List.mem_cons, ih hrest hrising]
      constructor
      · rintro (rfl | rfl | ⟨hk, hkne⟩)
        · exact .inr ⟨.inl rfl, hwne⟩
        · exact .inl rfl
        · exact .inr ⟨.inr hk, hkne⟩
      · rintro (rfl | ⟨rfl | hk, hkne⟩)
        · exact .inr (.inl rfl)
        · exact .inl rfl
        · exact .inr (.inr ⟨hk, hkne⟩)

theorem rising_keepValue (hv : v.IsPlain) (hplain : ∀ l ∈ shown, l.1.IsPlain)
    (hrising : shown.Pairwise fun k l => Value.order k.1 l.1 = .lt) :
    (keepValue v j shown).Pairwise fun k l => Value.order k.1 l.1 = .lt := by
  induction shown with
  | nil => exact List.pairwise_singleton _ _
  | cons l rest ih =>
    obtain ⟨w, old⟩ := l
    obtain ⟨hw, hrest⟩ := List.forall_mem_cons.mp hplain
    obtain ⟨hbehind, hbelow⟩ := List.pairwise_cons.mp hrising
    rw [keepValue]
    cases hcompare : Value.order v w with
    | lt =>
      refine List.pairwise_cons.mpr ⟨List.forall_mem_cons.mpr ⟨hcompare, fun l hl => ?_⟩, hrising⟩
      exact orders_plain.trans hv hw (hrest l hl) hcompare (hbehind l hl)
    | eq =>
      obtain rfl := (orders_plain.eq_iff hv hw).mp hcompare
      exact List.pairwise_cons.mpr ⟨hbehind, hbelow⟩
    | gt =>
      refine List.pairwise_cons.mpr ⟨fun l hl => ?_, ih hrest hbelow⟩
      rcases (mem_keepValue hv hrest hbelow).mp hl with rfl | ⟨hl, -⟩
      · exact orders_plain.gt_iff.mp hcompare
      · exact hbehind l hl

/-- The values of a field as keys: each value of it once, in their order. -/
structure KeyedBy (js : List Json) (shown : List (Value × Json)) : Prop where
  rising : shown.Pairwise fun k l => Value.order k.1 l.1 = .lt
  sound : ∀ k ∈ shown, k.2 ∈ js ∧ Value.ofJson k.2 = k.1
  covers : ∀ j ∈ js, ∃ k ∈ shown, k.1 = Value.ofJson j

theorem keyedBy_nil : KeyedBy [] [] := ⟨.nil, List.forall_mem_nil _, List.forall_mem_nil _⟩

theorem KeyedBy.keep {js : List Json} (h : KeyedBy js shown)
    (hplain : ∀ j ∈ js, (Value.ofJson j).IsPlain) (hj : (Value.ofJson j).IsPlain) :
    KeyedBy (js ++ [j]) (keepValue (Value.ofJson j) j shown) := by
  have hshown : ∀ k ∈ shown, k.1.IsPlain := fun k hk => by
    obtain ⟨hmem, heq⟩ := h.sound k hk
    exact heq ▸ hplain _ hmem
  have hmem := fun k => mem_keepValue (k := k) (j := j) hj hshown h.rising
  refine ⟨rising_keepValue hj hshown h.rising, fun k hk => ?_, fun i hi => ?_⟩
  · rcases (hmem k).mp hk with rfl | ⟨hk, -⟩
    · exact ⟨List.mem_append_right _ List.mem_cons_self, rfl⟩
    · obtain ⟨hk, heq⟩ := h.sound k hk
      exact ⟨List.mem_append_left _ hk, heq⟩
  · rcases List.mem_append.mp hi with hi | hi
    · obtain ⟨k, hk, heq⟩ := h.covers i hi
      by_cases hsame : k.1 = Value.ofJson j
      · exact ⟨_, (hmem _).mpr (.inl rfl), hsame.symm.trans heq⟩
      · exact ⟨k, (hmem k).mpr (.inr ⟨hk, hsame⟩), heq⟩
    · obtain rfl := List.mem_singleton.mp hi
      exact ⟨_, (hmem _).mpr (.inl rfl), rfl⟩

theorem keyedBy_keysAt {field : String} {p : Part}
    (hplain : ∀ j ∈ valuesAt p.doc field, (Value.ofJson j).IsPlain) :
    KeyedBy (valuesAt p.doc field) (keysAt field p) := by
  have hfold : ∀ js before : List Json, ∀ shown, (∀ j ∈ before ++ js, (Value.ofJson j).IsPlain) →
      KeyedBy before shown → KeyedBy (before ++ js)
        (js.foldl (fun keys j => keepValue (Value.ofJson j) j keys) shown) := by
    intro js
    induction js with
    | nil => intro before shown _ h; simpa using h
    | cons j js ih =>
      intro before shown hplain h
      rw [List.append_cons] at hplain ⊢
      have hbefore := List.forall_mem_append.mp (List.forall_mem_append.mp hplain).1
      exact ih _ _ hplain (h.keep hbefore.1 (hbefore.2 j List.mem_cons_self))
  exact hfold _ [] [] hplain keyedBy_nil

theorem map_doc_rootParts (docs : List Json) : (rootParts docs).map Part.doc = docs := by
  rw [rootParts, List.map_map]
  exact List.zipIdx_map_fst 0 docs

theorem doc_mem_of_mem_rootParts {docs : List Json} {p : Part} (h : p ∈ rootParts docs) :
    p.doc ∈ docs := by
  rw [← map_doc_rootParts docs]
  exact List.mem_map_of_mem h

theorem exists_rootPart {docs : List Json} {doc : Json} (h : doc ∈ docs) :
    ∃ p ∈ rootParts docs, p.doc = doc := by
  rw [← map_doc_rootParts docs] at h
  exact List.mem_map.mp h

theorem length_filter_rootParts (test : Json → Bool) (docs : List Json) :
    ((rootParts docs).filter fun p => test p.doc).length = (docs.filter test).length := by
  have hmap : (docs.filter test).length =
      (((rootParts docs).map Part.doc).filter test).length := by
    rw [map_doc_rootParts]
  rw [hmap, List.filter_map, List.length_map]
  rfl

/-! ## Groups by the values of a field -/

section

variable {field : String} {p : Part} {docs : List Part}

/-- The values of parts at a field are plain. -/
def PlainAt (field : String) (docs : List Part) : Prop :=
  ∀ p ∈ docs, ∀ j ∈ valuesAt p.doc field, (Value.ofJson j).IsPlain

theorem plain_of_keysAt (hplain : ∀ j ∈ valuesAt p.doc field, (Value.ofJson j).IsPlain) :
    ∀ k ∈ keysAt field p, k.1.IsPlain := by
  intro k hk
  obtain ⟨hmem, heq⟩ := (keyedBy_keysAt hplain).sound k hk
  exact heq ▸ hplain _ hmem

theorem mem_keysAt_iff (hplain : ∀ j ∈ valuesAt p.doc field, (Value.ofJson j).IsPlain) {v : Value} :
    v ∈ (keysAt field p).map (·.1) ↔ v ∈ (valuesAt p.doc field).map Value.ofJson := by
  have hkeyed := keyedBy_keysAt hplain
  constructor
  · intro hv
    obtain ⟨k, hk, rfl⟩ := List.mem_map.mp hv
    obtain ⟨hmem, heq⟩ := hkeyed.sound k hk
    exact List.mem_map.mpr ⟨k.2, hmem, heq⟩
  · intro hv
    obtain ⟨j, hj, rfl⟩ := List.mem_map.mp hv
    obtain ⟨k, hk, heq⟩ := hkeyed.covers j hj
    exact List.mem_map.mpr ⟨k, hk, heq⟩

theorem distinct_keysAt (hplain : ∀ j ∈ valuesAt p.doc field, (Value.ofJson j).IsPlain) :
    (keysAt field p).Pairwise fun k l => k.1 ≠ l.1 :=
  (keyedBy_keysAt hplain).rising.imp_of_mem fun hk _ hlt =>
    orders_plain.ne_of_lt (plain_of_keysAt hplain _ hk) hlt

/-- Equal plain values are the same. -/
theorem finds_term_iff {doc j : Json} (hplain : ∀ i ∈ valuesAt doc field, (Value.ofJson i).IsPlain)
    (hj : (Value.ofJson j).IsPlain) :
    finds (.term field j) doc = true ↔ Value.ofJson j ∈ (valuesAt doc field).map Value.ofJson := by
  rw [finds, List.any_eq_true, List.mem_map]
  exact exists_congr fun i => and_congr_right fun hi => orders_plain.isEq_iff (hplain i hi) hj

/-- Each value at a field has one group, which holds the documents that have the
value. -/
structure GroupedAt (field : String) (parts : List Part) (cells : List (Cell Value)) : Prop where
  rising : cells.Pairwise fun c d => Value.order c.key d.key = .lt
  shown : ∀ c ∈ cells, Value.ofJson c.shown = c.key ∧ ∃ p ∈ parts, c.shown ∈ valuesAt p.doc field
  docs : ∀ c ∈ cells, c.docs = parts.filter fun p => finds (.term field c.shown) p.doc
  covers : ∀ p ∈ parts, ∀ j ∈ valuesAt p.doc field, ∃ c ∈ cells, c.key = Value.ofJson j

theorem groupedAt_termCells (h : PlainAt field docs) :
    GroupedAt field docs (termCells field docs) := by
  have hkeys : ∀ p ∈ docs, ∀ k ∈ keysAt field p, k.1.IsPlain := fun p hp => plain_of_keysAt (h p hp)
  have hgroups := Cell.groups_group orders_plain hkeys
  have hshown : ∀ c ∈ termCells field docs,
      Value.ofJson c.shown = c.key ∧ ∃ p ∈ docs, c.shown ∈ valuesAt p.doc field := by
    intro c hc
    obtain ⟨x, hx, hkey, hshown⟩ := hgroups.shown c hc
    obtain ⟨p, hp, hx⟩ := List.mem_flatMap.mp hx
    obtain ⟨k, hk, rfl⟩ := List.mem_map.mp hx
    obtain ⟨hmem, heq⟩ := (keyedBy_keysAt (h p hp)).sound k hk
    rw [← hkey, ← hshown]
    exact ⟨heq, p, hp, hmem⟩
  refine ⟨hgroups.rising, hshown, fun c hc => ?_, fun p hp j hj => ?_⟩
  · have hplain : c.key.IsPlain := hgroups.keys c hc
    rw [Cell.docs_of_mem orders_plain hkeys (fun p hp => distinct_keysAt (h p hp)) hc]
    refine List.filter_congr fun p hp => Bool.eq_iff_iff.mpr ?_
    rw [Cell.hasKey_iff orders_plain (hkeys p hp) hplain, mem_keysAt_iff (h p hp),
      ← (hshown c hc).1, finds_term_iff (h p hp) ((hshown c hc).1 ▸ hplain)]
  · obtain ⟨k, hk, heq⟩ := (keyedBy_keysAt (h p hp)).covers j hj
    obtain ⟨c, hc, hkey⟩ := hgroups.covers ⟨k.1, k.2, p⟩
      (List.mem_flatMap.mpr ⟨p, hp, List.mem_map.mpr ⟨k, hk, rfl⟩⟩)
    exact ⟨c, hc, hkey.trans heq⟩

end

/-! ## Groups by combinations of values -/

section

variable {p : Part} {docs : List Part} {sources : List (String × String)} {vs : List Value}
  {ks : List (Value × Json)}

/-- The values of a document at all sources are plain. -/
def PlainAtAll (sources : List (String × String)) (doc : Json) : Prop :=
  ∀ s ∈ sources, ∀ j ∈ valuesAt doc s.2, (Value.ofJson j).IsPlain

instance (sources : List (String × String)) (doc : Json) : Decidable (PlainAtAll sources doc) :=
  inferInstanceAs (Decidable (∀ s ∈ sources, ∀ j ∈ valuesAt doc s.2, (Value.ofJson j).IsPlain))

/-- A document has the values at the sources, each at its own. -/
def hasAll (doc : Json) : List (String × String) → List Value → Bool
  | [], [] => true
  | s :: sources, v :: vs =>
    (valuesAt doc s.2).any (fun j => Value.ofJson j == v) && hasAll doc sources vs
  | _, _ => false

/-- The keys are those of a document at the sources. -/
def KeysOf (p : Part) (sources : List (String × String)) (ks : List (Value × Json)) : Prop :=
  List.Forall₂ (fun s k => k ∈ keysAt s.2 p) sources ks

theorem mem_foldl_combine {combos : List (List Value × Fields Json)}
    {x : List Value × Fields Json} :
    x ∈ sources.foldl (combine p) combos ↔ ∃ combo ∈ combos, ∃ ks, KeysOf p sources ks ∧
      x = (combo.1 ++ ks.map (·.1),
        Fields.extend combo.2 ((sources.zip ks).map fun sk => (sk.1.1, sk.2.2))) := by
  induction sources generalizing combos with
  | nil => simp [KeysOf, Fields.extend]
  | cons s rest ih =>
    rw [List.foldl_cons, ih]
    constructor
    · rintro ⟨combo, hcombo, ks, hks, rfl⟩
      obtain ⟨before, hbefore, hcombo⟩ := List.mem_flatMap.mp hcombo
      obtain ⟨k, hk, rfl⟩ := List.mem_map.mp hcombo
      exact ⟨before, hbefore, k :: ks, .cons hk hks, by simp [Fields.extend]⟩
    · rintro ⟨before, hbefore, ks, hks, rfl⟩
      cases hks with
      | cons hk hks =>
        exact ⟨_, List.mem_flatMap.mpr ⟨before, hbefore, List.mem_map.mpr ⟨_, hk, rfl⟩⟩, _, hks,
          by simp [Fields.extend]⟩

theorem mem_combosOf {k : List Value × Json} :
    k ∈ combosOf sources p ↔ ∃ ks, KeysOf p sources ks ∧ k = (ks.map (·.1),
      Json.object ((sources.zip ks).map fun sk => (sk.1.1, sk.2.2))) := by
  rw [combosOf, List.mem_map]
  simp only [mem_foldl_combine, List.mem_singleton]
  constructor
  · rintro ⟨_, ⟨_, rfl, ks, hks, rfl⟩, rfl⟩
    exact ⟨ks, hks, rfl⟩
  · rintro ⟨ks, hks, rfl⟩
    exact ⟨_, ⟨_, rfl, ks, hks, rfl⟩, rfl⟩

theorem distinct_foldl_combine {combos : List (List Value × Fields Json)}
    (hplain : PlainAtAll sources p.doc) (h : combos.Pairwise fun a b => a.1 ≠ b.1) :
    (sources.foldl (combine p) combos).Pairwise fun a b => a.1 ≠ b.1 := by
  induction sources generalizing combos with
  | nil => exact h
  | cons s rest ih =>
    obtain ⟨hs, hrest⟩ := List.forall_mem_cons.mp hplain
    refine ih hrest (List.pairwise_flatMap.mpr ⟨fun combo _ => ?_, ?_⟩)
    · exact List.pairwise_map.mpr ((distinct_keysAt hs).imp fun hne heq =>
        hne (List.singleton_inj.mp (List.append_cancel_left heq)))
    · refine h.imp fun hne x hx y hy heq => ?_
      obtain ⟨k, -, rfl⟩ := List.mem_map.mp hx
      obtain ⟨l, -, rfl⟩ := List.mem_map.mp hy
      exact hne (List.append_inj' heq rfl).1

theorem distinct_combosOf (hplain : PlainAtAll sources p.doc) :
    (combosOf sources p).Pairwise fun k l => k.1 ≠ l.1 :=
  List.pairwise_map.mpr (distinct_foldl_combine hplain (List.pairwise_singleton _ _))

theorem plain_of_keysOf (hplain : PlainAtAll sources p.doc) (hks : KeysOf p sources ks) :
    Value.ArePlain (ks.map (·.1)) := by
  induction hks with
  | nil => exact nofun
  | cons hk _ ih =>
    obtain ⟨hs, hrest⟩ := List.forall_mem_cons.mp hplain
    exact List.forall_mem_cons.mpr ⟨plain_of_keysAt hs _ hk, ih hrest⟩

/-- The keys of a document have the values that it has at the sources. -/
theorem hasAll_iff (hplain : PlainAtAll sources p.doc) (hvs : Value.ArePlain vs) :
    hasAll p.doc sources vs = true ↔ ∃ ks, KeysOf p sources ks ∧ ks.map (·.1) = vs := by
  induction sources generalizing vs with
  | nil => cases vs <;> simp [hasAll, KeysOf]
  | cons s rest ih =>
    obtain ⟨hs, hrest⟩ := List.forall_mem_cons.mp hplain
    cases vs with
    | nil => simp [hasAll, KeysOf]
    | cons v vs =>
      obtain ⟨hv, hvs⟩ := List.forall_mem_cons.mp hvs
      have hhead : (valuesAt p.doc s.2).any (fun j => Value.ofJson j == v) = true ↔
          v ∈ (keysAt s.2 p).map (·.1) := by
        rw [mem_keysAt_iff hs, List.any_eq_true, List.mem_map]
        exact exists_congr fun j => and_congr_right fun hj => orders_plain.isEq_iff (hs j hj) hv
      rw [hasAll, Bool.and_eq_true, hhead, ih hrest hvs]
      constructor
      · rintro ⟨hv, ks, hks, rfl⟩
        obtain ⟨k, hk, rfl⟩ := List.mem_map.mp hv
        exact ⟨k :: ks, .cons hk hks, rfl⟩
      · rintro ⟨_, hks, heq⟩
        cases hks with
        | cons hk hks =>
          obtain ⟨rfl, rfl⟩ := List.cons.inj heq
          exact ⟨List.mem_map_of_mem hk, _, hks, rfl⟩

/-- From the document of a combination its values are read, where the sources go
by different names. -/
theorem read_combo (hplain : PlainAtAll sources p.doc) (hnames : (sources.map (·.1)).Nodup)
    (hks : KeysOf p sources ks) :
    sources.map (fun s => Value.ofJson ((Json.object ((sources.zip ks).map fun sk =>
      (sk.1.1, sk.2.2))).field s.1)) = ks.map (·.1) := by
  have hlength := hks.length_eq
  have hkeys : Fields.keys ((sources.zip ks).map fun sk => (sk.1.1, sk.2.2)) =
      sources.map (·.1) := by
    rw [Fields.keys, List.map_map]
    show (sources.zip ks).map ((·.1) ∘ Prod.fst) = _
    rw [← List.map_map, List.map_fst_zip (Nat.le_of_eq hlength)]
  have hzip : ∀ sk ∈ sources.zip ks, Value.ofJson ((Json.object ((sources.zip ks).map fun sk =>
      (sk.1.1, sk.2.2))).field sk.1.1) = sk.2.1 := by
    intro sk hsk
    have hget : (Json.object ((sources.zip ks).map fun sk => (sk.1.1, sk.2.2))).get? sk.1.1 =
        some sk.2.2 :=
      Fields.get?_ofList_of_mem (hkeys ▸ hnames) (List.mem_map_of_mem hsk)
    have hmem := (List.forall₂_iff_zip.mp hks).2 hsk
    rw [Json.field, hget]
    exact ((keyedBy_keysAt (hplain sk.1 (List.of_mem_zip hsk).1)).sound sk.2 hmem).2
  generalize Json.object ((sources.zip ks).map fun sk => (sk.1.1, sk.2.2)) = combo at hzip ⊢
  calc sources.map (fun s => Value.ofJson (combo.field s.1))
      = ((sources.zip ks).map Prod.fst).map fun s => Value.ofJson (combo.field s.1) := by
        rw [List.map_fst_zip (Nat.le_of_eq hlength)]
    _ = ((sources.zip ks).map Prod.snd).map (·.1) := by
        rw [List.map_map, List.map_map]
        exact List.map_congr_left hzip
    _ = ks.map (·.1) := by rw [List.map_snd_zip (Nat.le_of_eq hlength.symm)]

/-- Each combination of values at some sources has one group, which holds the
documents that have the combination. -/
structure GroupedBy (sources : List (String × String)) (parts : List Part)
    (cells : List (Cell (List Value))) : Prop where
  plain : ∀ c ∈ cells, Value.ArePlain c.key
  rising : cells.Pairwise fun c d => Value.orderLists c.key d.key = .lt
  shown : ∀ c ∈ cells, sources.map (fun s => Value.ofJson (c.shown.field s.1)) = c.key
  docs : ∀ c ∈ cells, c.docs = parts.filter fun p => hasAll p.doc sources c.key
  filled : ∀ c ∈ cells, c.docs ≠ []
  covers : ∀ p ∈ parts, ∀ vs, Value.ArePlain vs → hasAll p.doc sources vs = true →
    ∃ c ∈ cells, c.key = vs

theorem groupedBy_comboCells (hplain : ∀ p ∈ docs, PlainAtAll sources p.doc)
    (hnames : (sources.map (·.1)).Nodup) : GroupedBy sources docs (comboCells sources docs) := by
  have hkeys : ∀ p ∈ docs, ∀ k ∈ combosOf sources p, Value.ArePlain k.1 := by
    intro p hp k hk
    obtain ⟨ks, hks, rfl⟩ := mem_combosOf.mp hk
    exact plain_of_keysOf (hplain p hp) hks
  have hgroups := Cell.groups_group Value.orders_lists hkeys
  have hmem : ∀ p ∈ docs, ∀ vs, Value.ArePlain vs →
      (vs ∈ (combosOf sources p).map (·.1) ↔ hasAll p.doc sources vs = true) := by
    intro p hp vs hvs
    rw [hasAll_iff (hplain p hp) hvs, List.mem_map]
    constructor
    · rintro ⟨k, hk, rfl⟩
      obtain ⟨ks, hks, rfl⟩ := mem_combosOf.mp hk
      exact ⟨ks, hks, rfl⟩
    · rintro ⟨ks, hks, rfl⟩
      exact ⟨_, mem_combosOf.mpr ⟨ks, hks, rfl⟩, rfl⟩
  have hdocs : ∀ c ∈ comboCells sources docs,
      c.docs = docs.filter fun p => hasAll p.doc sources c.key := by
    intro c hc
    have hplainKey : Value.ArePlain c.key := hgroups.keys c hc
    rw [Cell.docs_of_mem Value.orders_lists hkeys (fun p hp => distinct_combosOf (hplain p hp)) hc]
    refine List.filter_congr fun p hp => Bool.eq_iff_iff.mpr ?_
    rw [Cell.hasKey_iff Value.orders_lists (hkeys p hp) hplainKey, hmem p hp _ hplainKey]
  have hentry : ∀ c ∈ comboCells sources docs, ∃ p ∈ docs, ∃ ks, KeysOf p sources ks ∧
      c.key = ks.map (·.1) ∧
        c.shown = Json.object ((sources.zip ks).map fun sk => (sk.1.1, sk.2.2)) := by
    intro c hc
    obtain ⟨x, hx, hkey, hshown⟩ := hgroups.shown c hc
    obtain ⟨p, hp, hx⟩ := List.mem_flatMap.mp hx
    obtain ⟨k, hk, rfl⟩ := List.mem_map.mp hx
    obtain ⟨ks, hks, rfl⟩ := mem_combosOf.mp hk
    exact ⟨p, hp, ks, hks, hkey.symm, hshown.symm⟩
  refine ⟨hgroups.keys, hgroups.rising, fun c hc => ?_, hdocs, fun c hc => ?_,
    fun p hp vs hvs hhas => ?_⟩
  · obtain ⟨p, hp, ks, hks, hkey, hshown⟩ := hentry c hc
    rw [hshown, hkey]
    exact read_combo (hplain p hp) hnames hks
  · obtain ⟨p, hp, ks, hks, hkey, -⟩ := hentry c hc
    rw [hdocs c hc]
    exact List.ne_nil_of_mem (List.mem_filter.mpr ⟨hp,
      (hasAll_iff (hplain p hp) (hgroups.keys c hc)).mpr ⟨ks, hks, hkey.symm⟩⟩)
  · obtain ⟨k, hk, rfl⟩ := List.mem_map.mp ((hmem p hp vs hvs).mpr hhas)
    exact hgroups.covers ⟨k.1, k.2, p⟩
      (List.mem_flatMap.mpr ⟨p, hp, List.mem_map.mpr ⟨k, hk, rfl⟩⟩)

end

end EntityStore.Indices
