-- What the report of a uniqueness check says of the items. Of each key only the first item
-- is kept in mind, and still all items with a repeated key are in the report: the first one
-- comes in with the second.
import EntityStore.Proofs.Batch.Checking
import EntityStore.Proofs.Value.Orders
import Mathlib.Data.List.Induction

namespace EntityStore

/-! ## Reports -/

namespace ConflictReport

/-- The report has a field under the name of an item. -/
def lists (r : ConflictReport) (subject field : String) : Bool :=
  (r.conflicts.get? subject).any fun fields => Fields.contains fields field

/-- No item is in the report without a field. -/
def Full (r : ConflictReport) : Prop := ∀ p ∈ r.conflicts, p.2 ≠ []

variable {r : ConflictReport} {subject field name f : String} {value : Json}

theorem lists_empty (entity : String) : (empty entity).lists name f = false := rfl

theorem full_empty (entity : String) : (empty entity).Full := List.forall_mem_nil _

theorem lists_record : (r.record subject field value).lists name f = true ↔
    r.lists name f = true ∨ name = subject ∧ f = field := by
  have hget : (r.record subject field value).conflicts.get? name = if name = subject then
      some (Fields.insert ((r.conflicts.get? subject).getD []) field value)
      else r.conflicts.get? name := Fields.get?_insert ..
  have hinsert : ∀ fields : Fields Json, Fields.contains (fields.insert field value) f = true ↔
      f = field ∨ fields.contains f = true := by
    intro fields
    rw [Fields.contains_iff, Fields.mem_keys_insert, Fields.contains_iff]
  rw [lists, lists, hget]
  by_cases hname : name = subject
  · subst hname
    rw [if_pos rfl, Option.any_some, hinsert]
    cases r.conflicts.get? name with
    | none => simp [Fields.contains]
    | some fields => simp [or_comm]
  · simp [hname]

theorem Full.record (h : r.Full) (subject field : String) (value : Json) :
    (r.record subject field value).Full := by
  intro p hp
  rcases Fields.mem_insert hp with rfl | hp
  · intro hnil
    have hkey : field ∈ Fields.keys _ :=
      Fields.mem_keys_insert (m := (r.conflicts.get? subject).getD []) (v := value).mpr (.inl rfl)
    rw [show Fields.insert _ field value = [] from hnil] at hkey
    cases hkey
  · exact h p hp

theorem Full.isEmpty_iff (h : r.Full) :
    r.isEmpty = true ↔ ∀ name f, r.lists name f = false := by
  rw [isEmpty, List.isEmpty_iff]
  constructor
  · intro hnil name f
    rw [lists, hnil]
    rfl
  · intro hnone
    cases hconflicts : r.conflicts with
    | nil => rfl
    | cons p rest =>
      have hfull := h p (hconflicts ▸ List.mem_cons_self)
      obtain ⟨q, fields, hq⟩ := List.exists_cons_of_ne_nil hfull
      have hlists := hnone p.1 q.1
      rw [lists, hconflicts, Fields.get?_cons, if_pos rfl, Option.any_some, hq, Fields.contains,
        Fields.get?_cons, if_pos rfl] at hlists
      cases hlists

end ConflictReport

/-! ## Counts -/

theorem eq_of_countP_lt_two {α : Type} {p : α → Bool} {xs : List α} {x y : α} (hx : x ∈ xs)
    (hpx : p x = true) (hy : y ∈ xs) (hpy : p y = true) (h : xs.countP p < 2) : x = y := by
  have hmemx : x ∈ xs.filter p := List.mem_filter.mpr ⟨hx, hpx⟩
  have hmemy : y ∈ xs.filter p := List.mem_filter.mpr ⟨hy, hpy⟩
  rw [List.countP_eq_length_filter] at h
  cases hfilter : xs.filter p with
  | nil =>
    rw [hfilter] at hmemx
    cases hmemx
  | cons z rest =>
    rw [hfilter, List.length_cons] at h
    obtain rfl : rest = [] := List.eq_nil_of_length_eq_zero (by omega)
    rw [hfilter, List.mem_singleton] at hmemx hmemy
    rw [hmemx, hmemy]

theorem two_le_countP_iff {α : Type} {p : α → Bool} {xs : List α} {i : Nat} {x : α}
    (hi : xs[i]? = some x) (hx : p x = true) :
    2 ≤ xs.countP p ↔ ∃ j y, xs[j]? = some y ∧ j ≠ i ∧ p y = true := by
  induction xs generalizing i with
  | nil => cases hi
  | cons z xs ih =>
    cases i with
    | zero =>
      cases hi
      rw [List.countP_cons_of_pos hx, Nat.succ_le_succ_iff, Nat.one_le_iff_ne_zero,
        ← Nat.pos_iff_ne_zero, List.countP_pos_iff]
      constructor
      · rintro ⟨y, hy, hpy⟩
        obtain ⟨j, hj⟩ := List.mem_iff_getElem?.mp hy
        exact ⟨j + 1, y, hj, Nat.succ_ne_zero j, hpy⟩
      · rintro ⟨j, y, hj, hne, hpy⟩
        obtain ⟨j, rfl⟩ := Nat.exists_eq_succ_of_ne_zero hne
        exact ⟨y, List.mem_of_getElem? hj, hpy⟩
    | succ i =>
      have hpos : 0 < xs.countP p := List.countP_pos_iff.mpr ⟨x, List.mem_of_getElem? hi, hx⟩
      by_cases hz : p z = true
      · rw [List.countP_cons_of_pos hz]
        exact ⟨fun _ => ⟨0, z, rfl, (Nat.succ_ne_zero i).symm, hz⟩, fun _ => by omega⟩
      · rw [List.countP_cons_of_neg hz, ih hi]
        constructor
        · rintro ⟨j, y, hj, hne, hpy⟩
          exact ⟨j + 1, y, hj, fun heq => hne (Nat.succ.inj heq), hpy⟩
        · rintro ⟨j, y, hj, hne, hpy⟩
          cases j with
          | zero =>
            cases hj
            exact absurd hpy hz
          | succ j => exact ⟨j, y, hj, fun heq => hne (congrArg Nat.succ heq), hpy⟩

namespace Batch

variable {e : Entity} {field : String} {r₀ : ConflictReport} {met : List Subject} {s : Subject}
  {acc : ConflictReport × List (List Value × String)} {k l : List Value} {doc : Fields Json}

/-! ## Repeats -/

/-- The values of an item under a unique field and its scope are simple. -/
def IsSimple (e : Entity) (field : String) (doc : Fields Json) : Prop :=
  ∀ f ∈ field :: e.uniqueScope, (valueOf doc f).IsSimple

/-- The item has this key under a unique field. -/
def hasKey (e : Entity) (field : String) (k : List Value) (doc : Fields Json) : Bool :=
  (scopedKey? e field doc).any fun l => (Value.orderLists l k).isEq

theorem simple_of_key (h : IsSimple e field doc) (hk : scopedKey? e field doc = some k) :
    ∀ v ∈ k, v.IsSimple := by
  rw [scopedKey?_eq] at hk
  split at hk
  · cases hk
  · cases hk
    exact List.forall_mem_map.mpr h

theorem hasKey_iff (hk : ∀ v ∈ k, v.IsSimple) (h : IsSimple e field doc) :
    hasKey e field k doc = true ↔ scopedKey? e field doc = some k := by
  rw [hasKey, Option.any_eq_true]
  constructor
  · rintro ⟨l, hl, hequal⟩
    rw [hl, (Value.isEq_orderLists_iff Value.tellsApart_simple (simple_of_key h hl) hk).mp hequal]
  · intro hkey
    exact ⟨k, hkey, (Value.isEq_orderLists_iff Value.tellsApart_simple hk hk).mpr rfl⟩

/-- Among the items that were met at least two have the key of this one. -/
def Repeated (e : Entity) (field : String) (met : List Subject) (doc : Fields Json) : Prop :=
  ∃ k, scopedKey? e field doc = some k ∧ 2 ≤ met.countP fun s => hasKey e field k s.doc

theorem holders_concat : (met ++ [s]).countP (fun u => hasKey e field k u.doc) =
    met.countP (fun u => hasKey e field k u.doc) + if hasKey e field k s.doc then 1 else 0 := by
  rw [List.countP_append, List.countP_singleton]

theorem Repeated.concat (h : Repeated e field met doc) : Repeated e field (met ++ [s]) doc := by
  obtain ⟨k, hk, hholders⟩ := h
  refine ⟨k, hk, ?_⟩
  rw [holders_concat]
  omega

/-- The report has all repeats among the items that were met, besides what was in it
before, and the first item with each key is known. -/
structure Counted (e : Entity) (field : String) (r₀ : ConflictReport) (met : List Subject)
    (acc : ConflictReport × List (List Value × String)) : Prop where
  full : acc.1.Full
  lists : ∀ name f, acc.1.lists name f = true ↔ r₀.lists name f = true ∨
    f = field ∧ ∃ s ∈ met, s.name = name ∧ Repeated e field met s.doc
  first : ∀ p ∈ acc.2, ∃ s ∈ met, s.name = p.2 ∧ scopedKey? e field s.doc = some p.1
  known : ∀ s ∈ met, ∀ k, scopedKey? e field s.doc = some k → ∃ p ∈ acc.2, p.1 = k

namespace Counted

/-- What is known of the first items with a key stays, and so does the report, where the
next item has no key of theirs. -/
theorem lists_concat (h : Counted e field r₀ met acc)
    (hnew : ∀ u ∈ met, ∀ k, scopedKey? e field u.doc = some k → hasKey e field k s.doc = false)
    (hself : ¬ Repeated e field (met ++ [s]) s.doc) (name f : String) :
    acc.1.lists name f = true ↔ r₀.lists name f = true ∨
      f = field ∧ ∃ u ∈ met ++ [s], u.name = name ∧ Repeated e field (met ++ [s]) u.doc := by
  rw [h.lists]
  refine or_congr_right (and_congr_right fun _ => ?_)
  constructor
  · rintro ⟨u, hu, hname, hrepeated⟩
    exact ⟨u, List.mem_append_left _ hu, hname, hrepeated.concat⟩
  · rintro ⟨u, hu, hname, hrepeated⟩
    rcases List.mem_append.mp hu with hu | hu
    · obtain ⟨k, hk, hholders⟩ := hrepeated
      rw [holders_concat, hnew u hu k hk] at hholders
      exact ⟨u, hu, hname, k, hk, hholders⟩
    · rw [List.mem_singleton.mp hu] at hrepeated
      exact absurd hrepeated hself

theorem absent (h : Counted e field r₀ met acc) (hv : Json.present? s.doc field = none) :
    Counted e field r₀ (met ++ [s]) (repeatStep e field acc s) := by
  have hnone : scopedKey? e field s.doc = none := by rw [scopedKey?, hv, Option.map_none]
  have hnew : ∀ k, hasKey e field k s.doc = false := fun k => by
    rw [hasKey, hnone, Option.any_none]
  rw [repeatStep_of_absent hv]
  refine ⟨h.full, h.lists_concat (fun _ _ k _ => hnew k) ?_, fun p hp => ?_, ?_⟩
  · rintro ⟨k, hk, -⟩
    rw [hnone] at hk
    cases hk
  · obtain ⟨u, hu, hfirst⟩ := h.first p hp
    exact ⟨u, List.mem_append_left _ hu, hfirst⟩
  · rw [List.forall_mem_append, List.forall_mem_singleton, hnone]
    refine ⟨h.known, fun k hk => ?_⟩
    cases hk

variable (hmet : ∀ u ∈ met, IsSimple e field u.doc) (hs : IsSimple e field s.doc)

include hmet hs

theorem new (h : Counted e field r₀ met acc) {v : Json} (hv : Json.present? s.doc field = some v)
    (hfirst : firstWith? (scopedKey e s.doc v) acc.2 = none) :
    Counted e field r₀ (met ++ [s]) (repeatStep e field acc s) := by
  have hkey : scopedKey? e field s.doc = some (scopedKey e s.doc v) := by rw [scopedKey?, hv]; rfl
  have hsimple := simple_of_key hs hkey
  have hnone : ∀ u ∈ met, scopedKey? e field u.doc ≠ some (scopedKey e s.doc v) := by
    intro u hu hsame
    obtain ⟨p, hp, hequal⟩ := h.known u hu _ hsame
    have hdiffer := firstWith?_eq_none_iff.mp hfirst p.1 (List.mem_map_of_mem hp)
    rw [hequal, Differ, (Value.isEq_orderLists_iff Value.tellsApart_simple hsimple hsimple).mpr rfl]
      at hdiffer
    cases hdiffer
  rw [repeatStep_of_first hv hfirst]
  refine ⟨h.full, h.lists_concat (fun u hu k hk => ?_) ?_, ?_, ?_⟩
  · rw [← Bool.not_eq_true, hasKey_iff (simple_of_key (hmet u hu) hk) hs, hkey, Option.some.injEq]
    rintro rfl
    exact hnone u hu hk
  · rintro ⟨k, hk, hholders⟩
    cases hkey.symm.trans hk
    have hzero : met.countP (fun u => hasKey e field (scopedKey e s.doc v) u.doc) = 0 := by
      rw [List.countP_eq_zero]
      intro u hu
      rw [hasKey_iff hsimple (hmet u hu)]
      exact hnone u hu
    rw [holders_concat, hzero] at hholders
    split at hholders <;> omega
  · rw [List.forall_mem_append, List.forall_mem_singleton]
    refine ⟨fun p hp => ?_, s, List.mem_append_right _ (List.mem_singleton_self s), rfl, hkey⟩
    obtain ⟨u, hu, hholds⟩ := h.first p hp
    exact ⟨u, List.mem_append_left _ hu, hholds⟩
  · rw [List.forall_mem_append, List.forall_mem_singleton]
    refine ⟨fun u hu k hk => ?_, fun k hk => ?_⟩
    · obtain ⟨p, hp, hequal⟩ := h.known u hu k hk
      exact ⟨p, List.mem_append_left _ hp, hequal⟩
    · cases hkey.symm.trans hk
      exact ⟨_, List.mem_append_right _ (List.mem_singleton_self _), rfl⟩

-- An item that was met before and has the key of the next one is the first one with it,
-- or was one of several already.
theorem again (h : Counted e field r₀ met acc) {v : Json} {other : String}
    (hv : Json.present? s.doc field = some v)
    (hfirst : firstWith? (scopedKey e s.doc v) acc.2 = some other) :
    Counted e field r₀ (met ++ [s]) (repeatStep e field acc s) := by
  have hkey : scopedKey? e field s.doc = some (scopedKey e s.doc v) := by rw [scopedKey?, hv]; rfl
  have hsimple := simple_of_key hs hkey
  have hown : hasKey e field (scopedKey e s.doc v) s.doc = true := (hasKey_iff hsimple hs).mpr hkey
  obtain ⟨holder, hholder, hname, hholds⟩ : ∃ u ∈ met, u.name = other ∧
      scopedKey? e field u.doc = some (scopedKey e s.doc v) := by
    obtain ⟨p, hfind, rfl⟩ := Option.map_eq_some_iff.mp hfirst
    obtain ⟨u, hu, hname, hk⟩ := h.first p (List.mem_of_find?_eq_some hfind)
    have hequal := List.find?_some hfind
    dsimp only at hequal
    rw [Value.isEq_orderLists_iff Value.tellsApart_simple (simple_of_key (hmet u hu) hk) hsimple]
      at hequal
    exact ⟨u, hu, hname, hequal ▸ hk⟩
  have hholdsKey := (hasKey_iff hsimple (hmet holder hholder)).mpr hholds
  have htwo : 2 ≤ (met ++ [s]).countP fun u => hasKey e field (scopedKey e s.doc v) u.doc := by
    have hone : 0 < met.countP fun u => hasKey e field (scopedKey e s.doc v) u.doc :=
      List.countP_pos_iff.mpr ⟨holder, hholder, hholdsKey⟩
    rw [holders_concat, hown, if_pos rfl]
    omega
  rw [repeatStep_of_repeat hv hfirst]
  refine ⟨(h.full.record _ _ _).record _ _ _, fun name f => ?_, fun p hp => ?_, ?_⟩
  · rw [ConflictReport.lists_record, ConflictReport.lists_record, h.lists, or_assoc, or_assoc]
    refine or_congr_right ?_
    constructor
    · rintro (⟨rfl, u, hu, hname, hrepeated⟩ | ⟨rfl, rfl⟩ | ⟨rfl, rfl⟩)
      · exact ⟨rfl, u, List.mem_append_left _ hu, hname, hrepeated.concat⟩
      · exact ⟨rfl, holder, List.mem_append_left _ hholder, hname, _, hholds, htwo⟩
      · exact ⟨rfl, s, List.mem_append_right _ (List.mem_singleton_self s), rfl, _, hkey, htwo⟩
    · rintro ⟨rfl, u, hu, rfl, k, hk, hholders⟩
      rcases List.mem_append.mp hu with hu | hu
      · by_cases hsame : hasKey e f k s.doc = true
        · have hk' := (hasKey_iff (simple_of_key (hmet u hu) hk) hs).mp hsame
          cases hkey.symm.trans hk'
          by_cases hold : 2 ≤ met.countP fun u => hasKey e f (scopedKey e s.doc v) u.doc
          · exact .inl ⟨rfl, u, hu, rfl, _, hk, hold⟩
          · have hukey := (hasKey_iff hsimple (hmet u hu)).mpr hk
            have heq := eq_of_countP_lt_two (p := fun u => hasKey e f _ u.doc) hu hukey hholder
              hholdsKey (by omega)
            exact .inr (.inl ⟨heq ▸ hname, rfl⟩)
        · rw [holders_concat, if_neg hsame] at hholders
          exact .inl ⟨rfl, u, hu, rfl, k, hk, hholders⟩
      · rw [List.mem_singleton.mp hu]
        exact .inr (.inr ⟨rfl, rfl⟩)
  · obtain ⟨u, hu, hholds⟩ := h.first p hp
    exact ⟨u, List.mem_append_left _ hu, hholds⟩
  · rw [List.forall_mem_append, List.forall_mem_singleton]
    refine ⟨h.known, fun k hk => ?_⟩
    cases hkey.symm.trans hk
    exact h.known holder hholder _ hholds

end Counted

theorem counted_repeats {ss : List Subject} {r : ConflictReport} (hr : r.Full)
    (hsimple : ∀ s ∈ ss, IsSimple e field s.doc) :
    Counted e field r ss (ss.foldl (repeatStep e field) (r, [])) := by
  induction ss using List.reverseRecOn with
  | nil => exact ⟨hr, fun _ _ => by simp, nofun, nofun⟩
  | append_singleton met s ih =>
    rw [List.forall_mem_append, List.forall_mem_singleton] at hsimple
    obtain ⟨hmet, hs⟩ := hsimple
    have hcounted := ih hmet
    rw [List.foldl_append, List.foldl_cons, List.foldl_nil]
    cases hv : Json.present? s.doc field with
    | none => exact hcounted.absent hv
    | some v =>
      cases hfirst : firstWith? (scopedKey e s.doc v) (met.foldl (repeatStep e field) (r, [])).2 with
      | none => exact hcounted.new hmet hs hv hfirst
      | some other => exact hcounted.again hmet hs hv hfirst

/-- The repeats of several fields. -/
theorem lists_repeats {ss : List Subject} {fields : List String} {r : ConflictReport}
    (hr : r.Full) (hsimple : ∀ f ∈ fields, ∀ s ∈ ss, IsSimple e f s.doc) :
    (fields.foldl (repeats e ss) r).Full ∧ ∀ name f,
      (fields.foldl (repeats e ss) r).lists name f = true ↔ r.lists name f = true ∨
        f ∈ fields ∧ ∃ s ∈ ss, s.name = name ∧ Repeated e f ss s.doc := by
  induction fields generalizing r with
  | nil => exact ⟨hr, fun _ _ => by simp⟩
  | cons g fields ih =>
    rw [List.forall_mem_cons] at hsimple
    have hcounted := counted_repeats hr hsimple.1
    obtain ⟨hfull, hlists⟩ := ih (r := repeats e ss r g) hcounted.full hsimple.2
    refine ⟨hfull, fun name f => ?_⟩
    rw [List.foldl_cons, hlists, repeats, hcounted.lists, or_assoc, List.mem_cons]
    refine or_congr_right ?_
    constructor
    · rintro (⟨rfl, h⟩ | ⟨hf, h⟩)
      · exact ⟨.inl rfl, h⟩
      · exact ⟨.inr hf, h⟩
    · rintro ⟨rfl | hf, h⟩
      · exact .inl ⟨rfl, h⟩
      · exact .inr ⟨hf, h⟩

/-! ## Clashes -/

section

variable {idField : String} {candidates : List (Fields Json)} {r : ConflictReport}

theorem lists_clashStep (hr : r.Full) :
    (clashStep e idField candidates s r field).Full ∧ ∀ name f,
      (clashStep e idField candidates s r field).lists name f = true ↔ r.lists name f = true ∨
        (name = s.name ∧ f = field) ∧ Clashes e idField candidates s.doc field := by
  unfold clashStep Clashes
  cases Json.present? s.doc field with
  | none => exact ⟨hr, fun _ _ => by simp⟩
  | some v =>
    dsimp only
    split
    · rename_i hany
      refine ⟨hr.record _ _ _, fun name f => ?_⟩
      rw [ConflictReport.lists_record]
      simp [List.any_eq_true.mp hany]
    · rename_i hany
      rw [List.any_eq_true] at hany
      exact ⟨hr, fun _ _ => by simp [hany]⟩

theorem lists_clashFields {fields : List String} (hr : r.Full) :
    (fields.foldl (clashStep e idField candidates s) r).Full ∧ ∀ name f,
      (fields.foldl (clashStep e idField candidates s) r).lists name f = true ↔
        r.lists name f = true ∨
          name = s.name ∧ f ∈ fields ∧ Clashes e idField candidates s.doc f := by
  induction fields generalizing r with
  | nil => exact ⟨hr, fun _ _ => by simp⟩
  | cons g fields ih =>
    obtain ⟨hstep, hlist⟩ : (clashStep e idField candidates s r g).Full ∧ _ := lists_clashStep hr
    obtain ⟨hfull, hlists⟩ := ih hstep
    refine ⟨hfull, fun name f => ?_⟩
    rw [List.foldl_cons, hlists, hlist, or_assoc, List.mem_cons]
    refine or_congr_right ?_
    constructor
    · rintro (⟨⟨hname, rfl⟩, h⟩ | ⟨hname, hf, h⟩)
      · exact ⟨hname, .inl rfl, h⟩
      · exact ⟨hname, .inr hf, h⟩
    · rintro ⟨hname, rfl | hf, h⟩
      · exact .inl ⟨⟨hname, rfl⟩, h⟩
      · exact .inr ⟨hname, hf, h⟩

theorem lists_clashing {ss : List Subject} (hr : r.Full) :
    (clashing e idField candidates ss r).Full ∧ ∀ name f,
      (clashing e idField candidates ss r).lists name f = true ↔ r.lists name f = true ∨
        ∃ s ∈ ss, s.name = name ∧ f ∈ e.uniqueFields ∧ Clashes e idField candidates s.doc f := by
  induction ss generalizing r with
  | nil => exact ⟨hr, fun _ _ => by simp [clashing]⟩
  | cons s ss ih =>
    obtain ⟨hfields, hlist⟩ :
        (e.uniqueFields.foldl (clashStep e idField candidates s) r).Full ∧ _ := lists_clashFields hr
    obtain ⟨hfull, hlists⟩ := ih hfields
    have hcons : clashing e idField candidates (s :: ss) r = clashing e idField candidates ss
        (e.uniqueFields.foldl (clashStep e idField candidates s) r) := rfl
    refine ⟨hcons ▸ hfull, fun name f => ?_⟩
    rw [hcons, hlists, hlist, or_assoc, List.exists_mem_cons_iff, eq_comm (a := name)]

end

end Batch

end EntityStore
