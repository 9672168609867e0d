-- What is checked of a batch before it is written. The checks read the store, and
-- leave it as it is. A report is empty when no item repeats the key of an earlier
-- one and none clashes with a stored record.
import EntityStore.Batch.Write
import EntityStore.Proofs.Calls
import EntityStore.Proofs.Fallible
import EntityStore.Proofs.Value.Orders
import Mathlib.Data.List.Basic
import Mathlib.Data.List.Pairwise

namespace EntityStore.Batch

open Call (Keeps)

/-! ## Uniqueness -/

section

variable {σ : Type} {P : σ → Prop} {st : Store σ}

theorem keeps_checkUnique (hsearch : ∀ c, Keeps P (st.search c)) (idField : String)
    (docs : List (Fields Json)) : Keeps P (checkUnique st idField docs) := by
  unfold checkUnique
  dsimp only
  split
  · exact Call.keeps_pure ()
  · split
    · refine (Call.keeps_pure _).bind fun candidates => ?_
      split
      · exact Call.leads_throw fun _ h => h
      · exact Call.keeps_pure ()
    · refine (hsearch _).bind fun out => (Call.keeps_pure out.rows).bind fun candidates => ?_
      split
      · exact Call.leads_throw fun _ h => h
      · exact Call.keeps_pure ()

theorem keeps_checkUnlessDirect (hsearch : ∀ c, Keeps P (st.search c)) (b : Batch)
    (idField : String) (docs : List (Fields Json)) :
    Keeps P (b.checkUnlessDirect st idField docs) := by
  unfold checkUnlessDirect
  split
  · exact Call.keeps_pure ()
  · exact keeps_checkUnique hsearch idField docs

end

/-! ## Keys -/

theorem map_numbered {α β : Type} (f : α → β) (xs : List α) :
    ((numbered xs).map fun p => f p.2) = xs.map f := by
  have hfst : xs.zipIdx.map Prod.fst = xs := List.zipIdx_map_fst 0 xs
  have hmap : ((numbered xs).map fun p => f p.2) = (xs.zipIdx.map Prod.fst).map f := by
    rw [numbered, List.map_map, List.map_map]
    rfl
  rw [hmap, hfst]

/-- The key of an item, which an item without one does not have. -/
def keyOf (field : String) (p : Nat × Fields Json) : Except AccessError Value :=
  match Json.present? p.2 field with
  | some v => .ok (.ofJson v)
  | none => .error (.batchShape s!"item #{p.1} has no '{field}'")

theorem keyOf_eq_ok {field : String} {p : Nat × Fields Json} {v : Value}
    (h : keyOf field p = .ok v) :
    v = valueOf p.2 field ∧ ∃ j, p.2.get? field = some j ∧ j.isNull = false := by
  unfold keyOf at h
  split at h
  · rename_i j hj
    obtain ⟨hget, hnull⟩ := Option.filter_eq_some_iff.mp hj
    cases h
    refine ⟨?_, j, hget, by simpa using hnull⟩
    rw [valueOf, hget]
    rfl
  · cases h

/-- The keys of a batch are the values of its items, none of which is
null. -/
theorem keys_eq_ok {b : Batch} {field : String} {keys : List Value}
    (h : b.keys field = .ok keys) :
    keys = b.items.map (valueOf · field) ∧
      ∀ doc ∈ b.items, ∃ j, doc.get? field = some j ∧ j.isNull = false := by
  have hkeys : (numbered b.items).mapM (keyOf field) = .ok keys := h
  constructor
  · rw [← map_numbered (valueOf · field)]
    exact eq_map_of_mapM hkeys fun p v hv => (keyOf_eq_ok hv).1
  · intro doc hdoc
    rw [← List.map_id b.items, ← map_numbered id] at hdoc
    obtain ⟨p, hp, rfl⟩ := List.mem_map.mp hdoc
    obtain ⟨v, hv⟩ := exists_of_mapM hkeys p hp
    exact (keyOf_eq_ok hv).2

/-- A batch whose keys cannot be told has an item without one. -/
theorem exists_of_keys_eq_error {b : Batch} {field : String} {e : AccessError}
    (h : b.keys field = .error e) : ∃ doc ∈ b.items, Json.present? doc field = none := by
  refine Classical.byContradiction fun hall => ?_
  have hkeys : (numbered b.items).mapM (keyOf field) =
      .ok ((numbered b.items).map fun p => valueOf p.2 field) := by
    apply mapM_eq_ok
    intro p hp
    have hdoc : p.2 ∈ b.items := by
      rw [← List.map_id b.items, ← map_numbered id]
      exact List.mem_map.mpr ⟨p, hp, rfl⟩
    cases hv : Json.present? p.2 field with
    | none => exact absurd ⟨p.2, hdoc, hv⟩ hall
    | some v =>
      rw [keyOf, hv, valueOf, (Option.filter_eq_some_iff.mp hv).1]
      rfl
  cases h.symm.trans hkeys

end EntityStore.Batch

namespace EntityStore

theorem ConflictReport.isEmpty_record (r : ConflictReport) (subject field : String) (value : Json) :
    (r.record subject field value).isEmpty = false := by
  have hkey : Fields.contains (r.record subject field value).conflicts subject = true := by
    rw [Fields.contains, record, Fields.alter, Fields.get?_insert_self]
    rfl
  unfold isEmpty
  cases hnil : (r.record subject field value).conflicts with
  | nil =>
    rw [hnil] at hkey
    cases hkey
  | cons p rest => rfl

namespace Batch

variable {e : Entity} {field : String}

/-! ## Repeats -/

/-- The key of an item under a unique field, if it has a value there. -/
def scopedKey? (e : Entity) (field : String) (doc : Fields Json) : Option (List Value) :=
  (Json.present? doc field).map (scopedKey e doc)

/-- Two keys are not the same. -/
def Differ (k l : List Value) : Prop := (Value.orderLists k l).isEq = false

theorem Differ.symm {k l : List Value} (h : Differ k l) : Differ l k := by
  rw [Differ, ← Value.orderLists_swap, Ordering.isEq_swap]
  exact h

/-- No two items have the same key under a unique field. -/
def Distinct (e : Entity) (field : String) (docs : List (Fields Json)) : Prop :=
  (docs.filterMap (scopedKey? e field)).Pairwise Differ

theorem firstWith?_eq_none_iff {key : List Value} {seen : List (List Value × String)} :
    firstWith? key seen = none ↔ ∀ k ∈ seen.map (·.1), Differ k key := by
  rw [firstWith?, Option.map_eq_none_iff, List.find?_eq_none, List.forall_mem_map]
  simp [Differ]

section

variable {acc : ConflictReport × List (List Value × String)} {s : Subject}

theorem repeatStep_of_absent (hv : Json.present? s.doc field = none) :
    repeatStep e field acc s = acc := by
  rw [repeatStep, hv]

theorem repeatStep_of_first {v : Json} (hv : Json.present? s.doc field = some v)
    (hfirst : firstWith? (scopedKey e s.doc v) acc.2 = none) :
    repeatStep e field acc s = (acc.1, acc.2 ++ [(scopedKey e s.doc v, s.name)]) := by
  rw [repeatStep, hv]
  dsimp only
  rw [hfirst]

theorem repeatStep_of_repeat {v : Json} {other : String} (hv : Json.present? s.doc field = some v)
    (hfirst : firstWith? (scopedKey e s.doc v) acc.2 = some other) :
    repeatStep e field acc s = ((acc.1.record other field v).record s.name field v, acc.2) := by
  rw [repeatStep, hv]
  dsimp only
  rw [hfirst]

end

-- The report only grows, and the keys met so far are those that were not
-- reported, so the induction carries both.
theorem isEmpty_repeats_from (ss : List Subject) (r : ConflictReport)
    (seen : List (List Value × String)) :
    ((ss.foldl (repeatStep e field) (r, seen)).1.isEmpty = true) ↔ r.isEmpty = true ∧
      (ss.filterMap fun s => scopedKey? e field s.doc).Pairwise Differ ∧
      ∀ k ∈ seen.map (·.1), ∀ l ∈ ss.filterMap fun s => scopedKey? e field s.doc, Differ k l := by
  induction ss generalizing r seen with
  | nil => simp
  | cons s ss ih =>
    rw [List.foldl_cons, List.filterMap_cons]
    cases hv : Json.present? s.doc field with
    | none =>
      rw [scopedKey?, hv, repeatStep_of_absent hv]
      exact ih r seen
    | some v =>
      rw [scopedKey?, hv, Option.map_some]
      dsimp only
      cases hfirst : firstWith? (scopedKey e s.doc v) seen with
      | some other =>
        rw [repeatStep_of_repeat hv hfirst, ih, ConflictReport.isEmpty_record]
        constructor
        · rintro ⟨h, -⟩
          cases h
        · rintro ⟨-, -, hnew⟩
          have hnone : firstWith? (scopedKey e s.doc v) seen = none :=
            firstWith?_eq_none_iff.mpr fun k hk => hnew k hk _ List.mem_cons_self
          rw [hnone] at hfirst
          cases hfirst
      | none =>
        have hseen := firstWith?_eq_none_iff.mp hfirst
        rw [repeatStep_of_first hv hfirst, ih, List.pairwise_cons, List.map_append]
        simp only [List.forall_mem_append, List.map_singleton, List.forall_mem_singleton,
          List.forall_mem_cons]
        constructor
        · rintro ⟨hr, hpair, hold, hnew⟩
          exact ⟨hr, ⟨hnew, hpair⟩, fun k hk => ⟨hseen k hk, hold k hk⟩⟩
        · rintro ⟨hr, ⟨hnew, hpair⟩, hold⟩
          exact ⟨hr, hpair, fun k hk => (hold k hk).2, hnew⟩

theorem docs_subjects (idField : String) (docs : List (Fields Json)) :
    (subjects idField docs).map Subject.doc = docs := by
  rw [subjects, List.map_map]
  exact (map_numbered id docs).trans (List.map_id docs)

theorem isEmpty_repeats_iff {idField : String} {docs : List (Fields Json)} {r : ConflictReport} :
    (repeats e (subjects idField docs) r field).isEmpty = true ↔
      r.isEmpty = true ∧ Distinct e field docs := by
  have hkeys : ((subjects idField docs).filterMap fun s => scopedKey? e field s.doc) =
      docs.filterMap (scopedKey? e field) := by
    rw [← docs_subjects idField docs, List.filterMap_map, docs_subjects]
    rfl
  rw [repeats, isEmpty_repeats_from, hkeys]
  simp [Distinct]

/-- The repeats of all unique fields. -/
theorem isEmpty_all_repeats_iff {idField : String} {docs : List (Fields Json)}
    {fields : List String} {r : ConflictReport} :
    (fields.foldl (repeats e (subjects idField docs)) r).isEmpty = true ↔
      r.isEmpty = true ∧ ∀ f ∈ fields, Distinct e f docs := by
  induction fields generalizing r with
  | nil => simp
  | cons f fields ih =>
    rw [List.foldl_cons, ih, isEmpty_repeats_iff, List.forall_mem_cons, and_assoc]

/-! ## Clashes -/

/-- An item clashes under a field with one of the stored records. -/
def Clashes (e : Entity) (idField : String) (candidates : List (Fields Json))
    (doc : Fields Json) (field : String) : Prop :=
  (Json.present? doc field).isSome = true ∧ ∃ c ∈ candidates, clashes e idField field c doc = true

variable {idField : String} {candidates : List (Fields Json)}

theorem isEmpty_clashStep_iff {s : Subject} {r : ConflictReport} :
    (clashStep e idField candidates s r field).isEmpty = true ↔
      r.isEmpty = true ∧ ¬ Clashes e idField candidates s.doc field := by
  unfold clashStep Clashes
  cases Json.present? s.doc field with
  | none => simp
  | some v =>
    dsimp only
    split
    · rename_i hany
      rw [ConflictReport.isEmpty_record]
      simp only [List.any_eq_true] at hany
      simp [hany]
    · rename_i hany
      simp only [List.any_eq_true] at hany
      simp [hany]

theorem isEmpty_clashFields_iff {s : Subject} {fields : List String} {r : ConflictReport} :
    (fields.foldl (clashStep e idField candidates s) r).isEmpty = true ↔ r.isEmpty = true ∧
      ∀ f ∈ fields, ¬ Clashes e idField candidates s.doc f := by
  induction fields generalizing r with
  | nil => simp
  | cons f fields ih =>
    rw [List.foldl_cons, ih, isEmpty_clashStep_iff, List.forall_mem_cons, and_assoc]

theorem isEmpty_clashing_iff {ss : List Subject} {r : ConflictReport} :
    (clashing e idField candidates ss r).isEmpty = true ↔ r.isEmpty = true ∧
      ∀ s ∈ ss, ∀ f ∈ e.uniqueFields, ¬ Clashes e idField candidates s.doc f := by
  induction ss generalizing r with
  | nil => simp [clashing]
  | cons s ss ih =>
    have hcons : clashing e idField candidates (s :: ss) r = clashing e idField candidates ss
        (e.uniqueFields.foldl (clashStep e idField candidates s) r) := rfl
    rw [hcons, ih, isEmpty_clashFields_iff, List.forall_mem_cons, and_assoc]

/-! ## The check -/

/-- The items pass the check against the stored records that were found. -/
structure Passes (e : Entity) (idField : String) (docs candidates : List (Fields Json)) :
    Prop where
  distinct : ∀ f ∈ e.uniqueFields, Distinct e f docs
  alone : ∀ doc ∈ docs, ∀ f ∈ e.uniqueFields, ¬ Clashes e idField candidates doc f

/-- The report of a check that has found these stored records. -/
def conflicts (e : Entity) (idField : String) (docs candidates : List (Fields Json)) :
    ConflictReport :=
  clashing e idField candidates (subjects idField docs)
    (e.uniqueFields.foldl (repeats e (subjects idField docs)) (.empty e.name))

theorem isEmpty_conflicts_iff {docs : List (Fields Json)} :
    (conflicts e idField docs candidates).isEmpty = true ↔ Passes e idField docs candidates := by
  have hdocs : (∀ s ∈ subjects idField docs, ∀ f ∈ e.uniqueFields,
      ¬ Clashes e idField candidates s.doc f) ↔
      ∀ doc ∈ docs, ∀ f ∈ e.uniqueFields, ¬ Clashes e idField candidates doc f := by
    have hmap : (∀ doc ∈ (subjects idField docs).map Subject.doc, ∀ f ∈ e.uniqueFields,
      ¬ Clashes e idField candidates doc f) ↔ _ := List.forall_mem_map
    rw [docs_subjects] at hmap
    exact hmap.symm
  rw [conflicts, isEmpty_clashing_iff, isEmpty_all_repeats_iff, hdocs]
  have hempty : (ConflictReport.empty e.name).isEmpty = true := rfl
  rw [hempty]
  exact ⟨fun h => ⟨h.1.2, h.2⟩, fun h => ⟨⟨rfl, h.distinct⟩, h.alone⟩⟩

/-- The search for the stored records that may clash with some items, where
there is one. -/
def candidateSearch? (e : Entity) (docs : List (Fields Json)) : Option Criteria :=
  let conditions := e.uniqueFields.filterMap (sharing? docs)
  if conditions.isEmpty then none else some (.ofGroup (.any conditions))

theorem candidateSearch?_eq_some {docs : List (Fields Json)} {c : Criteria}
    (h : candidateSearch? e docs = some c) : e.uniqueFields.filterMap (sharing? docs) ≠ [] ∧
      c = .ofGroup (.any (e.uniqueFields.filterMap (sharing? docs))) := by
  unfold candidateSearch? at h
  dsimp only at h
  split at h
  · cases h
  · rename_i hfull
    cases h
    exact ⟨fun hnil => hfull (List.isEmpty_iff.mpr hnil), rfl⟩

/-! ## Items with the same values -/

theorem isSome_present? (doc : Fields Json) (f : String) :
    (Json.present? doc f).isSome = !(valueOf doc f).isNull := by
  rw [Json.present?, valueOf]
  cases doc.get? f with
  | none => rfl
  | some j =>
    rw [Option.map_some, Option.getD_some, Value.isNull_ofJson, Option.filter_some]
    cases j.isNull <;> rfl

theorem map_present? (doc : Fields Json) (f : String) : (Json.present? doc f).map Value.ofJson =
    if (valueOf doc f).isNull then none else some (valueOf doc f) := by
  rw [Json.present?, valueOf]
  cases doc.get? f with
  | none => rfl
  | some j =>
    rw [Option.map_some, Option.getD_some, Value.isNull_ofJson, Option.filter_some]
    cases j.isNull <;> rfl

/-- The key of an item is made of its values. -/
theorem scopedKey?_eq (e : Entity) (field : String) (doc : Fields Json) :
    scopedKey? e field doc = if (valueOf doc field).isNull then none
      else some ((field :: e.uniqueScope).map (valueOf doc)) := by
  have hkey : scopedKey? e field doc = ((Json.present? doc field).map Value.ofJson).map
      (· :: e.uniqueScope.map (valueOf doc)) := by
    rw [Option.map_map]
    rfl
  rw [hkey, map_present?]
  split <;> rfl

section

variable {items : List (Fields Json)} {w v : Fields Json → Fields Json}

/-- Items with the same values in all unique fields may clash with the same
stored records. -/
theorem candidateSearch?_congr
    (h : ∀ doc ∈ items, ∀ f ∈ e.uniqueFields, valueOf (w doc) f = valueOf (v doc) f) :
    candidateSearch? e (items.map w) = candidateSearch? e (items.map v) := by
  have hvalues : ∀ f ∈ e.uniqueFields,
      fieldValues (items.map w) f = fieldValues (items.map v) f := by
    intro f hf
    unfold fieldValues
    simp only [List.filterMap_map, List.map_filterMap, Function.comp_def, map_present?]
    rw [List.filterMap_congr fun doc hdoc => by rw [h doc hdoc f hf]]
  have hsharing : e.uniqueFields.filterMap (sharing? (items.map w)) =
      e.uniqueFields.filterMap (sharing? (items.map v)) :=
    List.filterMap_congr fun f hf => by rw [sharing?, sharing?, hvalues f hf]
  rw [candidateSearch?, candidateSearch?, hsharing]

theorem Distinct.congr (h : Distinct e field (items.map v))
    (hsame : ∀ doc ∈ items, ∀ f ∈ field :: e.uniqueScope,
      valueOf (w doc) f = valueOf (v doc) f) : Distinct e field (items.map w) := by
  have hkeys : (items.map w).filterMap (scopedKey? e field) =
      (items.map v).filterMap (scopedKey? e field) := by
    rw [List.filterMap_map, List.filterMap_map]
    refine List.filterMap_congr fun doc hdoc => ?_
    simp only [Function.comp_apply, scopedKey?_eq, List.map_congr_left (hsame doc hdoc),
      hsame doc hdoc field List.mem_cons_self]
  rwa [Distinct, hkeys]

/-- Of two different items one has another value in a unique field or its
scope, if they have a value there. -/
theorem Distinct.exists_ne (h : Distinct e field (items.map v)) {doc other : Fields Json}
    (hdoc : doc ∈ items) (hother : other ∈ items) (hne : doc ≠ other)
    (hpresent : (valueOf (v doc) field).isNull = false)
    (halso : (valueOf (v other) field).isNull = false) :
    ¬ ∀ f ∈ field :: e.uniqueScope, (valueOf (v doc) f == valueOf (v other) f) = true := by
  intro hsame
  rw [Distinct, List.filterMap_map, List.pairwise_filterMap] at h
  have hkey : ∀ d, (valueOf (v d) field).isNull = false → (scopedKey? e field ∘ v) d =
      some ((field :: e.uniqueScope).map (valueOf (v d))) := by
    intro d hd
    rw [Function.comp_apply, scopedKey?_eq, hd]
    rfl
  let apart (a b : Fields Json) : Prop := ∀ k, (scopedKey? e field ∘ v) a = some k →
    ∀ l, (scopedKey? e field ∘ v) b = some l → Differ k l
  have hsymm : Std.Symm apart := ⟨fun _ _ hab k hk l hl => (hab l hl k hk).symm⟩
  have hdiffer : apart doc other := List.Pairwise.forall h hdoc hother hne
  have hsameKey := hdiffer _ (hkey doc hpresent) _ (hkey other halso)
  rw [Differ, Value.isEq_orderLists_map.mpr hsame] at hsameKey
  cases hsameKey

/-- Items that have the same values clash with the same records. -/
theorem Clashes.congr {doc other : Fields Json} (h : Clashes e idField candidates doc field)
    (hsame : ∀ f ∈ idField :: field :: e.uniqueScope, valueOf other f = valueOf doc f) :
    Clashes e idField candidates other field := by
  simp only [List.forall_mem_cons] at hsame
  obtain ⟨hid, hfield, hscope⟩ := hsame
  obtain ⟨hpresent, c, hc, hclash⟩ := h
  refine ⟨?_, c, hc, ?_⟩
  · rwa [isSome_present?, hfield, ← isSome_present?]
  · have hall : e.uniqueScope.all (sameMember c other) = e.uniqueScope.all (sameMember c doc) := by
      rw [Bool.eq_iff_iff, List.all_eq_true, List.all_eq_true]
      exact forall₂_congr fun f hf => by rw [sameMember, sameMember, hscope f hf]
    rw [← hclash]
    simp only [clashes, isSelf, isSome_present?, hall]
    simp only [sameMember, hid, hfield]

end

open Call (Ends)

theorem candidateSearch?_of_trivial {docs : List (Fields Json)}
    (h : e.uniqueFields.isEmpty || docs.isEmpty) : candidateSearch? e docs = none := by
  have hnone : e.uniqueFields.filterMap (sharing? docs) = [] := by
    rcases Bool.or_eq_true_iff.mp h with hfields | hdocs
    · rw [List.isEmpty_iff.mp hfields, List.filterMap_nil]
    · rw [List.isEmpty_iff.mp hdocs, List.filterMap_eq_nil_iff]
      simp [sharing?, fieldValues, Value.sort, Value.dropRepeats]
  rw [candidateSearch?, hnone]
  rfl

theorem passes_of_trivial {docs : List (Fields Json)}
    (h : e.uniqueFields.isEmpty || docs.isEmpty) : Passes e idField docs [] := by
  rcases Bool.or_eq_true_iff.mp h with hfields | hdocs
  · have hnil := List.isEmpty_iff.mp hfields
    constructor <;> simp [hnil]
  · obtain rfl := List.isEmpty_iff.mp hdocs
    exact ⟨fun _ _ => List.Pairwise.nil, nofun⟩

/-- The check finds the stored records that may clash, and fails with the
report of the conflicts where there is one. -/
theorem ends_checkUnique_report {σ : Type} {st : Store σ} {P : σ → Prop}
    {F : AccessError → σ → Prop} {R : List (Fields Json) → σ → Prop} {docs : List (Fields Json)}
    (hsearch : ∀ c, candidateSearch? st.entity docs = some c →
      Ends P (st.search c) (fun out => R out.rows) F)
    (hnone : candidateSearch? st.entity docs = none → ∀ s, P s → R [] s)
    (hF : ∀ found s, (conflicts st.entity idField docs found).isEmpty = false → R found s →
      F (.conflict (conflicts st.entity idField docs found)) s) :
    Ends P (checkUnique st idField docs)
      (fun _ s => ∃ found, (conflicts st.entity idField docs found).isEmpty = true ∧ R found s)
      F := by
  have hreport : ∀ found, Ends (R found) (do
      let r := conflicts st.entity idField docs found
      if !r.isEmpty then throw (.conflict r) : Call σ Unit)
      (fun _ s => ∃ found, (conflicts st.entity idField docs found).isEmpty = true ∧ R found s)
      F := by
    intro found
    dsimp only
    split
    · rename_i hfull
      rw [Bool.not_eq_true'] at hfull
      exact fun s hs => hF found s hfull hs
    · rename_i hempty
      rw [Bool.not_eq_true', Bool.not_eq_false] at hempty
      exact Call.ends_pure fun s hs => ⟨found, hempty, hs⟩
  unfold checkUnique
  dsimp only
  split
  · rename_i htrivial
    exact Call.ends_pure fun s hs => ⟨[], isEmpty_conflicts_iff.mpr (passes_of_trivial htrivial),
      hnone (candidateSearch?_of_trivial htrivial) s hs⟩
  · split
    · rename_i hconditions
      refine Ends.andThen (R := R []) (Call.ends_pure fun s hs => ⟨rfl, ?_⟩) (hreport [])
      exact hnone (if_pos hconditions) s hs
    · rename_i hconditions
      exact (hsearch _ (if_neg hconditions)).bind fun out => hreport out.rows

/-- The check fails where the items do not pass it against the stored records
that it finds. -/
theorem ends_checkUnique {σ : Type} {st : Store σ} {P : σ → Prop} {F : AccessError → σ → Prop}
    {R : List (Fields Json) → σ → Prop} {docs : List (Fields Json)}
    (hsearch : ∀ c, candidateSearch? st.entity docs = some c →
      Ends P (st.search c) (fun out => R out.rows) F)
    (hnone : candidateSearch? st.entity docs = none → ∀ s, P s → R [] s)
    (hF : ∀ found r s, ¬ Passes st.entity idField docs found → R found s → F (.conflict r) s) :
    Ends P (checkUnique st idField docs)
      (fun _ s => ∃ found, Passes st.entity idField docs found ∧ R found s) F := by
  simp only [← isEmpty_conflicts_iff, Bool.not_eq_true] at hF ⊢
  exact ends_checkUnique_report hsearch hnone fun found s => hF found _ s

/-- Items that pass a check which is not left out share no value that has to
be unique. -/
theorem ends_checkUnlessDirect {σ : Type} {st : Store σ} {P : σ → Prop}
    {F : AccessError → σ → Prop} (hF : ∀ e s, P s → F e s)
    (hsearch : ∀ c, Call.Keeps P (st.search c)) (b : Batch) (idField : String)
    (docs : List (Fields Json)) :
    Ends P (b.checkUnlessDirect st idField docs) (fun _ s =>
      (b.direct = false → ∀ f ∈ st.entity.uniqueFields, Distinct st.entity f docs) ∧ P s) F := by
  unfold checkUnlessDirect
  split
  · rename_i hdirect
    refine Call.ends_pure fun s hs => ⟨fun hnot => ?_, hs⟩
    rw [hdirect] at hnot
    cases hnot
  · refine (ends_checkUnique (R := fun _ s => P s) (fun c _ => ?_) (fun _ _ hs => hs)
      fun _ _ s _ hs => hF _ s hs).weaken ?_ fun _ _ h => h
    · exact Ends.weaken (hsearch c) (fun _ _ hs => hs) hF
    · rintro _ s ⟨found, hpasses, hs⟩
      exact ⟨fun _ => hpasses.distinct, hs⟩

end Batch

end EntityStore
