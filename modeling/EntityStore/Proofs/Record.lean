-- Records under dotted paths. A path leads to what was set there, and a path that parts from it
-- leads to what it led to before. The changed fields are those that differ from the clean record,
-- whatever was set and unset since.
import EntityStore.Proofs.Json.Sound
import EntityStore.Record
import Mathlib.Data.List.Infix

namespace EntityStore

/-! ## Objects with the same members -/

theorem Json.same_of_sameMembers {a b : Fields Json} (h : Json.sameMembers a b = true) (f : String) :
    (a.get? f = none ∧ b.get? f = none) ∨
      ∃ v w, a.get? f = some v ∧ b.get? f = some w ∧ (v == w) = true := by
  induction a generalizing b with
  | nil =>
    cases b with
    | nil => exact .inl ⟨rfl, rfl⟩
    | cons q b => cases h
  | cons p a ih =>
    cases b with
    | nil => cases h
    | cons q b =>
      obtain ⟨k, v⟩ := p
      obtain ⟨l, w⟩ := q
      rw [Json.sameMembers, Bool.and_eq_true, Bool.and_eq_true, beq_iff_eq] at h
      obtain ⟨⟨rfl, hsame⟩, hrest⟩ := h
      rw [Fields.get?_cons, Fields.get?_cons]
      by_cases hf : f = k
      · rw [if_pos hf, if_pos hf]
        exact .inr ⟨v, w, rfl, rfl, hsame⟩
      · rw [if_neg hf, if_neg hf]
        exact ih hrest

/-- Objects whose names are in order are the same where they have the same
members under each name. -/
theorem Json.sameMembers_of_same {a b : Fields Json} (hkeys : a.keys = b.keys) (ha : a.Ordered)
    (h : ∀ f v w, a.get? f = some v → b.get? f = some w → (v == w) = true) :
    Json.sameMembers a b = true := by
  induction a generalizing b with
  | nil =>
    cases b with
    | nil => rfl
    | cons q b => cases hkeys
  | cons p a ih =>
    cases b with
    | nil => cases hkeys
    | cons q b =>
      obtain ⟨hname, hrest⟩ := List.cons.inj hkeys
      obtain ⟨hfirst, htail⟩ := List.pairwise_cons.mp ha
      have hnew : p.1 ∉ Fields.keys a := fun hmem => by
        obtain ⟨r, hr, heq⟩ := List.mem_map.mp hmem
        exact String.lt_irrefl _ (heq ▸ hfirst r hr)
      have hsame : (p.2 == q.2) = true :=
        h p.1 p.2 q.2 (by rw [Fields.get?_cons, if_pos rfl]) (by rw [Fields.get?_cons, if_pos hname])
      obtain ⟨k, v⟩ := p
      obtain ⟨l, w⟩ := q
      have hlater : ∀ f v, Fields.get? a f = some v → f ≠ k := by
        rintro _ v hv rfl
        rw [Fields.get?_eq_none_iff.mpr hnew] at hv
        cases hv
      have hothers : Json.sameMembers a b = true := by
        refine ih hrest htail fun f v w hv hw => h f v w ?_ ?_
        · rw [Fields.get?_cons, if_neg (hlater f v hv), hv]
        · rw [Fields.get?_cons, if_neg fun heq => hlater f v hv (heq.trans hname.symm), hw]
      rw [Json.sameMembers, Bool.and_eq_true, Bool.and_eq_true, beq_iff_eq]
      exact ⟨⟨hname, hsame⟩, hothers⟩

namespace Record

variable {r : Record} {fields : Fields Json} {path other : List String} {k f : String} {v : Json}

/-! ## Paths of names -/

theorem lookup_nothing (path : List String) : lookup path [] = none := by
  unfold lookup
  split <;> simp

/-- Behind a name a path goes on in the object under it. -/
theorem lookup_cons (hpath : path ≠ []) (k : String) (fields : Fields Json) :
    lookup (k :: path) fields = lookup path (innerFields (fields.get? k)) := by
  rw [lookup]
  · cases fields.get? k with
    | none => simp [innerFields, lookup_nothing]
    | some j => cases j <;> simp [innerFields, lookup_nothing]
  · exact hpath

theorem exists_inner_of_lookup (hpath : path ≠ []) (h : lookup (k :: path) fields = some v) :
    ∃ inner, fields.get? k = some (.obj inner) ∧ lookup path inner = some v := by
  rw [lookup_cons hpath] at h
  cases hget : fields.get? k with
  | none => simp [hget, innerFields, lookup_nothing] at h
  | some j =>
    cases j with
    | obj inner =>
      rw [hget] at h
      exact ⟨inner, rfl, h⟩
    | _ => simp [hget, innerFields, lookup_nothing] at h

theorem store_cons (hpath : path ≠ []) (k : String) (v : Json) (fields : Fields Json) :
    store (k :: path) v fields =
      fields.insert k (.obj (store path v (innerFields (fields.get? k)))) := by
  rw [store]
  exact hpath

/-- A path reads the field with its first name alone. -/
theorem lookup_congr {fields fields' : Fields Json} (h : fields.get? k = fields'.get? k)
    (path : List String) : lookup (k :: path) fields = lookup (k :: path) fields' := by
  by_cases hpath : path = []
  · subst hpath
    exact h
  · rw [lookup_cons hpath, lookup_cons hpath, h]

/-- A path writes the field with its first name alone. -/
theorem get?_store (hf : path.head? ≠ some f) (v : Json) (fields : Fields Json) :
    (store path v fields).get? f = fields.get? f := by
  cases path with
  | nil => rfl
  | cons k path =>
    have hne : f ≠ k := by simpa [eq_comm] using hf
    by_cases hpath : path = []
    · subst hpath
      simp [store, Fields.get?_insert, hne]
    · simp [store_cons hpath, Fields.get?_insert, hne]

theorem ordered_store (h : fields.Ordered) (path : List String) (v : Json) :
    (store path v fields).Ordered := by
  unfold store
  split
  · exact h
  · exact h.insert _ _
  · exact h.insert _ _

/-! ## What is stored at a path -/

/-- A path leads to what is stored there. -/
theorem lookup_store (hpath : path ≠ []) (v : Json) (fields : Fields Json) :
    lookup path (store path v fields) = some v := by
  induction path generalizing fields with
  | nil => exact absurd rfl hpath
  | cons k path ih =>
    by_cases hlast : path = []
    · subst hlast
      simp [store, lookup]
    · rw [store_cons hlast, lookup_cons hlast, Fields.get?_insert_self]
      exact ih hlast _

/-- A path that parts from the one under which something is stored leads to what it
led to before. Where an object takes the place of something else it led nowhere, and
still does. -/
theorem lookup_store_of_apart (hpath : ¬ path <+: other) (hother : ¬ other <+: path) (v : Json)
    (fields : Fields Json) : lookup other (store path v fields) = lookup other fields := by
  induction path generalizing other fields with
  | nil => exact absurd List.nil_prefix hpath
  | cons k path ih =>
    cases other with
    | nil => exact absurd List.nil_prefix hother
    | cons l other =>
      by_cases hl : l = k
      · subst hl
        rw [List.prefix_cons_inj] at hpath hother
        have hgoesOn : path ≠ [] := by
          rintro rfl
          exact hpath List.nil_prefix
        have hotherGoesOn : other ≠ [] := by
          rintro rfl
          exact hother List.nil_prefix
        rw [store_cons hgoesOn, lookup_cons hotherGoesOn, lookup_cons hotherGoesOn,
          Fields.get?_insert_self]
        exact ih hpath hother _
      · apply lookup_congr
        apply get?_store
        simpa [eq_comm] using hl

/-- Of two documents stored at one path the second one stays. -/
theorem store_store (path : List String) (v w : Json) (fields : Fields Json) :
    store path w (store path v fields) = store path w fields := by
  induction path generalizing fields with
  | nil => rfl
  | cons k path ih =>
    by_cases hlast : path = []
    · subst hlast
      simp [store, Fields.insert_insert]
    · simp only [store_cons hlast, Fields.insert_insert, Fields.get?_insert_self, innerFields, ih]

/-- What a path leads to is there already. -/
theorem store_of_lookup (hsound : (Json.obj fields).isSound = true)
    (h : lookup path fields = some v) : store path v fields = fields := by
  induction path generalizing fields with
  | nil => rfl
  | cons k path ih =>
    have hordered : fields.Ordered := of_decide_eq_true ((Bool.and_eq_true ..).mp hsound).1
    by_cases hlast : path = []
    · subst hlast
      exact hordered.insert_eq_self h
    · obtain ⟨inner, hinner, hlookup⟩ := exists_inner_of_lookup hlast h
      have hsame : store path v inner = inner := ih (Json.isSound_of_get? hsound hinner) hlookup
      rw [store_cons hlast, hinner, innerFields, hsame]
      exact hordered.insert_eq_self hinner

/-! ## Changes -/

/-- The names of the fields of a record and of its clean record are in order. -/
structure IsOrdered (r : Record) : Prop where
  fields : r.fields.Ordered
  clean : r.clean.Ordered

/-- Only one of two records has the field, or they have different documents
under it. -/
def DiffersAt (m n : Fields Json) (f : String) : Prop :=
  m.contains f ≠ n.contains f ∨
    ∃ v w, m.get? f = some v ∧ n.get? f = some w ∧ (v == w) = false

theorem isKept_eq_false_iff : r.isKept f = false ↔ DiffersAt r.fields r.clean f := by
  unfold isKept DiffersAt Fields.contains
  cases r.fields.get? f <;> cases r.clean.get? f <;> simp

theorem isKept_of_get?_eq (h : r.fields.get? f = r.clean.get? f)
    (hsound : ∀ j, r.clean.get? f = some j → j.isSound = true) : r.isKept f = true := by
  rw [isKept, h]
  cases hget : r.clean.get? f with
  | none => rfl
  | some j => exact Json.same_self j (hsound j hget)

/-- A record that has not changed keeps every field. -/
theorem isKept_of_not_hasChanged (h : r.hasChanged = false) (f : String) : r.isKept f = true := by
  have hsame : Json.sameMembers r.fields r.clean = true := by simpa [hasChanged] using h
  rw [isKept]
  rcases Json.same_of_sameMembers hsame f with ⟨hv, hw⟩ | ⟨v, w, hv, hw, heq⟩
  · rw [hv, hw]
  · rw [hv, hw]
    exact heq

/-- A record that keeps every field has not changed. -/
theorem hasChanged_of_isKept (hfields : r.fields.Ordered) (hclean : r.clean.Ordered)
    (h : ∀ f, r.isKept f = true) : r.hasChanged = false := by
  have hkeys : r.fields.keys = r.clean.keys := by
    refine hfields.keys_eq hclean fun f => ?_
    have hkept := h f
    rw [← Fields.contains_iff, ← Fields.contains_iff, Fields.contains, Fields.contains]
    unfold isKept at hkept
    split at hkept
    · rename_i hv hw
      rw [hv, hw]
      rfl
    · rename_i hv hw
      rw [hv, hw]
    · cases hkept
  rw [hasChanged, Json.sameMembers_of_same hkeys hfields]
  · rfl
  · intro f v w hv hw
    have hkept := h f
    rw [isKept, hv, hw] at hkept
    exact hkept

theorem mem_changedFields : f ∈ r.changedFields ↔ r.isKept f = false := by
  rw [changedFields, List.mem_filter, Fields.mem_names, Bool.not_eq_true', and_iff_right_iff_imp]
  intro hchanged
  by_contra hnone
  rw [List.mem_append, not_or, ← Fields.get?_eq_none_iff, ← Fields.get?_eq_none_iff] at hnone
  rw [isKept, hnone.1, hnone.2] at hchanged
  cases hchanged

/-- The changed fields are listed in order, each once. -/
theorem pairwise_changedFields (r : Record) : r.changedFields.Pairwise (· < ·) := by
  unfold changedFields
  apply List.Pairwise.filter
  exact (Fields.ordered_ofList _).pairwise_keys

theorem mem_changedFields_iff : f ∈ r.changedFields ↔ DiffersAt r.fields r.clean f := by
  rw [mem_changedFields, isKept_eq_false_iff]

theorem hasChanged_iff (h : r.IsOrdered) : r.hasChanged = true ↔ r.changedFields ≠ [] := by
  constructor
  · intro hchanged hnone
    have hkept : ∀ f, r.isKept f = true := by
      intro f
      by_contra hf
      have hmem : f ∈ r.changedFields := mem_changedFields.mpr (by simpa using hf)
      simp [hnone] at hmem
    simp [hasChanged_of_isKept h.fields h.clean hkept] at hchanged
  · intro hsome
    by_contra hsame
    apply hsome
    rw [List.eq_nil_iff_forall_not_mem]
    intro f hf
    rw [mem_changedFields, isKept_of_not_hasChanged (by simpa using hsame)] at hf
    cases hf

/-! ## Edits -/

inductive Edit where
  | set (path : String) (v : Json)
  | unset (field : String)

/-- The record after one edit. -/
def Edit.on (r : Record) : Edit → Record
  | .set path v => r.set path v
  | .unset field => r.unset field

/-- The record after some edits, one after the other. -/
def edited (r : Record) (edits : List Edit) : Record := edits.foldl Edit.on r

theorem ordered_set (h : r.fields.Ordered) (path : String) (v : Json) :
    (r.set path v).fields.Ordered := ordered_store h _ v

theorem IsOrdered.edit (h : r.IsOrdered) (e : Edit) : (e.on r).IsOrdered := by
  cases e with
  | set path v => exact ⟨ordered_set h.fields path v, h.clean⟩
  | unset field => exact ⟨h.fields.erase field, h.clean⟩

theorem IsOrdered.edited (h : r.IsOrdered) (edits : List Edit) : (r.edited edits).IsOrdered := by
  induction edits generalizing r with
  | nil => exact h
  | cons e edits ih => exact ih (h.edit e)

/-- No edit touches the clean record. -/
theorem clean_edited (r : Record) (edits : List Edit) : (r.edited edits).clean = r.clean := by
  induction edits generalizing r with
  | nil => rfl
  | cons e edits ih =>
    have hedit : (e.on r).clean = r.clean := by cases e <;> rfl
    have hrest : ((e.on r).edited edits).clean = (e.on r).clean := ih (e.on r)
    exact hrest.trans hedit

/-- A path leads to what is set there. Paths that part from it lead to what they led to before, and
so does each field but the one that it begins with. Of two documents set at one path the second one
stays, and what is there already changes nothing. A record has changed exactly where it has changed
fields, and after any edits of a stored record these are the fields by which it differs from what
is stored. -/
theorem a_path_leads_to_what_is_set_and_changes_are_told (r : Record) (p : String) (v : Json)
    (stored : Fields Json) (edits : List Edit) :
    (r.set p v).get? p = some v ∧
      (∀ q, ¬ Text.split '.' p <+: Text.split '.' q → ¬ Text.split '.' q <+: Text.split '.' p →
        (r.set p v).get? q = r.get? q) ∧
      (∀ f, (Text.split '.' p).head? ≠ some f → (r.set p v).fields.get? f = r.fields.get? f) ∧
      (∀ w, (r.set p v).set p w = r.set p w) ∧
      ((Json.obj r.fields).isSound = true → r.get? p = some v → r.set p v = r) ∧
      (r.IsOrdered → (r.hasChanged = true ↔ r.changedFields ≠ [])) ∧
      let after := (ofStored stored).edited edits
      after.changedFields.Pairwise (· < ·) ∧
        (∀ f, f ∈ after.changedFields ↔ DiffersAt after.fields stored f) ∧
        (stored.Ordered → (after.hasChanged = true ↔ ∃ f, DiffersAt after.fields stored f)) := by
  have hpath : Text.split '.' p ≠ [] := Text.split_ne_nil '.' p
  have htold : ∀ f, f ∈ ((ofStored stored).edited edits).changedFields ↔
      DiffersAt ((ofStored stored).edited edits).fields stored f := by
    intro f
    rw [mem_changedFields_iff, clean_edited]
    rfl
  refine ⟨lookup_store hpath v r.fields, ?_, ?_, ?_, ?_, hasChanged_iff, ?_, htold, ?_⟩
  · intro q hpq hqp
    exact lookup_store_of_apart hpq hqp v r.fields
  · intro f hf
    exact get?_store hf v r.fields
  · intro w
    unfold set
    rw [store_store]
  · intro hsound hget
    unfold set
    rw [store_of_lookup hsound hget]
  · exact pairwise_changedFields _
  · intro hordered
    have hstart : (ofStored stored).IsOrdered := ⟨hordered, hordered⟩
    rw [hasChanged_iff (hstart.edited edits), ne_eq, List.eq_nil_iff_forall_not_mem, not_forall_not]
    simp only [htold]

/-- A price of an oak takes the place of a number, and the oak loses its name. -/
theorem an_oak_is_priced_anew_and_loses_its_name :
    let oak : Fields Json := [("name", .str "Oak"), ("price", .int 5), ("size", .obj [("cm", .int 90)])]
    let r := ofStored oak
    let after := r.edited [.set "price.msrp" (.int 12), .unset "name", .set "size.cm" (.int 90)]
    (r.set "price.msrp" (.int 12)).get? "price.msrp" = some (.int 12) ∧
      (r.set "price.msrp" (.int 12)).get? "price.list" = none ∧
      (r.set "price.msrp" (.int 12)).fields.get? "size" = some (.obj [("cm", .int 90)]) ∧
      r.set "size.cm" (.int 90) = r ∧
      r.hasChanged = false ∧
      after.hasChanged = true ∧ "name" ∈ after.changedFields ∧ "size" ∉ after.changedFields := by
  intro oak r after
  have hapart : ¬ Text.split '.' "price.msrp" <+: Text.split '.' "price.list" ∧
      ¬ Text.split '.' "price.list" <+: Text.split '.' "price.msrp" ∧
      (Text.split '.' "price.msrp").head? ≠ some "size" := by
    decide
  obtain ⟨hlist, hlist', hsize⟩ := hapart
  obtain ⟨hget, hparted, hother, -, -, hchanged, -, htold, hafter⟩ :=
    a_path_leads_to_what_is_set_and_changes_are_told r "price.msrp" (.int 12) oak
      [.set "price.msrp" (.int 12), .unset "name", .set "size.cm" (.int 90)]
  obtain ⟨-, -, -, -, hput, -⟩ :=
    a_path_leads_to_what_is_set_and_changes_are_told r "size.cm" (.int 90) oak []
  have hname : DiffersAt after.fields oak "name" := .inl (by decide)
  refine ⟨hget, (hparted "price.list" hlist hlist').trans rfl, (hother "size" hsize).trans rfl,
    hput (by decide) rfl, ?_, (hafter (by decide)).mpr ⟨"name", hname⟩, (htold "name").mpr hname, ?_⟩
  · by_contra h
    exact (hchanged ⟨by decide, by decide⟩).mp (by simpa using h) rfl
  · have hkept : after.isKept "size" = true := by decide
    simp [mem_changedFields, hkept]

end Record

end EntityStore
