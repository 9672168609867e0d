-- A stored record with the fields of an item. Where the names of the fields
-- are no paths, each field is the item's or the stored one, and a locked
-- field is always the stored one.
import EntityStore.Batch.Basic
import EntityStore.Batch.Write
import EntityStore.Proofs.Record
import EntityStore.Proofs.Store.Flat
import EntityStore.Proofs.Tables.Inserting
import EntityStore.Text.Splitting

namespace EntityStore.Batch

open Flat (IsName)

variable {e : Entity} {override : Bool} {stored doc : Fields Json} {f : String}

/-! ## Patches -/

theorem fields_set (r : Record) (hf : IsName f) (v : Json) :
    (r.set f v).fields = r.fields.insert f v := by
  rw [Record.set, Text.split_of_hasChar_eq_false hf]
  rfl

/-- The record with the item's values under some names. -/
def withFields (doc : Fields Json) (names : List String) (r : Record) : Record :=
  names.foldl (fun r f => match doc.get? f with
    | some v => r.set f v
    | none => r) r

theorem get?_withFields {names : List String} (hnames : ∀ f ∈ names, IsName f) (r : Record)
    (g : String) : (withFields doc names r).fields.get? g =
      if g ∈ names then (doc.get? g).or (r.fields.get? g) else r.fields.get? g := by
  induction names generalizing r with
  | nil => rfl
  | cons f names ih =>
    rw [List.forall_mem_cons] at hnames
    have hcons : withFields doc (f :: names) r = withFields doc names (match doc.get? f with
      | some v => r.set f v
      | none => r) := rfl
    rw [hcons, ih hnames.2]
    cases hget : doc.get? f with
    | none => by_cases hg : g = f <;> simp [hg, hget]
    | some v =>
      dsimp only
      rw [fields_set r hnames.1, Fields.get?_insert]
      by_cases hg : g = f
      · subst hg
        simp [hget]
      · simp [hg]

/-- The field that a path leads into. -/
def root? (f : String) : Option String := (Text.split '.' f).head?

theorem root?_of_isName (hf : IsName f) : root? f = some f := by
  rw [root?, Text.split_of_hasChar_eq_false hf]
  rfl

/-- A field that no name leads into stays as it is. -/
theorem get?_withFields_of_apart {names : List String} {g : String}
    (hnames : ∀ f ∈ names, root? f ≠ some g) (r : Record) :
    (withFields doc names r).fields.get? g = r.fields.get? g := by
  induction names generalizing r with
  | nil => rfl
  | cons f names ih =>
    rw [List.forall_mem_cons] at hnames
    have hcons : withFields doc (f :: names) r = withFields doc names (match doc.get? f with
      | some v => r.set f v
      | none => r) := rfl
    rw [hcons, ih hnames.2]
    split
    · exact Record.get?_store hnames.1 ..
    · rfl

theorem clean_withFields (names : List String) (r : Record) :
    (withFields doc names r).clean = r.clean := by
  induction names generalizing r with
  | nil => rfl
  | cons f names ih =>
    have hcons : withFields doc (f :: names) r = withFields doc names (match doc.get? f with
      | some v => r.set f v
      | none => r) := rfl
    rw [hcons, ih]
    split <;> rfl

/-- A patched field is the item's, unless it is locked or the item has
none. -/
theorem get?_patch {fields : List String} (hfields : ∀ f ∈ fields, IsName f) (g : String) :
    (patch e override stored doc fields).fields.get? g =
      if g ∈ fields ∧ g ∉ lockedFields e stored override then (doc.get? g).or (stored.get? g)
      else stored.get? g := by
  have hpatch : patch e override stored doc fields = withFields doc
      (fields.filter fun f => !(lockedFields e stored override).contains f) (.ofStored stored) :=
    rfl
  have hnames : ∀ f ∈ fields.filter fun f => !(lockedFields e stored override).contains f,
      IsName f := fun f hf => hfields f (List.mem_filter.mp hf).1
  rw [hpatch, get?_withFields hnames]
  simp only [List.mem_filter, Bool.not_eq_true', List.contains_iff_mem, Bool.eq_false_iff, ne_eq]
  rfl

/-- A field is the stored one when only locked names lead into it. -/
theorem get?_patch_of_apart {fields : List String} {g : String}
    (hfields : ∀ f ∈ fields, root? f = some g → f ∈ lockedFields e stored override) :
    (patch e override stored doc fields).fields.get? g = stored.get? g := by
  refine get?_withFields_of_apart (fun f hf hroot => ?_) (.ofStored stored)
  obtain ⟨hmem, hunlocked⟩ := List.mem_filter.mp hf
  simp [hfields f hmem hroot] at hunlocked

theorem clean_patch (fields : List String) :
    (patch e override stored doc fields).clean = stored :=
  clean_withFields _ _

theorem ordered_patch (h : stored.Ordered) (fields : List String) :
    (patch e override stored doc fields).fields.Ordered := by
  have hfields : ∀ (names : List String) (r : Record), r.fields.Ordered →
      (withFields doc names r).fields.Ordered := by
    intro names
    induction names with
    | nil => exact fun _ hr => hr
    | cons f names ih =>
      intro r hr
      refine ih _ ?_
      dsimp only
      split
      · exact Record.ordered_set hr f _
      · exact hr
  exact hfields _ _ h

/-! ## Stored records by their keys -/

theorem mem_of_get?_ofList {α : Type} {ps : List (String × α)} {k : String} {v : α}
    (h : (Fields.ofList ps).get? k = some v) : (k, v) ∈ ps := by
  rcases Fields.mem_extend (m := []) (Fields.mem_of_get? h) with hmem | hmem
  · cases hmem
  · exact hmem

/-- The stored record under a key has that key. -/
theorem indexBy_eq_some {field key : String} {rows : List (Fields Json)}
    (h : (indexBy field rows).get? key = some stored) :
    stored ∈ rows ∧ ∃ j, stored.get? field = some j ∧ (Value.ofJson j).key = key := by
  obtain ⟨record, hrecord, hpair⟩ := List.mem_filterMap.mp (mem_of_get?_ofList h)
  obtain ⟨j, hj, heq⟩ := Option.map_eq_some_iff.mp hpair
  cases heq
  exact ⟨hrecord, j, hj, rfl⟩

/-! ## Completed items -/

variable {b : Batch} {field : String} {union : List String} {existing : Fields (Fields Json)}
  {key : Value}

/-- An item of a new record stays as it is. -/
theorem completed_of_new (h : existing.get? key.key = none) :
    b.completed e field union existing doc key = doc := by
  rw [completed, h]

/-- An item of a stored record has all fields of the batch as they are in the
patched record, besides the key and a stored identity. -/
theorem get?_completed_eq (h : existing.get? key.key = some stored) (hfield : f ≠ field)
    (hid : f = e.idField → stored.get? f = none) :
    (b.completed e field union existing doc key).get? f =
      if f ∈ union then
        some (Json.ofOption ((patch e b.overrideLocked stored doc union).fields.get? f))
      else none := by
  rw [completed, h]
  dsimp only
  have hfull : ((Fields.ofList (union.map fun f => (f, Json.ofOption
      ((patch e b.overrideLocked stored doc union).fields.get? f)))).insert field
        key.toJson).get? f = if f ∈ union then some (Json.ofOption
          ((patch e b.overrideLocked stored doc union).fields.get? f)) else none := by
    rw [Fields.get?_insert, if_neg hfield, Fields.get?_ofList_map (fun f => Json.ofOption
      ((patch e b.overrideLocked stored doc union).fields.get? f))]
  rw [← hfull]
  split
  · rename_i id hsome
    have hne : f ≠ e.idField := by
      intro heq
      rw [← heq, hid heq] at hsome
      cases hsome
    rw [Fields.get?_insert, if_neg hne]
  · rfl

/-- Where names are no paths, each of these fields is its own or the stored
one. -/
theorem get?_completed_of_free (h : existing.get? key.key = some stored)
    (hunion : ∀ f ∈ union, IsName f) (hfield : f ≠ field)
    (hid : f = e.idField → stored.get? f = none) :
    (b.completed e field union existing doc key).get? f =
      if f ∈ union then some (Json.ofOption
        (if f ∉ lockedFields e stored b.overrideLocked then (doc.get? f).or (stored.get? f)
          else stored.get? f))
      else none := by
  rw [get?_completed_eq h hfield hid]
  by_cases hf : f ∈ union
  · rw [if_pos hf, if_pos hf, get?_patch hunion]
    simp only [hf, true_and]
  · rw [if_neg hf, if_neg hf]

/-- An item of a stored record has all fields of the batch, besides the
identity and the key: its own, or the stored ones. -/
theorem get?_completed (h : existing.get? key.key = some stored)
    (hunion : ∀ f ∈ union, IsName f) (hfield : f ≠ field) (hid : f ≠ e.idField) :
    (b.completed e field union existing doc key).get? f =
      if f ∈ union then some (Json.ofOption
        (if f ∉ lockedFields e stored b.overrideLocked then (doc.get? f).or (stored.get? f)
          else stored.get? f))
      else none :=
  get?_completed_of_free h hunion hfield fun heq => absurd heq hid

/-- An item of a stored record is written under its own key, or under the
stored identity where that is the key. -/
theorem get?_completed_key (h : existing.get? key.key = some stored) :
    (b.completed e field union existing doc key).get? field =
      if e.idField = field then (stored.get? field).or (some key.toJson)
      else some key.toJson := by
  rw [completed, h]
  dsimp only
  by_cases hid : e.idField = field
  · rw [if_pos hid, hid]
    split
    · rename_i id hget
      rw [Fields.get?_insert_self, hget, Option.some_or]
    · rename_i hget
      rw [Fields.get?_insert_self, hget, Option.none_or]
  · rw [if_neg hid]
    split
    · rw [Fields.get?_insert, if_neg (Ne.symm hid), Fields.get?_insert_self]
    · rw [Fields.get?_insert_self]

/-- An item of a stored record is written with the identity of that record. -/
theorem get?_completed_identity (h : existing.get? key.key = some stored) {id : Json}
    (hid : stored.get? e.idField = some id) :
    (b.completed e field union existing doc key).get? e.idField = some id := by
  rw [completed, h]
  dsimp only
  rw [hid]
  exact Fields.get?_insert_self ..

/-- An item of a stored record is written with the stored document of a field of
the batch when only locked names lead into it. -/
theorem get?_completed_of_apart (h : existing.get? key.key = some stored) (hfield : f ≠ field)
    (hf : f ∈ union)
    (hunion : ∀ g ∈ union, root? g = some f → g ∈ lockedFields e stored b.overrideLocked) :
    (b.completed e field union existing doc key).get? f =
      some (Json.ofOption (stored.get? f)) := by
  by_cases hfree : f = e.idField → stored.get? f = none
  · rw [get?_completed_eq h hfield hfree, if_pos hf, get?_patch_of_apart hunion]
  · obtain ⟨rfl, hsome⟩ := Classical.not_imp.mp hfree
    obtain ⟨id, hid⟩ := Option.ne_none_iff_exists'.mp hsome
    rw [get?_completed_identity h hid, hid]
    rfl

/-- An item of a stored record has its own value in a field of the batch, if
it has one, unless the field is locked or a stored identity. -/
theorem get?_completed_of_mem (h : existing.get? key.key = some stored)
    (hunion : ∀ f ∈ union, IsName f) (hfield : f ≠ field) (hf : f ∈ union) :
    (b.completed e field union existing doc key).get? f = some (Json.ofOption
      (if f ∉ lockedFields e stored b.overrideLocked ∧ (f = e.idField → stored.get? f = none)
        then (doc.get? f).or (stored.get? f) else stored.get? f)) := by
  by_cases hfree : f = e.idField → stored.get? f = none
  · rw [get?_completed_of_free h hunion hfield hfree, if_pos hf]
    simp only [and_iff_left hfree]
  · rw [if_neg fun hboth => hfree hboth.2]
    obtain ⟨rfl, hsome⟩ := Classical.not_imp.mp hfree
    obtain ⟨id, hid⟩ := Option.ne_none_iff_exists'.mp hsome
    rw [get?_completed_identity h hid, hid]
    rfl

/-- Where a batch has no identities its items have those of stored records. -/
theorem get?_completed_identity_of_not_mem (h : existing.get? key.key = some stored)
    (hfield : e.idField ≠ field) (hunion : e.idField ∉ union) :
    (b.completed e field union existing doc key).get? e.idField = stored.get? e.idField := by
  cases hid : Fields.get? stored e.idField with
  | some id => exact get?_completed_identity h hid
  | none =>
    rw [completed, h]
    dsimp only
    rw [hid]
    dsimp only
    rw [Fields.get?_insert, if_neg hfield, Fields.get?_ofList_map (fun f => Json.ofOption
      ((patch e b.overrideLocked stored doc union).fields.get? f)), if_neg hunion]

end EntityStore.Batch
