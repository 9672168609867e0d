-- What the name of a field means, by its parts. The names of the entity's own
-- table in front of it count for nothing where tables are joined. What is left
-- is a column, a column of a joined table, or a path into a document, which
-- filters may use only where the entity allows it.
import EntityStore.Plan.Conditions
import EntityStore.Proofs.Fallible

namespace EntityStore

/-! ## Parts and texts -/

theorem Text.intercalate_splitChars (sep : Char) (cs : List Char) :
    [sep].intercalate (splitChars sep cs) = cs := by
  induction cs with
  | nil => rfl
  | cons c rest ih =>
    rw [splitChars]
    cases hparts : splitChars sep rest with
    | nil => exact absurd hparts (splitChars_ne_nil sep rest)
    | cons part parts =>
      rw [hparts] at ih
      split
      · rename_i hsep
        subst hsep
        rw [List.intercalate_cons_cons, ih]
        rfl
      · cases parts with
        | nil =>
          rw [List.intercalate_singleton] at ih ⊢
          rw [ih]
        | cons next parts =>
          rw [List.intercalate_cons_cons] at ih ⊢
          rw [← ih]
          rfl

/-- The parts of a text between its separators are the text again. -/
theorem Plan.Scope.dotted_split (field : String) : dotted (Text.split '.' field) = field := by
  apply String.toList_injective
  rw [dotted, String.toList_intercalate, Text.split, List.map_map]
  have hparts : (Text.splitChars '.' field.toList).map (String.toList ∘ String.ofList) =
      Text.splitChars '.' field.toList := by
    simp [Function.comp_def]
  rw [hparts]
  exact Text.intercalate_splitChars '.' field.toList

namespace Plan.Scope

open Sql (Column)

variable {s : Scope} {purpose : Purpose} {field head : String} {parts rest : List String}
  {c : Column} {e : AccessError}

/-! ## Parts of names -/

/-- The parts of a field without the names of the entity's own table in
front. -/
def withoutOwn (s : Scope) : List String → List String
  | head :: next :: rest =>
    if s.hasJoins && head == s.entity.storage then withoutOwn s (next :: rest)
    else head :: next :: rest
  | parts => parts

/-- Filters may use the field: it is a name, a column of a joined table, or a
path that the entity allows to filter by. -/
def Permits (s : Scope) (field : String) : Prop :=
  match s.withoutOwn (Text.split '.' field) with
  | head :: next :: rest =>
    head ∈ s.joined ∨ s.entity.allowsJsonFilter head (dotted (head :: next :: rest)) = true
  | _ => True

/-- The column that parts mean which do not start with the entity's own
table. -/
def columnOf (s : Scope) (purpose : Purpose) : List String → Except AccessError Column
  | [] => s.ownColumn purpose "" []
  | [head] => s.ownColumn purpose head []
  | head :: next :: rest =>
    if head ∈ s.joined then .ok (.qualified head (dotted (next :: rest)))
    else s.ownColumn purpose head (next :: rest)

/-- A name that is not the entity's own table stands for a table when it is
that of a join. -/
theorem isTable_iff (h : ¬(s.hasJoins && head == s.entity.storage) = true) :
    s.isTable head = true ↔ head ∈ s.joined := by
  unfold isTable
  cases hjoins : s.hasJoins with
  | false =>
    have hnone : s.joined = [] := by simpa [hasJoins] using hjoins
    simp [hnone]
  | true =>
    rw [hjoins, Bool.true_and] at h
    simp [h]

theorem resolveParts_eq (s : Scope) (purpose : Purpose) (parts : List String) :
    s.resolveParts purpose parts = s.columnOf purpose (s.withoutOwn parts) := by
  fun_induction withoutOwn s parts with
  | case1 head next rest hown ih =>
    have htable : s.isTable head = true := by
      rw [Bool.and_eq_true] at hown
      simp [isTable, hown]
    have hstorage : head = s.entity.storage := by
      rw [Bool.and_eq_true, beq_iff_eq] at hown
      exact hown.2
    rw [resolveParts, if_pos htable, if_pos hstorage, ih]
  | case2 head next rest hother =>
    rw [resolveParts, columnOf]
    by_cases hjoined : head ∈ s.joined
    · have htable := (isTable_iff hother).mpr hjoined
      have hstorage : head ≠ s.entity.storage := by
        rintro rfl
        rw [isTable, Bool.and_eq_true] at htable
        simp [htable.1] at hother
      rw [if_pos htable, if_neg hstorage, if_pos hjoined]
    · rw [if_neg (fun htable => hjoined ((isTable_iff hother).mp htable)), if_neg hjoined]
  | case3 parts hparts =>
    cases parts with
    | nil => rfl
    | cons head rest =>
      cases rest with
      | nil => rfl
      | cons next rest => exact absurd rfl (hparts head next rest)

/-- Without joins every name counts. -/
theorem withoutOwn_of_alone (h : s.joined = []) (parts : List String) :
    s.withoutOwn parts = parts := by
  have hjoins : s.hasJoins = false := by simp [hasJoins, h]
  unfold withoutOwn
  split
  · rw [hjoins]
    rfl
  · rfl

theorem resolve_eq (s : Scope) (purpose : Purpose) (field : String) :
    s.resolve purpose field = s.columnOf purpose (s.withoutOwn (Text.split '.' field)) :=
  resolveParts_eq ..

/-! ## Columns of the entity's table -/

theorem checkColumn_eq_ok (h : s.checkColumn head = .ok ()) :
    (s.columns.isEmpty || Fields.contains s.columns head) = true := by
  unfold checkColumn at h
  split at h
  · assumption
  · cases h

theorem checkPath_eq_ok (h : s.checkPath .filter head field = .ok ()) :
    s.entity.allowsJsonFilter head field = true := by
  unfold checkPath at h
  split at h
  · cases h
  · split at h
    · cases h
    · rename_i hallowed
      simpa using hallowed

theorem ownColumn_eq_ok (h : s.ownColumn purpose head rest = .ok c) :
    s.checkColumn head = .ok () ∧ c.qualifier = s.qualifier? ∧ c.name = head ∧
      (rest ≠ [] → s.checkPath purpose head (dotted (head :: rest)) = .ok ()) := by
  obtain ⟨_, hcheck, h⟩ := bind_eq_ok_iff.mp h
  cases rest with
  | nil =>
    cases h
    exact ⟨hcheck, rfl, rfl, fun hne => absurd rfl hne⟩
  | cons next rest =>
    obtain ⟨_, hpath, h⟩ := bind_eq_ok_iff.mp h
    cases h
    exact ⟨hcheck, rfl, rfl, fun _ => hpath⟩

/-! ## What filters may use -/

/-- A filter that means a column uses only what it may. -/
theorem permits_of_resolve (h : s.resolve .filter field = .ok c) : s.Permits field := by
  rw [resolve_eq] at h
  unfold Permits
  split
  · rename_i head next rest hparts
    rw [hparts, columnOf] at h
    split at h
    · exact .inl ‹_›
    · obtain ⟨-, -, -, hpath⟩ := ownColumn_eq_ok h
      exact .inr (checkPath_eq_ok (hpath (List.cons_ne_nil next rest)))
  · trivial

theorem checkColumn_eq_error (h : s.checkColumn head = .error e) : e.isValidation = false := by
  unfold checkColumn at h
  split at h
  · cases h
  · cases h
    rfl

theorem checkPath_eq_error (h : s.checkPath .filter head field = .error e)
    (he : e.isValidation = true) :
    e = .fieldNotAllowed s.entity.name field ∧ s.entity.allowsJsonFilter head field = false := by
  unfold checkPath at h
  split at h
  · cases h
    cases he
  · split at h
    · rename_i hrefused
      cases h
      exact ⟨rfl, by simpa using hrefused⟩
    · cases h

theorem ownColumn_eq_error (h : s.ownColumn .filter head rest = .error e)
    (he : e.isValidation = true) : rest ≠ [] ∧
      s.checkPath .filter head (dotted (head :: rest)) = .error e := by
  rcases bind_eq_error_iff.mp h with hcheck | ⟨_, -, h⟩
  · rw [checkColumn_eq_error hcheck] at he
    cases he
  · cases rest with
    | nil => cases h
    | cons next rest =>
      rcases bind_eq_error_iff.mp h with hpath | ⟨_, -, h⟩
      · exact ⟨List.cons_ne_nil next rest, hpath⟩
      · cases h

/-- A filter that is refused, and not for a column that is not known, uses what
it may not. -/
theorem not_permits_of_resolve (h : s.resolve .filter field = .error e)
    (he : e.isValidation = true) : ¬s.Permits field ∧
      e = .fieldNotAllowed s.entity.name (dotted (s.withoutOwn (Text.split '.' field))) := by
  rw [resolve_eq] at h
  unfold Permits
  split
  · rename_i head next rest hparts
    rw [hparts] at h ⊢
    rw [columnOf] at h
    split at h
    · cases h
    · rename_i hjoined
      obtain ⟨hfield, hallowed⟩ := checkPath_eq_error (ownColumn_eq_error h he).2 he
      exact ⟨not_or.mpr ⟨hjoined, by simp [hallowed]⟩, hfield⟩
  · rename_i hparts
    unfold columnOf at h
    split at h
    · exact absurd rfl (ownColumn_eq_error h he).1
    · exact absurd rfl (ownColumn_eq_error h he).1
    · rename_i head next rest hmore
      exact absurd hmore (hparts head next rest)

end Plan.Scope

end EntityStore
