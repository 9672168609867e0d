-- How groups grow. A call changes the groups at their end only, so the place
-- of the identity condition stays what it is, and another operand there
-- commutes with every later call.
import EntityStore.Filter.Builder
import EntityStore.Proofs.Fallible
import EntityStore.Proofs.Value.Distinct

namespace EntityStore.Filter.Builder

/-! ## Changes inside lists -/

variable {α : Type}

theorem modify_append {l m : List α} {f : α → α} {i : Nat} (h : i < l.length) :
    (l ++ m).modify i f = l.modify i f ++ m := by
  apply List.ext_getElem?
  intro k
  rw [List.getElem?_modify, List.getElem?_append, List.getElem?_append, List.length_modify,
    List.getElem?_modify]
  by_cases hk : k < l.length
  · simp [hk]
  · have hne : i ≠ k := by omega
    simp [hk, hne]

theorem modify_last {l : List α} {a : α} {f : α → α} :
    (l ++ [a]).modify l.length f = l ++ [f a] := by
  induction l with
  | nil => rfl
  | cons b l ih => rw [List.cons_append, List.length_cons, List.modify_succ_cons, ih]; rfl

theorem modify_congr {l : List α} {f g : α → α} {i : Nat} (h : ∀ a, l[i]? = some a → f a = g a) :
    l.modify i f = l.modify i g := by
  apply List.ext_getElem?
  intro k
  rw [List.getElem?_modify, List.getElem?_modify]
  by_cases hk : i = k
  · subst hk
    cases ha : l[i]? with
    | none => rfl
    | some a => simp [h a ha]
  · simp [hk]

/-! ## Places -/

variable {b : Builder} {place : Nat × Nat} {c : Condition}

theorem conditionAt?_eq_some_iff :
    b.conditionAt? place = some c ↔
      ∃ g, b.groups[place.1]? = some g ∧ g.conditions[place.2]? = some c := by
  rw [conditionAt?, Option.bind_eq_some_iff]

theorem fst_lt_of_conditionAt? (h : b.conditionAt? place = some c) :
    place.1 < b.groups.length := by
  obtain ⟨g, hg, -⟩ := conditionAt?_eq_some_iff.mp h
  exact (List.getElem?_eq_some_iff.mp hg).1

/-- A place keeps its condition when a group comes after it. -/
theorem conditionAt?_close (g : Group) (h : b.conditionAt? place = some c) :
    (b.close g).conditionAt? place = some c := by
  have hlt := fst_lt_of_conditionAt? h
  rw [← h, conditionAt?, conditionAt?]
  dsimp only [close]
  rw [List.getElem?_append_left hlt]

/-- A place keeps its condition when conditions come after it. -/
theorem conditionAt?_extend (cs : List Condition) (h : b.conditionAt? place = some c) :
    (b.extend cs).conditionAt? place = some c := by
  obtain ⟨g, hg, hc⟩ := conditionAt?_eq_some_iff.mp h
  unfold extend
  split
  · rw [conditionAt?_eq_some_iff]
    dsimp only
    rw [List.getElem?_modify, hg]
    by_cases hlast : b.groups.length - 1 = place.1
    · refine ⟨{ g with conditions := g.conditions ++ cs }, by simp [hlast], ?_⟩
      rw [List.getElem?_append_left (List.getElem?_eq_some_iff.mp hc).1]
      exact hc
    · exact ⟨g, by simp [hlast], hc⟩
  · exact conditionAt?_close (.all cs) h

theorem conditionAt?_setOperand (operand : Operand) (h : b.conditionAt? place = some c) :
    (b.setOperand place operand).conditionAt? place = some { c with operand := operand } := by
  obtain ⟨g, hg, hc⟩ := conditionAt?_eq_some_iff.mp h
  rw [conditionAt?_eq_some_iff]
  dsimp only [setOperand]
  rw [List.getElem?_modify_eq, hg]
  refine ⟨_, rfl, ?_⟩
  rw [List.getElem?_modify_eq, hc]
  rfl

/-- The last of two operands at a place counts. -/
theorem setOperand_setOperand (first second : Operand) :
    (b.setOperand place first).setOperand place second = b.setOperand place second := by
  unfold setOperand
  dsimp only
  rw [List.modify_modify_eq]
  congr 2
  funext g
  dsimp only [Function.comp]
  rw [List.modify_modify_eq]
  rfl

/-- The operand that stands at a place already changes nothing. -/
theorem setOperand_eq_self (h : b.conditionAt? place = some c) :
    b.setOperand place c.operand = b := by
  obtain ⟨g, hg, hc⟩ := conditionAt?_eq_some_iff.mp h
  unfold setOperand
  rw [modify_congr (g := id), List.modify_id]
  intro g' hg'
  rw [hg] at hg'
  cases hg'
  rw [modify_congr (g := id), List.modify_id]
  · rfl
  · intro c' hc'
    rw [hc] at hc'
    cases hc'
    rfl

theorem setOperand_close (g : Group) (operand : Operand) (h : b.conditionAt? place = some c) :
    (b.close g).setOperand place operand = (b.setOperand place operand).close g := by
  unfold setOperand close
  dsimp only
  rw [modify_append (fst_lt_of_conditionAt? h)]

theorem setOperand_extend (cs : List Condition) (operand : Operand)
    (h : b.conditionAt? place = some c) :
    (b.extend cs).setOperand place operand = (b.setOperand place operand).extend cs := by
  obtain ⟨g, hg, hc⟩ := conditionAt?_eq_some_iff.mp h
  cases hopen : b.isOpen with
  | false =>
    unfold extend setOperand
    simp only [hopen, Bool.false_eq_true, if_false]
    rw [modify_append (fst_lt_of_conditionAt? h)]
  | true =>
    unfold extend setOperand
    simp only [hopen, if_true, List.length_modify]
    congr 1
    by_cases hlast : b.groups.length - 1 = place.1
    · rw [hlast, List.modify_modify_eq, List.modify_modify_eq]
      apply modify_congr
      intro g' hg'
      rw [hg] at hg'
      cases hg'
      dsimp only [Function.comp]
      rw [modify_append (List.getElem?_eq_some_iff.mp hc).1]
    · exact List.modify_modify_ne _ _ _ hlast

/-! ## The open group -/

/-- The group that further conditions join asks for all of its conditions. -/
def OpenAsksAll (b : Builder) : Prop := b.isOpen = true → ∃ gs cs, b.groups = gs ++ [.all cs]

theorem extend_of_open {gs : List Group} {g : Group} (hopen : b.isOpen = true)
    (hgroups : b.groups = gs ++ [g]) (cs : List Condition) :
    b.extend cs = { b with groups := gs ++ [{ g with conditions := g.conditions ++ cs }] } := by
  unfold extend
  rw [if_pos hopen, hgroups, List.length_append, List.length_singleton, Nat.add_sub_cancel,
    modify_last]

theorem extend_of_closed (hopen : b.isOpen = false) (cs : List Condition) :
    b.extend cs = { b with groups := b.groups ++ [.all cs], isOpen := true } := by
  simp [extend, hopen]

theorem openAsksAll_close (g : Group) : (b.close g).OpenAsksAll := nofun

/-- Conditions go to the end of a group that asks for all of its conditions. -/
theorem exists_groups_extend (h : b.OpenAsksAll) (cs : List Condition) :
    ∃ gs known, (b.extend cs).groups = gs ++ [.all (known ++ cs)] ∧
      (b.groups = gs ++ [.all known] ∨ b.groups = gs ∧ known = []) := by
  cases hopen : b.isOpen with
  | false => exact ⟨b.groups, [], by rw [extend_of_closed hopen]; rfl, .inr ⟨rfl, rfl⟩⟩
  | true =>
    obtain ⟨gs, known, hgroups⟩ := h hopen
    exact ⟨gs, known, by rw [extend_of_open hopen hgroups]; rfl, .inl hgroups⟩

theorem openAsksAll_extend (h : b.OpenAsksAll) (cs : List Condition) :
    (b.extend cs).OpenAsksAll := by
  obtain ⟨gs, known, hgroups, -⟩ := exists_groups_extend h cs
  exact fun _ => ⟨gs, known ++ cs, hgroups⟩

theorem openAsksAll_setOperand (h : b.OpenAsksAll) (operand : Operand) :
    (b.setOperand place operand).OpenAsksAll := by
  intro hopen
  obtain ⟨gs, cs, hgroups⟩ := h hopen
  dsimp only [setOperand]
  rw [hgroups]
  rcases Nat.lt_trichotomy place.1 gs.length with hlt | heq | hgt
  · exact ⟨_, cs, modify_append hlt⟩
  · rw [heq, modify_last]
    exact ⟨gs, _, rfl⟩
  · exact ⟨gs, cs, List.modify_eq_self (by simp; omega)⟩

/-! ## The condition added last -/

/-- A condition just added stands at the last place. -/
theorem conditionAt?_lastPlace (h : b.OpenAsksAll) (c : Condition) :
    (b.extend [c]).conditionAt? (b.extend [c]).lastPlace = some c := by
  obtain ⟨gs, known, hgroups, -⟩ := exists_groups_extend h [c]
  rw [conditionAt?_eq_some_iff]
  unfold lastPlace
  dsimp only
  rw [hgroups]
  simp [Group.all]

/-- Another operand at the place of a condition just added makes the condition
with that operand. -/
theorem setOperand_lastPlace (h : b.OpenAsksAll) (c : Condition) (operand : Operand) :
    (b.extend [c]).setOperand (b.extend [c]).lastPlace operand =
      b.extend [{ c with operand := operand }] := by
  cases hopen : b.isOpen with
  | false =>
    rw [extend_of_closed hopen, extend_of_closed hopen]
    unfold setOperand lastPlace
    dsimp only
    rw [List.length_append, List.length_singleton, Nat.add_sub_cancel, modify_last]
    simp [Group.all]
  | true =>
    obtain ⟨gs, known, hgroups⟩ := h hopen
    rw [extend_of_open hopen hgroups, extend_of_open hopen hgroups]
    unfold setOperand lastPlace
    dsimp only
    rw [List.length_append, List.length_singleton, Nat.add_sub_cancel, modify_last]
    simp [Group.all, modify_last]

/-! ## Identities -/

/-- No identity is lost, and none comes from elsewhere. -/
theorem mem_cleanIds_iff {ids : List Value} {v : Value} (h : ∀ v ∈ ids, v.IsIdentity) :
    v ∈ cleanIds ids ↔ v ∈ ids := by
  have hpresent : ids.filter (fun v => !v.isNull) = ids := by
    rw [List.filter_eq_self]
    intro v hv
    rw [Value.not_isNull_of_isIdentity (h v hv)]
    rfl
  rw [cleanIds, hpresent, Value.mem_distinct_iff h]

/-- A condition on a list that is accepted asks for just that list. -/
theorem make_isIn_eq_ok {field : String} {vs : List Value}
    (h : Condition.make field .isIn (.list vs) = .ok c) : c = .inList field vs := by
  unfold Condition.make Condition.accept at h
  split at h
  · cases h
  · cases hvs : vs.isEmpty with
    | true => simp [hvs, Operator.takesValue, Operator.takesList] at h
    | false =>
      simp [hvs, Operator.takesValue, Operator.takesList] at h
      exact h.symm

end EntityStore.Filter.Builder
