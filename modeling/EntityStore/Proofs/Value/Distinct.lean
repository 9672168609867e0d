-- Values that are told apart: whole numbers by the texts of their keys, and the
-- different values of a list by their order. Where a value equals itself alone no
-- value is lost among the different ones.
import EntityStore.Value.Order

namespace EntityStore.Value

/-! ## Texts as keys -/

theorem natRepr_inj {m n : Nat} (h : m.repr = n.repr) : m = n := by
  have hdigits : Nat.toDigits 10 m = Nat.toDigits 10 n := by
    rw [← Nat.toList_repr, h, Nat.toList_repr]
  rw [← Nat.ofDigitChars_ten_toDigits (n := m), hdigits, Nat.ofDigitChars_ten_toDigits]

/-- The text of a whole number that is not negative has no sign. -/
theorem natRepr_ne_signed (m : Nat) (s : String) : m.repr ≠ "-" ++ s := by
  intro h
  have hmem : '-' ∈ Nat.toDigits 10 m := by
    rw [← Nat.toList_repr, h, String.toList_append]
    exact List.mem_append_left _ List.mem_cons_self
  have hdigit := Nat.isDigit_of_mem_toDigits (by decide) (by decide) hmem
  exact absurd hdigit (by decide)

theorem key_int_inj {a b : Int} (h : (int a).key = (int b).key) : a = b := by
  have hrepr : a.repr = b.repr := h
  rw [Int.repr_eq_if, Int.repr_eq_if] at hrepr
  split at hrepr
  · split at hrepr
    · have := natRepr_inj hrepr
      omega
    · exact absurd hrepr (natRepr_ne_signed _ _)
  · split at hrepr
    · exact absurd hrepr.symm (natRepr_ne_signed _ _)
    · have := natRepr_inj ((String.append_right_inj _).mp hrepr)
      omega

/-! ## Different values -/

/-- Values of a sort are equal only when they are the same. -/
def TellsApart (sort : Value → Prop) : Prop :=
  ∀ v w, sort v → sort w → ((v == w) = true ↔ v = w)

section

variable {sort : Value → Prop} {vs seen : List Value} {v w : Value}

theorem any_beq_iff (hsort : TellsApart sort) (hseen : ∀ u ∈ seen, sort u) (hv : sort v) :
    seen.any (· == v) = true ↔ v ∈ seen := by
  rw [List.any_eq_true]
  constructor
  · rintro ⟨u, hu, heq⟩
    exact (hsort u v (hseen u hu) hv).mp heq ▸ hu
  · exact fun hmem => ⟨v, hmem, (hsort v v hv hv).mpr rfl⟩

/-- What is kept along a list: what was kept before, and the list's own. -/
theorem foldl_distinct (hsort : TellsApart sort) (hseen : ∀ u ∈ seen, sort u)
    (hvs : ∀ v ∈ vs, sort v) (hnodup : seen.Nodup) :
    let kept := vs.foldl (fun seen v => if seen.any (· == v) then seen else seen ++ [v]) seen
    kept.Nodup ∧ ∀ w, w ∈ kept ↔ w ∈ seen ∨ w ∈ vs := by
  induction vs generalizing seen with
  | nil => simpa using hnodup
  | cons v rest ih =>
    obtain ⟨hv, hrest⟩ := List.forall_mem_cons.mp hvs
    rw [List.foldl_cons]
    split
    · rename_i hany
      rw [any_beq_iff hsort hseen hv] at hany
      obtain ⟨hkept, hmem⟩ := ih hseen hrest hnodup
      refine ⟨hkept, fun w => (hmem w).trans ?_⟩
      rw [List.mem_cons]
      constructor
      · exact Or.imp_right .inr
      · rintro (h | rfl | h)
        · exact .inl h
        · exact .inl hany
        · exact .inr h
    · rename_i hnew
      rw [any_beq_iff hsort hseen hv] at hnew
      have hnodup' : (seen ++ [v]).Nodup := List.nodup_append.mpr ⟨hnodup,
        List.pairwise_singleton _ v,
        fun u hu w hw heq => hnew (List.mem_singleton.mp hw ▸ heq ▸ hu)⟩
      obtain ⟨hkept, hmem⟩ := ih
        (List.forall_mem_append.mpr ⟨hseen, List.forall_mem_singleton.mpr hv⟩) hrest hnodup'
      refine ⟨hkept, fun w => (hmem w).trans ?_⟩
      rw [List.mem_append, List.mem_singleton, List.mem_cons, or_assoc]

/-- The different values are all values, each of them once. -/
theorem distinct_of_apart (hsort : TellsApart sort) (h : ∀ v ∈ vs, sort v) :
    (distinct vs).Nodup ∧ ∀ w, w ∈ distinct vs ↔ w ∈ vs := by
  obtain ⟨hnodup, hmem⟩ := foldl_distinct hsort (List.forall_mem_nil sort) h .nil
  exact ⟨hnodup, fun w => (hmem w).trans (by simp)⟩

end

/-! ## Identities -/

/-- Whole numbers and texts, the values that identify records. -/
def IsIdentity : Value → Prop
  | .int _ => True
  | .text _ => True
  | _ => False

theorem not_isNull_of_isIdentity {v : Value} (h : v.IsIdentity) : v.isNull = false := by
  cases v with
  | int n => rfl
  | text s => rfl
  | _ => cases h

theorem beq_iff_of_isIdentity {v w : Value} (hv : v.IsIdentity) (hw : w.IsIdentity) :
    (v == w) = true ↔ v = w := by
  show (order v w).isEq = true ↔ v = w
  cases v with
  | int m =>
    cases w with
    | int n => simp [order, Ordering.isEq_iff_eq_eq]
    | text s => simp [order, kindRank, Ordering.isEq_iff_eq_eq]
    | _ => cases hw
  | text s =>
    cases w with
    | int n => simp [order, kindRank, Ordering.isEq_iff_eq_eq]
    | text t => simp [order, Ordering.isEq_iff_eq_eq]
    | _ => cases hw
  | _ => cases hv

/-- Among identities the different values are all values. -/
theorem mem_distinct_iff {vs : List Value} {w : Value} (h : ∀ v ∈ vs, v.IsIdentity) :
    w ∈ distinct vs ↔ w ∈ vs :=
  (distinct_of_apart (fun _ _ => beq_iff_of_isIdentity) h).2 w

end EntityStore.Value
