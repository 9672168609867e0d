-- Containment of documents. A list contains what one of its items contains, and another list if
-- it contains each of its items. An object contains one that has some of its members. Every
-- document contains itself, and what is contained in two steps is contained in one.
import EntityStore.Proofs.Json.Sound
import Mathlib.Tactic.Choose

namespace EntityStore

/-! ## Equal doubles -/

/-- Equal numbers are made of the same parts, but for zeros of both signs. -/
theorem unpacked_eq_or_zeros {x y : Float.Model.UnpackedFloat} (h : x.compare y = some .eq) :
    x = y ∨ ∃ s t, x = .zero s ∧ y = .zero t := by
  have hparts : ∀ {d e : Int} {m n : Nat}, (compare d e).then (compare m n) = .eq → d = e ∧ m = n := by
    intro d e m n hthen
    simpa [Ordering.then_eq_eq] using hthen
  cases x with
  | notANumber => cases h
  | infinity s =>
    cases y with
    | infinity t =>
      cases s <;> cases t
      · exact .inl rfl
      · cases h
      · cases h
      · exact .inl rfl
    | _ => cases s <;> cases h
  | zero s =>
    cases y with
    | zero t => exact .inr ⟨s, t, rfl, rfl⟩
    | infinity t => cases t <;> cases h
    | finite t => cases t <;> cases h
    | notANumber => cases h
  | finite s m d =>
    cases y with
    | finite t n e =>
      cases s <;> cases t
      · obtain ⟨rfl, rfl⟩ := hparts (Ordering.swap_eq_eq.mp (Option.some.inj h))
        exact .inl rfl
      · cases h
      · cases h
      · obtain ⟨rfl, rfl⟩ := hparts (Option.some.inj h)
        exact .inl rfl
    | infinity t => cases t <;> cases h
    | zero t => cases s <;> cases h
    | notANumber => cases h

theorem unpacked_compare_zero (s t : Float.Model.UnpackedFloat.Sign) (x : Float.Model.UnpackedFloat) :
    (Float.Model.UnpackedFloat.zero s).compare x = (Float.Model.UnpackedFloat.zero t).compare x := by
  cases x with
  | infinity u => cases u <;> rfl
  | finite u => cases u <;> rfl
  | _ => rfl

theorem Float.beq_trans {x y z : Float} (hxy : (x == y) = true) (hyz : (y == z) = true) :
    (x == z) = true := by
  rw [Float.beq_iff] at hxy hyz ⊢
  rcases unpacked_eq_or_zeros hxy with hsame | ⟨s, t, hx, hy⟩
  · rw [hsame]
    exact hyz
  · rw [hy] at hyz
    rw [hx, unpacked_compare_zero s t]
    exact hyz

namespace Json

/-! ## What a document contains -/

/-- The first document contains the second one. -/
inductive Contains : Json → Json → Prop
  /-- One item of a list contains what is no list. -/
  | item {items : List Json} {j w : Json} :
      w.items? = none → j ∈ items → Contains j w → Contains (.arr items) w
  /-- Each item of the second list is contained in one of the first. -/
  | items {items wanted : List Json} (holder : Json → Json) :
      (∀ w ∈ wanted, holder w ∈ items) → (∀ w ∈ wanted, Contains (holder w) w) →
      Contains (.arr items) (.arr wanted)
  /-- Each member of the second object is contained in that of the first under its name. -/
  | members {members wanted : Fields Json} (holder : String × Json → Json) :
      (∀ p ∈ wanted, members.get? p.1 = some (holder p)) →
      (∀ p ∈ wanted, Contains (holder p) p.2) → Contains (.obj members) (.obj wanted)
  /-- Numbers are equal as doubles. -/
  | number {j w : Json} {x y : Float} :
      j.number? = some x → w.number? = some y → (x == y) = true → Contains j w
  | null : Contains .null .null
  | bool (b : Bool) : Contains (.bool b) (.bool b)
  | str (s : String) : Contains (.str s) (.str s)

variable {a b c j w : Json}

theorem items?_of_number {x : Float} (h : j.number? = some x) : j.items? = none := by
  cases j with
  | arr items => cases h
  | _ => rfl

/-- What is no list contains no list. -/
theorem Contains.items?_eq_none (h : Contains a b) (ha : a.items? = none) : b.items? = none := by
  cases h with
  | item => cases ha
  | items => cases ha
  | number hx hy => exact items?_of_number hy
  | _ => rfl

/-- What is contained in two steps is contained in one. The induction follows the first step, and
the second one says what its parts contain. -/
theorem Contains.trans (hab : Contains a b) (hbc : Contains b c) : Contains a c := by
  induction hab generalizing c with
  | item hplain hj _ ih => exact .item (hbc.items?_eq_none hplain) hj (ih hbc)
  | @items items middle holder hholder _ ih =>
    cases hbc with
    | @item _ w _ hc hw hwc => exact .item hc (hholder w hw) (ih w hw hwc)
    | @items _ wanted inner hinner hheld =>
      exact .items (fun w => holder (inner w)) (fun w hw => hholder _ (hinner w hw))
        fun w hw => ih _ (hinner w hw) (hheld w hw)
    | number hx => cases hx
  | @members members middle holder hholder _ ih =>
    cases hbc with
    | @members _ wanted inner hinner hheld =>
      have hmem : ∀ p ∈ wanted, (p.1, inner p) ∈ middle := fun p hp => Fields.mem_of_get? (hinner p hp)
      exact .members (fun p => holder (p.1, inner p)) (fun p hp => hholder _ (hmem p hp))
        fun p hp => ih _ (hmem p hp) (hheld p hp)
    | number hx => cases hx
  | @number a b x y hx hy hxy =>
    cases hbc with
    | number hy' hz hyz =>
      cases hy.symm.trans hy'
      exact .number hx hz (Float.beq_trans hxy hyz)
    | _ => cases hy
  | null => exact hbc
  | bool => exact hbc
  | str => exact hbc

/-! ## Finding out -/

theorem covers_of_items?_eq_none (hw : w.items? = none) (items : List Json) :
    (Json.arr items).covers w = someCovers items w := by
  cases w with
  | arr wanted => cases hw
  | _ => rfl

theorem covers_of_number {x y : Float} (hj : j.number? = some x) (hw : w.number? = some y) :
    j.covers w = (x == y) := by
  cases j with
  | int m =>
    cases hj
    cases w with
    | int n => cases hw; rfl
    | float y => cases hw; rfl
    | _ => cases hw
  | float x =>
    cases hj
    cases w with
    | int n => cases hw; rfl
    | float y => cases hw; rfl
    | _ => cases hw
  | _ => cases hj

theorem Contains.covers (h : Contains j w) : j.covers w = true := by
  induction h with
  | item hw hj _ ih =>
    rw [covers_of_items?_eq_none hw, someCovers_iff]
    exact ⟨_, hj, ih⟩
  | items holder hholder _ ih =>
    rw [Json.covers, List.all_eq_true]
    intro w hw
    rw [someCovers_iff]
    exact ⟨holder w, hholder w hw, ih w hw⟩
  | members holder hholder _ ih =>
    rw [Json.covers, List.all_eq_true]
    intro p hp
    rw [memberCovers_iff]
    exact ⟨holder p, hholder p hp, ih p hp⟩
  | number hx hy hxy =>
    rw [covers_of_number hx hy]
    exact hxy
  | null => rfl
  | bool b => exact beq_self_eq_true b
  | str s => exact beq_self_eq_true s

theorem contains_of_number {x : Float} (hj : j.number? = some x) (h : j.covers w = true) :
    Contains j w := by
  cases hw : w.number? with
  | some y =>
    rw [covers_of_number hj hw] at h
    exact .number hj hw h
  | none =>
    -- No number contains another kind of document.
    cases j with
    | int m =>
      cases w with
      | int n => cases hw
      | float y => cases hw
      | _ => cases h
    | float x =>
      cases w with
      | int n => cases hw
      | float y => cases hw
      | _ => cases h
    | _ => cases hj

theorem contains_of_items {items : List Json}
    (hitems : ∀ j ∈ items, ∀ w, j.covers w = true → Contains j w)
    (h : (Json.arr items).covers w = true) : Contains (.arr items) w := by
  cases hw : w.items? with
  | none =>
    rw [covers_of_items?_eq_none hw, someCovers_iff] at h
    obtain ⟨j, hj, hcovers⟩ := h
    exact .item hw hj (hitems j hj w hcovers)
  | some wanted =>
    cases w with
    | arr wanted =>
      rw [Json.covers, List.all_eq_true] at h
      have hheld : ∀ w ∈ wanted, ∃ j ∈ items, j.covers w = true :=
        fun w hw => someCovers_iff.mp (h w hw)
      choose! holder hholder hcovers using hheld
      exact .items holder hholder fun w hw => hitems _ (hholder w hw) w (hcovers w hw)
    | _ => cases hw

theorem contains_of_members {members : Fields Json}
    (hmembers : ∀ p ∈ members, ∀ w, p.2.covers w = true → Contains p.2 w)
    (h : (Json.obj members).covers w = true) : Contains (.obj members) w := by
  cases w with
  | obj wanted =>
    rw [Json.covers, List.all_eq_true] at h
    have hheld : ∀ p ∈ wanted, ∃ j, members.get? p.1 = some j ∧ j.covers p.2 = true :=
      fun p hp => memberCovers_iff.mp (h p hp)
    choose! holder hholder hcovers using hheld
    exact .members holder hholder fun p hp =>
      hmembers _ (Fields.mem_of_get? (hholder p hp)) p.2 (hcovers p hp)
  | _ => cases h

mutual

theorem contains_of_covers : ∀ j w : Json, j.covers w = true → Contains j w
  | .arr items, _, h => contains_of_items (contains_of_covers_item items) h
  | .obj members, _, h => contains_of_members (contains_of_covers_member members) h
  | .null, w, h => by
    cases w with
    | null => exact .null
    | _ => cases h
  | .bool b, w, h => by
    cases w with
    | bool c =>
      obtain rfl : b = c := eq_of_beq h
      exact .bool b
    | _ => cases h
  | .str s, w, h => by
    cases w with
    | str t =>
      obtain rfl : s = t := eq_of_beq h
      exact .str s
    | _ => cases h
  | .int _, _, h => contains_of_number rfl h
  | .float _, _, h => contains_of_number rfl h

theorem contains_of_covers_item : ∀ items : List Json, ∀ j ∈ items, ∀ w : Json,
    j.covers w = true → Contains j w
  | [] => nofun
  | i :: rest =>
    List.forall_mem_cons.mpr ⟨contains_of_covers i, contains_of_covers_item rest⟩

theorem contains_of_covers_member : ∀ members : List (String × Json), ∀ p ∈ members, ∀ w : Json,
    p.2.covers w = true → Contains p.2 w
  | [] => nofun
  | (_, i) :: rest =>
    List.forall_mem_cons.mpr ⟨contains_of_covers i, contains_of_covers_member rest⟩

end

theorem covers_iff : j.covers w = true ↔ Contains j w := by
  constructor
  · exact contains_of_covers j w
  · exact Contains.covers

/-- It is found out exactly what a document contains. A document that can be written down contains
itself, and each document contains what is contained in one that it contains. -/
theorem containment_is_found_out_and_is_a_preorder (a b c : Json) :
    (a.covers b = true ↔ Contains a b) ∧
      (a.isSound = true → a.covers a = true) ∧
      (a.covers b = true → b.covers c = true → a.covers c = true) := by
  refine ⟨covers_iff, covers_self a, ?_⟩
  intro hab hbc
  rw [covers_iff] at hab hbc ⊢
  exact hab.trans hbc

/-- A list among the tags of an oak has one of the words in it, and the largest whole number of a
document becomes the double behind it. -/
theorem an_oak_contains_a_tag_of_its_tags :
    let oak : Json := .obj [("size", .int (-9223372036854775808)),
      ("tags", .arr [.arr [.str "red", .str "wood"], .int 18446744073709551615])]
    let tagged : Json := .obj [("tags", .arr [.float 18446744073709551616.0, .arr [.str "red"]])]
    let red : Json := .obj [("tags", .str "red")]
    oak.isSound = true ∧ oak.covers oak = true ∧
      oak.covers tagged = true ∧ tagged.covers red = true ∧ oak.covers red = true := by
  intro oak tagged red
  obtain ⟨-, hself, htrans⟩ := containment_is_found_out_and_is_a_preorder oak tagged red
  have hsound : oak.isSound = true := by decide
  have htagged : oak.covers tagged = true := by decide
  have hred : tagged.covers red = true := by decide
  exact ⟨hsound, hself hsound, htagged, hred, htrans htagged hred⟩

end Json

end EntityStore
