-- Documents that can be written down. Their numbers are finite as doubles
-- and the members of their objects are in order, so each of them equals and
-- contains itself.
import EntityStore.Json.Members

namespace EntityStore

/-- Doubles are equal where the numbers that they are made of compare as equal. -/
theorem Float.beq_iff (x y : Float) :
    (x == y) = true ↔ x.toModel.unpack.compare y.toModel.unpack = some .eq :=
  beq_iff_eq (a := x.toModel.unpack.compare y.toModel.unpack)

theorem Float.beq_self {x : Float} (h : x.isFinite = true) : (x == x) = true := by
  rw [Float.beq_iff]
  have hfinite : x.toModel.unpack.isFinite = true := h
  cases hx : x.toModel.unpack with
  | notANumber =>
    rw [hx] at hfinite
    cases hfinite
  | infinity sign =>
    rw [hx] at hfinite
    cases hfinite
  | zero sign => rfl
  | finite sign mantissa exponent hpos =>
    have hparts : (compare exponent exponent).then (compare mantissa mantissa) = .eq := by simp
    cases sign with
    | negative => exact congrArg (fun o => some (Ordering.swap o)) hparts
    | positive => exact congrArg some hparts

namespace Json

mutual

/-- The document can be written down. -/
def isSound : Json → Bool
  | .int n => (Float.ofInt n).isFinite
  | .float x => x.isFinite
  | .arr items => itemsSound items
  | .obj members => decide (Fields.Ordered members) && membersSound members
  | _ => true

def itemsSound : List Json → Bool
  | [] => true
  | j :: rest => isSound j && itemsSound rest

def membersSound : List (String × Json) → Bool
  | [] => true
  | (_, j) :: rest => isSound j && membersSound rest

end

/-- In an object that can be written down each member can be. -/
theorem isSound_of_get? {members : Fields Json} (h : (Json.obj members).isSound = true)
    {k : String} {j : Json} (hj : members.get? k = some j) : j.isSound = true := by
  have hmembers : membersSound members = true := ((Bool.and_eq_true ..).mp h).2
  clear h
  induction members with
  | nil => cases hj
  | cons p rest ih =>
    obtain ⟨hp, hrest⟩ := (Bool.and_eq_true ..).mp hmembers
    rw [Fields.get?_cons] at hj
    split at hj
    · cases hj
      exact hp
    · exact ih hj hrest

/-! ## Equality -/

mutual

theorem same_self : ∀ j : Json, j.isSound = true → same j j = true
  | .null, _ => rfl
  | .bool b, _ => beq_self_eq_true b
  | .int n, _ => beq_self_eq_true n
  | .float _, h => Float.beq_self h
  | .str s, _ => beq_self_eq_true s
  | .arr items, h => sameItems_self items h
  | .obj members, h => sameMembers_self members ((Bool.and_eq_true ..).mp h).2

theorem sameItems_self : ∀ items : List Json, itemsSound items = true →
    sameItems items items = true
  | [], _ => rfl
  | j :: rest, h => by
    obtain ⟨hj, hrest⟩ := (Bool.and_eq_true ..).mp h
    rw [sameItems, same_self j hj, sameItems_self rest hrest]
    rfl

theorem sameMembers_self : ∀ members : List (String × Json), membersSound members = true →
    sameMembers members members = true
  | [], _ => rfl
  | (k, j) :: rest, h => by
    obtain ⟨hj, hrest⟩ := (Bool.and_eq_true ..).mp h
    rw [sameMembers, same_self j hj, sameMembers_self rest hrest, beq_self_eq_true]
    rfl

end

/-! ## Containment -/

theorem someCovers_iff {items : List Json} {w : Json} :
    someCovers items w = true ↔ ∃ j ∈ items, j.covers w = true := by
  induction items with
  | nil => simp [someCovers]
  | cons i rest ih => simp [someCovers, ih]

theorem memberCovers_iff {members : Fields Json} {k : String} {w : Json} :
    memberCovers members k w = true ↔ ∃ j, members.get? k = some j ∧ j.covers w = true := by
  induction members with
  | nil => simp [memberCovers]
  | cons p rest ih =>
    obtain ⟨l, i⟩ := p
    rw [memberCovers, Fields.get?_cons]
    by_cases hk : k = l
    · simp [hk]
    · simp [hk, ih]

mutual

theorem covers_self : ∀ j : Json, j.isSound = true → j.covers j = true
  | .null, _ => rfl
  | .bool b, _ => by simp [covers, BEq.beq, same]
  | .int n, h => Float.beq_self h
  | .float x, h => Float.beq_self h
  | .str s, _ => by simp [covers, BEq.beq, same]
  | .arr items, h => by
    rw [covers, List.all_eq_true]
    exact fun w hw => someCovers_iff.mpr ⟨w, hw, covers_item items h w hw⟩
  | .obj members, h => by
    obtain ⟨hordered, hmembers⟩ := (Bool.and_eq_true ..).mp h
    rw [covers, List.all_eq_true]
    have hnames : Fields.Ordered members := of_decide_eq_true hordered
    exact fun w hw => memberCovers_iff.mpr
      ⟨w.2, hnames.get?_of_mem hw, covers_member members hmembers w hw⟩

theorem covers_item : ∀ items : List Json, itemsSound items = true →
    ∀ w ∈ items, w.covers w = true
  | [], _ => nofun
  | j :: rest, h => by
    obtain ⟨hj, hrest⟩ := (Bool.and_eq_true ..).mp h
    exact List.forall_mem_cons.mpr ⟨covers_self j hj, covers_item rest hrest⟩

theorem covers_member : ∀ members : List (String × Json), membersSound members = true →
    ∀ w ∈ members, w.2.covers w.2 = true
  | [], _ => nofun
  | (_, j) :: rest, h => by
    obtain ⟨hj, hrest⟩ := (Bool.and_eq_true ..).mp h
    exact List.forall_mem_cons.mpr ⟨covers_self j hj, covers_member rest hrest⟩

end

end Json

end EntityStore
