-- What groups say that grew call by call: together they ask for what every
-- call asks for. Whatever the calls and their order, the filters by identity
-- ask for one of all identities.
import EntityStore.Proofs.Filter.Builder
import EntityStore.Proofs.Plan.Groups

namespace EntityStore.Filter

open Plan (Scope)

/-! ## Calls -/

/-- One call that adds to the groups. -/
inductive Addition where
  | filter (field : String) (input : Input) (logic : Logic)
  | condition (c : Condition)
  | group (g : Group)
  | ids (vs : List Value)

namespace Addition

/-- What a call asks of a row. A list of operators with a choice asks for one
of its conditions, and so does a group with a choice. All filters by identity
ask together. -/
def Holds (s : Scope) (row : Row) : Addition → Prop
  | .filter field input logic =>
    ∃ cs, input.conditions field = .ok cs ∧
      if input.isList = true ∧ logic = .or ∧ cs ≠ [] then ∃ c ∈ cs, s.ConditionHolds row c
      else ∀ c ∈ cs, s.ConditionHolds row c
  | .condition c => s.ConditionHolds row c
  | .group g =>
    if g.logic = .or ∧ 2 ≤ g.conditions.length then ∃ c ∈ g.conditions, s.ConditionHolds row c
    else ∀ c ∈ g.conditions, s.ConditionHolds row c
  | .ids _ => True

/-- The identities of a call. -/
def identities : Addition → List Value
  | .ids vs => vs
  | _ => []

end Addition

namespace Builder

/-- The groups after one more call. -/
def add (idField : String) (b : Builder) : Addition → Except AccessError Builder
  | .filter field input logic => b.addFilter field input logic
  | .condition c => .ok (b.addCondition c)
  | .group g => .ok (b.addGroup g)
  | .ids vs => (b.addIds idField vs).map Prod.fst

/-- The groups after some calls, where every call is accepted. -/
def addAll (idField : String) (b : Builder) (as : List Addition) : Except AccessError Builder :=
  as.foldlM (add idField) b

end Builder

/-- The filters by identity among some calls ask for one of all identities. -/
def IdsHold (s : Scope) (row : Row) (idField : String) (as : List Addition) : Prop :=
  (∃ vs, .ids vs ∈ as) →
    s.ConditionHolds row (.inList idField (as.flatMap Addition.identities))

/-! ## What conditions and groups ask for -/

section

variable {s : Scope} {row : Row} {b : Builder}

theorem holds_containsAny_iff {c : Sql.Column} {vs : List Value} :
    (Plan.containsAny c vs).holds row = true ↔
      ∃ v ∈ vs, (Sql.Predicate.contains c v).holds row = true := by
  unfold Plan.containsAny
  cases hp : Sql.Predicate.anyOf (vs.map (Sql.Predicate.contains c ·)) with
  | none =>
    have hnil : vs = [] := List.map_eq_nil_iff.mp (Sql.anyOf_eq_none_iff.mp hp)
    subst hnil
    simp [Sql.Predicate.holds]
  | some p =>
    have hne : vs.map (Sql.Predicate.contains c ·) ≠ [] := by
      intro hnil
      rw [Sql.anyOf_eq_none_iff.mpr hnil] at hp
      cases hp
    have hpasses := Sql.passes_anyOf_iff row hne
    rw [hp] at hpasses
    refine Iff.trans hpasses ?_
    simp only [List.mem_map]
    constructor
    · rintro ⟨_, ⟨v, hv, rfl⟩, hholds⟩
      exact ⟨v, hv, hholds⟩
    · rintro ⟨v, hv, hholds⟩
      exact ⟨_, ⟨v, hv, rfl⟩, hholds⟩

theorem predicate?_isIn {column : Sql.Column} {vs : List Value} :
    s.predicate? column .isIn (.list vs) =
      some (if s.isDocument column then Plan.containsAny column vs else .isIn column vs) := by
  unfold Plan.Scope.predicate?
  dsimp only
  cases s.isDocument column <;> rfl

theorem conditionHolds_inList_iff {field : String} {vs : List Value} :
    s.ConditionHolds row (.inList field vs) ↔
      ∃ column, s.resolve .filter field = .ok column ∧
        if s.isDocument column then ∃ v ∈ vs, (Sql.Predicate.contains column v).holds row = true
        else (Sql.Predicate.isIn column vs).holds row = true := by
  unfold Plan.Scope.ConditionHolds
  simp only [Plan.Scope.condition_eq_ok_iff, Condition.inList, predicate?_isIn]
  constructor
  · rintro ⟨p, ⟨column, hcolumn, hp⟩, hholds⟩
    cases hp
    refine ⟨column, hcolumn, ?_⟩
    split
    · rename_i hdoc
      rw [if_pos hdoc] at hholds
      exact holds_containsAny_iff.mp hholds
    · rename_i hdoc
      rw [if_neg hdoc] at hholds
      exact hholds
  · rintro ⟨column, hcolumn, hholds⟩
    refine ⟨_, ⟨column, hcolumn, rfl⟩, ?_⟩
    split
    · rename_i hdoc
      rw [if_pos hdoc] at hholds
      exact holds_containsAny_iff.mpr hholds
    · rename_i hdoc
      rw [if_neg hdoc] at hholds
      exact hholds

/-- Only which values are listed counts, not how often nor in which order. -/
theorem conditionHolds_inList_congr {field : String} {vs ws : List Value}
    (h : ∀ v, v ∈ vs ↔ v ∈ ws) :
    s.ConditionHolds row (.inList field vs) ↔ s.ConditionHolds row (.inList field ws) := by
  rw [conditionHolds_inList_iff, conditionHolds_inList_iff]
  simp only [h, Sql.Predicate.holds, Option.any_eq_true, List.any_eq_true]

theorem groupHolds_all_iff {cs : List Condition} :
    s.GroupHolds row (.all cs) ↔ ∀ c ∈ cs, s.ConditionHolds row c := by
  have heffective : (Group.all cs).effective = .and := by
    unfold Group.effective
    split <;> rfl
  rw [Plan.Scope.GroupHolds, heffective]
  rfl

theorem groupHolds_any_iff {cs : List Condition} (h : 2 ≤ cs.length) :
    s.GroupHolds row (.any cs) ↔ ∃ c ∈ cs, s.ConditionHolds row c := by
  have heffective : (Group.any cs).effective = .or := if_neg (Nat.not_lt.mpr h)
  rw [Plan.Scope.GroupHolds, heffective]
  rfl

/-- A group asks as its own call does. -/
theorem holds_group_iff {g : Group} : (Addition.group g).Holds s row ↔ s.GroupHolds row g := by
  rw [Addition.Holds, Plan.Scope.GroupHolds]
  by_cases hlength : g.conditions.length < 2
  · rw [Group.effective, if_pos hlength, if_neg (by omega)]
  · rw [Group.effective, if_neg hlength]
    cases hlogic : g.logic with
    | and => rw [if_neg (by simp)]
    | or => rw [if_pos ⟨rfl, by omega⟩]

theorem forall_groupHolds_extend_iff (h : b.OpenAsksAll) (cs : List Condition) :
    (∀ g ∈ (b.extend cs).groups, s.GroupHolds row g) ↔
      (∀ g ∈ b.groups, s.GroupHolds row g) ∧ ∀ c ∈ cs, s.ConditionHolds row c := by
  obtain ⟨gs, known, hgroups, hbefore⟩ := b.exists_groups_extend h cs
  rw [hgroups, List.forall_mem_append, List.forall_mem_singleton, groupHolds_all_iff,
    List.forall_mem_append]
  rcases hbefore with hbefore | ⟨hbefore, rfl⟩
  · rw [hbefore, List.forall_mem_append, List.forall_mem_singleton, groupHolds_all_iff, and_assoc]
  · rw [hbefore]
    simp

theorem forall_groupHolds_close_iff (g : Group) :
    (∀ g' ∈ (b.close g).groups, s.GroupHolds row g') ↔
      (∀ g' ∈ b.groups, s.GroupHolds row g') ∧ s.GroupHolds row g := by
  simp only [Builder.close, List.forall_mem_append, List.forall_mem_singleton]

end
/-! ## What every call keeps -/

namespace Builder

/-- The groups with some values in the identity condition, if there is one. -/
def withIds (b : Builder) (vs : List Value) : Builder :=
  match b.idsAt with
  | some place => b.setOperand place (.list vs)
  | none => b

/-- The place of the identity condition has a condition. -/
def IdsPlaced (b : Builder) : Prop := ∀ place ∈ b.idsAt, ∃ c, b.conditionAt? place = some c

theorem idsAt_extend (b : Builder) (cs : List Condition) : (b.extend cs).idsAt = b.idsAt := by
  unfold extend
  split <;> rfl

theorem withIds_extend {b : Builder} (h : b.IdsPlaced) (cs : List Condition) (vs : List Value) :
    (b.extend cs).withIds vs = (b.withIds vs).extend cs := by
  unfold withIds
  rw [idsAt_extend]
  split
  · rename_i place hplace
    obtain ⟨c, hc⟩ := h place hplace
    exact setOperand_extend cs (.list vs) hc
  · rfl

theorem withIds_close {b : Builder} (h : b.IdsPlaced) (g : Group) (vs : List Value) :
    (b.close g).withIds vs = (b.withIds vs).close g := by
  unfold withIds
  show (match b.idsAt with | some _ => _ | none => _) = _
  split
  · rename_i place hplace
    obtain ⟨c, hc⟩ := h place hplace
    exact setOperand_close g (.list vs) hc
  · rfl

theorem openAsksAll_withIds {b : Builder} (h : b.OpenAsksAll) (vs : List Value) :
    (b.withIds vs).OpenAsksAll := by
  unfold withIds
  split
  · exact openAsksAll_setOperand h (.list vs)
  · exact h

/-- The groups say what some calls ask for. With any other values in the
identity condition they say the same with those values for the identities. -/
structure Reflects (idField : String) (as : List Addition) (b : Builder) : Prop where
  openAsksAll : b.OpenAsksAll
  idsAt_iff : (∃ place, b.idsAt = some place) ↔ ∃ vs, .ids vs ∈ as
  known : ∀ place ∈ b.idsAt, ∃ vs, b.conditionAt? place = some (.inList idField vs) ∧
    ∀ v, v ∈ vs ↔ v ∈ as.flatMap Addition.identities
  holds_iff : ∀ (s : Scope) (row : Row) (vs : List Value),
    (∀ g ∈ (b.withIds vs).groups, s.GroupHolds row g) ↔
      (∀ a ∈ as, a.Holds s row) ∧
        ((∃ place, b.idsAt = some place) → s.ConditionHolds row (.inList idField vs))

namespace Reflects

variable {idField : String} {as : List Addition} {b b' : Builder} {a : Addition}

theorem idsPlaced (h : b.Reflects idField as) : b.IdsPlaced := by
  intro place hplace
  obtain ⟨vs, hvs, -⟩ := h.known place hplace
  exact ⟨_, hvs⟩

/-- Before any call there are no groups, and nothing is asked for. -/
theorem empty (idField : String) : Reflects idField [] {} where
  openAsksAll := nofun
  idsAt_iff := by simp
  known := nofun
  holds_iff := by simp [withIds]

/-- A call that is no filter by identity, and after which the groups ask for
what it asks for besides. -/
theorem snoc (h : b.Reflects idField as) (ha : ∀ vs, a ≠ .ids vs) (hopen : b'.OpenAsksAll)
    (hidsAt : b'.idsAt = b.idsAt)
    (hplaces : ∀ place c, b.conditionAt? place = some c → b'.conditionAt? place = some c)
    (hholds : ∀ (s : Scope) (row : Row) (vs : List Value),
      (∀ g ∈ (b'.withIds vs).groups, s.GroupHolds row g) ↔
        (∀ g ∈ (b.withIds vs).groups, s.GroupHolds row g) ∧ a.Holds s row) :
    b'.Reflects idField (as ++ [a]) where
  openAsksAll := hopen
  idsAt_iff := by
    rw [hidsAt, h.idsAt_iff]
    simp [fun vs => (ha vs).symm]
  known := by
    intro place hplace
    rw [hidsAt] at hplace
    obtain ⟨vs, hvs, hknown⟩ := h.known place hplace
    refine ⟨vs, hplaces place _ hvs, ?_⟩
    have hnone : a.identities = [] := by
      cases a with
      | ids vs => exact absurd rfl (ha vs)
      | _ => rfl
    intro v
    rw [hknown, List.flatMap_append, List.flatMap_singleton, hnone, List.append_nil]
  holds_iff := by
    intro s row vs
    rw [hholds, h.holds_iff, hidsAt, List.forall_mem_append, List.forall_mem_singleton]
    constructor
    · exact fun ⟨⟨has, hids⟩, ha⟩ => ⟨⟨has, ha⟩, hids⟩
    · exact fun ⟨⟨has, ha⟩, hids⟩ => ⟨⟨has, hids⟩, ha⟩

/-- A call whose conditions have to hold all. -/
theorem extend (h : b.Reflects idField as) (ha : ∀ vs, a ≠ .ids vs) {cs : List Condition}
    (hholds : ∀ (s : Scope) (row : Row), a.Holds s row ↔ ∀ c ∈ cs, s.ConditionHolds row c) :
    (b.extend cs).Reflects idField (as ++ [a]) := by
  refine h.snoc ha (openAsksAll_extend h.openAsksAll cs) (idsAt_extend b cs)
    (fun _ _ => conditionAt?_extend cs) ?_
  intro s row vs
  rw [withIds_extend h.idsPlaced,
    forall_groupHolds_extend_iff (openAsksAll_withIds h.openAsksAll vs), hholds]

/-- A call that makes a group of its own. -/
theorem close (h : b.Reflects idField as) (ha : ∀ vs, a ≠ .ids vs) {g : Group}
    (hholds : ∀ (s : Scope) (row : Row), a.Holds s row ↔ s.GroupHolds row g) :
    (b.close g).Reflects idField (as ++ [a]) := by
  refine h.snoc ha (openAsksAll_close g) rfl (fun _ _ => conditionAt?_close g) ?_
  intro s row vs
  rw [withIds_close h.idsPlaced, forall_groupHolds_close_iff, hholds]

/-- A call that asks for nothing and changes nothing. -/
theorem skip (h : b.Reflects idField as) (ha : ∀ vs, a ≠ .ids vs)
    (hholds : ∀ (s : Scope) (row : Row), a.Holds s row) : b.Reflects idField (as ++ [a]) := by
  refine h.snoc ha h.openAsksAll rfl (fun _ _ => id) ?_
  intro s row vs
  rw [iff_true_intro (hholds s row), and_true]

/-- The first filter by identity makes the identity condition. -/
theorem firstIds (h : b.Reflects idField as) (hnone : b.idsAt = none) {vs : List Value}
    (hvs : ∀ v ∈ vs, v.IsIdentity) :
    Reflects idField (as ++ [.ids vs])
      { b.extend [.inList idField (cleanIds vs)] with
        idsAt := some (b.extend [.inList idField (cleanIds vs)]).lastPlace } where
  openAsksAll := openAsksAll_extend h.openAsksAll _
  idsAt_iff := by simp
  known := by
    intro place hplace
    cases hplace
    refine ⟨cleanIds vs, conditionAt?_lastPlace h.openAsksAll _, ?_⟩
    have hbefore : as.flatMap Addition.identities = [] := by
      rw [List.flatMap_eq_nil_iff]
      intro a ha
      cases a with
      | ids ws =>
        obtain ⟨place, hplace⟩ := h.idsAt_iff.mpr ⟨ws, ha⟩
        rw [hnone] at hplace
        cases hplace
      | _ => rfl
    intro v
    rw [List.flatMap_append, hbefore, mem_cleanIds_iff hvs]
    simp [Addition.identities]
  holds_iff := by
    intro s row ws
    have hset := congrArg groups
      (setOperand_lastPlace h.openAsksAll (.inList idField (cleanIds vs)) (.list ws))
    have hgroups : (withIds { b.extend [.inList idField (cleanIds vs)] with
          idsAt := some (b.extend [.inList idField (cleanIds vs)]).lastPlace } ws).groups =
        (b.extend [.inList idField ws]).groups := hset
    have hbefore := h.holds_iff s row ws
    rw [withIds, hnone] at hbefore
    rw [hgroups, forall_groupHolds_extend_iff h.openAsksAll, hbefore]
    simp [Addition.Holds, or_imp, forall_and]

/-- A further filter by identity adds to the identity condition. -/
theorem furtherIds (h : b.Reflects idField as) {place : Nat × Nat} (hplace : b.idsAt = some place)
    {vs known merged : List Value} (hknown : b.conditionAt? place = some (.inList idField known))
    (hmerged : ∀ v, v ∈ merged ↔ v ∈ known ∨ v ∈ vs) :
    Reflects idField (as ++ [.ids vs]) (b.setOperand place (.list merged)) where
  openAsksAll := openAsksAll_setOperand h.openAsksAll _
  idsAt_iff := by
    constructor
    · exact fun _ => ⟨vs, by simp⟩
    · exact fun _ => ⟨place, hplace⟩
  known := by
    intro place' hplace'
    have heq : place' = place := by
      rw [show (b.setOperand place (.list merged)).idsAt = some place from hplace] at hplace'
      cases hplace'
      rfl
    subst heq
    refine ⟨merged, conditionAt?_setOperand _ hknown, ?_⟩
    obtain ⟨known', hknown', hmem⟩ := h.known place' hplace
    rw [hknown] at hknown'
    cases hknown'
    intro v
    rw [hmerged, hmem, List.flatMap_append, List.mem_append]
    simp [Addition.identities]
  holds_iff := by
    intro s row ws
    have hsame : (b.setOperand place (.list merged)).withIds ws = b.withIds ws := by
      unfold withIds
      rw [show (b.setOperand place (.list merged)).idsAt = some place from hplace, hplace]
      exact setOperand_setOperand _ _
    rw [hsame, h.holds_iff, List.forall_mem_append, List.forall_mem_singleton]
    constructor
    · exact fun ⟨has, hids⟩ => ⟨⟨has, trivial⟩, fun _ => hids ⟨place, hplace⟩⟩
    · exact fun ⟨⟨has, _⟩, hids⟩ => ⟨has, fun _ => hids ⟨place, hplace⟩⟩

end Reflects

/-! ## Calls one after the other -/

theorem reflects_addFilter {idField : String} {as : List Addition} {b b' : Builder}
    (h : b.Reflects idField as) {field : String} {input : Input} {logic : Logic}
    (hadd : b.addFilter field input logic = .ok b') :
    b'.Reflects idField (as ++ [.filter field input logic]) := by
  obtain ⟨cs, hcs, hadd⟩ := bind_eq_ok_iff.mp hadd
  have hholds : ∀ (s : Scope) (row : Row), (Addition.filter field input logic).Holds s row ↔
      if input.isList = true ∧ logic = .or ∧ cs ≠ [] then ∃ c ∈ cs, s.ConditionHolds row c
      else ∀ c ∈ cs, s.ConditionHolds row c := by
    intro s row
    rw [Addition.Holds, hcs]
    constructor
    · rintro ⟨cs', hcs', hholds⟩
      cases hcs'
      exact hholds
    · exact fun hholds => ⟨cs, rfl, hholds⟩
  have hnoIds : ∀ vs, Addition.filter field input logic ≠ .ids vs := nofun
  split at hadd
  · rename_i hchoice
    simp only [Bool.and_eq_true, beq_iff_eq, decide_eq_true_eq] at hchoice
    obtain ⟨⟨hlist, hor⟩, hlength⟩ := hchoice
    cases hadd
    refine h.close hnoIds fun s row => ?_
    rw [hholds, groupHolds_any_iff hlength, if_pos]
    exact ⟨hlist, hor, by rintro rfl; simp at hlength⟩
  · rename_i hchoice
    simp only [Bool.and_eq_true, beq_iff_eq, decide_eq_true_eq, not_and, Nat.not_lt] at hchoice
    cases hadd
    refine h.extend hnoIds fun s row => ?_
    rw [hholds]
    split
    · -- A list with one condition gives no choice.
      rename_i hone
      obtain ⟨hlist, hor, hne⟩ := hone
      have hlength := hchoice ⟨hlist, hor⟩
      obtain ⟨c, rfl⟩ : ∃ c, cs = [c] := by
        cases cs with
        | nil => exact absurd rfl hne
        | cons c rest =>
          have hrest : rest = [] := by
            rw [← List.length_eq_zero_iff]
            rw [List.length_cons] at hlength
            omega
          exact ⟨c, by rw [hrest]⟩
      simp
    · rfl

theorem reflects_addGroup {idField : String} {as : List Addition} {b : Builder}
    (h : b.Reflects idField as) (g : Group) :
    (b.addGroup g).Reflects idField (as ++ [.group g]) := by
  have hnoIds : ∀ vs, Addition.group g ≠ .ids vs := nofun
  unfold addGroup
  split
  · rename_i hempty
    exact h.skip hnoIds fun s row =>
      holds_group_iff.mpr (Plan.Scope.groupHolds_of_isEmpty hempty)
  · exact h.close hnoIds fun s row => holds_group_iff

theorem reflects_addIds {idField : String} {as : List Addition} {b b' : Builder}
    (h : b.Reflects idField as) {vs merged : List Value}
    (has : ∀ v ∈ as.flatMap Addition.identities, v.IsIdentity) (hvs : ∀ v ∈ vs, v.IsIdentity)
    (hadd : b.addIds idField vs = .ok (b', merged)) :
    b'.Reflects idField (as ++ [.ids vs]) := by
  unfold addIds at hadd
  split at hadd
  · rename_i place hplace
    obtain ⟨known, hknown, hmem⟩ := h.known place hplace
    rw [hknown] at hadd
    cases hadd
    refine h.furtherIds hplace hknown fun v => ?_
    rw [mem_cleanIds_iff, Option.map_some, Option.getD_some, List.mem_append]
    · rfl
    · intro v hv
      rcases List.mem_append.mp hv with hv | hv
      · exact has v ((hmem v).mp hv)
      · exact hvs v hv
  · rename_i hnone
    dsimp only at hadd
    split at hadd
    · cases hadd
    · obtain ⟨c, hc, hadd⟩ := bind_eq_ok_iff.mp hadd
      have hlist := make_isIn_eq_ok hc
      subst hlist
      cases hadd
      exact h.firstIds hnone hvs

/-- Whatever is added by a call, the groups go on to say what all calls ask
for. -/
theorem reflects_add {idField : String} {as : List Addition} {b b' : Builder} {a : Addition}
    (h : b.Reflects idField as)
    (hids : ∀ v ∈ (as ++ [a]).flatMap Addition.identities, v.IsIdentity)
    (hadd : b.add idField a = .ok b') : b'.Reflects idField (as ++ [a]) := by
  cases a with
  | filter field input logic => exact reflects_addFilter h hadd
  | condition c =>
    have hnoIds : ∀ vs, Addition.condition c ≠ .ids vs := nofun
    cases hadd
    exact h.extend hnoIds fun s row => by simp [Addition.Holds]
  | group g =>
    cases hadd
    exact reflects_addGroup h g
  | ids vs =>
    rw [List.flatMap_append, List.forall_mem_append] at hids
    obtain ⟨has, hvs⟩ := hids
    rw [add] at hadd
    cases hanswer : b.addIds idField vs with
    | error e =>
      rw [hanswer] at hadd
      cases hadd
    | ok answer =>
      rw [hanswer] at hadd
      cases hadd
      exact reflects_addIds h has (by simpa [Addition.identities] using hvs) hanswer

theorem reflects_addAll {idField : String} {done as : List Addition} {b b' : Builder}
    (h : b.Reflects idField done)
    (hids : ∀ v ∈ (done ++ as).flatMap Addition.identities, v.IsIdentity)
    (hadd : b.addAll idField as = .ok b') : b'.Reflects idField (done ++ as) := by
  induction as generalizing done b with
  | nil =>
    cases hadd
    rw [List.append_nil]
    exact h
  | cons a rest ih =>
    rw [addAll, List.foldlM_cons] at hadd
    obtain ⟨next, hnext, hrest⟩ := bind_eq_ok_iff.mp hadd
    have hsplit : done ++ a :: rest = (done ++ [a]) ++ rest := by simp
    rw [hsplit] at hids ⊢
    refine ih (reflects_add h ?_ hnext) hids hrest
    intro v hv
    refine hids v ?_
    rw [List.flatMap_append]
    exact List.mem_append_left _ hv

end Builder

/-- The groups of some accepted calls have a predicate where their conditions
have one. A row passes it when every call holds on the row, and the filters by
identity together. It is missing only where no group has a condition. -/
theorem groups_ask_for_what_every_call_asks {s : Scope} {idField : String} {as : List Addition}
    {b : Builder} (hids : ∀ vs, .ids vs ∈ as → ∀ v ∈ vs, v.IsIdentity)
    (hadd : Builder.addAll idField {} as = .ok b) (hcompile : s.Compile b.groups) :
    ∃ found, s.groups b.groups = .ok found ∧
      (found = none ↔ ∀ g ∈ b.groups, g.isEmpty = true) ∧
      ∀ row, Sql.passes found row = true ↔
        (∀ a ∈ as, a.Holds s row) ∧ IdsHold s row idField as := by
  have hidentities : ∀ v ∈ as.flatMap Addition.identities, v.IsIdentity := by
    intro v hv
    obtain ⟨a, ha, hv⟩ := List.mem_flatMap.mp hv
    cases a with
    | ids vs => exact hids vs ha v hv
    | _ => cases hv
  have hreflects := Builder.reflects_addAll (.empty idField) hidentities hadd
  rw [List.nil_append] at hreflects
  obtain ⟨found, hfound, hnone, hpasses⟩ := Plan.Scope.groups_eq_ok hcompile
  refine ⟨found, hfound, hnone, fun row => ?_⟩
  rw [hpasses]
  cases hplace : b.idsAt with
  | none =>
    have hholds := hreflects.holds_iff s row []
    rw [Builder.withIds, hplace] at hholds
    have hnoIds : IdsHold s row idField as := by
      intro hsome
      obtain ⟨place, hsome⟩ := hreflects.idsAt_iff.mpr hsome
      rw [hplace] at hsome
      cases hsome
    simpa [hnoIds] using hholds
  | some place =>
    obtain ⟨known, hknown, hmem⟩ := hreflects.known place hplace
    have hself : b.withIds known = b := by
      rw [Builder.withIds, hplace]
      exact Builder.setOperand_eq_self hknown
    have hholds := hreflects.holds_iff s row known
    rw [hself] at hholds
    rw [hholds, IdsHold, conditionHolds_inList_congr hmem, hreflects.idsAt_iff]

/-- Two filters by identity, with a choice and a condition among them. -/
theorem groups_ask_for_two_filters_by_identity :
    let s : Scope := { entity := { name := "product", storage := "products" }, columns := [] }
    let as : List Addition :=
      [.ids [.int 1],
        .filter "price" (.operators [(.lt, .scalar (.int 5)), (.gt, .scalar (.int 9))]) .or,
        .ids [.int 2, .text "x"],
        .condition (.eq "status" (.text "active"))]
    let b : Builder :=
      { groups :=
          [.all [.inList "id" [.int 1, .int 2, .text "x"]],
            .any [⟨"price", .lt, .scalar (.int 5)⟩, ⟨"price", .gt, .scalar (.int 9)⟩],
            .all [.eq "status" (.text "active")]]
        isOpen := true
        idsAt := some (0, 0) }
    Builder.addAll "id" {} as = .ok b ∧ s.Compile b.groups ∧
      ∃ found, s.groups b.groups = .ok found ∧
        ∀ row, Sql.passes found row = true ↔
          (∀ a ∈ as, a.Holds s row) ∧ IdsHold s row "id" as := by
  intro s as b
  have hids : ∀ vs, .ids vs ∈ as → ∀ v ∈ vs, v.IsIdentity := by
    intro vs hvs
    simp only [as, List.mem_cons, Addition.ids.injEq, reduceCtorEq, List.not_mem_nil, or_false,
      false_or] at hvs
    rcases hvs with rfl | rfl <;> simp [Value.IsIdentity]
  have hadd : Builder.addAll "id" {} as = .ok b := rfl
  have hcompile : s.Compile b.groups := by
    simp only [b, Scope.Compile, Group.all, Group.any, List.forall_mem_cons]
    have hnil := List.forall_mem_nil fun c : Condition => ∃ p, s.condition c = .ok p
    exact ⟨⟨⟨.isIn (.plain "id") [.int 1, .int 2, .text "x"], rfl⟩, hnil⟩,
      ⟨⟨.lt (.plain "price") (.int 5), rfl⟩, ⟨.gt (.plain "price") (.int 9), rfl⟩, hnil⟩,
      ⟨⟨.eq (.plain "status") (.text "active"), rfl⟩, hnil⟩, List.forall_mem_nil _⟩
  obtain ⟨found, hfound, -, hpasses⟩ := groups_ask_for_what_every_call_asks hids hadd hcompile
  exact ⟨hadd, hcompile, found, hfound, hpasses⟩

end EntityStore.Filter
