-- The one condition on identities. Wherever filters by identity stand among
-- other calls, they make one condition together, at the place where the first
-- of them would have put its own, and the place that is remembered is its
-- place. No call looks for a group or a condition that is not there.
import EntityStore.Proofs.Filter.Builder
import EntityStore.Proofs.Plan.Additions
import Mathlib.Data.List.Induction

namespace EntityStore.Filter

/-! ## Values in the order of their first occurrence -/

/-- The second list has each value of the first once, except null, in the
order of their first occurrence. -/
inductive FirstSeen : List Value → List Value → Prop
  | nil : FirstSeen [] []
  | again {vs ws : List Value} {v : Value} :
      FirstSeen vs ws → v = .null ∨ v ∈ ws → FirstSeen (vs ++ [v]) ws
  | fresh {vs ws : List Value} {v : Value} :
      FirstSeen vs ws → v ≠ .null → v ∉ ws → FirstSeen (vs ++ [v]) (ws ++ [v])

/-- Identities, and nulls among them. -/
def AreIds (vs : List Value) : Prop := ∀ v ∈ vs, v = .null ∨ v.IsIdentity

section

variable {us vs ws : List Value} {v : Value}

theorem FirstSeen.mem_iff (h : FirstSeen vs ws) : v ∈ ws ↔ v ∈ vs ∧ v ≠ .null := by
  induction h with
  | nil => simp
  | again h hold ih =>
    rename_i vs ws w
    rw [List.mem_append, List.mem_singleton, or_and_right, ← ih]
    refine ⟨.inl, ?_⟩
    rintro (hv | ⟨rfl, hv⟩)
    · exact hv
    · exact hold.resolve_left hv
  | fresh h hw hnew ih =>
    rename_i vs ws w
    rw [List.mem_append, List.mem_append, List.mem_singleton, or_and_right, ← ih]
    refine or_congr_right ⟨?_, And.left⟩
    rintro rfl
    exact ⟨rfl, hw⟩

/-- Nothing is seen of nulls. -/
theorem firstSeen_nulls (h : ∀ v ∈ vs, v = .null) : FirstSeen vs [] := by
  induction vs using List.reverseRecOn with
  | nil => exact .nil
  | append_singleton vs v ih =>
    rw [List.forall_mem_append, List.forall_mem_singleton] at h
    exact (ih h.1).again (.inl h.2)

theorem isIdentity_of_mem (h : FirstSeen vs ws) (hvs : AreIds vs) : ∀ v ∈ ws, v.IsIdentity := by
  intro v hv
  obtain ⟨hv, hnull⟩ := h.mem_iff.mp hv
  exact (hvs v hv).resolve_left hnull

theorem cleanIds_snoc (vs : List Value) (v : Value) :
    Builder.cleanIds (vs ++ [v]) =
      if v.isNull || (Builder.cleanIds vs).any (· == v) then Builder.cleanIds vs
      else Builder.cleanIds vs ++ [v] := by
  unfold Builder.cleanIds Value.distinct
  rw [List.filter_append]
  cases hv : v.isNull with
  | true => simp [hv]
  | false => simp [hv]

/-- One more identity is dropped where it is null or was seen before. -/
theorem FirstSeen.snoc (h : FirstSeen vs (Builder.cleanIds us)) (hvs : AreIds (vs ++ [v])) :
    FirstSeen (vs ++ [v]) (Builder.cleanIds (us ++ [v])) := by
  rw [AreIds, List.forall_mem_append, List.forall_mem_singleton] at hvs
  obtain ⟨hvs, hv⟩ := hvs
  rw [cleanIds_snoc]
  rcases hv with rfl | hv
  · exact h.again (.inl rfl)
  · have hany := Value.any_beq_iff (fun _ _ => Value.beq_iff_of_isIdentity)
      (isIdentity_of_mem h hvs) hv
    rw [Value.not_isNull_of_isIdentity hv, Bool.false_or]
    split
    · rename_i hseen
      exact h.again (.inr (hany.mp hseen))
    · rename_i hnew
      refine h.fresh ?_ fun hmem => hnew (hany.mpr hmem)
      rintro rfl
      exact hv

/-- What was seen first has nothing to be dropped. -/
theorem cleanIds_eq_self (h : FirstSeen vs ws) (hvs : AreIds vs) : Builder.cleanIds ws = ws := by
  induction h with
  | nil => rfl
  | again h hold ih => exact ih (List.forall_mem_append.mp hvs).1
  | fresh h hnull hnew ih =>
    rename_i vs ws w
    rw [AreIds, List.forall_mem_append, List.forall_mem_singleton] at hvs
    obtain ⟨hvs, hw⟩ := hvs
    have hw := hw.resolve_left hnull
    have hany := Value.any_beq_iff (fun _ _ => Value.beq_iff_of_isIdentity)
      (isIdentity_of_mem h hvs) hw
    rw [cleanIds_snoc, ih hvs, if_neg]
    rw [Value.not_isNull_of_isIdentity hw, Bool.false_or, hany]
    exact hnew

/-- More identities behind those that were seen first. -/
theorem FirstSeen.append (h : FirstSeen us ws) (hids : AreIds (us ++ vs)) :
    FirstSeen (us ++ vs) (Builder.cleanIds (ws ++ vs)) := by
  induction vs using List.reverseRecOn with
  | nil =>
    rw [List.append_nil] at hids ⊢
    rw [List.append_nil, cleanIds_eq_self h hids]
    exact h
  | append_singleton vs v ih =>
    rw [← List.append_assoc] at hids ⊢
    rw [← List.append_assoc]
    exact (ih (List.forall_mem_append.mp hids).1).snoc hids

/-- Identities that were seen already leave the list as it is. -/
theorem cleanIds_append_of_seen (h : FirstSeen us ws) (hus : AreIds us)
    (hvs : ∀ v ∈ vs, v = .null ∨ v ∈ ws) : Builder.cleanIds (ws ++ vs) = ws := by
  have hids := isIdentity_of_mem h hus
  induction vs using List.reverseRecOn with
  | nil => rw [List.append_nil, cleanIds_eq_self h hus]
  | append_singleton vs v ih =>
    rw [List.forall_mem_append, List.forall_mem_singleton] at hvs
    obtain ⟨hvs, hv⟩ := hvs
    rw [← List.append_assoc, cleanIds_snoc, ih hvs, if_pos]
    rcases hv with rfl | hv
    · rfl
    · rw [Bool.or_eq_true]
      exact .inr ((Value.any_beq_iff (fun _ _ => Value.beq_iff_of_isIdentity) hids
        (hids v hv)).mpr hv)

end

/-! ## Calls -/

/-- One call on the groups: something is added, or all is forgotten. -/
inductive Move where
  | add (a : Addition)
  | clear

/-- What was added since all was forgotten last. -/
def sinceClear (ms : List Move) : List Addition :=
  ms.foldl (fun as m => match m with | .add a => as ++ [a] | .clear => []) []

def Addition.isIds : Addition → Bool
  | .ids _ => true
  | _ => false

/-- The calls that are no filters by identity. -/
def others (as : List Addition) : List Addition := as.filter fun a => !a.isIds

namespace Builder

/-- What a call gives, and the groups after it. Where it fails they are the
groups before it. -/
def outcome (b : Builder) :
    Except AccessError (Builder × List Value) → Except AccessError (List Value) × Builder
  | .ok (after, ids) => (.ok ids, after)
  | .error e => (.error e, b)

/-- What a call gives, and the groups after it. -/
def move (idField : String) (b : Builder) : Move → Except AccessError (List Value) × Builder
  | .add (.ids vs) => b.outcome (b.addIds idField vs)
  | .add a => b.outcome ((b.add idField a).map fun after => (after, []))
  | .clear => (.ok [], {})

/-- The groups after some calls. -/
def run (idField : String) (ms : List Move) : Builder :=
  ms.foldl (fun b m => (b.move idField m).2) {}

/-- The groups after some additions. -/
def grow (idField : String) (as : List Addition) : Builder :=
  as.foldl (fun b a => (b.move idField (.add a)).2) {}

variable {idField : String} {b : Builder} {place : Nat × Nat} {a : Addition}

theorem grow_snoc (as : List Addition) (a : Addition) :
    grow idField (as ++ [a]) = ((grow idField as).move idField (.add a)).2 := by
  rw [grow, List.foldl_append]
  rfl

/-- Nothing stays of what was added before all was forgotten. -/
theorem run_eq_grow (ms : List Move) : run idField ms = grow idField (sinceClear ms) := by
  induction ms using List.reverseRecOn with
  | nil => rfl
  | append_singleton ms m ih =>
    rw [run, List.foldl_append, sinceClear, List.foldl_append]
    cases m with
    | clear => rfl
    | add a =>
      show ((run idField ms).move idField (.add a)).2 = grow idField (sinceClear ms ++ [a])
      rw [grow_snoc, ih]

/-! ## Places that have to be there -/

/-- Further conditions, where an open group has to be there. -/
def extend? (b : Builder) (cs : List Condition) : Option Builder :=
  if b.isOpen then do
    let last := b.groups.length - 1
    let g ← b.groups[last]?
    return { b with groups := b.groups.set last { g with conditions := g.conditions ++ cs } }
  else return { b with groups := b.groups ++ [.all cs], isOpen := true }

/-- The place of the last condition, which has to be there. -/
def lastPlace? (b : Builder) : Option (Nat × Nat) := do
  let g ← b.groups[b.groups.length - 1]?
  if g.conditions.isEmpty then none
  else return (b.groups.length - 1, g.conditions.length - 1)

/-- A filter by identity, where the condition at the place that is remembered
has to be there. -/
def addIds? (idField : String) (b : Builder) (ids : List Value) :
    Option (Except AccessError (List Value) × Builder) :=
  match b.idsAt with
  | some place => do
    let c ← b.conditionAt? place
    let merged := cleanIds (Operand.listed c.operand ++ ids)
    return (.ok merged, b.setOperand place (.list merged))
  | none =>
    let fresh := cleanIds ids
    if fresh.isEmpty then
      some (.error (.invalidFilter "ids filter needs at least one id"), b)
    else
      match Condition.make idField .isIn (.list fresh) with
      | .error e => some (.error e, b)
      | .ok c => do
        let extended ← b.extend? [c]
        let place ← extended.lastPlace?
        return (.ok fresh, { extended with idsAt := some place })

/-- A call whose places have to be there. It gives nothing where one of them
is missing. -/
def move? (idField : String) (b : Builder) :
    Move → Option (Except AccessError (List Value) × Builder)
  | .clear => some (.ok [], {})
  | .add (.ids vs) => b.addIds? idField vs
  | .add (.condition c) => (b.extend? [c]).map fun after => (.ok [], after)
  | .add (.group g) => some (.ok [], b.addGroup g)
  | .add (.filter field input logic) =>
    match input.conditions field with
    | .error e => some (.error e, b)
    | .ok cs =>
      if input.isList && logic == .or && cs.length > 1 then some (.ok [], b.close (.any cs))
      else (b.extend? cs).map fun after => (.ok [], after)

theorem extend?_eq (h : b.OpenAsksAll) (cs : List Condition) :
    b.extend? cs = some (b.extend cs) := by
  unfold extend?
  cases hopen : b.isOpen with
  | false => rw [extend_of_closed hopen]; rfl
  | true =>
    obtain ⟨gs, known, hgroups⟩ := h hopen
    rw [extend_of_open hopen hgroups, hgroups]
    simp [hopen]

theorem lastPlace?_extend (h : b.OpenAsksAll) (c : Condition) :
    (b.extend [c]).lastPlace? = some (b.extend [c]).lastPlace := by
  obtain ⟨gs, known, hgroups, -⟩ := exists_groups_extend h [c]
  unfold lastPlace? lastPlace
  rw [hgroups]
  simp [Group.all]

theorem addIds?_eq (hopen : b.OpenAsksAll) (hplaced : b.IdsPlaced) (vs : List Value) :
    b.addIds? idField vs = some (b.outcome (b.addIds idField vs)) := by
  unfold addIds? addIds
  cases hplace : b.idsAt with
  | some place =>
    obtain ⟨c, hc⟩ := hplaced place hplace
    simp only [hc]
    rfl
  | none =>
    dsimp only
    split
    · rfl
    · cases hmake : Condition.make idField .isIn (.list (cleanIds vs)) with
      | error e => rfl
      | ok c =>
        show (do
          let extended ← b.extend? [c]
          let place ← extended.lastPlace?
          return (Except.ok (cleanIds vs), { extended with idsAt := some place })) = _
        rw [extend?_eq hopen, Option.bind_eq_bind, Option.bind_some, lastPlace?_extend hopen]
        rfl

/-- No call looks for what is not there. -/
theorem move?_eq (hopen : b.OpenAsksAll) (hplaced : b.IdsPlaced) (m : Move) :
    b.move? idField m = some (b.move idField m) := by
  cases m with
  | clear => rfl
  | add a =>
    cases a with
    | ids vs => exact addIds?_eq hopen hplaced vs
    | condition c =>
      rw [move?, extend?_eq hopen]
      rfl
    | group g => rfl
    | filter field input logic =>
      cases hcs : input.conditions field with
      | error e =>
        simp only [move?, move, add, addFilter, hcs]
        rfl
      | ok cs =>
        by_cases hchoice : (input.isList && logic == .or && decide (cs.length > 1)) = true
        · simp only [move?, move, add, addFilter, hcs, bind, Except.bind, hchoice, if_true]
          rfl
        · simp only [move?, move, add, addFilter, hcs, bind, Except.bind, if_neg hchoice,
            extend?_eq hopen]
          rfl

/-! ## Calls that are no filters by identity -/

/-- Such a call changes nothing, adds to the open group or makes a group of
its own, whatever the groups are. -/
theorem move_cases (idField : String) (ha : a.isIds = false) :
    (∀ b, (move idField b (.add a)).2 = b) ∨
      (∃ cs, ∀ b, (move idField b (.add a)).2 = b.extend cs) ∨
      ∃ g, ∀ b, (move idField b (.add a)).2 = b.close g := by
  cases a with
  | ids vs => cases ha
  | condition c => exact .inr (.inl ⟨[c], fun _ => rfl⟩)
  | group g =>
    cases hg : g.isEmpty with
    | true => exact .inl fun b => by simp [move, add, addGroup, hg, outcome, Except.map]
    | false =>
      exact .inr (.inr ⟨g, fun b => by simp [move, add, addGroup, hg, outcome, Except.map]⟩)
  | filter field input logic =>
    cases hcs : input.conditions field with
    | error e => exact .inl fun b => by simp only [move, add, addFilter, hcs]; rfl
    | ok cs =>
      by_cases hchoice : (input.isList && logic == .or && decide (cs.length > 1)) = true
      · refine .inr (.inr ⟨.any cs, fun b => ?_⟩)
        simp only [move, add, addFilter, hcs, bind, Except.bind, hchoice, if_true]
        rfl
      · refine .inr (.inl ⟨cs, fun b => ?_⟩)
        simp only [move, add, addFilter, hcs, bind, Except.bind, if_neg hchoice]
        rfl

/-- The groups without the place that is remembered. -/
def forget (b : Builder) : Builder := { b with idsAt := none }

theorem forget_extend (b : Builder) (cs : List Condition) :
    (b.extend cs).forget = b.forget.extend cs := by
  unfold extend forget
  dsimp only
  split <;> rfl

/-- Such a call keeps the place that is remembered and its condition, and
commutes with another operand there. -/
theorem move_at_place (idField : String) (ha : a.isIds = false) (hopen : b.OpenAsksAll)
    {c : Condition} (hc : b.conditionAt? place = some c) :
    let after := (b.move idField (.add a)).2
    after.OpenAsksAll ∧ after.idsAt = b.idsAt ∧ after.conditionAt? place = some c ∧
      ∀ operand, (after.setOperand place operand).forget =
        ((b.setOperand place operand).forget.move idField (.add a)).2 := by
  intro after
  rcases move_cases idField ha with hsame | ⟨cs, hextend⟩ | ⟨g, hclose⟩
  · have hafter : after = b := hsame b
    rw [hafter]
    exact ⟨hopen, rfl, hc, fun operand => (hsame _).symm⟩
  · have hafter : after = b.extend cs := hextend b
    rw [hafter]
    refine ⟨openAsksAll_extend hopen cs, idsAt_extend b cs, conditionAt?_extend cs hc, ?_⟩
    intro operand
    rw [hextend, setOperand_extend cs operand hc, forget_extend]
  · have hafter : after = b.close g := hclose b
    rw [hafter]
    refine ⟨openAsksAll_close g, rfl, conditionAt?_close g hc, ?_⟩
    intro operand
    rw [hclose, setOperand_close g operand hc]
    rfl

/-! ## The condition on identities -/

/-- Nothing but nulls was asked for, and there is no condition on identities. -/
structure NoCondition (idField : String) (as : List Addition) (b : Builder) : Prop where
  openAsksAll : b.OpenAsksAll
  idsAt_eq : b.idsAt = none
  nulls : ∀ v ∈ as.flatMap Addition.identities, v = .null
  grown : b = grow idField (others as)

/-- The condition at the place that is remembered asks for some identities: all of those that
were asked for. With any others there, the groups are those of the same calls with that one
condition in place of the first filter by identity, and without all further ones. -/
structure OneCondition (idField : String) (as : List Addition) (b : Builder) (place : Nat × Nat)
    (ids : List Value) : Prop where
  openAsksAll : b.OpenAsksAll
  idsAt_eq : b.idsAt = some place
  firstSeen : FirstSeen (as.flatMap Addition.identities) ids
  nonempty : ids ≠ []
  placed : b.conditionAt? place = some (.inList idField ids)
  grown : ∃ before vs after, as = before ++ .ids vs :: after ∧
    (∀ v ∈ before.flatMap Addition.identities, v = .null) ∧
    ∀ ws, (b.setOperand place (.list ws)).forget =
      grow idField (others before ++ .condition (.inList idField ws) :: others after)

theorem identities_of_not_isIds (ha : a.isIds = false) : a.identities = [] := by
  cases a with
  | ids vs => cases ha
  | _ => rfl

theorem others_snoc (as : List Addition) (a : Addition) :
    others (as ++ [a]) = others as ++ if a.isIds then [] else [a] := by
  rw [others, List.filter_append]
  cases ha : a.isIds <;> simp [others, ha]

variable {as : List Addition} {ids vs : List Value}

theorem NoCondition.other (h : b.NoCondition idField as) (ha : a.isIds = false) :
    (b.move idField (.add a)).2.NoCondition idField (as ++ [a]) := by
  have hnulls : ∀ v ∈ (as ++ [a]).flatMap Addition.identities, v = .null := by
    rw [List.flatMap_append, List.flatMap_singleton, identities_of_not_isIds ha, List.append_nil]
    exact h.nulls
  have hgrown : (b.move idField (.add a)).2 = grow idField (others (as ++ [a])) := by
    rw [others_snoc, ha, if_neg Bool.false_ne_true, grow_snoc, ← h.grown]
  rcases move_cases idField ha with hsame | ⟨cs, hextend⟩ | ⟨g, hclose⟩
  · refine ⟨?_, ?_, hnulls, hgrown⟩ <;> rw [hsame]
    · exact h.openAsksAll
    · exact h.idsAt_eq
  · refine ⟨?_, ?_, hnulls, hgrown⟩ <;> rw [hextend]
    · exact openAsksAll_extend h.openAsksAll cs
    · exact (idsAt_extend b cs).trans h.idsAt_eq
  · refine ⟨?_, ?_, hnulls, hgrown⟩ <;> rw [hclose]
    · exact openAsksAll_close g
    · exact h.idsAt_eq

theorem OneCondition.other (h : b.OneCondition idField as place ids) (ha : a.isIds = false) :
    (b.move idField (.add a)).2.OneCondition idField (as ++ [a]) place ids := by
  obtain ⟨hopen, hidsAt, hplaced, hcommutes⟩ :=
    move_at_place idField ha h.openAsksAll h.placed
  obtain ⟨before, vs, after, rfl, hbefore, hgrown⟩ := h.grown
  refine ⟨hopen, hidsAt.trans h.idsAt_eq, ?_, h.nonempty, hplaced,
    before, vs, after ++ [a], by simp, hbefore, fun ws => ?_⟩
  · rw [List.flatMap_append, List.flatMap_singleton, identities_of_not_isIds ha, List.append_nil]
    exact h.firstSeen
  · rw [hcommutes, hgrown, ← grow_snoc, others_snoc, ha]
    simp

/-- A filter by identity adds to the condition. -/
theorem OneCondition.moreIds (h : b.OneCondition idField as place ids)
    (has : AreIds (as.flatMap Addition.identities)) (hvs : AreIds vs) :
    b.move idField (.add (.ids vs)) =
        (.ok (cleanIds (ids ++ vs)), b.setOperand place (.list (cleanIds (ids ++ vs)))) ∧
      (b.move idField (.add (.ids vs))).2.OneCondition idField (as ++ [.ids vs]) place
        (cleanIds (ids ++ vs)) := by
  have hmove : b.move idField (.add (.ids vs)) =
      (.ok (cleanIds (ids ++ vs)), b.setOperand place (.list (cleanIds (ids ++ vs)))) := by
    rw [move, addIds, h.idsAt_eq]
    simp only [h.placed]
    rfl
  have hseen := h.firstSeen.append (List.forall_mem_append.mpr ⟨has, hvs⟩)
  obtain ⟨before, ws, after, rfl, hbefore, hgrown⟩ := h.grown
  refine ⟨hmove, ?_⟩
  rw [hmove]
  refine ⟨openAsksAll_setOperand h.openAsksAll _, h.idsAt_eq, ?_, ?_,
    conditionAt?_setOperand _ h.placed, before, ws, after ++ [.ids vs], by simp, hbefore, ?_⟩
  · rw [List.flatMap_append, List.flatMap_singleton]
    exact hseen
  · obtain ⟨v, hv⟩ := List.exists_mem_of_ne_nil _ h.nonempty
    obtain ⟨hmem, hnull⟩ := h.firstSeen.mem_iff.mp hv
    exact List.ne_nil_of_mem (hseen.mem_iff.mpr ⟨List.mem_append_left vs hmem, hnull⟩)
  · intro us
    rw [setOperand_setOperand, hgrown, others_snoc]
    simp [Addition.isIds]

theorem make_isIn (hfield : idField ≠ "") (hvs : vs ≠ []) :
    Condition.make idField .isIn (.list vs) = .ok (.inList idField vs) := by
  unfold Condition.make Condition.accept
  rw [if_neg (by rwa [String.isEmpty_iff])]
  simp [Condition.inList, Operator.takesValue, Operator.takesList, hvs]

/-- The first filter by identity fails where it has none, and makes the condition
elsewhere. -/
theorem NoCondition.firstIds (h : b.NoCondition idField as) (hfield : idField ≠ "")
    (hvs : AreIds vs) :
    ((∀ v ∈ vs, v = .null) ∧
        b.move idField (.add (.ids vs)) =
          (.error (.invalidFilter "ids filter needs at least one id"), b) ∧
        b.NoCondition idField (as ++ [.ids vs])) ∨
      (∃ v ∈ vs, v ≠ .null) ∧
        (b.move idField (.add (.ids vs))).1 = .ok (cleanIds vs) ∧
        ∃ place, (b.move idField (.add (.ids vs))).2.OneCondition idField (as ++ [.ids vs]) place
          (cleanIds vs) := by
  have has : AreIds (as.flatMap Addition.identities) := fun v hv => .inl (h.nulls v hv)
  have hseen := (firstSeen_nulls h.nulls).append (List.forall_mem_append.mpr ⟨has, hvs⟩)
  rw [List.nil_append] at hseen
  have hflat : (as ++ [Addition.ids vs]).flatMap Addition.identities =
      as.flatMap Addition.identities ++ vs := by
    rw [List.flatMap_append, List.flatMap_singleton]
    rfl
  by_cases hfresh : cleanIds vs = []
  · have hnulls : ∀ v ∈ vs, v = .null := by
      intro v hv
      refine Classical.byContradiction fun hne => ?_
      have hmem := hseen.mem_iff.mpr ⟨List.mem_append_right _ hv, hne⟩
      rw [hfresh] at hmem
      cases hmem
    refine .inl ⟨hnulls, ?_, h.openAsksAll, h.idsAt_eq, ?_, ?_⟩
    · rw [move, addIds, h.idsAt_eq]
      simp only [hfresh]
      rfl
    · rw [hflat]
      exact List.forall_mem_append.mpr ⟨h.nulls, hnulls⟩
    · rw [others_snoc, h.grown]
      simp [Addition.isIds]
  · have hmove : b.move idField (.add (.ids vs)) =
        (.ok (cleanIds vs), { b.extend [.inList idField (cleanIds vs)] with
          idsAt := some (b.extend [.inList idField (cleanIds vs)]).lastPlace }) := by
      rw [move, addIds, h.idsAt_eq]
      simp only [List.isEmpty_iff, hfresh, if_false, make_isIn hfield hfresh]
      rfl
    have hsome : ∃ v ∈ vs, v ≠ .null := by
      obtain ⟨v, hv⟩ := List.exists_mem_of_ne_nil _ hfresh
      obtain ⟨hmem, hnull⟩ := hseen.mem_iff.mp hv
      exact ⟨v, (List.mem_append.mp hmem).resolve_left fun h' => hnull (h.nulls v h'), hnull⟩
    refine .inr ⟨hsome, by rw [hmove], (b.extend [.inList idField (cleanIds vs)]).lastPlace, ?_⟩
    rw [hmove]
    refine ⟨openAsksAll_extend h.openAsksAll _, rfl, hflat ▸ hseen, hfresh,
      conditionAt?_lastPlace h.openAsksAll _, as, vs, [], rfl, h.nulls, fun ws => ?_⟩
    have hset := setOperand_lastPlace h.openAsksAll (.inList idField (cleanIds vs)) (.list ws)
    have hnone : (b.extend [.inList idField ws]).forget = b.extend [.inList idField ws] := by
      rw [forget_extend, forget, ← h.idsAt_eq]
    show ((b.extend [_]).setOperand _ _).forget = grow idField (others as ++ [_])
    rw [hset, grow_snoc, ← h.grown]
    exact hnone

/-- After any additions there is no condition on identities, or one. -/
theorem settled_grow (hfield : idField ≠ "") (as : List Addition)
    (hids : AreIds (as.flatMap Addition.identities)) :
    (grow idField as).NoCondition idField as ∨
      ∃ place ids, (grow idField as).OneCondition idField as place ids := by
  induction as using List.reverseRecOn with
  | nil => exact .inl ⟨nofun, rfl, by simp, rfl⟩
  | append_singleton as a ih =>
    rw [List.flatMap_append, List.flatMap_singleton] at hids
    obtain ⟨has, ha⟩ := List.forall_mem_append.mp hids
    rw [grow_snoc]
    cases hkind : a.isIds with
    | false =>
      rcases ih has with h | ⟨place, ids, h⟩
      · exact .inl (h.other hkind)
      · exact .inr ⟨place, ids, h.other hkind⟩
    | true =>
      cases a with
      | ids vs =>
        have hvs : AreIds vs := ha
        rcases ih has with h | ⟨place, ids, h⟩
        · rcases h.firstIds hfield hvs with ⟨-, hmove, hnone⟩ | ⟨-, -, place, hone⟩
          · rw [hmove]
            exact .inl hnone
          · exact .inr ⟨place, _, hone⟩
        · exact .inr ⟨place, _, (h.moreIds has hvs).2⟩
      | _ => cases hkind

end Builder

/-! ## Any calls -/

theorem add_mem_of_mem_sinceClear {ms : List Move} {a : Addition} (h : a ∈ sinceClear ms) :
    .add a ∈ ms := by
  induction ms using List.reverseRecOn with
  | nil => cases h
  | append_singleton ms m ih =>
    rw [sinceClear, List.foldl_append] at h
    cases m with
    | clear => cases h
    | add a' =>
      rcases List.mem_append.mp h with h | h
      · exact List.mem_append_left _ (ih h)
      · rw [List.mem_singleton] at h
        simp [h]

/-- After any calls no further call looks for a place that is not there. All identities that were
asked for since all was forgotten last share one condition, at the place that is remembered: the
groups are those of the same calls with that one condition in place of the first filter by
identity. One more such filter gives the identities in effect, and puts them there. It fails
where it has none and none were asked for before, and then changes nothing, as it does where it
has none that is new. -/
theorem identities_share_one_condition {idField : String} (hfield : idField ≠ "")
    {ms : List Move} (hids : ∀ vs, .add (.ids vs) ∈ ms → AreIds vs) :
    let b := Builder.run idField ms
    let as := sinceClear ms
    let asked := as.flatMap Addition.identities
    (∀ m, b.move? idField m = some (b.move idField m)) ∧
      ∃ ids, FirstSeen asked ids ∧
        (ids = [] ∧ b.idsAt = none ∧ b.groups = (Builder.grow idField (others as)).groups ∨
          ids ≠ [] ∧
            (∃ place, b.idsAt = some place ∧
              b.conditionAt? place = some (.inList idField ids)) ∧
            ∃ before vs after, as = before ++ .ids vs :: after ∧
              (∀ v ∈ before.flatMap Addition.identities, v = .null) ∧
              b.groups = (Builder.grow idField
                (others before ++ .condition (.inList idField ids) :: others after)).groups) ∧
        ∀ vs, AreIds vs →
          let next := b.move idField (.add (.ids vs))
          (match next.1 with
            | .ok merged => FirstSeen (asked ++ vs) merged ∧
                ∃ place, next.2.idsAt = some place ∧
                  next.2.conditionAt? place = some (.inList idField merged)
            | .error _ => ids = [] ∧ (∀ v ∈ vs, v = .null) ∧ next.2 = b) ∧
          ((∀ v ∈ vs, v = .null ∨ v ∈ ids) → next.2 = b) := by
  intro b as asked
  have has : AreIds asked := by
    intro v hv
    obtain ⟨a, ha, hv⟩ := List.mem_flatMap.mp hv
    cases a with
    | ids vs => exact hids vs (add_mem_of_mem_sinceClear ha) v hv
    | _ => cases hv
  have hb : b = Builder.grow idField as := Builder.run_eq_grow ms
  have hsettled := Builder.settled_grow hfield as has
  rw [← hb] at hsettled
  rcases hsettled with h | ⟨place, ids, h⟩
  · refine ⟨Builder.move?_eq h.openAsksAll (by rw [Builder.IdsPlaced, h.idsAt_eq]; nofun), [],
      firstSeen_nulls h.nulls, .inl ⟨rfl, h.idsAt_eq, congrArg Builder.groups h.grown⟩, ?_⟩
    intro vs hvs
    dsimp only
    rcases h.firstIds hfield hvs with ⟨hnulls, hmove, -⟩ | ⟨⟨v, hv, hnull⟩, hanswer, place, hone⟩
    · rw [hmove]
      exact ⟨⟨rfl, hnulls, rfl⟩, fun _ => rfl⟩
    · rw [hanswer]
      refine ⟨⟨?_, place, hone.idsAt_eq, hone.placed⟩, fun hnulls => ?_⟩
      · have hseen := hone.firstSeen
        rw [List.flatMap_append, List.flatMap_singleton] at hseen
        exact hseen
      · exact absurd ((hnulls v hv).resolve_right List.not_mem_nil) hnull
  · obtain ⟨before, vs, after, hsplit, hbefore, hgrown⟩ := h.grown
    have hsame : b.setOperand place (.list ids) = b := Builder.setOperand_eq_self h.placed
    have hself := hgrown ids
    rw [hsame] at hself
    have hgroups : b.forget.groups = (Builder.grow idField
        (others before ++ .condition (.inList idField ids) :: others after)).groups := by
      rw [hself]
    refine ⟨Builder.move?_eq h.openAsksAll ?_, ids, h.firstSeen,
      .inr ⟨h.nonempty, ⟨place, h.idsAt_eq, h.placed⟩, before, vs, after, hsplit, hbefore,
        hgroups⟩, ?_⟩
    · intro place' hplace
      rw [h.idsAt_eq] at hplace
      cases hplace
      exact ⟨_, h.placed⟩
    · intro vs hvs
      obtain ⟨hmove, hone⟩ := h.moreIds has hvs
      dsimp only
      rw [hmove] at hone ⊢
      refine ⟨⟨h.firstSeen.append (List.forall_mem_append.mpr ⟨has, hvs⟩), place,
        hone.idsAt_eq, hone.placed⟩, fun hold => ?_⟩
      rw [cleanIds_append_of_seen h.firstSeen has hold]
      exact Builder.setOperand_eq_self h.placed

/-- Two filters by identity among other calls, with a null and a repetition in
them, after all was forgotten. -/
theorem two_filters_by_identity_share_one_condition :
    let ms : List Move :=
      [.add (.ids [.int 9]), .clear, .add (.ids [.null]),
        .add (.filter "price" (.operators [(.lt, .scalar (.int 5)), (.gt, .scalar (.int 9))]) .or),
        .add (.ids [.int 3, .int 1, .int 3]),
        .add (.condition (.eq "status" (.text "active"))),
        .add (.group (.any [.eq "brand" (.text "acme")])),
        .add (.ids [.text "x", .null, .int 1])]
    let b : Builder :=
      { groups :=
          [.any [⟨"price", .lt, .scalar (.int 5)⟩, ⟨"price", .gt, .scalar (.int 9)⟩],
            .all [.inList "id" [.int 3, .int 1, .text "x"], .eq "status" (.text "active")],
            .any [.eq "brand" (.text "acme")]]
        isOpen := false
        idsAt := some (1, 0) }
    "id" ≠ "" ∧ (∀ vs, .add (.ids vs) ∈ ms → AreIds vs) ∧ Builder.run "id" ms = b ∧
      (∀ m, b.move? "id" m = some (b.move "id" m)) ∧
      FirstSeen [.null, .int 3, .int 1, .int 3, .text "x", .null, .int 1]
        [.int 3, .int 1, .text "x"] := by
  intro ms b
  have hids : ∀ vs, .add (.ids vs) ∈ ms → AreIds vs := by
    intro vs hvs
    simp only [ms, List.mem_cons, Move.add.injEq, Addition.ids.injEq, reduceCtorEq,
      List.not_mem_nil, or_false, false_or] at hvs
    rcases hvs with rfl | rfl | rfl | rfl <;> simp [AreIds, Value.IsIdentity]
  have hrun : Builder.run "id" ms = b := rfl
  obtain ⟨hplaces, ids, hseen, hplaced, -⟩ :=
    identities_share_one_condition (show "id" ≠ "" by decide) hids
  refine ⟨by decide, hids, hrun, hplaces, ?_⟩
  rcases hplaced with ⟨-, hnone, -⟩ | ⟨-, ⟨place, hplace, hcondition⟩, -⟩
  · cases hnone
  · cases hplace
    cases hcondition
    exact hseen

end EntityStore.Filter
