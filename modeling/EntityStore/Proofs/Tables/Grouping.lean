-- Rows grouped by a column, and queries that ask for fewer rows. Where the values
-- of a column are of one kind each of them has one group, which holds the rows
-- that have the value. A query that can be answered can be answered for fewer rows.
import EntityStore.Proofs.Tables.Pages
import EntityStore.Proofs.Value.Kinds

namespace EntityStore.Tables

open Sql (Column Item Predicate Query passes)

variable {ts : Tables} {q : Query} {rows out : List Row}

/-! ## Fewer rows -/

theorem sourceRows_of_alone (hjoins : q.joins = []) :
    sourceRows ts q = (ts.find q.table).map fun t => t.rows.filter (passes q.predicate) := by
  unfold sourceRows
  rw [hjoins]
  cases ts.find q.table with
  | error f => rfl
  | ok t =>
    cases q.predicate with
    | none => exact congrArg Except.ok (List.filter_eq_self.mpr fun _ _ => rfl).symm
    | some p => rfl

/-- Whether an item can be put out does not depend on the rows. -/
theorem exists_groupColumns {item : Item} {columns : List (String × Value)}
    (h : groupColumns q rows item = .ok columns) (others : List Row) :
    ∃ columns', groupColumns q others item = .ok columns' := by
  cases item with
  | aggregate a label => exact ⟨_, rfl⟩
  | column c label => exact ⟨_, rfl⟩
  | raw expression =>
    obtain ⟨e, he, -⟩ := bind_eq_ok_iff.mp h
    exact ⟨_, bind_eq_ok_iff.mpr ⟨e, he, rfl⟩⟩

theorem exists_groupRow {row : Row} (h : groupRow q rows = .ok row) (others : List Row) :
    ∃ row', groupRow q others = .ok row' := by
  unfold groupRow at h ⊢
  split at h
  · rename_i hitems
    rw [if_pos hitems]
    exact ⟨_, rfl⟩
  · rename_i hitems
    rw [if_neg hitems]
    obtain ⟨columns, hcolumns, -⟩ := bind_eq_ok_iff.mp h
    obtain ⟨columns', hcolumns'⟩ := exists_mapM fun item hitem =>
      have ⟨_, hitem⟩ := exists_of_mapM hcolumns item hitem
      exists_groupColumns hitem others
    exact ⟨_, bind_eq_ok_iff.mpr ⟨columns', hcolumns', rfl⟩⟩

/-! ## Groups -/

section

variable {key : Row → List Value} {sort : List Value → Prop} {row : Row}
  {gs : List (List Value × List Row)} {g : List Value × List Row}

/-- Keys of a sort are equal when they are the same. -/
def TellsApart (sort : List Value → Prop) : Prop :=
  ∀ vs ws, sort vs → sort ws → ((Value.orderLists vs ws).isEq = true ↔ vs = ws)

/-- A row has a key. -/
def hasKey (key : Row → List Value) (vs : List Value) (row : Row) : Bool :=
  (Value.orderLists vs (key row)).isEq

/-- Rows are in groups by their keys: each key has one group, which holds the rows
that have the key. -/
structure Grouped (key : Row → List Value) (rows : List Row) (gs : List (List Value × List Row)) :
    Prop where
  distinct : gs.Pairwise fun g h => g.1 ≠ h.1
  held : ∀ g ∈ gs, g.2 = rows.filter (hasKey key g.1)
  filled : ∀ g ∈ gs, ∃ row ∈ rows, key row = g.1
  covers : ∀ row ∈ rows, ∃ g ∈ gs, g.1 = key row

theorem mem_addToGroup_iff (hsort : TellsApart sort) {vs : List Value} (hvs : sort vs)
    (hgs : ∀ g ∈ gs, sort g.1) (hdistinct : gs.Pairwise fun g h => g.1 ≠ h.1) :
    g ∈ addToGroup vs row gs ↔ g ∈ gs ∧ g.1 ≠ vs ∨
      (∃ h ∈ gs, h.1 = vs ∧ g = (vs, h.2 ++ [row])) ∨ (∀ h ∈ gs, h.1 ≠ vs) ∧ g = (vs, [row]) := by
  induction gs with
  | nil => simp [addToGroup]
  | cons h rest ih =>
    obtain ⟨ws, held⟩ := h
    obtain ⟨hws, hrest⟩ := List.forall_mem_cons.mp hgs
    obtain ⟨hne, hdistinct⟩ := List.pairwise_cons.mp hdistinct
    rw [addToGroup]
    by_cases heq : ws = vs
    · subst heq
      rw [if_pos ((hsort ws ws hws hws).mpr rfl), List.mem_cons]
      constructor
      · rintro (rfl | hg)
        · exact .inr (.inl ⟨_, List.mem_cons_self, rfl, rfl⟩)
        · exact .inl ⟨List.mem_cons_of_mem _ hg, (hne g hg).symm⟩
      · rintro (⟨hg, hgne⟩ | ⟨h, hh, hkey, rfl⟩ | ⟨hnone, -⟩)
        · exact .inr ((List.mem_cons.mp hg).resolve_left fun h => hgne (h ▸ rfl))
        · rcases List.mem_cons.mp hh with rfl | hh
          · exact .inl rfl
          · exact absurd hkey.symm (hne h hh)
        · exact absurd rfl (hnone _ List.mem_cons_self)
    · rw [if_neg fun h => heq ((hsort ws vs hws hvs).mp h)]
      simp only [List.mem_cons, ih hrest hdistinct]
      constructor
      · rintro (rfl | ⟨hg, hgne⟩ | ⟨h, hh, hkey, rfl⟩ | ⟨hnone, rfl⟩)
        · exact .inl ⟨.inl rfl, heq⟩
        · exact .inl ⟨.inr hg, hgne⟩
        · exact .inr (.inl ⟨h, .inr hh, hkey, rfl⟩)
        · exact .inr (.inr ⟨fun h hh => hh.elim (· ▸ heq) (hnone h), rfl⟩)
      · rintro (⟨rfl | hg, hgne⟩ | ⟨h, rfl | hh, hkey, rfl⟩ | ⟨hnone, rfl⟩)
        · exact .inl rfl
        · exact .inr (.inl ⟨hg, hgne⟩)
        · exact absurd hkey heq
        · exact .inr (.inr (.inl ⟨h, hh, hkey, rfl⟩))
        · exact .inr (.inr (.inr ⟨fun h hh => hnone h (.inr hh), rfl⟩))

theorem distinct_addToGroup (hsort : TellsApart sort) {vs : List Value} (hvs : sort vs)
    (hgs : ∀ g ∈ gs, sort g.1) (hdistinct : gs.Pairwise fun g h => g.1 ≠ h.1) :
    (addToGroup vs row gs).Pairwise fun g h => g.1 ≠ h.1 := by
  induction gs with
  | nil => exact List.pairwise_singleton _ _
  | cons h rest ih =>
    obtain ⟨ws, held⟩ := h
    obtain ⟨hws, hrest⟩ := List.forall_mem_cons.mp hgs
    obtain ⟨hne, hdistinct⟩ := List.pairwise_cons.mp hdistinct
    rw [addToGroup]
    split
    · exact List.pairwise_cons.mpr ⟨hne, hdistinct⟩
    · rename_i hother
      refine List.pairwise_cons.mpr ⟨fun g hg => ?_, ih hrest hdistinct⟩
      rcases (mem_addToGroup_iff hsort hvs hrest hdistinct).mp hg with ⟨hg, -⟩ | ⟨-, -, -, rfl⟩ |
        ⟨-, rfl⟩
      · exact hne g hg
      · exact fun heq => hother ((hsort ws vs hws hvs).mpr heq)
      · exact fun heq => hother ((hsort ws vs hws hvs).mpr heq)

theorem Grouped.add (hsort : TellsApart sort) (hrows : ∀ row ∈ rows, sort (key row))
    (hrow : sort (key row)) (h : Grouped key rows gs) :
    Grouped key (rows ++ [row]) (addToGroup (key row) row gs) := by
  have hgs : ∀ g ∈ gs, sort g.1 := fun g hg =>
    have ⟨other, hother, heq⟩ := h.filled g hg
    heq ▸ hrows other hother
  have hmem : ∀ g, g ∈ addToGroup (key row) row gs ↔ _ :=
    fun g => mem_addToGroup_iff hsort hrow hgs h.distinct
  have hself : hasKey key (key row) row = true := (hsort _ _ hrow hrow).mpr rfl
  refine ⟨distinct_addToGroup hsort hrow hgs h.distinct, fun g hg => ?_, fun g hg => ?_,
    fun other hother => ?_⟩
  · rw [List.filter_append]
    rcases (hmem g).mp hg with ⟨hg, hne⟩ | ⟨h', hh', heq, rfl⟩ | ⟨hnone, rfl⟩
    · have hother : ¬ hasKey key g.1 row = true :=
        fun heq => hne ((hsort _ _ (hgs g hg) hrow).mp heq)
      rw [List.filter_cons_of_neg hother, List.filter_nil, List.append_nil]
      exact h.held g hg
    · show h'.2 ++ [row] = _
      rw [List.filter_cons_of_pos hself, List.filter_nil, h.held h' hh', heq]
    · have hbefore : rows.filter (hasKey key (key row)) = [] := by
        refine List.filter_eq_nil_iff.mpr fun other hother heq => ?_
        obtain ⟨g, hg, hkey⟩ := h.covers other hother
        exact hnone g hg (hkey.trans ((hsort _ _ hrow (hrows other hother)).mp heq).symm)
      show [row] = _
      rw [List.filter_cons_of_pos hself, List.filter_nil, hbefore, List.nil_append]
  · rcases (hmem g).mp hg with ⟨hg, -⟩ | ⟨-, -, -, rfl⟩ | ⟨-, rfl⟩
    · obtain ⟨other, hother, heq⟩ := h.filled g hg
      exact ⟨other, List.mem_append_left _ hother, heq⟩
    · exact ⟨row, List.mem_append_right _ List.mem_cons_self, rfl⟩
    · exact ⟨row, List.mem_append_right _ List.mem_cons_self, rfl⟩
  · have hown : ∃ g ∈ addToGroup (key row) row gs, g.1 = key row := by
      by_cases hthere : ∃ g ∈ gs, g.1 = key row
      · obtain ⟨g, hg, heq⟩ := hthere
        exact ⟨_, (hmem _).mpr (.inr (.inl ⟨g, hg, heq, rfl⟩)), rfl⟩
      · exact ⟨_, (hmem _).mpr (.inr (.inr ⟨fun g hg heq => hthere ⟨g, hg, heq⟩, rfl⟩)), rfl⟩
    rcases List.mem_append.mp hother with hother | hother
    · obtain ⟨g, hg, heq⟩ := h.covers other hother
      by_cases hsame : g.1 = key row
      · obtain ⟨g', hg', heq'⟩ := hown
        exact ⟨g', hg', heq'.trans (hsame.symm.trans heq)⟩
      · exact ⟨g, (hmem g).mpr (.inl ⟨hg, hsame⟩), heq⟩
    · obtain rfl := List.mem_singleton.mp hother
      exact hown

/-- What rows are grouped into are the groups of their keys. -/
theorem grouped_foldl (hsort : TellsApart sort) (hrows : ∀ row ∈ rows, sort (key row)) :
    Grouped key rows (rows.foldl (fun gs row => addToGroup (key row) row gs) []) := by
  have hnone : Grouped key [] [] := ⟨.nil, nofun, nofun, nofun⟩
  have hfold : ∀ behind before gs, (∀ row ∈ before ++ behind, sort (key row)) →
      Grouped key before gs → Grouped key (before ++ behind)
        (behind.foldl (fun gs row => addToGroup (key row) row gs) gs) := by
    intro behind
    induction behind with
    | nil => intro before gs _ h; rwa [List.append_nil]
    | cons row behind ih =>
      intro before gs hsorts h
      rw [List.append_cons] at hsorts ⊢
      have hbefore := List.forall_mem_append.mp (List.forall_mem_append.mp hsorts).1
      exact ih _ _ hsorts (h.add hsort hbefore.1 (hbefore.2 row List.mem_cons_self))
  exact hfold rows [] [] hrows hnone

end

theorem addToGroup_ne_nil (vs : List Value) (row : Row) (gs : List (List Value × List Row)) :
    addToGroup vs row gs ≠ [] := by
  cases gs with
  | nil => exact List.cons_ne_nil _ _
  | cons g rest =>
    rw [addToGroup]
    split <;> exact List.cons_ne_nil _ _

theorem groups_ne_nil (q : Query) (h : rows ≠ []) : groups q rows ≠ [] := by
  have hfold : ∀ (behind : List Row) gs, gs ≠ [] → behind.foldl (fun gs row =>
      addToGroup (q.groupBy.map (·.valueOrNull row)) row gs) gs ≠ [] := by
    intro behind
    induction behind with
    | nil => exact fun _ hgs => hgs
    | cons row behind ih => exact fun gs _ => ih _ (addToGroup_ne_nil _ _ _)
  obtain ⟨row, rest, rfl⟩ := List.exists_cons_of_ne_nil h
  unfold groups
  split
  · exact List.cons_ne_nil _ _
  · exact fun hnil => hfold rest _ (addToGroup_ne_nil _ row []) (List.map_eq_nil_iff.mp hnil)

/-! ## Queries for fewer rows -/

theorem exists_outputRows {kept : List Row} (hkept : ∀ row ∈ kept, row ∈ rows)
    (h : outputRows q rows = .ok out) : ∃ out', outputRows q kept = .ok out' := by
  unfold outputRows at h ⊢
  split at h
  · rename_i hgrouped
    rw [if_pos hgrouped]
    obtain ⟨found, hfound, -⟩ := bind_eq_ok_iff.mp h
    have hgroup : ∀ g ∈ groups q kept, ∃ p : Row × Row,
        (do return (← groupRow q g, g.headD [])) = Except.ok (ε := TableFault) p := by
      intro g hg
      by_cases hempty : rows = []
      · obtain rfl : kept = [] := by
          refine List.eq_nil_iff_forall_not_mem.mpr fun row hrow => ?_
          have hnone := hkept row hrow
          rw [hempty] at hnone
          cases hnone
        rw [hempty] at hfound
        exact exists_of_mapM hfound g hg
      · obtain ⟨other, hother⟩ := List.exists_mem_of_ne_nil _ (groups_ne_nil q hempty)
        obtain ⟨_, hshown⟩ := exists_of_mapM hfound other hother
        obtain ⟨row, hrow, -⟩ := bind_eq_ok_iff.mp hshown
        obtain ⟨row', hrow'⟩ := exists_groupRow hrow g
        exact ⟨_, bind_eq_ok_iff.mpr ⟨row', hrow', rfl⟩⟩
    obtain ⟨found', hfound'⟩ := exists_mapM hgroup
    exact ⟨_, bind_eq_ok_iff.mpr ⟨found', hfound', rfl⟩⟩
  · rename_i hgrouped
    rw [if_neg hgrouped]
    refine exists_mapM fun row hrow => ?_
    obtain ⟨found, hfound⟩ := exists_of_mapM h row
      (List.mem_mergeSort.mpr (hkept row (List.mem_mergeSort.mp hrow)))
    exact ⟨found, hfound⟩

/-- A query of one table that can be answered can be answered for fewer rows. -/
theorem exists_select_of_fewer (hjoins : q.joins = []) {p : Option Predicate}
    (hp : ∀ row, passes p row = true → passes q.predicate row = true)
    (h : select ts q = .ok out) : ∃ out', select ts { q with predicate := p } = .ok out' := by
  obtain ⟨rows, hrows, h⟩ := bind_eq_ok_iff.mp h
  obtain ⟨all, hall, -⟩ := bind_eq_ok_iff.mp h
  rw [sourceRows_of_alone hjoins] at hrows
  obtain ⟨t, ht, rfl⟩ := map_eq_ok_iff.mp hrows
  have hsource : sourceRows ts { q with predicate := p } = .ok (t.rows.filter (passes p)) := by
    rw [sourceRows_of_alone (q := { q with predicate := p }) hjoins, ht]
    rfl
  obtain ⟨all', hall'⟩ := exists_outputRows (fun row (hrow : row ∈ t.rows.filter (passes p)) =>
    have ⟨hrow, hpasses⟩ := List.mem_filter.mp hrow
    List.mem_filter.mpr ⟨hrow, hp row hpasses⟩) hall
  exact ⟨_, bind_eq_ok_iff.mpr ⟨_, hsource, bind_eq_ok_iff.mpr ⟨all', hall', rfl⟩⟩⟩

/-- Without groups and without leaving out what looks alike rows are counted one
by one. -/
theorem count_of_alone (hjoins : q.joins = []) (hgroups : q.groupBy = [])
    (hdistinct : q.distinct = false) {t : Table} (ht : ts.find q.table = .ok t) :
    count ts q = .ok (t.rows.filter (passes q.predicate)).length := by
  unfold count
  rw [sourceRows_of_alone hjoins, ht, hgroups, hdistinct]
  rfl

end EntityStore.Tables
