-- Deletions by groups. What a deletion takes away is what a search for the same
-- groups shows, although the two ask for it in different ways. Groups without any
-- condition take away nothing.
import EntityStore.Proofs.Store.Answering
import EntityStore.Proofs.Store.Writing

namespace EntityStore

/-- The entries that do not pass a test leave as many as pass it. -/
theorem length_sub_length_filter {α : Type} (passes : α → Bool) (xs : List α) :
    xs.length - (xs.filter fun x => !passes x).length = (xs.filter passes).length := by
  have hsum := List.length_eq_length_filter_add (l := xs) passes
  omega

/-- For these groups a search shows the entries that pass a test, and a deletion
takes them away and counts them. It is refused where no group has a condition.
Which entries a state has is said by `has`. -/
structure Store.DeletesShown {σ α : Type} (st : Store σ) (gs : List Filter.Group) (page : Page)
    (row : α → Fields Json) (has : List α → σ → Prop) (entries : List α) (passes : α → Bool)
    (s : σ) : Prop where
  search : ∃ out next, (st.search (.ofPage gs [] [] page)).on s = (.ok out, next) ∧
    out.rows = (entries.filter passes).map row ∧ has entries next
  delete : (∃ g ∈ gs, g.isEmpty = false) → ∃ next,
    (st.delete gs).on s = (.ok (entries.filter passes).length, next) ∧
      has (entries.filter fun x => !passes x) next
  refuse : (∀ g ∈ gs, g.isEmpty = true) → ∃ next,
    (st.delete gs).on s = (.error (.noFilter st.entity.name), next) ∧ has entries next

/-! ## Tables -/

namespace Relational

open Call (Ends Leads)

variable {calm : Prop} {entity : Entity} {settings : Settings} {t : Tables.Table}
  {columns : Columns} {ts : Tables} {gs : List Filter.Group}

/-- The entity's table has these rows, and the other tables are as they were. -/
def HasRows (entity : Entity) (t : Tables.Table) (ts : Tables) (rows : List Row)
    (s : State Tables.Engine) : Prop :=
  ∀ name, s.timed.state.tables.find name =
    if name = entity.storage then .ok { t with rows := rows } else ts.find name

theorem Holds.hasRows {s : State Tables.Engine} (h : Holds calm entity t columns ts s) :
    HasRows entity t ts t.rows s := by
  intro name
  rw [h.tables]
  split
  · rename_i hname
    rw [hname, h.find]
  · rfl

theorem hasRows_of_store {s : State Tables.Engine} {rows : List Row}
    (h : s.timed.state.tables = Tables.Engine.store ts entity.storage { t with rows := rows }) :
    HasRows entity t ts rows s := by
  intro name
  rw [h, Tables.Engine.store, Tables.find, Fields.get?_insert]
  by_cases hname : name = entity.storage
  · rw [if_pos hname, if_pos hname]
  · rw [if_neg hname, if_neg hname]
    rfl

/-- A deletion takes away the rows that pass the predicate of its groups. -/
theorem leads_delete {p : Sql.Predicate}
    (hgroups : ((inMemory entity settings).scope columns).groups gs = .ok (some p)) :
    Leads (Holds calm entity t columns ts) ((inMemory entity settings).delete gs)
      (fun n s => n = (t.rows.filter p.holds).length ∧
        HasRows entity t ts (t.rows.filter fun row => !p.holds row) s)
      (fun _ => ¬ calm) := by
  let d : Sql.Delete := { table := entity.storage, predicate := p }
  have hstatement : ((inMemory entity settings).scope columns).delete gs = .ok d :=
    bind_eq_ok_iff.mpr ⟨some p, hgroups, rfl⟩
  have hrun : Leads (Holds calm entity t columns ts) ((inMemory entity settings).run (.delete d))
      (fun out s => out.count = (t.rows.filter p.holds).length ∧
        HasRows entity t ts (t.rows.filter fun row => !p.holds row) s)
      (fun _ => ¬ calm) := by
    intro s hs
    have happly : Tables.Engine.apply ts (.delete d) =
        .ok (.affected (Tables.delete t d).1,
          Tables.Engine.store ts entity.storage (Tables.delete t d).2) :=
      bind_eq_ok_iff.mpr ⟨t, hs.find, rfl⟩
    refine (leads_run (.delete d)).weaken ?_ ?_ s hs
    · rintro out next ⟨after, hafter, hstands, -⟩
      obtain ⟨rfl, rfl⟩ := Prod.mk.inj (Except.ok.inj (hafter.symm.trans happly))
      exact ⟨length_sub_length_filter p.holds t.rows, hasRows_of_store hstands.tables⟩
    · rintro next ⟨-, hfails⟩ hcalm
      obtain ⟨f, hf⟩ := hfails hcalm
      cases hf.symm.trans happly
  refine (leads_columns.weakenError fun _ h => h.elim).andThen ?_
  rw [hstatement]
  exact hrun.bind fun out => Call.leads_pure fun _ h => h

/-- A deletion is refused where its groups ask for nothing. -/
theorem ends_delete_of_none
    (hgroups : ((inMemory entity settings).scope columns).groups gs = .ok none) :
    Ends (Holds calm entity t columns ts) ((inMemory entity settings).delete gs)
      (fun _ _ => False)
      (fun e s => e = .noFilter entity.name ∧ Holds calm entity t columns ts s) := by
  have hstatement : ((inMemory entity settings).scope columns).delete gs =
      .error (.noFilter entity.name) :=
    bind_eq_error_iff.mpr (.inr ⟨none, hgroups, rfl⟩)
  have hcolumns : Ends (Holds calm entity t columns ts) (inMemory entity settings).columns _ _ :=
    leads_columns
  refine Ends.andThen (hcolumns.weaken (fun _ _ h => h) fun _ _ h => h.elim) ?_
  rw [hstatement]
  exact fun s hs => ⟨rfl, hs⟩

/-- Over tables a deletion takes away what a search shows. -/
theorem deletesShown {s : State Tables.Engine} (hs : Holds True entity t columns ts s)
    (hcompile : ((inMemory entity settings).scope columns).Compile gs) (number : Nat) :
    ∃ passes : Row → Bool,
      (∀ row, passes row = true ↔
        ∀ g ∈ gs, ((inMemory entity settings).scope columns).GroupHolds row g) ∧
      (inMemory entity settings).store.DeletesShown gs ⟨number, none⟩
        (fun row => (Tables.bareColumns row).toJson) (HasRows entity t ts) t.rows passes s := by
  obtain ⟨p, hgroups, hnone, hpasses⟩ := Plan.Scope.groups_eq_ok hcompile
  refine ⟨Sql.passes p, hpasses, ?_, fun hfilled => ?_, fun hempty => ?_⟩
  · obtain ⟨out, next, hon, hrows, hnext⟩ :=
      (leads_ofGroups hgroups number).exists_ok hs fun _ h => h trivial
    exact ⟨out, next, hon, hrows, hnext.hasRows⟩
  · cases p with
    | none =>
      obtain ⟨g, hg, hfilled⟩ := hfilled
      cases hfilled.symm.trans (hnone.mp rfl g hg)
    | some p =>
      obtain ⟨_, next, hon, rfl, hnext⟩ := (leads_delete hgroups).exists_ok hs fun _ h => h trivial
      exact ⟨next, hon, hnext⟩
  · obtain rfl := hnone.mpr hempty
    cases hon : ((inMemory entity settings).delete gs).on s with
    | mk r next =>
      cases r with
      | ok _ => exact ((ends_delete_of_none hgroups).of_ok hs hon).elim
      | error e =>
        obtain ⟨rfl, hnext⟩ := (ends_delete_of_none hgroups).of_error hs hon
        exact ⟨next, hon, hnext.hasRows⟩

end Relational

/-! ## Indices -/

/-- Without sorts the rows of a request are those of the documents that pass, in
their places. -/
theorem Indices.rows_of_unsorted {q : Request} (hcollapse : q.collapse = none)
    (hshown : q.shown = none) (hsorts : q.sorts = []) (hafter : q.after = none)
    (idField name : String) (ix : Index) :
    q.rows idField name ix =
      (ix.documents.filter fun d => passes q.query q.postFilter d.source).map
        (Document.shown idField q.query) := by
  have hranks : (ix.documents.filter fun d => passes q.query q.postFilter d.source).Pairwise
      fun a b => (orderHits q.sorts (q.hit a).keys (q.hit b).keys).isLE = true :=
    List.pairwise_of_forall fun _ _ => by rw [hsorts]; rfl
  have hmatching : q.matching ix = ix.documents.filter fun d =>
      passes q.query q.postFilter d.source := List.mergeSort_of_pairwise hranks
  have hall : ((q.matching ix).filter fun d => q.isAfter (q.hit d)) = q.matching ix :=
    List.filter_eq_self.mpr fun d _ => by rw [Request.isAfter, hafter]; rfl
  have hrows : (q.part q.offset q.limit q.after).rows idField name ix = _ :=
    rows_part hcollapse hshown idField name
  have hpart : q.part q.offset q.limit q.after = q := rfl
  rw [hpart] at hrows
  rw [hrows, ← hmatching]
  exact congrArg _ hall

namespace Documents

variable {entity : Entity} {settings : Settings} {engine : Indices.Engine} {ix : Indices.Index}
  {gs : List Filter.Group}

/-- The entity's index has these documents, and the other indices are as they
were. -/
def HasDocuments (entity : Entity) (ix : Indices.Index) (indices : Fields Indices.Index)
    (documents : List Indices.Document) (e : Indices.Engine) : Prop :=
  ∀ name, e.index? name =
    if name = entity.storage then some { ix with documents := documents } else indices.get? name

theorem hasDocuments_of_indices {e : Indices.Engine} (hix : engine.find entity.storage = .ok ix)
    (h : e.indices = engine.indices) :
    HasDocuments entity ix engine.indices ix.documents e := by
  intro name
  have hindex : engine.indices.get? entity.storage = some ix := by
    unfold Indices.Engine.find at hix
    split at hix
    · rename_i found hfound
      cases hix
      exact hfound
    · cases hix
  rw [Indices.Engine.index?, h]
  split
  · rename_i hname
    rw [hname, hindex]
  · rfl

/-- The query of a deletion is read from its document. -/
theorem deletion_eq (q : Search.Query) :
    Indices.Engine.deletion (Search.single "query" q.toJson) = .ok q.asRead := by
  have hread : Indices.clause? (some q.toJson) = .ok (some q.asRead) :=
    Indices.clause?_toJson (some q)
  exact bind_eq_ok_iff.mpr ⟨some q.asRead, hread, rfl⟩

/-- The documents that pass some groups. -/
def Passing (entity : Entity) (gs : List Filter.Group) (passes : Indices.Document → Bool) : Prop :=
  ∀ d, passes d = true ↔ ∀ g ∈ gs, g.isEmpty = false → Search.GroupHolds entity g d.source

/-- A deletion takes away the documents that the query of its groups finds. -/
theorem exists_delete {passes : Indices.Document → Bool} (hpasses : Passing entity gs passes)
    (hix : engine.find entity.storage = .ok ix) {q : Search.Query}
    (hgroups : Search.groups entity false gs = .ok (some q)) :
    ∃ next, ((inMemory entity settings).delete gs).on engine =
        (.ok (ix.documents.filter passes).length, next) ∧
      HasDocuments entity ix engine.indices (ix.documents.filter fun d => !passes d) next := by
  have hfinds : ∀ d : Indices.Document, Indices.finds q.asRead d.source = passes d := by
    intro d
    rw [Bool.eq_iff_iff, hpasses]
    exact Search.finds_asRead_of_groups_iff hgroups
  have hkept : (ix.documents.filter fun d => !Indices.finds q.asRead d.source) =
      ix.documents.filter fun d => !passes d :=
    List.filter_congr fun d _ => congrArg (!·) (hfinds d)
  have hcall : (inMemory entity settings).database.deleteBy entity.storage
      (Search.single "query" q.toJson) engine =
      (.ok (ix.documents.filter passes).length, engine.store entity.storage
        { ix with documents := ix.documents.filter fun d => !passes d }) := by
    show Indices.Engine.deleteBy _ _ _ = _
    rw [Indices.Engine.deleteBy, deletion_eq, hix]
    dsimp only
    rw [hkept, length_sub_length_filter]
  have hlift : (Call.lift (Search.groups entity false gs)).on engine = (.ok (some q), engine) := by
    rw [Call.on_lift, hgroups]
  refine ⟨engine.store entity.storage
    { ix with documents := ix.documents.filter fun d => !passes d },
    (Call.on_bind hlift).trans ?_, ?_⟩
  · show (call ((inMemory entity settings).database.deleteBy entity.storage _)).on engine = _
    rw [call, Call.on, Call.mk, hcall]
  · intro name
    rw [Indices.Engine.index?, Indices.Engine.store, Fields.get?_insert]

theorem delete_of_none (hgroups : Search.groups entity false gs = .ok none) :
    ((inMemory entity settings).delete gs).on engine =
      (.error (.noFilter entity.name), engine) := by
  have hlift : (Call.lift (Search.groups entity false gs)).on engine = (.ok none, engine) := by
    rw [Call.on_lift, hgroups]
  exact Call.on_bind hlift

/-- A plan to search for all documents that pass some groups. -/
theorem plan_ofGroups (hcompile : Search.Compile gs) (number : Nat) :
    Search.plan entity settings (.ofPage gs [] [] ⟨number, none⟩) = .ok {
      request := {
        index := entity.storage
        query := (Search.junctionOf entity true [] gs).query
        size := settings.maxWindow }
      layouts := []
      distinctWrapped := none } := by
  have hsize : Search.pageSize settings ⟨number, none⟩ = settings.maxWindow := Nat.min_self _
  have hplan : Search.plan entity settings (.ofPage gs [] [] ⟨number, none⟩) = do
      let ps ← Search.partitions entity gs
      return {
        request := {
          index := entity.storage
          query := ({ Search.junction entity true ps with must := [] } : Search.Junction).query
          size := Search.pageSize settings ⟨number, none⟩ }
        layouts := []
        distinctWrapped := none } := rfl
  rw [hplan, hsize, Search.partitions_eq_ok hcompile]
  rfl

/-- A search for all documents that pass some groups shows them in their places. -/
theorem exists_search_ofGroups {passes : Indices.Document → Bool}
    (hpasses : Passing entity gs passes) (hfaults : engine.faults = [])
    (hix : engine.find entity.storage = .ok ix)
    (hreach : ix.documents.length ≤ settings.maxWindow) (hcompile : Search.Compile gs)
    (number : Nat) : ∃ out next,
      ((inMemory entity settings).search (.ofPage gs [] [] ⟨number, none⟩)).on engine =
        (.ok out, next) ∧
      out.rows = (ix.documents.filter passes).map (Indices.Document.shown entity.idField
        (Search.junctionOf entity true [] gs).query.asRead) ∧
      next.indices = engine.indices := by
  let c : Criteria := .ofPage gs [] [] ⟨number, none⟩
  have hplan : Search.plan entity settings c = .ok _ := plan_ofGroups hcompile number
  obtain ⟨out, hout, hrows⟩ :=
    exists_search (c := c) ⟨List.nodup_nil, nofun⟩ nofun hfaults hix hplan
  have hpassed : ∀ d ∈ ix.documents, Indices.passes
      (Search.junctionOf entity true [] gs).query.asRead none d.source = passes d := by
    intro d _
    have hpost : Search.groups entity false c.postFilters = .ok none := rfl
    have hmatches : Indices.passes (Search.mainQuery entity c).asRead none d.source = true ↔
        Search.Matches entity c d.source := Search.passes_asRead_iff hcompile hpost
    rw [Bool.eq_iff_iff, hpasses]
    exact hmatches.trans ⟨fun h => h.filters, fun h => ⟨h, nofun, nofun⟩⟩
  have hreached : ((ix.documents.filter passes).map (Indices.Document.shown entity.idField
      (Search.junctionOf entity true [] gs).query.asRead)).length ≤ settings.maxWindow := by
    rw [List.length_map]
    exact Nat.le_trans (List.length_filter_le _ _) hreach
  have hshown : out.rows = ((ix.documents.filter passes).map (Indices.Document.shown
      entity.idField (Search.junctionOf entity true [] gs).query.asRead)).take
        settings.maxWindow := by
    rw [← List.filter_congr hpassed]
    exact hrows.trans (congrArg (fun rows => (rows.drop 0).take settings.maxWindow)
      (Indices.rows_of_unsorted rfl rfl rfl rfl entity.idField entity.storage ix))
  have hkeeps : ((inMemory entity settings).search c).Keeps fun e => e.indices = engine.indices :=
    keeps_search c
  rw [List.take_of_length_le hreached] at hshown
  cases hon : ((inMemory entity settings).search c).on engine with
  | mk r next =>
    rw [hon] at hout
    obtain rfl : r = .ok out := hout
    exact ⟨out, next, rfl, hshown, hkeeps.of_ok rfl hon⟩

theorem deletesShown (hfaults : engine.faults = []) (hix : engine.find entity.storage = .ok ix)
    (hreach : ix.documents.length ≤ settings.maxWindow) (hcompile : Search.Compile gs)
    (number : Nat) :
    ∃ passes : Indices.Document → Bool, Passing entity gs passes ∧
      (inMemory entity settings).store.DeletesShown gs ⟨number, none⟩
        (Indices.Document.shown entity.idField (Search.junctionOf entity true [] gs).query.asRead)
        (HasDocuments entity ix engine.indices) ix.documents passes engine := by
  have hgroups : Search.groups entity false gs = .ok (postQuery entity gs) :=
    groups_eq_postQuery hcompile
  have hpasses : Passing entity gs fun d =>
      (postQuery entity gs).all fun q => Indices.finds q.asRead d.source :=
    fun d => Search.finds_asRead_of_groups_iff hgroups
  have hempty : (Search.junctionOf entity false [] gs).isEmpty = true ↔ _ :=
    Search.junctionOf_isEmpty_iff entity false
  refine ⟨_, hpasses, ?_, fun ⟨g, hg, hfilled⟩ => ?_, fun hall => ?_⟩
  · obtain ⟨out, next, hon, hrows, hnext⟩ :=
      exists_search_ofGroups hpasses hfaults hix hreach hcompile number
    exact ⟨out, next, hon, hrows, hasDocuments_of_indices hix hnext⟩
  · have hquery : postQuery entity gs = some (Search.junctionOf entity false [] gs).query :=
      if_neg fun hnone => by cases hfilled.symm.trans (hempty.mp hnone g hg)
    exact exists_delete hpasses hix (hgroups.trans (congrArg _ hquery))
  · have hquery : postQuery entity gs = none := if_pos (hempty.mpr hall)
    exact ⟨engine, delete_of_none (hgroups.trans (congrArg _ hquery)),
      hasDocuments_of_indices hix rfl⟩

end Documents

/-- A deletion by groups takes away the records that a search for the groups shows,
all on one page, and gives their number. The other records stay as they are and in
their places. Groups without any condition are refused, and nothing is taken away. -/
theorem a_deletion_takes_away_what_a_search_shows (entity : Entity) (settings : Settings)
    (gs : List Filter.Group) (number : Nat) :
    (∀ (s : Relational.State Tables.Engine) (t : Tables.Table),
      s.timed.state.faults = [] → s.timed.state.tables.find entity.storage = .ok t →
      let scope := (Relational.inMemory entity settings).scope (Relational.knownColumns entity t s)
      scope.Compile gs →
      ∃ passes : Row → Bool, (∀ row, passes row = true ↔ ∀ g ∈ gs, scope.GroupHolds row g) ∧
        (Relational.inMemory entity settings).store.DeletesShown gs ⟨number, none⟩
          (fun row => (Tables.bareColumns row).toJson)
          (Relational.HasRows entity t s.timed.state.tables) t.rows passes s) ∧
    (∀ (engine : Indices.Engine) (ix : Indices.Index),
      engine.faults = [] → engine.find entity.storage = .ok ix →
      ix.documents.length ≤ settings.maxWindow → Search.Compile gs →
      ∃ passes : Indices.Document → Bool,
        (∀ d, passes d = true ↔
          ∀ g ∈ gs, g.isEmpty = false → Search.GroupHolds entity g d.source) ∧
        (Documents.inMemory entity settings).store.DeletesShown gs ⟨number, none⟩
          (Indices.Document.shown entity.idField
            (Search.junctionOf entity true [] gs).query.asRead)
          (Documents.HasDocuments entity ix engine.indices) ix.documents passes engine) := by
  constructor
  · intro s t hfaults hfind scope hcompile
    exact Relational.deletesShown ⟨⟨rfl, fun _ => hfaults⟩, hfind, rfl⟩ hcompile number
  · intro engine ix hfaults hix hreach hcompile
    exact Documents.deletesShown hfaults hix hreach hcompile number

/-- Of three products the one that is called Oak and the one without a name are
shown and deleted, and Ash stays. -/
theorem the_oak_and_the_nameless_product_are_deleted :
    let entity : Entity := { name := "product", storage := "products" }
    let gs : List Filter.Group :=
      [.all [], .any [.eq "name" (.text "Oak"), ⟨"name", .notExists, .absent⟩]]
    let oak : Row := [("id", .int 1), ("name", .text "Oak")]
    let ash : Row := [("id", .int 2), ("name", .text "Ash")]
    let nameless : Row := [("id", .int 3), ("name", .null)]
    let t : Tables.Table := {
      shape := .make "products" "id" [("name", .text)] []
      rows := [oak, ash, nameless] }
    let s : Relational.State Tables.Engine := .initial {} { tables := [("products", t)] }
    let oakDocument : Indices.Document := ⟨"1", .obj [("id", .int 1), ("name", .str "Oak")]⟩
    let ashDocument : Indices.Document := ⟨"2", .obj [("id", .int 2), ("name", .str "Ash")]⟩
    let namelessDocument : Indices.Document := ⟨"3", .obj [("id", .int 3)]⟩
    let ix : Indices.Index := { documents := [oakDocument, ashDocument, namelessDocument] }
    let engine : Indices.Engine := { indices := [("products", ix)] }
    (∃ next, (((Relational.inMemory entity {}).delete gs).on s) = (.ok 2, next) ∧
      Relational.HasRows entity t s.timed.state.tables [ash] next) ∧
    ∃ next, (((Documents.inMemory entity {}).delete gs).on engine) = (.ok 2, next) ∧
      Documents.HasDocuments entity ix engine.indices [ashDocument] next := by
  intro entity gs oak ash nameless t s oakDocument ashDocument namelessDocument ix engine
  have hfilled : ∃ g ∈ gs, g.isEmpty = false := ⟨_, List.mem_of_getElem? (i := 1) rfl, rfl⟩
  obtain ⟨htables, hindices⟩ := a_deletion_takes_away_what_a_search_shows entity {} gs 1
  constructor
  · let scope := (Relational.inMemory entity {}).scope (Relational.knownColumns entity t s)
    let p : Sql.Predicate := .any [.eq (.plain "name") (.text "Oak"), .isNull (.plain "name")]
    have hgroups : scope.groups gs = .ok (some p) := rfl
    have hcompile := Plan.Scope.compile_of_groups hgroups
    obtain ⟨found, hfound, -, hmeans⟩ := Plan.Scope.groups_eq_ok hcompile
    obtain rfl := Except.ok.inj (hfound.symm.trans hgroups)
    obtain ⟨passes, hpasses, hshown⟩ := htables s t rfl rfl hcompile
    have hsame : passes = p.holds := funext fun row =>
      Bool.eq_iff_iff.mpr ((hpasses row).trans (hmeans row).symm)
    have hfiltered : t.rows.filter passes = [oak, nameless] := by
      rw [hsame]
      cbv
    have hkept : (t.rows.filter fun row => !passes row) = [ash] := by
      rw [hsame]
      cbv
    have hdelete := hshown.delete hfilled
    rw [hfiltered, hkept] at hdelete
    exact hdelete
  · let q : Search.Query := (Search.junctionOf entity false [] gs).query
    have hgroups : Search.groups entity false gs = .ok (some q) := rfl
    have hcompile := Search.compile_of_groups hgroups
    obtain ⟨passes, hpasses, hshown⟩ := hindices engine ix rfl rfl (by decide) hcompile
    have hsame : ∀ d, passes d = Indices.finds q.asRead d.source := fun d => by
      rw [Bool.eq_iff_iff, hpasses, ← Search.finds_asRead_of_groups_iff hgroups, Option.all_some]
    have hoak : Indices.finds q.asRead oakDocument.source = true := by decide +kernel
    have hash : Indices.finds q.asRead ashDocument.source = false := by decide +kernel
    have hnameless : Indices.finds q.asRead namelessDocument.source = true := by decide +kernel
    have hfiltered : ix.documents.filter passes = [oakDocument, namelessDocument] := by
      simp only [hsame, ix, List.filter, hoak, hash, hnameless]
    have hkept : (ix.documents.filter fun d => !passes d) = [ashDocument] := by
      simp only [hsame, ix, List.filter, hoak, hash, hnameless, Bool.not_true, Bool.not_false]
    have hdelete := hshown.delete hfilled
    rw [hfiltered, hkept] at hdelete
    exact hdelete

end EntityStore
