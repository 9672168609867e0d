-- A page of an index held in memory: the documents that pass the filters, in
-- the order of the sorts.
import EntityStore.Indices.Engine
import EntityStore.Proofs.Calls
import EntityStore.Proofs.Indices.Answers
import EntityStore.Proofs.Store.Flat
import EntityStore.Store.Documents

namespace EntityStore

namespace Documents

open Search (Compile junctionOf)

variable {filters postFilters : List Filter.Group} {sorts : List SortBy} {page : Page}
  {entity : Entity} {settings : Settings}

/-- An entity whose records an engine in memory holds. -/
def inMemory (entity : Entity) (settings : Settings) : Documents Indices.Engine where
  entity := entity
  settings := settings
  database := Indices.Engine.database

/-! ## Requests -/

/-- The query of the post filters, where one of them has a condition. -/
def postQuery (e : Entity) (gs : List Filter.Group) : Option Search.Query :=
  if (junctionOf e false [] gs).isEmpty then none else some (junctionOf e false [] gs).query

theorem groups_eq_postQuery {e : Entity} {gs : List Filter.Group} (h : Compile gs) :
    Search.groups e false gs = .ok (postQuery e gs) := Search.groups_eq_ok h

theorem sorts_of_page {e : Entity} (h : e.nestedPaths = []) (sorts : List SortBy)
    (ps : List Search.Partition) :
    sorts.map (Search.sortKey e ps) =
      sorts.map fun s => { field := s.field, direction := s.direction } := by
  apply List.map_congr_left
  intro s _
  rw [Search.sortKey, Search.nestedPath?_eq_none h]

theorem plan_ofPage (hpaths : entity.nestedPaths = []) (hfilters : Compile filters)
    (hpost : Compile postFilters) :
    (inMemory entity settings).plan (.ofPage filters postFilters sorts page) = .ok {
      request := Indices.pageRequest entity.storage (junctionOf entity true [] filters).query
        (postQuery entity postFilters) sorts page.offset (Search.pageSize settings page)
      layouts := []
      distinctWrapped := none } := by
  have hplan : (inMemory entity settings).plan (.ofPage filters postFilters sorts page) = do
      let ps ← Search.partitions entity filters
      let post ← Search.groups entity false postFilters
      return {
        request := Search.page entity settings (.ofPage filters postFilters sorts page) ps {
          index := entity.storage
          query := ({ Search.junction entity true ps with must := [] } : Search.Junction).query
          postFilter := post }
        layouts := []
        distinctWrapped := none } := rfl
  rw [hplan, Search.partitions_eq_ok hfilters, groups_eq_postQuery hpost]
  have hsorts := sorts_of_page hpaths sorts
    ((filters.filter fun g => !g.isEmpty).map (Search.partitionOf entity))
  simp only [Bind.bind, Except.bind, Search.page, Criteria.ofPage, hsorts]
  rfl

/-! ## Answers -/

/-- What a search gives is read from the answer to its request. -/
theorem search_of_answer {σ : Type} {d : Documents σ} {c : Criteria} {s t : σ} {p : Search.Plan}
    {raw : Json} (hplan : d.plan c = .ok p)
    (hraw : d.database.search p.request.index p.request.toJson s = (.ok raw, t)) :
    (d.search c).on s = (p.outcome d.entity.idField raw, t) := by
  have hlift : (Call.lift (d.plan c)).on s = (.ok p, s) := by
    rw [hplan]
    rfl
  have hcall : (call (d.database.search p.request.index p.request.toJson)).on s = (.ok raw, t) := by
    rw [call, Call.on, Call.mk, hraw]
  rw [search, Call.on_bind hlift, Call.on_bind hcall, Call.on_lift]

/-- An engine without faults answers a request that it can read. -/
theorem engine_search {e : Indices.Engine} {name : String} {ix : Indices.Index} {body raw : Json}
    {r : Indices.Request} (hfaults : e.faults = []) (hix : e.find name = .ok ix)
    (hbody : Indices.Request.ofJson body = .ok r) (hraw : r.answer name ix = .ok raw) :
    Indices.Engine.search name body e = (.ok raw, { e with searches := e.searches ++ [body] }) := by
  have hanswer : ({ e with searches := e.searches ++ [body] } : Indices.Engine).answer name body =
      .ok raw := by
    have hfind : ({ e with searches := e.searches ++ [body] } : Indices.Engine).find name =
      .ok ix := hix
    rw [Indices.Engine.answer, hfind, hbody]
    exact hraw
  unfold Indices.Engine.search
  dsimp only
  split
  · rename_i hcons
    rw [hfaults] at hcons
    cases hcons
  · rw [hanswer]

variable (sorts page settings) in
/-- A search of an index that holds some records gives the page of those that
pass. -/
theorem search_ofPage (hpaths : entity.nestedPaths = []) (hfilters : Compile filters)
    (hpost : Compile postFilters) {e : Indices.Engine} {ix : Indices.Index}
    (hfaults : e.faults = []) (hix : e.find entity.storage = .ok ix)
    {records : List (Fields Json)} {id : Fields Json → String}
    (hdocuments : ix.documents = records.map fun r => ⟨id r, .obj r⟩)
    (hids : ∀ r ∈ records, Fields.contains r entity.idField = true) :
    let found := (records.filter fun r => Indices.passes (junctionOf entity true [] filters).query
      (postQuery entity postFilters) (.obj r)).mergeSort
        fun a b => Indices.ranks sorts (.obj a) (.obj b)
    (((inMemory entity settings).search (.ofPage filters postFilters sorts page)).on e).1 = .ok {
      rows := (found.drop page.offset).take (Search.pageSize settings page)
      total := found.length } := by
  intro found
  have hplain : Search.Plain (junctionOf entity true [] filters).query :=
    Search.plain_junctionOf hpaths hfilters true
  have hpostPlain : ∀ p ∈ postQuery entity postFilters, p.Readable := by
    intro p hp
    have hgroups := groups_eq_postQuery (e := entity) hpost
    rw [Option.mem_def.mp hp] at hgroups
    exact (Search.plain_of_groups hpaths hpost hgroups).readable
  have hread := Indices.Request.ofJson_pageRequest entity.storage sorts page.offset
    (Search.pageSize settings page) hplain.readable hpostPlain
  have hraw := engine_search hfaults hix hread (Indices.answer_ofPage entity.storage ix)
  rw [search_of_answer (plan_ofPage hpaths hfilters hpost) hraw]
  exact Indices.outcome_ofPage _ rfl rfl hplain entity.idField entity.storage hdocuments hids

/-! ## Calls -/

open Call (Leads Keeps)

theorem leads_call {α σ : Type} {P : σ → Prop} (f : σ → Except IndexFault α × σ) :
    Leads P (call f) (fun _ t => ∃ s, P s ∧ t = (f s).2) (fun t => ∃ s, P s ∧ t = (f s).2) := by
  intro s hs
  unfold call Call.mk Call.on
  dsimp only
  cases hf : f s with
  | mk r next =>
    have hnext : next = (f s).2 := by rw [hf]
    cases r with
    | ok x => exact ⟨s, hs, hnext⟩
    | error e => exact ⟨s, hs, hnext⟩

/-- Writes that are sent together give the report on their statuses. -/
theorem leads_send {P : Indices.Engine → Prop} {E : Indices.Engine → Prop}
    (ws : List DocumentWrite) :
    Leads P ((inMemory entity settings).send ws)
      (fun r after => ∃ e, P e ∧ after = (e.write entity.storage ws).2 ∧
        r = report ws.length ((e.indexOrNew entity.storage).writeAll e.rejected ws).1) E :=
  fun e he => ⟨e, he, rfl, rfl⟩

/-- A search keeps what the searches of the engine keep. -/
theorem keeps_search_of {P : Indices.Engine → Prop}
    (hsearch : ∀ name body (e : Indices.Engine), P e → P (Indices.Engine.search name body e).2)
    (c : Criteria) : Keeps P ((inMemory entity settings).search c) := by
  unfold search
  refine (Call.keeps_lift _).bind fun p => ((leads_call _).weaken ?_ ?_).bind fun raw =>
    Call.keeps_lift _
  · rintro _ _ ⟨e, he, rfl⟩
    exact hsearch _ _ e he
  · rintro _ ⟨e, he, rfl⟩
    exact hsearch _ _ e he

theorem indices_search (name : String) (body : Json) (e : Indices.Engine) :
    (Indices.Engine.search name body e).2.indices = e.indices := by
  unfold Indices.Engine.search
  dsimp only
  split <;> rfl

theorem keeps_search {indices : Fields Indices.Index} (c : Criteria) :
    Keeps (fun e : Indices.Engine => e.indices = indices)
      ((inMemory entity settings).search c) :=
  keeps_search_of (fun name body e he => (indices_search name body e).trans he) c

end Documents

end EntityStore
