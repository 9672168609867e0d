-- What a search of a document store says of its aggregations. The wrappers of
-- an aggregation, the counts that stand beside it and the names that it goes by
-- leave no trace in what is read from the answer.
import EntityStore.Proofs.Search.Wrappers
import EntityStore.Proofs.Store.Facets
import EntityStore.Proofs.Store.ScrollingDocuments

namespace EntityStore

/-! ## Answers to breakdowns -/

namespace Indices

open Breakdown (readAll summary summaries)

variable {roots : List Json} {docs : List Part}

/-- The answers to several breakdowns have the answer to each under its name. -/
theorem get?_summaries {nodes found : Fields Json} {name : String} {node : Json}
    (h : summaries roots (readAll nodes) docs = .ok found) (hnode : nodes.get? name = some node) :
    ∃ j, summary roots (.read name node) docs = .ok j ∧ found.get? name = some j := by
  induction nodes generalizing found with
  | nil => cases hnode
  | cons p rest ih =>
    obtain ⟨k, j⟩ := p
    rw [readAll, summaries] at h
    obtain ⟨answer, hanswer, h⟩ := bind_eq_ok_iff.mp h
    obtain ⟨others, hothers, h⟩ := bind_eq_ok_iff.mp h
    cases h
    rw [Fields.get?_cons] at hnode ⊢
    split at hnode
    · rename_i hk
      cases hnode
      rw [if_pos hk]
      exact ⟨answer, hk ▸ hanswer, rfl⟩
    · rename_i hk
      rw [if_neg hk]
      exact ih hothers hnode

/-- What a request asks of its breakdowns is answered for the documents that its
query finds, whether there are breakdowns or not. -/
theorem summaries_of_summary {r : Search.Request} {sorts : List SortKey} {ix : Index}
    {found : Option (Fields Json)} (h : (Request.asRead r sorts).summary ix = .ok found) :
    let roots := (ix.documents.map Document.source).filter (finds r.query.asRead)
    summaries roots (readAll r.aggregations) (rootParts roots) = .ok (found.getD []) := by
  intro roots
  have hroots : ((Request.asRead r sorts).found ix).map Document.source = roots :=
    List.filter_map.symm
  have hbreakdowns : (Request.asRead r sorts).breakdowns =
      if r.aggregations.isEmpty then none else some (readAll r.aggregations) := rfl
  rw [Request.summary, hbreakdowns] at h
  cases haggregations : r.aggregations with
  | nil =>
    rw [haggregations] at h
    cases h
    rw [readAll, summaries]
    rfl
  | cons p rest =>
    rw [haggregations] at h
    simp only [List.isEmpty_cons, Bool.false_eq_true, if_false, hroots] at h
    cases hsummaries : summaries roots (readAll (p :: rest)) (rootParts roots) with
    | error f =>
      rw [hsummaries] at h
      cases h
    | ok answers =>
      rw [hsummaries] at h
      cases h
      rfl

/-- An answer to a search is that of an index to the request that is read. -/
theorem answer_of_search {engine : Engine} {name : String} {body raw : Json}
    (h : (engine.search name body).1 = .ok raw) :
    ∃ ix q, engine.find name = .ok ix ∧ Request.ofJson body = .ok q ∧
      q.answer name ix = .ok raw := by
  unfold Engine.search at h
  dsimp only at h
  split at h
  · cases h
  · obtain ⟨ix, hix, h⟩ := bind_eq_ok_iff.mp h
    obtain ⟨q, hq, h⟩ := bind_eq_ok_iff.mp h
    exact ⟨ix, q, hix, hq, h⟩

/-- An answer to a search has the number of all hits, and the answers to all
breakdowns of the documents that the query finds. -/
theorem exists_answerJson {engine : Engine} {r : Search.Request} {raw : Json}
    (h : (engine.search r.index r.toJson).1 = .ok raw) :
    ∃ ix sorts shown found, engine.find r.index = .ok ix ∧
      Request.ofJson r.toJson = .ok (.asRead r sorts) ∧
      raw = answerJson ((Request.asRead r sorts).hits ix).length shown found ∧
      let roots := (ix.documents.map Document.source).filter (finds r.query.asRead)
      summaries roots (readAll r.aggregations) (rootParts roots) = .ok (found.getD []) := by
  obtain ⟨ix, q, hix, hq, h⟩ := answer_of_search h
  have hread := hq
  rw [Request.ofJson_toJson] at hread
  obtain ⟨sorts, -, rfl⟩ := map_eq_ok_iff.mp hread
  rw [Request.answer_eq] at h
  obtain ⟨found, hfound, rfl⟩ := map_eq_ok_iff.mp h
  exact ⟨ix, sorts, _, found, hix, hq, rfl, summaries_of_summary hfound⟩

/-- A search is answered when its request can be read and its breakdowns can be
asked for. -/
theorem exists_answer {engine : Engine} {r : Search.Request} {ix : Index} {q : Request}
    {found : Option (Fields Json)} (hfaults : engine.faults = [])
    (hix : engine.find r.index = .ok ix) (hq : Request.ofJson r.toJson = .ok q)
    (hfound : q.summary ix = .ok found) :
    ∃ raw, (engine.search r.index r.toJson).1 = .ok raw := by
  unfold Engine.search
  dsimp only
  rw [hfaults]
  have hanswer : q.answer r.index ix = .ok _ :=
    (q.answer_eq r.index ix).trans (congrArg (Except.map _) hfound)
  exact ⟨_, bind_eq_ok_iff.mpr ⟨ix, hix, bind_eq_ok_iff.mpr ⟨q, hq, hanswer⟩⟩⟩

end Indices

/-! ## Reading answers -/

namespace Search

open Aggregation (Result)
open Indices (finds)
open Indices.Breakdown (summary)

/-- The layout of the answer to an aggregation without wrappers. -/
def Layout.bare (l : Layout) : Layout := { l with facet := false, filter := false, nested := none }

/-- What is read in its wrappers is what is read without them. -/
theorem result_of_unwrap {l : Layout} {j answer : Json}
    (h : unwrap l.name l.wrappers j = .ok answer) :
    ∃ r, result l j = .ok r ∧ result l.bare answer = .ok r := by
  rw [result, h]
  exact ⟨_, rfl, rfl⟩

variable {nodes : Fields Json} {ls : List Layout}

/-- The answer to one of some aggregations, under its name. -/
def answered (nodes : Fields Json) (l : Layout) : Except AccessError (Option (String × Result)) := do
  match nodes.get? l.name with
  | some node => return some (l.name, ← result l node)
  | none => return none

/-- Where each aggregation is answered and its answer can be read, all of them
are. -/
theorem exists_answered
    (h : ∀ l ∈ ls, ∃ node r, nodes.get? l.name = some node ∧ result l node = .ok r) :
    ∃ pairs, ls.mapM (answered nodes) = .ok (pairs.map some) ∧
      Fields.keys pairs = ls.map (·.name) ∧ ∀ l ∈ ls, ∀ node r, nodes.get? l.name = some node →
        result l node = .ok r → (l.name, r) ∈ pairs := by
  induction ls with
  | nil => exact ⟨[], rfl, rfl, nofun⟩
  | cons l rest ih =>
    obtain ⟨⟨node, r, hnode, hr⟩, hrest⟩ := List.forall_mem_cons.mp h
    obtain ⟨pairs, hpairs, hkeys, hmem⟩ := ih hrest
    have hanswered : answered nodes l = .ok (some (l.name, r)) := by
      rw [answered, hnode]
      exact bind_eq_ok_iff.mpr ⟨r, hr, rfl⟩
    refine ⟨(l.name, r) :: pairs, ?_, congrArg (l.name :: ·) hkeys,
      List.forall_mem_cons.mpr ⟨?_, ?_⟩⟩
    · rw [List.mapM_cons, hanswered, hpairs]
      rfl
    · intro node' r' hnode' hr'
      cases hnode.symm.trans hnode'
      cases hr.symm.trans hr'
      exact List.mem_cons_self
    · exact fun l' hl' node' r' hnode' hr' => List.mem_cons_of_mem _ (hmem l' hl' node' r' hnode' hr')

theorem results_eq_ok (hnames : (ls.map (·.name)).Nodup)
    (h : ∀ l ∈ ls, ∃ node r, nodes.get? l.name = some node ∧ result l node = .ok r) :
    ∃ found, results nodes ls = .ok found ∧
      (∀ name, name ∈ Fields.keys found ↔ name ∈ ls.map (·.name)) ∧
      ∀ l ∈ ls, ∀ node r, nodes.get? l.name = some node → result l node = .ok r →
        found.get? l.name = some r := by
  obtain ⟨pairs, hpairs, hkeys, hmem⟩ := exists_answered h
  have hsome : (pairs.map some).filterMap id = pairs := by
    rw [List.filterMap_map]
    exact List.filterMap_some
  refine ⟨Fields.ofList pairs, ?_, fun name => ?_, fun l hl node r hnode hr => ?_⟩
  · refine bind_eq_ok_iff.mpr ⟨pairs.map some, hpairs, ?_⟩
    rw [hsome]
    rfl
  · rw [Fields.mem_keys_ofList, hkeys]
  · exact Fields.get?_ofList_of_mem (hkeys ▸ hnames) (hmem l hl node r hnode hr)

/-! ## Documents that count -/

variable {e : Entity} {settings : Settings} {c : Criteria} {a : Aggregation} {p : Plan}
  {gs : List Filter.Group} {post seen own : Option Query} {doc : Json}

/-- The criteria of the documents that an aggregation counts. They have the post
filters that it sees and the groups that it adds of its own. -/
def countedBy (e : Entity) (c : Criteria) (a : Aggregation) : Criteria :=
  c.onPost (Filter.Group.withoutFields (a.target.names.flatMap e.facetFields) c.postFilters ++
    a.filterGroups)

theorem finds_asRead_of_groups_iff (h : groups e false gs = .ok post) :
    (post.all fun q => finds q.asRead doc) = true ↔
      ∀ g ∈ gs, g.isEmpty = false → GroupHolds e g doc := by
  rw [← finds_of_groups_iff h]
  cases post with
  | none => rfl
  | some q => rw [Option.all_some, Option.all_some, q.finds_asRead (counted_of_groups h)]

theorem finds_own_iff (h : ownFilter e a = .ok own) :
    (own.all fun q => finds q.asRead doc) = true ↔
      ∀ g ∈ a.filterGroups, g.isEmpty = false → GroupHolds e g doc := by
  obtain ⟨name, kind, target, bucketLimit, interval, afterKey⟩ := a
  cases kind with
  | filter gs =>
    obtain ⟨found, hfound, h⟩ := bind_eq_ok_iff.mp h
    cases h
    have hgroups : (found.all fun q => finds q.asRead doc) = true ↔ _ :=
      finds_asRead_of_groups_iff hfound
    refine Iff.trans ?_ hgroups
    cases found with
    | none => exact ⟨fun _ => rfl, fun _ => by simp [Query.asRead, finds]⟩
    | some q => rfl
  | terms | histogram | metric | composite =>
    cases h
    exact ⟨fun _ => nofun, fun _ => rfl⟩

/-- The documents that pass the query of the search and the filters around an
aggregation are those that it counts. -/
theorem counts_iff (hfilters : Compile c.filters) (hown : ownFilter e a = .ok own)
    (hseen : seenFilter e c.postFilters a = .ok seen) :
    (passesBoth seen own doc && finds (mainQuery e c).asRead doc) = true ↔
      Matches e (countedBy e c a) doc := by
  have hmain : finds (mainQuery e c) doc = true ↔ _ :=
    finds_junctionOf_iff e true (c.fullText.map multiMatch) hfilters
  rw [passesBoth, Bool.and_eq_true, Bool.and_eq_true, finds_own_iff hown,
    finds_asRead_of_groups_iff hseen, Query.finds_asRead _ (counted_mainQuery hfilters), hmain,
    List.forall_mem_map]
  constructor
  · rintro ⟨⟨howns, hposts⟩, htexts, hgroups⟩
    exact ⟨hgroups, htexts, List.forall_mem_append.mpr ⟨hposts, howns⟩⟩
  · rintro ⟨hgroups, htexts, hposts⟩
    obtain ⟨hposts, howns⟩ := List.forall_mem_append.mp hposts
    exact ⟨⟨howns, hposts⟩, htexts, hgroups⟩

/-! ## Plans -/

theorem query_of_plan (h : plan e settings c = .ok p) :
    Compile c.filters ∧ p.request.index = e.storage ∧ p.request.query = mainQuery e c := by
  obtain ⟨-, ps, post, nodes, hps, -, -, -, hrequest⟩ := plan_eq_ok_iff.mp h
  have hfilters := compile_of_partitions hps
  rw [partitions_eq_ok hfilters] at hps
  cases hps
  rw [hrequest, page]
  split <;> exact ⟨hfilters, rfl, rfl⟩

theorem names_of_plan (h : plan e settings c = .ok p) :
    p.layouts.map (·.name) = c.aggregations.map Aggregation.name := by
  obtain ⟨built, hbuilt, hlayouts, -⟩ := aggregations_of_plan h
  rw [hlayouts, List.map_map]
  exact names_of_built hbuilt

/-! ## Aggregations on their own -/

/-- What an aggregation says of documents when it is put to them directly, without
wrappers, or to the objects at its nested path in them. -/
def direct (e : Entity) (settings : Settings) (c : Criteria) (a : Aggregation) (docs : List Json) :
    Option Result := do
  let nested ← (commonPath e a).toOption
  let (kind, body, shape) ← (core settings a).toOption
  let node := coreNode c nested kind body shape
  let answer ← (summary docs (.read a.name node)
    (expand nested (Indices.rootParts docs))).toOption
  (result ⟨a.name, shape, false, false, none⟩ answer).toOption

theorem direct_eq_some {nested : Option String} {kind : String} {body answer : Json} {shape : Shape}
    {r : Result} {docs : List Json} (hnested : commonPath e a = .ok nested)
    (hcore : core settings a = .ok (kind, body, shape))
    (hanswer : summary docs (.read a.name (coreNode c nested kind body shape))
      (expand nested (Indices.rootParts docs)) = .ok answer)
    (hr : result ⟨a.name, shape, false, false, none⟩ answer = .ok r) :
    direct e settings c a docs = some r := by
  rw [direct, hnested, hcore]
  simp only [Except.toOption, Option.bind_eq_bind, Option.bind_some]
  rw [hanswer]
  simp only [Option.bind_some, hr]

/-- The answer to an aggregation in its wrappers is read as what the aggregation
says of the documents that it counts. -/
theorem result_eq_direct {node j : Json} {layout : Layout} {docs : List Json}
    (hfilters : Compile c.filters) (h : aggregation e settings c a = .ok (node, layout))
    (hanswer : let roots := docs.filter (finds (mainQuery e c).asRead)
      summary roots (.read a.name node) (Indices.rootParts roots) = .ok j) :
    ∃ counts : Json → Bool, (∀ doc, counts doc = true ↔ Matches e (countedBy e c a) doc) ∧
      ∃ r, direct e settings c a (docs.filter counts) = some r ∧ result layout j = .ok r := by
  obtain ⟨nested, kind, body, shape, own, seen, hnested, hcore, hown, hseen, rfl, rfl⟩ :=
    wrapped_of_aggregation h
  obtain ⟨answer, hinner, hunwrap⟩ := exists_unwrapped_of_summary hanswer
  rw [length_wrappers a.name shape] at hunwrap
  obtain ⟨r, hresult, hbare⟩ := result_of_unwrap (l := ⟨a.name, shape, _, _, nested⟩) hunwrap
  rw [summary_leftBy, List.filter_filter] at hinner
  exact ⟨_, fun _ => counts_iff hfilters hown hseen, r,
    direct_eq_some hnested hcore hinner hbare, hresult⟩

end Search

/-! ## Searches -/

open Search (Matches aggregation countedBy direct result totalName)

variable {e : Entity} {settings : Settings} {c : Criteria} {p : Search.Plan}

theorem Search.mem_layouts_iff {layout : Layout} (h : plan e settings c = .ok p) :
    layout ∈ p.layouts ↔
      ∃ a ∈ c.aggregations, ∃ node, aggregation e settings c a = .ok (node, layout) := by
  obtain ⟨built, hbuilt, hlayouts, -⟩ := aggregations_of_plan h
  rw [hlayouts, List.mem_map]
  constructor
  · rintro ⟨⟨node, layout⟩, hmem, rfl⟩
    obtain ⟨a, ha, hnode⟩ := (mem_mapM_iff hbuilt).mp hmem
    exact ⟨a, ha, node, hnode⟩
  · rintro ⟨a, ha, node, hnode⟩
    exact ⟨(node, layout), (mem_mapM_iff hbuilt).mpr ⟨a, ha, hnode⟩, rfl⟩

/-- Where names differ, the request has the node of each aggregation under its
name. -/
theorem Search.get?_aggregations (hnames : (c.aggregations.map Aggregation.name).Nodup)
    (htotal : totalName ∉ c.aggregations.map Aggregation.name) (h : plan e settings c = .ok p)
    {a : Aggregation} {node : Json} {layout : Layout} (ha : a ∈ c.aggregations)
    (hnode : aggregation e settings c a = .ok (node, layout)) :
    p.request.aggregations.get? a.name = some node := by
  obtain ⟨built, hbuilt, -, hnodes⟩ := aggregations_of_plan h
  have hkeys : Fields.keys (built.map fun b => (b.2.name, b.1)) =
      c.aggregations.map Aggregation.name := by
    rw [Fields.keys, List.map_map]
    exact names_of_built hbuilt
  have hmem : (a.name, node) ∈ built.map fun b => (b.2.name, b.1) := by
    rw [← name_of_aggregation hnode]
    exact List.mem_map_of_mem ((mem_mapM_iff hbuilt).mpr ⟨a, ha, hnode⟩)
  rw [hnodes a.name fun _ heq => htotal (heq ▸ List.mem_map_of_mem ha)]
  exact Fields.get?_ofList_of_mem (hkeys ▸ hnames) hmem

/-- What is wrapped around aggregations leaves no trace. Where the names of the
aggregations differ and a document store answers the request, the answer can be
read, and it speaks of these aggregations and no others. Of each of them it says
what the aggregation says when it is put directly to the documents that pass the
search, the post filters that the aggregation sees, and the groups that it adds
of its own. -/
theorem wrappers_of_aggregations_leave_no_trace (e : Entity) (settings : Settings) (c : Criteria)
    (engine : Indices.Engine) {p : Search.Plan} {raw : Json}
    (hnames : (c.aggregations.map Aggregation.name).Nodup)
    (htotal : totalName ∉ c.aggregations.map Aggregation.name)
    (hplan : Search.plan e settings c = .ok p)
    (hanswer : (engine.search p.request.index p.request.toJson).1 = .ok raw) :
    ∃ ix out, engine.find e.storage = .ok ix ∧ p.outcome e.idField raw = .ok out ∧
      (∀ name, name ∈ Fields.keys out.aggregations ↔ ∃ a ∈ c.aggregations, a.name = name) ∧
      ∀ a ∈ c.aggregations, ∃ counts : Json → Bool,
        (∀ doc, counts doc = true ↔ Matches e (countedBy e c a) doc) ∧
        ∃ r, direct e settings c a ((ix.documents.map (·.source)).filter counts) = some r ∧
          out.aggregations.get? a.name = some r := by
  obtain ⟨hfilters, hindex, hquery⟩ := Search.query_of_plan hplan
  obtain ⟨ix, sorts, shown, found, hix, -, rfl, hsummaries⟩ := Indices.exists_answerJson hanswer
  rw [hquery] at hsummaries
  rw [hindex] at hix
  have hlayoutNames := Search.names_of_plan hplan
  -- As no other node has its name, the answer under that name is its own.
  have heach : ∀ a ∈ c.aggregations, ∀ node layout,
      aggregation e settings c a = .ok (node, layout) →
      ∃ j r, (found.getD []).get? layout.name = some j ∧ result layout j = .ok r ∧
        ∃ counts : Json → Bool, (∀ doc, counts doc = true ↔ Matches e (countedBy e c a) doc) ∧
          direct e settings c a ((ix.documents.map (·.source)).filter counts) = some r := by
    intro a ha node layout hnode
    have hrequest := Search.get?_aggregations hnames htotal hplan ha hnode
    obtain ⟨j, hj, hget⟩ := Indices.get?_summaries hsummaries hrequest
    obtain ⟨counts, hcounts, r, hdirect, hr⟩ := Search.result_eq_direct hfilters hnode hj
    exact ⟨j, r, Search.name_of_aggregation hnode ▸ hget, hr, counts, hcounts, hdirect⟩
  obtain ⟨results, hresults, hkeys, hget⟩ :=
      Search.results_eq_ok (hlayoutNames ▸ hnames) fun layout hlayout => by
    obtain ⟨a, ha, node, hnode⟩ := (Search.mem_layouts_iff hplan).mp hlayout
    obtain ⟨j, r, hj, hr, -⟩ := heach a ha node layout hnode
    exact ⟨j, r, hj, hr⟩
  refine ⟨ix, _, hix, by rw [Indices.outcome_answerJson, hresults]; rfl, fun name => ?_,
    fun a ha => ?_⟩
  · rw [hkeys, hlayoutNames, List.mem_map]
  · obtain ⟨built, hbuilt, -, -⟩ := Search.aggregations_of_plan hplan
    obtain ⟨⟨node, layout⟩, hnode⟩ := exists_of_mapM hbuilt a ha
    obtain ⟨j, r, hj, hr, counts, hcounts, hdirect⟩ := heach a ha node layout hnode
    have hlayout := (Search.mem_layouts_iff hplan).mpr ⟨a, ha, node, hnode⟩
    refine ⟨counts, hcounts, r, hdirect, ?_⟩
    rw [← Search.name_of_aggregation hnode]
    exact hget layout hlayout j r hj hr

/-- Red orders are broken down by the numbers of their items, and one order of a
shop stands for all of them. -/
theorem the_items_of_red_orders_are_counted :
    let e : Entity := { name := "order", storage := "orders", nestedPaths := ["items"] }
    let a : Aggregation := .composite "skus" [("sku", "items.sku")]
    let c : Criteria := {
      postFilters := [.all [.eq "color" (.text "red")], .all [.eq "items.sku" (.text "b")]]
      aggregations := [a, .metric "items.sku" .valueCount]
      collapse := some { field := "shop", countField := "shop" } }
    let order (color sku : String) : Json := .obj
      [("color", .str color), ("items", .arr [.obj [("sku", .str sku)]]), ("shop", .str "Elm")]
    let engine : Indices.Engine := { indices := [("orders", { documents :=
      [⟨"1", order "red" "a"⟩, ⟨"2", order "red" "b"⟩, ⟨"3", order "blue" "b"⟩] })] }
    ∃ p raw ix out, Search.plan e {} c = .ok p ∧
      (engine.search p.request.index p.request.toJson).1 = .ok raw ∧
      engine.find e.storage = .ok ix ∧ p.outcome e.idField raw = .ok out ∧
      (∀ name, name ∈ Fields.keys out.aggregations ↔ ∃ a ∈ c.aggregations, a.name = name) ∧
      ∃ counts : Json → Bool, (∀ doc, counts doc = true ↔ Matches e (countedBy e c a) doc) ∧
        ∃ r, direct e {} c a ((ix.documents.map (·.source)).filter counts) = some r ∧
          out.aggregations.get? "skus" = some r := by
  intro e a c order engine
  obtain ⟨p, hplan, hanswer⟩ : ∃ p, Search.plan e {} c = .ok p ∧ _ :=
    exists_of_any (p := fun p => (engine.find p.request.index).toOption.any fun ix =>
      (Indices.Request.ofJson p.request.toJson).toOption.any fun q =>
        (q.summary ix).toOption.any fun _ => true) (by decide +kernel)
  obtain ⟨ix, hix, hanswer⟩ := exists_of_any hanswer
  obtain ⟨q, hq, hanswer⟩ := exists_of_any hanswer
  obtain ⟨found, hfound, -⟩ := exists_of_any hanswer
  obtain ⟨raw, hraw⟩ := Indices.exists_answer rfl hix hq hfound
  obtain ⟨ix, out, hix, hout, hkeys, heach⟩ := wrappers_of_aggregations_leave_no_trace e {} c engine
    (by decide +kernel) (by decide +kernel) hplan hraw
  exact ⟨p, raw, ix, out, hplan, hraw, hix, hout, hkeys, heach a List.mem_cons_self⟩

end EntityStore
