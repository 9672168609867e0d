-- Searches of a document store that are answered. A request can always be read, and
-- its answer says something of each aggregation that can be read, as long as no name
-- is given away twice.
import EntityStore.Proofs.Search.Cores
import EntityStore.Proofs.Store.Totals

namespace EntityStore

/-! ## Reading requests -/

namespace Search

/-- What hits are sorted by, once the key of a sort is read. -/
def SortKey.asRead (k : SortKey) : Indices.SortKey where
  field := k.field
  descending := k.direction = .desc
  mode := k.mode.getD (if k.direction = .desc then .max else .min)
  nested := k.nested.map fun n => (n.1, n.2.map Query.asRead)

/-- What is said of a field that hits are sorted by. -/
def SortKey.spec (k : SortKey) : Json :=
  let nested := k.nested.map fun n =>
    Json.object (("path", .str n.1) :: optional "filter" (n.2.map Query.toJson))
  Json.object (("order", .str k.direction.name) ::
    optional "mode" (k.mode.map fun m => .str m.name) ++ optional "nested" nested)

theorem get?_spec (k : SortKey) (l : String) :
    k.spec.get? l = (if l = "nested" then k.nested.map fun n =>
        Json.object (("path", .str n.1) :: optional "filter" (n.2.map Query.toJson)) else none).or
      ((if l = "mode" then k.mode.map fun m => .str m.name else none).or
        (if l = "order" then some (.str k.direction.name) else none)) := by
  rw [SortKey.spec, get?_object, Fields.get?_ofList_append, get?_optional, Fields.get?_ofList_cons,
    get?_optional]

theorem sortsDown_spec (k : SortKey) : Indices.sortsDown k.spec = decide (k.direction = .desc) := by
  have hdown : Indices.sortsDown k.spec =
      (Text.lowerAscii ((k.spec.textAt? "order").getD "asc") == "desc") := rfl
  have horder : k.spec.textAt? "order" = some k.direction.name := by
    rw [Json.textAt?, get?_spec]
    simp [Json.text?]
  rw [hdown, horder]
  cases k.direction <;> decide +kernel

theorem sortMode_spec (k : SortKey) (descending : Bool) :
    Indices.sortMode k.spec descending =
      .ok (k.mode.getD (if descending then .max else .min)) := by
  have hmode : k.spec.textAt? "mode" = k.mode.map SortMode.name := by
    rw [Json.textAt?, get?_spec]
    cases k.mode <;> simp [Json.text?]
  rw [Indices.sortMode, hmode]
  cases k.mode with
  | none => rfl
  | some m => cases m <;> rfl

theorem sortPath_spec (k : SortKey) :
    Indices.sortPath k.spec = .ok (k.nested.map fun n => (n.1, n.2.map Query.asRead)) := by
  have hnested : k.spec.get? "nested" = k.nested.map fun n =>
      Json.object (("path", .str n.1) :: optional "filter" (n.2.map Query.toJson)) := by
    rw [get?_spec]
    cases k.nested <;> simp
  rw [Indices.sortPath, hnested]
  cases k.nested with
  | none => rfl
  | some n =>
    have hget : ∀ l, (Json.object (("path", .str n.1) ::
        optional "filter" (n.2.map Query.toJson))).get? l = _ := fun l => by
      rw [get?_object, Fields.get?_ofList_cons, get?_optional]
    simp only [Option.map_some]
    generalize Json.object (("path", .str n.1) :: optional "filter" (n.2.map Query.toJson)) = spec
      at hget ⊢
    have hpath : spec.textAt? "path" = some n.1 := by
      rw [Json.textAt?, hget]
      simp [Json.text?]
    have hfilter : spec.get? "filter" = n.2.map Query.toJson := by
      rw [hget]
      simp
    rw [hpath, hfilter]
    dsimp only
    rw [Indices.clause?_toJson]
    rfl

/-- The key of a sort is read from its document. -/
theorem SortKey.read_eq (k : SortKey) : Indices.SortKey.read k.toJson = .ok k.asRead := by
  have hjson : k.toJson = .obj [(k.field, k.spec)] := rfl
  rw [hjson]
  refine bind_eq_ok_iff.mpr ⟨(k.field, k.spec), rfl, ?_⟩
  dsimp only
  rw [sortsDown_spec, sortMode_spec, sortPath_spec]
  exact congrArg (fun m => Except.ok (Indices.SortKey.mk k.field _ m _)) (by simp)

/-- A request is read from its document. -/
theorem read_request (r : Request) : Indices.Request.ofJson r.toJson =
    .ok (.asRead r (r.sort.map SortKey.asRead)) := by
  rw [Indices.Request.ofJson_toJson, List.mapM_map]
  have hsorts : r.sort.mapM (fun k => Indices.SortKey.read k.toJson) =
      .ok (r.sort.map SortKey.asRead) := mapM_eq_ok fun k _ => k.read_eq
  exact congrArg (Except.map _) hsorts

/-! ## Aggregations of a plan -/

open Aggregation (Result)
open Indices (finds)
open Indices.Breakdown (AllSound readAll readKind summaries summary)

variable {e : Entity} {settings : Settings} {c : Criteria} {a : Aggregation} {p : Plan}

/-- The names of the aggregations differ, also from that of the count of all
records where there is one. -/
structure NamesApart (c : Criteria) : Prop where
  distinct : (c.aggregations.map Aggregation.name).Nodup
  total : c.collapse.isSome → totalName ∉ c.aggregations.map Aggregation.name

theorem NamesApart.keepsName {i : Nat} (h : NamesApart c) (ha : c.aggregations[i]? = some a) :
    KeepsName c i a := by
  obtain ⟨hi, heq⟩ := List.getElem?_eq_some_iff.mp ha
  have hdrop : c.aggregations.drop i = a :: c.aggregations.drop (i + 1) := by
    rw [List.drop_eq_getElem_cons hi, heq]
  have hbehind : ((c.aggregations.drop i).map Aggregation.name).Nodup := by
    rw [List.map_drop]
    exact h.distinct.sublist (List.drop_sublist _ _)
  rw [hdrop, List.map_cons] at hbehind
  exact ⟨(List.nodup_cons.mp hbehind).1, fun hcollapse heq =>
    h.total hcollapse (heq ▸ List.mem_map_of_mem (List.mem_of_getElem? ha))⟩

theorem sound_totalDistinct (post : Option Query) (field : String) :
    (Indices.Breakdown.read totalName (totalDistinct post field)).Sound := by
  have hread : Indices.Breakdown.read totalName (cardinality field) =
      .mk (.ok (.cardinality field)) [] := rfl
  have hsound : (Indices.Breakdown.read totalName (cardinality field)).Sound := by
    rw [hread]
    exact ⟨⟨_, rfl⟩, trivial⟩
  rw [totalDistinct_eq]
  exact sound_wrapIn hsound _

theorem sound_of_plan (h : plan e settings c = .ok p)
    (hreads : ∀ a ∈ c.aggregations, Reads settings a) :
    AllSound (readAll p.request.aggregations) := by
  obtain ⟨-, haggregations, -⟩ := parts_of_plan h
  obtain ⟨built, hbuilt, heq⟩ := bind_eq_ok_iff.mp haggregations
  rw [← (Prod.mk.inj (Except.ok.inj heq)).1]
  have hnode : ∀ n ∈ Fields.ofList (built.map fun b => (b.2.name, b.1)),
      (Indices.Breakdown.read n.1 n.2).Sound := by
    intro n hn
    have hmem : n ∈ built.map fun b => (b.2.name, b.1) :=
      (Fields.mem_extend (m := []) hn).resolve_left (List.not_mem_nil)
    obtain ⟨b, hb, rfl⟩ := List.mem_map.mp hmem
    obtain ⟨a, ha, hab⟩ := exists_of_mem_mapM hbuilt hb
    dsimp only
    rw [name_of_aggregation hab]
    exact sound_of_aggregation (hreads a ha) hab
  refine Indices.Breakdown.allSound_readAll fun n hn => ?_
  split at hn
  · rcases Fields.mem_insert hn with rfl | hn
    · exact sound_totalDistinct _ _
    · exact hnode n hn
  · exact hnode n hn

/-- Where names differ, what is answered to a plan can be read, and says of each
aggregation what the aggregation says when it is put directly to the documents
that it counts. -/
theorem exists_results (hnames : NamesApart c) (h : plan e settings c = .ok p) {docs : List Json}
    {found : Fields Json} (hfound : let roots := docs.filter (finds p.request.query.asRead)
      summaries roots (readAll p.request.aggregations) (Indices.rootParts roots) = .ok found) :
    ∃ rs, results found p.layouts = .ok rs ∧ ∀ a ∈ c.aggregations, ∃ counts : Json → Bool,
      (∀ doc, counts doc = true ↔ Matches e (countedBy e c a) doc) ∧
      ∃ r, direct e settings c a (docs.filter counts) = some r ∧ rs.get? a.name = some r := by
  obtain ⟨hfilters, -, hquery⟩ := query_of_plan h
  have heach : ∀ (i : Nat) a, c.aggregations[i]? = some a → ∃ layout j r,
      p.layouts[i]? = some layout ∧ layout.name = a.name ∧ found.get? a.name = some j ∧
      result layout j = .ok r ∧
      ∃ counts : Json → Bool, (∀ doc, counts doc = true ↔ Matches e (countedBy e c a) doc) ∧
        direct e settings c a (docs.filter counts) = some r := by
    intro i a ha
    obtain ⟨node, layout, hnode, hlayout, hget⟩ := aggregation_of_plan h ha
    obtain ⟨j, hj, hanswer⟩ := Indices.get?_summaries hfound (hget (hnames.keepsName ha))
    rw [hquery] at hj
    obtain ⟨counts, hcounts, r, hdirect, hr⟩ := result_eq_direct hfilters hnode hj
    exact ⟨layout, j, r, hlayout, name_of_aggregation hnode, hanswer, hr, counts, hcounts, hdirect⟩
  have hlayouts := names_of_plan h
  obtain ⟨rs, hrs, -, hget⟩ : ∃ rs, results found p.layouts = .ok rs ∧ _ ∧ _ :=
      results_eq_ok (hlayouts ▸ hnames.distinct) fun layout hlayout => by
    obtain ⟨i, hi⟩ := List.mem_iff_getElem?.mp hlayout
    have hlength : p.layouts.length = c.aggregations.length := by
      simpa using congrArg List.length hlayouts
    obtain ⟨hlt, -⟩ := List.getElem?_eq_some_iff.mp hi
    obtain ⟨layout', j, r, hplace, hname, hj, hr, -⟩ :=
      heach i _ (List.getElem?_eq_getElem (hlength ▸ hlt))
    obtain rfl := Option.some.inj (hi.symm.trans hplace)
    exact ⟨j, r, hname ▸ hj, hr⟩
  refine ⟨rs, hrs, fun a ha => ?_⟩
  obtain ⟨i, hi⟩ := List.mem_iff_getElem?.mp ha
  obtain ⟨layout, j, r, hplace, hname, hj, hr, counts, hcounts, hdirect⟩ := heach i a hi
  refine ⟨counts, hcounts, r, hdirect, ?_⟩
  rw [← hname]
  exact hget layout (List.mem_of_getElem? hplace) j r (hname ▸ hj) hr

/-! ## What aggregations of buckets say -/

section

variable {nested : Option String} {f : String} {sources : Fields String}

theorem buckets_termsJson (hidden : Nat) (bs : List Json) :
    buckets (Indices.termsJson hidden bs) = bs.map bucket := by
  have hget : (Indices.termsJson hidden bs).get? "buckets" = some (.arr bs) := by
    rw [Indices.termsJson, get?_object]
    simp [Fields.get?_ofList_cons, Fields.get?_ofList_nil]
  rw [buckets, hget]
  rfl

theorem exists_core_terms (settings : Settings) (hkind : a.kind = .terms)
    (htarget : a.target = .field f) : ∃ body, core settings a = .ok ("terms", body, .buckets) ∧
      readKind a.name "terms" body =
        .ok (.terms f (a.bucketLimit.getD (settings.bucketLimitFor f))) := by
  refine ⟨_, ?_, read_terms a.name f _⟩
  unfold core
  rw [hkind, htarget]

theorem commonPath_of_field (htarget : a.target = .field f) :
    commonPath e a = .ok (e.nestedPath? f) := by
  rw [commonPath, htarget]
  rfl

/-- A terms aggregation has a bucket for each value of its field, the fullest
first, and as many as asked for. -/
theorem direct_terms (hkind : a.kind = .terms) (htarget : a.target = .field f)
    (hnested : commonPath e a = .ok nested) (docs : List Json) :
    let cells := Indices.rank (Indices.termCells f (expand nested (Indices.rootParts docs)))
    let shown := cells.take (a.bucketLimit.getD (settings.bucketLimitFor f))
    direct e settings c a docs = some (.buckets (shown.map (bucketOf c nested docs))) := by
  intro cells shown
  obtain ⟨body, hcore, hread⟩ := exists_core_terms settings hkind htarget
  obtain ⟨bs, hbs, hbuckets⟩ := exists_buckets c nested docs shown
  let answer := Indices.termsJson (Indices.Cell.count cells - Indices.Cell.count shown) bs
  have hanswer : summary docs (.read a.name (coreNode c nested "terms" body .buckets))
      (expand nested (Indices.rootParts docs)) = .ok answer := by
    rw [read_coreNode (namesKind_of_core hcore), hread]
    show summary docs (.mk (.ok (.terms f _)) (counters c nested)) _ = _
    rw [Indices.Breakdown.summary_terms]
    exact congrArg (Except.map _) hbs
  refine direct_eq_some hnested hcore hanswer ?_
  rw [← hbuckets, ← buckets_termsJson]
  rfl

/-- The combination behind which the buckets of a composite begin. -/
def behindKey (sources : Fields String) (after : Option Json) : Option (List Value) :=
  after.map fun key => sources.map fun s => Value.ofJson (key.field s.1)

theorem get?_pageJson (shown : List (Indices.Cell (List Value))) (bs : List Json) :
    buckets (Indices.pageJson shown bs) = bs.map bucket ∧
      (Indices.pageJson shown bs).get? "after_key" = shown.getLast?.map (·.shown) := by
  have hget : ∀ k, (Indices.pageJson shown bs).get? k =
      (if k = "after_key" then shown.getLast?.map (·.shown) else none).or
        (if k = "buckets" then some (.arr bs) else none) := by
    intro k
    rw [Indices.pageJson, get?_object, Fields.get?_ofList_cons]
    cases shown.getLast? <;> simp [Fields.get?_ofList_cons, Fields.get?_ofList_nil]
  constructor
  · rw [buckets, hget]
    rfl
  · rw [hget]
    simp

theorem exists_core_composite (settings : Settings) (hkind : a.kind = .composite)
    (htarget : a.target = .fields sources) :
    ∃ body, core settings a = .ok ("composite", body, .composite) ∧
      readKind a.name "composite" body = .ok (.composite sources
        (a.bucketLimit.getD settings.compositePage) (behindKey sources a.afterKey)) := by
  refine ⟨_, ?_, read_composite a.name sources _ a.afterKey⟩
  unfold core
  rw [hkind, htarget]

/-- A composite has a bucket for each combination of values at its sources that
comes behind a given one, in the order of combinations and as many as asked for. -/
theorem direct_composite (hkind : a.kind = .composite) (htarget : a.target = .fields sources)
    (hnested : commonPath e a = .ok nested) (docs : List Json) :
    let shown := Indices.page (a.bucketLimit.getD settings.compositePage)
      (behindKey sources a.afterKey)
      (Indices.comboCells sources (expand nested (Indices.rootParts docs)))
    direct e settings c a docs =
      some (.composite (shown.map (bucketOf c nested docs)) (shown.getLast?.map (·.shown))) := by
  intro shown
  obtain ⟨body, hcore, hread⟩ := exists_core_composite settings hkind htarget
  obtain ⟨bs, hbs, hbuckets⟩ := exists_buckets c nested docs shown
  have hanswer : summary docs (.read a.name (coreNode c nested "composite" body .composite))
      (expand nested (Indices.rootParts docs)) = .ok (Indices.pageJson shown bs) := by
    rw [read_coreNode (namesKind_of_core hcore), hread]
    show summary docs (.mk (.ok (.composite sources _ _)) (counters c nested)) _ = _
    rw [Indices.Breakdown.summary_composite]
    exact congrArg (Except.map _) hbs
  refine direct_eq_some hnested hcore hanswer ?_
  obtain ⟨hread, hafter⟩ := get?_pageJson shown bs
  rw [← hbuckets, ← hread, ← hafter]
  rfl

end

end Search

/-! ## Searches -/

namespace Documents

open Search (Matches NamesApart Reads countedBy direct)

variable {entity : Entity} {settings : Settings} {c : Criteria} {p : Search.Plan}
  {engine : Indices.Engine} {ix : Indices.Index} {out : Outcome}

/-- The request of a plan, as an index reads it. -/
def asked (p : Search.Plan) : Indices.Request :=
  .asRead p.request (p.request.sort.map Search.SortKey.asRead)

theorem exists_summary (hreads : ∀ a ∈ c.aggregations, Reads settings a)
    (hplan : Search.plan entity settings c = .ok p) (ix : Indices.Index) :
    ∃ found, (asked p).summary ix = .ok found := by
  have hbreakdowns : (asked p).breakdowns = if p.request.aggregations.isEmpty then none
      else some (Indices.Breakdown.readAll p.request.aggregations) := rfl
  rw [Indices.Request.summary, hbreakdowns]
  split
  · exact ⟨none, rfl⟩
  · rename_i bs hbs
    split at hbs
    · cases hbs
    · cases hbs
      obtain ⟨found, hfound⟩ := Indices.Breakdown.exists_summaries
        (((asked p).found ix).map Indices.Document.source) _ (Search.sound_of_plan hplan hreads)
        (Indices.rootParts (((asked p).found ix).map Indices.Document.source))
      exact ⟨some found, map_eq_ok_iff.mpr ⟨found, hfound, rfl⟩⟩

/-- The rows of a search are a part of the rows of all hits. -/
theorem rows_of_search (h : (((inMemory entity settings).search c).on engine).1 = .ok out) :
    ∃ p ix, Search.plan entity settings c = .ok p ∧ engine.find entity.storage = .ok ix ∧
      out.rows = (((asked p).rows entity.idField entity.storage ix).drop p.request.start).take
        p.request.size := by
  obtain ⟨p, raw, hplan, hraw, hout⟩ := exists_of_search h
  obtain ⟨ix, q, hix, hread, hanswer⟩ := Indices.answer_of_search hraw
  obtain ⟨-, hindex, -⟩ := Search.query_of_plan hplan
  obtain rfl := Except.ok.inj ((Search.read_request p.request).symm.trans hread)
  rw [hindex] at hix hanswer
  rw [Indices.Request.answer_eq] at hanswer
  obtain ⟨summary, -, rfl⟩ := map_eq_ok_iff.mp hanswer
  rw [Indices.outcome_answerJson] at hout
  obtain ⟨results, -, rfl⟩ := map_eq_ok_iff.mp hout
  refine ⟨p, ix, hplan, hix, ?_⟩
  dsimp only
  rw [Indices.Request.rows, List.map_map, ← List.map_drop, ← List.map_take]
  rfl

/-- A search whose plan is made is answered by an index that is there, where names
differ and each aggregation can be read. It shows a part of the rows of all hits. -/
theorem exists_search (hnames : NamesApart c) (hreads : ∀ a ∈ c.aggregations, Reads settings a)
    (hfaults : engine.faults = []) (hix : engine.find entity.storage = .ok ix)
    (hplan : Search.plan entity settings c = .ok p) :
    ∃ out, (((inMemory entity settings).search c).on engine).1 = .ok out ∧
      out.rows = (((asked p).rows entity.idField entity.storage ix).drop p.request.start).take
        p.request.size := by
  obtain ⟨-, hindex, -⟩ := Search.query_of_plan hplan
  obtain ⟨found, hsummary⟩ := exists_summary hreads hplan ix
  obtain ⟨rs, hrs, -⟩ :=
    Search.exists_results hnames hplan (Indices.summaries_of_summary hsummary)
  have hanswer : (asked p).answer p.request.index ix = _ :=
    ((asked p).answer_eq p.request.index ix).trans (congrArg (Except.map _) hsummary)
  have hraw := engine_search hfaults (hindex.symm ▸ hix) (Search.read_request p.request) hanswer
  have hon := search_of_answer (d := inMemory entity settings) hplan hraw
  rw [Indices.outcome_answerJson, hrs] at hon
  have hout := congrArg (·.1) hon
  obtain ⟨p', ix', hplan', hix', hrows⟩ := rows_of_search hout
  obtain rfl := Except.ok.inj (hplan.symm.trans hplan')
  obtain rfl := Except.ok.inj (hix.symm.trans hix')
  exact ⟨_, hout, hrows⟩

/-- What a search says of an aggregation is what the aggregation says when it is
put directly to the documents that it counts. -/
theorem aggregation_of_search (hnames : NamesApart c)
    (h : (((inMemory entity settings).search c).on engine).1 = .ok out) :
    ∃ ix, engine.find entity.storage = .ok ix ∧ ∀ a ∈ c.aggregations, ∃ counts : Json → Bool,
      (∀ doc, counts doc = true ↔ Matches entity (countedBy entity c a) doc) ∧
      ∃ r, direct entity settings c a ((ix.documents.map (·.source)).filter counts) = some r ∧
        out.aggregations.get? a.name = some r := by
  obtain ⟨p, raw, hplan, hraw, hout⟩ := exists_of_search h
  obtain ⟨ix, sorts, shown, found, hix, -, rfl, hfound⟩ := Indices.exists_answerJson hraw
  obtain ⟨-, hindex, -⟩ := Search.query_of_plan hplan
  obtain ⟨rs, hrs, heach⟩ := Search.exists_results hnames hplan hfound
  rw [Indices.outcome_answerJson, hrs] at hout
  obtain rfl := Except.ok.inj hout
  exact ⟨ix, hindex ▸ hix, heach⟩

/-- Aggregations that have been answered can be read. -/
theorem reads_of_search (hnames : NamesApart c)
    (h : (((inMemory entity settings).search c).on engine).1 = .ok out) :
    ∀ a ∈ c.aggregations, Reads settings a := by
  obtain ⟨p, raw, hplan, hraw, hout⟩ := exists_of_search h
  obtain ⟨ix, sorts, shown, found, hix, -, rfl, hfound⟩ := Indices.exists_answerJson hraw
  intro a ha
  obtain ⟨i, hi⟩ := List.mem_iff_getElem?.mp ha
  obtain ⟨node, layout, hnode, -, hget⟩ := Search.aggregation_of_plan hplan hi
  obtain ⟨j, hj, -⟩ := Indices.get?_summaries hfound (hget (hnames.keepsName hi))
  exact Search.reads_of_summary hnode hj

end Documents

end EntityStore
