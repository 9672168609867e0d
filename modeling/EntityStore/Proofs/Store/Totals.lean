-- Totals of searches. A database counts all records that match, whichever of
-- them are shown. A document store counts the hits behind the identity that a
-- scroll has come to, unless it counts the values that hits are collapsed by.
import EntityStore.Proofs.Store.Aggregations

namespace EntityStore

/-- The same criteria for another page, or from another record on. -/
def Criteria.onPart (c : Criteria) (p : Page) (last : Option Value) : Criteria :=
  { c with page := p, scrollAfter := last }

variable {entity : Entity} {settings : Settings} {c : Criteria} {page : Page}
  {last : Option Value} {out : Outcome}

/-! ## Tables -/

/-- The query that counts is the same for every part of the records. -/
theorem Plan.Scope.count_onPart {s : Scope} {plan plan' : Plan} (h : s.plan settings c = .ok plan)
    (h' : s.plan settings (c.onPart page last) = .ok plan') : plan'.count = plan.count := by
  obtain ⟨items, groupBy, common, post, hplanned⟩ := planned_of_plan h
  obtain ⟨items', groupBy', common', post', hplanned'⟩ := planned_of_plan h'
  obtain rfl : items = items' := Except.ok.inj (hplanned.items_eq.symm.trans hplanned'.items_eq)
  obtain rfl : groupBy = groupBy' :=
    Except.ok.inj (hplanned.groupBy_eq.symm.trans hplanned'.groupBy_eq)
  obtain rfl : common = common' :=
    Except.ok.inj (hplanned.common_eq.symm.trans hplanned'.common_eq)
  obtain rfl : post = post' := Except.ok.inj (hplanned.post_eq.symm.trans hplanned'.post_eq)
  exact hplanned'.count_eq.trans hplanned.count_eq.symm

namespace Relational

/-- A search for another part of the records gives the same total. -/
theorem total_onPart {s : State Tables.Engine} {out' : Outcome}
    (h : (((inMemory entity settings).search c).on s).1 = .ok out)
    (h' : (((inMemory entity settings).search (c.onPart page last)).on s).1 = .ok out') :
    out'.total = out.total := by
  obtain ⟨columns, plan, rows, hcolumns, hplan, -, htotal⟩ := exists_of_search h
  obtain ⟨columns', plan', rows', hcolumns', hplan', -, htotal'⟩ := exists_of_search h'
  obtain rfl := Except.ok.inj (hcolumns.symm.trans hcolumns')
  rw [Plan.Scope.count_onPart hplan hplan'] at htotal'
  exact Except.ok.inj (htotal'.symm.trans htotal)

end Relational

/-! ## Hits -/

namespace Indices

/-- In the order of identities a document comes behind the one that a scroll has
come to, if there is one. -/
def behind (idField : String) (last : Option Value) (doc : Json) : Bool :=
  last.all fun v => (orderHits [.ofField idField .asc]
    [(SortKey.ofField idField .asc).value? doc] (keysOf [v.toJson])).isGT

theorem length_hits (q : Request) (ix : Index) :
    (q.hits ix).length = ((ix.documents.filter fun d =>
      passes q.query q.postFilter d.source).filter fun d => q.isAfter (q.hit d)).length := by
  rw [hits_eq, List.length_map]
  exact ((List.mergeSort_perm _ _).filter _).length_eq

end Indices

namespace Search

open Indices (behind passes)

variable {p : Plan} {q : Indices.Request}

/-- Where a plan is read, the hits begin behind the identity that a scroll has
come to. -/
theorem isAfter_of_plan (h : plan entity settings c = .ok p)
    (hq : Indices.Request.ofJson p.request.toJson = .ok q) (d : Indices.Document) :
    q.isAfter (q.hit d) = behind entity.idField c.scrollAfter d.source := by
  rw [Indices.Request.ofJson_toJson] at hq
  obtain ⟨sorts, hsorts, rfl⟩ := map_eq_ok_iff.mp hq
  obtain ⟨-, ps, post, nodes, -, -, -, -, hrequest⟩ := plan_eq_ok_iff.mp h
  rw [hrequest, page] at hsorts ⊢
  cases hscroll : c.scrollAfter with
  | none =>
    rw [hscroll] at hsorts
    rfl
  | some last =>
    rw [hscroll, List.map_singleton, List.mapM_cons, Indices.SortKey.read_toJson] at hsorts
    obtain rfl := Except.ok.inj hsorts
    rfl

/-! ## Different values -/

theorem totalDistinct_eq (post : Option Query) (field : String) :
    totalDistinct post field = wrapIn totalName (wrappers post none none) (cardinality field) := by
  cases post <;> rfl

theorem get?_totalName (h : plan entity settings c = .ok p) {k : Collapse}
    (hcollapse : c.collapse = some k) : p.request.aggregations.get? totalName =
      some (totalDistinct p.request.postFilter k.countField) := by
  obtain ⟨-, haggregations, -⟩ := parts_of_plan h
  obtain ⟨built, -, heq⟩ := bind_eq_ok_iff.mp haggregations
  rw [← (Prod.mk.inj (Except.ok.inj heq)).1, hcollapse]
  exact (Fields.get?_insert ..).trans (if_pos rfl)

/-- The count that stands for the total is read from its wrapper. -/
theorem distinctTotal?_of_unwrap {found : Fields Json} {post : Option Query} {j : Json} {n : Nat}
    (hget : found.get? totalName = some j)
    (h : unwrap totalName (wrappers post none none).length j =
      .ok (Indices.valueJson (Json.ofNat n))) :
    distinctTotal? found post.isSome = some n := by
  have hvalue : ((Indices.valueJson (Json.ofNat n)).get? "value").bind Json.nat? = some n := rfl
  rw [distinctTotal?, hget]
  cases post with
  | none =>
    obtain rfl := Except.ok.inj h
    exact hvalue
  | some q =>
    have hunwrap : unwrap totalName 1 j = .ok (Indices.valueJson (Json.ofNat n)) := h
    rw [unwrap] at hunwrap
    cases hj : j.get? totalName with
    | none =>
      rw [hj] at hunwrap
      cases hunwrap
    | some inner =>
      rw [hj] at hunwrap
      obtain rfl := Except.ok.inj hunwrap
      exact (congrArg (Option.bind · _) hj).trans hvalue

/-- Where records are collapsed, the total is the number of the different values
of the documents that pass. -/
theorem distinctTotal?_of_plan (h : plan entity settings c = .ok p) {k : Collapse}
    (hcollapse : c.collapse = some k) {docs : List Json} {found : Fields Json}
    (hfound : let roots := docs.filter (Indices.finds p.request.query.asRead)
      Indices.Breakdown.summaries roots (Indices.Breakdown.readAll p.request.aggregations)
        (Indices.rootParts roots) = .ok found) :
    distinctTotal? found p.request.postFilter.isSome = some (Indices.cardinality k.countField
      (Indices.rootParts (docs.filter
        (passes p.request.query.asRead (p.request.postFilter.map Query.asRead))))) := by
  have hnode := get?_totalName h hcollapse
  obtain ⟨j, hj, hget⟩ := Indices.get?_summaries hfound hnode
  rw [totalDistinct_eq] at hj
  obtain ⟨answer, hanswer, hunwrap⟩ := exists_unwrapped_of_summary hj
  have hread : Indices.Breakdown.read totalName (cardinality k.countField) =
      .mk (.ok (.cardinality k.countField)) [] := rfl
  rw [summary_leftBy, hread, Indices.Breakdown.summary_cardinality, List.filter_filter] at hanswer
  obtain rfl := Except.ok.inj hanswer
  have hpasses : (fun doc => passesBoth p.request.postFilter none doc &&
      Indices.finds p.request.query.asRead doc) =
      passes p.request.query.asRead (p.request.postFilter.map Query.asRead) := by
    funext doc
    rw [passes, Option.all_map]
    rfl
  rw [← hpasses]
  exact distinctTotal?_of_unwrap hget hunwrap

end Search

/-! ## Documents -/

namespace Documents

open Search (Matches)

/-- What a document store counts of the documents that match. -/
def total (idField : String) (c : Criteria) (docs : List Json) : Nat :=
  match c.collapse with
  | some k => Indices.cardinality k.countField (Indices.rootParts docs)
  | none => (docs.filter (Indices.behind idField c.scrollAfter)).length

theorem total_of_search {e : Indices.Engine}
    (h : (((inMemory entity settings).search c).on e).1 = .ok out) :
    ∃ ix, ∃ counts : Json → Bool, e.find entity.storage = .ok ix ∧
      (∀ doc, counts doc = true ↔ Matches entity c doc) ∧
      out.total = total entity.idField c ((ix.documents.map (·.source)).filter counts) := by
  obtain ⟨p, raw, hplan, hraw, hout⟩ := exists_of_search h
  obtain ⟨ix, sorts, shown, found, hix, hread, rfl, hfound⟩ := Indices.exists_answerJson hraw
  obtain ⟨hfilters, hindex, hquery⟩ := Search.query_of_plan hplan
  obtain ⟨hpost, -, hwrapped⟩ := Search.parts_of_plan hplan
  have hafter := Search.isAfter_of_plan hplan hread
  rw [Indices.outcome_answerJson] at hout
  obtain ⟨results, -, rfl⟩ := map_eq_ok_iff.mp hout
  refine ⟨ix, Indices.passes p.request.query.asRead (p.request.postFilter.map Search.Query.asRead),
    hindex ▸ hix, fun doc => ?_, ?_⟩
  · rw [hquery]
    exact Search.passes_asRead_iff hfilters hpost
  · -- Collapsed records are counted among the aggregations, others among the hits.
    rw [total, hwrapped]
    cases hcollapse : c.collapse with
    | some k =>
      exact congrArg (Option.getD · _) (Search.distinctTotal?_of_plan hplan hcollapse hfound)
    | none =>
      show ((Indices.Request.asRead p.request sorts).hits ix).length = _
      rw [Indices.length_hits]
      simp only [hafter, List.filter_map, List.length_map]
      rfl

theorem total_onPart {e : Indices.Engine} {out' : Outcome}
    (h : (((inMemory entity settings).search c).on e).1 = .ok out)
    (h' : (((inMemory entity settings).search (c.onPart page last)).on e).1 = .ok out') :
    ∃ ix, ∃ counts : Json → Bool, e.find entity.storage = .ok ix ∧
      (∀ doc, counts doc = true ↔ Matches entity c doc) ∧
      let docs := (ix.documents.map (·.source)).filter counts
      out.total = total entity.idField c docs ∧
        out'.total = total entity.idField (c.onPart page last) docs := by
  obtain ⟨ix, counts, hix, hcounts, htotal⟩ := total_of_search h
  obtain ⟨ix', counts', hix', hcounts', htotal'⟩ := total_of_search h'
  obtain rfl := Except.ok.inj (hix.symm.trans hix')
  have hmatches : ∀ doc, Matches entity (c.onPart page last) doc ↔ Matches entity c doc :=
    fun doc => ⟨fun ⟨hfilters, htexts, hposts⟩ => ⟨hfilters, htexts, hposts⟩,
      fun ⟨hfilters, htexts, hposts⟩ => ⟨hfilters, htexts, hposts⟩⟩
  obtain rfl : counts = counts' := funext fun doc => Bool.eq_iff_iff.mpr
    ((hcounts doc).trans ((hmatches doc).symm.trans (hcounts' doc).symm))
  exact ⟨ix, counts, hix, hcounts, htotal, htotal'⟩

end Documents

/-! ## Both stores -/

/-- Let criteria differ in their pages and in the identities that they scroll
from. Where a database accepts both, they have one total, and so they have in a
document store where records are collapsed or the scrolls agree. Otherwise a
document store counts, of the documents that match, those alone that come behind
the identity in question. -/
theorem a_total_counts_all_matches_or_those_that_a_scroll_has_left (entity : Entity)
    (settings : Settings) (c : Criteria) (page : Page) (last : Option Value) :
    (∀ (s : Relational.State Tables.Engine) (out out' : Outcome),
      (((Relational.inMemory entity settings).search c).on s).1 = .ok out →
      (((Relational.inMemory entity settings).search (c.onPart page last)).on s).1 = .ok out' →
      out'.total = out.total) ∧
    ∀ (e : Indices.Engine) (out out' : Outcome),
      (((Documents.inMemory entity settings).search c).on e).1 = .ok out →
      (((Documents.inMemory entity settings).search (c.onPart page last)).on e).1 = .ok out' →
      (c.collapse.isSome ∨ last = c.scrollAfter → out'.total = out.total) ∧
      ∃ ix, ∃ counts : Json → Bool, e.find entity.storage = .ok ix ∧
        (∀ doc, counts doc = true ↔ Search.Matches entity c doc) ∧
        let docs := (ix.documents.map (·.source)).filter counts
        out.total = Documents.total entity.idField c docs ∧
          out'.total = Documents.total entity.idField (c.onPart page last) docs := by
  refine ⟨fun s out out' h h' => Relational.total_onPart h h', fun e out out' h h' => ?_⟩
  obtain ⟨ix, counts, hix, hcounts, htotal, htotal'⟩ := Documents.total_onPart h h'
  refine ⟨fun hsame => ?_, ix, counts, hix, hcounts, htotal, htotal'⟩
  rw [htotal, htotal']
  rcases hsame with hcollapse | rfl
  · obtain ⟨k, hk⟩ := Option.isSome_iff_exists.mp hcollapse
    simp only [Documents.total, Criteria.onPart, hk]
  · rfl

/-- Behind the first of two products a table counts as many names as without a scroll,
and an index counts one product of the two. -/
theorem behind_the_first_product_there_is_one :
    let entity : Entity := { name := "product", storage := "products" }
    let t : Tables.Table := {
      shape := .make "products" "id" [("name", .text)] []
      rows := [[("id", .int 1), ("name", .text "Oak")], [("id", .int 2), ("name", .text "Ash")]] }
    let s : Relational.State Tables.Engine := .initial {} { tables := [("products", t)] }
    let e : Indices.Engine := { indices := [("products", { documents :=
      [⟨"1", .obj [("id", .int 1), ("name", .str "Oak")]⟩,
        ⟨"2", .obj [("id", .int 2), ("name", .str "Ash")]⟩] })] }
    let names : Criteria := { groupBy := ["name"] }
    let first : Option Value := some (.int 1)
    (∃ out out', (((Relational.inMemory entity {}).search names).on s).1 = .ok out ∧
      (((Relational.inMemory entity {}).search (names.onPart ⟨1, some 1⟩ first)).on s).1 = .ok out' ∧
      out'.total = out.total) ∧
    ∃ out out', (((Documents.inMemory entity {}).search {}).on e).1 = .ok out ∧
      (((Documents.inMemory entity {}).search (Criteria.onPart {} {} first)).on e).1 = .ok out' ∧
      out.total = 2 ∧ out'.total = 1 := by
  intro entity t s e names first
  obtain ⟨out, hout, -⟩ :
      ∃ out, (((Relational.inMemory entity {}).search names).on s).1 = .ok out ∧ _ :=
    exists_of_any (p := fun _ => true) (by decide +kernel)
  obtain ⟨out', hout', -⟩ : ∃ out, (((Relational.inMemory entity {}).search
      (names.onPart ⟨1, some 1⟩ first)).on s).1 = .ok out ∧ _ :=
    exists_of_any (p := fun _ => true) (by decide +kernel)
  obtain ⟨found, hfound, -⟩ :
      ∃ out, (((Documents.inMemory entity {}).search {}).on e).1 = .ok out ∧ _ :=
    exists_of_any (p := fun _ => true) (by decide +kernel)
  obtain ⟨found', hfound', -⟩ : ∃ out, (((Documents.inMemory entity {}).search
      (Criteria.onPart {} {} first)).on e).1 = .ok out ∧ _ :=
    exists_of_any (p := fun _ => true) (by decide +kernel)
  obtain ⟨htables, -⟩ :=
    a_total_counts_all_matches_or_those_that_a_scroll_has_left entity {} names ⟨1, some 1⟩ first
  obtain ⟨-, hindices⟩ :=
    a_total_counts_all_matches_or_those_that_a_scroll_has_left entity {} {} {} first
  obtain ⟨-, ix, counts, hix, hcounts, htotal, htotal'⟩ := hindices e found found' hfound hfound'
  obtain rfl := Except.ok.inj hix
  obtain rfl : counts = fun _ => true := funext fun doc => (hcounts doc).mpr ⟨nofun, nofun, nofun⟩
  exact ⟨⟨out, out', hout, hout', htables s out out' hout hout'⟩, found, found', hfound, hfound',
    htotal.trans (by decide +kernel), htotal'.trans (by decide +kernel)⟩

end EntityStore
