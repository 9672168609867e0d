-- Scrolling through an index. A search after an identity finds all documents
-- that match, sorts them by identity, and shows those behind it. Each match is
-- shown once, as in a table, from a value below all identities on. An index has to
-- be told that value in a document, which cannot write all of them.
import EntityStore.Proofs.Indices.Answers
import EntityStore.Proofs.Indices.Rereading
import EntityStore.Proofs.Search.Window
import EntityStore.Proofs.Store.Answers
import EntityStore.Proofs.Store.Finding
import EntityStore.Proofs.Store.Scrolling
import EntityStore.Proofs.Store.ScrollingTables

namespace EntityStore

open Call (Gives)
open Indices (finds)

/-! ## Documents that match -/

namespace Search

variable {e : Entity} {settings : Settings} {c : Criteria} {gs : List Filter.Group} {doc : Json}

/-- The query that a search makes of the filters and texts of some criteria. -/
def mainQuery (e : Entity) (c : Criteria) : Query :=
  (junctionOf e true (c.fullText.map multiMatch) c.filters).query

/-- A document passes all filters of some criteria. -/
structure Matches (e : Entity) (c : Criteria) (doc : Json) : Prop where
  filters : ∀ g ∈ c.filters, g.isEmpty = false → GroupHolds e g doc
  texts : ∀ t ∈ c.fullText, finds (multiMatch t) doc = true
  postFilters : ∀ g ∈ c.postFilters, g.isEmpty = false → GroupHolds e g doc

theorem counted_container (withHits : Bool) (field path : String)
    (_ : e.nestedPath? field = some path) (q : Query) (hq : q.Counted) :
    (container e withHits path q).Counted := hq

theorem counted_mainQuery (h : Compile c.filters) : (mainQuery e c).Counted :=
  Query.hereditary_counted.junctionOf h (List.forall_mem_map.mpr fun _ _ => trivial)
    (counted_container true)

theorem counted_of_groups {withHits : Bool} {q : Query}
    (h : groups e withHits gs = .ok (some q)) : q.Counted :=
  Query.hereditary_counted.of_groups (compile_of_groups h) (counted_container withHits) h

theorem matches_iff {post : Option Query} (hfilters : Compile c.filters)
    (hpost : groups e false c.postFilters = .ok post) :
    Indices.passes (mainQuery e c) post doc = true ↔ Matches e c doc := by
  have hmain : finds (mainQuery e c) doc = true ↔ _ :=
    finds_junctionOf_iff e true (c.fullText.map multiMatch) hfilters
  rw [Indices.passes, Bool.and_eq_true, finds_of_groups_iff hpost, hmain, List.forall_mem_map]
  exact ⟨fun ⟨hposts, htexts, hfilters⟩ => ⟨hfilters, htexts, hposts⟩,
    fun h => ⟨h.postFilters, h.texts, h.filters⟩⟩

/-- A document passes the queries as they are read when it matches. -/
theorem passes_asRead_iff {post : Option Query} (hfilters : Compile c.filters)
    (hpost : groups e false c.postFilters = .ok post) :
    Indices.passes (mainQuery e c).asRead (post.map Query.asRead) doc = true ↔
      Matches e c doc := by
  have hposts : ∀ q ∈ post, finds q.asRead doc = finds q doc := by
    rintro q rfl
    exact Query.finds_asRead q (counted_of_groups hpost) doc
  have hsame : Indices.passes (mainQuery e c).asRead (post.map Query.asRead) doc =
      Indices.passes (mainQuery e c) post doc := by
    rw [Indices.passes, Indices.passes, Query.finds_asRead _ (counted_mainQuery hfilters)]
    cases post with
    | none => rfl
    | some q => rw [Option.map_some, Option.all_some, Option.all_some, hposts q rfl]
  rw [hsame]
  exact matches_iff hfilters hpost

/-! ## Plans -/

/-- The requests of searches after different identities differ in the identity
alone. -/
theorem plan_after {limit : Nat} {start : Value} {p : Plan} (hc : c.Scrolls limit)
    (h : plan e settings (c.after start) = .ok p) :
    Compile c.filters ∧ groups e false c.postFilters = .ok p.request.postFilter ∧
      p.request.index = e.storage ∧ p.request.query = mainQuery e c ∧
      p.request.sort = [{ field := e.idField }] ∧
      p.request.collapse = none ∧ p.request.source = none ∧
      ∀ last, plan e settings (c.after last) = .ok { p with
        request := p.request.part 0 limit (some [Value.toJson last]) } := by
  obtain ⟨hforeign, ps, post, nodes, hps, hpost, hnodes, hwrapped, hrequest⟩ :=
    plan_eq_ok_iff.mp h
  have hfilters : partitions e c.filters = .ok ps := hps
  have hcompile := compile_of_partitions hfilters
  have hsource : sourceFilter (c.after start) = none := by
    have hsame : sourceFilter (c.after start) = sourceFilter c := rfl
    rw [hsame, sourceFilter, hc.included, hc.excluded]
    rfl
  have hcollapse : (c.after start).collapse = none := hc.collapse
  have hmain : ({ junction e true ps with must := (c.after start).fullText.map multiMatch } :
      Junction).query = mainQuery e c := by
    rw [partitions_eq_ok hcompile] at hfilters
    cases hfilters
    rfl
  rw [hsource, hcollapse, hmain] at hrequest
  refine ⟨hcompile, ?_, by rw [hrequest]; rfl, by rw [hrequest]; rfl, by rw [hrequest]; rfl,
    by rw [hrequest]; rfl, by rw [hrequest]; rfl, fun last => ?_⟩
  · rw [hrequest]
    exact hpost
  · refine plan_eq_ok_iff.mpr ⟨hforeign, ps, post, nodes, hps, hpost, hnodes, hwrapped, ?_⟩
    have hsame : sourceFilter (c.after last) = sourceFilter (c.after start) := rfl
    have hcollapse : (c.after last).collapse = none := hc.collapse
    have hlimit : (c.after last).page.limit = some limit := hc.page
    have hmain : ({ junction e true ps with must := (c.after last).fullText.map multiMatch } :
        Junction).query = mainQuery e c := hmain
    rw [hsame, hsource, hcollapse, hmain, hrequest]
    unfold page
    rw [hlimit]
    rfl

end Search

/-! ## Identities -/

namespace Indices

variable {q : Request} {ix : Index} {start size : Nat} {idField : String} {d : Document}

theorem get?_of_has (h : Kind.integer.Has (d.value idField)) :
    ∃ members, d.source = .obj members ∧
      Fields.get? members idField = some (d.value idField).toJson := by
  have hvalue : d.value idField = ((d.source.get? idField).map Value.ofJson).getD .null := rfl
  cases hget : d.source.get? idField with
  | none =>
    rw [hvalue, hget] at h
    exact absurd h Kind.integer.not_has_null
  | some j =>
    rw [hget, Option.map_some, Option.getD_some] at hvalue
    rw [hvalue] at h ⊢
    rw [toJson_ofJson_of_allows (Or.inr h)]
    cases hsource : d.source with
    | obj members =>
      rw [hsource] at hget
      exact ⟨members, rfl, hget⟩
    | _ =>
      rw [hsource] at hget
      cases hget

/-- A document is sorted by its identity. -/
theorem value?_id (hname : Text.hasChar '.' idField = false)
    (h : Kind.integer.Has (d.value idField)) :
    (SortKey.ofField idField .asc).value? d.source = some (d.value idField) := by
  obtain ⟨members, hsource, hget⟩ := get?_of_has h
  obtain ⟨n, hn⟩ := h.eq_int
  have hvalues : valuesAt d.source idField = [(d.value idField).toJson] := by
    rw [hsource, valuesAt_of_name hname, hget, hn]
    rfl
  have hvalue : (SortKey.ofField idField .asc).value? d.source =
      Value.least? ((valuesAt d.source idField ++ []).map Value.ofJson) := rfl
  rw [hvalue, hvalues, List.append_nil, List.map_singleton, h.ofJson_toJson]
  rfl

theorem get?_shown (hname : idField ≠ Search.innerHitsName) (q : Search.Query)
    (h : Kind.integer.Has (d.value idField)) :
    (d.shown idField q).get? idField = some (d.value idField).toJson := by
  obtain ⟨members, hsource, hget⟩ := get?_of_has h
  have hrecord : d.record idField = members :=
    Document.record_of_contains hsource (by rw [Fields.contains, hget]; rfl)
  rw [Document.shown, hrecord]
  split
  · exact hget
  · rw [Fields.get?_insert, if_neg hname, hget]

theorem keysOf_of_has {k : Kind} {v : Value} (h : k.Has v) : keysOf [v.toJson] = [some v] := by
  have hnull : v.toJson.isNull = false := by
    rw [← Value.isNull_ofJson, h.ofJson_toJson, h.isNull]
  rw [keysOf, List.map_singleton, hnull, h.ofJson_toJson]
  rfl

theorem Document.shown_asRead (d : Document) {q : Search.Query} (hq : q.Counted)
    (idField : String) : d.shown idField q.asRead = d.shown idField q := by
  rw [shown, shown, Search.Query.addInnerHits_asRead q hq]

/-- The order of hits that are sorted by their identities. -/
theorem orderHits_id {v w : Value} :
    orderHits [.ofField idField .asc] [some v] [some w] = Value.sortOrder v w :=
  Ordering.then_eq

variable (hsorts : q.sorts = [.ofField idField .asc])
  (hname : Text.hasChar '.' idField = false)

include hsorts hname

theorem keys_hit (h : Kind.integer.Has (d.value idField)) :
    (q.hit d).keys = [some (d.value idField)] := by
  rw [Request.hit, hsorts, List.map_singleton, value?_id hname h]

theorem isAfter_hit (h : Kind.integer.Has (d.value idField)) (w : Value) :
    (q.part start size (some [some w])).isAfter (q.hit d) =
      (Value.sortOrder (d.value idField) w).isGT := by
  have hafter : (q.part start size (some [some w])).isAfter (q.hit d) =
      (orderHits q.sorts (q.hit d).keys [some w]).isGT := rfl
  rw [hafter, keys_hit hsorts hname h, hsorts, orderHits_id]

/-- The documents that a request finds come in the order of their identities. -/
theorem matching_sorted (hints : ∀ d ∈ ix.documents, Kind.integer.Has (d.value idField))
    (hdistinct : ix.documents.Pairwise fun a b => a.value idField ≠ b.value idField) :
    (q.matching ix).Pairwise fun a b =>
      Value.precedes (a.value idField) (b.value idField) = true := by
  have hmem : ∀ d ∈ ix.documents.filter fun d => passes q.query q.postFilter d.source,
      Kind.integer.Has (d.value idField) := fun d h => hints d (List.mem_filter.mp h).1
  refine precedes_of_mergeSort hmem (hdistinct.filter _) fun a ha b hb => ?_
  rw [keys_hit hsorts hname (hmem a ha), keys_hit hsorts hname (hmem b hb), hsorts, orderHits_id,
    (hmem a ha).sortOrder (hmem b hb)]

omit hsorts hname

/-- The key of a value that a whole number exceeds says where it comes. A double
that is not finite is not kept by its document. -/
theorem isGT_key {v start : Value} (hv : Kind.integer.Has v)
    (hfinite : ∀ x, start = .float x → x.isFinite = true)
    (h : Value.compares Ordering.isGT v start = true) :
    ∃ w, keysOf [start.toJson] = [some w] ∧ (Value.sortOrder v w).isGT = true := by
  have hgreater : ∀ w, Value.compare? v w = Value.compare? v start →
      (Value.sortOrder v w).isGT = true := by
    intro w hw
    rw [Value.compares, ← hw] at h
    rw [Value.sortOrder]
    cases hcompare : Value.compare? v w with
    | none =>
      rw [hcompare] at h
      cases h
    | some o =>
      rw [hcompare] at h
      exact h
  obtain ⟨m, rfl⟩ := hv.eq_int
  cases start with
  | null => exact (Bool.false_ne_true h).elim
  | bool b => exact ⟨.bool b, rfl, hgreater _ rfl⟩
  | text t => exact ⟨.text t, rfl, hgreater _ rfl⟩
  | int n =>
    have hlt : n < m := Int.compare_eq_gt.mp (Ordering.isGT_iff_eq_gt.mp h)
    have hread : Value.ofJson (.int n) = .int n :=
      if_pos (Int.le_trans (Int.le_of_lt hlt) hv.2)
    exact ⟨.ofJson (.int n), rfl, hgreater _ (by rw [hread])⟩
  | float x =>
    have hdoc : Value.toJson (.float x) = .float x := if_pos (hfinite x rfl)
    rw [hdoc]
    exact ⟨.float x, rfl, hgreater _ rfl⟩
  | json doc =>
    cases doc with
    | null => exact (Bool.false_ne_true h).elim
    | int n =>
      refine ⟨.ofJson (.int n), rfl, hgreater _ ?_⟩
      have hunwrap : (Value.ofJson (.int n)).unwrap = Value.ofJson (.int n) := by
        rw [Value.ofJson]
        split <;> rfl
      rw [Value.compare?, hunwrap]
      rfl
    | bool b => exact ⟨.bool b, rfl, hgreater _ rfl⟩
    | float x => exact ⟨.float x, rfl, hgreater _ rfl⟩
    | str t => exact ⟨.text t, rfl, hgreater _ rfl⟩
    | arr items => exact ⟨.json (.arr items), rfl, hgreater _ rfl⟩
    | obj members => exact ⟨.json (.obj members), rfl, hgreater _ rfl⟩

end Indices

/-! ## Runs -/

namespace Documents

variable {entity : Entity} {settings : Settings} {indices : Fields Indices.Index}
  {ix : Indices.Index} {c : Criteria} {limit : Nat} {start : Value}

/-- A search after an identity shows what its request finds behind it. -/
theorem givesRows_after {p : Search.Plan} {q : Indices.Request} {last : Value}
    (hplan : Search.plan entity settings (c.after last) = .ok
      { p with request := p.request.part 0 limit (some [last.toJson]) })
    (hix : Indices.Engine.find { indices := indices } p.request.index = .ok ix)
    (hread : Indices.Request.ofJson p.request.toJson = .ok q) (hcollapse : q.collapse = none)
    (hshown : q.shown = none)
    (haccepted : (q.whole? p entity.idField p.request.index ix).isSome = true) :
    Call.GivesRows (Calm indices) ((inMemory entity settings).search (c.after last))
      ((((q.matching ix).filter fun d =>
        (q.part 0 limit (some (Indices.keysOf [last.toJson]))).isAfter (q.hit d)).take limit).map
          (Indices.Document.shown entity.idField q.query)) := by
  obtain ⟨whole, hwhole, hrows⟩ := Indices.Request.whole?_part haccepted 0 limit
    (some (Indices.keysOf [last.toJson]))
  have hwhole : whole? entity.idField indices p (some (Indices.keysOf [last.toJson])) =
      some whole := by
    rw [whole?, hix, hread]
    exact hwhole
  have hgives : Gives (Calm indices) ((inMemory entity settings).search (c.after last)) _ :=
    gives_search entity settings (c.after last)
  rw [hplan] at hgives
  have hanswer : answer? entity.idField indices { p with
      request := p.request.part 0 limit (some [last.toJson]) } = _ :=
    answer?_part entity.idField indices p 0 limit (some [last.toJson])
  rw [Option.map_some, hwhole] at hanswer
  refine ⟨_, hgives.congr hanswer, ?_⟩
  show (whole.rows.drop 0).take limit = _
  rw [hrows, Indices.rows_part hcollapse hshown, List.drop_zero, List.map_take]

/-- Where a search after some identity is accepted, one request stands for the
searches after all identities. What it finds are the documents that match. -/
theorem exists_request (hc : c.Scrolls limit) {e : Indices.Engine} {out : Outcome}
    (hfaults : e.faults = []) (hix : e.find entity.storage = .ok ix)
    (hfirst : (((inMemory entity settings).search (c.after start)).on e).1 = .ok out) :
    ∃ q : Indices.Request, q.sorts = [.ofField entity.idField .asc] ∧
      (∀ d, d ∈ q.matching ix ↔ d ∈ ix.documents ∧ Search.Matches entity c d.source) ∧
      ∀ last : Value, Call.GivesRows (Calm e.indices)
        ((inMemory entity settings).search (c.after last))
        ((((q.matching ix).filter fun d =>
          (q.part 0 limit (some (Indices.keysOf [last.toJson]))).isAfter (q.hit d)).take limit).map
            (Indices.Document.shown entity.idField (Search.mainQuery entity c))) := by
  have hgives := (gives_search entity settings (c.after start)).of_ok
    (show Calm e.indices e from ⟨rfl, hfaults⟩) hfirst
  cases hplan : Search.plan entity settings (c.after start) with
  | error f =>
    rw [hplan] at hgives
    cases hgives
  | ok p =>
    obtain ⟨hcompile, hpost, hindex, hquery, hsort, hcollapse, hsource, hplans⟩ :=
      Search.plan_after hc hplan
    have hix : Indices.Engine.find { indices := e.indices } p.request.index = .ok ix := by
      rw [hindex]
      exact hix
    rw [hplans start] at hgives
    have hanswer : answer? entity.idField e.indices { p with
      request := p.request.part 0 limit (some [start.toJson]) } = some out := hgives
    rw [answer?_part, whole?, hix, Option.map_eq_some_iff] at hanswer
    obtain ⟨all, hall, -⟩ := hanswer
    let q := Indices.Request.asRead p.request [.ofField entity.idField .asc]
    have hread : Indices.Request.ofJson p.request.toJson = .ok q := by
      rw [Indices.Request.ofJson_toJson, hsort, List.map_singleton, List.mapM_cons,
        Indices.SortKey.read_toJson]
      rfl
    rw [hread] at hall
    have haccepted : (q.whole? p entity.idField p.request.index ix).isSome = true := by
      obtain ⟨whole, hwhole, -⟩ := Indices.Request.whole?_part
        (Option.isSome_iff_exists.mpr ⟨all, hall⟩) q.offset q.limit q.after
      exact Option.isSome_iff_exists.mpr ⟨whole, hwhole⟩
    have hqueryRead : q.query = (Search.mainQuery entity c).asRead := by rw [← hquery]; rfl
    have hpostRead : q.postFilter = p.request.postFilter.map Search.Query.asRead := rfl
    have hcollapseRead : q.collapse = none := congrArg (Option.map _) hcollapse
    have hsourceRead : q.shown = none := congrArg (Option.map _) hsource
    have hshown : Indices.Document.shown entity.idField q.query =
        Indices.Document.shown entity.idField (Search.mainQuery entity c) := by
      rw [hqueryRead]
      exact funext fun d => d.shown_asRead (Search.counted_mainQuery hcompile) entity.idField
    refine ⟨q, rfl, fun d => ?_, fun last => ?_⟩
    · rw [Indices.mem_matching_iff, hqueryRead, hpostRead,
        Search.passes_asRead_iff hcompile hpost]
    · rw [← hshown]
      exact givesRows_after (hplans last) hix hread hcollapseRead hsourceRead haccepted

/-- Where a search of an index after a value below all identities is accepted, a
run of searches from there shows each document that matches, once and in the
order of identities. The value has to be one that a document can write, and the
nested objects that come with hits must not take the place of identities. -/
theorem scrollsThrough_index (hc : c.Scrolls limit) (hlimit : 0 < limit)
    (hname : Text.hasChar '.' entity.idField = false)
    (hinner : entity.idField ≠ Search.innerHitsName) {e : Indices.Engine} {out : Outcome}
    (hfaults : e.faults = []) (hix : e.find entity.storage = .ok ix)
    (hids : Numbered (fun d => d.value entity.idField) start ix.documents)
    (hfinite : ∀ x, start = .float x → x.isFinite = true)
    (hfirst : (((inMemory entity settings).search (c.after start)).on e).1 = .ok out) :
    ScrollsThrough (inMemory entity settings).search entity.idField c start e
      (fun d => d.value entity.idField)
      (Indices.Document.shown entity.idField (Search.mainQuery entity c)) ix.documents
      fun d => Search.Matches entity c d.source := by
  obtain ⟨q, hsorts, hmem, hpages⟩ := exists_request hc hfaults hix hfirst
  have hfound : ∀ d ∈ q.matching ix, Kind.integer.Has (d.value entity.idField) :=
    fun d hd => hids.integers d ((hmem d).mp hd).1
  have hsorted := Indices.matching_sorted hsorts hname hids.integers hids.distinct
  have hall : (q.matching ix).filter (fun d => (q.part 0 limit
      (some (Indices.keysOf [start.toJson]))).isAfter (q.hit d)) = q.matching ix := by
    refine List.filter_eq_self.mpr fun d hd => ?_
    obtain ⟨w, hkey, hgreater⟩ := Indices.isGT_key (hfound d hd) hfinite
      (hids.above d ((hmem d).mp hd).1)
    rw [hkey, Indices.isAfter_hit hsorts hname (hfound d hd), hgreater]
  have hbehind : ∀ a ∈ q.matching ix, (q.matching ix).filter (fun d => (q.part 0 limit
      (some (Indices.keysOf [(a.value entity.idField).toJson]))).isAfter (q.hit d)) =
      (q.matching ix).filter fun d =>
        Value.precedes (a.value entity.idField) (d.value entity.idField) := by
    refine fun a ha => List.filter_congr fun d hd => ?_
    rw [Indices.keysOf_of_has (hfound a ha), Indices.isAfter_hit hsorts hname (hfound d hd),
      (hfound d hd).sortOrder (hfound a ha), Value.isGT_order]
  have hfirst := hpages start
  rw [hall] at hfirst
  obtain ⟨pages, hscrolled, hflat⟩ := scrolled_of_gives hlimit hfound hsorted
    (fun d hd => Indices.get?_shown hinner (Search.mainQuery entity c) (hfound d hd))
    ⟨rfl, hfaults⟩ hfirst fun a ha => by
      have hnext := hpages (a.value entity.idField)
      rw [hbehind a ha] at hnext
      exact hnext
  exact ⟨_, pages, hscrolled, hflat, hsorted, hmem⟩

end Documents

end EntityStore

namespace EntityStore

/-- Searches that go on after the last identity received, from a value below
all identities on, end and show each record that matches once, in the order of
identities. For an index the value is no double that is not finite, and no
nested objects come under the name of identities. -/
theorem scrolling_shows_each_match_once (entity : Entity) (settings : Settings) {c : Criteria}
    {limit : Nat} (hc : c.Scrolls limit) (hlimit : 0 < limit)
    (hname : Text.hasChar '.' entity.idField = false) (start : Value) :
    (∀ (s : Relational.State Tables.Engine) (t : Tables.Table) (out : Outcome),
      s.timed.state.faults = [] → s.timed.state.tables.find entity.storage = .ok t →
      Numbered (Relational.idOf entity) start t.rows →
      (((Relational.inMemory entity settings).search (c.after start)).on s).1 = .ok out →
      ScrollsThrough (Relational.inMemory entity settings).search entity.idField c start s
        (Relational.idOf entity) Relational.shownRow t.rows
        (((Relational.inMemory entity settings).scope
          (Relational.knownColumns entity t s)).Matches c)) ∧
    ∀ (e : Indices.Engine) (ix : Indices.Index) (out : Outcome),
      e.faults = [] → e.find entity.storage = .ok ix →
      Numbered (fun d => d.value entity.idField) start ix.documents →
      (∀ x, start = .float x → x.isFinite = true) → entity.idField ≠ Search.innerHitsName →
      (((Documents.inMemory entity settings).search (c.after start)).on e).1 = .ok out →
      ScrollsThrough (Documents.inMemory entity settings).search entity.idField c start e
        (fun d => d.value entity.idField)
        (Indices.Document.shown entity.idField (Search.mainQuery entity c)) ix.documents
        fun d => Search.Matches entity c d.source := by
  constructor
  · intro s t out hfaults ht hids hfirst
    have hs : Relational.Holds True entity t (Relational.knownColumns entity t s)
        s.timed.state.tables s := ⟨⟨rfl, fun _ => hfaults⟩, ht, rfl⟩
    exact Relational.scrollsThrough_table hc hlimit hname hs hids hfirst
  · intro e ix out hfaults hix hids hfinite hinner hfirst
    exact Documents.scrollsThrough_index hc hlimit hname hinner hfaults hix hids hfinite hfirst

/-- Of three products two are in stock, and both stores show them in searches
for one product at a time. -/
theorem products_in_stock_are_shown_one_by_one :
    let entity : Entity := { name := "product", storage := "products" }
    let c : Criteria := {
      filters := [.all [.eq "stocked" (.bool true)]]
      page := ⟨1, some 1⟩ }
    let t : Tables.Table := {
      shape := .make "products" "id" [("stocked", .boolean)] []
      rows := [[("id", .int 3), ("stocked", .bool true)], [("id", .int 1), ("stocked", .bool true)],
        [("id", .int 2), ("stocked", .bool false)]] }
    let s : Relational.State Tables.Engine := .initial {} { tables := [("products", t)] }
    let ix : Indices.Index := {
      documents := [⟨"3", .obj [("id", .int 3), ("stocked", .bool true)]⟩,
        ⟨"1", .obj [("id", .int 1), ("stocked", .bool true)]⟩,
        ⟨"2", .obj [("id", .int 2), ("stocked", .bool false)]⟩] }
    let e : Indices.Engine := { indices := [("products", ix)] }
    ScrollsThrough (Relational.inMemory entity {}).search "id" c (.int 0) s
        (Relational.idOf entity) Relational.shownRow t.rows
        (((Relational.inMemory entity {}).scope
          (Relational.knownColumns entity t s)).Matches c) ∧
      ScrollsThrough (Documents.inMemory entity {}).search "id" c (.int 0) e
        (fun d => d.value "id")
        (Indices.Document.shown "id" (Search.mainQuery entity c)) ix.documents
        fun d => Search.Matches entity c d.source := by
  intro entity c t s ix e
  have hc : c.Scrolls 1 := ⟨rfl, rfl, rfl, rfl, rfl, rfl, rfl, rfl⟩
  obtain ⟨htable, hindex⟩ :=
    scrolling_shows_each_match_once entity {} hc (by decide) (by decide) (.int 0)
  obtain ⟨plan, hplan, haggregations⟩ : ∃ plan, ((Relational.inMemory entity {}).scope
      (Relational.knownColumns entity t s)).plan {} (c.after (.int 0)) = .ok plan ∧
        plan.aggregations.isEmpty = true := exists_of_any (by decide +kernel)
  obtain ⟨p, -, hplans⟩ := Relational.plan_after hc (by decide) hplan
  have hs : Relational.Holds True entity t (Relational.knownColumns entity t s)
      [("products", t)] s := ⟨⟨rfl, fun _ => rfl⟩, rfl, rfl⟩
  obtain ⟨out, hgives, -⟩ := Relational.givesRows_after (hplans (.int 0)) hs.find
    (by rw [List.isEmpty_iff.mp haggregations]; rfl)
  obtain ⟨_, hon, -⟩ := hgives.exists_ok hs
  have hout : (((Relational.inMemory entity {}).search (c.after (.int 0))).on s).1 = .ok out := by
    rw [hon]
  obtain ⟨out', hout', -⟩ : ∃ out,
      (((Documents.inMemory entity {}).search (c.after (.int 0))).on e).1 = .ok out ∧ _ :=
    exists_of_any (p := fun _ => true) (by decide +kernel)
  have hrows : Numbered (Relational.idOf entity) (.int 0) t.rows :=
    ⟨by decide, ne_of_not_beq (by decide), by decide⟩
  have hdocuments : Numbered (fun d => d.value "id") (.int 0) ix.documents :=
    ⟨by decide, ne_of_not_beq (by decide), by decide⟩
  exact ⟨htable s t out rfl rfl hrows hout,
    hindex e ix out' rfl rfl hdocuments nofun (by decide) hout'⟩

end EntityStore
