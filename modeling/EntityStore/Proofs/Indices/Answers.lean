-- The answer to a request for a page, and what is read from it: the documents
-- that the query finds, in the order of the sorts. Requests that differ in the
-- part of the hits that they ask for have the same hits, up to the keys that they
-- begin behind.
import EntityStore.Indices.Hits
import EntityStore.Proofs.Indices.Requests
import EntityStore.Proofs.Search.Plain
import EntityStore.Search.Response

namespace EntityStore.Indices

open Search (get?_object)

variable {q : Search.Query} {post : Option Search.Query} {sorts : List SortBy}
  {offset limit : Nat}

/-! ## Hits -/

/-- A document passes the query, and the one that hits have to pass besides
it. -/
def passes (q : Search.Query) (post : Option Search.Query) (doc : Json) : Bool :=
  (post.all fun p => finds p doc) && finds q doc

/-- The values that a document is sorted by. -/
def sortKeys (sorts : List SortBy) (doc : Json) : List (Option Value) :=
  sorts.map fun s => (SortKey.ofField s.field s.direction).value? doc

/-- One document does not come behind another one. -/
def ranks (sorts : List SortBy) (a b : Json) : Bool :=
  (orderHits (sorts.map fun s => .ofField s.field s.direction) (sortKeys sorts a)
    (sortKeys sorts b)).isLE

/-- The hits of a page are the documents that pass, in the order of the
sorts. -/
theorem hits_ofPage {ix : Index} :
    (Request.ofPage q post sorts offset limit).hits ix =
      ((ix.documents.filter fun d => passes q post d.source).mergeSort
        fun a b => ranks sorts a.source b.source).map
        (Request.ofPage q post sorts offset limit).hit := by
  have hafter : (Request.ofPage q post sorts offset limit).isAfter = fun _ => true := rfl
  have hrank : ∀ a b : Document, ranks sorts a.source b.source =
      (orderHits (Request.ofPage q post sorts offset limit).sorts
        ((Request.ofPage q post sorts offset limit).hit a).keys
        ((Request.ofPage q post sorts offset limit).hit b).keys).isLE := by
    intro a b
    simp only [ranks, sortKeys, Request.hit, Request.ofPage, List.map_map]
    rfl
  rw [Request.hits, hafter, Request.found, List.filter_filter,
    List.filter_eq_self.mpr fun _ _ => rfl]
  exact (List.map_mergeSort fun a _ b _ => hrank a b).symm

/-! ## Reading hits -/

/-- What comes with a hit: the objects in it that the query asks for, and the hits
that were collapsed into it. -/
def Request.inner (r : Request) (all : List Hit) (h : Hit) : Fields Json :=
  Fields.extend (addInnerHits h.document.source r.query []) (r.collapsedInto all h)

/-- A document, or the part of it that a request shows. -/
def Request.seen (r : Request) (d : Document) : Document :=
  { d with source := r.shown.elim d.source fun filter => project filter d.source }

theorem get?_hitJson (r : Request) (name : String) (all : List Hit) (h : Hit) {k : String}
    (hk : k ≠ "sort") :
    (r.hitJson name all h).get? k =
      (if k = "inner_hits" ∧ r.inner all h ≠ [] then some (.obj (r.inner all h)) else none).or
      (Fields.get? (Fields.ofList [("_index", .str name), ("_id", .str h.document.id),
        ("_score", .null), ("_source", (r.seen h.document).source)]) k) := by
  have hsort : Fields.get? (Fields.ofList (if r.sorts.isEmpty then []
      else [("sort", Json.arr (h.keys.map Request.keyJson))])) k = none := by
    split
    · rfl
    · rw [Fields.get?_ofList_cons, if_neg hk]
      rfl
  have hjson : r.hitJson name all h = Json.object (
      [("_index", .str name), ("_id", .str h.document.id), ("_score", .null),
        ("_source", (r.seen h.document).source)] ++
      (if r.sorts.isEmpty then [] else [("sort", Json.arr (h.keys.map Request.keyJson))]) ++
      (if (r.inner all h).isEmpty then [] else [("inner_hits", .obj (r.inner all h))])) := rfl
  rw [hjson, get?_object, Fields.get?_ofList_append, Fields.get?_ofList_append, hsort,
    Option.none_or]
  cases r.inner all h with
  | nil => simp [Fields.get?_ofList_nil]
  | cons p inner => simp [Fields.get?_ofList_cons, Fields.get?_ofList_nil]

/-- The record of a document: its members, and its identity where no member
goes by the name of it. -/
def Document.record (idField : String) (d : Document) : Fields Json :=
  let members := d.source.members?.getD []
  if members.contains idField then members else members.insert idField (.str d.id)

theorem Document.record_of_contains {idField : String} {d : Document} {members : Fields Json}
    (hsource : d.source = .obj members) (hid : Fields.contains members idField = true) :
    d.record idField = members := by
  rw [record, hsource]
  exact if_pos hid

/-- What is shown of a document: its record, and the objects in it that a query
asks for. -/
def Document.shown (idField : String) (q : Search.Query) (d : Document) : Fields Json :=
  let inner := addInnerHits d.source q []
  if inner.isEmpty then d.record idField
  else (d.record idField).insert Search.innerHitsName
    (.obj (inner.mapValues fun hits => .arr (Search.hitSources hits)))

theorem Document.shown_of_plain (d : Document) (hq : Search.Plain q) (idField : String) :
    d.shown idField q = d.record idField := by
  rw [shown, hq.noInnerHits]
  rfl

/-- A hit is read as the record of its document, with what comes with it. -/
theorem row_hitJson_eq (r : Request) (idField name : String) (all : List Hit) (h : Hit) :
    Search.row idField (r.hitJson name all h) =
      if (r.inner all h).isEmpty then (r.seen h.document).record idField
      else ((r.seen h.document).record idField).insert Search.innerHitsName
        (.obj ((r.inner all h).mapValues fun hits => .arr (Search.hitSources hits))) := by
  have hget := fun k hk => get?_hitJson r name all h (k := k) hk
  generalize r.hitJson name all h = j at hget
  have hdoc : j.get? "_source" = some (r.seen h.document).source := by
    rw [hget _ (by decide)]
    simp [Fields.get?_ofList_cons, Fields.get?_ofList_nil]
  have hid : j.get? "_id" = some (.str h.document.id) := by
    rw [hget _ (by decide)]
    simp [Fields.get?_ofList_cons, Fields.get?_ofList_nil]
  have hinner : j.get? "inner_hits" =
      if r.inner all h ≠ [] then some (.obj (r.inner all h)) else none := by
    rw [hget _ (by decide)]
    simp [Fields.get?_ofList_cons, Fields.get?_ofList_nil]
  rw [Search.row, hdoc, hid, hinner]
  cases r.inner all h <;> rfl

/-- A hit is read as what is shown of its document. -/
theorem row_hitJson_eq_shown {r : Request} (hshown : r.shown = none) (hcollapse : r.collapse = none)
    (idField name : String) (all : List Hit) (h : Hit) :
    Search.row idField (r.hitJson name all h) = h.document.shown idField r.query := by
  have hseen : r.seen h.document = h.document := by
    rw [Request.seen, hshown]
    rfl
  have hinner : r.inner all h = addInnerHits h.document.source r.query [] := by
    rw [Request.inner, Request.collapsedInto, hcollapse]
    rfl
  rw [row_hitJson_eq, hseen, hinner]
  rfl

/-- A hit of a page is read as the record of its document. -/
theorem row_hitJson (hq : Search.Plain q) (idField name : String) (all : List Hit) (h : Hit) :
    Search.row idField ((Request.ofPage q post sorts offset limit).hitJson name all h) =
      h.document.record idField :=
  (row_hitJson_eq_shown rfl rfl idField name all h).trans (h.document.shown_of_plain hq idField)

/-! ## Answers -/

/-- The document of an answer that shows some of all hits. -/
def answerJson (all : Nat) (shown : List Json) (summary : Option (Fields Json)) : Json :=
  Json.object ([("took", .int 0), ("timed_out", .bool false), ("hits", Json.object [
    ("total", Json.object [("value", Json.ofNat all), ("relation", .str "eq")]),
    ("max_score", .null), ("hits", .arr shown)])] ++
    (summary.map fun s => ("aggregations", Json.obj s)).toList)

/-- An answer is read as the hits that it shows, the number of all hits or the
count that stands for it, and what the aggregations say. -/
theorem outcome_answerJson (p : Search.Plan) (idField : String) (all : Nat) (shown : List Json)
    (summary : Option (Fields Json)) :
    p.outcome idField (answerJson all shown summary) =
      (Search.results (summary.getD []) p.layouts).map fun aggregations => {
        rows := shown.map (Search.row idField)
        total := (p.distinctWrapped.bind (Search.distinctTotal? (summary.getD []))).getD all
        aggregations := aggregations } := by
  generalize hhits : Json.object [
    ("total", Json.object [("value", Json.ofNat all), ("relation", .str "eq")]),
    ("max_score", .null), ("hits", .arr shown)] = hits
  have hanswer : (answerJson all shown summary).get? "hits" = some hits := by
    rw [answerJson, hhits, get?_object]
    cases summary <;> simp [Fields.get?_ofList_cons, Fields.get?_ofList_nil]
  have hsummary : (((answerJson all shown summary).get? "aggregations").bind
      Json.members?).getD [] = summary.getD [] := by
    rw [answerJson, get?_object]
    cases summary <;> simp [Fields.get?_ofList_cons, Fields.get?_ofList_nil, Json.members?]
  have hitems : hits.get? "hits" = some (.arr shown) := by
    rw [← hhits, get?_object]
    simp [Fields.get?_ofList_cons, Fields.get?_ofList_nil]
  have htotal : Search.totalHits hits = all := by
    have hget : hits.get? "total" = some (Json.object [("value", Json.ofNat all),
        ("relation", .str "eq")]) := by
      rw [← hhits, get?_object]
      simp [Fields.get?_ofList_cons, Fields.get?_ofList_nil]
    have hvalue : Fields.get? (Fields.ofList [("value", Json.ofNat all),
        ("relation", .str "eq")]) "value" = some (Json.ofNat all) := by
      simp [Fields.get?_ofList_cons, Fields.get?_ofList_nil]
    rw [Search.totalHits, hget, Json.object]
    dsimp only
    rw [hvalue]
    rfl
  rw [Search.Plan.outcome, hanswer]
  simp only [pure_bind, hsummary, hitems, htotal, Option.bind_some, Json.items?, Option.getD_some]
  cases Search.results (summary.getD []) p.layouts <;> rfl

/-- The answer to a request for a page. -/
def pageAnswer (r : Request) (name : String) (all : List Hit) : Json :=
  Json.object [("took", .int 0), ("timed_out", .bool false), ("hits", Json.object [
    ("total", Json.object [("value", Json.ofNat all.length), ("relation", .str "eq")]),
    ("max_score", .null),
    ("hits", .arr (((all.drop r.offset).take r.limit).map (r.hitJson name all)))])]

theorem answer_ofPage (name : String) (ix : Index) :
    (Request.ofPage q post sorts offset limit).answer name ix =
      .ok (pageAnswer (.ofPage q post sorts offset limit) name
        ((Request.ofPage q post sorts offset limit).hits ix)) := rfl

/-- An answer without aggregations is read as the hits that it shows and the
number of all hits. -/
theorem outcome_pageAnswer (p : Search.Plan) (hlayouts : p.layouts = [])
    (hwrapped : p.distinctWrapped = none) (r : Request) (idField name : String) (all : List Hit) :
    p.outcome idField (pageAnswer r name all) = .ok {
      rows := ((all.drop r.offset).take r.limit).map fun h =>
        Search.row idField (r.hitJson name all h)
      total := all.length } := by
  have hanswer : pageAnswer r name all = answerJson all.length
      (((all.drop r.offset).take r.limit).map (r.hitJson name all)) none := rfl
  rw [hanswer, outcome_answerJson, hlayouts, hwrapped, List.map_map]
  rfl

/-- The answer for an index that holds some records is read as the page of
those that pass. -/
theorem outcome_ofPage (p : Search.Plan) (hlayouts : p.layouts = [])
    (hwrapped : p.distinctWrapped = none) (hq : Search.Plain q) (idField name : String) {ix : Index}
    {records : List (Fields Json)} {id : Fields Json → String}
    (hdocuments : ix.documents = records.map fun r => ⟨id r, .obj r⟩)
    (hids : ∀ r ∈ records, Fields.contains r idField = true) :
    let found := (records.filter fun r => passes q post (.obj r)).mergeSort
      fun a b => ranks sorts (.obj a) (.obj b)
    p.outcome idField (pageAnswer (.ofPage q post sorts offset limit) name
      ((Request.ofPage q post sorts offset limit).hits ix)) = .ok {
        rows := (found.drop offset).take limit
        total := found.length } := by
  intro found
  let document (r : Fields Json) : Document := ⟨id r, .obj r⟩
  have hsorted : found.map document = ((records.filter fun r => passes q post (.obj r)).map
      document).mergeSort fun a b => ranks sorts a.source b.source :=
    List.map_mergeSort fun _ _ _ _ => rfl
  have hhits : (Request.ofPage q post sorts offset limit).hits ix =
      found.map fun r => (Request.ofPage q post sorts offset limit).hit (document r) := by
    have hmap : found.map (fun r => (Request.ofPage q post sorts offset limit).hit (document r)) =
        (found.map document).map (Request.ofPage q post sorts offset limit).hit := by
      rw [List.map_map]
      rfl
    rw [hits_ofPage, hdocuments, List.filter_map, hmap, hsorted]
    rfl
  have hrows : ∀ all, ∀ r ∈ (found.drop offset).take limit,
      Search.row idField ((Request.ofPage q post sorts offset limit).hitJson name all
        ((Request.ofPage q post sorts offset limit).hit (document r))) = r := by
    intro all r hr
    have hr := List.mem_mergeSort.mp (List.mem_of_mem_drop (List.mem_of_mem_take hr))
    exact (row_hitJson hq idField name all _).trans
      (Document.record_of_contains rfl (hids r (List.mem_filter.mp hr).1))
  have hpage : ∀ all, (((found.map fun r => (Request.ofPage q post sorts offset limit).hit
      (document r)).drop offset).take limit).map (fun h => Search.row idField
        ((Request.ofPage q post sorts offset limit).hitJson name all h)) =
      (found.drop offset).take limit := by
    intro all
    rw [← List.map_drop, ← List.map_take, List.map_map]
    exact (List.map_congr_left (hrows all)).trans (List.map_id _)
  rw [outcome_pageAnswer p hlayouts hwrapped, hhits, List.length_map]
  exact congrArg (fun rows => Except.ok (⟨rows, found.length, []⟩ : Outcome)) (hpage _)

end EntityStore.Indices

namespace EntityStore

/-- The request for another part of the hits. -/
def Search.Request.part (r : Search.Request) (start size : Nat) (after : Option (List Json)) :
    Search.Request :=
  { r with start := start, size := size, after := after }

namespace Indices

/-- What a request asks for, with another part of the hits. -/
def Request.part (r : Request) (start size : Nat) (after : Option (List (Option Value))) :
    Request :=
  { r with offset := start, limit := size, after := after }

/-! ## Reading requests -/

/-- A request for another part is read as what the request asks for, with that
part. -/
theorem Request.ofJson_part (r : Search.Request) (start size : Nat)
    (after : Option (List Json)) :
    Request.ofJson (r.part start size after).toJson =
      (Request.ofJson r.toJson).map fun q => q.part start size (after.map keysOf) := by
  have hsort : (r.part start size after).sort = r.sort := rfl
  rw [ofJson_toJson, ofJson_toJson, hsort]
  cases (r.sort.map Search.SortKey.toJson).mapM SortKey.read <;> rfl

/-! ## Hits -/

/-- The rows of all hits that an answer could show. -/
def Request.rows (q : Request) (idField name : String) (ix : Index) : List (Fields Json) :=
  (q.collapsed (q.hits ix)).map fun h => Search.row idField (q.hitJson name (q.hits ix) h)

section

variable {q : Request} {ix : Index} {start size : Nat} {after : Option (List (Option Value))}

/-- The documents that a request finds, in the order of its sorts. -/
def Request.matching (q : Request) (ix : Index) : List Document :=
  (ix.documents.filter fun d => passes q.query q.postFilter d.source).mergeSort fun a b =>
    (orderHits q.sorts (q.hit a).keys (q.hit b).keys).isLE

theorem mem_matching_iff {d : Document} : d ∈ q.matching ix ↔
    d ∈ ix.documents ∧ passes q.query q.postFilter d.source = true :=
  List.mem_mergeSort.trans List.mem_filter

/-- The hits are the documents that match, without those that they begin behind. -/
theorem hits_eq (q : Request) (ix : Index) :
    q.hits ix = ((q.matching ix).filter fun d => q.isAfter (q.hit d)).map q.hit := by
  have hsorted : (q.matching ix).map q.hit = ((ix.documents.filter fun d =>
      passes q.query q.postFilter d.source).map q.hit).mergeSort fun a b =>
        (orderHits q.sorts a.keys b.keys).isLE :=
    List.map_mergeSort fun _ _ _ _ => rfl
  have hhits : q.hits ix = ((((ix.documents.filter fun d => finds q.query d.source).filter
      fun d => q.postFilter.all fun p => finds p d.source).map q.hit).mergeSort fun a b =>
        (orderHits q.sorts a.keys b.keys).isLE).filter q.isAfter := rfl
  rw [hhits, List.filter_filter]
  exact (congrArg (List.filter _) hsorted.symm).trans List.filter_map

theorem hits_part :
    (q.part start size after).hits ix = ((q.matching ix).filter fun d =>
      (q.part start size after).isAfter (q.hit d)).map q.hit :=
  hits_eq (q.part start size after) ix

theorem rows_part (hcollapse : q.collapse = none) (hshown : q.shown = none)
    (idField name : String) :
    (q.part start size after).rows idField name ix = ((q.matching ix).filter fun d =>
      (q.part start size after).isAfter (q.hit d)).map (Document.shown idField q.query) := by
  have hcollapsed : ∀ hs, (q.part start size after).collapsed hs = hs := by
    intro hs
    have hnone : (q.part start size after).collapse = none := hcollapse
    rw [Request.collapsed, hnone]
  have hrow : ∀ all h, Search.row idField ((q.part start size after).hitJson name all h) =
      h.document.shown idField q.query := fun all h =>
    row_hitJson_eq_shown (r := q.part start size after) hshown hcollapse idField name all h
  simp only [Request.rows, hcollapsed, hrow, hits_part, List.map_map]
  rfl

end

/-! ## Answers -/

/-- What the answer to a request would say if it showed all of these rows: the
number of all hits or the count that stands for it, and the aggregations. -/
def Request.whole? (q : Request) (p : Search.Plan) (idField name : String) (ix : Index) :
    Option Outcome :=
  (q.summary ix).toOption.bind fun summary =>
    (Search.results (summary.getD []) p.layouts).toOption.map fun aggregations => {
      rows := q.rows idField name ix
      total := (p.distinctWrapped.bind (Search.distinctTotal? (summary.getD []))).getD
        (q.hits ix).length
      aggregations := aggregations }

/-- Whether there is an answer does not depend on the part that is asked for. -/
theorem Request.whole?_part {q : Request} {p : Search.Plan} {idField name : String} {ix : Index}
    (h : (q.whole? p idField name ix).isSome = true) (start size : Nat)
    (after : Option (List (Option Value))) :
    ∃ out, (q.part start size after).whole? p idField name ix = some out ∧
      out.rows = (q.part start size after).rows idField name ix := by
  have hsummary : (q.part start size after).summary ix = q.summary ix := rfl
  unfold Request.whole? at h ⊢
  rw [hsummary]
  cases hq : q.summary ix with
  | error f =>
    rw [hq] at h
    cases h
  | ok summary =>
    cases hresults : Search.results (summary.getD []) p.layouts with
    | error f =>
      rw [hq] at h
      dsimp only [Except.toOption, Option.bind_some] at h
      rw [hresults] at h
      cases h
    | ok aggregations =>
      dsimp only [Except.toOption, Option.bind_some]
      rw [hresults]
      exact ⟨_, rfl, rfl⟩

theorem Request.answer_eq (q : Request) (name : String) (ix : Index) :
    q.answer name ix = (q.summary ix).map (answerJson (q.hits ix).length
      ((((q.collapsed (q.hits ix)).drop q.offset).take q.limit).map
        (q.hitJson name (q.hits ix)))) := by
  unfold Request.answer
  cases q.summary ix <;> rfl

theorem outcome_answer (p : Search.Plan) (idField name : String) (ix : Index) (q : Request) :
    ((q.answer name ix).toOption.bind fun raw => (p.outcome idField raw).toOption) =
      (q.whole? p idField name ix).map fun out =>
        { out with rows := (out.rows.drop q.offset).take q.limit } := by
  rw [Request.answer_eq, Request.whole?]
  cases q.summary ix with
  | error f => rfl
  | ok summary =>
    show (p.outcome idField (answerJson _ _ _)).toOption = _
    rw [outcome_answerJson, List.map_map, List.map_take, List.map_drop]
    show Except.toOption _ = Option.map _ (Option.map _ _)
    cases Search.results (summary.getD []) p.layouts <;> rfl

end Indices

end EntityStore
