-- The objects that come with a row. Under each name a row has the objects that the
-- last clause with the name finds in its document. Two groups of filters that look
-- under one nested path ask under one name, so the objects of the first are lost.
import EntityStore.Proofs.Search.Asking
import EntityStore.Proofs.Store.Collapsing

namespace EntityStore

open Search (Asking LooksUnder Query)

/-! ## Hits -/

namespace Indices

theorem hitSources_innerHits (path : String) (q : Query) (doc : Json) :
    Search.hitSources (innerHits path q doc) =
      (objectsAt doc path).filter fun o => finds q (under path o) := by
  rw [innerHits]
  generalize (objectsAt doc path).filter (fun o => finds q (under path o)) = found
  have hat : ∀ hits : List Json, (hitList hits).at? ["hits", "hits"] = some (.arr hits) := by
    intro hits
    simp [hitList, Json.at?, Json.get?, Json.object, Json.members?, Fields.get?_cons,
      Fields.get?_ofList_cons, Fields.get?_ofList_nil]
  rw [Search.hitSources, hat]
  show (found.map fun o => Json.obj [("_source", o)]).filterMap (·.get? "_source") = found
  rw [List.filterMap_map]
  exact List.filterMap_some

/-- A hit that stays when hits are collapsed is that of a document that matches. -/
theorem exists_of_mem_collapsed {r : Request} {ix : Index} {h : Hit}
    (hh : h ∈ r.collapsed (r.hits ix)) : ∃ d ∈ r.matching ix, r.hit d = h := by
  have hmem : h ∈ r.hits ix := by
    unfold Request.collapsed at hh
    split at hh
    · exact (firsts_sublist ..).subset hh
    · exact hh
  rw [hits_eq] at hmem
  obtain ⟨d, hd, rfl⟩ := List.mem_map.mp hmem
  exact ⟨d, (List.mem_filter.mp hd).1, rfl⟩

end Indices

/-! ## Rows -/

/-- What comes with a row under a name. -/
def attached? (row : Fields Json) (name : String) : Option Json :=
  (row.get? Search.innerHitsName).bind (·.get? name)

/-- The row has what clauses ask for in a document. Under each name that is not taken it
has the objects of the last clause with the name, and so those of each clause where the
names differ. -/
structure Carries (asked : List Asking) (taken : Option String) (doc : Json) (row : Fields Json) :
    Prop where
  last : ∀ (i : Nat) a, asked[i]? = some a → a.name ∉ (asked.drop (i + 1)).map Asking.name →
    taken ≠ some a.name → attached? row a.name = some (.arr (a.objects doc))
  each : (asked.map Asking.name).Nodup → ∀ a ∈ asked, taken ≠ some a.name →
    attached? row a.name = some (.arr (a.objects doc))

namespace Indices

/-- Hits that are collapsed into one go by one name. -/
theorem get?_collapsedInto {r : Request} {name : String} (hname : r.collapseName ≠ some name)
    (all : List Hit) (h : Hit) :
    Fields.get? (Fields.ofList (r.collapsedInto all h)) name = none := by
  unfold Request.collapsedInto
  split
  · rename_i l _ hcollapse
    have hne : name ≠ l := fun heq => hname (heq ▸ hcollapse)
    rw [Fields.get?_ofList_cons, if_neg hne]
    rfl
  · rfl

/-- A row has the objects of a clause, where they are what stands under its name. -/
theorem attached?_row {r : Request} {asked : List Asking} {h : Hit} {a : Asking}
    (hattaches : addInnerHits h.document.source r.query [] =
      Fields.ofList (asked.map (Asking.entry h.document.source)))
    (hname : r.collapseName ≠ some a.name)
    (hget : Fields.get? (Fields.ofList (asked.map (Asking.entry h.document.source))) a.name =
      some (a.entry h.document.source).2) (idField name : String) (all : List Hit) :
    attached? (Search.row idField (r.hitJson name all h)) a.name =
      some (.arr (a.objects h.document.source)) := by
  have hinner : (r.inner all h).get? a.name = some (a.entry h.document.source).2 := by
    rw [Request.inner, hattaches, Fields.get?_extend, get?_collapsedInto hname, hget]
    rfl
  have hfilled : (r.inner all h).isEmpty = false := by
    cases hnil : r.inner all h with
    | nil =>
      rw [hnil] at hinner
      cases hinner
    | cons => rfl
  rw [row_hitJson_eq, hfilled, attached?]
  simp only [Bool.false_eq_true, if_false, Fields.get?_insert_self, Option.bind_some]
  show Fields.get? (Fields.mapValues _ (r.inner all h)) a.name = _
  rw [Fields.get?_mapValues, hinner, Option.map_some]
  exact congrArg (fun found => some (Json.arr found)) (hitSources_innerHits ..)

theorem carries_row {r : Request} {asked : List Asking} {h : Hit}
    (hattaches : addInnerHits h.document.source r.query [] =
      Fields.ofList (asked.map (Asking.entry h.document.source)))
    (idField name : String) (all : List Hit) :
    Carries asked r.collapseName h.document.source
      (Search.row idField (r.hitJson name all h)) where
  last := by
    intro i a ha hlast htaken
    refine attached?_row hattaches htaken ?_ idField name all
    have hentry : (asked.map (Asking.entry h.document.source))[i]? =
        some (a.entry h.document.source) := by
      rw [List.getElem?_map, ha]
      rfl
    refine Fields.get?_ofList_of_getElem? hentry ?_
    rw [← List.map_drop, Fields.keys, List.map_map]
    exact hlast
  each := by
    intro hnames a ha htaken
    refine attached?_row hattaches htaken ?_ idField name all
    refine Fields.get?_ofList_of_mem ?_ (List.mem_map_of_mem ha)
    rw [Fields.keys, List.map_map]
    exact hnames

end Indices

/-! ## Searches -/

namespace Search

variable {entity : Entity} {settings : Settings} {c : Criteria} {p : Plan}

theorem silent_texts (ts : List FullText) : ∀ q ∈ ts.map multiMatch, q.Silent :=
  List.forall_mem_map.mpr fun _ _ => ⟨rfl, fun _ _ => rfl⟩

theorem askings_of_plan (h : plan entity settings c = .ok p) :
    p.request.query.askings = c.filters.flatMap (askedBy entity) := by
  obtain ⟨hfilters, -, hquery⟩ := query_of_plan h
  rw [hquery, mainQuery]
  exact askings_junctionOf hfilters (silent_texts c.fullText)

theorem attaches_of_plan (h : plan entity settings c = .ok p) (doc : Json) :
    Indices.addInnerHits doc p.request.query.asRead [] =
      Fields.ofList (p.request.query.askings.map (Asking.entry doc)) := by
  obtain ⟨hfilters, -, hquery⟩ := query_of_plan h
  have hattaches : p.request.query.Attaches := by
    rw [hquery, mainQuery]
    exact attaches_junctionOf hfilters (silent_texts c.fullText)
  have hcounted : p.request.query.Counted := hquery ▸ counted_mainQuery hfilters
  rw [Query.addInnerHits_asRead _ hcounted, hattaches]
  rfl

end Search

namespace Documents

variable {entity : Entity} {settings : Settings} {c : Criteria} {p : Search.Plan}
  {engine : Indices.Engine} {ix : Indices.Index} {out : Outcome}

theorem carries_of_plan (hplan : Search.plan entity settings c = .ok p) (name : String)
    (all : List Indices.Hit) (d : Indices.Document) :
    Carries p.request.query.askings (c.collapse.bind (·.innerHits)) d.source
      (Search.row entity.idField ((asked p).hitJson name all ((asked p).hit d))) := by
  have hname : (asked p).collapseName = c.collapse.bind (·.innerHits) :=
    congrArg (Option.bind · _) (Search.collapse_of_plan hplan).1
  rw [← hname]
  exact Indices.carries_row (r := asked p) (h := (asked p).hit d)
    (Search.attaches_of_plan hplan d.source) entity.idField name all

/-- The rows of a search show documents that match, each with what is asked for. -/
theorem exists_shown (hplan : Search.plan entity settings c = .ok p)
    (h : (((inMemory entity settings).search c).on engine).1 = .ok out) :
    ∃ ix docs, engine.find entity.storage = .ok ix ∧
      (∀ d ∈ docs, d ∈ ix.documents ∧ Search.Matches entity c d.source) ∧
      List.Forall₂ (fun d row => Shows entity c d row ∧
        Carries p.request.query.askings (c.collapse.bind (·.innerHits)) d.source row)
        docs out.rows := by
  obtain ⟨p', ix, hplan', hix, hrows⟩ := rows_of_search h
  obtain rfl := Except.ok.inj (hplan.symm.trans hplan')
  let shown := (((asked p).collapsed ((asked p).hits ix)).drop p.request.start).take p.request.size
  have heach : ∀ hit ∈ shown, ∃ d ∈ (asked p).matching ix, (asked p).hit d = hit := fun hit hhit =>
    Indices.exists_of_mem_collapsed (List.mem_of_mem_drop (List.mem_of_mem_take hhit))
  have hshown : out.rows = shown.map fun hit =>
      Search.row entity.idField ((asked p).hitJson entity.storage ((asked p).hits ix) hit) := by
    rw [hrows, Indices.Request.rows, ← List.map_drop, ← List.map_take]
  refine ⟨ix, shown.map (·.document), hix, List.forall_mem_map.mpr fun hit hhit => ?_, ?_⟩
  · obtain ⟨d, hd, rfl⟩ := heach hit hhit
    obtain ⟨hmem, hpasses⟩ := Indices.mem_matching_iff.mp hd
    exact ⟨hmem, (Search.passes_of_plan hplan d.source).mp hpasses⟩
  · rw [hshown, List.forall₂_map_left_iff, List.forall₂_map_right_iff]
    refine List.forall₂_same.mpr fun hit hhit => ?_
    obtain ⟨d, -, rfl⟩ := heach hit hhit
    exact ⟨shows_row hplan _ _ d, carries_of_plan hplan _ _ d⟩

end Documents

/-- Inner hits go by the path of their clause. Each group of filters asks once under
each of the paths with inner hits that it looks under. So the names differ where no two
groups look under one of these paths, and only there. In a search each row shows a
document that matches, and has under each name the objects that the last clause with
the name finds in the document, unless the hits of a collapse go by it. A store without
faults answers where aggregations have names of their own and can be read. -/
theorem a_row_has_the_objects_of_the_last_clause_with_a_name (entity : Entity)
    (settings : Settings) (c : Criteria) (p : Search.Plan)
    (hplan : Search.plan entity settings c = .ok p) :
    let asked := p.request.query.askings
    let taken := c.collapse.bind (·.innerHits)
    (asked = c.filters.flatMap (Search.askedBy entity) ∧ (∀ a ∈ asked, a.name = a.path) ∧
      ∀ g, ((Search.askedBy entity g).map Asking.name).Nodup ∧
        ∀ path, path ∈ (Search.askedBy entity g).map Asking.name ↔
          path ∈ entity.innerHits ∧ LooksUnder entity path g) ∧
    ((asked.map Asking.name).Nodup ↔ c.filters.Pairwise fun g g' =>
      ∀ path ∈ entity.innerHits, LooksUnder entity path g → ¬ LooksUnder entity path g') ∧
    (∀ (engine : Indices.Engine) (out : Outcome),
      (((Documents.inMemory entity settings).search c).on engine).1 = .ok out →
      ∃ ix docs, engine.find entity.storage = .ok ix ∧
        (∀ d ∈ docs, d ∈ ix.documents ∧ Search.Matches entity c d.source) ∧
        List.Forall₂ (fun d row => Documents.Shows entity c d row ∧
          Carries asked taken d.source row) docs out.rows) ∧
    ∀ (engine : Indices.Engine) (ix : Indices.Index), engine.faults = [] →
      engine.find entity.storage = .ok ix → Search.NamesApart c →
      (∀ a ∈ c.aggregations, Search.Reads settings a) →
      ∃ out, (((Documents.inMemory entity settings).search c).on engine).1 = .ok out := by
  intro asked taken
  have hasked : asked = c.filters.flatMap (Search.askedBy entity) := Search.askings_of_plan hplan
  refine ⟨⟨hasked, fun a ha => ?_, fun g => ⟨Search.nodup_names_askedBy entity g, fun path =>
    Search.mem_names_askedBy_iff⟩⟩, ?_, fun engine out h => Documents.exists_shown hplan h,
    fun engine ix hfaults hix hnames hreads => ?_⟩
  · rw [hasked] at ha
    obtain ⟨g, -, ha⟩ := List.mem_flatMap.mp ha
    exact Search.name_of_askedBy ha
  · rw [hasked]
    exact Search.nodup_names_iff
  · obtain ⟨out, hout, -⟩ := Documents.exists_search hnames hreads hfaults hix hplan
    exact ⟨out, hout⟩

/-- One group asks for the item a and a card, another one for the item b. The row has the
card and the item b, for the items of the second group stand where those of the first
one were. -/
theorem the_items_of_the_second_group_are_shown :
    let entity : Entity := {
      name := "order"
      storage := "orders"
      nestedPaths := ["items", "payments"]
      innerHits := ["items", "payments"] }
    let c : Criteria := { filters := [
      .all [.eq "items.sku" (.text "a"), .eq "payments.kind" (.text "card")],
      .all [.eq "items.sku" (.text "b")]] }
    let sku (text : String) : Json := .obj [("sku", .str text)]
    let card : Json := .obj [("kind", .str "card")]
    let order : Indices.Document := ⟨"1",
      .obj [("id", .int 1), ("items", .arr [sku "a", sku "b"]), ("payments", .arr [card])]⟩
    let engine : Indices.Engine := { indices := [("orders", { documents := [order] })] }
    ∃ out row, (((Documents.inMemory entity {}).search c).on engine).1 = .ok out ∧
      out.rows = [row] ∧ attached? row "items" = some (.arr [sku "b"]) ∧
      attached? row "payments" = some (.arr [card]) := by
  intro entity c sku card order engine
  obtain ⟨p, hplan, -⟩ : ∃ p, Search.plan entity {} c = .ok p ∧ _ :=
    exists_of_any (p := fun _ => true) (by decide +kernel)
  obtain ⟨out, hout, hlength⟩ : ∃ out,
      (((Documents.inMemory entity {}).search c).on engine).1 = .ok out ∧
        (out.rows.length == 1) = true := exists_of_any (by decide +kernel)
  obtain ⟨⟨hasked, -⟩, -, hshown, -⟩ :=
    a_row_has_the_objects_of_the_last_clause_with_a_name entity {} c p hplan
  let itemsWith (text : String) : Asking := ⟨"items", "items", .term "items.sku" (.str text)⟩
  let cards : Asking := ⟨"payments", "payments", .term "payments.kind" (.str "card")⟩
  have hasked : p.request.query.askings = [itemsWith "a", cards, itemsWith "b"] :=
    hasked.trans (by rfl)
  obtain ⟨ix, docs, hix, hdocs, hrows⟩ := hshown engine out hout
  obtain ⟨row, hrow⟩ := List.length_eq_one_iff.mp (eq_of_beq hlength)
  rw [hrow, hasked] at hrows
  obtain ⟨d, rest, ⟨-, hcarries⟩, -, rfl⟩ := List.forall₂_cons_right_iff.mp hrows
  obtain rfl : order = d := by
    have hfind : engine.find "orders" = .ok { documents := [order] } := rfl
    obtain rfl := Except.ok.inj (hix.symm.trans hfind)
    exact (List.mem_singleton.mp (hdocs d List.mem_cons_self).1).symm
  have hitems : (itemsWith "b").objects order.source = [sku "b"] := by
    have hat : Indices.objectsAt order.source "items" = [sku "a", sku "b"] := by
      rw [Indices.objectsAt, Indices.valuesAt_of_name (by decide +kernel)]
      rfl
    have hfirst : (itemsWith "b").finds (sku "a") = false := by decide +kernel
    have hsecond : (itemsWith "b").finds (sku "b") = true := by decide +kernel
    rw [Asking.objects, hat, List.filter_cons_of_neg (by simp [hfirst]),
      List.filter_cons_of_pos hsecond, List.filter_nil]
  have hcards : cards.objects order.source = [card] := by
    have hat : Indices.objectsAt order.source "payments" = [card] := by
      rw [Indices.objectsAt, Indices.valuesAt_of_name (by decide +kernel)]
      rfl
    have hcard : cards.finds card = true := by decide +kernel
    rw [Asking.objects, hat, List.filter_cons_of_pos hcard, List.filter_nil]
  refine ⟨out, row, hout, hrow, ?_, ?_⟩
  · rw [← hitems]
    exact hcarries.last 2 (itemsWith "b") rfl List.not_mem_nil nofun
  · rw [← hcards]
    exact hcarries.last 1 cards rfl (by decide) nofun

end EntityStore
