-- Pages of a result. Page after page, a search shows what it shows without
-- pages, in the same order, and tells the same total on each of them. This
-- holds for both stores as long as the criteria go by pages and do not scroll.
import EntityStore.Proofs.Search.Window
import EntityStore.Proofs.Store.Answers
import EntityStore.Proofs.Tables.Pages

namespace EntityStore

open Call (Gives)

/-! ## Numbered pages -/

/-- The first pages with a limit. -/
def Page.firsts (k : Nat) (limit : Int) : Except AccessError (List Page) :=
  (List.range k).mapM fun i => make (i + 1) limit

theorem Page.eq_of_make {number : Nat} {limit : Int} {p : Page} (hpos : 0 < limit)
    (h : make number limit = .ok p) : p = ⟨number, some limit.toNat⟩ := by
  have hbounded : ¬ limit = unboundedLimit := by
    rintro rfl
    cases hpos
  unfold make at h
  rw [if_neg hbounded, if_neg (by omega : ¬ limit < 1)] at h
  dsimp only at h
  split at h
  · cases h
  · split at h
    · cases h
    · cases h
      rfl

theorem Page.eq_of_firsts {k : Nat} {limit : Int} {pages : List Page} (hpos : 0 < limit)
    (h : firsts k limit = .ok pages) :
    pages = (List.range k).map fun i => ⟨i + 1, some limit.toNat⟩ :=
  eq_map_of_mapM h fun _ _ hmake => eq_of_make hpos hmake

/-! ## Pages of an outcome -/

/-- The same criteria for another page. -/
def Criteria.onPage (c : Criteria) (p : Page) : Criteria := { c with page := p }

/-- The part of an outcome that is on a page. -/
def Outcome.onPage (out : Outcome) (p : Page) : Outcome :=
  { out with rows := Tables.slice p.offset p.limit out.rows }

/-- Pages of one limit that are long enough have all rows of an outcome. -/
theorem rows_of_pages {k n : Nat} (out : Outcome) (hlength : out.rows.length ≤ k * n) :
    ((List.range k).map fun i => (out.onPage ⟨i + 1, some n⟩).rows).flatten = out.rows := by
  have hpages := Tables.flatten_slices n k out.rows
  rw [List.take_of_length_le hlength] at hpages
  rw [← hpages]
  refine congrArg List.flatten (List.map_congr_left fun i _ => ?_)
  show Tables.slice ((i + 1 - 1) * n) (some n) out.rows = _
  rw [Nat.add_sub_cancel]

variable {σ : Type} {P : σ → Prop} {search : Criteria → Call σ Outcome} {c : Criteria}

/-- The rows of a search without pages come in order on its first pages, as
soon as these have room for all of them, and each page tells the same total. -/
def ShowsByPages (search : Criteria → Call σ Outcome) (c : Criteria) (s : σ) : Prop :=
  ∃ whole, ((search (c.onPage {})).on s).1 = .ok whole ∧
    ∀ (limit : Int) (k : Nat) (pages : List Page), 0 < limit →
      Page.firsts k limit = .ok pages → whole.rows.length ≤ k * limit →
      ∃ outs, ((pages.mapM fun p => search (c.onPage p)).on s).1 = .ok outs ∧
        (outs.map (·.rows)).flatten = whole.rows ∧ ∀ o ∈ outs, o.total = whole.total

/-- It is enough that the search for each page gives a part of one outcome. -/
theorem showsByPages_of_gives {whole : Outcome} {s : σ} (hs : P s)
    (h : ∀ p, Gives P (search (c.onPage p)) (some (whole.onPage p))) :
    ShowsByPages search c s := by
  obtain ⟨_, hon, -⟩ := (h {}).exists_ok hs
  refine ⟨whole, by rw [hon]; rfl, fun limit k pages hpos hpages hlength => ?_⟩
  have hall : Gives P (pages.mapM fun p => search (c.onPage p))
      (some (pages.map whole.onPage)) :=
    (Call.gives_mapM fun p _ => h p).congr List.mapM_pure
  obtain ⟨_, hon, -⟩ := hall.exists_ok hs
  refine ⟨pages.map whole.onPage, by rw [hon], ?_, List.forall_mem_map.mpr fun _ _ => rfl⟩
  rw [Page.eq_of_firsts hpos hpages, List.map_map, List.map_map]
  refine rows_of_pages whole ?_
  rw [← Int.toNat_of_nonneg (Int.le_of_lt hpos)] at hlength
  exact_mod_cast hlength

/-! ## Tables -/

namespace Plan.Scope

theorem page_onPage {s : Scope} {q r : Sql.Query} (hscroll : c.scrollAfter = none)
    (h : s.page c q = .ok r) (p : Page) :
    s.page (c.onPage p) q = .ok { r with limit := p.limit, offset := p.offset } := by
  have hnone : (c.onPage p).scrollAfter = none := hscroll
  unfold page at h ⊢
  rw [hscroll] at h
  rw [hnone]
  obtain ⟨orders, horders, h⟩ := bind_eq_ok_iff.mp h
  refine bind_eq_ok_iff.mpr ⟨orders, horders, ?_⟩
  rw [← Except.ok.inj h]
  rfl

/-- The queries for another page differ in its part of the rows. -/
theorem plan_onPage {s : Scope} {settings : Settings} {plan : Plan}
    (hscroll : c.scrollAfter = none) (h : s.plan settings c = .ok plan) (p : Page) :
    s.plan settings (c.onPage p) = .ok
      { plan with page := { plan.page with limit := p.limit, offset := p.offset } } := by
  have hcollapse := collapse_of_plan h
  obtain ⟨items, groupBy, common, post, hplanned⟩ := planned_of_plan h
  have honPage : (s.withJoins c.joins).Planned settings (c.onPage p)
      { plan with page := { plan.page with limit := p.limit, offset := p.offset } }
      items groupBy common post := {
    items_eq := hplanned.items_eq
    groupBy_eq := hplanned.groupBy_eq
    common_eq := hplanned.common_eq
    post_eq := hplanned.post_eq
    count_eq := hplanned.count_eq
    page_eq := page_onPage hscroll hplanned.page_eq p
    aggregations_eq := hplanned.aggregations_eq }
  exact plan_of_planned hcollapse honPage

end Plan.Scope

namespace Relational

variable {entity : Entity} {settings : Settings} {t : Tables.Table} {columns : Columns}
  {ts : Tables}

/-- What the queries of a search would give without pages. -/
def whole? (ts : Tables) (p : Plan) : Option Outcome :=
  (Tables.selectAll ts p.page).toOption.bind fun rows =>
    (Tables.count ts p.count).toOption.bind fun total =>
      (p.aggregations.mapM (aggregate? ts)).map fun aggregations => {
        rows := rows.map Row.toJson
        total := total
        aggregations := Fields.ofList aggregations }

theorem answer?_eq (ts : Tables) (plan : Plan) :
    answer? ts plan = (whole? ts plan).map fun out =>
      { out with rows := Tables.slice plan.page.offset plan.page.limit out.rows } := by
  unfold answer? whole?
  rw [Tables.select_eq]
  cases Tables.selectAll ts plan.page with
  | error f => rfl
  | ok rows =>
    cases Tables.count ts plan.count with
    | error f => rfl
    | ok n =>
      cases plan.aggregations.mapM (aggregate? ts) with
      | none => rfl
      | some aggregations =>
        simp [Except.map, Except.toOption, Tables.slice_map]

/-- The rows of a query are sorted, grouped and made different before a part of
them is taken, so each page of some criteria is a part of one outcome. -/
theorem gives_pages (hscroll : c.scrollAfter = none) {plan : Plan} {whole : Outcome}
    (hplan : ((inMemory entity settings).scope columns).plan settings c = .ok plan)
    (hwhole : whole? ts plan = some whole) (p : Page) :
    Gives (Holds True entity t columns ts) ((inMemory entity settings).search (c.onPage p))
      (some (whole.onPage p)) := by
  refine (gives_search entity settings (c.onPage p)).congr ?_
  rw [Plan.Scope.plan_onPage hscroll hplan p]
  show answer? ts _ = _
  have hsame : whole? ts { plan with
      page := { plan.page with limit := p.limit, offset := p.offset } } = whole? ts plan := rfl
  rw [answer?_eq, hsame, hwhole]
  rfl

theorem exists_pages (hscroll : c.scrollAfter = none) {s : State Tables.Engine} {out : Outcome}
    (hs : Holds True entity t columns ts s)
    (h : (((inMemory entity settings).search c).on s).1 = .ok out) :
    ∃ whole : Outcome, ∀ p, Gives (Holds True entity t columns ts)
      ((inMemory entity settings).search (c.onPage p)) (some (whole.onPage p)) := by
  have hgives := (gives_search entity settings c).of_ok hs h
  cases hplan : ((inMemory entity settings).scope columns).plan settings c with
  | error e =>
    rw [hplan] at hgives
    cases hgives
  | ok plan =>
    rw [hplan] at hgives
    have hanswer : answer? ts plan = some out := hgives
    rw [answer?_eq, Option.map_eq_some_iff] at hanswer
    obtain ⟨whole, hwhole, -⟩ := hanswer
    exact ⟨whole, gives_pages hscroll hplan hwhole⟩

end Relational

/-! ## Indices -/

theorem Search.plan_onPage {entity : Entity} {settings : Settings} {plan : Search.Plan}
    (hscroll : c.scrollAfter = none) (h : Search.plan entity settings c = .ok plan) (p : Page) :
    Search.plan entity settings (c.onPage p) = .ok { plan with
      request := plan.request.part p.offset (pageSize settings p) none } := by
  have hnone : (c.onPage p).scrollAfter = none := hscroll
  obtain ⟨hforeign, ps, post, nodes, hps, hpost, hnodes, hwrapped, hrequest⟩ :=
    plan_eq_ok_iff.mp h
  refine plan_eq_ok_iff.mpr ⟨hforeign, ps, post, nodes, hps, hpost, hnodes, hwrapped, ?_⟩
  unfold page at hrequest ⊢
  rw [hscroll] at hrequest
  rw [hnone]
  dsimp only
  rw [hrequest]
  rfl

namespace Documents

variable {entity : Entity} {settings : Settings} {indices : Fields Indices.Index}

/-- The hits are found, sorted and collapsed before a part of them is taken, so
each page of some criteria is a part of one outcome, the one whose rows are
those that can be reached. -/
theorem exists_pages (hscroll : c.scrollAfter = none) {e : Indices.Engine} {out : Outcome}
    (he : Calm indices e) (h : (((inMemory entity settings).search c).on e).1 = .ok out) :
    ∃ whole : Outcome, ∀ p, Gives (Calm indices)
      ((inMemory entity settings).search (c.onPage p)) (some (whole.onPage p)) := by
  have hgives := (gives_search entity settings c).of_ok he h
  cases hplan : Search.plan entity settings c with
  | error f =>
    rw [hplan] at hgives
    cases hgives
  | ok plan =>
    have hpages := Search.plan_onPage hscroll hplan
    have hself : Search.plan entity settings c = _ := hpages c.page
    rw [hself] at hgives
    have hanswer : answer? entity.idField indices _ = some out := hgives
    rw [answer?_part, Option.map_eq_some_iff] at hanswer
    obtain ⟨all, hall, -⟩ := hanswer
    refine ⟨{ all with rows := all.rows.take settings.maxWindow }, fun p => ?_⟩
    refine (gives_search entity settings (c.onPage p)).congr ?_
    rw [hpages p]
    show answer? entity.idField indices _ = _
    rw [answer?_part, hall, Option.map_some, Search.take_pageSize_eq]
    rfl

end Documents

/-! ## Both stores -/

/-- Where a search is accepted and does not scroll, it shows by pages what it
shows without them. The stores may hold anything, and meet no fault. -/
theorem a_search_shows_its_rows_by_pages (entity : Entity) (settings : Settings) (c : Criteria)
    (hscroll : c.scrollAfter = none) :
    (∀ (s : Relational.State Tables.Engine) (out : Outcome), s.timed.state.faults = [] →
      (((Relational.inMemory entity settings).search c).on s).1 = .ok out →
      ShowsByPages (Relational.inMemory entity settings).search c s) ∧
    ∀ (e : Indices.Engine) (out : Outcome), e.faults = [] →
      (((Documents.inMemory entity settings).search c).on e).1 = .ok out →
      ShowsByPages (Documents.inMemory entity settings).search c e := by
  constructor
  · intro s out hfaults hout
    obtain ⟨t, hs⟩ := Relational.holds_of_search hfaults hout
    obtain ⟨whole, hpages⟩ := Relational.exists_pages hscroll hs hout
    exact showsByPages_of_gives hs hpages
  · intro e out hfaults hout
    have he : Documents.Calm e.indices e := ⟨rfl, hfaults⟩
    obtain ⟨whole, hpages⟩ := Documents.exists_pages hscroll he hout
    exact showsByPages_of_gives he hpages

/-- Three products of two colours. A search of the table puts one product of
each colour out, and a search of the index lets one of each colour stay. -/
theorem products_of_two_colours_come_by_pages :
    let entity : Entity := { name := "product", storage := "products" }
    let t : Tables.Table := {
      shape := .make "products" "id" [("colour", .text)] []
      rows := [[("colour", .text "red"), ("id", .int 1)],
        [("colour", .text "blue"), ("id", .int 2)], [("colour", .text "red"), ("id", .int 3)]] }
    let s : Relational.State Tables.Engine := .initial {} { tables := [("products", t)] }
    let e : Indices.Engine := ({} : Indices.Engine).seed "products" "id" [
      .obj [("colour", .str "red"), ("id", .int 1)],
      .obj [("colour", .str "blue"), ("id", .int 2)],
      .obj [("colour", .str "red"), ("id", .int 3)]]
    let grouped : Criteria := {
      sorts := [{ field := "id", direction := .desc }]
      groupBy := ["colour"] }
    let collapsed : Criteria := {
      sorts := [{ field := "id", direction := .desc }]
      collapse := some { field := "colour", countField := "colour" } }
    ShowsByPages (Relational.inMemory entity {}).search grouped s ∧
      ShowsByPages (Documents.inMemory entity {}).search collapsed e := by
  intro entity t s e grouped collapsed
  obtain ⟨out, hout, -⟩ : ∃ out,
      (((Relational.inMemory entity {}).search grouped).on s).1 = .ok out ∧ _ :=
    exists_of_any (p := fun _ => true) (by decide +kernel)
  obtain ⟨out', hout', -⟩ : ∃ out,
      (((Documents.inMemory entity {}).search collapsed).on e).1 = .ok out ∧ _ :=
    exists_of_any (p := fun _ => true) (by decide +kernel)
  exact ⟨(a_search_shows_its_rows_by_pages entity {} grouped rfl).1 s out rfl hout,
    (a_search_shows_its_rows_by_pages entity {} collapsed rfl).2 e out' rfl hout'⟩

end EntityStore
