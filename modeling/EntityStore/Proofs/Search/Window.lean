-- The window of a request: the places of the results that it asks for. A
-- store refuses a window that reaches past the last result it can show.
import EntityStore.Proofs.Fallible
import EntityStore.Search.Plan
import EntityStore.Tables.Queries

namespace EntityStore.Search

variable {e : Entity} {settings : Settings} {c : Criteria} {p : Plan}

/-! ## Plans -/

/-- A plan is made for criteria that name no clause of another store. Besides
the page its request has a query of their filters and texts, one of their post
filters, and their aggregations. -/
theorem plan_eq_ok_iff :
    plan e settings c = .ok p ↔ foreignClause? c = none ∧
      ∃ ps post nodes, partitions e c.filters = .ok ps ∧ groups e false c.postFilters = .ok post ∧
        aggregations e settings c post = .ok (nodes, p.layouts) ∧
        p.distinctWrapped = c.collapse.map (fun _ => post.isSome) ∧
        p.request = page e settings c ps {
          index := e.storage
          query := ({ junction e true ps with must := c.fullText.map multiMatch } : Junction).query
          postFilter := post
          source := sourceFilter c
          aggregations := nodes
          collapse := c.collapse } := by
  unfold plan
  constructor
  · intro h
    split at h
    · cases h
    · rename_i hforeign
      obtain ⟨ps, hps, h⟩ := bind_eq_ok_iff.mp h
      obtain ⟨post, hpost, h⟩ := bind_eq_ok_iff.mp h
      obtain ⟨⟨nodes, layouts⟩, hnodes, h⟩ := bind_eq_ok_iff.mp h
      cases h
      exact ⟨Option.eq_none_iff_forall_ne_some.mpr hforeign, ps, post, nodes, hps, hpost, hnodes,
        rfl, rfl⟩
  · rintro ⟨hforeign, ps, post, nodes, hps, hpost, hnodes, hwrapped, hrequest⟩
    rw [hforeign]
    refine bind_eq_ok_iff.mpr ⟨ps, hps, bind_eq_ok_iff.mpr ⟨post, hpost, bind_eq_ok_iff.mpr
      ⟨(nodes, p.layouts), hnodes, ?_⟩⟩⟩
    obtain ⟨request, layouts, wrapped⟩ := p
    dsimp only at hwrapped hrequest ⊢
    rw [hwrapped, hrequest]
    rfl

/-- The parts of a plan that its page leaves alone. -/
theorem parts_of_plan (h : plan e settings c = .ok p) :
    groups e false c.postFilters = .ok p.request.postFilter ∧
      aggregations e settings c p.request.postFilter = .ok (p.request.aggregations, p.layouts) ∧
      p.distinctWrapped = c.collapse.map fun _ => p.request.postFilter.isSome := by
  obtain ⟨-, ps, post, nodes, -, hpost, hnodes, hwrapped, hrequest⟩ := plan_eq_ok_iff.mp h
  rw [hrequest, page]
  split <;> exact ⟨hpost, hnodes, hwrapped⟩

theorem page_of_plan (h : plan e settings c = .ok p) :
    ∃ ps r, p.request = page e settings c ps r := by
  obtain ⟨-, ps, post, nodes, -, -, -, -, hrequest⟩ := plan_eq_ok_iff.mp h
  exact ⟨ps, _, hrequest⟩

theorem window_of_plan (h : plan e settings c = .ok p) (hscroll : c.scrollAfter = none) :
    p.request.start = c.page.offset ∧ p.request.size = pageSize settings c.page := by
  obtain ⟨ps, r, hpage⟩ := page_of_plan h
  rw [hpage, page, hscroll]
  exact ⟨rfl, rfl⟩

theorem window_of_scroll (h : plan e settings c = .ok p) {last : Value}
    (hscroll : c.scrollAfter = some last) :
    p.request.start = 0 ∧ p.request.size = c.page.limit.getD settings.maxWindow := by
  obtain ⟨ps, r, hpage⟩ := page_of_plan h
  rw [hpage, page, hscroll]
  exact ⟨rfl, rfl⟩

/-! ## Places in a window -/

theorem pageSize_eq (settings : Settings) (page : Page) :
    pageSize settings page = min (page.limit.getD (settings.maxWindow - page.offset))
      (settings.maxWindow - page.offset) := rfl

/-- A place behind the start of a page is one that it shows when it lies
before the end of the page and can be reached. -/
theorem lt_offset_add_pageSize_iff {page : Page} {i : Nat} (h : page.offset ≤ i) :
    i < page.offset + pageSize settings page ↔
      i < settings.maxWindow ∧ ∀ n ∈ page.limit, i < page.offset + n := by
  rw [pageSize_eq]
  cases page.limit with
  | none =>
    simp only [Option.getD_none, Option.mem_def, reduceCtorEq, false_implies, implies_true,
      and_true]
    omega
  | some n =>
    simp only [Option.getD_some, Option.mem_def, Option.some.injEq, forall_eq']
    omega

/-- A page is a part of the results that can be reached. -/
theorem take_pageSize_eq {α : Type} (settings : Settings) (page : Page) (xs : List α) :
    (xs.drop page.offset).take (pageSize settings page) =
      Tables.slice page.offset page.limit (xs.take settings.maxWindow) := by
  rw [pageSize_eq]
  cases page.limit with
  | none => rw [Option.getD_none, Nat.min_self, Tables.slice, List.drop_take]
  | some n => rw [Option.getD_some, Tables.slice, List.drop_take, List.take_take]

theorem offset_add_pageSize_le_iff {page : Page} :
    page.offset + pageSize settings page ≤ settings.maxWindow ↔
      page.offset ≤ settings.maxWindow := by
  rw [pageSize_eq]
  omega

/-- A page takes the places of its results that can be reached, and fits
unless it starts behind all of them. A scroll fits when its limit does. -/
theorem a_window_fits_iff_it_starts_and_scrolls_within_reach (h : plan e settings c = .ok p) :
    (p.request.start + p.request.size ≤ settings.maxWindow ↔
      match c.scrollAfter with
      | none => c.page.offset ≤ settings.maxWindow
      | some _ => ∀ n ∈ c.page.limit, n ≤ settings.maxWindow) ∧
    (c.scrollAfter = none → ∀ i, p.request.start ≤ i →
      (i < p.request.start + p.request.size ↔
        i < settings.maxWindow ∧ ∀ n ∈ c.page.limit, i < c.page.offset + n)) := by
  cases hscroll : c.scrollAfter with
  | none =>
    obtain ⟨hstart, hsize⟩ := window_of_plan h hscroll
    rw [hstart, hsize]
    exact ⟨offset_add_pageSize_le_iff, fun _ i hi => lt_offset_add_pageSize_iff hi⟩
  | some last =>
    obtain ⟨hstart, hsize⟩ := window_of_scroll h hscroll
    rw [hstart, hsize]
    refine ⟨?_, nofun⟩
    cases c.page.limit <;> simp

/-- The third page of forty products ends at the hundredth product where no
more can be reached. -/
theorem the_third_page_of_forty_products_fits :
    ∃ p, plan { name := "product", storage := "products" } { maxWindow := 100 }
        { page := ⟨3, some 40⟩ } = .ok p ∧
      p.request.start + p.request.size ≤ 100 ∧
      ∀ i, p.request.start ≤ i → (i < p.request.start + p.request.size ↔ i < 100 ∧ i < 120) :=
  have hplan : plan { name := "product", storage := "products" } { maxWindow := 100 }
      { page := ⟨3, some 40⟩ } = .ok _ := rfl
  have hfits := a_window_fits_iff_it_starts_and_scrolls_within_reach hplan
  ⟨_, hplan, hfits.1.mpr (by decide), fun i hi => (hfits.2 rfl i hi).trans
    ⟨fun h => ⟨h.1, h.2 40 rfl⟩, fun h => ⟨h.1, fun _ hn => Option.some.inj hn ▸ h.2⟩⟩⟩

end EntityStore.Search
