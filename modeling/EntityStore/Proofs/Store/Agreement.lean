-- Two stores of one entity, both in memory: a table and an index. From the
-- same flat records they find the same ones.
import EntityStore.Proofs.Search.Window
import EntityStore.Proofs.Store.FlatDocuments
import EntityStore.Proofs.Store.FlatTables
import Mathlib

namespace EntityStore.Flat

open EntityStore.Filter (Condition Group)

variable {e : Entity} {settings : Settings} {columns : Columns} {kinds : String → Kind}
  {records : List (Fields Json)} {filters postFilters : List Group} {sorts : List SortBy}

/-! ## Pages -/

theorem length_found_le :
    (found filters postFilters sorts records).length ≤ records.length := by
  rw [found, List.length_mergeSort]
  exact List.length_filter_le _ _

theorem mem_of_mem_found {r : Fields Json} (h : r ∈ found filters postFilters sorts records) :
    r ∈ records :=
  (List.mem_filter.mp (List.mem_mergeSort.mp h)).1

/-- A window that all results lie in cuts nothing off a page. -/
theorem take_pageSize {α : Type} (page : Page) {xs : List α}
    (h : xs.length ≤ settings.maxWindow) :
    (xs.drop page.offset).take (Search.pageSize settings page) =
      Tables.slice page.offset page.limit xs := by
  rw [Search.take_pageSize_eq, List.take_of_length_le h]

/-! ## Agreement -/

/-- A table that the records came into and an index of them give the same
identities in the same order, and the same total: those of the page of the
records that pass. -/
theorem both_stores_find_the_same_records (h : Fits e columns kinds records)
    (hwindow : records.length ≤ settings.maxWindow) (hfilters : Suit e columns kinds filters)
    (hpost : Suit e columns kinds postFilters) (hsorts : Sorted e columns records sorts)
    (page : Page) :
    (seeded e columns records).1 = .ok records.length ∧
      ∃ ofTable ofIndex : Outcome,
        (((Relational.inMemory e settings).search (.ofPage filters postFilters sorts page)).on
          (.initial settings (seeded e columns records).2)).1 = .ok ofTable ∧
        (((Documents.inMemory e settings).search (.ofPage filters postFilters sorts page)).on
          (indexed e records)).1 = .ok ofIndex ∧
        ofTable.rows.map (·.get? e.idField) = ofIndex.rows.map (·.get? e.idField) ∧
        ofTable.total = ofIndex.total ∧
        ofIndex.rows = Tables.slice page.offset page.limit
          (found filters postFilters sorts records) ∧
        ofIndex.total = (found filters postFilters sorts records).length := by
  have hseeded : (seeded e columns records).1 = .ok records.length := by
    obtain ⟨engine, next, hseeded, -⟩ := seeded_eq h
    rw [hseeded]
  refine ⟨hseeded, _, _, search_table h settings page hfilters hpost hsorts,
    search_index h settings page hfilters hpost hsorts, ?_, rfl,
    take_pageSize page (Nat.le_trans length_found_le hwindow), rfl⟩
  dsimp only
  rw [take_pageSize page (Nat.le_trans length_found_le hwindow), List.map_map]
  refine List.map_congr_left fun r hr => ?_
  exact get?_shown_id h (mem_of_mem_found (Tables.mem_of_mem_slice hr))

/-- Of three articles, one of which has no title, two pass, and the first page
shows the one with the better score. -/
theorem both_stores_find_the_best_article :
    let e : Entity := {
      name := "article", storage := "articles"
      columns := [("id", .integer), ("score", .integer), ("title", .text)] }
    let columns : Columns := [("live", .boolean), ("score", .integer), ("title", .text)]
    let kinds : String → Kind := fun field =>
      match field with
      | "live" => .boolean
      | "title" => .text
      | _ => .integer
    let records : List (Fields Json) := [
      [("id", .int 3), ("live", .bool true), ("score", .int 10), ("title", .str "b")],
      [("id", .int 1), ("score", .int 10), ("title", .null)],
      [("id", .int 2), ("live", .bool true), ("score", .int 30), ("title", .str "a")]]
    let filters : List Group := [
      .all [⟨"score", .gte, .scalar (.int 10)⟩, ⟨"id", .notIn, .list [.int 7]⟩],
      .any [.eq "live" (.bool true), ⟨"title", .notExists, .absent⟩]]
    let postFilters : List Group := [.all [⟨"title", .neq, .scalar (.text "c")⟩]]
    let sorts : List SortBy := [{ field := "score", direction := .desc }, { field := "id" }]
    let page : Page := { number := 1, limit := some 1 }
    Fits e columns kinds records ∧ Suit e columns kinds filters ∧
      Suit e columns kinds postFilters ∧ Sorted e columns records sorts ∧
      (seeded e columns records).1 = .ok 3 ∧
      ∃ ofTable ofIndex : Outcome,
        (((Relational.inMemory e {}).search (.ofPage filters postFilters sorts page)).on
          (.initial {} (seeded e columns records).2)).1 = .ok ofTable ∧
        (((Documents.inMemory e {}).search (.ofPage filters postFilters sorts page)).on
          (indexed e records)).1 = .ok ofIndex ∧
        ofTable.rows.map (·.get? e.idField) = [some (.int 2)] ∧ ofTable.total = 2 ∧
        ofIndex.rows.map (·.get? e.idField) = [some (.int 2)] ∧ ofIndex.total = 2 := by
  intro e columns kinds records filters postFilters sorts page
  have hfits : Fits e columns kinds records := {
    noDocuments := by decide
    notNested := rfl
    ordered := by decide
    named := by decide
    allowed := by
      have hvalues : ∀ r ∈ records, ∀ p ∈ r, (kinds p.1).Allows (Value.ofJson p.2) := by decide
      exact fun r hr => allows_value (hvalues r hr)
    identified := by decide
    distinct := by
      have hnumbers : (records.map (number e)).Pairwise (· ≠ ·) := by decide
      refine (List.pairwise_map.mp hnumbers).imp fun hne hvalue => hne ?_
      rw [number, number, hvalue] }
  have hfilters : Suit e columns kinds filters := by
    simp only [filters, Suit, Group.all, Group.any, List.forall_mem_cons]
    exact ⟨⟨⟨by decide, by decide, rfl, .scalar (.int 10), by decide, rfl⟩,
        ⟨by decide, by decide, rfl, .list [.int 7], by decide, rfl⟩, List.forall_mem_nil _⟩,
      ⟨⟨by decide, by decide, rfl, .scalar (.bool true), by decide, rfl⟩,
        ⟨by decide, by decide, rfl, .absent, by decide, rfl⟩, List.forall_mem_nil _⟩,
      List.forall_mem_nil _⟩
  have hpost : Suit e columns kinds postFilters := by
    simp only [postFilters, Suit, Group.all, List.forall_mem_cons]
    exact ⟨⟨⟨by decide, by decide, rfl, .scalar (.text "c"), by decide, rfl⟩,
      List.forall_mem_nil _⟩, List.forall_mem_nil _⟩
  have hsorts : Sorted e columns records sorts := by
    simp only [sorts, Sorted, records, List.forall_mem_cons]
    exact ⟨⟨by decide, by decide, by rintro ⟨⟩, by rintro ⟨⟩, by rintro ⟨⟩, List.forall_mem_nil _⟩,
      ⟨by decide, by decide, by rintro ⟨⟩, by rintro ⟨⟩, by rintro ⟨⟩, List.forall_mem_nil _⟩,
      List.forall_mem_nil _⟩
  have hwindow : records.length ≤ ({} : Settings).maxWindow := by decide
  have hfound : found filters postFilters sorts records = [
      [("id", .int 2), ("live", .bool true), ("score", .int 30), ("title", .str "a")],
      [("id", .int 3), ("live", .bool true), ("score", .int 10), ("title", .str "b")]] := by
    cbv
  obtain ⟨hseeded, ofTable, ofIndex, htable, hindex, hrows, htotal, hpage, hcount⟩ :=
    both_stores_find_the_same_records hfits hwindow hfilters hpost hsorts page
  rw [hfound] at hpage hcount
  have hshown : ofIndex.rows.map (·.get? e.idField) = [some (.int 2)] := by
    rw [hpage]
    rfl
  exact ⟨hfits, hfilters, hpost, hsorts, hseeded, ofTable, ofIndex, htable, hindex,
    hrows.trans hshown, htotal.trans hcount, hshown, hcount⟩

end EntityStore.Flat
