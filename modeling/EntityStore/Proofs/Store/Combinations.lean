-- Paging through the combinations of a composite. Each search goes on after the
-- combination that the one before it has come to, until one has come to none.
-- All combinations are shown then, each once and in their order.
import EntityStore.Proofs.Indices.Groups
import EntityStore.Proofs.Store.Answering
import Mathlib.Data.List.Nodup

namespace EntityStore

open Aggregation (Bucket Result)

/-! ## Runs of searches -/

/-- The same criteria where the aggregation of a name goes on after a key. -/
def Criteria.goingOn (c : Criteria) (name : String) (after : Option Json) : Criteria :=
  { c with aggregations := c.aggregations.map fun a =>
      if a.name = name then { a with afterKey := after } else a }

/-- From a state and after a key, searches one after the other give these pages of
buckets. Each goes on after the key that the one before it has come to, and the
last has come to none. -/
inductive Paged {σ : Type} (search : Criteria → Call σ Outcome) (c : Criteria) (name : String) :
    Option Json → σ → List (List Bucket) → Prop
  | last {after : Option Json} {s t : σ} {out : Outcome} {bs : List Bucket} :
      (search (c.goingOn name after)).on s = (.ok out, t) →
      out.aggregations.get? name = some (.composite bs none) →
      Paged search c name after s [bs]
  | next {after : Option Json} {s t : σ} {out : Outcome} {bs : List Bucket} {key : Json}
      {pages : List (List Bucket)} :
      (search (c.goingOn name after)).on s = (.ok out, t) →
      out.aggregations.get? name = some (.composite bs (some key)) →
      Paged search c name (some key) t pages → Paged search c name after s (bs :: pages)

/-! ## Plans -/

variable {entity : Entity} {settings : Settings} {c : Criteria} {a : Aggregation} {name : String}
  {after : Option Json} {sources : Fields String}

theorem Criteria.names_goingOn (c : Criteria) (name : String) (after : Option Json) :
    (c.goingOn name after).aggregations.map Aggregation.name =
      c.aggregations.map Aggregation.name := by
  rw [goingOn, List.map_map]
  refine List.map_congr_left fun a _ => ?_
  rw [Function.comp_apply]
  split <;> rfl

namespace Search

open Indices.Breakdown (readKind)

theorem core_of_composite (settings : Settings) (hkind : a.kind = .composite)
    (htarget : a.target = .fields sources) (after : Option Json) :
    ∃ body, core settings { a with afterKey := after } = .ok ("composite", body, .composite) := by
  obtain ⟨body, hcore, -⟩ :=
    exists_core_composite (a := { a with afterKey := after }) settings hkind htarget
  exact ⟨body, hcore⟩

/-- An aggregation that has a node has one where it goes on after a key. -/
theorem exists_aggregation_goingOn (hkind : a.kind = .composite)
    (htarget : a.target = .fields sources) {built : Json × Layout}
    (h : aggregation entity settings c a = .ok built) :
    ∃ built', aggregation entity settings (c.goingOn name after) { a with afterKey := after } =
      .ok built' := by
  obtain ⟨nested, hnested, h⟩ := bind_eq_ok_iff.mp h
  obtain ⟨core, -, h⟩ := bind_eq_ok_iff.mp h
  obtain ⟨own, hown, h⟩ := bind_eq_ok_iff.mp h
  obtain ⟨seen, hseen, -⟩ := bind_eq_ok_iff.mp h
  obtain ⟨body, hcore⟩ := core_of_composite settings hkind htarget after
  exact ⟨_, bind_eq_ok_iff.mpr ⟨nested, hnested, bind_eq_ok_iff.mpr ⟨_, hcore,
    bind_eq_ok_iff.mpr ⟨own, hown, bind_eq_ok_iff.mpr ⟨seen, hseen, rfl⟩⟩⟩⟩⟩

/-- Of aggregations with different names only one goes by its name. -/
theorem NamesApart.eq_of_name (h : NamesApart c) {a' : Aggregation} (ha : a ∈ c.aggregations)
    (ha' : a' ∈ c.aggregations) (heq : a'.name = a.name) : a' = a :=
  List.inj_on_of_nodup_map h.distinct ha' ha heq

theorem NamesApart.goingOn (h : NamesApart c) (name : String) (after : Option Json) :
    NamesApart (c.goingOn name after) :=
  ⟨c.names_goingOn name after ▸ h.distinct,
    fun hcollapse => c.names_goingOn name after ▸ h.total hcollapse⟩

theorem NamesApart.mem_goingOn (h : NamesApart c) (ha : a ∈ c.aggregations) {a' : Aggregation} :
    a' ∈ (c.goingOn a.name after).aggregations ↔
      a' = { a with afterKey := after } ∨ a' ∈ c.aggregations ∧ a'.name ≠ a.name := by
  rw [Criteria.goingOn, List.mem_map]
  constructor
  · rintro ⟨a', ha', rfl⟩
    split
    · rename_i hname
      exact .inl (by rw [h.eq_of_name ha ha' hname])
    · rename_i hname
      exact .inr ⟨ha', hname⟩
  · rintro (rfl | ⟨ha', hname⟩)
    · exact ⟨a, ha, if_pos rfl⟩
    · exact ⟨a', ha', if_neg hname⟩

theorem exists_plan_goingOn (after : Option Json) (hnames : NamesApart c) (ha : a ∈ c.aggregations)
    (hkind : a.kind = .composite) (htarget : a.target = .fields sources) {p : Plan}
    (h : plan entity settings c = .ok p) :
    ∃ p', plan entity settings (c.goingOn a.name after) = .ok p' := by
  obtain ⟨hforeign, ps, post, nodes, hps, hpost, hnodes, -, -⟩ := plan_eq_ok_iff.mp h
  obtain ⟨built, hbuilt, -⟩ := bind_eq_ok_iff.mp hnodes
  have heach : ∀ a' ∈ (c.goingOn a.name after).aggregations, ∃ built',
      aggregation entity settings (c.goingOn a.name after) a' = .ok built' := by
    intro a' ha'
    rcases (hnames.mem_goingOn ha).mp ha' with rfl | ⟨ha', -⟩
    · obtain ⟨_, hnode⟩ := exists_of_mapM hbuilt a ha
      exact exists_aggregation_goingOn hkind htarget hnode
    · exact exists_of_mapM hbuilt a' ha'
  obtain ⟨built', hbuilt'⟩ := exists_mapM heach
  exact ⟨⟨page entity settings (c.goingOn a.name after) ps _, built'.map (·.2),
    c.collapse.map fun _ => post.isSome⟩, plan_eq_ok_iff.mpr ⟨hforeign, ps, post, _, hps, hpost,
      bind_eq_ok_iff.mpr ⟨built', hbuilt', rfl⟩, rfl, rfl⟩⟩

/-- All aggregations can be read where they could be read before. -/
theorem reads_goingOn (hnames : NamesApart c) (ha : a ∈ c.aggregations)
    (hkind : a.kind = .composite) (htarget : a.target = .fields sources)
    (h : ∀ a' ∈ c.aggregations, Reads settings a') :
    ∀ a' ∈ (c.goingOn a.name after).aggregations, Reads settings a' := by
  intro a' ha'
  rcases (hnames.mem_goingOn ha).mp ha' with rfl | ⟨ha', -⟩
  · obtain ⟨body, hcore⟩ := core_of_composite settings hkind htarget after
    exact reads_of_core (by rw [hkind]; exact nofun) hcore
  · exact h a' ha'

/-- The documents that a composite counts do not depend on the key that it goes on
after. -/
theorem matches_goingOn {doc : Json} :
    Matches entity (countedBy entity (c.goingOn name after) { a with afterKey := after }) doc ↔
      Matches entity (countedBy entity c a) doc :=
  ⟨fun ⟨hfilters, htexts, hposts⟩ => ⟨hfilters, htexts, hposts⟩,
    fun ⟨hfilters, htexts, hposts⟩ => ⟨hfilters, htexts, hposts⟩⟩

/-- Fields that are under no nested path have none in common. -/
theorem commonPath_of_roots (htarget : a.target = .fields sources)
    (hroots : ∀ s ∈ sources, entity.nestedPath? s.2 = none) : commonPath entity a = .ok none := by
  have hpaths : ∀ path ∈ a.target.names.map entity.nestedPath?, path = none := by
    rw [htarget]
    exact List.forall_mem_map.mpr (List.forall_mem_map.mpr hroots)
  rw [commonPath]
  cases hnames : a.target.names.map entity.nestedPath? with
  | nil => rfl
  | cons path rest =>
    rw [hnames] at hpaths
    obtain ⟨rfl, hrest⟩ := List.forall_mem_cons.mp hpaths
    exact if_pos (List.all_eq_true.mpr fun path hpath => by rw [hrest path hpath]; rfl)

end Search

/-! ## Pages -/

namespace Documents

open Indices (Cell GroupedBy comboCells rootParts)
open Search (Matches NamesApart Reads behindKey bucketOf countedBy)

variable {engine : Indices.Engine} {ix : Indices.Index} {p : Search.Plan} {counts : Json → Bool}

/-- A search that goes on after a key shows the groups behind it. -/
theorem exists_page (hnames : NamesApart c) (ha : a ∈ c.aggregations)
    (hkind : a.kind = .composite) (htarget : a.target = .fields sources)
    (hroots : ∀ s ∈ sources, entity.nestedPath? s.2 = none)
    (hreads : ∀ a' ∈ c.aggregations, Reads settings a')
    (hplan : Search.plan entity settings c = .ok p) (hfaults : engine.faults = [])
    (hix : engine.find entity.storage = .ok ix)
    (hcounts : ∀ doc, counts doc = true ↔ Matches entity (countedBy entity c a) doc)
    (after : Option Json) :
    let docs := (ix.documents.map (·.source)).filter counts
    let shown := Indices.page (a.bucketLimit.getD settings.compositePage) (behindKey sources after)
      (comboCells sources (rootParts docs))
    ∃ out t, ((inMemory entity settings).search (c.goingOn a.name after)).on engine = (.ok out, t) ∧
      Calm engine.indices t ∧ out.aggregations.get? a.name = some (.composite
        (shown.map (bucketOf c none docs)) (shown.getLast?.map (·.shown))) := by
  intro docs shown
  obtain ⟨p', hplan'⟩ := Search.exists_plan_goingOn after hnames ha hkind htarget hplan
  obtain ⟨out, hout, -⟩ := exists_search (hnames.goingOn a.name after)
    (Search.reads_goingOn hnames ha hkind htarget hreads) hfaults hix hplan'
  obtain ⟨ix', hix', heach⟩ := aggregation_of_search (hnames.goingOn a.name after) hout
  obtain rfl := Except.ok.inj (hix.symm.trans hix')
  obtain ⟨counts', hcounts', r, hdirect, hget⟩ :=
    heach { a with afterKey := after } ((hnames.mem_goingOn ha).mpr (.inl rfl))
  obtain rfl : counts = counts' := funext fun doc => Bool.eq_iff_iff.mpr
    ((hcounts doc).trans (Search.matches_goingOn.symm.trans (hcounts' doc).symm))
  let next : Aggregation := { a with afterKey := after }
  have hpage : Search.direct entity settings (c.goingOn a.name after) next docs =
      some (.composite (shown.map (bucketOf c none docs)) (shown.getLast?.map (·.shown))) :=
    Search.direct_composite (show next.kind = .composite from hkind) htarget
      (Search.commonPath_of_roots htarget hroots) docs
  have hcalm := (gives_search entity settings (c.goingOn a.name after) engine ⟨rfl, hfaults⟩).2
  exact ⟨out, _, Prod.ext hout rfl, hcalm, hget.trans (hdirect.symm.trans hpage)⟩

/-- Of groups in rising order those behind one are the ones that come after it. -/
theorem filter_behind {before behind : List (Cell (List Value))} {cell : Cell (List Value)}
    (hplain : ∀ d ∈ before ++ cell :: behind, Value.ArePlain d.key)
    (hrising : (before ++ cell :: behind).Pairwise fun d d' =>
      Value.orderLists d.key d'.key = .lt) :
    (before ++ cell :: behind).filter (fun d => (Value.orderLists d.key cell.key).isGT) =
      behind := by
  have hgt : ∀ d d' : Cell (List Value), (Value.orderLists d.key d'.key).isGT = true ↔
      Value.orderLists d'.key d.key = .lt := fun d d' => by
    rw [Ordering.isGT_iff_eq_gt, Value.orders_lists.gt_iff]
  have hself : Value.orderLists cell.key cell.key = .eq :=
    Value.orders_lists.self (hplain cell (List.mem_append_right _ List.mem_cons_self))
  obtain ⟨-, hrest, hbefore⟩ := List.pairwise_append.mp hrising
  have hnone : before.filter (fun d => (Value.orderLists d.key cell.key).isGT) = [] := by
    refine List.filter_eq_nil_iff.mpr fun d hd hd' => ?_
    rw [hbefore d hd cell List.mem_cons_self] at hd'
    cases hd'
  have hall : ∀ d ∈ behind, (Value.orderLists d.key cell.key).isGT = true :=
    fun d hd => (hgt d cell).mpr ((List.pairwise_cons.mp hrest).1 d hd)
  rw [List.filter_append, hnone, List.nil_append, List.filter_cons, hself, if_neg nofun,
    List.filter_eq_self.mpr hall]

section

variable {parts : List Indices.Part} {cells : List (Cell (List Value))}
  {limit : Nat} {search : Criteria → Call Indices.Engine Outcome}

/-- A run that has still to show the last of some groups shows them. The induction
is on the number of the groups that are left. -/
theorem paged_rest (indices : Fields Indices.Index) (bucketFor : Cell (List Value) → Bucket)
    (hlimit : 0 < limit) (hgrouped : GroupedBy sources parts cells)
    (hpage : ∀ engine after, Calm indices engine → ∃ out t,
      (search (c.goingOn name after)).on engine = (.ok out, t) ∧ Calm indices t ∧
      let shown := Indices.page limit (behindKey sources after) cells
      out.aggregations.get? name =
        some (.composite (shown.map bucketFor) (shown.getLast?.map (·.shown))))
    (n : Nat) : ∀ (before rest : List (Cell (List Value))) (after : Option Json) (engine),
      rest.length ≤ n → cells = before ++ rest → Calm indices engine →
      Indices.page limit (behindKey sources after) cells = rest.take limit →
      ∃ pages, Paged search c name after engine pages ∧ pages.flatten = rest.map bucketFor := by
  induction n with
  | zero =>
    intro before rest after engine hlength _ hcalm hshown
    obtain rfl := List.length_eq_zero_iff.mp (Nat.le_zero.mp hlength)
    obtain ⟨out, t, hon, -, hget⟩ := hpage engine after hcalm
    rw [hshown, List.take_nil] at hget
    exact ⟨[[]], .last hon hget, rfl⟩
  | succ n ih =>
    intro before rest after engine hlength hcells hcalm hshown
    obtain ⟨out, t, hon, ht, hget⟩ := hpage engine after hcalm
    rw [hshown] at hget
    rcases List.eq_nil_or_concat (rest.take limit) with hnil | ⟨begun, cell, hlast⟩
    · rw [hnil] at hget
      obtain rfl : rest = [] :=
        (List.take_eq_nil_iff.mp hnil).resolve_left (Nat.ne_of_gt hlimit)
      exact ⟨[[]], .last hon hget, rfl⟩
    · have hbehind : cells = (before ++ begun) ++ cell :: rest.drop limit :=
        calc cells = before ++ (rest.take limit ++ rest.drop limit) := by
              rw [List.take_append_drop, hcells]
          _ = (before ++ begun) ++ cell :: rest.drop limit := by
              rw [hlast]
              simp
      have hmem : cell ∈ cells := by
        rw [hbehind]
        exact List.mem_append_right _ List.mem_cons_self
      have hkey : behindKey sources (some cell.shown) = some cell.key :=
        congrArg some (hgrouped.shown cell hmem)
      have hnext : Indices.page limit (behindKey sources (some cell.shown)) cells =
          (rest.drop limit).take limit := by
        rw [Indices.page, hkey]
        refine congrArg (List.take limit) ?_
        have hplain := hgrouped.plain
        have hrising := hgrouped.rising
        rw [hbehind] at hplain hrising ⊢
        exact filter_behind hplain hrising
      have hshorter : (rest.drop limit).length ≤ n := by
        rw [List.length_drop]
        have := congrArg List.length hlast
        rw [List.length_take, List.length_concat] at this
        omega
      obtain ⟨pages, hpaged, hflat⟩ := ih (before ++ begun ++ [cell]) (rest.drop limit)
        (some cell.shown) t hshorter (by rw [hbehind]; simp) ht hnext
      have hafter : (rest.take limit).getLast?.map (·.shown) = some cell.shown := by
        rw [hlast]
        simp
      dsimp only at hget
      rw [hafter] at hget
      refine ⟨_ :: pages, .next hon hget hpaged, ?_⟩
      rw [List.flatten_cons, hflat, ← List.map_append, List.take_append_drop]

end

end Documents

/-! ## All combinations -/

open Indices (PlainAtAll hasAll)

/-- The combination of values that a bucket is for, one for each source. -/
def Aggregation.Bucket.combination (sources : Fields String) (b : Bucket) : List Value :=
  sources.map fun s => Value.ofJson (b.key.field s.1)

/-- Paging through a composite enumerates its combinations. Let the documents of an
index hold plain values at all sources, which are under no nested path. Where the
criteria have a plan and their aggregations can be read, a run of searches that
starts without a key ends. It shows each combination that a counted document has,
once and in rising order, with the number of the counted documents that have it. -/
theorem pages_of_a_composite_show_each_combination_once (entity : Entity) (settings : Settings)
    (c : Criteria) (hnames : Search.NamesApart c) {a : Aggregation} (ha : a ∈ c.aggregations)
    (hkind : a.kind = .composite) {sources : Fields String} (htarget : a.target = .fields sources)
    (hordered : sources.Ordered) (hroots : ∀ s ∈ sources, entity.nestedPath? s.2 = none)
    (hsize : 0 < a.bucketLimit.getD settings.compositePage)
    (hreads : ∀ a' ∈ c.aggregations, Search.Reads settings a') {p : Search.Plan}
    (hplan : Search.plan entity settings c = .ok p) {engine : Indices.Engine} {ix : Indices.Index}
    (hfaults : engine.faults = []) (hix : engine.find entity.storage = .ok ix)
    (hvalues : ∀ d ∈ ix.documents, PlainAtAll sources d.source) :
    ∃ (pages : List (List Bucket)) (counts : Json → Bool),
      Paged (Documents.inMemory entity settings).search c a.name none engine pages ∧
      (∀ doc, counts doc = true ↔ Search.Matches entity (Search.countedBy entity c a) doc) ∧
      let docs := (ix.documents.map (·.source)).filter counts
      (pages.flatten.Pairwise fun b b' =>
        Value.orderLists (b.combination sources) (b'.combination sources) = .lt) ∧
      (∀ b ∈ pages.flatten,
        b.count = (docs.filter fun doc => hasAll doc sources (b.combination sources)).length) ∧
      ∀ vs, (∃ b ∈ pages.flatten, b.combination sources = vs) ↔
        Value.ArePlain vs ∧ ∃ doc ∈ docs, hasAll doc sources vs = true := by
  obtain ⟨counts, hcounts⟩ : ∃ counts : Json → Bool, ∀ doc, counts doc = true ↔
      Search.Matches entity (Search.countedBy entity c a) doc := by
    classical exact ⟨fun doc => decide _, fun doc => decide_eq_true_iff⟩
  let docs := (ix.documents.map (·.source)).filter counts
  let cells := Indices.comboCells sources (Indices.rootParts docs)
  have hgrouped : Indices.GroupedBy sources (Indices.rootParts docs) cells := by
    refine Indices.groupedBy_comboCells (fun part hpart => ?_)
      (List.pairwise_map.mpr (hordered.imp fun hlt => String.ne_of_lt hlt))
    obtain ⟨d, hd, heq⟩ := List.mem_map.mp
      (List.mem_filter.mp (Indices.doc_mem_of_mem_rootParts hpart)).1
    exact heq ▸ hvalues d hd
  have hfirst : Indices.page (a.bucketLimit.getD settings.compositePage)
      (Search.behindKey sources none) cells =
        cells.take (a.bucketLimit.getD settings.compositePage) :=
    congrArg (List.take _) (List.filter_eq_self.mpr fun _ _ => rfl)
  obtain ⟨pages, hpaged, hflat⟩ := Documents.paged_rest engine.indices
    (Search.bucketOf c none docs) hsize hgrouped (fun engine' after hcalm => by
      have hpage := Documents.exists_page hnames ha hkind htarget hroots hreads hplan hcalm.faults
        (hcalm.find hix) hcounts after
      rwa [hcalm.indices] at hpage)
    cells.length [] cells none engine (Nat.le_refl _) rfl ⟨rfl, hfaults⟩ hfirst
  have hkey : ∀ cell ∈ cells, (Search.bucketOf c none docs cell).combination sources = cell.key :=
    hgrouped.shown
  refine ⟨pages, counts, hpaged, hcounts, ?_⟩
  rw [hflat]
  refine ⟨List.pairwise_map.mpr (hgrouped.rising.imp_of_mem fun hcell hcell' hlt => ?_),
    List.forall_mem_map.mpr fun cell hcell => ?_, fun vs => ?_⟩
  · rwa [hkey _ hcell, hkey _ hcell']
  · rw [hkey cell hcell, ← Indices.length_filter_rootParts, ← hgrouped.docs cell hcell]
    rfl
  · constructor
    · rintro ⟨b, hb, rfl⟩
      obtain ⟨cell, hcell, rfl⟩ := List.mem_map.mp hb
      obtain ⟨part, hpart⟩ := List.exists_mem_of_ne_nil _ (hgrouped.filled cell hcell)
      rw [hgrouped.docs cell hcell] at hpart
      obtain ⟨hpart, hhas⟩ := List.mem_filter.mp hpart
      rw [hkey cell hcell]
      exact ⟨hgrouped.plain cell hcell, part.doc, Indices.doc_mem_of_mem_rootParts hpart, hhas⟩
    · rintro ⟨hplain, doc, hdoc, hhas⟩
      obtain ⟨part, hpart, rfl⟩ := Indices.exists_rootPart hdoc
      obtain ⟨cell, hcell, hcellKey⟩ := hgrouped.covers part hpart vs hplain hhas
      exact ⟨_, List.mem_map_of_mem hcell, (hkey cell hcell).trans hcellKey⟩

/-- Two red products have the first size, and one of them is blue as well. Pages of
one bucket come to the red ones of that size. -/
theorem pages_of_one_look_come_to_both_red_products :
    let entity : Entity := { name := "product", storage := "products" }
    let sources : Fields String := [("color", "color"), ("size", "size")]
    let looks : Aggregation := { Aggregation.composite "looks" sources with bucketLimit := some 1 }
    let c : Criteria := { aggregations := [looks] }
    let engine : Indices.Engine := { indices := [("products", { documents :=
      [⟨"1", .obj [("color", .arr [.str "red", .str "blue"]), ("id", .int 1), ("size", .int 1)]⟩,
        ⟨"2", .obj [("color", .str "red"), ("id", .int 2), ("size", .int 1)]⟩] })] }
    ∃ pages, Paged (Documents.inMemory entity {}).search c "looks" none engine pages ∧
      ∃ b ∈ pages.flatten, b.combination sources = [.text "red", .int 1] ∧ b.count = 2 := by
  intro entity sources looks c engine
  obtain ⟨p, hplan, -⟩ : ∃ p, Search.plan entity {} c = .ok p ∧ _ :=
    exists_of_any (p := fun _ => true) (by decide +kernel)
  obtain ⟨body, hcore, -⟩ :
      ∃ body, Search.core {} looks = .ok ("composite", body, .composite) ∧ _ :=
    Search.exists_core_composite {} rfl rfl
  have hreads : ∀ a ∈ c.aggregations, Search.Reads {} a :=
    List.forall_mem_singleton.mpr (Search.reads_of_core nofun hcore)
  obtain ⟨pages, counts, hpaged, hcounts, -, hcount, hcovers⟩ :=
    pages_of_a_composite_show_each_combination_once entity {} c
      (Search.NamesApart.mk (by decide) nofun) (a := looks) List.mem_cons_self rfl rfl
      (by decide +kernel) (by decide +kernel) (by decide) hreads hplan
      (show engine.faults = [] from rfl) rfl
      (by decide +kernel)
  obtain rfl : counts = fun _ => true := funext fun doc => (hcounts doc).mpr ⟨nofun, nofun, nofun⟩
  obtain ⟨b, hb, hlook⟩ := (hcovers [.text "red", .int 1]).mpr
    ⟨by decide +kernel, _, List.mem_cons_self, by decide +kernel⟩
  refine ⟨pages, hpaged, b, hb, hlook, (hcount b hb).trans ?_⟩
  rw [hlook]
  decide +kernel

end EntityStore
