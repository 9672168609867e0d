-- Searches that collapse the records that share a value. The first hit of each value
-- stays, and the total and the buckets count values, so that rows and counts agree.
import EntityStore.Proofs.Indices.Groups
import EntityStore.Proofs.Store.Answering
import Mathlib.Data.Set.Card

namespace EntityStore

open Aggregation (Bucket Result)

/-! ## The first of each value -/

section

variable {α β γ : Type} {value : α → β} {found kept : List α} {x y : α}

/-- The entry comes behind none that has its value. -/
def IsFirst (value : α → β) (found : List α) (x : α) : Prop :=
  ∃ before after, found = before ++ x :: after ∧ ∀ y ∈ before, value y ≠ value x

/-- Of the entries that share a value the first is kept, and no other one. -/
structure KeepsFirsts (value : α → β) (found kept : List α) : Prop where
  sublist : kept.Sublist found
  apart : (kept.map value).Nodup
  mem_iff : ∀ x, x ∈ kept ↔ IsFirst value found x

theorem isFirst_cons : IsFirst value (y :: found) x ↔
    x = y ∨ value y ≠ value x ∧ IsFirst value found x := by
  constructor
  · rintro ⟨before, after, heq, hbefore⟩
    rcases List.cons_eq_append_iff.mp heq with ⟨rfl, h⟩ | ⟨before, rfl, rfl⟩
    · exact .inl (List.cons.inj h).1
    · obtain ⟨hy, hbefore⟩ := List.forall_mem_cons.mp hbefore
      exact .inr ⟨hy, before, after, rfl, hbefore⟩
  · rintro (rfl | ⟨hy, before, after, rfl, hbefore⟩)
    · exact ⟨[], found, rfl, nofun⟩
    · exact ⟨y :: before, after, rfl, List.forall_mem_cons.mpr ⟨hy, hbefore⟩⟩

theorem IsFirst.mem (h : IsFirst value found x) : x ∈ found := by
  obtain ⟨before, after, rfl, -⟩ := h
  exact List.mem_append_right _ List.mem_cons_self

theorem not_isFirst_nil : ¬ IsFirst value [] x := fun h => List.not_mem_nil h.mem

theorem isFirst_map {f : γ → α} (hf : Function.Injective f) {found : List γ} {x : γ} :
    IsFirst value (found.map f) (f x) ↔ IsFirst (value ∘ f) found x := by
  induction found with
  | nil => exact iff_of_false not_isFirst_nil not_isFirst_nil
  | cons y rest ih =>
    rw [List.map_cons, isFirst_cons, isFirst_cons, hf.eq_iff, ih]
    rfl

theorem KeepsFirsts.of_map {f : γ → α} (hf : Function.Injective f) {found : List γ}
    (h : KeepsFirsts value (found.map f) kept) :
    ∃ kept', kept = kept'.map f ∧ KeepsFirsts (value ∘ f) found kept' := by
  obtain ⟨kept', hsublist, rfl⟩ := List.sublist_map_iff.mp h.sublist
  refine ⟨kept', rfl, hsublist, ?_, fun x => ?_⟩
  · rw [← List.map_map]
    exact h.apart
  · rw [← isFirst_map hf, ← h.mem_iff, List.mem_map_of_injective hf]

/-- It does not matter by what the entries that share a value are told from others. -/
theorem KeepsFirsts.congr {key : α → γ} (h : KeepsFirsts key found kept)
    (hsame : ∀ x ∈ found, ∀ y ∈ found, key x = key y ↔ value x = value y) :
    KeepsFirsts value found kept := by
  have hapart : kept.Pairwise fun x y => value x ≠ value y :=
    (List.pairwise_map.mp h.apart).imp_of_mem fun hx hy hne heq => hne
      ((hsame _ (h.sublist.subset hx) _ (h.sublist.subset hy)).mpr heq)
  refine ⟨h.sublist, List.pairwise_map.mpr hapart, fun x => (h.mem_iff x).trans ?_⟩
  refine exists₂_congr fun before after => and_congr_right fun heq =>
    forall₂_congr fun y hy => not_congr ?_
  subst heq
  exact hsame y (List.mem_append_left _ hy) x (List.mem_append_right _ List.mem_cons_self)

/-- Each value is kept. -/
theorem KeepsFirsts.covers (h : KeepsFirsts value found kept) (hx : x ∈ found) :
    ∃ y ∈ kept, value y = value x := by
  classical
  obtain ⟨y, hy⟩ := Option.isSome_iff_exists.mp
    (List.find?_isSome (p := fun y => decide (value y = value x)).mpr ⟨x, hx, decide_eq_true rfl⟩)
  obtain ⟨hvalue, before, after, heq, hbefore⟩ := List.find?_eq_some_iff_append.mp hy
  have hvalue : value y = value x := of_decide_eq_true hvalue
  refine ⟨y, (h.mem_iff y).mpr ⟨before, after, heq, fun z hz => ?_⟩, hvalue⟩
  rw [hvalue]
  simpa using hbefore z hz

/-- The members of a list without repetitions are as many as it is long. -/
theorem ncard_eq_length {s : Set α} {xs : List α} (hxs : xs.Nodup) (h : ∀ x, x ∈ s ↔ x ∈ xs) :
    s.ncard = xs.length := by
  classical
  have hset : s = ↑xs.toFinset := Set.ext fun x => by simp [h]
  rw [hset, Set.ncard_coe_finset, List.toFinset_card_of_nodup hxs]

theorem ncard_image_eq_one {s : Set α} {y : β} (hs : s.Nonempty) (h : ∀ x ∈ s, value x = y) :
    (value '' s).ncard = 1 := by
  rw [Set.image_congr h, hs.image_const, Set.ncard_singleton]

theorem KeepsFirsts.length_eq (h : KeepsFirsts value found kept) :
    kept.length = (value '' {x | x ∈ found}).ncard := by
  rw [ncard_eq_length h.apart fun v => ?_, List.length_map]
  rw [List.mem_map]
  constructor
  · rintro ⟨x, hx, rfl⟩
    exact h.covers hx
  · rintro ⟨x, hx, rfl⟩
    exact ⟨x, h.sublist.subset hx, rfl⟩

end

/-! ## Values that records are collapsed by -/

namespace Indices

open Request (collapseKey firsts)

variable {field : String} {k : Kind} {doc : Json} {docs : List Json} {parts : List Part}

/-- The first value of a document at a field, null where it has none. -/
def firstAt (field : String) (doc : Json) : Value :=
  ((valuesAt doc field).head?.map Value.ofJson).getD .null

/-- The document has one value at the field, which is of the kind. -/
def HasOneAt (k : Kind) (field : String) (doc : Json) : Prop :=
  ∃ j, valuesAt doc field = [j] ∧ k.Has (Value.ofJson j)

theorem HasOneAt.has (h : HasOneAt k field doc) : k.Has (firstAt field doc) := by
  obtain ⟨j, hj, hhas⟩ := h
  rw [firstAt, hj]
  exact hhas

theorem HasOneAt.map_valuesAt (h : HasOneAt k field doc) :
    (valuesAt doc field).map Value.ofJson = [firstAt field doc] := by
  obtain ⟨j, hj, -⟩ := h
  rw [firstAt, hj]
  rfl

theorem HasOneAt.collapseKey_eq {h : Hit} (hone : HasOneAt k field h.document.source) :
    collapseKey field h = (firstAt field h.document.source).key := by
  obtain ⟨j, hj, -⟩ := hone
  rw [collapseKey, firstAt, hj]
  rfl

/-- Where each document has one value, the different values are counted. -/
theorem cardinality_eq_ncard (hone : ∀ p ∈ parts, HasOneAt k field p.doc) :
    cardinality field parts = (firstAt field '' {doc | ∃ p ∈ parts, p.doc = doc}).ncard := by
  have hvalues : (parts.flatMap fun p => valuesAt p.doc field).map Value.ofJson =
      parts.map fun p => firstAt field p.doc := by
    rw [List.map_flatMap, List.map_eq_flatMap]
    exact List.flatMap_congr fun p hp => (hone p hp).map_valuesAt
  have hhas : ∀ v ∈ parts.map fun p => firstAt field p.doc, k.Has v :=
    List.forall_mem_map.mpr fun p hp => (hone p hp).has
  obtain ⟨hnodup, hmem⟩ := Value.distinct_of_apart (fun _ _ hv hw => hv.beq_iff hw) hhas
  rw [cardinality, hvalues, ncard_eq_length hnodup fun v => ?_]
  rw [hmem, List.mem_map]
  constructor
  · rintro ⟨_, ⟨p, hp, rfl⟩, rfl⟩
    exact ⟨p, hp, rfl⟩
  · rintro ⟨p, hp, rfl⟩
    exact ⟨_, ⟨p, hp, rfl⟩, rfl⟩

/-! ## Documents of groups -/

theorem mem_rootParts_iff {p : Part} : p ∈ rootParts docs ↔ docs[p.root]? = some p.doc := by
  rw [rootParts, List.mem_map]
  constructor
  · rintro ⟨d, hd, rfl⟩
    exact List.mem_zipIdx_iff_getElem?.mp hd
  · exact fun h => ⟨(p.doc, p.root), List.mem_zipIdx_iff_getElem?.mpr h, rfl⟩

theorem mem_wholeParts_iff {p : Part} : p ∈ wholeParts docs parts ↔
    docs[p.root]? = some p.doc ∧ ∃ q ∈ parts, q.root = p.root := by
  rw [wholeParts, List.mem_map]
  constructor
  · rintro ⟨d, hd, rfl⟩
    obtain ⟨hd, hroot⟩ := List.mem_filter.mp hd
    exact ⟨List.mem_zipIdx_iff_getElem?.mp hd, by simpa using hroot⟩
  · rintro ⟨h, hroot⟩
    exact ⟨(p.doc, p.root), List.mem_filter.mpr ⟨List.mem_zipIdx_iff_getElem?.mpr h,
      by simpa using hroot⟩, rfl⟩

theorem mem_of_mem_add {κ : Type} {order : κ → κ → Ordering} {key : κ} {shown : Json} {p q : Part}
    {cells : List (Cell κ)} {c : Cell κ} (hc : c ∈ Cell.add order key shown p cells)
    (hq : q ∈ c.docs) : q = p ∨ ∃ d ∈ cells, q ∈ d.docs := by
  induction cells with
  | nil =>
    obtain rfl := List.mem_singleton.mp hc
    exact .inl (List.mem_singleton.mp hq)
  | cons d rest ih =>
    rw [Cell.add] at hc
    split at hc
    · rcases List.mem_cons.mp hc with rfl | hc
      · exact .inl (List.mem_singleton.mp hq)
      · exact .inr ⟨c, hc, hq⟩
    · rcases List.mem_cons.mp hc with rfl | hc
      · rcases List.mem_append.mp hq with hq | hq
        · exact .inr ⟨d, List.mem_cons_self, hq⟩
        · exact .inl (List.mem_singleton.mp hq)
      · exact .inr ⟨c, List.mem_cons_of_mem _ hc, hq⟩
    · rcases List.mem_cons.mp hc with rfl | hc
      · exact .inr ⟨c, List.mem_cons_self, hq⟩
      · refine (ih hc).imp_right fun h => ?_
        obtain ⟨e, he, hq⟩ := h
        exact ⟨e, List.mem_cons_of_mem _ he, hq⟩

/-- Groups hold nothing but the documents that are grouped, whatever their keys. -/
theorem mem_of_mem_group {κ : Type} {order : κ → κ → Ordering} {keys : Part → List (κ × Json)}
    {c : Cell κ} {q : Part} (hc : c ∈ Cell.group order keys parts) (hq : q ∈ c.docs) :
    q ∈ parts := by
  have hfold : ∀ (xs : List (Cell.Entry κ)) (cells : List (Cell κ)),
      c ∈ xs.foldl (Cell.Entry.addTo order) cells →
        (∃ d ∈ cells, q ∈ d.docs) ∨ ∃ x ∈ xs, q = x.part := by
    intro xs
    induction xs with
    | nil => exact fun cells hc => .inl ⟨c, hc, hq⟩
    | cons x rest ih =>
      intro cells hc
      rcases ih _ hc with ⟨d, hd, hq⟩ | ⟨y, hy, hq⟩
      · exact (mem_of_mem_add hd hq).symm.imp_right fun heq => ⟨x, List.mem_cons_self, heq⟩
      · exact .inr ⟨y, List.mem_cons_of_mem _ hy, hq⟩
  rw [Cell.group_eq_foldl] at hc
  obtain ⟨x, hx, rfl⟩ := (hfold _ _ hc).resolve_left fun ⟨d, hd, _⟩ => List.not_mem_nil hd
  obtain ⟨p, hp, hx⟩ := List.mem_flatMap.mp hx
  obtain ⟨k, -, rfl⟩ := List.mem_map.mp hx
  exact hp

/-- The whole documents that are in a group, or have objects in it. -/
def Cell.wholes {κ : Type} (docs : List Json) (cell : Cell κ) : Set Json :=
  {doc | ∃ p ∈ cell.docs, docs[p.root]? = some doc}

/-! ## Collapsed hits -/

variable {hs : List Hit} {seen : List String}

theorem firsts_sublist (field : String) (hs : List Hit) (seen : List String) :
    (firsts field hs seen).Sublist hs := by
  induction hs generalizing seen with
  | nil => exact .slnil
  | cons h rest ih =>
    rw [firsts]
    split
    · exact (ih seen).cons h
    · exact (ih _).cons_cons h

/-- A hit stays when its key was not seen before and no hit in front of it has it. -/
theorem mem_firsts_iff {h : Hit} : h ∈ firsts field hs seen ↔
    collapseKey field h ∉ seen ∧ IsFirst (collapseKey field) hs h := by
  induction hs generalizing seen with
  | nil => exact iff_of_false List.not_mem_nil fun h => not_isFirst_nil h.2
  | cons g rest ih =>
    rw [firsts, isFirst_cons]
    split
    · rename_i hseen
      have hseen := List.contains_iff_mem.mp hseen
      rw [ih]
      refine and_congr_right fun hnew => ⟨fun hfirst => .inr ⟨?_, hfirst⟩, ?_⟩
      · exact fun heq => hnew (heq ▸ hseen)
      · rintro (rfl | ⟨-, hfirst⟩)
        · exact absurd hseen hnew
        · exact hfirst
    · rename_i hnew
      rw [List.contains_iff_mem] at hnew
      rw [List.mem_cons, ih, List.mem_cons, not_or]
      constructor
      · rintro (rfl | ⟨⟨hne, hnotin⟩, hfirst⟩)
        · exact ⟨hnew, .inl rfl⟩
        · exact ⟨hnotin, .inr ⟨Ne.symm hne, hfirst⟩⟩
      · rintro ⟨hnotin, rfl | ⟨hne, hfirst⟩⟩
        · exact .inl rfl
        · exact .inr ⟨⟨Ne.symm hne, hnotin⟩, hfirst⟩

theorem nodup_keys_firsts (field : String) (hs : List Hit) (seen : List String) :
    ((firsts field hs seen).map (collapseKey field)).Nodup := by
  induction hs generalizing seen with
  | nil => exact .nil
  | cons h rest ih =>
    rw [firsts]
    split
    · exact ih seen
    · refine List.nodup_cons.mpr ⟨fun hmem => ?_, ih _⟩
      obtain ⟨g, hg, heq⟩ := List.mem_map.mp hmem
      exact (mem_firsts_iff.mp hg).1 (heq ▸ List.mem_cons_self)

/-- Where each document has one value, the hits that stay are those of the first
documents of their values. -/
theorem exists_keepsFirsts (r : Request) (field : String) {found : List Document}
    (hone : ∀ d ∈ found, HasOneAt k field d.source) :
    ∃ kept, KeepsFirsts (fun d => firstAt field d.source) found kept ∧
      firsts field (found.map r.hit) [] = kept.map r.hit := by
  have hinj : Function.Injective r.hit := fun d d' heq => congrArg Hit.document heq
  have hfirsts : KeepsFirsts (collapseKey field) (found.map r.hit)
      (firsts field (found.map r.hit) []) :=
    ⟨firsts_sublist .., nodup_keys_firsts .., fun h =>
      mem_firsts_iff.trans (and_iff_right List.not_mem_nil)⟩
  obtain ⟨kept, hkept, hfirst⟩ := hfirsts.of_map hinj
  refine ⟨kept, hfirst.congr fun d hd d' hd' => ?_, hkept⟩
  have hkey : ∀ d ∈ found, collapseKey field (r.hit d) = (firstAt field d.source).key :=
    fun d hd => HasOneAt.collapseKey_eq (h := r.hit d) (hone d hd)
  rw [Function.comp_apply, Function.comp_apply, hkey d hd, hkey d' hd']
  exact ⟨(hone d hd).has.key_inj (hone d' hd').has, congrArg Value.key⟩

/-- Documents in the order of sorts. Those that no sort tells apart keep their order. -/
def inOrder (sorts : List SortKey) (docs : List Document) : List Document :=
  docs.mergeSort fun a b =>
    (orderHits sorts (sorts.map (·.value? a.source)) (sorts.map (·.value? b.source))).isLE

end Indices

/-! ## Plans -/

namespace Search

variable {entity : Entity} {settings : Settings} {c : Criteria} {a : Aggregation} {p : Plan}
  {k : Kind} {f : String} {collapse : Collapse}

theorem collapse_of_plan (h : plan entity settings c = .ok p) :
    p.request.collapse = c.collapse ∧ p.request.source = sourceFilter c := by
  obtain ⟨-, ps, post, nodes, -, -, -, -, hrequest⟩ := plan_eq_ok_iff.mp h
  rw [hrequest, page]
  split <;> exact ⟨rfl, rfl⟩

/-- A terms aggregation that has a node is over one field, and can be read. -/
theorem field_of_plan (h : plan entity settings c = .ok p) (ha : a ∈ c.aggregations)
    (hkind : a.kind = .terms) : ∃ f, a.target = .field f ∧ Reads settings a := by
  obtain ⟨i, hi⟩ := List.mem_iff_getElem?.mp ha
  obtain ⟨node, layout, hnode, -⟩ := aggregation_of_plan h hi
  obtain ⟨nested, -, hnode⟩ := bind_eq_ok_iff.mp hnode
  obtain ⟨⟨kind, body, shape⟩, hcore, -⟩ := bind_eq_ok_iff.mp hnode
  cases htarget : a.target with
  | field f => exact ⟨f, rfl, reads_of_core (by rw [hkind]; exact nofun) hcore⟩
  | fields sources =>
    unfold core at hcore
    rw [hkind, htarget] at hcore
    cases hcore

/-- All results that can be reached are on a page without a limit. -/
theorem take_size_eq {α : Type} (h : plan entity settings c = .ok p)
    (hscroll : c.scrollAfter = none) (hlimit : c.page.limit = none) {xs : List α}
    (hreach : xs.length ≤ settings.maxWindow) :
    (xs.drop p.request.start).take p.request.size = xs := by
  obtain ⟨hstart, hsize⟩ := window_of_plan h hscroll
  have hoffset : c.page.offset = 0 := by rw [Page.offset, hlimit]
  rw [hstart, hsize, take_pageSize_eq, List.take_of_length_le hreach, hoffset, hlimit]
  rfl

theorem passes_of_plan (h : plan entity settings c = .ok p) (doc : Json) :
    Indices.passes p.request.query.asRead (p.request.postFilter.map Query.asRead) doc = true ↔
      Matches entity c doc := by
  obtain ⟨hfilters, -, hquery⟩ := query_of_plan h
  rw [hquery]
  exact passes_asRead_iff hfilters (parts_of_plan h).1

/-- The bucket of a group, with the number of the different values that the whole
documents in it have at a field. -/
noncomputable def valuesBucket (field : String) (docs : List Json) (cell : Indices.Cell Value) :
    Bucket where
  key := cell.shown
  count := cell.docs.length
  distinct := some (Indices.firstAt field '' cell.wholes docs).ncard

theorem bucketOf_eq (hcollapse : c.collapse = some collapse) {docs : List Json}
    (hone : ∀ doc ∈ docs, Indices.HasOneAt k collapse.countField doc) {nested : Option String}
    {cell : Indices.Cell Value}
    (hcell : ∀ part ∈ cell.docs, part ∈ expand nested (Indices.rootParts docs)) :
    bucketOf c nested docs cell = valuesBucket collapse.countField docs cell := by
  rw [bucketOf, hcollapse, Option.map_some]
  refine congrArg (fun n => Bucket.mk _ _ (some n)) ?_
  have hcount : ∀ parts, (∀ doc, (∃ part ∈ parts, part.doc = doc) ↔ doc ∈ cell.wholes docs) →
      Indices.cardinality collapse.countField parts =
        (Indices.firstAt collapse.countField '' cell.wholes docs).ncard := by
    intro parts hparts
    have hset : {doc | ∃ part ∈ parts, part.doc = doc} = cell.wholes docs := Set.ext hparts
    have hones : ∀ part ∈ parts, Indices.HasOneAt k collapse.countField part.doc := by
      intro part hpart
      obtain ⟨_, -, hdoc⟩ := (hparts part.doc).mp ⟨part, hpart, rfl⟩
      exact hone part.doc (List.mem_of_getElem? hdoc)
    rw [Indices.cardinality_eq_ncard hones, hset]
  cases nested with
  | none =>
    refine hcount cell.docs fun doc => exists_congr fun part => and_congr_right fun hpart => ?_
    rw [Indices.mem_rootParts_iff.mp (hcell part hpart), Option.some.injEq]
  | some path =>
    refine hcount (Indices.wholeParts docs cell.docs) fun doc => ⟨?_, ?_⟩
    · rintro ⟨whole, hwhole, rfl⟩
      obtain ⟨hdoc, part, hpart, hroot⟩ := Indices.mem_wholeParts_iff.mp hwhole
      exact ⟨part, hpart, hroot ▸ hdoc⟩
    · rintro ⟨part, hpart, hdoc⟩
      exact ⟨⟨part.root, doc⟩, Indices.mem_wholeParts_iff.mpr ⟨hdoc, part, hpart, rfl⟩, rfl⟩

end Search

/-! ## Searches -/

namespace Documents

open Indices (HasOneAt PlainAt finds firstAt rank rootParts termCells)
open Search (Matches)

variable {entity : Entity} {settings : Settings} {c : Criteria} {a : Aggregation} {p : Search.Plan}
  {k : Kind} {collapse : Collapse} {ix : Indices.Index}

/-- What criteria let a search show of a document. -/
def shownBy (c : Criteria) (d : Indices.Document) : Indices.Document :=
  let filter := Search.sourceFilter c
  { d with source := filter.elim d.source fun s => Indices.project s.toJson d.source }

/-- The row shows the document: all members are those of its record, but for the hits
that come with it. -/
def Shows (entity : Entity) (c : Criteria) (d : Indices.Document) (row : Fields Json) : Prop :=
  ∀ name, name ≠ Search.innerHitsName →
    Fields.get? row name = Fields.get? ((shownBy c d).record entity.idField) name

theorem shows_row (hplan : Search.plan entity settings c = .ok p) (name : String)
    (all : List Indices.Hit) (d : Indices.Document) :
    Shows entity c d
      (Search.row entity.idField ((asked p).hitJson name all ((asked p).hit d))) := by
  have hseen : (asked p).seen d = shownBy c d := by
    rw [shownBy, ← (Search.collapse_of_plan hplan).2]
    show ({ d with source := (p.request.source.map Search.SourceFilter.toJson).elim _ _ } :
      Indices.Document) = _
    cases p.request.source <;> rfl
  have hdocument : ((asked p).hit d).document = d := rfl
  intro member hmember
  rw [Indices.row_hitJson_eq, hdocument, hseen]
  split
  · rfl
  · exact (Fields.get?_insert ..).trans (if_neg hmember)

theorem hits_asked (hplan : Search.plan entity settings c = .ok p) (hscroll : c.scrollAfter = none)
    (ix : Indices.Index) : (asked p).hits ix = ((asked p).matching ix).map (asked p).hit := by
  have hall : ∀ d, (asked p).isAfter ((asked p).hit d) = true := fun d =>
    (Search.isAfter_of_plan hplan (Search.read_request p.request) d).trans (by rw [hscroll]; rfl)
  rw [Indices.hits_eq, List.filter_eq_self.mpr fun d _ => hall d]

/-- The rows of all hits are those of the first documents of their values. -/
theorem exists_rows (hplan : Search.plan entity settings c = .ok p) (hscroll : c.scrollAfter = none)
    (hcollapse : c.collapse = some collapse)
    (hone : ∀ d ∈ ix.documents, HasOneAt k collapse.field d.source) (name : String) :
    ∃ kept, KeepsFirsts (fun d => firstAt collapse.field d.source) ((asked p).matching ix) kept ∧
      List.Forall₂ (Shows entity c) kept ((asked p).rows entity.idField name ix) := by
  obtain ⟨kept, hkept, hfirsts⟩ := Indices.exists_keepsFirsts (asked p) collapse.field
    fun d hd => hone d (Indices.mem_matching_iff.mp hd).1
  have hfield : (asked p).collapse = some collapse.field := by
    show p.request.collapse.map (·.field) = _
    rw [(Search.collapse_of_plan hplan).1, hcollapse]
    rfl
  refine ⟨kept, hkept, ?_⟩
  rw [Indices.Request.rows, Indices.Request.collapsed, hfield]
  show List.Forall₂ _ kept ((Indices.Request.firsts collapse.field ((asked p).hits ix) []).map _)
  rw [hits_asked hplan hscroll, hfirsts, List.map_map]
  exact List.forall₂_map_right_iff.mpr
    (List.forall₂_same.mpr fun d _ => shows_row hplan name _ d)

/-- The documents of the first hits are as many as the values of all that match. -/
theorem total_eq_length {field : String} {kept : List Indices.Document}
    (hplan : Search.plan entity settings c = .ok p)
    (hone : ∀ d ∈ ix.documents, HasOneAt k field d.source)
    (hkept : KeepsFirsts (fun d => firstAt field d.source) ((asked p).matching ix) kept)
    {counts : Json → Bool} (hcounts : ∀ doc, counts doc = true ↔ Matches entity c doc) :
    Indices.cardinality field (rootParts ((ix.documents.map (·.source)).filter counts)) =
      kept.length := by
  have hdocs : ∀ doc, doc ∈ (ix.documents.map (·.source)).filter counts ↔
      ∃ d ∈ (asked p).matching ix, d.source = doc := by
    intro doc
    rw [List.mem_filter, List.mem_map, hcounts, ← Search.passes_of_plan hplan]
    constructor
    · rintro ⟨⟨d, hd, rfl⟩, hpasses⟩
      exact ⟨d, Indices.mem_matching_iff.mpr ⟨hd, hpasses⟩, rfl⟩
    · rintro ⟨d, hd, rfl⟩
      obtain ⟨hd, hpasses⟩ := Indices.mem_matching_iff.mp hd
      exact ⟨⟨d, hd, rfl⟩, hpasses⟩
  have hparts : ∀ part ∈ rootParts ((ix.documents.map (·.source)).filter counts),
      ∃ d ∈ (asked p).matching ix, d.source = part.doc :=
    fun part hpart => (hdocs part.doc).mp (Indices.doc_mem_of_mem_rootParts hpart)
  have hones : ∀ part ∈ rootParts ((ix.documents.map (·.source)).filter counts),
      HasOneAt k field part.doc := by
    intro part hpart
    obtain ⟨d, hd, heq⟩ := hparts part hpart
    exact heq ▸ hone d (Indices.mem_matching_iff.mp hd).1
  rw [Indices.cardinality_eq_ncard hones, hkept.length_eq]
  refine congrArg Set.ncard (Set.ext fun v => ?_)
  constructor
  · rintro ⟨_, ⟨part, hpart, rfl⟩, rfl⟩
    obtain ⟨d, hd, heq⟩ := hparts part hpart
    exact ⟨d, hd, congrArg (firstAt field) heq⟩
  · rintro ⟨d, hd, rfl⟩
    exact ⟨d.source, Indices.exists_rootPart ((hdocs _).mpr ⟨d, hd, rfl⟩), rfl⟩

/-- Each bucket of a terms aggregation has the number of the different values in it. -/
theorem direct_collapsed (entity : Entity) (settings : Settings) {docs : List Json}
    (hcollapse : c.collapse = some collapse) (hkind : a.kind = .terms) {f : String}
    (htarget : a.target = .field f)
    (hone : ∀ doc ∈ docs, HasOneAt k collapse.countField doc) :
    let parts := Search.expand (entity.nestedPath? f) (rootParts docs)
    let shown := (rank (termCells f parts)).take
      (a.bucketLimit.getD (settings.bucketLimitFor f))
    Search.direct entity settings c a docs =
        some (.buckets (shown.map (Search.valuesBucket collapse.countField docs))) ∧
      (PlainAt f parts → ∀ cell ∈ shown,
        cell.docs = parts.filter fun part => finds (.term f cell.shown) part.doc) := by
  intro parts shown
  have hcells : ∀ cell ∈ shown, cell ∈ termCells f parts :=
    fun cell hcell => List.mem_mergeSort.mp (List.mem_of_mem_take hcell)
  refine ⟨?_, fun hplain cell hcell =>
    (Indices.groupedAt_termCells hplain).docs cell (hcells cell hcell)⟩
  rw [Search.direct_terms hkind htarget (Search.commonPath_of_field htarget)]
  exact congrArg (fun bs => some (Result.buckets bs)) (List.map_congr_left fun cell hcell =>
    Search.bucketOf_eq hcollapse hone fun part hpart =>
      Indices.mem_of_mem_group (hcells cell hcell) hpart)

end Documents

/-! ## Rows, totals and buckets -/

open Indices (HasOneAt PlainAt finds firstAt inOrder rank rootParts termCells)

/-- Rows, total and buckets of a search that collapses agree. Let each document of an
index have one value of a kind in the field that is collapsed by and counted, and let
the index have no more documents than a search may reach. Without a limit or a scroll,
and where all aggregations are of terms and have names of their own, the rows show the
first document of each value among those that match, in the order of the sorts. The
total is the number of rows. A bucket counts the different values of the documents
that are in its group or have objects in it. -/
theorem a_collapse_shows_and_counts_each_value_once (entity : Entity) (settings : Settings)
    (c : Criteria) (hnames : Search.NamesApart c) (hterms : ∀ a ∈ c.aggregations, a.kind = .terms)
    (hscroll : c.scrollAfter = none) (hlimit : c.page.limit = none) {collapse : Collapse}
    (hcollapse : c.collapse = some collapse) (hfield : collapse.countField = collapse.field)
    {p : Search.Plan} (hplan : Search.plan entity settings c = .ok p) {engine : Indices.Engine}
    {ix : Indices.Index} (hfaults : engine.faults = []) (hix : engine.find entity.storage = .ok ix)
    (hreach : ix.documents.length ≤ settings.maxWindow) {k : Kind}
    (hone : ∀ d ∈ ix.documents, HasOneAt k collapse.field d.source) :
    ∃ out, (((Documents.inMemory entity settings).search c).on engine).1 = .ok out ∧
      (∃ (counts : Json → Bool) (kept : List Indices.Document),
        (∀ doc, counts doc = true ↔ Search.Matches entity c doc) ∧
        KeepsFirsts (fun d => firstAt collapse.field d.source)
          (inOrder (p.request.sort.map Search.SortKey.asRead)
            (ix.documents.filter fun d => counts d.source)) kept ∧
        List.Forall₂ (Documents.Shows entity c) kept out.rows) ∧
      out.total = out.rows.length ∧
      ∀ a ∈ c.aggregations, ∃ f, a.target = .field f ∧ ∃ counts : Json → Bool,
        (∀ doc, counts doc = true ↔ Search.Matches entity (Search.countedBy entity c a) doc) ∧
        let docs := (ix.documents.map (·.source)).filter counts
        let parts := Search.expand (entity.nestedPath? f) (rootParts docs)
        let shown := (rank (termCells f parts)).take
          (a.bucketLimit.getD (settings.bucketLimitFor f))
        out.aggregations.get? a.name =
          some (.buckets (shown.map (Search.valuesBucket collapse.field docs))) ∧
        (PlainAt f parts → ∀ cell ∈ shown,
          cell.docs = parts.filter fun part => finds (.term f cell.shown) part.doc) := by
  obtain ⟨out, hout, hrows⟩ := Documents.exists_search hnames
    (fun a ha => (Search.field_of_plan hplan ha (hterms a ha)).choose_spec.2) hfaults hix hplan
  obtain ⟨kept, hkept, hshows⟩ :=
    Documents.exists_rows hplan hscroll hcollapse hone entity.storage
  have hlength : kept.length ≤ ix.documents.length :=
    calc kept.length ≤ ((Documents.asked p).matching ix).length := hkept.sublist.length_le
      _ = _ := (List.mergeSort_perm _ _).length_eq
      _ ≤ ix.documents.length := List.length_filter_le _ _
  rw [Search.take_size_eq hplan hscroll hlimit
    (hshows.length_eq ▸ Nat.le_trans hlength hreach)] at hrows
  rw [← hrows] at hshows
  refine ⟨out, hout, ⟨_, kept, Search.passes_of_plan hplan, hkept, hshows⟩, ?_, fun a ha => ?_⟩
  · obtain ⟨ix', counts, hix', hcounts, htotal⟩ := Documents.total_of_search hout
    obtain rfl := Except.ok.inj (hix.symm.trans hix')
    rw [htotal, Documents.total, hcollapse, ← hshows.length_eq]
    dsimp only
    rw [hfield]
    exact Documents.total_eq_length hplan hone hkept hcounts
  · obtain ⟨f, htarget, -⟩ := Search.field_of_plan hplan ha (hterms a ha)
    obtain ⟨ix', hix', heach⟩ := Documents.aggregation_of_search hnames hout
    obtain rfl := Except.ok.inj (hix.symm.trans hix')
    obtain ⟨counts, hcounts, r, hdirect, hget⟩ := heach a ha
    have hones : ∀ doc ∈ (ix.documents.map (·.source)).filter counts,
        HasOneAt k collapse.countField doc := by
      intro doc hdoc
      obtain ⟨d, hd, rfl⟩ := List.mem_map.mp (List.mem_filter.mp hdoc).1
      exact hfield ▸ hone d hd
    obtain ⟨hbuckets, hplain⟩ := Documents.direct_collapsed entity settings hcollapse
      (hterms a ha) htarget hones
    refine ⟨f, htarget, counts, hcounts, ?_, hplain⟩
    rw [hget, ← hdirect, hbuckets, hfield]

/-- Two products of one brand have three red offers. There is one row for the brand,
and one brand has red offers. -/
theorem three_red_offers_are_of_one_brand :
    let entity : Entity := { name := "product", storage := "products", nestedPaths := ["offers"] }
    let c : Criteria := {
      aggregations := [.terms "offers.color"]
      collapse := some { field := "brand", countField := "brand" } }
    let red : Json := .obj [("color", .str "red")]
    let engine : Indices.Engine := { indices := [("products", { documents :=
      [⟨"1", .obj [("brand", .str "Oak"), ("id", .int 1), ("offers", .arr [red, red])]⟩,
        ⟨"2", .obj [("brand", .str "Oak"), ("id", .int 2), ("offers", .arr [red])]⟩] })] }
    ∃ out, (((Documents.inMemory entity {}).search c).on engine).1 = .ok out ∧
      out.rows.length = 1 ∧ out.total = 1 ∧
      ∃ b, out.aggregations.get? "offers.color" = some (.buckets [b]) ∧ b.count = 3 ∧
        b.distinct = some 1 := by
  intro entity c red engine
  obtain ⟨p, hplan, -⟩ : ∃ p, Search.plan entity {} c = .ok p ∧ _ :=
    exists_of_any (p := fun _ => true) (by decide +kernel)
  let first : Indices.Document :=
    ⟨"1", .obj [("brand", .str "Oak"), ("id", .int 1), ("offers", .arr [red, red])]⟩
  let second : Indices.Document :=
    ⟨"2", .obj [("brand", .str "Oak"), ("id", .int 2), ("offers", .arr [red])]⟩
  obtain ⟨out, hout, ⟨counts, kept, hcounts, hkept, hshows⟩, htotal, heach⟩ :=
    a_collapse_shows_and_counts_each_value_once entity {} c
      ⟨by decide, fun _ => by decide⟩ (List.forall_mem_singleton.mpr rfl) rfl rfl rfl rfl hplan
      (show engine.faults = [] from rfl)
      (show engine.find "products" = .ok { documents := [first, second] } from rfl) (by decide)
      (k := .text) (List.forall_mem_cons.mpr ⟨⟨.str "Oak", rfl, trivial⟩,
        List.forall_mem_singleton.mpr ⟨.str "Oak", rfl, trivial⟩⟩)
  obtain rfl : counts = fun _ => true := funext fun doc => (hcounts doc).mpr ⟨nofun, nofun, nofun⟩
  obtain ⟨f, htarget, counts, hcounts, hget, -⟩ := heach _ List.mem_cons_self
  obtain rfl : counts = fun _ => true := funext fun doc => (hcounts doc).mpr ⟨nofun, nofun, nofun⟩
  obtain rfl : "offers.color" = f := Aggregation.Target.field.inj htarget
  have hoak : ∀ d ∈ [first, second], Indices.firstAt "brand" d.source = .text "Oak" :=
    List.forall_mem_cons.mpr ⟨rfl, List.forall_mem_singleton.mpr rfl⟩
  have hrow : out.rows.length = 1 := by
    rw [← hshows.length_eq, hkept.length_eq]
    exact ncard_image_eq_one ⟨first, List.mem_mergeSort.mpr List.mem_cons_self⟩ fun d hd =>
      hoak d (List.mem_filter.mp (List.mem_mergeSort.mp hd)).1
  refine ⟨out, hout, hrow, htotal.trans hrow, ?_⟩
  let docs : List Json := [first.source, second.source]
  let offers := Search.expand (some "offers") (rootParts docs)
  let shown := (rank (termCells "offers.color" offers)).take
    (Settings.bucketLimitFor {} "offers.color")
  have hget : out.aggregations.get? "offers.color" =
    some (.buckets (shown.map (Search.valuesBucket "brand" docs))) := hget
  have hcells : shown.map (·.docs.map Indices.Part.root) = [[0, 0, 1]] := by decide +kernel
  obtain ⟨cell, hcell, hroots⟩ := List.map_eq_singleton_iff.mp hcells
  rw [hcell] at hget
  have hwholes : ∀ doc ∈ cell.wholes docs, Indices.firstAt "brand" doc = .text "Oak" := by
    rintro doc ⟨part, -, hdoc⟩
    obtain ⟨d, hd, rfl⟩ := List.mem_map.mp
      (show doc ∈ [first, second].map (·.source) from List.mem_of_getElem? hdoc)
    exact hoak d hd
  obtain ⟨part, hpart, hroot⟩ := List.mem_map.mp
    (show 0 ∈ cell.docs.map Indices.Part.root from hroots ▸ List.mem_cons_self)
  refine ⟨_, hget, ?_, congrArg some (ncard_image_eq_one ⟨first.source, part, hpart, ?_⟩ hwholes)⟩
  · exact (List.length_map _).symm.trans (congrArg List.length hroots)
  · rw [hroot]
    rfl

end EntityStore
