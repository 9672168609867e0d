-- The inner hits that the query of a plan asks for. Each group of filters asks
-- once for the objects under each of its nested paths that has inner hits, and
-- the name is the path. So two groups that look under one path ask under one name.
import EntityStore.Proofs.Search.Plain
import Mathlib.Data.List.Nodup

namespace EntityStore.Search

open EntityStore.Filter (Condition Group)
open Indices (addInnerHits addAllInnerHits innerHits innerName objectsAt under)

/-! ## Clauses that ask -/

/-- A nested clause that asks for inner hits, and the name that they go by. -/
structure Asking where
  name : String
  path : String
  query : Query

/-- The clause finds an object under its path. -/
def Asking.finds (a : Asking) (o : Json) : Bool := Indices.finds a.query (under a.path o)

/-- The objects in a document that the clause finds. -/
def Asking.objects (a : Asking) (doc : Json) : List Json :=
  (objectsAt doc a.path).filter a.finds

/-- The inner hits of the clause in a document, under their name. -/
def Asking.entry (doc : Json) (a : Asking) : String × Json :=
  (a.name, innerHits a.path a.query doc)

namespace Query

mutual

/-- All clauses of the query that ask for inner hits, wherever they stand. -/
def askings : Query → List Asking
  | .nested path q spec =>
    (spec.map fun s => ⟨innerName path s, path, q⟩).toList ++ q.askings
  | .bool must filter should mustNot _ =>
    allAskings must ++ allAskings filter ++ allAskings should ++ allAskings mustNot
  | _ => []

def allAskings : List Query → List Asking
  | [] => []
  | q :: qs => q.askings ++ allAskings qs

end

theorem allAskings_eq (qs : List Query) : allAskings qs = qs.flatMap askings := by
  induction qs with
  | nil => rfl
  | cons q qs ih => rw [allAskings, ih, List.flatMap_cons]

/-- What the query asks for comes with a hit, in the order in which it is asked for. -/
def Attaches (q : Query) : Prop :=
  ∀ doc found, addInnerHits doc q found = Fields.extend found (q.askings.map (Asking.entry doc))

variable {q : Query} {qs must filter should mustNot : List Query} {least : Option Nat}

theorem addAllInnerHits_eq (h : ∀ q ∈ qs, q.Attaches) (doc : Json) (found : Fields Json) :
    addAllInnerHits doc qs found =
      Fields.extend found ((qs.flatMap askings).map (Asking.entry doc)) := by
  induction qs generalizing found with
  | nil => rfl
  | cons q qs ih =>
    obtain ⟨hq, hqs⟩ := List.forall_mem_cons.mp h
    rw [addAllInnerHits, ih hqs, hq, List.flatMap_cons, List.map_append]
    exact List.foldl_append.symm

/-- What must not match does not come with a hit, so nothing may be asked for there. -/
theorem attaches_bool (hmust : ∀ q ∈ must, q.Attaches) (hfilter : ∀ q ∈ filter, q.Attaches)
    (hshould : ∀ q ∈ should, q.Attaches) (hnot : ∀ q ∈ mustNot, q.askings = []) :
    Attaches (.bool must filter should mustNot least) := by
  intro doc found
  have hnone : mustNot.flatMap askings = [] := List.flatMap_eq_nil_iff.mpr hnot
  rw [addInnerHits, addAllInnerHits_eq hmust, addAllInnerHits_eq hfilter,
    addAllInnerHits_eq hshould, askings, allAskings_eq, allAskings_eq, allAskings_eq,
    allAskings_eq, hnone, List.append_nil, List.map_append, List.map_append]
  simp only [Fields.extend, List.foldl_append]

/-- Nothing is asked for, and nothing comes with a hit. -/
structure Silent (q : Query) : Prop where
  askings_eq : q.askings = []
  attaches : q.Attaches

theorem hereditary_silent : Hereditary Silent where
  simple := fun {q} hq => by
    cases q <;> first
      | exact ⟨rfl, fun _ _ => rfl⟩
      | cases hq
  bool := fun hmust hfilter hshould hnot _ => by
    refine ⟨?_, attaches_bool (fun q hq => (hmust q hq).attaches)
      (fun q hq => (hfilter q hq).attaches) (fun q hq => (hshould q hq).attaches)
      fun q hq => (hnot q hq).askings_eq⟩
    simp only [askings, allAskings_eq, List.append_eq_nil_iff, List.flatMap_eq_nil_iff]
    exact ⟨⟨⟨fun q hq => (hmust q hq).askings_eq, fun q hq => (hfilter q hq).askings_eq⟩,
      fun q hq => (hshould q hq).askings_eq⟩, fun q hq => (hnot q hq).askings_eq⟩

/-! ## Junctions -/

theorem askings_disjunction (qs : List Query) :
    (disjunction qs).askings = qs.flatMap askings := by
  unfold disjunction
  split
  · exact (List.flatMap_singleton _ _).symm
  · rw [Junction.anyOf, askings, allAskings_eq, allAskings_eq]
    simp

theorem attaches_disjunction (h : ∀ q ∈ qs, q.Attaches) : (disjunction qs).Attaches := by
  unfold disjunction
  split
  · exact h _ List.mem_cons_self
  · exact attaches_bool nofun nofun h nofun

theorem askings_junction (must filter mustNot : List Query) :
    (Junction.query ⟨must, filter, [], mustNot, none⟩).askings =
      must.flatMap askings ++ filter.flatMap askings ++ mustNot.flatMap askings := by
  unfold Junction.query
  split
  · rename_i hempty
    simp only [Junction.isEmpty, List.isEmpty_nil, Bool.and_true, Bool.and_eq_true,
      List.isEmpty_iff] at hempty
    obtain ⟨⟨rfl, rfl⟩, rfl⟩ := hempty
    rfl
  · split
    · rename_i hsingle
      cases hsingle
      simp
    · simp only [askings, allAskings_eq, List.flatMap_nil, List.append_nil]

theorem attaches_junction (hmust : ∀ q ∈ must, q.Attaches) (hfilter : ∀ q ∈ filter, q.Attaches)
    (hnot : ∀ q ∈ mustNot, q.Silent) :
    (Junction.query ⟨must, filter, [], mustNot, none⟩).Attaches := by
  unfold Junction.query
  split
  · exact (hereditary_silent.simple rfl).attaches
  · split
    · rename_i hsingle
      cases hsingle
      exact hfilter _ List.mem_cons_self
    · exact attaches_bool hmust hfilter nofun fun q hq => (hnot q hq).askings_eq

end Query

/-! ## Containers -/

section

variable {e : Entity} {path : String} {q : Query}

theorem askings_container (hq : q.Silent) : (container e true path q).askings =
    if e.innerHits.contains path then [⟨path, path, q⟩] else [] := by
  rw [container, Query.askings, hq.askings_eq, List.append_nil, Bool.true_and]
  split <;> rfl

theorem attaches_container (withHits : Bool) (hq : q.Silent) :
    (container e withHits path q).Attaches := by
  intro doc found
  rw [container, Query.askings, hq.askings_eq, List.append_nil]
  split <;> rfl

theorem silent_container (hq : q.Silent) : (container e false path q).Silent :=
  ⟨by rw [container, Query.askings, hq.askings_eq]; rfl, attaches_container false hq⟩

end

/-! ## Groups -/

/-- The query on the objects under a path that a group looks under. -/
def together (logic : Filter.Logic) (cs : List Clause) : Query :=
  match logic with
  | .and => conjunction cs
  | .or => disjunction (cs.map Clause.whole)

/-- What a group asks for: the objects under each of its nested paths that has inner
hits. -/
def askedBy (e : Entity) (g : Group) : List Asking :=
  ((partitionOf e g).nested.filter fun p => e.innerHits.contains p.1).map fun p =>
    ⟨p.1, p.1, together g.effective p.2⟩

section

variable {e : Entity} {g : Group}

open Query (hereditary_silent)

theorem silent_together {cs : List Clause} (h : ∀ c ∈ cs, c.query.Silent) (logic : Filter.Logic) :
    (together logic cs).Silent := by
  cases logic with
  | and => exact hereditary_silent.conjunction h
  | or =>
    exact hereditary_silent.disjunction
      (List.forall_mem_map.mpr fun c hc => hereditary_silent.whole (h c hc))

/-- The clauses of a group on the objects under its nested paths. -/
def containers (e : Entity) (g : Group) : List Query :=
  (partitionOf e g).nested.map fun p => container e true p.1 (together g.effective p.2)

/-- Besides the clauses on objects a group has clauses of the document itself, which
ask for nothing. -/
theorem exists_roots (hg : ∀ c ∈ g.conditions, ∃ clause, condition c = .ok clause) :
    ∃ roots : List Query, (∀ q ∈ roots, q.Silent) ∧
      (partitionOf e g).filters e true = match g.effective with
        | .and => roots ++ containers e g
        | .or => [disjunction (roots ++ containers e g)] := by
  have hroot : ∀ clause ∈ (partitionOf e g).root, clause.query.Silent := by
    intro clause hclause
    obtain ⟨c, hc, -, rfl⟩ := mem_root.mp hclause
    exact hereditary_silent.clauseOf (hg c hc)
  have hlogic : (partitionOf e g).logic = g.effective := rfl
  unfold Partition.filters containers
  rw [hlogic]
  cases g.effective with
  | and => exact ⟨_, List.forall_mem_map.mpr fun c hc => hroot c (List.mem_filter.mp hc).1, rfl⟩
  | or =>
    exact ⟨_, List.forall_mem_map.mpr fun c hc => hereditary_silent.whole (hroot c hc), rfl⟩

theorem silent_under (hg : ∀ c ∈ g.conditions, ∃ clause, condition c = .ok clause) :
    ∀ p ∈ (partitionOf e g).nested, (together g.effective p.2).Silent := by
  rintro ⟨path, cs⟩ hp
  obtain ⟨-, rfl⟩ := mem_nested.mp hp
  refine silent_together (fun clause hclause => ?_) _
  obtain ⟨c, hc, -, rfl⟩ := mem_clausesUnder.mp hclause
  exact hereditary_silent.clauseOf (hg c hc)

theorem askings_containers (hg : ∀ c ∈ g.conditions, ∃ clause, condition c = .ok clause) :
    (containers e g).flatMap Query.askings = askedBy e g := by
  have hsilent := silent_under (e := e) hg
  unfold containers askedBy
  generalize (partitionOf e g).nested = nested at hsilent
  induction nested with
  | nil => rfl
  | cons p nested ih =>
    obtain ⟨hp, hnested⟩ := List.forall_mem_cons.mp hsilent
    rw [List.map_cons, List.flatMap_cons, ih hnested, askings_container hp, List.filter_cons]
    split <;> rfl

theorem askings_filters (hg : ∀ c ∈ g.conditions, ∃ clause, condition c = .ok clause) :
    ((partitionOf e g).filters e true).flatMap Query.askings = askedBy e g := by
  obtain ⟨roots, hroots, hfilters⟩ := exists_roots (e := e) hg
  have hall : (roots ++ containers e g).flatMap Query.askings = askedBy e g := by
    rw [List.flatMap_append, askings_containers hg,
      List.flatMap_eq_nil_iff.mpr fun q hq => (hroots q hq).askings_eq, List.nil_append]
  rw [hfilters]
  cases g.effective with
  | and => exact hall
  | or => rw [List.flatMap_singleton, Query.askings_disjunction, hall]

theorem attaches_filters (hg : ∀ c ∈ g.conditions, ∃ clause, condition c = .ok clause) :
    ∀ q ∈ (partitionOf e g).filters e true, q.Attaches := by
  obtain ⟨roots, hroots, hfilters⟩ := exists_roots (e := e) hg
  have hall : ∀ q ∈ roots ++ containers e g, q.Attaches :=
    List.forall_mem_append.mpr ⟨fun q hq => (hroots q hq).attaches,
      List.forall_mem_map.mpr fun p hp => attaches_container true (silent_under hg p hp)⟩
  rw [hfilters]
  cases g.effective with
  | and => exact hall
  | or => exact List.forall_mem_singleton.mpr (Query.attaches_disjunction hall)

end

/-! ## Queries of all groups -/

section

variable {e : Entity} {gs : List Group} {must : List Query}

theorem askedBy_of_isEmpty {g : Group} (h : g.isEmpty = true) : askedBy e g = [] := by
  have hnone : g.conditions = [] := List.isEmpty_iff.mp h
  rw [askedBy, partitionOf, placed, hnone]
  rfl

theorem askings_of_groups (hgs : Compile gs) :
    (((gs.filter fun g => !g.isEmpty).map (partitionOf e)).flatMap
      (Partition.filters e true)).flatMap Query.askings = gs.flatMap (askedBy e) := by
  induction gs with
  | nil => rfl
  | cons g gs ih =>
    obtain ⟨hg, hgs⟩ := List.forall_mem_cons.mp hgs
    rw [List.flatMap_cons, ← ih hgs, List.filter_cons]
    cases hempty : g.isEmpty with
    | true =>
      rw [askedBy_of_isEmpty hempty]
      rfl
    | false => exact List.flatMap_append.trans (congrArg (· ++ _) (askings_filters hg))

theorem silent_refused (hgs : Compile gs) :
    ∀ q ∈ ((gs.filter fun g => !g.isEmpty).map (partitionOf e)).flatMap Partition.refused,
      q.Silent := by
  simp only [List.mem_flatMap, List.mem_map, List.mem_filter]
  rintro q ⟨_, ⟨g, hg, rfl⟩, hq⟩
  exact (Query.hereditary_silent.partitionOf (hgs g hg.1) fun _ _ _ _ => silent_container).2 q hq

/-- The query of groups asks for what each of the groups asks for. -/
theorem askings_junctionOf (hgs : Compile gs) (hmust : ∀ q ∈ must, q.Silent) :
    (junctionOf e true must gs).query.askings = gs.flatMap (askedBy e) := by
  have hmust : must.flatMap Query.askings = [] :=
    List.flatMap_eq_nil_iff.mpr fun q hq => (hmust q hq).askings_eq
  have hrefused := List.flatMap_eq_nil_iff.mpr fun q hq =>
    (silent_refused (e := e) hgs q hq).askings_eq
  unfold junctionOf junction
  rw [Query.askings_junction, hmust, hrefused, askings_of_groups hgs, List.nil_append,
    List.append_nil]

theorem attaches_junctionOf (hgs : Compile gs) (hmust : ∀ q ∈ must, q.Silent) :
    (junctionOf e true must gs).query.Attaches := by
  unfold junctionOf junction
  refine Query.attaches_junction (fun q hq => (hmust q hq).attaches) ?_ (silent_refused hgs)
  simp only [List.mem_flatMap, List.mem_map, List.mem_filter]
  rintro q ⟨_, ⟨g, hg, rfl⟩, hq⟩
  exact attaches_filters (hgs g hg.1) q hq

end

/-! ## Names -/

/-- A condition of the group is on a field under the nested path. -/
def LooksUnder (e : Entity) (path : String) (g : Group) : Prop :=
  ∃ c ∈ g.conditions, e.nestedPath? c.field = some path

section

variable {e : Entity} {g : Group} {a : Asking} {path : String}

theorem name_of_askedBy (h : a ∈ askedBy e g) : a.name = a.path := by
  obtain ⟨p, -, rfl⟩ := List.mem_map.mp h
  rfl

theorem mem_names_askedBy_iff :
    path ∈ (askedBy e g).map Asking.name ↔ path ∈ e.innerHits ∧ LooksUnder e path g := by
  have hnames : (askedBy e g).map Asking.name =
      ((partitionOf e g).nested.filter fun p => e.innerHits.contains p.1).map (·.1) := by
    rw [askedBy, List.map_map]
    rfl
  rw [hnames]
  constructor
  · intro h
    obtain ⟨⟨path, cs⟩, hp, rfl⟩ := List.mem_map.mp h
    obtain ⟨hp, hpath⟩ := List.mem_filter.mp hp
    exact ⟨List.contains_iff_mem.mp hpath, (mem_nested.mp hp).1⟩
  · rintro ⟨hpath, h⟩
    exact List.mem_map.mpr ⟨(path, _), List.mem_filter.mpr
      ⟨mem_nested.mpr ⟨h, rfl⟩, List.contains_iff_mem.mpr hpath⟩, rfl⟩

/-- A group asks for each name once. -/
theorem nodup_names_askedBy (e : Entity) (g : Group) : ((askedBy e g).map Asking.name).Nodup := by
  have hpaths : (partitionOf e g).nested.map (·.1) =
      Fields.names ((placed e g).filterMap (·.1)) := by
    rw [partitionOf, Partition.ofClauses, List.map_map]
    exact List.map_id _
  have hnodup : ((partitionOf e g).nested.map (·.1)).Nodup := hpaths ▸ Fields.nodup_names _
  rw [askedBy, List.map_map]
  exact hnodup.sublist (List.filter_sublist.map _)

/-- Groups ask under different names where no two of them look under one path that has
inner hits. -/
theorem nodup_names_iff {gs : List Group} :
    ((gs.flatMap (askedBy e)).map Asking.name).Nodup ↔ gs.Pairwise fun g g' =>
      ∀ path ∈ e.innerHits, LooksUnder e path g → ¬ LooksUnder e path g' := by
  rw [List.map_flatMap, List.nodup_flatMap, and_iff_right fun g _ => nodup_names_askedBy e g]
  refine ⟨fun h => h.imp ?_, fun h => h.imp ?_⟩
  · intro g g' hdisjoint path hpath hg hg'
    exact hdisjoint (mem_names_askedBy_iff.mpr ⟨hpath, hg⟩)
      (mem_names_askedBy_iff.mpr ⟨hpath, hg'⟩)
  · intro g g' hapart path hg hg'
    obtain ⟨hpath, hg⟩ := mem_names_askedBy_iff.mp hg
    exact hapart path hpath hg (mem_names_askedBy_iff.mp hg').2

end

end EntityStore.Search
