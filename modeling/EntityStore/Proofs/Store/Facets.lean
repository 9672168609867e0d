-- A facet is counted as if nothing were chosen in it. What its own fields and
-- their siblings are filtered by after the search leaves no trace in the query
-- of its aggregation, on either store.
import EntityStore.Proofs.Plan.Queries
import EntityStore.Proofs.Search.Window
import Mathlib.Logic.Relation

namespace EntityStore

open EntityStore.Filter (Condition Group)

/-! ## Insertions into groups -/

namespace Filter.Group

/-- One condition more in one of the groups, or one group more among them. What
is new passes a test. -/
inductive Adds (p : Condition → Prop) : List Group → List Group → Prop
  | condition (gs hs : List Group) (logic : Logic) (front back : List Condition)
      {cond : Condition} (hp : p cond) :
      Adds p (gs ++ ⟨logic, front ++ back⟩ :: hs) (gs ++ ⟨logic, front ++ cond :: back⟩ :: hs)
  | group (gs hs : List Group) {g : Group} (hp : ∀ cond ∈ g.conditions, p cond) :
      Adds p (gs ++ hs) (gs ++ g :: hs)

/-- Groups that come from each other by insertions and deletions of what passes
a test. -/
def SameBut (p : Condition → Prop) : List Group → List Group → Prop := Relation.EqvGen (Adds p)

variable {excluded : List String} {gs hs : List Group}

theorem withoutFields_append (excluded : List String) (gs hs : List Group) :
    withoutFields excluded (gs ++ hs) = withoutFields excluded gs ++ withoutFields excluded hs := by
  rw [withoutFields, List.map_append, List.filter_append]
  rfl

theorem withoutFields_cons (excluded : List String) (g : Group) (gs : List Group) :
    withoutFields excluded (g :: gs) = withoutFields excluded [g] ++ withoutFields excluded gs :=
  withoutFields_append excluded [g] gs

/-- Without its conditions on some fields a group is the same whether or not it
has one more of them. -/
theorem withoutFields_insert {logic : Logic} {front back : List Condition} {cond : Condition}
    (h : cond.field ∈ excluded) :
    withoutFields excluded [⟨logic, front ++ cond :: back⟩] =
      withoutFields excluded [⟨logic, front ++ back⟩] := by
  simp [withoutFields, h]

/-- A group with conditions on these fields alone is dropped. -/
theorem withoutFields_eq_nil {g : Group} (h : ∀ cond ∈ g.conditions, cond.field ∈ excluded) :
    withoutFields excluded [g] = [] := by
  simpa [withoutFields, isEmpty] using h

theorem withoutFields_of_adds {p : Condition → Prop} (hp : ∀ cond, p cond → cond.field ∈ excluded)
    (h : Adds p gs hs) : withoutFields excluded gs = withoutFields excluded hs := by
  cases h with
  | condition _ _ _ _ _ hcond =>
    rw [withoutFields_append, withoutFields_append, withoutFields_cons,
      withoutFields_cons excluded ⟨_, _ ++ _ :: _⟩, withoutFields_insert (hp _ hcond)]
  | group _ _ hconds =>
    rw [withoutFields_append, withoutFields_append, withoutFields_cons excluded _ _,
      withoutFields_eq_nil fun cond hcond => hp cond (hconds cond hcond), List.nil_append]

theorem withoutFields_of_sameBut {p : Condition → Prop}
    (hp : ∀ cond, p cond → cond.field ∈ excluded) (h : SameBut p gs hs) :
    withoutFields excluded gs = withoutFields excluded hs := by
  induction h with
  | rel _ _ hadds => exact withoutFields_of_adds hp hadds
  | refl => rfl
  | symm _ _ _ ih => exact ih.symm
  | trans _ _ _ _ _ ih ih' => exact ih.trans ih'

end Filter.Group

/-! ## Plans -/

/-- The same criteria with other post filters. -/
def Criteria.onPost (c : Criteria) (post : List Group) : Criteria := { c with postFilters := post }

/-- The condition is on a field of the aggregation, or on one that shares a
facet with such a field. -/
def Aggregation.IsOwn (e : Entity) (a : Aggregation) (cond : Condition) : Prop :=
  ∃ f ∈ a.target.names, cond.field ∈ e.facetFields f

variable {s : Plan.Scope} {e : Entity} {settings : Settings} {c : Criteria} {a : Aggregation}
  {post : List Group} {i : Nat}

/-- The post filters that an aggregation sees have no trace of its own. -/
theorem Aggregation.withoutFields_eq {gs hs : List Group} (h : Group.SameBut (a.IsOwn e) gs hs) :
    Group.withoutFields (a.target.names.flatMap e.facetFields) gs =
      Group.withoutFields (a.target.names.flatMap e.facetFields) hs :=
  Group.withoutFields_of_sameBut (fun _ => List.mem_flatMap.mpr) h

namespace Plan.Scope

/-- A plan has the query of each aggregation in the place of the aggregation. -/
theorem facet_of_plan {plan : Plan} (h : s.plan settings c = .ok plan)
    (ha : c.aggregations[i]? = some a) :
    ∃ common q, (s.withJoins c.joins).commonParts c = .ok common ∧
      (s.withJoins c.joins).facet settings c common a = .ok q ∧ plan.aggregations[i]? = some q := by
  obtain ⟨items, groupBy, common, p, hplanned⟩ := planned_of_plan h
  obtain ⟨q, hq, hplace⟩ := getElem?_of_mapM hplanned.aggregations_eq ha
  exact ⟨common, q, hplanned.common_eq, hq, hplace⟩

theorem facet_onPost (s : Scope) (settings : Settings) (common : List Sql.Predicate)
    (h : Group.SameBut (a.IsOwn s.entity) c.postFilters post) :
    s.facet settings (c.onPost post) common a = s.facet settings c common a := by
  unfold facet unseenFields
  rw [Aggregation.withoutFields_eq h]
  rfl

/-- The query of a facet is the same whatever is chosen in it. -/
theorem query_onPost {plan plan' : Plan} (h : s.plan settings c = .ok plan)
    (h' : s.plan settings (c.onPost post) = .ok plan') (ha : c.aggregations[i]? = some a)
    (hpost : Group.SameBut (a.IsOwn s.entity) c.postFilters post) :
    ∃ q, plan.aggregations[i]? = some q ∧ plan'.aggregations[i]? = some q := by
  obtain ⟨common, q, hcommon, hq, hplace⟩ := facet_of_plan h ha
  obtain ⟨common', q', hcommon', hq', hplace'⟩ := facet_of_plan h' ha
  obtain rfl : common = common' := Except.ok.inj (hcommon.symm.trans hcommon')
  have hsame := facet_onPost (s.withJoins c.joins) settings common hpost
  obtain rfl : q = q' := Except.ok.inj (hq.symm.trans (hsame.symm.trans hq'))
  exact ⟨q, hplace, hplace'⟩

end Plan.Scope

namespace Search

variable {p : Plan} {node : Json} {layout : Layout}

theorem name_of_aggregation (h : aggregation e settings c a = .ok (node, layout)) :
    layout.name = a.name := by
  obtain ⟨nested, -, h⟩ := bind_eq_ok_iff.mp h
  obtain ⟨core, -, h⟩ := bind_eq_ok_iff.mp h
  obtain ⟨own, -, h⟩ := bind_eq_ok_iff.mp h
  obtain ⟨seen, -, h⟩ := bind_eq_ok_iff.mp h
  cases h
  rfl

theorem names_of_built {built : List (Json × Layout)}
    (h : c.aggregations.mapM (aggregation e settings c) = .ok built) :
    built.map (·.2.name) = c.aggregations.map Aggregation.name :=
  map_eq_of_mapM h fun _ _ => name_of_aggregation

theorem aggregations_of_plan (h : plan e settings c = .ok p) :
    ∃ built, c.aggregations.mapM (aggregation e settings c) = .ok built ∧
      p.layouts = built.map (·.2) ∧
      ∀ name, (c.collapse.isSome → name ≠ totalName) → p.request.aggregations.get? name =
        (Fields.ofList (built.map fun b => (b.2.name, b.1))).get? name := by
  obtain ⟨-, haggregations, -⟩ := parts_of_plan h
  obtain ⟨built, hbuilt, heq⟩ := bind_eq_ok_iff.mp haggregations
  obtain ⟨hnodes, hlayouts⟩ := Prod.mk.inj (Except.ok.inj heq)
  refine ⟨built, hbuilt, hlayouts.symm, fun name hname => ?_⟩
  rw [← hnodes]
  split
  · rename_i hcollapse
    rw [Fields.get?_insert, if_neg (hname (by rw [hcollapse]; rfl))]
  · rfl

/-- Nothing behind this aggregation takes its name in the request: neither a
later aggregation nor the count of all records. -/
def KeepsName (c : Criteria) (i : Nat) (a : Aggregation) : Prop :=
  a.name ∉ (c.aggregations.drop (i + 1)).map Aggregation.name ∧
    (c.collapse.isSome → a.name ≠ totalName)

/-- A plan has the layout of each aggregation in the place of the aggregation,
and its node under its name. -/
theorem aggregation_of_plan (h : plan e settings c = .ok p) (ha : c.aggregations[i]? = some a) :
    ∃ node layout, aggregation e settings c a = .ok (node, layout) ∧
      p.layouts[i]? = some layout ∧
      (KeepsName c i a → p.request.aggregations.get? a.name = some node) := by
  obtain ⟨built, hbuilt, hlayouts, hnodes⟩ := aggregations_of_plan h
  obtain ⟨⟨node, layout⟩, hnode, hplace⟩ := getElem?_of_mapM hbuilt ha
  refine ⟨node, layout, hnode, by rw [hlayouts, List.getElem?_map, hplace]; rfl, ?_⟩
  rintro ⟨hlast, htotal⟩
  rw [hnodes a.name htotal]
  have hplaced : (built.map fun b => (b.2.name, b.1))[i]? = some (a.name, node) := by
    rw [List.getElem?_map, hplace, ← name_of_aggregation hnode]
    rfl
  refine Fields.get?_ofList_of_getElem? hplaced ?_
  rw [List.map_drop, ← names_of_built hbuilt, ← List.map_drop] at hlast
  rw [Fields.keys, ← List.map_drop, List.map_map]
  exact hlast

theorem aggregation_onPost (h : Group.SameBut (a.IsOwn e) c.postFilters post) :
    aggregation e settings (c.onPost post) a = aggregation e settings c a := by
  unfold aggregation seenFilter
  rw [Aggregation.withoutFields_eq h]
  rfl

/-- The node and the layout of a facet are the same whatever is chosen in it. -/
theorem node_onPost {p' : Plan} (h : plan e settings c = .ok p)
    (h' : plan e settings (c.onPost post) = .ok p') (ha : c.aggregations[i]? = some a)
    (hpost : Group.SameBut (a.IsOwn e) c.postFilters post) :
    ∃ node layout, aggregation e settings c a = .ok (node, layout) ∧
      aggregation e settings (c.onPost post) a = .ok (node, layout) ∧
      p.layouts[i]? = some layout ∧ p'.layouts[i]? = some layout ∧
      (KeepsName c i a → p.request.aggregations.get? a.name = some node ∧
        p'.request.aggregations.get? a.name = some node) := by
  obtain ⟨node, layout, hnode, hlayout, hrequest⟩ := aggregation_of_plan h ha
  obtain ⟨node', layout', hnode', hlayout', hrequest'⟩ := aggregation_of_plan h' ha
  have hsame := hnode'
  rw [aggregation_onPost hpost, hnode] at hsame
  cases hsame
  exact ⟨node, layout, hnode, hnode', hlayout, hlayout', fun hname =>
    ⟨hrequest hname, hrequest' hname⟩⟩

end Search

/-! ## Facets -/

/-- A facet does not see its own filters. Let the post filters of criteria
change by conditions on fields of an aggregation or on fields that share a facet
with them, put in or taken out anywhere. Where both criteria have a plan, the
aggregation has one query in both. The same holds of its node in the request to
a document store, and of its layout. -/
theorem a_facet_does_not_see_its_own_filters (e : Entity) (columns : Columns) (settings : Settings)
    (c : Criteria) (post : List Group) {i : Nat} {a : Aggregation}
    (ha : c.aggregations[i]? = some a) (hpost : Group.SameBut (a.IsOwn e) c.postFilters post) :
    (∀ plan plan', (Plan.Scope.mk e columns []).plan settings c = .ok plan →
      (Plan.Scope.mk e columns []).plan settings (c.onPost post) = .ok plan' →
      ∃ q, plan.aggregations[i]? = some q ∧ plan'.aggregations[i]? = some q) ∧
    (∀ p p', Search.plan e settings c = .ok p → Search.plan e settings (c.onPost post) = .ok p' →
      ∃ node layout, Search.aggregation e settings c a = .ok (node, layout) ∧
        Search.aggregation e settings (c.onPost post) a = .ok (node, layout) ∧
        p.layouts[i]? = some layout ∧ p'.layouts[i]? = some layout ∧
        (Search.KeepsName c i a → p.request.aggregations.get? a.name = some node ∧
          p'.request.aggregations.get? a.name = some node)) :=
  ⟨fun _ _ h h' => Plan.Scope.query_onPost h h' ha hpost,
    fun _ _ h h' => Search.node_onPost h h' ha hpost⟩

/-- A shop where the color and the shade of a product show one facet. -/
theorem a_color_facet_does_not_see_a_chosen_shade :
    let e : Entity := {
      name := "product", storage := "products", facets := [("look", ["color", "shade"])] }
    let brand : Condition := .eq "brand" (.text "Oak")
    let shade : Condition := .eq "shade" (.text "dark")
    let c : Criteria := {
      postFilters := [.any [brand]], aggregations := [.terms "color", .terms "brand"] }
    let post : List Group := [.all [.eq "color" (.text "red")], .any [brand, shade]]
    (∃ plan plan' q, (Plan.Scope.mk e [] []).plan {} c = .ok plan ∧
      (Plan.Scope.mk e [] []).plan {} (c.onPost post) = .ok plan' ∧
      plan.aggregations[0]? = some q ∧ plan'.aggregations[0]? = some q) ∧
    ∃ p p' node, Search.plan e {} c = .ok p ∧ Search.plan e {} (c.onPost post) = .ok p' ∧
      p.request.aggregations.get? "color" = some node ∧
      p'.request.aggregations.get? "color" = some node := by
  intro e brand shade c post
  have hcolor : "color" ∈ e.facetFields "color" := by decide +kernel
  have hshade : "shade" ∈ e.facetFields "color" := by decide +kernel
  have hadded : Group.SameBut ((Aggregation.terms "color").IsOwn e) c.postFilters post := by
    refine .trans _ [.any [brand, shade]] _ (.rel _ _ ?_) (.rel _ _ ?_)
    · exact .condition [] [] .or [brand] [] ⟨"color", List.mem_cons_self, hshade⟩
    · refine .group [] [.any [brand, shade]] fun cond hcond => ?_
      rw [List.mem_singleton.mp hcond]
      exact ⟨"color", List.mem_cons_self, hcolor⟩
  obtain ⟨hqueries, hnodes⟩ := a_facet_does_not_see_its_own_filters e [] {} c post (i := 0)
    (a := .terms "color") rfl hadded
  obtain ⟨plan, hplan, -⟩ : ∃ plan, (Plan.Scope.mk e [] []).plan {} c = .ok plan ∧ _ :=
    exists_of_any (p := fun _ => true) (by decide +kernel)
  obtain ⟨plan', hplan', -⟩ :
      ∃ plan', (Plan.Scope.mk e [] []).plan {} (c.onPost post) = .ok plan' ∧ _ :=
    exists_of_any (p := fun _ => true) (by decide +kernel)
  obtain ⟨p, hp, -⟩ : ∃ p, Search.plan e {} c = .ok p ∧ _ :=
    exists_of_any (p := fun _ => true) (by decide +kernel)
  obtain ⟨p', hp', -⟩ : ∃ p', Search.plan e {} (c.onPost post) = .ok p' ∧ _ :=
    exists_of_any (p := fun _ => true) (by decide +kernel)
  obtain ⟨q, hq, hq'⟩ := hqueries plan plan' hplan hplan'
  obtain ⟨node, layout, -, -, -, -, hrequest⟩ := hnodes p p' hp hp'
  obtain ⟨hnode, hnode'⟩ := hrequest ⟨by decide +kernel, nofun⟩
  exact ⟨⟨plan, plan', q, hplan, hplan', hq, hq'⟩, p, p', node, hp, hp', hnode, hnode'⟩

end EntityStore
