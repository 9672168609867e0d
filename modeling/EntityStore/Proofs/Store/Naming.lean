-- The values that an outcome has under the names of aggregations. Each of them
-- has a value of the shape of its kind, and of several values under one name the
-- last one stays. A wire form names an aggregation after its field or its alias
-- and not after its type, so two types over one field leave one value.
import EntityStore.Proofs.Store.Buckets
import EntityStore.Wire.Contract
import Mathlib.Data.List.Perm.Subperm

namespace EntityStore

open Aggregation (Result)
open Search (Shape)

/-! ## Values under names -/

namespace Fields

variable {α : Type}

/-- No value of a list is lost where all have different names, and only there. -/
theorem length_ofList_eq_iff {ps : List (String × α)} :
    (ofList ps).length = ps.length ↔ (keys ps).Nodup := by
  have hnodup := (ordered_ofList ps).nodup_keys
  have hfew : (keys (ofList ps)).Subperm (keys ps) :=
    hnodup.subperm fun k hk => mem_keys_ofList.mp hk
  have hkept : (keys (ofList ps)).length = (ofList ps).length := List.length_map _
  have hall : (keys ps).length = ps.length := List.length_map _
  rw [← hkept, ← hall]
  constructor
  · intro hlength
    exact (hfew.perm_of_length_le hlength.ge).nodup_iff.mp hnodup
  · intro hnames
    exact Nat.le_antisymm hfew.length_le
      (hnames.subperm fun k hk => mem_keys_ofList.mpr hk).length_le

end Fields

/-! ## Shapes -/

def Aggregation.Result.shape : Result → Shape
  | .buckets _ => .buckets
  | .metric _ => .metric
  | .stats _ => .stats
  | .composite _ _ => .composite

/-- The shape of what aggregations of a kind give. -/
def Aggregation.Kind.shape : Kind → Shape
  | .terms => .buckets
  | .histogram => .buckets
  | .filter _ => .buckets
  | .metric .stats => .stats
  | .metric _ => .metric
  | .composite => .composite

/-- The name of an aggregation and the shape of what it gives. -/
def Aggregation.slot (a : Aggregation) : String × Shape := (a.name, a.kind.shape)

/-- Values for some names and shapes. The last shape with a name has its value, so
each has one where the names differ, and only there there are as many values. -/
structure Told (asked : List (String × Shape)) (found : Fields Result) : Prop where
  last : ∀ (i : Nat) p, asked[i]? = some p → p.1 ∉ (asked.drop (i + 1)).map (·.1) →
    ∃ r, found.get? p.1 = some r ∧ r.shape = p.2
  each : (asked.map (·.1)).Nodup → ∀ p ∈ asked, ∃ r, found.get? p.1 = some r ∧ r.shape = p.2
  length_eq_iff : found.length = asked.length ↔ (asked.map (·.1)).Nodup

theorem told_ofList (pairs : List (String × Result)) :
    Told (pairs.map fun p => (p.1, p.2.shape)) (Fields.ofList pairs) where
  last := by
    intro i p hp hlast
    rw [List.getElem?_map] at hp
    obtain ⟨pair, hpair, rfl⟩ := Option.map_eq_some_iff.mp hp
    rw [← List.map_drop, List.map_map] at hlast
    exact ⟨pair.2, Fields.get?_ofList_of_getElem? hpair hlast, rfl⟩
  each := by
    intro hnames p hp
    rw [List.map_map] at hnames
    obtain ⟨pair, hpair, rfl⟩ := List.mem_map.mp hp
    exact ⟨pair.2, Fields.get?_ofList_of_mem hnames hpair, rfl⟩
  length_eq_iff := by
    rw [List.length_map, List.map_map]
    exact Fields.length_ofList_eq_iff

/-! ## Searches of a database -/

namespace Relational

variable {σ : Type} {r : Relational σ} {c : Criteria} {s next : State σ} {out : Outcome}

theorem shape_result (a : Aggregation) (rows : List Row) : (result a rows).shape = a.kind.shape := by
  obtain ⟨name, kind, target, limit, interval, after⟩ := a
  cases kind with
  | metric m => cases m <;> rfl
  | terms | histogram | filter | composite => rfl

theorem slot_of_aggregate {q : Plan.AggregationQuery} {pair : String × Result}
    (h : (r.aggregate q).on s = (.ok pair, next)) :
    (pair.1, pair.2.shape) = q.aggregation.slot := by
  obtain ⟨output, s₁, -, h⟩ := Call.exists_of_on_bind h
  obtain rfl := Except.ok.inj (Prod.mk.inj h).1
  rw [shape_result]
  rfl

/-- Whatever a database answers, what a search gives of the aggregations has the
names and the shapes that were asked for. -/
theorem told_of_search (h : (r.search c).on s = (.ok out, next)) :
    Told (c.aggregations.map Aggregation.slot) out.aggregations := by
  obtain ⟨plan, s₁, hplanned, h⟩ := Call.exists_of_on_bind h
  obtain ⟨columns, s₀, -, hlift⟩ := Call.exists_of_on_bind hplanned
  obtain ⟨hplan, -⟩ := Prod.mk.inj hlift
  obtain ⟨rows, s₂, -, h⟩ := Call.exists_of_on_bind h
  obtain ⟨counted, s₃, -, h⟩ := Call.exists_of_on_bind h
  obtain ⟨pairs, s₄, hpairs, h⟩ := Call.exists_of_on_bind h
  obtain rfl := Except.ok.inj (Prod.mk.inj h).1
  obtain ⟨items, groupBy, common, post, hplanned⟩ := Plan.Scope.planned_of_plan hplan
  have hqueries : plan.aggregations.map (·.aggregation) = c.aggregations.map id :=
    map_eq_of_mapM hplanned.aggregations_eq fun _ _ => Plan.Scope.aggregation_of_facet
  have hnames : pairs.map (fun p => (p.1, p.2.shape)) =
      plan.aggregations.map fun q => q.aggregation.slot :=
    Call.map_eq_of_on_mapM (fun _ _ _ _ => slot_of_aggregate) hpairs
  rw [List.map_id] at hqueries
  rw [← hqueries, List.map_map]
  exact hnames ▸ told_ofList pairs

end Relational

/-! ## Searches of a document store -/

/-- Valid settings have a width for histograms. -/
theorem histogram_of_validate {settings : Settings} (h : settings.validate = .ok ()) :
    settings.histogramInterval.isFinite = true ∧ 0.0 < settings.histogramInterval := by
  unfold Settings.validate Settings.problem? at h
  by_cases hlimit : settings.bucketLimit = 0
  · rw [if_pos hlimit] at h
    cases h
  · rw [if_neg hlimit] at h
    split at h
    · cases h
    · rename_i hnone
      split at hnone
      · cases hnone
      · split at hnone
        · cases hnone
        · rename_i hwidth
          simpa using hwidth

namespace Search

variable {e : Entity} {settings : Settings} {c : Criteria} {a : Aggregation} {p : Plan}

theorem shape_of_core {kind : String} {body : Json} {shape : Shape}
    (h : core settings a = .ok (kind, body, shape)) : shape = a.kind.shape := by
  obtain ⟨name, k, target, limit, interval, after⟩ := a
  cases k <;> cases target <;> first
    | (cases h; done)
    | skip
  case metric.field m f =>
    cases h
    cases m <;> rfl
  all_goals
    cases h
    rfl

theorem slot_of_aggregation {node : Json} {layout : Layout}
    (h : aggregation e settings c a = .ok (node, layout)) :
    (layout.name, layout.shape) = a.slot := by
  obtain ⟨nested, kind, body, shape, own, seen, -, hcore, -, -, -, rfl⟩ := wrapped_of_aggregation h
  exact Prod.ext rfl (shape_of_core hcore)

theorem slot_of_plan (h : plan e settings c = .ok p) :
    p.layouts.map (fun l => (l.name, l.shape)) = c.aggregations.map Aggregation.slot := by
  obtain ⟨built, hbuilt, hlayouts, -⟩ := aggregations_of_plan h
  rw [hlayouts, List.map_map]
  exact map_eq_of_mapM hbuilt fun _ _ => slot_of_aggregation

theorem shape_of_result {l : Layout} {node : Json} {r : Result} (h : result l node = .ok r) :
    r.shape = l.shape := by
  obtain ⟨inner, -, h⟩ := bind_eq_ok_iff.mp h
  cases h
  cases l.shape <;> rfl

/-- Where there is an answer under the name of each aggregation, what is read from
them has the names and the shapes of their layouts. -/
theorem told_of_results {nodes : Fields Json} {ls : List Layout} {found : Fields Result}
    (hnodes : ∀ l ∈ ls, ∃ node, nodes.get? l.name = some node)
    (h : results nodes ls = .ok found) : Told (ls.map fun l => (l.name, l.shape)) found := by
  obtain ⟨answers, hanswers, h⟩ := bind_eq_ok_iff.mp h
  obtain rfl := Except.ok.inj h
  have hshapes : answers.map (Option.map fun p : String × Result => (p.1, p.2.shape)) =
      ls.map fun l => some (l.name, l.shape) :=
    map_eq_of_mem_mapM hanswers fun l hl answer hanswer => by
      obtain ⟨node, hnode⟩ := hnodes l hl
      rw [hnode] at hanswer
      obtain ⟨r, hr, hanswer⟩ := bind_eq_ok_iff.mp hanswer
      cases hanswer
      rw [Option.map_some, shape_of_result hr]
  have hpairs : (answers.filterMap id).map (fun p => (p.1, p.2.shape)) =
      ls.map fun l => (l.name, l.shape) := by
    have hkept := congrArg (List.filterMap id) hshapes
    rw [List.filterMap_map, List.filterMap_map] at hkept
    rw [List.map_filterMap]
    exact hkept.trans (congrFun List.filterMap_eq_map' ls)
  exact hpairs ▸ told_ofList _

/-- A histogram without a width of its own has that of the settings. -/
theorem reads_of_histogram {f : String} (hfinite : settings.histogramInterval.isFinite = true)
    (hpositive : 0.0 < settings.histogramInterval) (hkind : a.kind = .histogram)
    (htarget : a.target = .field f) (hinterval : a.interval = none) : Reads settings a := by
  have hcore : core settings a = .ok ("histogram", Json.object [("field", .str f),
      ("interval", .float settings.histogramInterval), ("min_doc_count", .int 0)], .buckets) := by
    unfold core
    rw [hkind, htarget, hinterval]
    simp only [Option.getD_none, Value.toJson, hfinite, if_true]
  refine ⟨_, _, _, .histogram f settings.histogramInterval 0, hcore, ?_⟩
  have hget : ∀ k, (Json.object [("field", .str f),
      ("interval", .float settings.histogramInterval), ("min_doc_count", .int 0)]).get? k = _ :=
    fun k => by
      rw [get?_object, Fields.get?_ofList_cons, Fields.get?_ofList_cons, Fields.get?_ofList_cons,
        Fields.get?_ofList_nil]
  generalize Json.object [("field", .str f), ("interval", .float settings.histogramInterval),
    ("min_doc_count", .int 0)] = spec at hget ⊢
  have hfield : Indices.Breakdown.field a.name spec = .ok f := by
    rw [Indices.Breakdown.field, Json.textAt?, hget]
    simp [Json.text?, Indices.Breakdown.need]
  have hwidth : Indices.Breakdown.interval a.name spec = .ok settings.histogramInterval := by
    have hread : (spec.get? "interval").bind Json.number? = some settings.histogramInterval := by
      rw [hget]
      simp [Json.number?]
    have hkept : (some settings.histogramInterval).filter (fun x => decide (0.0 < x)) =
        some settings.histogramInterval := if_pos (decide_eq_true hpositive)
    rw [Indices.Breakdown.interval, hread, hkept]
    rfl
  have hleast : spec.natOr "min_doc_count" 0 = 0 := by
    rw [Json.natOr, Json.natAt?, hget]
    simp [Json.nat?]
  refine bind_eq_ok_iff.mpr ⟨f, hfield, bind_eq_ok_iff.mpr ⟨_, hwidth, ?_⟩⟩
  rw [hleast]
  rfl

/-- All aggregations of a plan can be read, where histograms have the width of valid
settings. -/
theorem reads_of_plan (hhistograms : ∀ a ∈ c.aggregations, a.kind = .histogram →
      settings.validate = .ok () ∧ a.interval = none) (h : plan e settings c = .ok p) :
    ∀ a ∈ c.aggregations, Reads settings a := by
  intro a ha
  obtain ⟨built, hbuilt, -⟩ := aggregations_of_plan h
  obtain ⟨⟨node, layout⟩, hnode⟩ := exists_of_mapM hbuilt a ha
  obtain ⟨nested, kind, body, shape, own, seen, -, hcore, -⟩ := wrapped_of_aggregation hnode
  by_cases hkind : a.kind = .histogram
  · obtain ⟨hsettings, hinterval⟩ := hhistograms a ha hkind
    obtain ⟨hfinite, hpositive⟩ := histogram_of_validate hsettings
    cases htarget : a.target with
    | field f => exact reads_of_histogram hfinite hpositive hkind htarget hinterval
    | fields sources =>
      rw [core, hkind, htarget] at hcore
      cases hcore
  · exact reads_of_core hkind hcore

end Search

namespace Documents

variable {entity : Entity} {settings : Settings} {c : Criteria} {engine : Indices.Engine}
  {out : Outcome}

/-- What a search gives of the aggregations has the names and the shapes that were
asked for. -/
theorem told_of_search (hcollapse : c.collapse = none)
    (h : (((inMemory entity settings).search c).on engine).1 = .ok out) :
    Told (c.aggregations.map Aggregation.slot) out.aggregations := by
  obtain ⟨p, raw, hplan, hraw, hout⟩ := exists_of_search h
  obtain ⟨ix, sorts, shown, found, -, -, rfl, hfound⟩ := Indices.exists_answerJson hraw
  rw [Indices.outcome_answerJson] at hout
  obtain ⟨values, hvalues, rfl⟩ := map_eq_ok_iff.mp hout
  rw [← Search.slot_of_plan hplan]
  refine Search.told_of_results (fun l hl => ?_) hvalues
  obtain ⟨built, -, hlayouts, hnodes⟩ := Search.aggregations_of_plan hplan
  have hname : l.name ∈ Fields.keys (Fields.ofList (built.map fun b => (b.2.name, b.1))) := by
    rw [hlayouts] at hl
    obtain ⟨b, hb, rfl⟩ := List.mem_map.mp hl
    exact Fields.mem_keys_ofList.mpr
      (List.mem_map.mpr ⟨_, List.mem_map_of_mem hb, rfl⟩)
  have hnode : p.request.aggregations.get? l.name ≠ none := by
    rw [hnodes l.name (by simp [hcollapse])]
    exact fun hnone => Fields.get?_eq_none_iff.mp hnone hname
  obtain ⟨node, hnode⟩ := Option.ne_none_iff_exists'.mp hnode
  obtain ⟨j, -, hj⟩ := Indices.get?_summaries hfound hnode
  exact ⟨j, hj⟩

end Documents

/-! ## Wire forms -/

namespace Wire

/-- The name that an aggregation over a source goes by: the alias of the field,
or else the field. -/
def Source.label : Source → String
  | .field f => f
  | .named sources => (sources.head?.map (·.1)).getD ""

/-- The shape of what aggregations of a type give. -/
def shapeOf : String → Shape
  | "terms" => .buckets
  | "histogram" => .buckets
  | "composite" => .composite
  | "stats" => .stats
  | _ => .metric

/-- The names and the shapes of the aggregations that sources by types ask for. -/
def asked (sources : Fields (List Source)) : List (String × Shape) :=
  sources.flatMap fun (kind, ss) => ss.map fun source => (source.label, shapeOf kind)

variable {a : Aggregation} {kind : String}

theorem shapeOf_metric {m : Metric} (h : Metric.ofName? kind = some m) :
    shapeOf kind = (Aggregation.Kind.metric m).shape := by
  have hname : m.name = kind := by simpa using List.find?_some h
  subst hname
  cases m <;> rfl

theorem slot_of_aggregationOf {label field : String} (h : aggregationOf kind label field = .ok a) :
    a.slot = (label, shapeOf kind) := by
  unfold aggregationOf at h
  split at h
  · cases h
    rfl
  · cases h
    rfl
  · cases h
    rfl
  · split at h
    · rename_i m hm
      cases h
      rw [shapeOf_metric hm]
      rfl
    · cases h

theorem slot_of_source {source : Source} (h : source.resolve kind = .ok a) :
    a.slot = (source.label, shapeOf kind) := by
  unfold Source.resolve at h
  split at h
  · exact slot_of_aggregationOf h
  · exact slot_of_aggregationOf h
  · cases h

theorem slot_of_resolve {sources : Fields (List Source)} {as : List Aggregation}
    (h : (Aggregations.byKind sources).resolve = .ok as) :
    as.map Aggregation.slot = asked sources := by
  obtain ⟨ass, hass, rfl⟩ := map_eq_ok_iff.mp h
  have heach : ass.map (List.map Aggregation.slot) =
      sources.map fun p => p.2.map fun source => (source.label, shapeOf p.1) :=
    map_eq_of_mapM hass fun p as has => map_eq_of_mapM has fun _ _ => slot_of_source
  rw [List.map_flatten, heach, asked, List.flatMap_def]

/-- Histograms come from the type of this name alone, and have no width of their own. -/
theorem histogram_of_resolve {sources : Fields (List Source)} {as : List Aggregation}
    (h : (Aggregations.byKind sources).resolve = .ok as) : ∀ a ∈ as, a.kind = .histogram →
      "histogram" ∈ Fields.keys sources ∧ a.interval = none := by
  obtain ⟨ass, hass, rfl⟩ := map_eq_ok_iff.mp h
  intro a ha hhistogram
  obtain ⟨as, has, ha⟩ := List.mem_flatten.mp ha
  obtain ⟨⟨kind, ss⟩, hkind, has⟩ := exists_of_mem_mapM hass has
  obtain ⟨source, -, ha⟩ := exists_of_mem_mapM has ha
  have hone : ∀ label field, aggregationOf kind label field = .ok a →
      kind = "histogram" ∧ a.interval = none := by
    intro label field hone
    unfold aggregationOf at hone
    split at hone
    · cases hone
      cases hhistogram
    · cases hone
      exact ⟨rfl, rfl⟩
    · cases hone
      cases hhistogram
    · split at hone
      · cases hone
        cases hhistogram
      · cases hone
  have hboth : kind = "histogram" ∧ a.interval = none := by
    unfold Source.resolve at ha
    split at ha
    · exact hone _ _ ha
    · exact hone _ _ ha
    · cases ha
  exact ⟨List.mem_map.mpr ⟨_, hkind, hboth.1⟩, hboth.2⟩

/-- The criteria of a wire form have its aggregations, and no record stands for
others. -/
theorem criteria_of_resolve {w : Contract} {aggregations : Aggregations} {c : Criteria}
    (hw : w.aggregations = some aggregations) (h : w.resolve = .ok c) :
    aggregations.resolve = .ok c.aggregations ∧ c.collapse = none := by
  obtain ⟨filters, -, h⟩ := bind_eq_ok_iff.mp h
  obtain ⟨post, -, h⟩ := bind_eq_ok_iff.mp h
  rw [hw] at h
  dsimp only at h
  split at h
  all_goals
    obtain ⟨page, -, h⟩ := bind_eq_ok_iff.mp h
    obtain ⟨as, has, h⟩ := bind_eq_ok_iff.mp h
    cases h
    exact ⟨has, rfl⟩

end Wire

/-- Of several values under one name the last one stays. A wire form names each
aggregation after its alias or else after its field. In the outcome of a search, on a
database that answers or on a document store in memory, the last aggregation with a
name has its value, of the shape of its type. So no value is lost where the names
differ, and one is wherever they do not. A document store in memory that accepts the
criteria answers where the names differ. -/
theorem of_several_values_under_one_name_the_last_stays (w : Wire.Contract)
    (sources : Fields (List Wire.Source)) (c : Criteria)
    (hw : w.aggregations = some (.byKind sources)) (hc : w.resolve = .ok c) :
    (∀ {σ : Type} (r : Relational σ) (s : Relational.State σ) (out : Outcome),
      ((r.search c).on s).1 = .ok out → Told (Wire.asked sources) out.aggregations) ∧
    (∀ (entity : Entity) (settings : Settings) (engine : Indices.Engine) (out : Outcome),
      (((Documents.inMemory entity settings).search c).on engine).1 = .ok out →
        Told (Wire.asked sources) out.aggregations) ∧
    (((Wire.asked sources).map (·.1)).Nodup →
      ∀ (entity : Entity) (settings : Settings) (engine : Indices.Engine) (ix : Indices.Index)
        (p : Search.Plan), ("histogram" ∈ Fields.keys sources → settings.validate = .ok ()) →
        engine.faults = [] → engine.find entity.storage = .ok ix →
        Search.plan entity settings c = .ok p →
        ∃ out, (((Documents.inMemory entity settings).search c).on engine).1 = .ok out) := by
  obtain ⟨hresolve, hcollapse⟩ := Wire.criteria_of_resolve hw hc
  have hslots := Wire.slot_of_resolve hresolve
  refine ⟨fun r s out h => ?_, fun entity settings engine out h => ?_,
    fun hnames entity settings engine ix p hsettings hfaults hix hplan => ?_⟩
  · exact hslots ▸ Relational.told_of_search (Prod.ext h rfl)
  · exact hslots ▸ Documents.told_of_search hcollapse h
  · have hapart : Search.NamesApart c := {
      distinct := by
        rw [← hslots, List.map_map] at hnames
        exact hnames
      total := by simp [hcollapse] }
    have hreads := Search.reads_of_plan (fun a ha hkind =>
      (Wire.histogram_of_resolve hresolve a ha hkind).imp_left hsettings) hplan
    obtain ⟨out, hout, -⟩ := Documents.exists_search hapart hreads hfaults hix hplan
    exact ⟨out, hout⟩

/-- The colors of the products and the number of colored ones go by different names. -/
theorem the_colors_and_their_number_are_told :
    let sources : Fields (List Wire.Source) :=
      [("terms", [.field "color"]), ("value_count", [.named [("colored", "color")]])]
    let w : Wire.Contract := ⟨[], [], none, some (.byKind sources), [], [], []⟩
    let entity : Entity := { name := "product", storage := "products" }
    let t : Tables.Table := {
      shape := .make "products" "id" [("color", .text)] []
      rows := [[("color", .text "red"), ("id", .int 1)]] }
    let s : Relational.State Tables.Engine := .initial {} { tables := [("products", t)] }
    let engine : Indices.Engine :=
      { indices := [("products", { documents := [⟨"1", .obj [("color", .str "red")]⟩] })] }
    Wire.asked sources = [("color", .buckets), ("colored", .metric)] ∧
      ∃ c out out', w.resolve = .ok c ∧
        (((Relational.inMemory entity {}).search c).on s).1 = .ok out ∧
        (((Documents.inMemory entity {}).search c).on engine).1 = .ok out' ∧
        Told (Wire.asked sources) out.aggregations ∧
        Told (Wire.asked sources) out'.aggregations := by
  intro sources w entity t s engine
  obtain ⟨c, hc, hpasses⟩ : ∃ c, w.resolve = .ok c ∧ _ :=
    exists_of_any (p := fun c => (Search.plan entity {} c).toOption.any fun _ =>
      ((((Relational.inMemory entity {}).search c).on s).1).toOption.any fun _ => true)
      (by decide +kernel)
  obtain ⟨p, hp, hsearch⟩ := exists_of_any hpasses
  obtain ⟨out, hout, -⟩ := exists_of_any hsearch
  obtain ⟨hrows, hdocuments, hanswers⟩ :=
    of_several_values_under_one_name_the_last_stays w sources c rfl hc
  have hnone : "histogram" ∉ Fields.keys sources := by decide
  obtain ⟨out', hout'⟩ := hanswers (by decide) entity {} engine _ p (fun h => absurd h hnone)
    rfl rfl hp
  exact ⟨rfl, c, out, out', hc, hout, hout', hrows _ s out hout,
    hdocuments entity {} engine out' hout'⟩

end EntityStore
