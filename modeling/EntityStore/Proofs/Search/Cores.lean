-- What an aggregation says without its wrappers. Its node is read as a breakdown of
-- its kind, and each group of documents as a bucket, which also counts the different
-- values that records are collapsed by.
import EntityStore.Proofs.Search.Wrappers

namespace EntityStore

/-! ## Breakdowns that can be asked for -/

namespace Indices.Breakdown

mutual

/-- The kinds of a breakdown and of all its parts can be read. -/
def Sound : Breakdown → Prop
  | .mk kind parts => (∃ k, kind = .ok k) ∧ AllSound parts

def AllSound : List (String × Breakdown) → Prop
  | [] => True
  | (_, b) :: rest => b.Sound ∧ AllSound rest

end

variable {roots : List Json} {parts : List (String × Breakdown)}

theorem exists_bucket (h : ∀ docs, ∃ found, summaries roots parts docs = .ok found)
    (docs : List Part) : ∃ j, bucket roots parts docs = .ok j := by
  obtain ⟨found, hfound⟩ := h docs
  exact ⟨_, bind_eq_ok_iff.mpr ⟨found, hfound, rfl⟩⟩

theorem exists_buckets {κ : Type} (h : ∀ docs, ∃ found, summaries roots parts docs = .ok found)
    (cells : List (Cell κ)) : ∃ bs, buckets roots parts cells = .ok bs :=
  exists_mapM fun c _ =>
    have ⟨found, hfound⟩ := h c.docs
    ⟨_, bind_eq_ok_iff.mpr ⟨found, hfound, rfl⟩⟩

theorem exists_outcome (h : ∀ docs, ∃ found, summaries roots parts docs = .ok found)
    (docs : List Part) (k : Kind) : ∃ j, outcome roots parts docs k = .ok j := by
  cases k with
  | terms f limit =>
    obtain ⟨bs, hbs⟩ := exists_buckets h ((rank (termCells f docs)).take limit)
    exact ⟨_, map_eq_ok_iff.mpr ⟨bs, hbs, rfl⟩⟩
  | histogram f interval least =>
    obtain ⟨bs, hbs⟩ := exists_buckets h (stepCells f interval least docs)
    exact ⟨_, map_eq_ok_iff.mpr ⟨bs, hbs, rfl⟩⟩
  | composite sources limit after =>
    obtain ⟨bs, hbs⟩ := exists_buckets h (page limit after (comboCells sources docs))
    exact ⟨_, map_eq_ok_iff.mpr ⟨bs, hbs, rfl⟩⟩
  | metric m f => exact ⟨_, rfl⟩
  | cardinality f => exact ⟨_, rfl⟩
  | filter q => exact exists_bucket h _
  | nested path => exact exists_bucket h _
  | whole => exact exists_bucket h _

mutual

/-- A breakdown that can be read makes something of any documents. -/
theorem exists_summary (roots : List Json) :
    ∀ b : Breakdown, b.Sound → ∀ docs, ∃ j, summary roots b docs = .ok j
  | .mk kind parts, h, docs => by
    obtain ⟨⟨k, rfl⟩, hparts⟩ := h
    rw [summary_mk]
    exact exists_outcome (exists_summaries roots parts hparts) docs k

theorem exists_summaries (roots : List Json) : ∀ bs : List (String × Breakdown), AllSound bs →
    ∀ docs, ∃ found, summaries roots bs docs = .ok found
  | [], _, _ => ⟨[], by rw [summaries]⟩
  | (name, b) :: rest, h, docs => by
    obtain ⟨j, hj⟩ := exists_summary roots b h.1 docs
    obtain ⟨found, hfound⟩ := exists_summaries roots rest h.2 docs
    rw [summaries]
    exact ⟨_, bind_eq_ok_iff.mpr ⟨j, hj, bind_eq_ok_iff.mpr ⟨found, hfound, rfl⟩⟩⟩

end

theorem allSound_readAll {nodes : List (String × Json)}
    (h : ∀ p ∈ nodes, (read p.1 p.2).Sound) : AllSound (readAll nodes) := by
  induction nodes with
  | nil => exact trivial
  | cons p rest ih =>
    obtain ⟨hp, hrest⟩ := List.forall_mem_cons.mp h
    exact ⟨hp, ih hrest⟩

end Indices.Breakdown

namespace Search

open Aggregation (Bucket Result)
open Indices (Cell Part bucketJson comboCells termCells)
open Indices.Breakdown (readKind summary summaries)

variable {e : Entity} {settings : Settings} {c : Criteria} {a : Aggregation} {kind : String}
  {body : Json} {shape : Shape} {nested : Option String}

/-! ## Reading nodes -/

/-- What counts the different values at a field in the documents of a bucket, or
in the whole documents that its objects are from. -/
def counter (nested : Option String) (field : String) : Indices.Breakdown :=
  if nested.isSome then .mk (.ok .whole) [(distinctName, .mk (.ok (.cardinality field)) [])]
  else .mk (.ok (.cardinality field)) []

/-- The parts of a breakdown of buckets. -/
def counters (c : Criteria) (nested : Option String) : List (String × Indices.Breakdown) :=
  (c.collapse.map fun k => (distinctName, counter nested k.countField)).toList

/-- The name of a kind comes behind that of the parts, and is not passed over. -/
def NamesKind (kind : String) : Prop := "aggs" < kind ∧ kind ≠ "meta"

theorem namesKind_of_core (h : core settings a = .ok (kind, body, shape)) : NamesKind kind := by
  obtain ⟨name, k, target, limit, interval, after⟩ := a
  cases k <;> cases target <;> first
    | (cases h; done)
    | skip
  case metric.field m f =>
    cases h
    cases m <;> exact ⟨by decide, by decide⟩
  all_goals
    cases h
    exact ⟨by decide, by decide⟩

theorem read_distinctPart (nested : Option String) (field : String) :
    Indices.Breakdown.readParts [("aggs", distinctPart nested field)] =
      [(distinctName, counter nested field)] := by
  cases nested with
  | none => rfl
  | some path =>
    have hnode : distinctPart (some path) field = single distinctName
        (wrap distinctName "reverse_nested" (.obj []) (cardinality field)) := rfl
    rw [hnode, wrap_eq (by decide) (by decide)]
    rfl

/-- The node of an aggregation is read as a breakdown of its kind, which counts
the collapsed records of its buckets. -/
theorem read_coreNode (hkind : NamesKind kind) (name : String) :
    Indices.Breakdown.read name (coreNode c nested kind body shape) =
      .mk (readKind name kind body) (if shape.hasBuckets then counters c nested else []) := by
  obtain ⟨hlt, hmeta⟩ := hkind
  have hne : "aggs" ≠ kind := fun heq => String.lt_irrefl _ (heq ▸ hlt)
  have hfind : Indices.Breakdown.kindOf name [(kind, body)] = readKind name kind body := by
    simp [Indices.Breakdown.kindOf, hne.symm, hmeta]
  have halone : Indices.Breakdown.read name (.obj [(kind, body)]) =
      .mk (readKind name kind body) [] := by
    have hparts : Indices.Breakdown.readParts [(kind, body)] = [] := by
      cases body <;> first
        | rfl
        | exact if_neg hne.symm
    rw [Indices.Breakdown.read, hfind, hparts]
  have hcounted : ∀ field, Indices.Breakdown.read name
      (Json.object [(kind, body), ("aggs", distinctPart nested field)]) =
        .mk (readKind name kind body) [(distinctName, counter nested field)] := by
    intro field
    have hinsert : Fields.insert [(kind, body)] "aggs" (distinctPart nested field) =
        [("aggs", distinctPart nested field), (kind, body)] := by
      rw [Fields.insert, if_neg hne, if_pos hlt]
    have hnode : Json.object [(kind, body), ("aggs", distinctPart nested field)] =
        .obj [("aggs", distinctPart nested field), (kind, body)] := congrArg Json.obj hinsert
    have hparts : Indices.Breakdown.readParts
        [("aggs", distinctPart nested field), (kind, body)] =
          [(distinctName, counter nested field)] := read_distinctPart nested field
    have hbehind : Indices.Breakdown.kindOf name
        [("aggs", distinctPart nested field), (kind, body)] = readKind name kind body := hfind
    rw [hnode, Indices.Breakdown.read, hbehind, hparts]
  rw [coreNode, counters]
  split
  · cases c.collapse with
    | none => exact halone
    | some k => exact hcounted k.countField
  · exact halone

/-! ## Aggregations that can be read -/

/-- The aggregation can be read from the document that asks for it. -/
def Reads (settings : Settings) (a : Aggregation) : Prop :=
  ∃ kind body shape k, core settings a = .ok (kind, body, shape) ∧ readKind a.name kind body = .ok k

theorem sound_counters (c : Criteria) (nested : Option String) :
    Indices.Breakdown.AllSound (counters c nested) := by
  rw [counters]
  cases c.collapse with
  | none => exact trivial
  | some k =>
    refine ⟨?_, trivial⟩
    show (counter nested k.countField).Sound
    rw [counter]
    split
    · exact ⟨⟨_, rfl⟩, ⟨⟨_, rfl⟩, trivial⟩, trivial⟩
    · exact ⟨⟨_, rfl⟩, trivial⟩

theorem sound_wrapIn {name : String} {node : Json} (h : (Indices.Breakdown.read name node).Sound)
    (ws : List Wrapper) : (Indices.Breakdown.read name (wrapIn name ws node)).Sound := by
  induction ws with
  | nil => exact h
  | cons w ws ih =>
    show (Indices.Breakdown.read name (w.around name (wrapIn name ws node))).Sound
    rw [read_around]
    exact ⟨⟨_, rfl⟩, ih, trivial⟩

theorem sound_of_aggregation {node : Json} {layout : Layout} (hreads : Reads settings a)
    (h : aggregation e settings c a = .ok (node, layout)) :
    (Indices.Breakdown.read a.name node).Sound := by
  obtain ⟨nested, kind, body, shape, own, seen, -, hcore, -, -, rfl, -⟩ := wrapped_of_aggregation h
  obtain ⟨kind', body', shape', k, hcore', hk⟩ := hreads
  cases hcore.symm.trans hcore'
  refine sound_wrapIn ?_ _
  rw [read_coreNode (namesKind_of_core hcore), hk]
  refine ⟨⟨k, rfl⟩, ?_⟩
  split
  · exact sound_counters c nested
  · exact trivial

/-- What has been answered can be read. -/
theorem reads_of_summary {roots : List Json} {docs : List Part} {node j : Json} {layout : Layout}
    (h : aggregation e settings c a = .ok (node, layout))
    (hj : summary roots (.read a.name node) docs = .ok j) : Reads settings a := by
  obtain ⟨nested, kind, body, shape, own, seen, -, hcore, -, -, rfl, -⟩ := wrapped_of_aggregation h
  obtain ⟨answer, hanswer, -⟩ := exists_unwrapped_of_summary hj
  rw [read_coreNode (namesKind_of_core hcore), Indices.Breakdown.summary_mk] at hanswer
  obtain ⟨k, hk, -⟩ := bind_eq_ok_iff.mp hanswer
  exact ⟨kind, body, shape, k, hcore, hk⟩

/-- The sources of a composite are read with the names that they go by. -/
theorem read_composite (name : String) (sources : Fields String) (size : Nat)
    (after : Option Json) :
    readKind name "composite" (Json.object ([("size", Json.ofNat size),
      ("sources", .arr (sources.map fun s =>
        single s.1 (single "terms" (single "field" (.str s.2)))))] ++ optional "after" after)) =
      .ok (.composite sources size (after.map fun key =>
        sources.map fun s => Value.ofJson (key.field s.1))) := by
  generalize hlisted : (sources.map fun s : String × String =>
    single s.1 (single "terms" (single "field" (.str s.2)))) = listed
  have hsources : listed.mapM (Indices.Breakdown.source name) = .ok sources := by
    rw [← hlisted, List.mapM_map]
    exact (mapM_eq_ok (g := id) fun s _ => rfl).trans (congrArg Except.ok (List.map_id _))
  have hget : ∀ k, (Json.object ([("size", Json.ofNat size), ("sources", .arr listed)] ++
      optional "after" after)).get? k = _ := fun k => by
    rw [get?_object, Fields.get?_ofList_append, get?_optional, Fields.get?_ofList_cons,
      Fields.get?_ofList_cons, Fields.get?_ofList_nil]
  generalize Json.object ([("size", Json.ofNat size), ("sources", .arr listed)] ++
    optional "after" after) = spec at hget ⊢
  have hitems : (spec.get? "sources").bind Json.items? = some listed := by
    rw [hget]
    simp [Json.items?]
  have hsize : spec.natOr "size" Indices.Breakdown.usualLimit = size := by
    rw [Json.natOr, Json.natAt?, hget]
    simp [Json.ofNat, Json.nat?]
  have hafter : Indices.Breakdown.after? sources spec =
      after.map fun key => sources.map fun s => Value.ofJson (key.field s.1) := by
    rw [Indices.Breakdown.after?, hget]
    simp
  show Indices.Breakdown.readComposite name spec = _
  rw [Indices.Breakdown.readComposite, hitems, hsize]
  refine bind_eq_ok_iff.mpr ⟨listed, rfl, bind_eq_ok_iff.mpr ⟨sources, hsources, ?_⟩⟩
  rw [hafter]
  rfl

theorem read_terms (name f : String) (size : Nat) :
    readKind name "terms" (Json.object [("field", .str f), ("size", Json.ofNat size)]) =
      .ok (.terms f size) := by
  have hget : ∀ k, (Json.object [("field", .str f), ("size", Json.ofNat size)]).get? k = _ :=
    fun k => by
      rw [get?_object, Fields.get?_ofList_cons, Fields.get?_ofList_cons, Fields.get?_ofList_nil]
  generalize Json.object [("field", .str f), ("size", Json.ofNat size)] = spec at hget ⊢
  have hfield : spec.textAt? "field" = some f := by
    rw [Json.textAt?, hget]
    simp [Json.text?]
  have hsize : spec.natOr "size" Indices.Breakdown.usualLimit = size := by
    rw [Json.natOr, Json.natAt?, hget]
    simp [Json.ofNat, Json.nat?]
  refine bind_eq_ok_iff.mpr ⟨f, ?_, ?_⟩
  · rw [Indices.Breakdown.field, hfield]
    rfl
  · rw [hsize]
    rfl

/-- All aggregations can be read but for histograms, whose steps need a width. -/
theorem reads_of_core (hkind : a.kind ≠ .histogram)
    (h : core settings a = .ok (kind, body, shape)) : Reads settings a := by
  obtain ⟨name, k, target, limit, interval, after⟩ := a
  cases k <;> cases target <;> first
    | (cases h; done)
    | skip
  case terms.field f => exact ⟨_, _, _, _, rfl, read_terms name f _⟩
  case filter.field gs f => exact ⟨_, _, _, _, rfl, read_terms name f _⟩
  case histogram.field f => exact absurd rfl hkind
  case metric.field m f =>
    refine ⟨_, _, _, .metric m f, rfl, ?_⟩
    cases m <;> rfl
  case composite.fields sources =>
    exact ⟨_, _, _, _, rfl, read_composite name sources (limit.getD settings.compositePage) after⟩

/-! ## Buckets -/

/-- The bucket of a group of documents. -/
def bucketOf {κ : Type} (c : Criteria) (nested : Option String) (roots : List Json)
    (cell : Cell κ) : Bucket where
  key := cell.shown
  count := cell.docs.length
  distinct := c.collapse.map fun k => Indices.cardinality k.countField
    (if nested.isSome then Indices.wholeParts roots cell.docs else cell.docs)

theorem get?_bucketJson {κ : Type} (cell : Cell κ) (parts : Fields Json) (k : String) :
    (bucketJson cell parts).get? k = (Fields.get? (Fields.ofList parts) k).or
      (if k = "doc_count" then some (Json.ofNat cell.docs.length)
        else if k = "key" then some cell.shown else none) := by
  have hget : (bucketJson cell parts).get? k = Fields.get? (Fields.extend (Fields.ofList
      [("key", cell.shown), ("doc_count", Json.ofNat cell.docs.length)]) parts) k := rfl
  rw [hget, Fields.get?_extend, Fields.get?_ofList_cons, Fields.get?_ofList_cons,
    Fields.get?_ofList_nil]
  congr 1
  split <;> rfl

/-- The different values of the records of a bucket, as they are read. -/
theorem count_of_summary {roots : List Json} {docs : List Part} {field : String} {j : Json}
    (h : summary roots (counter nested field) docs = .ok j) :
    ((j.get? "value").or (j.at? [distinctName, "value"])).bind Json.nat? =
      some (Indices.cardinality field
        (if nested.isSome then Indices.wholeParts roots docs else docs)) := by
  cases nested with
  | none =>
    have hcount : summary roots (.mk (.ok (.cardinality field)) []) docs = .ok j := h
    rw [Indices.Breakdown.summary_cardinality] at hcount
    cases hcount
    rfl
  | some path =>
    have hwhole : summary roots (.mk (.ok .whole)
      [(distinctName, .mk (.ok (.cardinality field)) [])]) docs = .ok j := h
    rw [Indices.Breakdown.summary_whole] at hwhole
    obtain ⟨parts, hparts, hj⟩ := bind_eq_ok_iff.mp hwhole
    rw [summaries, Indices.Breakdown.summary_cardinality] at hparts
    obtain ⟨_, hcount, hparts⟩ := bind_eq_ok_iff.mp hparts
    rw [summaries] at hparts
    cases hcount
    cases hparts
    cases hj
    have hnone : ∀ whole count, (Indices.singleJson whole [(distinctName, count)]).get? "value" =
        none := by
      intro whole count
      have hother : "value" ≠ distinctName ∧ "value" ≠ "doc_count" := by decide
      have hget : (Indices.singleJson whole [(distinctName, count)]).get? "value" = Fields.get?
          (Fields.extend [("doc_count", Json.ofNat whole.length)] [(distinctName, count)])
          "value" := rfl
      rw [hget, Fields.get?_extend, Fields.get?_ofList_cons, if_neg hother.1, Fields.get?_cons,
        if_neg hother.2]
      rfl
    rw [hnone, Json.at?, get?_singleJson]
    rfl

theorem bucket_of_summaries {κ : Type} {roots : List Json} {cell : Cell κ} {parts : Fields Json}
    (h : summaries roots (counters c nested) cell.docs = .ok parts) :
    bucket (bucketJson cell parts) = bucketOf c nested roots cell := by
  have hget := get?_bucketJson cell parts
  rw [counters] at h
  rw [bucketOf]
  cases hcollapse : c.collapse with
  | none =>
    rw [hcollapse] at h
    rw [Option.map_none, Option.toList_none, summaries] at h
    cases h
    rw [bucket, distinctCount, hget, hget, hget]
    rfl
  | some k =>
    rw [hcollapse, Option.map_some, Option.toList_some, summaries] at h
    obtain ⟨j, hj, h⟩ := bind_eq_ok_iff.mp h
    rw [summaries] at h
    cases h
    have hcount := count_of_summary hj
    rw [bucket, distinctCount, hget, hget, hget]
    exact congrArg (Bucket.mk _ _) hcount

/-- The buckets of groups are read as they are. -/
theorem exists_buckets {κ : Type} (c : Criteria) (nested : Option String) (roots : List Json)
    (cells : List (Cell κ)) :
    ∃ bs, Indices.Breakdown.buckets roots (counters c nested) cells = .ok bs ∧
      bs.map bucket = cells.map (bucketOf c nested roots) := by
  obtain ⟨bs, hbs⟩ := Indices.Breakdown.exists_buckets
    (Indices.Breakdown.exists_summaries roots _ (sound_counters c nested)) cells
  refine ⟨bs, hbs, map_eq_of_mapM hbs fun cell b hb => ?_⟩
  obtain ⟨parts, hparts, hb⟩ := bind_eq_ok_iff.mp hb
  cases hb
  exact bucket_of_summaries hparts

end Search

end EntityStore
