-- Wrappers of aggregations. A wrapper narrows the documents down or goes to the
-- objects in them, and its answer holds the answer to what is inside. So what a
-- wrapped aggregation says is what the aggregation itself says of the documents
-- that its wrappers leave.
import EntityStore.Proofs.Indices.Renumbering
import EntityStore.Proofs.Search.Reading
import EntityStore.Search.Response

namespace EntityStore.Search

open Indices (Part finds nestedParts singleJson)
open Indices.Breakdown (kindOf readKind summary summaries)

variable {name : String} {roots : List Json} {docs : List Part}

/-! ## Wrappers -/

/-- What an aggregation is wrapped in. -/
inductive Wrapper where
  | filter (q : Query)
  | nested (path : String)

namespace Wrapper

/-- An aggregation in a wrapper of its name. -/
def around (name : String) : Wrapper → Json → Json
  | filter q, inner => wrap name "filter" q.toJson inner
  | nested path, inner => wrap name "nested" (single "path" (.str path)) inner

/-- What a wrapper is read as. -/
def kind : Wrapper → Indices.Breakdown.Kind
  | filter q => .filter q.asRead
  | nested path => .nested path

/-- The documents that a wrapper leaves. -/
def leaves : Wrapper → List Part → List Part
  | filter q, docs => docs.filter fun p => finds q.asRead p.doc
  | nested path, docs => nestedParts path docs

end Wrapper

/-- An aggregation in several wrappers, the first one outermost. -/
def wrapIn (name : String) (ws : List Wrapper) (node : Json) : Json :=
  ws.foldr (Wrapper.around name) node

/-- The documents that several wrappers leave. -/
def leftBy (ws : List Wrapper) (docs : List Part) : List Part :=
  ws.foldl (fun docs w => w.leaves docs) docs

/-! ## Reading wrappers -/

theorem wrap_eq {kind : String} (hne : "aggs" ≠ kind) (hlt : "aggs" < kind) (name : String)
    (body inner : Json) :
    wrap name kind body inner = .obj [("aggs", .obj [(name, inner)]), (kind, body)] := by
  have hinsert : Fields.insert [(kind, body)] "aggs" (Json.obj [(name, inner)]) =
      [("aggs", .obj [(name, inner)]), (kind, body)] := by
    rw [Fields.insert, if_neg hne, if_pos hlt]
  exact congrArg Json.obj hinsert

theorem read_around (name : String) (w : Wrapper) (inner : Json) :
    Indices.Breakdown.read name (w.around name inner) =
      .mk (.ok w.kind) [(name, Indices.Breakdown.read name inner)] := by
  cases w with
  | filter q =>
    have hkind : kindOf name [("aggs", .obj [(name, inner)]), ("filter", q.toJson)] =
        .ok (.filter q.asRead) := by
      show readKind name "filter" q.toJson = _
      rw [readKind, Query.ofJson_toJson_eq]
    rw [Wrapper.around, wrap_eq (by decide) (by decide), Indices.Breakdown.read, hkind]
    rfl
  | nested path =>
    have hkind : kindOf name [("aggs", .obj [(name, inner)]),
        ("nested", single "path" (.str path))] = .ok (.nested path) := rfl
    rw [Wrapper.around, wrap_eq (by decide) (by decide), Indices.Breakdown.read, hkind]
    rfl

/-! ## Answers in wrappers -/

theorem summary_kind (w : Wrapper) (parts : List (String × Indices.Breakdown)) :
    summary roots (.mk (.ok w.kind) parts) docs =
      Indices.Breakdown.bucket roots parts (w.leaves docs) := by
  cases w with
  | filter q => exact Indices.Breakdown.summary_filter roots parts docs q.asRead
  | nested path => exact Indices.Breakdown.summary_nested roots parts docs path

theorem get?_singleJson (docs : List Part) (name : String) (j : Json) :
    (singleJson docs [(name, j)]).get? name = some j := by
  have hget : (singleJson docs [(name, j)]).get? name =
      Fields.get? (Fields.extend [("doc_count", Json.ofNat docs.length)] [(name, j)]) name := rfl
  rw [hget, Fields.get?_extend, Fields.get?_ofList_cons, if_pos rfl]
  rfl

/-- The answer to a wrapped aggregation holds the answer to what is inside. -/
theorem exists_inner_of_summary {w : Wrapper} {inner j : Json}
    (h : summary roots (.read name (w.around name inner)) docs = .ok j) :
    ∃ answer, summary roots (.read name inner) (w.leaves docs) = .ok answer ∧
      j.get? name = some answer := by
  rw [read_around, summary_kind] at h
  obtain ⟨parts, hparts, h⟩ := bind_eq_ok_iff.mp h
  rw [summaries] at hparts
  obtain ⟨answer, hanswer, hparts⟩ := bind_eq_ok_iff.mp hparts
  rw [summaries] at hparts
  cases hparts
  cases h
  exact ⟨answer, hanswer, get?_singleJson _ name answer⟩

/-- So does the answer to an aggregation in several wrappers, and there it is
found by going into as many. -/
theorem exists_unwrapped_of_summary {ws : List Wrapper} {node j : Json}
    (h : summary roots (.read name (wrapIn name ws node)) docs = .ok j) :
    ∃ answer, summary roots (.read name node) (leftBy ws docs) = .ok answer ∧
      unwrap name ws.length j = .ok answer := by
  induction ws generalizing docs j with
  | nil => exact ⟨j, h, rfl⟩
  | cons w ws ih =>
    obtain ⟨outer, houter, hget⟩ := exists_inner_of_summary h
    obtain ⟨answer, hanswer, hunwrap⟩ := ih houter
    refine ⟨answer, hanswer, ?_⟩
    rw [List.length_cons, unwrap, hget]
    exact hunwrap

/-! ## Aggregations in their wrappers -/

variable {e : Entity} {settings : Settings} {c : Criteria} {a : Aggregation} {node : Json}
  {layout : Layout}

/-- The wrappers of an aggregation: the post filters that it sees, the filter of
its own, and the nested path of its fields. -/
def wrappers (seen own : Option Query) (nested : Option String) : List Wrapper :=
  (seen.map .filter).toList ++ (own.map .filter).toList ++ (nested.map .nested).toList

/-- The aggregation itself. Where records are collapsed, its buckets also count
those once that share a value. -/
def coreNode (c : Criteria) (nested : Option String) (kind : String) (body : Json) (shape : Shape) :
    Json :=
  let distinct := if shape.hasBuckets then c.collapse.map (·.countField) else none
  Json.object ((kind, body) :: optional "aggs" (distinct.map (distinctPart nested)))

/-- An aggregation is made of itself and its wrappers, and the layout tells
which of them there are. -/
theorem wrapped_of_aggregation (h : aggregation e settings c a = .ok (node, layout)) :
    ∃ nested kind body shape own seen, commonPath e a = .ok nested ∧
      core settings a = .ok (kind, body, shape) ∧ ownFilter e a = .ok own ∧
      seenFilter e c.postFilters a = .ok seen ∧
      node = wrapIn a.name (wrappers seen own nested) (coreNode c nested kind body shape) ∧
      layout = ⟨a.name, shape, seen.isSome, own.isSome, nested⟩ := by
  obtain ⟨nested, hnested, h⟩ := bind_eq_ok_iff.mp h
  obtain ⟨⟨kind, body, shape⟩, hcore, h⟩ := bind_eq_ok_iff.mp h
  obtain ⟨own, hown, h⟩ := bind_eq_ok_iff.mp h
  obtain ⟨seen, hseen, h⟩ := bind_eq_ok_iff.mp h
  cases h
  refine ⟨nested, kind, body, shape, own, seen, hnested, hcore, hown, hseen, ?_, rfl⟩
  cases nested <;> cases own <;> cases seen <;> rfl

theorem length_wrappers (name : String) (shape : Shape) (seen own : Option Query)
    (nested : Option String) : (wrappers seen own nested).length =
      (Layout.mk name shape seen.isSome own.isSome nested).wrappers := by
  cases nested <;> cases own <;> cases seen <;> rfl

/-- Documents, or the objects at a path in them. -/
def expand (nested : Option String) (docs : List Part) : List Part :=
  nested.elim docs fun path => nestedParts path docs

theorem leftBy_append (ws vs : List Wrapper) (docs : List Part) :
    leftBy (ws ++ vs) docs = leftBy vs (leftBy ws docs) := List.foldl_append

theorem leftBy_filter (q : Option Query) (docs : List Part) :
    leftBy (q.map .filter).toList docs =
      docs.filter fun p => q.all fun q => finds q.asRead p.doc := by
  cases q with
  | none => exact (List.filter_eq_self.mpr fun _ _ => rfl).symm
  | some q => rfl

theorem leftBy_nested (nested : Option String) (docs : List Part) :
    leftBy (nested.map .nested).toList docs = expand nested docs := by
  cases nested <;> rfl

/-- A document passes the filters around an aggregation. -/
def passesBoth (seen own : Option Query) (doc : Json) : Bool :=
  (own.all fun q => finds q.asRead doc) && seen.all fun q => finds q.asRead doc

/-- The wrappers leave the documents that pass the filters, or the objects at the
nested path in them. -/
theorem leftBy_wrappers (seen own : Option Query) (nested : Option String) (docs : List Part) :
    leftBy (wrappers seen own nested) docs =
      expand nested (docs.filter fun p => passesBoth seen own p.doc) := by
  rw [wrappers, leftBy_append, leftBy_append, leftBy_filter, leftBy_filter, leftBy_nested,
    List.filter_filter]
  rfl

theorem expand_renumber (g : Nat → Nat) (nested : Option String) (docs : List Part) :
    expand nested (docs.map (.renumber g)) = (expand nested docs).map (.renumber g) := by
  cases nested with
  | none => rfl
  | some path => exact Indices.nestedParts_renumber g path docs

/-- What an aggregation says of the documents that its wrappers leave is what it
says of these documents alone. -/
theorem summary_leftBy (b : Indices.Breakdown) (seen own : Option Query) (nested : Option String)
    (roots : List Json) :
    summary roots b (leftBy (wrappers seen own nested) (Indices.rootParts roots)) =
      summary (roots.filter (passesBoth seen own)) b
        (expand nested (Indices.rootParts (roots.filter (passesBoth seen own)))) := by
  rw [leftBy_wrappers, Indices.rootParts_filter (passesBoth seen own), expand_renumber,
    Indices.Breakdown.summary_renumber (Indices.embeds_filter (passesBoth seen own) roots)]

end EntityStore.Search
