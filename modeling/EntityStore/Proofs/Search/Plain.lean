-- The queries of filters. What simple queries have and junctions pass on, all
-- of them have: they can be read from their documents, and where no path is
-- nested they come without inner hits.
import EntityStore.Proofs.Search.Groups
import EntityStore.Proofs.Search.Reading

namespace EntityStore.Search

open EntityStore.Filter (Group)
open Indices (addInnerHits addAllInnerHits)

/-- The query has no queries as parts, and is no text search. -/
def Query.isSimple : Query → Bool
  | .multiMatch _ _ _ _ => false
  | .nested _ _ _ => false
  | .bool _ _ _ _ _ => false
  | _ => true

/-- What simple queries have, and junctions have where their parts do. A count
in a junction is small. -/
structure Hereditary (A : Query → Prop) : Prop where
  simple : ∀ {q : Query}, q.isSimple = true → A q
  bool : ∀ {must filter should mustNot : List Query} {least : Option Nat},
    (∀ q ∈ must, A q) → (∀ q ∈ filter, A q) → (∀ q ∈ should, A q) → (∀ q ∈ mustNot, A q) →
      (∀ n ∈ least, n < 0x100000000) → A (.bool must filter should mustNot least)

namespace Hereditary

variable {A : Query → Prop} (h : Hereditary A)

include h

/-! ## Junctions -/

theorem negate {q : Query} (hq : A q) : A q.negate :=
  h.bool nofun nofun nofun (List.forall_mem_singleton.mpr hq) nofun

theorem presentBut {field : String} {q : Query} (hq : A q) : A (presentBut field q) :=
  h.bool nofun (List.forall_mem_singleton.mpr (h.simple rfl)) nofun
    (List.forall_mem_singleton.mpr hq) nofun

theorem disjunction {qs : List Query} (hqs : ∀ q ∈ qs, A q) : A (disjunction qs) := by
  unfold Search.disjunction
  split
  · exact hqs _ List.mem_cons_self
  · refine h.bool nofun nofun hqs nofun fun n hn => ?_
    cases hn
    decide

theorem junction {must filter mustNot : List Query} (hmust : ∀ q ∈ must, A q)
    (hfilter : ∀ q ∈ filter, A q) (hnot : ∀ q ∈ mustNot, A q) :
    A (Junction.query ⟨must, filter, [], mustNot, none⟩) := by
  unfold Junction.query
  split
  · exact h.simple rfl
  · split
    · rename_i hsingle
      cases hsingle
      exact hfilter _ List.mem_cons_self
    · exact h.bool hmust hfilter nofun hnot nofun

/-! ## Clauses -/

theorem inOrLikes (field : String) (vs : List Value) : A (inOrLikes field vs) := by
  apply h.disjunction
  intro q hq
  rcases List.mem_append.mp hq with hq | hq
  · split at hq
    · cases hq
    · rw [List.mem_singleton.mp hq]
      exact h.simple rfl
  · obtain ⟨v, -, rfl⟩ := List.mem_map.mp hq
    exact h.simple rfl

theorem of_clause {field : String} {op : Filter.Operator} {operand : Filter.Operand}
    {clause : Clause} (hclause : clause? field op operand = some clause) : A clause.query := by
  unfold clause? at hclause
  split at hclause <;> cases hclause
  case h_17 => exact h.inOrLikes field _
  all_goals first
    | exact h.simple rfl
    | exact h.presentBut (h.simple rfl)

theorem clauseOf {c : Filter.Condition} (hc : ∃ clause, condition c = .ok clause) :
    A (clauseOf c).query := by
  have hc := condition_eq_ok hc
  rw [condition] at hc
  split at hc
  · rename_i hclause
    cases hc
    exact h.of_clause hclause
  · cases hc

theorem whole {c : Clause} (hc : A c.query) : A c.whole := by
  unfold Clause.whole
  split
  · exact h.negate hc
  · exact hc

theorem conjunction {cs : List Clause} (hcs : ∀ c ∈ cs, A c.query) : A (conjunction cs) := by
  refine h.junction nofun ?_ ?_ <;> simp only [List.forall_mem_map, List.mem_filter]
  · exact fun c hc => hcs c hc.1
  · exact fun c hc => hcs c hc.1

/-! ## Groups -/

variable {e : Entity} {gs : List Group} {withHits : Bool}

/-- The queries of a group have what the queries on the objects under nested
paths have too. -/
theorem partitionOf {g : Group} (hg : ∀ c ∈ g.conditions, ∃ clause, condition c = .ok clause)
    (hnested : ∀ field path, e.nestedPath? field = some path →
      ∀ q, A q → A (container e withHits path q)) :
    (∀ q ∈ (partitionOf e g).filters e withHits, A q) ∧
      ∀ q ∈ (Search.partitionOf e g).refused, A q := by
  have hroot : ∀ clause ∈ (Search.partitionOf e g).root, A clause.query := by
    intro clause hclause
    obtain ⟨c, hc, -, rfl⟩ := mem_root.mp hclause
    exact h.clauseOf (hg c hc)
  have hunder : ∀ p ∈ (Search.partitionOf e g).nested, (∀ clause ∈ p.2, A clause.query) ∧
      ∀ q, A q → A (container e withHits p.1 q) := by
    rintro ⟨path, cs⟩ hp
    obtain ⟨⟨c, -, hpath⟩, rfl⟩ := mem_nested.mp hp
    refine ⟨fun clause hclause => ?_, hnested c.field path hpath⟩
    obtain ⟨c, hc, -, rfl⟩ := mem_clausesUnder.mp hclause
    exact h.clauseOf (hg c hc)
  unfold Partition.filters Partition.refused
  split
  · simp only [List.mem_append, or_imp, forall_and, List.forall_mem_map, List.mem_filter]
    exact ⟨⟨fun c hc => hroot c hc.1, fun p hp => (hunder p hp).2 _
      (h.conjunction (hunder p hp).1)⟩, fun c hc => hroot c hc.1⟩
  · refine ⟨List.forall_mem_singleton.mpr (h.disjunction ?_), nofun⟩
    simp only [List.mem_append, or_imp, forall_and, List.forall_mem_map]
    refine ⟨fun c hc => h.whole (hroot c hc), fun p hp => (hunder p hp).2 _
      (h.disjunction ?_)⟩
    exact List.forall_mem_map.mpr fun c hc => h.whole ((hunder p hp).1 c hc)

theorem junctionOf (hgs : Compile gs) {must : List Query} (hmust : ∀ q ∈ must, A q)
    (hnested : ∀ field path, e.nestedPath? field = some path →
      ∀ q, A q → A (container e withHits path q)) :
    A (junctionOf e withHits must gs).query := by
  unfold Search.junctionOf Search.junction
  refine h.junction hmust ?_ ?_ <;> simp only [List.mem_flatMap, List.mem_map, List.mem_filter]
  · rintro q ⟨_, ⟨g, hg, rfl⟩, hq⟩
    exact (h.partitionOf (hgs g hg.1) hnested).1 q hq
  · rintro q ⟨_, ⟨g, hg, rfl⟩, hq⟩
    exact (h.partitionOf (hgs g hg.1) hnested).2 q hq

theorem of_groups (hgs : Compile gs)
    (hnested : ∀ field path, e.nestedPath? field = some path →
      ∀ q, A q → A (container e withHits path q)) {q : Query}
    (hq : groups e withHits gs = .ok (some q)) : A q := by
  rw [groups_eq_ok hgs] at hq
  split at hq
  · cases hq
  · cases hq
    exact h.junctionOf hgs nofun hnested

end Hereditary

/-! ## Plain queries -/

/-- The query can be read from its document, and asks for no inner hits. -/
structure Plain (q : Query) : Prop where
  readable : q.Readable
  noInnerHits : ∀ doc found, addInnerHits doc q found = found

theorem allReadable_iff {qs : List Query} :
    Query.AllReadable qs ↔ ∀ q ∈ qs, q.Readable := by
  induction qs with
  | nil => simp [Query.AllReadable]
  | cons q qs ih => rw [Query.AllReadable, ih, List.forall_mem_cons]

theorem addAllInnerHits_of_plain {qs : List Query} (h : ∀ q ∈ qs, Plain q) (doc : Json)
    (found : Fields Json) : addAllInnerHits doc qs found = found := by
  induction qs with
  | nil => rfl
  | cons q qs ih =>
    rw [List.forall_mem_cons] at h
    rw [addAllInnerHits, h.1.noInnerHits, ih h.2]

theorem hereditary_plain : Hereditary Plain where
  simple := fun {q} hq => by
    cases q <;> first
      | exact ⟨trivial, fun _ _ => rfl⟩
      | cases hq
  bool := fun hmust hfilter hshould hnot hleast => by
    refine ⟨⟨?_, ?_, ?_, ?_, hleast⟩, fun doc found => ?_⟩
    · exact allReadable_iff.mpr fun q hq => (hmust q hq).readable
    · exact allReadable_iff.mpr fun q hq => (hfilter q hq).readable
    · exact allReadable_iff.mpr fun q hq => (hshould q hq).readable
    · exact allReadable_iff.mpr fun q hq => (hnot q hq).readable
    · rw [addInnerHits, addAllInnerHits_of_plain hmust, addAllInnerHits_of_plain hfilter,
        addAllInnerHits_of_plain hshould]

variable {e : Entity} {gs : List Group}

theorem nestedPath?_eq_none (h : e.nestedPaths = []) (field : String) :
    e.nestedPath? field = none := by
  rw [Entity.nestedPath?, h]
  rfl

theorem plain_container (h : e.nestedPaths = []) (withHits : Bool) (field path : String)
    (hpath : e.nestedPath? field = some path) (q : Query) (_ : Plain q) :
    Plain (container e withHits path q) := by
  rw [nestedPath?_eq_none h] at hpath
  cases hpath

theorem plain_junctionOf (h : e.nestedPaths = []) (hgs : Compile gs) (withHits : Bool) :
    Plain (junctionOf e withHits [] gs).query :=
  hereditary_plain.junctionOf hgs nofun (plain_container h withHits)

theorem plain_of_groups (h : e.nestedPaths = []) (hgs : Compile gs) {withHits : Bool} {q : Query}
    (hq : groups e withHits gs = .ok (some q)) : Plain q :=
  hereditary_plain.of_groups hgs (plain_container h withHits) hq

end EntityStore.Search
