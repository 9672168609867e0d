-- What a boolean query finds: the documents that all its required parts
-- find, and none of its refused parts. Junctions, negations and
-- disjunctions are boolean queries, so their meanings follow.
import EntityStore.Indices.Matching
import EntityStore.Proofs.Value.Kinds
import EntityStore.Search.Conditions
import Mathlib.Logic.Basic

namespace EntityStore.Indices

open Search (Query Junction Clause)

/-! ## Values -/

/-- Values of a kind are told apart as they are. -/
theorem any_sameValue {k : Kind} {vs : List Value} (hvs : ∀ v ∈ vs, k.Has v) (j : Json) :
    ((vs.map Value.toJson).any fun w => sameValue j w) = vs.any (Value.ofJson j == ·) := by
  rw [Bool.eq_iff_iff, List.any_map, List.any_eq_true, List.any_eq_true]
  apply exists_congr
  intro v
  apply and_congr_right
  intro hv
  rw [Function.comp, sameValue, (hvs v hv).ofJson_toJson]

/-! ## Counting -/

theorem hits_le (qs : List Query) (doc : Json) : hits qs doc ≤ qs.length := by
  induction qs with
  | nil => simp [hits]
  | cons q qs ih =>
    rw [hits, List.length_cons]
    split <;> omega

theorem hits_eq_length_iff {qs : List Query} {doc : Json} :
    hits qs doc = qs.length ↔ ∀ q ∈ qs, finds q doc = true := by
  induction qs with
  | nil => simp [hits]
  | cons q qs ih =>
    have hle := hits_le qs doc
    rw [hits, List.length_cons, List.forall_mem_cons, ← ih]
    cases finds q doc
    · simp; omega
    · simp; omega

theorem hits_eq_zero_iff {qs : List Query} {doc : Json} :
    hits qs doc = 0 ↔ ∀ q ∈ qs, finds q doc = false := by
  induction qs with
  | nil => simp [hits]
  | cons q qs ih =>
    rw [hits, List.forall_mem_cons, ← ih]
    cases finds q doc <;> simp

theorem hits_pos_iff {qs : List Query} {doc : Json} :
    1 ≤ hits qs doc ↔ ∃ q ∈ qs, finds q doc = true := by
  induction qs with
  | nil => simp [hits]
  | cons q qs ih =>
    simp only [hits, List.mem_cons, exists_eq_or_imp, ← ih]
    cases finds q doc <;> simp

/-! ## Boolean queries -/

theorem finds_bool_iff {must filter should mustNot : List Query} {least : Option Nat}
    {doc : Json} :
    finds (.bool must filter should mustNot least) doc = true ↔
      (∀ q ∈ must, finds q doc = true) ∧ (∀ q ∈ filter, finds q doc = true) ∧
      (∀ q ∈ mustNot, finds q doc = false) ∧
      leastHits must filter should least ≤ hits should doc := by
  rw [finds]
  simp only [Bool.and_eq_true, beq_iff_eq, decide_eq_true_eq, hits_eq_length_iff,
    hits_eq_zero_iff, and_assoc]

/-- Without optional parts none has to match. -/
theorem leastHits_nil (must filter : List Query) : leastHits must filter [] none = 0 := by
  simp [leastHits]

theorem finds_negate (q : Query) (doc : Json) : finds q.negate doc = !finds q doc := by
  have h : finds q.negate doc = true ↔ finds q doc = false := by
    rw [Query.negate, finds_bool_iff, leastHits_nil]
    simp
  cases hq : finds q doc <;> simp_all

/-- A junction without optional parts finds what its required parts find and
its refused parts do not. The forms that it takes are all the same to it. -/
theorem finds_junction_iff {must filter mustNot : List Query} {doc : Json} :
    finds (Junction.query ⟨must, filter, [], mustNot, none⟩) doc = true ↔
      (∀ q ∈ must, finds q doc = true) ∧ (∀ q ∈ filter, finds q doc = true) ∧
      ∀ q ∈ mustNot, finds q doc = false := by
  have hbool : finds (.bool must filter [] mustNot none) doc = true ↔ _ := finds_bool_iff
  rw [leastHits_nil] at hbool
  unfold Junction.query
  split
  · rename_i hempty
    simp only [Junction.isEmpty, Bool.and_eq_true, List.isEmpty_iff] at hempty
    obtain ⟨⟨⟨rfl, rfl⟩, -⟩, rfl⟩ := hempty
    simp [finds]
  · split
    · rename_i hsingle
      cases hsingle
      simp
    · simpa using hbool

theorem finds_anyOf_iff {qs : List Query} {doc : Json} :
    finds (Junction.anyOf qs) doc = true ↔ ∃ q ∈ qs, finds q doc = true := by
  rw [Junction.anyOf, finds_bool_iff]
  simp [leastHits, hits_pos_iff]

theorem finds_disjunction_iff {qs : List Query} {doc : Json} :
    finds (Search.disjunction qs) doc = true ↔ ∃ q ∈ qs, finds q doc = true := by
  unfold Search.disjunction
  split
  · simp
  · exact finds_anyOf_iff

theorem finds_nested_iff {path : String} {q : Query} {innerHits : Option Json} {doc : Json} :
    finds (.nested path q innerHits) doc = true ↔
      ∃ element ∈ objectsAt doc path, finds q (under path element) = true := by
  rw [finds, nestedAt, List.any_map, List.any_eq_true]
  rfl

/-! ## Clauses -/

/-- A clause holds on a document when its query finds it, and a negated one
when its query does not. -/
def Holds (c : Clause) (doc : Json) : Prop := finds c.query doc = !c.negated

theorem finds_whole_iff {c : Clause} {doc : Json} : finds c.whole doc = true ↔ Holds c doc := by
  unfold Clause.whole Holds
  cases hn : c.negated
  · simp
  · simp [finds_negate]

theorem finds_any_whole_iff {cs : List Clause} {doc : Json} :
    finds (Search.disjunction (cs.map Clause.whole)) doc = true ↔ ∃ c ∈ cs, Holds c doc := by
  rw [finds_disjunction_iff]
  simp only [List.mem_map, exists_exists_and_eq_and, finds_whole_iff]

/-- The clauses of a list that have to match all match, and none of those
that must not. -/
theorem forall_holds_iff {cs : List Clause} {doc : Json} :
    (∀ c ∈ cs, Holds c doc) ↔
      (∀ q ∈ (cs.filter fun c => !c.negated).map Clause.query, finds q doc = true) ∧
      ∀ q ∈ (cs.filter Clause.negated).map Clause.query, finds q doc = false := by
  simp only [List.forall_mem_map, List.mem_filter, and_imp]
  constructor
  · intro h
    constructor
    · intro c hc hn
      have := h c hc
      simp_all [Holds]
    · intro c hc hn
      have := h c hc
      simp_all [Holds]
  · rintro ⟨hpos, hneg⟩ c hc
    cases hn : c.negated
    · simpa [Holds, hn] using hpos c hc (by simp [hn])
    · simpa [Holds, hn] using hneg c hc hn

theorem finds_conjunction_iff {cs : List Clause} {doc : Json} :
    finds (Search.conjunction cs) doc = true ↔ ∀ c ∈ cs, Holds c doc := by
  rw [Search.conjunction, finds_junction_iff, forall_holds_iff]
  simp

end EntityStore.Indices
