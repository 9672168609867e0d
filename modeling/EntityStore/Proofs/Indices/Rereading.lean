-- The query that is read from the document of another one. It may have lost
-- parameters of text searches, none of which counts, and so it finds the same
-- documents and asks for the same inner hits.
import EntityStore.Proofs.Search.Plain

namespace EntityStore

theorem Fields.get?_erase_of_ne {α : Type} (m : Fields α) {k l : String} (h : l ≠ k) :
    get? (erase m k) l = get? m l := by
  induction m with
  | nil => rfl
  | cons p rest ih =>
    rw [erase]
    split
    · rename_i hk
      rw [get?_cons, if_neg (hk ▸ h)]
    · rw [get?_cons, get?_cons, ih]

open Indices (finds hits addInnerHits addAllInnerHits leastHits asksForAll innerHits)

namespace Search

/-! ## Counts -/

namespace Query

mutual

/-- No count in the query is too large to be read from its document. -/
def Counted : Query → Prop
  | .nested _ q _ => q.Counted
  | .bool must filter should mustNot least =>
    AllCounted must ∧ AllCounted filter ∧ AllCounted should ∧ AllCounted mustNot ∧
      ∀ n ∈ least, n < 0x100000000
  | _ => True

def AllCounted : List Query → Prop
  | [] => True
  | q :: qs => q.Counted ∧ AllCounted qs

end

theorem allCounted_iff {qs : List Query} : AllCounted qs ↔ ∀ q ∈ qs, q.Counted := by
  induction qs with
  | nil => simp [AllCounted]
  | cons q qs ih => rw [AllCounted, ih, List.forall_mem_cons]

theorem hereditary_counted : Hereditary Counted where
  simple := fun {q} hq => by
    cases q <;> first
      | exact trivial
      | cases hq
  bool := fun hmust hfilter hshould hnot hleast =>
    ⟨allCounted_iff.mpr hmust, allCounted_iff.mpr hfilter, allCounted_iff.mpr hshould,
      allCounted_iff.mpr hnot, hleast⟩

/-! ## Finding -/

theorem asksForAll_parametersRead (text : String) (fields : List String) (matchType : MatchType)
    (parameters : Fields Json) :
    asksForAll (parametersRead text fields matchType parameters) = asksForAll parameters := by
  have hoperator : (parametersRead text fields matchType parameters).get? "operator" =
      parameters.get? "operator" := by
    rw [parametersRead, Fields.get?_erase_of_ne _ (by decide),
      Fields.get?_erase_of_ne _ (by decide), Fields.get?_erase_of_ne _ (by decide),
      Fields.get?_extend]
    simp [Fields.get?_ofList_cons, Fields.get?_ofList_nil]
  rw [asksForAll, hoperator, asksForAll]

theorem length_allAsRead (qs : List Query) : (allAsRead qs).length = qs.length := by
  induction qs with
  | nil => rfl
  | cons q qs ih => rw [allAsRead, List.length_cons, List.length_cons, ih]

theorem isEmpty_allAsRead (qs : List Query) : (allAsRead qs).isEmpty = qs.isEmpty := by
  cases qs <;> rfl

mutual

theorem finds_asRead : ∀ q : Query, q.Counted → ∀ doc, finds q.asRead doc = finds q doc
  | .matchAll, _, _ => rfl
  | .term _ _, _, _ => rfl
  | .terms _ _, _, _ => rfl
  | .range _ _, _, _ => rfl
  | .exists _, _, _ => rfl
  | .wildcard _ _ _, _, _ => rfl
  | .regexp _ _ _, _, _ => rfl
  | .multiMatch text fields matchType parameters, _, doc => by
    rw [asRead, finds, finds, asksForAll_parametersRead]
  | .nested path q _, h, doc => by
    rw [asRead, finds, finds]
    exact congrArg _ (funext fun element => finds_asRead q h element)
  | .bool must filter should mustNot least, h, doc => by
    obtain ⟨hmust, hfilter, hshould, hnot, hleast⟩ := h
    rw [asRead, finds, finds, count_asRead hleast, hits_allAsRead must hmust,
      hits_allAsRead filter hfilter, hits_allAsRead should hshould,
      hits_allAsRead mustNot hnot, leastHits, leastHits, length_allAsRead, length_allAsRead,
      isEmpty_allAsRead, isEmpty_allAsRead, isEmpty_allAsRead]

theorem hits_allAsRead : ∀ qs : List Query, AllCounted qs → ∀ doc,
    hits (allAsRead qs) doc = hits qs doc
  | [], _, _ => rfl
  | q :: qs, h, doc => by
    rw [allAsRead, hits, hits, finds_asRead q h.1, hits_allAsRead qs h.2]

end

/-! ## Inner hits -/

mutual

theorem addInnerHits_asRead : ∀ q : Query, q.Counted → ∀ doc found,
    addInnerHits doc q.asRead found = addInnerHits doc q found
  | .matchAll, _, _, _ => rfl
  | .term _ _, _, _, _ => rfl
  | .terms _ _, _, _, _ => rfl
  | .range _ _, _, _, _ => rfl
  | .exists _, _, _, _ => rfl
  | .wildcard _ _ _, _, _, _ => rfl
  | .regexp _ _ _, _, _, _ => rfl
  | .multiMatch _ _ _ _, _, _, _ => rfl
  | .nested _ _ none, _, _, _ => rfl
  | .nested path q (some spec), h, doc, found => by
    have hfinds : finds q.asRead = finds q := funext fun element => finds_asRead q h element
    rw [asRead, addInnerHits, addInnerHits, innerHits, innerHits, hfinds]
  | .bool must filter should _ _, h, doc, found => by
    rw [asRead, addInnerHits, addInnerHits, addAllInnerHits_allAsRead must h.1,
      addAllInnerHits_allAsRead filter h.2.1, addAllInnerHits_allAsRead should h.2.2.1]

theorem addAllInnerHits_allAsRead : ∀ qs : List Query, AllCounted qs → ∀ doc found,
    addAllInnerHits doc (allAsRead qs) found = addAllInnerHits doc qs found
  | [], _, _, _ => rfl
  | q :: qs, h, doc, found => by
    rw [allAsRead, addAllInnerHits, addAllInnerHits, addInnerHits_asRead q h.1,
      addAllInnerHits_allAsRead qs h.2]

end

end Query

end Search

end EntityStore
