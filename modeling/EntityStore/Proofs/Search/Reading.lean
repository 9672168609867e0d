-- A query is read from the document that writes it, up to what its document
-- cannot keep. A document may write a query in a shorter form, and so the
-- reader knows more documents than these.
import EntityStore.Proofs.Fallible
import EntityStore.Search.Query.Reader

namespace EntityStore.Search

/-! ## Members of documents -/

theorem get?_optional (k l : String) (v : Option Json) :
    Fields.get? (Fields.ofList (optional l v)) k = if k = l then v else none := by
  cases v with
  | none => simp [optional, Fields.get?_ofList_nil]
  | some j => simp [optional, Fields.get?_ofList_cons, Fields.get?_ofList_nil]

theorem get?_unlessEmpty (k l : String) (docs : List Json) :
    Fields.get? (Fields.ofList (unlessEmpty l docs)) k =
      if k = l ∧ docs ≠ [] then some (.arr docs) else none := by
  cases docs with
  | nil => simp [unlessEmpty, Fields.get?_ofList_nil]
  | cons j docs => simp [unlessEmpty, Fields.get?_ofList_cons, Fields.get?_ofList_nil]

theorem get?_object (k : String) (members : List (String × Json)) :
    (Json.object members).get? k = Fields.get? (Fields.ofList members) k := rfl

namespace Query

/-! ## Queries that can be read -/

mutual

/-- The parts of the query can be told apart in its document: no parameter of
a text search goes by the name of another part of it, and no count is too
large. -/
def Readable : Query → Prop
  | .multiMatch _ _ _ parameters => Fields.Ordered parameters ∧
      ∀ k ∈ ["query", "fields", "type"], k ∉ Fields.keys parameters
  | .nested _ q _ => q.Readable
  | .bool must filter should mustNot least =>
    AllReadable must ∧ AllReadable filter ∧ AllReadable should ∧ AllReadable mustNot ∧
      ∀ n ∈ least, n < 0x100000000
  | _ => True

def AllReadable : List Query → Prop
  | [] => True
  | q :: qs => q.Readable ∧ AllReadable qs

end

/-! ## Queries as they are read -/

/-- The parameters of a text search that are left in its document when its
other parts are taken out. -/
def parametersRead (text : String) (fields : List String) (matchType : MatchType)
    (parameters : Fields Json) : Fields Json :=
  (((Fields.extend parameters [("query", .str text), ("fields", Json.texts fields),
    ("type", .str matchType.name)]).erase "query").erase "fields").erase "type"

mutual

/-- The query that is read from the document of a query. -/
def asRead : Query → Query
  | .multiMatch text fields matchType parameters =>
    .multiMatch text fields matchType (parametersRead text fields matchType parameters)
  | .nested path q innerHits => .nested path q.asRead innerHits
  | .bool must filter should mustNot least =>
    .bool (allAsRead must) (allAsRead filter) (allAsRead should) (allAsRead mustNot)
      (least.map (· % 0x100000000))
  | q => q

def allAsRead : List Query → List Query
  | [] => []
  | q :: qs => q.asRead :: allAsRead qs

end

theorem parametersRead_eq (text : String) (fields : List String) (matchType : MatchType)
    {parameters : Fields Json} (hordered : Fields.Ordered parameters)
    (hfree : ∀ k ∈ ["query", "fields", "type"], k ∉ Fields.keys parameters) :
    parametersRead text fields matchType parameters = parameters := by
  rw [parametersRead]
  generalize hms : Fields.extend parameters [("query", Json.str text),
    ("fields", Json.texts fields), ("type", .str matchType.name)] = ms
  have hsorted : Fields.Ordered ms := hms ▸ hordered.extend _
  have hget : ∀ k, Fields.get? ms k = _ := fun k => by
    rw [← hms, Fields.get?_extend, Fields.get?_ofList_cons, Fields.get?_ofList_cons,
      Fields.get?_ofList_cons, Fields.get?_ofList_nil]
  apply Fields.Ordered.ext (((hsorted.erase _).erase _).erase _) hordered
  intro k
  rw [Fields.get?_erase ((hsorted.erase _).erase _), Fields.get?_erase (hsorted.erase _),
    Fields.get?_erase hsorted, hget]
  simp only [List.forall_mem_cons, ← Fields.get?_eq_none_iff] at hfree
  by_cases htype : k = "type"
  · rw [if_pos htype, htype, hfree.2.2.1]
  · by_cases hfields : k = "fields"
    · rw [if_neg htype, if_pos hfields, hfields, hfree.2.1]
    · by_cases hquery : k = "query"
      · rw [if_neg htype, if_neg hfields, if_pos hquery, hquery, hfree.1]
      · simp [htype, hfields, hquery]

theorem count_asRead {least : Option Nat} (h : ∀ n ∈ least, n < 0x100000000) :
    least.map (· % 0x100000000) = least := by
  cases least with
  | none => rfl
  | some n => exact congrArg some (Nat.mod_eq_of_lt (h n rfl))

mutual

theorem asRead_of_readable : ∀ q : Query, q.Readable → q.asRead = q
  | .matchAll, _ => rfl
  | .term _ _, _ => rfl
  | .terms _ _, _ => rfl
  | .range _ _, _ => rfl
  | .exists _, _ => rfl
  | .wildcard _ _ _, _ => rfl
  | .regexp _ _ _, _ => rfl
  | .multiMatch text fields matchType _, h => by
    rw [asRead, parametersRead_eq text fields matchType h.1 h.2]
  | .nested _ q _, h => by rw [asRead, asRead_of_readable q h]
  | .bool must filter should mustNot least, h => by
    obtain ⟨hmust, hfilter, hshould, hnot, hleast⟩ := h
    rw [asRead, allAsRead_of_readable must hmust, allAsRead_of_readable filter hfilter,
      allAsRead_of_readable should hshould, allAsRead_of_readable mustNot hnot,
      count_asRead hleast]

theorem allAsRead_of_readable : ∀ qs : List Query, AllReadable qs → allAsRead qs = qs
  | [], _ => rfl
  | q :: qs, h => by rw [allAsRead, asRead_of_readable q h.1, allAsRead_of_readable qs h.2]

end

/-! ## Reading members -/

theorem memberQuery_eq (k : String) (members : Fields Json) :
    memberQuery k members = (members.get? k).map ofJson := by
  induction members with
  | nil => rfl
  | cons p rest ih =>
    obtain ⟨l, j⟩ := p
    rw [memberQuery, Fields.get?_cons, ih]
    split <;> rfl

theorem memberQueries_of_none {k : String} {members : Fields Json}
    (h : members.get? k = none) : memberQueries k members = .ok [] := by
  induction members with
  | nil => rfl
  | cons p rest ih =>
    obtain ⟨l, j⟩ := p
    rw [Fields.get?_cons] at h
    split at h
    · cases h
    · rename_i hk
      cases j <;> rw [memberQueries, if_neg hk, ih h] <;> exact nofun

theorem memberQueries_of_items {k : String} {members : Fields Json} {items : List Json}
    (h : members.get? k = some (.arr items)) : memberQueries k members = ofJsons items := by
  induction members with
  | nil => cases h
  | cons p rest ih =>
    obtain ⟨l, j⟩ := p
    rw [Fields.get?_cons] at h
    split at h
    · rename_i hk
      cases h
      rw [memberQueries, if_pos hk]
    · rename_i hk
      cases j <;> rw [memberQueries, if_neg hk, ih h] <;> exact nofun

/-- A list of queries that a member writes, or that is not written since it
is empty. -/
theorem memberQueries_eq {k : String} {members : Fields Json} {qs : List Query}
    (h : members.get? k = if toJsons qs ≠ [] then some (.arr (toJsons qs)) else none)
    (hqs : ofJsons (toJsons qs) = .ok (allAsRead qs)) :
    memberQueries k members = .ok (allAsRead qs) := by
  by_cases hempty : toJsons qs = []
  · rw [if_neg (not_not_intro hempty)] at h
    rw [memberQueries_of_none h]
    cases qs with
    | nil => rfl
    | cons q qs => simp [toJsons] at hempty
  · rw [if_pos hempty] at h
    rw [memberQueries_of_items h, hqs]

/-! ## Queries without parts -/

theorem readRange_toJson (f : String) (b : Bounds) :
    readRange (single f b.toJson) = .ok (.range f b) := by
  have hget : ∀ k, b.toJson.get? k = _ := fun k => get?_object k _
  have hread : readRange (single f b.toJson) = .ok (.range f
    ⟨b.toJson.get? "gt", b.toJson.get? "gte", b.toJson.get? "lt", b.toJson.get? "lte"⟩) := rfl
  rw [hread]
  simp [hget, Fields.get?_ofList_append, get?_optional]

theorem readPattern_toJson (kind f pattern : String) (anyCase : Bool) :
    readPattern kind (single f
      (Json.object [("value", .str pattern), ("case_insensitive", .bool anyCase)])) =
      .ok (f, pattern, anyCase) := by
  let members : Fields Json :=
    Fields.ofList [("value", .str pattern), ("case_insensitive", .bool anyCase)]
  have hpattern : (Fields.get? members "value").bind Json.text? = some pattern := by
    simp [members, Fields.get?_ofList_cons, Fields.get?_ofList_nil, Json.text?]
  have hcase : (Fields.get? members "case_insensitive").bind Json.bool? = some anyCase := by
    simp [members, Fields.get?_ofList_cons, Fields.get?_ofList_nil, Json.bool?]
  have hread : readPattern kind (single f (.obj members)) = do
      let pattern ← need ((Fields.get? members "value").bind Json.text?)
        s!"{kind} on '{f}' needs a value"
      return (f, pattern, ((Fields.get? members "case_insensitive").bind Json.bool?).getD false) :=
    rfl
  rw [Json.object, hread, hpattern, hcase]
  rfl

theorem matchType_ofName?_name (m : MatchType) : MatchType.ofName? m.name = some m := by
  cases m <;> rfl

theorem texts_eq_some (ss : List String) : Wire.list Wire.text (Json.texts ss) = some ss := by
  rw [Json.texts, Wire.list, List.mapM_map]
  induction ss with
  | nil => rfl
  | cons s ss ih =>
    rw [List.mapM_cons, ih]
    rfl

theorem readMultiMatch_toJson (text : String) (fields : List String) (matchType : MatchType)
    (parameters : Fields Json) :
    readMultiMatch (.obj (Fields.extend parameters [("query", .str text),
      ("fields", Json.texts fields), ("type", .str matchType.name)])) =
      .ok (.multiMatch text fields matchType
        (parametersRead text fields matchType parameters)) := by
  rw [parametersRead]
  generalize hms : Fields.extend parameters [("query", Json.str text),
    ("fields", Json.texts fields), ("type", .str matchType.name)] = ms
  have hget : ∀ k, Fields.get? ms k = _ := fun k => by
    rw [← hms, Fields.get?_extend, Fields.get?_ofList_cons, Fields.get?_ofList_cons,
      Fields.get?_ofList_cons, Fields.get?_ofList_nil]
  have hread : readMultiMatch (.obj ms) = do
      let text ← need ((Fields.get? ms "query").bind Json.text?) "multi_match needs a query"
      let fields ← shaped (Wire.list Wire.text) textsComplaint (Fields.get? ms "fields")
      let matchType ← shaped (Wire.name MatchType.ofName?) matchTypeComplaint
        (Fields.get? ms "type")
      return .multiMatch text (fields.getD []) (matchType.getD .bestFields)
        (((Fields.erase ms "query").erase "fields").erase "type") := rfl
  rw [hread, hget, hget, hget]
  simp [shaped, need, texts_eq_some, Json.text?, Wire.name, matchType_ofName?_name,
    Bind.bind, Except.bind, pure, Except.pure]

/-! ## All queries -/

mutual

theorem ofJson_toJson_eq : ∀ q : Query, ofJson q.toJson = .ok q.asRead
  | .matchAll => rfl
  | .term _ _ => rfl
  | .terms _ _ => rfl
  | .range f b => readRange_toJson f b
  | .exists _ => rfl
  | .wildcard f pattern anyCase => by
    have hread : ofJson (wildcard f pattern anyCase).toJson = do
      let (f, pattern, anyCase) ← readPattern "wildcard" (single f
        (Json.object [("value", .str pattern), ("case_insensitive", .bool anyCase)]))
      return .wildcard f pattern anyCase := rfl
    rw [hread, readPattern_toJson]
    rfl
  | .regexp f pattern anyCase => by
    have hread : ofJson (regexp f pattern anyCase).toJson = do
      let (f, pattern, anyCase) ← readPattern "regexp" (single f
        (Json.object [("value", .str pattern), ("case_insensitive", .bool anyCase)]))
      return .regexp f pattern anyCase := rfl
    rw [hread, readPattern_toJson]
    rfl
  | .multiMatch text fields matchType parameters => by
    rw [toJson, single, ofJson, if_neg (by decide), if_neg (by decide)]
    exact readMultiMatch_toJson text fields matchType parameters
  | .nested path q innerHits => by
    have hget : ∀ k, Fields.get? (Fields.ofList ([("path", .str path), ("query", q.toJson)] ++
        optional "inner_hits" innerHits)) k = _ := fun k => by
      rw [Fields.get?_ofList_append, get?_optional, Fields.get?_ofList_cons,
        Fields.get?_ofList_cons, Fields.get?_ofList_nil]
    rw [toJson, single, Json.object, ofJson, if_pos rfl, memberQuery_eq, hget, hget, hget]
    simp [ofJson_toJson_eq q, asRead, need, Json.text?, Bind.bind, Except.bind, pure, Except.pure]
  | .bool must filter should mustNot least => by
    have hget : ∀ k, Fields.get? (Fields.ofList (unlessEmpty "must" (toJsons must) ++
        unlessEmpty "filter" (toJsons filter) ++ unlessEmpty "should" (toJsons should) ++
        unlessEmpty "must_not" (toJsons mustNot) ++
        optional "minimum_should_match" (least.map Json.ofNat))) k = _ := fun k => by
      rw [Fields.get?_ofList_append, Fields.get?_ofList_append, Fields.get?_ofList_append,
        Fields.get?_ofList_append, get?_optional, get?_unlessEmpty, get?_unlessEmpty,
        get?_unlessEmpty, get?_unlessEmpty]
    have hread : ((least.map Json.ofNat).bind Json.nat?).map (· % 0x100000000) =
        least.map (· % 0x100000000) := by
      cases least <;> rfl
    rw [toJson, single, Json.object, ofJson, if_neg (by decide), if_pos rfl,
      memberQueries_eq (by rw [hget]; simp) (ofJsons_toJsons_eq must),
      memberQueries_eq (by rw [hget]; simp) (ofJsons_toJsons_eq filter),
      memberQueries_eq (by rw [hget]; simp) (ofJsons_toJsons_eq should),
      memberQueries_eq (by rw [hget]; simp) (ofJsons_toJsons_eq mustNot), readLeast, hget,
      if_pos rfl, if_neg (by simp), if_neg (by simp), if_neg (by simp), if_neg (by simp),
      Option.or_none, Option.or_none, Option.or_none, Option.or_none, hread]
    rfl

theorem ofJsons_toJsons_eq : ∀ qs : List Query, ofJsons (toJsons qs) = .ok (allAsRead qs)
  | [] => rfl
  | q :: qs => by
    rw [toJsons, ofJsons, ofJson_toJson_eq q, ofJsons_toJsons_eq qs]
    rfl

end

/-- A query is read from the document that writes it. -/
theorem ofJson_toJson (q : Query) (h : q.Readable) : ofJson q.toJson = .ok q := by
  rw [ofJson_toJson_eq, asRead_of_readable q h]

end Query

end EntityStore.Search
