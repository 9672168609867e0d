-- What the document of a query keeps of it. A query is read back from its
-- document as it was, unless a parameter of a text search in it goes by the
-- name of another part of that search: the part takes the parameter's place.
-- What is read writes the same document either way.
import EntityStore.Proofs.Search.Reading

namespace EntityStore.Search.Query

/-! ## Queries that keep all their parts -/

mutual

/-- Parameters are in the order of their names, and counts have 32 bits. -/
def WellFormed : Query → Prop
  | .multiMatch _ _ _ parameters => Fields.Ordered parameters
  | .nested _ q _ => q.WellFormed
  | .bool must filter should mustNot least =>
    AllWellFormed must ∧ AllWellFormed filter ∧ AllWellFormed should ∧ AllWellFormed mustNot ∧
      ∀ n ∈ least, n < 0x100000000
  | _ => True

def AllWellFormed : List Query → Prop
  | [] => True
  | q :: qs => q.WellFormed ∧ AllWellFormed qs

end

mutual

/-- No parameter of a text search goes by the name of another part of it. -/
def Unambiguous : Query → Prop
  | .multiMatch _ _ _ parameters =>
    ∀ k ∈ ["query", "fields", "type"], k ∉ Fields.keys parameters
  | .nested _ q _ => q.Unambiguous
  | .bool must filter should mustNot _ =>
    AllUnambiguous must ∧ AllUnambiguous filter ∧ AllUnambiguous should ∧ AllUnambiguous mustNot
  | _ => True

def AllUnambiguous : List Query → Prop
  | [] => True
  | q :: qs => q.Unambiguous ∧ AllUnambiguous qs

end

mutual

theorem readable_of_unambiguous : ∀ q : Query, q.WellFormed → q.Unambiguous → q.Readable
  | .matchAll, _, _ => trivial
  | .term _ _, _, _ => trivial
  | .terms _ _, _, _ => trivial
  | .range _ _, _, _ => trivial
  | .exists _, _, _ => trivial
  | .wildcard _ _ _, _, _ => trivial
  | .regexp _ _ _, _, _ => trivial
  | .multiMatch _ _ _ _, hq, hfree => ⟨hq, hfree⟩
  | .nested _ q _, hq, hfree => readable_of_unambiguous q hq hfree
  | .bool must filter should mustNot _, hq, hfree => by
    obtain ⟨hmust, hfilter, hshould, hnot, hleast⟩ := hq
    obtain ⟨hmust', hfilter', hshould', hnot'⟩ := hfree
    exact ⟨allReadable_of_unambiguous must hmust hmust',
      allReadable_of_unambiguous filter hfilter hfilter',
      allReadable_of_unambiguous should hshould hshould',
      allReadable_of_unambiguous mustNot hnot hnot', hleast⟩

theorem allReadable_of_unambiguous :
    ∀ qs : List Query, AllWellFormed qs → AllUnambiguous qs → AllReadable qs
  | [], _, _ => trivial
  | q :: qs, hqs, hfree =>
    ⟨readable_of_unambiguous q hqs.1 hfree.1, allReadable_of_unambiguous qs hqs.2 hfree.2⟩

end

/-! ## Parameters -/

section

variable {text : String} {fields : List String} {matchType : MatchType} {parameters : Fields Json}

theorem ordered_parametersRead (h : Fields.Ordered parameters) :
    Fields.Ordered (parametersRead text fields matchType parameters) :=
  (((h.extend _).erase _).erase _).erase _

theorem get?_parametersRead (h : Fields.Ordered parameters) (k : String) :
    Fields.get? (parametersRead text fields matchType parameters) k =
      if k ∈ ["query", "fields", "type"] then none else Fields.get? parameters k := by
  have hsorted := h.extend [("query", Json.str text), ("fields", Json.texts fields),
    ("type", .str matchType.name)]
  rw [parametersRead, Fields.get?_erase ((hsorted.erase _).erase _),
    Fields.get?_erase (hsorted.erase _), Fields.get?_erase hsorted, Fields.get?_extend,
    Fields.get?_ofList_cons, Fields.get?_ofList_cons, Fields.get?_ofList_cons,
    Fields.get?_ofList_nil]
  by_cases htype : k = "type"
  · simp [htype]
  · by_cases hfields : k = "fields"
    · simp [hfields]
    · by_cases hquery : k = "query"
      · simp [hquery]
      · simp [htype, hfields, hquery]

/-- The parts that were taken out are written again over what was left. -/
theorem extend_parametersRead (h : Fields.Ordered parameters) :
    Fields.extend (parametersRead text fields matchType parameters) [("query", .str text),
      ("fields", Json.texts fields), ("type", .str matchType.name)] =
    Fields.extend parameters [("query", .str text), ("fields", Json.texts fields),
      ("type", .str matchType.name)] := by
  apply ((ordered_parametersRead h).extend _).ext (h.extend _)
  intro k
  rw [Fields.get?_extend, Fields.get?_extend, get?_parametersRead h]
  split
  · rename_i hk
    -- Each of these names is written, so that what was under it does not count.
    have hpart : ∃ v, Fields.get? (Fields.ofList [("query", Json.str text),
        ("fields", Json.texts fields), ("type", .str matchType.name)]) k = some v := by
      simp only [List.mem_cons, List.not_mem_nil, or_false] at hk
      rcases hk with rfl | rfl | rfl
      · exact ⟨.str text, by simp [Fields.get?_ofList_cons, Fields.get?_ofList_nil]⟩
      · exact ⟨Json.texts fields, by simp [Fields.get?_ofList_cons, Fields.get?_ofList_nil]⟩
      · exact ⟨.str matchType.name, by simp [Fields.get?_ofList_cons, Fields.get?_ofList_nil]⟩
    obtain ⟨v, hv⟩ := hpart
    rw [hv]
    rfl
  · rfl

end

/-! ## Reading and writing again -/

mutual

/-- A query that is read as it was has no parameter in the place of a part. -/
theorem unambiguous_of_asRead : ∀ q : Query, q.WellFormed → q.asRead = q → q.Unambiguous
  | .matchAll, _, _ => trivial
  | .term _ _, _, _ => trivial
  | .terms _ _, _, _ => trivial
  | .range _ _, _, _ => trivial
  | .exists _, _, _ => trivial
  | .wildcard _ _ _, _, _ => trivial
  | .regexp _ _ _, _, _ => trivial
  | .multiMatch text fields matchType parameters, hq, hread => by
    intro k hk
    have hget : (parametersRead text fields matchType parameters).get? k = _ :=
      get?_parametersRead hq k
    rw [asRead] at hread
    injection hread with _ _ _ hparameters
    rw [if_pos hk, hparameters] at hget
    exact Fields.get?_eq_none_iff.mp hget
  | .nested path q innerHits, hq, hread => by
    rw [asRead] at hread
    injection hread with _ hinner
    exact unambiguous_of_asRead q hq hinner
  | .bool must filter should mustNot least, hq, hread => by
    obtain ⟨hmust, hfilter, hshould, hnot, -⟩ := hq
    rw [asRead] at hread
    injection hread with hmust' hfilter' hshould' hnot'
    exact ⟨allUnambiguous_of_asRead must hmust hmust',
      allUnambiguous_of_asRead filter hfilter hfilter',
      allUnambiguous_of_asRead should hshould hshould',
      allUnambiguous_of_asRead mustNot hnot hnot'⟩

theorem allUnambiguous_of_asRead :
    ∀ qs : List Query, AllWellFormed qs → allAsRead qs = qs → AllUnambiguous qs
  | [], _, _ => trivial
  | q :: qs, hqs, hread => by
    rw [allAsRead] at hread
    injection hread with hhead htail
    exact ⟨unambiguous_of_asRead q hqs.1 hhead, allUnambiguous_of_asRead qs hqs.2 htail⟩

end

mutual

/-- The query that is read writes the document that it was read from. -/
theorem toJson_asRead : ∀ q : Query, q.WellFormed → q.asRead.toJson = q.toJson
  | .matchAll, _ => rfl
  | .term _ _, _ => rfl
  | .terms _ _, _ => rfl
  | .range _ _, _ => rfl
  | .exists _, _ => rfl
  | .wildcard _ _ _, _ => rfl
  | .regexp _ _ _, _ => rfl
  | .multiMatch _ _ _ _, hq => by
    rw [asRead, toJson, toJson, extend_parametersRead hq]
  | .nested _ q _, hq => by
    rw [asRead, toJson, toJson, toJson_asRead q hq]
  | .bool must filter should mustNot _, hq => by
    obtain ⟨hmust, hfilter, hshould, hnot, hleast⟩ := hq
    rw [asRead, toJson, toJson, toJsons_allAsRead must hmust, toJsons_allAsRead filter hfilter,
      toJsons_allAsRead should hshould, toJsons_allAsRead mustNot hnot, count_asRead hleast]

theorem toJsons_allAsRead :
    ∀ qs : List Query, AllWellFormed qs → toJsons (allAsRead qs) = toJsons qs
  | [], _ => rfl
  | q :: qs, hqs => by
    rw [allAsRead, toJsons, toJsons, toJson_asRead q hqs.1, toJsons_allAsRead qs hqs.2]

end

/-- Whatever its parts are, the document of a query is read, and as a query
that writes the same document. It is read as the query itself if and only if
no parameter of a text search goes by the name of another part of it. -/
theorem a_query_is_read_back_unless_a_parameter_hides_a_part {q : Query} (h : q.WellFormed) :
    (∃ r, ofJson q.toJson = .ok r ∧ r.toJson = q.toJson) ∧
      (ofJson q.toJson = .ok q ↔ q.Unambiguous) := by
  have hread := ofJson_toJson_eq q
  refine ⟨⟨q.asRead, hread, toJson_asRead q h⟩, ?_, ?_⟩
  · intro hback
    rw [hread] at hback
    exact unambiguous_of_asRead q h (Except.ok.inj hback)
  · intro hfree
    rw [hread, asRead_of_readable q (readable_of_unambiguous q h hfree)]

/-- A field that is named like a query, a value that looks like one, a bound
that is null, an empty junction, and a text search with a parameter of its own. -/
theorem a_query_with_all_kinds_of_parts_is_read_back :
    let q : Query := .bool [.matchAll, .term "bool" (single "value" (single "match_all" .null))]
      [.range "value" { gt := some .null, le := some (.int 3) }, .terms "" [.arr [], .null],
        .nested "a.b" (.bool [] [] [] [] none) (some .null)]
      [.multiMatch "oak" ["name^2"] .phrase [("operator", .str "and")], .exists "terms"]
      [.wildcard "f" "a*" true, .regexp "f" "" false] (some 0)
    q.WellFormed ∧ ofJson q.toJson = .ok q := by
  intro q
  have hq : q.WellFormed := by
    simp [q, WellFormed, AllWellFormed, Fields.Ordered]
  have hfree : q.Unambiguous := by
    simp [q, Unambiguous, AllUnambiguous, Fields.keys]
  exact ⟨hq, (a_query_is_read_back_unless_a_parameter_hides_a_part hq).2.mpr hfree⟩

/-- A parameter named like a part is lost. -/
example : ofJson (.multiMatch "oak" [] .phrase [("type", .null)] : Query).toJson =
    .ok (.multiMatch "oak" [] .phrase []) := ofJson_toJson_eq _

end EntityStore.Search.Query
