-- Flat records in an index. Conditions, groups and sorts say of their
-- documents what they say of the records.
import EntityStore.Proofs.Indices.Writing
import EntityStore.Proofs.Store.Documents
import EntityStore.Proofs.Value.Distinct

namespace EntityStore.Flat

open EntityStore.Filter (Condition Group)
open Indices (Holds finds valuesAt)

variable {e : Entity} {columns : Columns} {kinds : String → Kind} {records : List (Fields Json)}

/-! ## Values of documents -/

/-- The values at a name are the one of the record, if it has one. -/
theorem values_of_allows {k : Kind} {r : Fields Json} {f : String} (hname : IsName f)
    (hallowed : k.Allows (value r f)) :
    (valuesAt (.obj r) f).map Value.ofJson = if (value r f).isNull then [] else [value r f] := by
  have hreached : valuesAt (.obj r) f =
      ((Fields.get? r f).toList ++ []).flatMap Indices.spread := by
    rw [valuesAt, Text.split_of_hasChar_eq_false hname]
    rfl
  rw [hreached, List.append_nil]
  unfold value at hallowed ⊢
  cases hj : Fields.get? r f with
  | none => rfl
  | some j =>
    rw [hj, Option.map_some, Option.getD_some] at hallowed
    have hspread : Indices.spread j = if j.isNull then [] else [j] := by
      cases j with
      | arr items => exact absurd hallowed (k.not_allows_json _)
      | _ => rfl
    rw [Option.map_some, Option.getD_some, Value.isNull_ofJson, Option.toList_some,
      List.flatMap_singleton, hspread]
    split <;> rfl

theorem value_of_mem {k : Kind} {r : Fields Json} {f : String} (hname : IsName f)
    (hallowed : k.Allows (value r f)) {j : Json} (hj : j ∈ valuesAt (.obj r) f) :
    Value.ofJson j = value r f ∧ k.Has (value r f) := by
  have hmem := List.mem_map_of_mem (f := Value.ofJson) hj
  rw [values_of_allows hname hallowed] at hmem
  split at hmem
  · cases hmem
  · rename_i hnull
    exact ⟨List.mem_singleton.mp hmem,
      hallowed.resolve_left fun heq => hnull (Value.isNull_iff.mpr heq)⟩

theorem values_document (h : Fits e columns kinds records) {r : Fields Json} (hr : r ∈ records)
    {f : String} (hname : IsName f) :
    (valuesAt (.obj r) f).map Value.ofJson = if (value r f).isNull then [] else [value r f] :=
  values_of_allows hname (h.allowed r hr f)

/-- Some value of a document passes a test when the value of the record
does. -/
theorem any_document (h : Fits e columns kinds records) {r : Fields Json} (hr : r ∈ records)
    {f : String} (hname : IsName f) (test : Value → Bool) :
    ((valuesAt (.obj r) f).any fun j => test (Value.ofJson j)) =
      (!(value r f).isNull && test (value r f)) := by
  have hmap : ((valuesAt (.obj r) f).any fun j => test (Value.ofJson j)) =
      ((valuesAt (.obj r) f).map Value.ofJson).any test := List.any_map.symm
  rw [hmap, values_document h hr hname]
  cases (value r f).isNull <;> simp

theorem finds_exists (h : Fits e columns kinds records) {r : Fields Json} (hr : r ∈ records)
    {f : String} (hname : IsName f) : finds (.exists f) (.obj r) = !(value r f).isNull := by
  have hany := any_document h hr hname fun _ => true
  rw [Bool.and_true] at hany
  rw [finds, ← hany]
  cases valuesAt (.obj r) f <;> simp

/-! ## Clauses -/

theorem finds_presentBut {f : String} {q : Search.Query} {doc : Json} :
    finds (Search.presentBut f q) doc = (finds (.exists f) doc && !finds q doc) := by
  rw [Bool.eq_iff_iff, Search.presentBut, Indices.finds_bool_iff, Indices.leastHits_nil]
  simp

theorem finds_term (h : Fits e columns kinds records) {r : Fields Json} (hr : r ∈ records)
    {f : String} (hname : IsName f) {v : Value} (hv : (kinds f).Has v) :
    finds (Search.termOf f v) (.obj r) = (!(value r f).isNull && value r f == v) := by
  rw [Search.termOf, finds]
  unfold Indices.sameValue
  rw [hv.ofJson_toJson]
  exact any_document h hr hname (· == v)

theorem finds_terms (h : Fits e columns kinds records) {r : Fields Json} (hr : r ∈ records)
    {f : String} (hname : IsName f) {vs : List Value} (hvs : ∀ v ∈ vs, (kinds f).Has v) :
    finds (Search.termsOf f vs) (.obj r) = (!(value r f).isNull && vs.any (value r f == ·)) := by
  rw [Search.termsOf, finds]
  simp only [Indices.any_sameValue hvs]
  exact any_document h hr hname fun w => vs.any (w == ·)

theorem finds_range (h : Fits e columns kinds records) {r : Fields Json} (hr : r ∈ records)
    {f : String} (hname : IsName f) {bounds : Search.Bounds} (test : Value → Bool)
    (hwithin : ∀ j, Indices.within bounds j = test (Value.ofJson j)) :
    finds (.range f bounds) (.obj r) = (!(value r f).isNull && test (value r f)) := by
  rw [finds, ← any_document h hr hname test]
  simp only [← hwithin]

/-- A range with one bound. -/
theorem finds_bound (h : Fits e columns kinds records) {r : Fields Json} (hr : r ∈ records)
    {f : String} (hname : IsName f) {v : Value} (hv : (kinds f).Has v) {bounds : Search.Bounds}
    (accept : Ordering → Bool) (hwithin : ∀ j, Indices.within bounds j =
      Value.compares accept (Value.ofJson j) (Value.ofJson v.toJson)) :
    finds (.range f bounds) (.obj r) =
      (!(value r f).isNull && accept (Value.order (value r f) v)) := by
  rw [hv.ofJson_toJson] at hwithin
  rw [finds_range h hr hname (Value.compares accept · v) hwithin,
    (h.allowed r hr f).compares hv, ← Bool.and_assoc, Bool.and_self]

/-- The clause of an operator says of a document what the operator asks of
the value. -/
theorem clause_document (h : Fits e columns kinds records) {f : String} (hname : IsName f)
    {op : Filter.Operator} {operand : Filter.Operand} (hop : Filter.Accepts (kinds f) op operand) :
    ∃ clause, Search.clause? f op operand = some clause ∧
      ∀ r ∈ records, Holds clause (.obj r) ↔ holds ⟨f, op, operand⟩ r = true := by
  have hplain : ∀ {q : Search.Query}, (∀ r ∈ records, finds q (.obj r) = holds ⟨f, op, operand⟩ r) →
      ∀ r ∈ records, Holds ⟨q, false⟩ (.obj r) ↔ holds ⟨f, op, operand⟩ r = true := by
    intro q hq r hr
    rw [Holds, hq r hr]
    rfl
  have hpresent : ∀ n a : Bool, (!n && !(!n && a)) = (!n && !a) := by decide
  cases hop with
  | scalar hop hv =>
    simp only [List.mem_cons, List.not_mem_nil, or_false] at hop
    rcases hop with rfl | rfl | rfl | rfl | rfl | rfl
    · exact ⟨_, rfl, hplain fun r hr => finds_term h hr hname hv⟩
    · refine ⟨_, rfl, hplain fun r hr => ?_⟩
      rw [finds_presentBut, finds_exists h hr hname, finds_term h hr hname hv, hpresent]
      rfl
    · refine ⟨_, rfl, hplain fun r hr => finds_bound h hr hname hv Ordering.isLT fun j => ?_⟩
      simp [Indices.within, Indices.respects]
    · refine ⟨_, rfl, hplain fun r hr => finds_bound h hr hname hv Ordering.isLE fun j => ?_⟩
      simp [Indices.within, Indices.respects]
    · refine ⟨_, rfl, hplain fun r hr => finds_bound h hr hname hv Ordering.isGT fun j => ?_⟩
      simp [Indices.within, Indices.respects]
    · refine ⟨_, rfl, hplain fun r hr => finds_bound h hr hname hv Ordering.isGE fun j => ?_⟩
      simp [Indices.within, Indices.respects]
  | list hop hvs =>
    simp only [List.mem_cons, List.not_mem_nil, or_false] at hop
    rcases hop with rfl | rfl
    · exact ⟨_, rfl, hplain fun r hr => finds_terms h hr hname hvs⟩
    · refine ⟨_, rfl, hplain fun r hr => ?_⟩
      rw [finds_presentBut, finds_exists h hr hname, finds_terms h hr hname hvs, hpresent,
        List.not_any_eq_all_not]
      rfl
  | @range low high hlow hhigh =>
    refine ⟨_, rfl, hplain fun r hr => ?_⟩
    have hboth : ∀ n a b : Bool, (!n && (!n && a && (!n && b))) = (!n && (a && b)) := by decide
    rw [finds_range h hr hname fun w =>
      Value.compares Ordering.isGE w low && Value.compares Ordering.isLE w high,
      (h.allowed r hr f).compares hlow, (h.allowed r hr f).compares hhigh, hboth]
    · rfl
    · intro j
      simp [Indices.within, Indices.respects, hlow.ofJson_toJson, hhigh.ofJson_toJson]
  | absent hop =>
    simp only [List.mem_cons, List.not_mem_nil, or_false] at hop
    rcases hop with rfl | rfl | rfl
    · exact ⟨_, rfl, hplain fun r hr => (finds_exists h hr hname).trans (Bool.and_true _).symm⟩
    · exact ⟨_, rfl, hplain fun r hr => (finds_exists h hr hname).trans (Bool.and_true _).symm⟩
    · refine ⟨_, rfl, fun r hr => ?_⟩
      rw [Holds, finds_exists h hr hname, Bool.not_inj_iff]
      rfl

/-! ## Groups -/

/-- A condition has a clause, which says of a document what the condition says
of the record. -/
theorem condition_document (h : Fits e columns kinds records) {c : Condition}
    (hname : IsName c.field) (hsuits : c.Suits (kinds c.field)) :
    ∃ clause, Search.condition c = .ok clause ∧
      ∀ r ∈ records, Holds clause (.obj r) ↔ holds c r = true := by
  obtain ⟨clause, hclause, hholds⟩ := clause_document h hname hsuits.accepts
  refine ⟨clause, ?_, hholds⟩
  rw [Search.condition, hclause]

theorem compile_document (h : Fits e columns kinds records) {gs : List Group}
    (hgs : Suit e columns kinds gs) : Search.Compile gs := by
  intro g hg c hc
  obtain ⟨hname, -, hsuits⟩ := hgs g hg c hc
  obtain ⟨clause, hclause, -⟩ := condition_document h hname hsuits
  exact ⟨clause, hclause⟩

theorem conditionHolds_document (h : Fits e columns kinds records) {r : Fields Json}
    (hr : r ∈ records) {c : Condition} (hname : IsName c.field) (hsuits : c.Suits (kinds c.field)) :
    Search.ConditionHolds c (.obj r) ↔ holds c r = true := by
  obtain ⟨clause, hclause, hholds⟩ := condition_document h hname hsuits
  rw [Search.ConditionHolds, ← hholds r hr, hclause]
  simp

/-- Where no path is nested, a group asks for all or one of its conditions of
the document itself. -/
theorem groupHolds_document (h : Fits e columns kinds records) {r : Fields Json} (hr : r ∈ records)
    {g : Group} (hg : ∀ c ∈ g.conditions,
      IsName c.field ∧ c.field ∈ (known e columns).keys ∧ c.Suits (kinds c.field)) :
    Search.GroupHolds e g (.obj r) ↔ passesGroup g r = true := by
  have hpath := Search.nestedPath?_eq_none h.notNested
  have hcondition : ∀ c ∈ g.conditions, Search.ConditionHolds c (.obj r) ↔ holds c r = true :=
    fun c hc => conditionHolds_document h hr (hg c hc).1 (hg c hc).2.2
  rw [Search.GroupHolds, passesGroup]
  cases g.effective with
  | and =>
    simp only [Search.AllHold, hpath, List.all_eq_true]
    constructor
    · exact fun hall c hc => (hcondition c hc).mp (hall.1 c hc trivial)
    · exact fun hall => ⟨fun c hc _ => (hcondition c hc).mpr (hall c hc), by simp⟩
  | or =>
    simp only [Search.SomeHolds, hpath, List.any_eq_true]
    constructor
    · rintro (⟨c, hc, -, hholds⟩ | ⟨path, c, -, hnone, -⟩)
      · exact ⟨c, hc, (hcondition c hc).mp hholds⟩
      · cases hnone
    · rintro ⟨c, hc, hholds⟩
      exact Or.inl ⟨c, hc, trivial, (hcondition c hc).mpr hholds⟩

theorem passesGroup_of_isEmpty {g : Group} (hg : g.isEmpty = true) (r : Fields Json) :
    passesGroup g r = true := by
  have hnil : g.conditions = [] := List.isEmpty_iff.mp hg
  simp [passesGroup, Group.effective, hnil]

theorem finds_groups (h : Fits e columns kinds records) {r : Fields Json} (hr : r ∈ records)
    {gs : List Group} (hgs : Suit e columns kinds gs) (withHits : Bool) :
    finds (Search.junctionOf e withHits [] gs).query (.obj r) = passes gs r := by
  rw [Bool.eq_iff_iff, Search.finds_junctionOf_iff e withHits [] (compile_document h hgs), passes,
    List.all_eq_true]
  constructor
  · rintro ⟨-, hall⟩ g hg
    cases hempty : g.isEmpty with
    | true => exact passesGroup_of_isEmpty hempty r
    | false => exact (groupHolds_document h hr (hgs g hg)).mp (hall g hg hempty)
  · intro hall
    refine ⟨nofun, fun g hg _ => ?_⟩
    exact (groupHolds_document h hr (hgs g hg)).mpr (hall g hg)

/-- A document passes the queries of some groups when its record passes the
groups. -/
theorem passes_document (h : Fits e columns kinds records) {r : Fields Json} (hr : r ∈ records)
    {filters postFilters : List Group} (hfilters : Suit e columns kinds filters)
    (hpost : Suit e columns kinds postFilters) :
    Indices.passes (Search.junctionOf e true [] filters).query (Documents.postQuery e postFilters)
      (.obj r) = (passes filters r && passes postFilters r) := by
  have hpostQuery : (Documents.postQuery e postFilters).all (fun q => finds q (.obj r)) =
      passes postFilters r := by
    rw [Documents.postQuery]
    split
    · rename_i hempty
      rw [Search.junctionOf_isEmpty_iff] at hempty
      refine (List.all_eq_true.mpr fun g hg => ?_).symm
      exact passesGroup_of_isEmpty (hempty g hg) r
    · exact finds_groups h hr hpost false
  rw [Indices.passes, hpostQuery, finds_groups h hr hfilters true, Bool.and_comm]

/-! ## Sorts -/

theorem sortValue_document (h : Fits e columns kinds records) {r : Fields Json} (hr : r ∈ records)
    {f : String} (d : Sql.Direction) (hname : IsName f) (hnull : value r f ≠ .null) :
    (Indices.SortKey.ofField f d).value? (.obj r) = some (value r f) := by
  have hhas := h.has_value hr hnull
  have hvalue : (Indices.SortKey.ofField f d).value? (.obj r) =
      Indices.SortKey.reduce (if d = .desc then .max else .min)
        ((valuesAt (.obj r) f ++ []).map Value.ofJson) := rfl
  rw [hvalue, List.append_nil, values_document h hr hname, hhas.isNull]
  cases d <;> rfl

/-- Documents are sorted as their records are. -/
theorem ranks_document (h : Fits e columns kinds records) {sorts : List SortBy}
    (hsorts : Sorted e columns records sorts) {a b : Fields Json} (ha : a ∈ records)
    (hb : b ∈ records) : Indices.ranks sorts (.obj a) (.obj b) = (order sorts a b).isLE := by
  rw [Indices.ranks]
  congr 1
  induction sorts with
  | nil => rfl
  | cons s sorts ih =>
    rw [Sorted, List.forall_mem_cons] at hsorts
    obtain ⟨⟨hname, -, hvalues⟩, hrest⟩ := hsorts
    have hasValue := h.has_value ha (hvalues a ha)
    have hasOther := h.has_value hb (hvalues b hb)
    have hcons : Indices.orderHits ((s :: sorts).map fun s => .ofField s.field s.direction)
        (Indices.sortKeys (s :: sorts) (.obj a)) (Indices.sortKeys (s :: sorts) (.obj b)) =
        ((Indices.SortKey.ofField s.field s.direction).order
          ((Indices.SortKey.ofField s.field s.direction).value? (.obj a))
          ((Indices.SortKey.ofField s.field s.direction).value? (.obj b))).then
        (Indices.orderHits (sorts.map fun s => .ofField s.field s.direction)
          (Indices.sortKeys sorts (.obj a)) (Indices.sortKeys sorts (.obj b))) := rfl
    rw [hcons, ih hrest, sortValue_document h ha _ hname (hvalues a ha),
      sortValue_document h hb _ hname (hvalues b hb), order]
    congr 1
    rw [Indices.SortKey.order, hasValue.sortOrder hasOther]
    cases s.direction <;> rfl

/-! ## The index -/

/-- An engine whose index the records came into. -/
def indexed (e : Entity) (records : List (Fields Json)) : Indices.Engine :=
  Indices.Engine.seed {} e.storage e.idField (records.map .obj)

/-- The text of the identity of a record. -/
def identity (e : Entity) (j : Json) : String :=
  match j with
  | .obj r => (value r e.idField).key
  | _ => ""

theorem identity_inj (h : Fits e columns kinds records) {a b : Fields Json} (ha : a ∈ records)
    (hb : b ∈ records) (hne : value a e.idField ≠ value b e.idField) :
    identity e (.obj a) ≠ identity e (.obj b) := by
  obtain ⟨m, hm⟩ := (h.identified a ha).eq_int
  obtain ⟨n, hn⟩ := (h.identified b hb).eq_int
  rw [hm, hn] at hne
  rw [identity, identity, hm, hn]
  intro hkey
  exact hne (congrArg Value.int (Value.key_int_inj hkey))

theorem ownId?_record (h : Fits e columns kinds records) {r : Fields Json} (hr : r ∈ records) :
    Indices.Index.ownId? e.idField (.obj r) = some (identity e (.obj r)) := by
  obtain ⟨n, hn⟩ := (h.identified r hr).eq_int
  have hget : (Json.obj r).get? e.idField = Fields.get? r e.idField := rfl
  rw [Indices.Index.ownId?, hget, identity]
  unfold value at hn ⊢
  cases hj : Fields.get? r e.idField with
  | none =>
    rw [hj] at hn
    cases hn
  | some j =>
    rw [hj, Option.map_some, Option.getD_some] at hn
    have hnull : j.isNull = false := by
      rw [← Value.isNull_ofJson, hn]
      rfl
    simp [Option.filter, hnull]

/-- All records come into the index, each as its document, in their order. -/
theorem indexed_eq (h : Fits e columns kinds records) :
    ∃ ix, (indexed e records).find e.storage = .ok ix ∧ (indexed e records).faults = [] ∧
      ix.documents = records.map fun r => ⟨identity e (.obj r), .obj r⟩ := by
  refine ⟨_, Indices.Engine.find_seed _ _ _, rfl, ?_⟩
  have hown : ∀ j ∈ records.map Json.obj,
      Indices.Index.ownId? e.idField j = some (identity e j) := by
    rw [List.forall_mem_map]
    exact fun r hr => ownId?_record h hr
  have hdistinct : (records.map Json.obj).Pairwise fun i j => identity e i ≠ identity e j := by
    rw [List.pairwise_map]
    exact h.distinct.imp_of_mem fun ha hb hne => identity_inj h ha hb hne
  rw [Indices.Index.seed_of_new hown (List.forall_mem_nil _) hdistinct, List.nil_append,
    List.map_map]
  rfl

/-! ## Searches -/

theorem mergeSort_congr {α : Type} {l : List α} {before after : α → α → Bool}
    (h : ∀ a ∈ l, ∀ b ∈ l, before a b = after a b) : l.mergeSort before = l.mergeSort after := by
  have hmap := List.map_mergeSort (f := id) h
  rwa [List.map_id, List.map_id] at hmap

variable {filters postFilters : List Group} {sorts : List SortBy}

/-- A search of the index gives the page of the records that pass. -/
theorem search_index (h : Fits e columns kinds records) (settings : Settings) (page : Page)
    (hfilters : Suit e columns kinds filters) (hpost : Suit e columns kinds postFilters)
    (hsorts : Sorted e columns records sorts) :
    (((Documents.inMemory e settings).search (.ofPage filters postFilters sorts page)).on
      (indexed e records)).1 = .ok {
        rows := ((found filters postFilters sorts records).drop page.offset).take
          (Search.pageSize settings page)
        total := (found filters postFilters sorts records).length } := by
  obtain ⟨ix, hix, hfaults, hdocuments⟩ := indexed_eq h
  have hids : ∀ r ∈ records, Fields.contains r e.idField = true := by
    intro r hr
    rw [Fields.contains, Option.isSome_iff_ne_none]
    intro hnone
    have hid := h.identified r hr
    rw [value, hnone] at hid
    exact hid
  have hfound : (records.filter fun r => Indices.passes
      (Search.junctionOf e true [] filters).query (Documents.postQuery e postFilters)
        (.obj r)).mergeSort (fun a b => Indices.ranks sorts (.obj a) (.obj b)) =
      found filters postFilters sorts records := by
    rw [List.filter_congr fun r hr => passes_document h hr hfilters hpost]
    apply mergeSort_congr
    intro a ha b hb
    exact ranks_document h hsorts (List.mem_filter.mp ha).1 (List.mem_filter.mp hb).1
  have hsearch := Documents.search_ofPage sorts page settings h.notNested
    (compile_document h hfilters) (compile_document h hpost) hfaults hix hdocuments hids
  dsimp only at hsearch
  rw [hfound] at hsearch
  exact hsearch

end EntityStore.Flat
