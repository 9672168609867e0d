-- The conflicts of a batch. An item is in conflict under a unique field where it shares its
-- value there, in its scope, with another item of the batch or with a stored record that is
-- not the item itself. One search finds the stored records for all items and fields, and
-- the report of the check has all conflicts and nothing else.
import EntityStore.Proofs.Batch.Rechecking
import EntityStore.Proofs.Batch.Reports

namespace EntityStore

/-! ## Values that are searched for -/

namespace Value

variable {v w : Value}

-- Values that are equal are of one kind, or are numbers. These compare by their order.
theorem compareUnwrapped_of_beq (hv : v.isNull = false) (h : (v == w) = true) :
    compareUnwrapped v w = some (order v w) := by
  have horder : (order v w).isEq = true := h
  cases v with
  | null => cases hv
  | _ => cases w <;> first
    | cases horder
    | rfl

/-- A plain value finds what is shown as a value that equals it. -/
theorem agrees_of_shown (hwhole : ∀ n, w = .int n → n ≤ maxInt) (hv : v.IsPlain)
    (h : (ofJson w.toJson == v) = true) : agrees w v = true := by
  obtain ⟨k, hk⟩ := hv
  have hshown : (ofJson w.toJson).isNull = false := (isNull_of_beq h).trans hk.isNull
  have hunwrap : w.unwrap = ofJson w.toJson := by
    cases w with
    | null => cases hshown
    | bool b => rfl
    | text s => rfl
    | int n =>
      rw [toJson, ofJson, if_pos (hwhole n rfl)]
      rfl
    | float x =>
      rw [toJson] at hshown ⊢
      split
      · rfl
      · rw [if_neg ‹_›] at hshown
        cases hshown
    | json doc => cases doc <;> rfl
  rw [agrees, compares, compare?, hunwrap, hk.unwrap,
    compareUnwrapped_of_beq hshown h, Option.any_some]
  exact h

theorem mem_dropRepeatsOf {kept v : Value} {vs : List Value} (hkept : kept.IsSimple)
    (hvs : ∀ v ∈ vs, v.IsSimple) (hv : v ∈ vs) : v ∈ kept :: dropRepeatsOf kept vs := by
  induction vs generalizing kept with
  | nil => cases hv
  | cons w rest ih =>
    obtain ⟨hw, hrest⟩ := List.forall_mem_cons.mp hvs
    rw [dropRepeatsOf]
    split
    · rename_i hequal
      obtain rfl := (tellsApart_simple w kept hw hkept).mp hequal
      rcases List.mem_cons.mp hv with rfl | hv
      · exact List.mem_cons_self
      · exact ih hkept hrest hv
    · rcases List.mem_cons.mp hv with rfl | hv
      · exact List.mem_cons_of_mem _ List.mem_cons_self
      · exact List.mem_cons_of_mem _ (ih hw hrest hv)

end Value

namespace Batch

open Call (Ends Leads)
open Flat (IsName)
open Relational (inMemory Holds knownColumns hasOneOf)
open Tables (valueAt)

variable {entity : Entity} {settings : Settings} {t : Tables.Table} {columns : Columns}
  {ts : Tables} {docs : List (Fields Json)} {doc : Fields Json} {row : Row} {idField f : String}
  {calm : Prop}

/-! ## The search -/

theorem mem_fieldValues {docs : List (Fields Json)} {f : String}
    (hsimple : ∀ doc ∈ docs, (valueOf doc f).IsSimple) (hdoc : doc ∈ docs)
    (hpresent : (valueOf doc f).isNull = false) : valueOf doc f ∈ fieldValues docs f := by
  have hvalues : ∀ v, v ∈ (docs.filterMap fun doc => Json.present? doc f).map Value.ofJson ↔
      ∃ d ∈ docs, (valueOf d f).isNull = false ∧ valueOf d f = v := by
    intro v
    rw [List.map_filterMap, List.mem_filterMap]
    refine exists_congr fun d => and_congr_right fun _ => ?_
    rw [map_present?]
    cases (valueOf d f).isNull <;> simp
  have hmem : valueOf doc f ∈
      Value.sort ((docs.filterMap fun doc => Json.present? doc f).map Value.ofJson) :=
    List.mem_mergeSort.mpr ((hvalues _).mpr ⟨doc, hdoc, hpresent, rfl⟩)
  have hall : ∀ v ∈ Value.sort ((docs.filterMap fun doc => Json.present? doc f).map Value.ofJson),
      v.IsSimple := by
    intro v hv
    obtain ⟨d, hd, -, rfl⟩ := (hvalues v).mp (List.mem_mergeSort.mp hv)
    exact hsimple d hd
  rw [fieldValues]
  cases hsort : Value.sort ((docs.filterMap fun doc => Json.present? doc f).map Value.ofJson) with
  | nil =>
    rw [hsort] at hmem
    cases hmem
  | cons v rest =>
    rw [hsort] at hmem hall
    obtain ⟨hv, hrest⟩ := List.forall_mem_cons.mp hall
    rcases List.mem_cons.mp hmem with heq | hmem
    · exact List.mem_cons.mpr (.inl heq)
    · exact Value.mem_dropRepeatsOf hv hrest hmem

/-- The records of the rows that have one of the items' values under a unique field. -/
def recordsSharing (e : Entity) (columns : Columns) (t : Tables.Table)
    (docs : List (Fields Json)) : List (Fields Json) :=
  (t.rows.filter fun row => e.uniqueFields.any fun f =>
    hasOneOf columns f (fieldValues docs f) row).map fun row => Row.toJson (Tables.bareColumns row)

theorem sharing?_eq_some {c : Filter.Condition} (h : sharing? docs f = some c) :
    fieldValues docs f ≠ [] ∧ c = .inList f (fieldValues docs f) := by
  unfold sharing? at h
  dsimp only at h
  split at h
  · cases h
  · rename_i hfull
    cases h
    exact ⟨fun hnil => hfull (List.isEmpty_iff.mpr hnil), rfl⟩

/-- Without a search there is no row with one of the items' values. -/
theorem recordsSharing_of_none (h : candidateSearch? entity docs = none) :
    recordsSharing entity columns t docs = [] := by
  have hempty : ∀ f ∈ entity.uniqueFields, fieldValues docs f = [] := by
    unfold candidateSearch? at h
    dsimp only at h
    split at h
    · rename_i hnone
      intro f hf
      by_contra hfull
      have hsome : sharing? docs f = some (.inList f (fieldValues docs f)) :=
        if_neg (by simpa using hfull)
      have hmem := List.mem_filterMap.mpr ⟨f, hf, hsome⟩
      rw [List.isEmpty_iff.mp hnone] at hmem
      cases hmem
    · cases h
  rw [recordsSharing, List.map_eq_nil_iff, List.filter_eq_nil_iff]
  intro row _
  rw [List.any_eq_true]
  rintro ⟨f, hf, hone⟩
  rw [hempty f hf, Relational.hasOneOf_nil] at hone
  cases hone

-- A group with one condition asks for all of its conditions, which is the same.
theorem groupHolds_any_of_ne_nil {s : Plan.Scope} {cs : List Filter.Condition} (h : cs ≠ []) :
    s.GroupHolds row (.any cs) ↔ ∃ c ∈ cs, s.ConditionHolds row c := by
  by_cases hlength : 2 ≤ cs.length
  · exact Filter.groupHolds_any_iff hlength
  · obtain ⟨c, rfl⟩ : ∃ c, cs = [c] := by
      rw [← List.length_eq_one_iff]
      have := List.length_pos_iff.mpr h
      omega
    have hall : s.GroupHolds row (.any [c]) ↔ ∀ d ∈ [c], s.ConditionHolds row d := Iff.rfl
    rw [hall]
    simp

theorem leads_sharing (hknown : ∀ f ∈ entity.uniqueFields, IsName f ∧
      (columns.isEmpty || Fields.contains columns f) = true) {c : Criteria}
    (hc : candidateSearch? entity docs = some c) :
    Leads (Holds calm entity t columns ts) ((inMemory entity settings).search c)
      (fun out s => out.rows = recordsSharing entity columns t docs ∧
        Holds calm entity t columns ts s) (fun _ => ¬ calm) := by
  let scope := (inMemory entity settings).scope columns
  obtain ⟨hfull, rfl⟩ := candidateSearch?_eq_some hc
  obtain ⟨cs, hcs⟩ : ∃ cs, cs = entity.uniqueFields.filterMap (sharing? docs) := ⟨_, rfl⟩
  rw [← hcs] at hfull ⊢
  have hconditions : ∀ d, d ∈ cs ↔ ∃ f ∈ entity.uniqueFields, sharing? docs f = some d := by
    intro d
    rw [hcs, List.mem_filterMap]
  have hcompile : scope.Compile [.any cs] := by
    intro g hg d hd
    obtain rfl := List.mem_singleton.mp hg
    obtain ⟨f, hf, hsharing⟩ := (hconditions d).mp hd
    obtain ⟨-, rfl⟩ := sharing?_eq_some hsharing
    exact ⟨_, Plan.Scope.condition_eq_ok_iff.mpr
      ⟨_, Relational.resolve_name entity settings .filter (hknown f hf).1 (hknown f hf).2,
        Filter.predicate?_isIn⟩⟩
  obtain ⟨p, hgroups, -, hpasses⟩ := Plan.Scope.groups_eq_ok hcompile
  have hrows : ∀ row, Sql.passes p row = entity.uniqueFields.any fun f =>
      hasOneOf columns f (fieldValues docs f) row := by
    intro row
    rw [Bool.eq_iff_iff, hpasses, List.forall_mem_singleton, groupHolds_any_of_ne_nil hfull,
      List.any_eq_true]
    constructor
    · rintro ⟨d, hd, hholds⟩
      obtain ⟨f, hf, hsharing⟩ := (hconditions d).mp hd
      obtain ⟨-, rfl⟩ := sharing?_eq_some hsharing
      exact ⟨f, hf, (Relational.conditionHolds_inList (hknown f hf).1 (hknown f hf).2).mp hholds⟩
    · rintro ⟨f, hf, hone⟩
      have hvalues : fieldValues docs f ≠ [] := by
        intro hnil
        rw [hnil, Relational.hasOneOf_nil] at hone
        cases hone
      exact ⟨_, (hconditions _).mpr ⟨f, hf, if_neg (by simpa using hvalues)⟩,
        (Relational.conditionHolds_inList (hknown f hf).1 (hknown f hf).2).mpr hone⟩
  have hsame : Relational.recordsPassing t p = recordsSharing entity columns t docs := by
    rw [Relational.recordsPassing, List.filter_congr fun row _ => hrows row]
    rfl
  rw [← hsame]
  exact Relational.leads_ofGroup hgroups

/-! ## Conflicts -/

/-- The value that a row's record shows under a field. -/
def shown (row : Row) (f : String) : Value := .ofJson (valueAt row f).toJson

/-- The values are equal under a unique field and in its scope. -/
def Shares (e : Entity) (field : String) (v w : String → Value) : Prop :=
  ∀ f ∈ field :: e.uniqueScope, (v f == w f) = true

/-- The row's record shows the identity of the item. A record shows no column with a dot
in its name. -/
structure IsItself (idField : String) (doc : Fields Json) (row : Row) : Prop where
  name : IsName idField
  present : (valueOf doc idField).isNull = false
  equal : (shown row idField == valueOf doc idField) = true

/-- An item has a value under a unique field, and another item or a row that is not the
item itself has it too, in the same scope. -/
structure Conflicts (e : Entity) (idField : String) (rows : List Row) (docs : List (Fields Json))
    (i : Nat) (doc : Fields Json) (field : String) : Prop where
  present : (valueOf doc field).isNull = false
  shared : (∃ j other, docs[j]? = some other ∧ j ≠ i ∧
      Shares e field (valueOf other) (valueOf doc)) ∨
    ∃ row ∈ rows, ¬ IsItself idField doc row ∧ Shares e field (shown row) (valueOf doc)

/-- Some item with this name has a conflict under a unique field. -/
def InConflict (e : Entity) (idField : String) (rows : List Row) (docs : List (Fields Json))
    (name field : String) : Prop :=
  field ∈ e.uniqueFields ∧ ∃ i doc, docs[i]? = some doc ∧ subject idField i doc = name ∧
    Conflicts e idField rows docs i doc field

/-- The unique fields are columns without documents, and the items have whole numbers,
texts, booleans or nothing there and in the scope. -/
structure Checkable (e : Entity) (columns : Columns) (t : Tables.Table)
    (docs : List (Fields Json)) : Prop where
  names : ∀ f, f ∈ e.uniqueFields ∨ f ∈ e.uniqueScope → IsName f
  known : ∀ f ∈ e.uniqueFields, (columns.isEmpty || Fields.contains columns f) = true
  scalar : ∀ f ∈ e.uniqueFields, columns.isJson f = false
  items : ∀ doc ∈ docs, ∀ f ∈ e.uniqueFields, IsSimple e f doc
  whole : ∀ row ∈ t.rows, ∀ f ∈ e.uniqueFields, ∀ n, valueAt row f = .int n → n ≤ Value.maxInt

theorem sameMember_record (hname : IsName f) :
    sameMember (Row.toJson (Tables.bareColumns row)) doc f = (shown row f == valueOf doc f) := by
  rw [sameMember, valueOf_record hname]
  rfl

theorem isSelf_record :
    isSelf idField (Row.toJson (Tables.bareColumns row)) doc = true ↔ IsItself idField doc row := by
  rw [isSelf, isSome_present?, Bool.and_eq_true, Bool.not_eq_true']
  by_cases hname : IsName idField
  · rw [sameMember_record hname]
    exact ⟨fun h => ⟨hname, h.1, h.2⟩, fun h => ⟨h.present, h.equal⟩⟩
  · have hnone : valueOf (Row.toJson (Tables.bareColumns row)) idField = .null := by
      have hget : (Tables.bareColumns row).get? idField = _ :=
        Fields.get?_filter (fun c => !Text.hasChar '.' c) row idField
      rw [valueOf, Row.toJson, Fields.get?_mapValues, hget, if_neg (by simpa [IsName] using hname)]
      rfl
    refine ⟨fun h => ?_, fun h => absurd h.name hname⟩
    rw [sameMember, hnone] at h
    cases (Value.isNull_of_beq h.2).trans h.1

theorem mem_subjects_iff {s : Subject} : s ∈ subjects idField docs ↔
    ∃ i doc, docs[i]? = some doc ∧ s = ⟨subject idField i doc, doc⟩ := by
  rw [subjects, numbered, List.map_map, List.mem_map]
  constructor
  · rintro ⟨⟨doc, i⟩, hmem, rfl⟩
    exact ⟨i, doc, List.mem_zipIdx_iff_getElem?.mp hmem, rfl⟩
  · rintro ⟨i, doc, hi, rfl⟩
    exact ⟨(doc, i), List.mem_zipIdx_iff_getElem?.mpr hi, rfl⟩

namespace Checkable

variable (h : Checkable entity columns t docs)

include h

theorem simple (idField : String) : ∀ f ∈ entity.uniqueFields,
    ∀ s ∈ subjects idField docs, IsSimple entity f s.doc := by
  intro f hf s hs
  obtain ⟨i, doc, hi, rfl⟩ := mem_subjects_iff.mp hs
  exact h.items doc (List.mem_of_getElem? hi) f hf

/-- Among the records that are searched for the item clashes with those of the rows that
share its values and are not the item itself. -/
theorem clashes_iff (hdoc : doc ∈ docs) (hf : f ∈ entity.uniqueFields) :
    Clashes entity idField (recordsSharing entity columns t docs) doc f ↔
      (valueOf doc f).isNull = false ∧ ∃ row ∈ t.rows, ¬ IsItself idField doc row ∧
        Shares entity f (shown row) (valueOf doc) := by
  have hclash : ∀ row, clashes entity idField f (Row.toJson (Tables.bareColumns row)) doc = true ↔
      ¬ IsItself idField doc row ∧ Shares entity f (shown row) (valueOf doc) := by
    intro row
    have hscope : (∀ g ∈ entity.uniqueScope,
        sameMember (Row.toJson (Tables.bareColumns row)) doc g = true) ↔
        ∀ g ∈ entity.uniqueScope, (shown row g == valueOf doc g) = true :=
      forall₂_congr fun g hg => by rw [sameMember_record (h.names g (.inr hg))]
    rw [clashes, Bool.and_eq_true, Bool.and_eq_true, Bool.not_eq_true', ← Bool.not_eq_true,
      isSelf_record, sameMember_record (h.names f (.inl hf)), List.all_eq_true, hscope, and_comm,
      Shares, List.forall_mem_cons]
  rw [Clashes, isSome_present?, Bool.not_eq_true']
  refine and_congr_right fun hpresent => ?_
  constructor
  · rintro ⟨c, hc, hclashes⟩
    obtain ⟨row, hrow, rfl⟩ := List.mem_map.mp hc
    exact ⟨row, (List.mem_filter.mp hrow).1, (hclash row).mp hclashes⟩
  · rintro ⟨row, hrow, hother, hshares⟩
    refine ⟨_, List.mem_map_of_mem (List.mem_filter.mpr ⟨hrow, ?_⟩),
      (hclash row).mpr ⟨hother, hshares⟩⟩
    -- What is shown is not null, so the row has a value, and the search for the item's
    -- value finds it.
    have hequal : (shown row f == valueOf doc f) = true := hshares f List.mem_cons_self
    have hsimple : ∀ d ∈ docs, (valueOf d f).IsSimple := fun d hd =>
      h.items d hd f hf f List.mem_cons_self
    have hplain : (valueOf doc f).IsPlain := (hsimple doc hdoc).resolve_left fun hnull => by
      rw [hnull] at hpresent
      cases hpresent
    obtain ⟨w, hw⟩ : ∃ w, row.get? f = some w := by
      cases hget : row.get? f with
      | some w => exact ⟨w, rfl⟩
      | none =>
        have hnull : shown row f = .null := by
          rw [shown, valueAt, hget]
          rfl
        rw [hnull] at hequal
        cases (Value.isNull_of_beq hequal).trans hpresent
    have hvalue : valueAt row f = w := Tables.valueAt_of_some hw
    rw [List.any_eq_true]
    refine ⟨f, hf, (Relational.hasOneOf_iff (h.scalar f hf)).mpr
      ⟨w, hw, _, mem_fieldValues hsimple hdoc hpresent, ?_⟩⟩
    rw [shown, hvalue] at hequal
    have hwhole : ∀ n, w = .int n → n ≤ Value.maxInt := fun n hn =>
      h.whole row hrow f hf n (hvalue.trans hn)
    exact Value.agrees_of_shown hwhole hplain hequal

/-- Several items with the key of this one are this one and others that share its values. -/
theorem repeated_iff {i : Nat} (hi : docs[i]? = some doc) (hf : f ∈ entity.uniqueFields) :
    Repeated entity f (subjects idField docs) doc ↔ (valueOf doc f).isNull = false ∧
      ∃ j other, docs[j]? = some other ∧ j ≠ i ∧
        Shares entity f (valueOf other) (valueOf doc) := by
  have hcount : ∀ k, (subjects idField docs).countP (fun s => hasKey entity f k s.doc) =
      docs.countP (hasKey entity f k) := by
    intro k
    conv_rhs => rw [← docs_subjects idField docs]
    rw [List.countP_map]
    rfl
  have hsimple := h.items doc (List.mem_of_getElem? hi) f hf
  rw [Repeated, scopedKey?_eq]
  cases hpresent : (valueOf doc f).isNull with
  | true => simp
  | false =>
    have hkey : scopedKey? entity f doc = some ((f :: entity.uniqueScope).map (valueOf doc)) := by
      rw [scopedKey?_eq, hpresent]
      rfl
    have hown := (hasKey_iff (simple_of_key hsimple hkey) hsimple).mpr hkey
    have hshares : ∀ other,
        hasKey entity f ((f :: entity.uniqueScope).map (valueOf doc)) other = true ↔
          Shares entity f (valueOf other) (valueOf doc) := by
      intro other
      rw [hasKey, scopedKey?_eq]
      split
      · rename_i hnull
        refine iff_of_false Bool.false_ne_true fun hshares => ?_
        have hequal := Value.isNull_of_beq (hshares f List.mem_cons_self)
        rw [hnull, hpresent] at hequal
        cases hequal
      · rw [Option.any_some, Value.isEq_orderLists_map, Shares]
    simp only [Bool.false_eq_true, if_false, Option.some.injEq, exists_eq_left', hcount,
      two_le_countP_iff hi hown, hshares, true_and]

/-- The report has the items that are in conflict under a field, and no others. -/
theorem lists_conflicts (idField name f : String) :
    (conflicts entity idField docs (recordsSharing entity columns t docs)).lists name f = true ↔
      InConflict entity idField t.rows docs name f := by
  obtain ⟨hfull, hrepeats⟩ := lists_repeats (ConflictReport.full_empty entity.name)
    (h.simple idField)
  rw [conflicts, (lists_clashing hfull).2, hrepeats, ConflictReport.lists_empty, InConflict]
  constructor
  · rintro ((hno | ⟨hf, s, hs, rfl, hrepeated⟩) | ⟨s, hs, rfl, hf, hclashes⟩)
    · cases hno
    · obtain ⟨i, doc, hi, rfl⟩ := mem_subjects_iff.mp hs
      obtain ⟨hpresent, hother⟩ := (h.repeated_iff hi hf).mp hrepeated
      exact ⟨hf, i, doc, hi, rfl, hpresent, .inl hother⟩
    · obtain ⟨i, doc, hi, rfl⟩ := mem_subjects_iff.mp hs
      obtain ⟨hpresent, hrow⟩ := (h.clashes_iff (List.mem_of_getElem? hi) hf).mp hclashes
      exact ⟨hf, i, doc, hi, rfl, hpresent, .inr hrow⟩
  · rintro ⟨hf, i, doc, hi, rfl, hpresent, hother | hrow⟩
    · exact .inl (.inr ⟨hf, _, mem_subjects_iff.mpr ⟨i, doc, hi, rfl⟩, rfl,
        (h.repeated_iff hi hf).mpr ⟨hpresent, hother⟩⟩)
    · exact .inr ⟨_, mem_subjects_iff.mpr ⟨i, doc, hi, rfl⟩, rfl, hf,
        (h.clashes_iff (List.mem_of_getElem? hi) hf).mpr ⟨hpresent, hrow⟩⟩

/-- A report without conflicts is empty. -/
theorem isEmpty_conflicts (idField : String) :
    (conflicts entity idField docs (recordsSharing entity columns t docs)).isEmpty = true ↔
      ∀ name f, ¬ InConflict entity idField t.rows docs name f := by
  have hfull : (conflicts entity idField docs (recordsSharing entity columns t docs)).Full :=
    (lists_clashing (lists_repeats (ConflictReport.full_empty entity.name) (h.simple idField)).1).1
  rw [hfull.isEmpty_iff]
  exact forall₂_congr fun name f => by rw [← Bool.not_eq_true, h.lists_conflicts]

end Checkable

/-- The uniqueness check reports the items that share a value where they must not, under
all fields where they do, and passes when there are none. -/
theorem a_uniqueness_check_reports_exactly_the_conflicts (settings : Settings) (idField : String)
    (s : Relational.State Tables.Engine) (hcalm : s.timed.state.faults = [])
    (hfind : s.timed.state.tables.find entity.storage = .ok t)
    (hcheckable : Checkable entity (knownColumns entity t s) t docs) :
    ∃ after, after.timed.state.tables = s.timed.state.tables ∧
      (((checkUnique (inMemory entity settings).store idField docs).on s = (.ok (), after) ∧
          ∀ name f, ¬ InConflict entity idField t.rows docs name f) ∨
        ∃ r, (checkUnique (inMemory entity settings).store idField docs).on s =
            (.error (.conflict r), after) ∧
          (∃ name f, InConflict entity idField t.rows docs name f) ∧
          ∀ name f, r.lists name f = true ↔ InConflict entity idField t.rows docs name f) := by
  have hs : Holds True entity t (knownColumns entity t s) s.timed.state.tables s :=
    ⟨⟨rfl, fun _ => hcalm⟩, hfind, rfl⟩
  let found := recordsSharing entity (knownColumns entity t s) t docs
  let r := conflicts entity idField docs found
  have hends : Ends (Holds True entity t (knownColumns entity t s) s.timed.state.tables)
      (checkUnique (inMemory entity settings).store idField docs)
      (fun _ next => r.isEmpty = true ∧ next.timed.state.tables = s.timed.state.tables)
      (fun e next => e = .conflict r ∧ r.isEmpty = false ∧
        next.timed.state.tables = s.timed.state.tables) := by
    refine (ends_checkUnique_report (R := fun rows next => rows = found ∧
      next.timed.state.tables = s.timed.state.tables) (fun c hc => ?_) (fun hnone next hnext => ?_)
      ?_).weaken ?_ fun _ _ h => h
    · exact Ends.weaken (leads_sharing
        (fun f hf => ⟨hcheckable.names f (.inl hf), hcheckable.known f hf⟩) hc)
        (fun out next h => ⟨h.1, h.2.tables⟩) fun _ _ hnot => absurd trivial hnot
    · exact ⟨(recordsSharing_of_none hnone).symm, hnext.tables⟩
    · rintro _ next hfull ⟨rfl, htables⟩
      exact ⟨rfl, hfull, htables⟩
    · rintro _ next ⟨_, hempty, rfl, htables⟩
      exact ⟨hempty, htables⟩
  have hon := hends s hs
  split at hon
  · rename_i after heq
    exact ⟨after, hon.2, .inl ⟨heq, (hcheckable.isEmpty_conflicts idField).mp hon.1⟩⟩
  · rename_i e after heq
    obtain ⟨rfl, hfull, htables⟩ := hon
    refine ⟨after, htables, .inr ⟨r, heq, ?_, hcheckable.lists_conflicts idField⟩⟩
    by_contra hnone
    push Not at hnone
    rw [(hcheckable.isEmpty_conflicts idField).mpr hnone] at hfull
    cases hfull

/-- Of three products one is stored already, and two share a number in the same shop. -/
theorem two_products_and_no_stored_one_share_a_sku :
    let entity : Entity := {
      name := "product"
      storage := "products"
      uniqueFields := ["sku"]
      uniqueScope := ["shop"] }
    let docs : List (Fields Json) := [[("id", .int 1), ("sku", .str "A")],
      [("sku", .str "B"), ("shop", .null)], [("id", .int 3), ("sku", .str "B")]]
    let t : Tables.Table := {
      shape := .make "products" "id" [("shop", .text), ("sku", .text)] []
      rows := [[("id", .int 1), ("shop", .null), ("sku", .text "A")],
        [("id", .int 2), ("shop", .text "north"), ("sku", .text "B")]] }
    let s : Relational.State Tables.Engine := .initial {} { tables := [("products", t)] }
    ∃ r after, (checkUnique (inMemory entity {}).store "id" docs).on s =
        (.error (.conflict r), after) ∧ r.lists "3" "sku" = true ∧
      ∀ name f, r.lists name f = true ↔ InConflict entity "id" t.rows docs name f := by
  intro entity docs t s
  have hcheckable : Checkable entity (knownColumns entity t s) t docs := {
    names := by
      rintro f (hf | hf)
      · obtain rfl := List.mem_singleton.mp hf
        decide
      · obtain rfl := List.mem_singleton.mp hf
        decide
    known := by decide
    scalar := by decide
    items := show ∀ doc ∈ docs, ∀ f ∈ ["sku"], ∀ g ∈ [f, "shop"], (valueOf doc g).IsSimple by decide
    whole := by
      intro row hrow f hf n hn
      obtain rfl := List.mem_singleton.mp hf
      simp only [t, List.mem_cons, List.not_mem_nil, or_false] at hrow
      rcases hrow with rfl | rfl <;> cases hn }
  have hshares : Shares entity "sku" (valueOf docs[1]) (valueOf docs[2]) :=
    show ∀ f ∈ ["sku", "shop"], (valueOf docs[1] f == valueOf docs[2] f) = true by decide
  have hconflict : InConflict entity "id" t.rows docs "3" "sku" :=
    ⟨List.mem_singleton_self _, 2, docs[2], rfl, by decide, rfl,
      .inl ⟨1, docs[1], rfl, by decide, hshares⟩⟩
  obtain ⟨after, -, ⟨-, hnone⟩ | ⟨r, hon, -, hlists⟩⟩ :=
    a_uniqueness_check_reports_exactly_the_conflicts {} "id" s rfl
      (show s.timed.state.tables.find _ = .ok t from rfl) hcheckable
  · exact absurd hconflict (hnone _ _)
  · exact ⟨r, after, hon, (hlists _ _).mpr hconflict, hlists⟩

/-- A search shows no column with a dot in its name, so where that is the identity a row
is taken for another one than the item it is. -/
theorem a_row_with_a_dotted_identity_is_in_conflict_with_itself :
    let entity : Entity := {
      name := "product"
      storage := "products"
      idField := "meta.id"
      uniqueFields := ["sku"] }
    let doc : Fields Json := [("meta.id", .int 1), ("sku", .str "A")]
    let t : Tables.Table := {
      shape := .make "products" "meta.id" [("sku", .text)] []
      rows := [[("meta.id", .int 1), ("sku", .text "A")]] }
    let s : Relational.State Tables.Engine := .initial {} { tables := [("products", t)] }
    Checkable entity (knownColumns entity t s) t [doc] ∧
      (valueOf doc "meta.id").isNull = false ∧
      (∀ row ∈ t.rows, (valueAt row "meta.id" == valueOf doc "meta.id") = true) ∧
      (checkUnique (inMemory entity {}).store "meta.id" [doc]).failsWith s (fun
        | .conflict r => r.lists "1" "sku"
        | _ => false) = true := by
  intro entity doc t s
  refine ⟨?_, rfl, by decide, by decide +kernel⟩
  exact {
    names := by
      rintro f (hf | hf)
      · obtain rfl := List.mem_singleton.mp hf
        decide
      · cases hf
    known := by decide
    scalar := by decide
    items := show ∀ d ∈ [doc], ∀ f ∈ ["sku"], ∀ g ∈ [f], (valueOf d g).IsSimple by decide
    whole := by
      intro row hrow f hf n hn
      obtain rfl := List.mem_singleton.mp hf
      obtain rfl := List.mem_singleton.mp hrow
      cases hn }

end Batch

end EntityStore
