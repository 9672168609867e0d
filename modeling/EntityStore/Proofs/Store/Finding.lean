-- Looking for the records whose field has one of several values. A table gives
-- every row that has one; an index gives every document up to as many as a
-- search may reach.
import EntityStore.Proofs.Store.Documents
import EntityStore.Proofs.Store.Holding

namespace EntityStore

open Indices (finds valuesAt)

/-! ## Values -/

/-- The value equals one of the values. -/
def Value.isOneOf (vs : List Value) (w : Value) : Bool := vs.any (w == ·)

section

variable {k : Kind} {w : Value} {vs : List Value}

/-- Among values of a kind to equal one of them is to be one of them. -/
theorem Kind.Allows.isOneOf_iff (hw : k.Allows w) (hvs : ∀ v ∈ vs, k.Has v) :
    w.isOneOf vs = true ↔ w ∈ vs := by
  rw [Value.isOneOf, List.any_eq_true]
  constructor
  · rintro ⟨v, hv, heq⟩
    rcases hw with rfl | hw
    · cases v with
      | null => exact hv
      | _ => cases heq
    · rwa [(hw.beq_iff (hvs v hv)).mp heq]
  · intro hmem
    exact ⟨w, hmem, ((hvs w hmem).beq_iff (hvs w hmem)).mpr rfl⟩

/-- Null is no value of a kind. -/
theorem Kind.isOneOf_null (k : Kind) (hvs : ∀ v ∈ vs, k.Has v) : Value.isOneOf vs .null = false := by
  rw [← Bool.not_eq_true, k.allows_null.isOneOf_iff hvs]
  exact fun hmem => k.not_has_null (hvs _ hmem)

end

/-! ## Documents -/

theorem Entity.nestedPath?_of_name {field : String} (hname : Text.hasChar '.' field = false)
    (e : Entity) : e.nestedPath? field = none := by
  have hnone : e.nestedPaths.filter (isUnder · field) = [] := by
    rw [List.filter_eq_nil_iff]
    intro path _ hunder
    have hpoint : '.' ∈ (path ++ ".").toList := by simp
    have hmem : '.' ∈ field.toList := (List.isPrefixOf_iff_prefix.mp hunder).subset hpoint
    simp [Text.hasChar, hmem] at hname
  rw [nestedPath?, hnone]
  rfl

/-- What is at a name in a document is the value of its member. -/
theorem Indices.valuesAt_of_name {field : String} (hname : Text.hasChar '.' field = false)
    (members : Fields Json) :
    valuesAt (.obj members) field = (members.get? field).toList.flatMap spread := by
  have hreached : valuesAt (.obj members) field =
      ((members.get? field).toList ++ []).flatMap spread := by
    rw [valuesAt, Text.split_of_hasChar_eq_false hname]
    rfl
  rw [hreached, List.append_nil]

/-- The value of a document in a field, null where it has none. -/
def Indices.Document.value (d : Document) (field : String) : Value :=
  ((d.source.get? field).map Value.ofJson).getD .null

/-- The values of a kind find the objects whose own value in the field is one
of them. -/
theorem Indices.finds_terms_of_kind {k : Kind} {field : String} {vs : List Value} {d : Document}
    (hname : Text.hasChar '.' field = false) (hvs : ∀ v ∈ vs, k.Has v)
    (hobject : d.source.isObject = true) (hvalue : k.Allows (d.value field)) :
    finds (Search.termsOf field vs) d.source = (d.value field).isOneOf vs := by
  obtain ⟨id, source⟩ := d
  cases source with
  | obj members =>
    rw [Search.termsOf, finds, valuesAt_of_name hname]
    simp only [any_sameValue hvs]
    have hget : (⟨id, .obj members⟩ : Document).value field =
      ((Fields.get? members field).map Value.ofJson).getD .null := rfl
    rw [hget] at hvalue ⊢
    cases hj : Fields.get? members field with
    | none => exact (k.isOneOf_null hvs).symm
    | some j =>
      rw [hj, Option.map_some, Option.getD_some] at hvalue
      cases j with
      | arr items => exact absurd hvalue (k.not_allows_json _)
      | null => exact (k.isOneOf_null hvs).symm
      | _ => simp [spread, Value.isOneOf]
  | _ => cases hobject

namespace Documents

variable {entity : Entity} {field : String}

theorem plan_having (settings : Settings) (vs : List Value) (hname : Text.hasChar '.' field = false) :
    (inMemory entity settings).plan (Store.having field vs) = .ok {
      request := Indices.pageRequest entity.storage (Search.termsOf field vs) none [] 0
        settings.maxWindow
      layouts := []
      distinctWrapped := none } := by
  have hpartition : Search.partition entity (.all [.inList field vs]) =
      .ok (.ofClauses .and [(none, ⟨Search.termsOf field vs, false⟩)]) := by
    have hclauses : Search.partition entity (.all [.inList field vs]) = .ok (.ofClauses .and
        [(entity.nestedPath? field, ⟨Search.termsOf field vs, false⟩)]) := rfl
    rw [hclauses, Entity.nestedPath?_of_name hname]
  have hpartitions : Search.partitions entity [.all [.inList field vs]] =
      .ok [.ofClauses .and [(none, ⟨Search.termsOf field vs, false⟩)]] := by
    have hall : Search.partitions entity [.all [.inList field vs]] =
        (Search.partition entity (.all [.inList field vs])).bind fun p => .ok [p] := rfl
    rw [hall, hpartition]
    rfl
  have hsize : Search.pageSize settings {} = settings.maxWindow := Nat.min_self _
  have hplan : (inMemory entity settings).plan (Store.having field vs) =
      (Search.partitions entity [.all [.inList field vs]]).bind fun ps => .ok {
        request := Indices.pageRequest entity.storage (Search.junction entity true ps).query none []
          0 (Search.pageSize settings {})
        layouts := []
        distinctWrapped := none } := rfl
  rw [hplan, hpartitions, hsize]
  rfl

/-- A search for the documents with one of the values gives those that the
values find, as far as the window goes. -/
theorem on_having (settings : Settings) (vs : List Value)
    (hname : Text.hasChar '.' field = false) {e : Indices.Engine} {ix : Indices.Index}
    (hfaults : e.faults = []) (hix : e.find entity.storage = .ok ix) :
    ∃ out next, ((inMemory entity settings).search (Store.having field vs)).on e = (.ok out, next) ∧
      out.rows = ((ix.documents.filter fun d => finds (Search.termsOf field vs) d.source).take
        settings.maxWindow).map (Indices.Document.record entity.idField) ∧
      next.indices = e.indices := by
  have hplain : Search.Plain (Search.termsOf field vs) := ⟨trivial, fun _ _ => rfl⟩
  have hpost : ∀ p ∈ (none : Option Search.Query), p.Readable := nofun
  have hread := Indices.Request.ofJson_pageRequest entity.storage [] 0 settings.maxWindow
    hplain.readable hpost
  have hraw := engine_search hfaults hix hread (Indices.answer_ofPage entity.storage ix)
  have hsearch := search_of_answer (plan_having settings vs hname) hraw
  rw [Indices.outcome_pageAnswer _ rfl rfl] at hsearch
  -- Without sorts all documents rank alike, so sorting leaves them in their places.
  have hranks : (ix.documents.filter fun d =>
      Indices.passes (Search.termsOf field vs) none d.source).Pairwise fun a b =>
        Indices.ranks [] a.source b.source = true :=
    List.pairwise_of_forall fun _ _ => rfl
  refine ⟨_, _, hsearch, ?_, rfl⟩
  have hshown : ∀ all : List Indices.Hit, List.take
      (Indices.Request.ofPage (Search.termsOf field vs) none [] 0 settings.maxWindow).limit
      (List.drop (Indices.Request.ofPage (Search.termsOf field vs) none [] 0
        settings.maxWindow).offset all) = all.take settings.maxWindow := fun _ => rfl
  simp only [Indices.row_hitJson hplain, Indices.hits_ofPage, List.mergeSort_of_pairwise hranks,
    hshown, ← List.map_take, List.map_map]
  rfl

theorem on_findBy (settings : Settings) (vs : List Value)
    (hname : Text.hasChar '.' field = false) {e : Indices.Engine} {ix : Indices.Index}
    (hfaults : e.faults = []) (hix : e.find entity.storage = .ok ix) :
    ∃ next, ((inMemory entity settings).store.findBy field vs).on e =
        (.ok (((ix.documents.filter fun d => finds (Search.termsOf field vs) d.source).take
          settings.maxWindow).map (Indices.Document.record entity.idField)), next) ∧
      next.indices = e.indices := by
  unfold Store.findBy Store.findWith
  split
  · rename_i hempty
    obtain rfl := List.isEmpty_iff.mp hempty
    have hnone : ∀ d : Indices.Document, finds (Search.termsOf field []) d.source = false := by
      intro d
      simp [Search.termsOf, finds]
    rw [List.filter_eq_nil_iff.mpr fun d _ => by simp [hnone d], List.take_nil]
    exact ⟨e, rfl, rfl⟩
  · obtain ⟨out, next, hsearch, hrows, hnext⟩ := on_having settings vs hname hfaults hix
    have hcall : ((inMemory entity settings).store.search (Store.having field vs)).on e =
      (.ok out, next) := hsearch
    refine ⟨next, ?_, hnext⟩
    rw [Call.on_bind hcall, hrows]
    rfl

end Documents

/-! ## Rows -/

theorem Relational.on_findBy {entity : Entity} {field : String} {t : Tables.Table}
    {columns : Columns} {ts : Tables} {s : State Tables.Engine} (settings : Settings)
    (vs : List Value) (hname : Text.hasChar '.' field = false)
    (hknown : (columns.isEmpty || Fields.contains columns field) = true)
    (hs : Holds True entity t columns ts s) :
    ∃ next, ((inMemory entity settings).store.findBy field vs).on s =
        (.ok (recordsWith columns t field vs), next) ∧ Holds True entity t columns ts next := by
  have hleads : Call.Leads (Holds True entity t columns ts)
      ((inMemory entity settings).store.findBy field vs)
      (fun rows s => rows = recordsWith columns t field vs ∧ Holds True entity t columns ts s)
      (fun _ => ¬ True) := leads_findWith fun _ => ⟨hname, hknown⟩
  obtain ⟨rows, next, hon, rfl, hnext⟩ := hleads.exists_ok hs fun _ h => h trivial
  exact ⟨next, hon, hnext⟩

/-- The records with one of the values of a kind are those of the rows whose
own value in the field is one of them. -/
theorem Relational.recordsWith_of_kind {k : Kind} {field : String} {vs : List Value}
    {columns : Columns} {t : Tables.Table} (hjson : columns.isJson field = false)
    (hvs : ∀ v ∈ vs, k.Has v)
    (hrows : ∀ row ∈ t.rows, k.Allows ((row.get? field).getD .null)) :
    recordsWith columns t field vs =
      (t.rows.filter fun row => ((row.get? field).getD .null).isOneOf vs).map fun row =>
        (Tables.bareColumns row).toJson := by
  have hrow : ∀ row ∈ t.rows, hasOneOf columns field vs row =
      ((row.get? field).getD .null).isOneOf vs := by
    intro row hmem
    have hvalue := hrows row hmem
    have hisIn : hasOneOf columns field vs row =
        (row.get? field).any fun w => vs.any fun v => Value.agrees w v := by
      rw [hasOneOf, hjson]
      rfl
    rw [hisIn]
    cases hw : Fields.get? row field with
    | none => exact (k.isOneOf_null hvs).symm
    | some w =>
      rw [hw, Option.getD_some] at hvalue
      have hagrees : (vs.any fun v => Value.agrees w v) =
        (!w.isNull && w.isOneOf vs) := hvalue.any_compares hvs Ordering.isEq
      rw [Option.any_some, Option.getD_some, hagrees]
      rcases hvalue with rfl | hhas
      · exact (k.isOneOf_null hvs).symm
      · rw [hhas.isNull]
        rfl
  rw [recordsWith, List.filter_congr hrow]

/-! ## Both stores -/

/-- Looking for the records whose field is one of some values of its kind
finds all of them in a table and no other one, in the order of the table, and
leaves the tables as they are. In an index it finds all of them and no other
one up to the number of results that a search may reach, in the order of the
index, and leaves the documents as they are. -/
theorem both_stores_find_all_that_have_one_of_the_values (entity : Entity) (settings : Settings)
    (field : String) (vs : List Value) {k : Kind} (hname : Text.hasChar '.' field = false)
    (hvs : ∀ v ∈ vs, k.Has v) (s : Relational.State Tables.Engine) {t : Tables.Table}
    (hcalm : s.timed.state.faults = [])
    (hfind : s.timed.state.tables.find entity.storage = .ok t)
    (hknown : ((Relational.knownColumns entity t s).isEmpty ||
      Fields.contains (Relational.knownColumns entity t s) field) = true)
    (hjson : (Relational.knownColumns entity t s).isJson field = false)
    (hrows : ∀ row ∈ t.rows, k.Allows ((row.get? field).getD .null))
    (e : Indices.Engine) {ix : Indices.Index} (hquiet : e.faults = [])
    (hindex : e.find entity.storage = .ok ix)
    (hdocuments : ∀ d ∈ ix.documents, d.source.isObject = true ∧ k.Allows (d.value field)) :
    (∃ next, ((Relational.inMemory entity settings).store.findBy field vs).on s =
        (.ok ((t.rows.filter fun row => ((row.get? field).getD .null).isOneOf vs).map fun row =>
          (Tables.bareColumns row).toJson), next) ∧
      next.timed.state.tables = s.timed.state.tables) ∧
    ∃ next, ((Documents.inMemory entity settings).store.findBy field vs).on e =
        (.ok (((ix.documents.filter fun d => (d.value field).isOneOf vs).take
          settings.maxWindow).map fun d => d.record entity.idField), next) ∧
      next.indices = e.indices := by
  constructor
  · have hs : Relational.Holds True entity t (Relational.knownColumns entity t s)
        s.timed.state.tables s := ⟨⟨rfl, fun _ => hcalm⟩, hfind, rfl⟩
    obtain ⟨next, hon, hnext⟩ := Relational.on_findBy settings vs hname hknown hs
    rw [Relational.recordsWith_of_kind hjson hvs hrows] at hon
    exact ⟨next, hon, hnext.tables⟩
  · obtain ⟨next, hon, hnext⟩ := Documents.on_findBy settings vs hname hquiet hindex
    have hfound : ∀ d ∈ ix.documents, finds (Search.termsOf field vs) d.source =
        (d.value field).isOneOf vs := fun d hd =>
      Indices.finds_terms_of_kind hname hvs (hdocuments d hd).1 (hdocuments d hd).2
    rw [List.filter_congr hfound] at hon
    exact ⟨next, hon, hnext⟩

/-- Two products have one number. The table gives both, and an index whose
searches reach one result gives the first. -/
theorem a_window_of_one_hides_the_second_product :
    let entity : Entity := { name := "product", storage := "products" }
    let settings : Settings := { maxWindow := 1 }
    let t : Tables.Table := {
      shape := .make "products" "id" [("sku", .text)] []
      rows := [[("id", .int 1), ("sku", .text "A")], [("id", .int 2), ("sku", .text "A")]]
      nextId := 3 }
    let s : Relational.State Tables.Engine := .initial settings { tables := [("products", t)] }
    let first : Fields Json := [("id", .int 1), ("sku", .str "A")]
    let second : Fields Json := [("id", .int 2), ("sku", .str "A")]
    let e : Indices.Engine := { indices := [("products", {
      documents := [⟨"1", .obj first⟩, ⟨"2", .obj second⟩] })] }
    (∃ next, ((Relational.inMemory entity settings).store.findBy "sku" [.text "A"]).on s =
        (.ok [first, second], next) ∧ next.timed.state.tables = [("products", t)]) ∧
      ∃ next, ((Documents.inMemory entity settings).store.findBy "sku" [.text "A"]).on e =
        (.ok [first], next) ∧ next.indices = e.indices := by
  intro entity settings t s first second e
  obtain ⟨⟨after, hrows, htables⟩, next, hdocuments, hindices⟩ :=
    both_stores_find_all_that_have_one_of_the_values entity settings "sku" [.text "A"] (k := .text)
      (by decide) (by decide) s (t := t) rfl rfl (by decide) (by decide) (by decide) e rfl rfl
      (by decide)
  exact ⟨⟨after, hrows, htables⟩, next, hdocuments, hindices⟩

end EntityStore
