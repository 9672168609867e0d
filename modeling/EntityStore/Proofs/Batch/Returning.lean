-- The identities in the records that a write gives, over a table and over an
-- index. An index makes identities that it does not put into its documents, so
-- only those that items are written with are found again.
import EntityStore.Proofs.Batch.Identities
import EntityStore.Proofs.Indices.Writing

namespace EntityStore

open Call (Ends Leads Keeps)
open Flat (IsName)

variable {entity : Entity} {settings : Settings} {b : Batch} {doc : Fields Json} {field : String}
  {k : Kind}

/-! ## Documents with an identity -/

namespace Documents

/-- An object whose own value in a field is one that can be written down is
found by it. -/
theorem finds_of_value {members : Fields Json} {j : Json} {v : Value} (hname : IsName field)
    (hget : members.get? field = some j) (hscalar : j.isScalar = true) (hnull : j.isNull = false)
    (hj : Value.ofJson j = v) (hread : Value.ofJson v.toJson = v) :
    Indices.finds (Search.termsOf field [v]) (.obj members) = true := by
  have hspread : Indices.spread j = [j] := by
    cases j with
    | null => cases hnull
    | arr items => cases hscalar
    | _ => rfl
  have hsame : Indices.sameValue j v.toJson = true := by
    rw [Indices.sameValue, hj, hread]
    exact Value.beq_self v
  rw [Search.termsOf, Indices.finds, Indices.valuesAt_of_name hname, hget]
  simp [hspread, hsame]

theorem knows_of_finds {e : Indices.Engine} {ix : Indices.Index} {records : List Record}
    (hname : IsName entity.idField) (hwindow : 0 < settings.maxWindow) (hquiet : e.faults = [])
    (hix : e.find entity.storage = .ok ix)
    (hrecords : ∀ r ∈ records, ∀ id, Json.present? r.fields entity.idField = some id →
      ∃ d ∈ ix.documents,
        Indices.finds (Search.termsOf entity.idField [.ofJson id]) d.source = true) :
    (inMemory entity settings).store.Knows e records := by
  intro r hr id hid
  obtain ⟨d, hd, hfinds⟩ := hrecords r hr id hid
  obtain ⟨next, hon, -⟩ := on_findBy settings [.ofJson id] hname hquiet hix
  refine ⟨_, next, hon, fun hnil => ?_⟩
  rw [List.map_eq_nil_iff, List.take_eq_nil_iff] at hnil
  rcases hnil with hzero | hnone
  · omega
  · exact List.ne_nil_of_mem (List.mem_filter.mpr ⟨hd, hfinds⟩) hnone

/-- What is reported as persisted has been written. -/
theorem exists_of_report {n i : Nat} {statuses : List WriteStatus} {r : ItemReport}
    (h : (report n statuses)[i]? = some r) (hpersisted : r.persisted = true) :
    ∃ status, statuses[i]? = some status ∧ status.isSuccess = true := by
  induction n generalizing i statuses with
  | zero => cases h
  | succ n ih =>
    cases statuses with
    | nil =>
      cases i with
      | zero =>
        cases h
        cases hpersisted
      | succ i =>
        have hlater : (report n [])[i]? = some r := h
        obtain ⟨status, hstatus, -⟩ := ih hlater
        cases hstatus
    | cons status statuses =>
      cases i with
      | zero =>
        cases h
        exact ⟨status, rfl, hpersisted⟩
      | succ i => exact ih (i := i) h

/-- The engine has these indices, and will meet no fault. -/
structure Stands (indices : Fields Indices.Index) (e : Indices.Engine) : Prop where
  indices : e.indices = indices
  faults : e.faults = []

/-- After a write the index is what its writes made of it. -/
theorem find_write (e : Indices.Engine) (name : String) (ws : List DocumentWrite) :
    (e.write name ws).2.find name = .ok ((e.indexOrNew name).writeAll e.rejected ws).2 := by
  unfold Indices.Engine.write Indices.Engine.find Indices.Engine.index? Indices.Engine.store
  dsimp only
  rw [Fields.get?_insert_self]

theorem keeps_search_of_stands {indices : Fields Indices.Index} (c : Criteria) :
    Keeps (Stands indices) ((inMemory entity settings).search c) := by
  refine keeps_search_of (fun name body e he => ⟨(indices_search ..).trans he.indices, ?_⟩) c
  have hfaults := he.faults
  unfold Indices.Engine.search
  dsimp only
  split
  · rename_i hmet
    cases hmet.symm.trans hfaults
  · exact hfaults

end Documents

/-! ## Records of items -/

namespace Batch

open Documents (inMemory Stands)
open Relational (Holds knownColumns)

/-- Where all items have identities a record is that of an item which is
reported as persisted. -/
theorem exists_of_mem_reconcile {e : Entity} {docs : List (Fields Json)} {report : WriteReport}
    {r : Record} (hpresent : ∀ doc ∈ docs, ∃ id, Json.present? doc e.idField = some id)
    (h : r ∈ reconcile e docs report) :
    ∃ (i : Nat) (doc : Fields Json) (item : ItemReport), docs[i]? = some doc ∧
      report[i]? = some item ∧ item.persisted = true ∧ r = .ofStored doc := by
  obtain ⟨⟨i, doc⟩, hp, hwritten⟩ := List.mem_filterMap.mp h
  obtain ⟨⟨_, _⟩, hq, heq⟩ := List.mem_map.mp hp
  cases heq
  cases hitem : report[i]? with
  | none =>
    dsimp only at hwritten
    rw [hitem] at hwritten
    cases hwritten
  | some item =>
    dsimp only at hwritten
    rw [hitem] at hwritten
    have hdoc : docs[i]? = some doc := List.mem_zipIdx_iff_getElem?.mp hq
    obtain ⟨id, hid⟩ := hpresent doc (List.mem_of_getElem? hdoc)
    exact ⟨i, doc, item, hdoc, hitem, written?_eq_some hwritten hid⟩

/-- What an item is written as is there after its write, and what later writes
keep of it is there in the end. -/
theorem exists_of_sent {write : Fields Json → DocumentWrite} {docs : List (Fields Json)}
    {e : Indices.Engine} {r : Record} {own : Json} {P Q : Indices.Document → Prop}
    (hr : r ∈ reconcile entity docs (Documents.report (docs.map write).length
      ((e.indexOrNew entity.storage).writeAll e.rejected (docs.map write)).1))
    (hid : Json.present? r.fields entity.idField = some own)
    (hpresent : ∀ doc ∈ docs, ∃ id, Json.present? doc entity.idField = some id)
    (hwrite : ∀ doc ∈ docs, (write doc).doc = doc)
    (hQ : ∀ d ∈ (e.indexOrNew entity.storage).documents, Q d)
    (hQnew : ∀ doc ∈ docs, ∀ id, Q ⟨id, .obj doc⟩)
    (hQstep : ∀ doc ∈ docs, ∀ d, Q d → Q (d.after (write doc)))
    (hown : ∀ doc ∈ docs, Json.present? doc entity.idField = some own →
      ∀ id, (∀ given, (write doc).id? = some given → id = given) → P ⟨id, .obj doc⟩ ∧
        ∀ d, Q d → d.id = id → (∀ given fields, write doc ≠ .create given fields) →
          P (d.after (write doc)))
    (hstep : ∀ doc ∈ docs, ∀ d, P d → (∀ given, (write doc).id? = some given → d.id = given) →
      (∀ given fields, write doc ≠ .create given fields) → P (d.after (write doc))) :
    ∃ d ∈ ((e.indexOrNew entity.storage).writeAll e.rejected (docs.map write)).2.documents,
      P d := by
  obtain ⟨i, doc, item, hdoc, hitem, hpersisted, rfl⟩ := exists_of_mem_reconcile hpresent hr
  have hmem := List.mem_of_getElem? hdoc
  obtain ⟨status, hstatus, hsuccess⟩ := Documents.exists_of_report hitem hpersisted
  obtain ⟨before, w, later, hws, hlength, rfl, hall⟩ := Indices.Index.exists_of_status hstatus
  obtain rfl : w = write doc := by
    have hplace : (docs.map write)[i]? = some w := by
      rw [hws, ← hlength]
      simp
    rw [List.getElem?_map, hdoc] at hplace
    exact (Option.some.inj hplace).symm
  have hwrites : ∀ {w}, w ∈ docs.map write → ∃ doc ∈ docs, write doc = w := List.mem_map.mp
  rw [hall]
  refine Indices.Index.exists_of_writeAll (fun w hw d hP hgiven hnew => ?_) ?_
  · obtain ⟨doc, hdoc, rfl⟩ := hwrites (w := w) (by rw [hws]; simp [hw])
    exact hstep doc hdoc d hP hgiven hnew
  · have hQbefore : ∀ d ∈ ((e.indexOrNew entity.storage).writeAll e.rejected before).2.documents,
        Q d := by
      refine Indices.Index.forall_of_writeAll (fun w hw id => ?_) (fun w hw d hd => ?_) hQ
      · obtain ⟨doc, hdoc, rfl⟩ := hwrites (w := w) (by rw [hws]; simp [hw])
        rw [hwrite doc hdoc]
        exact hQnew doc hdoc id
      · obtain ⟨doc, hdoc, rfl⟩ := hwrites (w := w) (by rw [hws]; simp [hw])
        exact hQstep doc hdoc d hd
    obtain ⟨id, hgiven, ⟨-, hfails⟩ | ⟨named, hnamed, heq⟩⟩ := Indices.Index.write_eq e.rejected
      ((e.indexOrNew entity.storage).writeAll e.rejected before).2 (write doc)
    · cases hsuccess.symm.trans hfails
    · rw [heq] at hsuccess ⊢
      obtain ⟨hself, hafter⟩ := hown doc hmem hid id hgiven
      rcases Indices.Index.mem_writeAs_self hsuccess with hput | ⟨d, hd, hdid, hnew, hput⟩
      · rw [hwrite doc hmem] at hput
        exact ⟨_, hput, hself⟩
      · exact ⟨_, hput, hafter d (hQbefore d (hnamed ▸ hd)) hdid hnew⟩

/-! ## Creating in an index -/

/-- The items hold scalars that can be written down, in the order of their
names. -/
structure OfScalars (b : Batch) : Prop where
  ordered : ∀ doc ∈ b.items, Fields.Ordered doc
  scalar : ∀ doc ∈ b.items, ∀ p ∈ doc, p.2.isScalar = true
  sound : ∀ doc ∈ b.items, ∀ p ∈ doc, p.2.isSound = true

theorem leads_create_finds (settings : Settings) (hitems : b.OfScalars)
    (hname : IsName entity.idField) (hwindow : 0 < settings.maxWindow)
    (hpresent : ∀ doc ∈ b.items, ∃ id, Json.present? doc entity.idField = some id)
    (indices : Fields Indices.Index) :
    Leads (Stands indices) (b.create (inMemory entity settings).store)
      (fun records e => (inMemory entity settings).store.Knows e records) (fun _ => True) := by
  have hinsert : Ends (Stands indices) ((inMemory entity settings).store.insert b.items) _
      (fun _ _ => True) := Documents.leads_send (E := fun _ => True) _
  refine (ends_create_of (fun _ _ _ => trivial) Documents.keeps_search_of_stands hinsert).weaken ?_
    fun _ _ h => h
  rintro _ _ ⟨_, ⟨e, he, rfl, rfl⟩, rfl⟩
  refine Documents.knows_of_finds hname hwindow he.faults (Documents.find_write ..)
    fun r hr id hid => ?_
  obtain ⟨d, hd, doc, hdoc, hsource, hown⟩ := exists_of_sent
    (P := fun d => ∃ doc ∈ b.items, d.source = .obj doc ∧
      Json.present? doc entity.idField = some id) (Q := fun _ => True)
    hr hid hpresent (fun _ _ => rfl) (fun _ _ => trivial) (fun _ _ _ => trivial)
    (fun _ _ _ _ => trivial)
    (fun doc hdoc hown _ _ => ⟨⟨doc, hdoc, rfl, hown⟩, fun _ _ _ hnew => absurd rfl (hnew _ _)⟩)
    (fun _ _ _ _ _ hnew => absurd rfl (hnew _ _))
  obtain ⟨hget, hnull⟩ := Option.filter_eq_some_iff.mp hown
  have hmem := Fields.mem_of_get? hget
  refine ⟨d, hd, ?_⟩
  rw [hsource]
  exact Documents.finds_of_value hname hget (hitems.scalar doc hdoc _ hmem) (by simpa using hnull)
    rfl (Value.ofJson_toJson_of_isSound (hitems.sound doc hdoc _ hmem))

/-! ## Upserting in an index -/

theorem ordered_written {existing : Fields (Fields Json)} (h : Fields.Ordered doc) :
    Fields.Ordered (b.written entity existing doc) := by
  unfold written completed
  split
  · exact h
  · dsimp only
    split
    · exact ((Fields.ordered_ofList _).insert _ _).insert _ _
    · exact (Fields.ordered_ofList _).insert _ _

/-- All items are written with an identity, where these are the stored records
that they meet, and the identities are values of one kind. -/
def Identified (b : Batch) (e : Entity) (k : Kind) (rows : List (Fields Json)) : Prop :=
  ∀ doc ∈ b.items,
    k.Has (valueOf (b.written e (indexBy (b.meetingField e) rows) doc) e.idField)

/-- The document is stored under an identity that it also has. -/
def StoredAs (e : Entity) (v : Value) (d : Indices.Document) : Prop :=
  d.id = v.key ∧ ∃ members, d.source = .obj members ∧ valueOf members e.idField = v

theorem finds_of_storedAs {v : Value} {d : Indices.Document} (hname : IsName entity.idField)
    (hv : k.Has v) (h : StoredAs entity v d) :
    Indices.finds (Search.termsOf entity.idField [v]) d.source = true := by
  obtain ⟨-, members, hsource, rfl⟩ := h
  have hvalue : d.value entity.idField = valueOf members entity.idField := by
    rw [Indices.Document.value, hsource]
    rfl
  have hvs : ∀ w ∈ [valueOf members entity.idField], k.Has w := by
    simpa using hv
  rw [Indices.finds_terms_of_kind hname hvs (by rw [hsource]; rfl) (.inr (hvalue ▸ hv)), hvalue,
    Value.isOneOf, List.any_cons, Value.beq_self, Bool.true_or]

theorem isObject_of_storedAs {v : Value} {d : Indices.Document} (h : StoredAs entity v d) :
    d.source.isObject = true := by
  obtain ⟨-, members, hsource, -⟩ := h
  rw [hsource]
  rfl

theorem isObject_after {d : Indices.Document} (h : d.source.isObject = true) (id : String)
    (doc : Fields Json) : (d.after (.upsert id doc)).source.isObject = true := by
  obtain ⟨own, source⟩ := d
  cases source with
  | obj members => rfl
  | _ => cases h

/-- What an item with an identity makes of a document has that identity. -/
theorem storedAs_after {v : Value} {d : Indices.Document} (hordered : Fields.Ordered doc)
    (hv : valueOf doc entity.idField = v) (hnull : v.isNull = false)
    (hobject : d.source.isObject = true) (hid : d.id = v.key) (id : String) :
    StoredAs entity v (d.after (.upsert id doc)) := by
  obtain ⟨own, source⟩ := d
  cases source with
  | obj members =>
    refine ⟨hid, Fields.extend members doc, rfl, ?_⟩
    cases hget : doc.get? entity.idField with
    | none =>
      rw [valueOf, hget] at hv
      rw [← hv] at hnull
      cases hnull
    | some j =>
      rw [← hv, valueOf, valueOf, Fields.get?_extend, Fields.get?_ofList hordered, hget,
        Option.some_or]
  | _ => cases hobject

/-- An item with an identity is written under it. -/
theorem upsertWrite_of_has (settings : Settings) (h : k.Has (valueOf doc entity.idField)) :
    (inMemory entity settings).upsertWrite doc =
      .upsert (valueOf doc entity.idField).key doc := by
  obtain ⟨j, hj⟩ := exists_present_of_has h
  have hvalue : valueOf doc entity.idField = .ofJson j := by
    rw [valueOf, (Option.filter_eq_some_iff.mp hj).1]
    rfl
  have hid : (inMemory entity settings).documentId doc = some (Value.ofJson j).key :=
    congrArg _ hj
  rw [Documents.upsertWrite, hid, hvalue]

theorem leads_upsert_finds (settings : Settings) (hitems : b.OfScalars)
    (hname : IsName entity.idField) (hwindow : 0 < settings.maxWindow) {e : Indices.Engine}
    (hquiet : e.faults = [])
    (hobjects : ∀ d ∈ e.documents entity.storage, d.source.isObject = true)
    (hidentified : ∀ rows,
      ((b.found (inMemory entity settings).store).on e).1 = .ok rows → b.Identified entity k rows) :
    Leads (fun e' => e' = e) (b.upsert (inMemory entity settings).store)
      (fun records e => (inMemory entity settings).store.Knows e records) (fun _ => True) := by
  have hstands : Stands e.indices e := ⟨rfl, hquiet⟩
  have hsearch : ∀ c, Keeps (Stands e.indices) ((inMemory entity settings).store.search c) :=
    Documents.keeps_search_of_stands
  have hfound := ((keeps_found hsearch b).startingAt hstands).weakenError fun _ _ => trivial
  refine Ends.weaken (ends_upsert_checked (C := fun _ => True) (fun _ _ _ _ => trivial) hfound
    (fun rows _ => Ends.weaken (keeps_checkUnlessDirect hsearch b _ _)
      (fun _ _ hs => ⟨trivial, hs⟩) fun _ _ _ => trivial)
    fun rows _ _ => Documents.leads_send (E := fun _ => True) _) ?_ fun _ _ _ => trivial
  rintro _ _ ⟨-, rows, _, hrows, -, ⟨before, hbefore, rfl, rfl⟩, rfl⟩
  have hhas := hidentified rows hrows
  refine Documents.knows_of_finds hname hwindow hbefore.faults (Documents.find_write ..)
    fun r hr id hid => ?_
  let docs := b.items.map (b.written entity (indexBy (b.meetingField entity) rows))
  have hkind : ∀ doc ∈ docs, k.Has (valueOf doc entity.idField) := List.forall_mem_map.mpr hhas
  have hordered : ∀ doc ∈ docs, Fields.Ordered doc :=
    List.forall_mem_map.mpr fun doc hdoc => ordered_written (hitems.ordered doc hdoc)
  have hwrite : ∀ doc ∈ docs, (inMemory entity settings).upsertWrite doc = _ :=
    fun doc hdoc => upsertWrite_of_has settings (hkind doc hdoc)
  have hpresent : ∀ doc ∈ docs, ∃ id, Json.present? doc entity.idField = some id :=
    fun doc hdoc => exists_present_of_has (hkind doc hdoc)
  have hown : ∀ doc, Json.present? doc entity.idField = some id →
      valueOf doc entity.idField = .ofJson id := by
    intro doc hid
    rw [valueOf, (Option.filter_eq_some_iff.mp hid).1]
    rfl
  have hv : k.Has (.ofJson id) := by
    obtain ⟨i, doc, -, hdoc, -, -, rfl⟩ := exists_of_mem_reconcile hpresent hr
    exact hown doc hid ▸ hkind doc (List.mem_of_getElem? hdoc)
  -- Two identities of one kind with the same key are the same, so no item puts
  -- its own over that of another one.
  have hsame : ∀ doc ∈ docs, (valueOf doc entity.idField).key = (Value.ofJson id).key →
      valueOf doc entity.idField = .ofJson id := fun doc hdoc => (hkind doc hdoc).key_inj hv
  have hbeforeObjects : ∀ d ∈ (before.indexOrNew entity.storage).documents,
      d.source.isObject = true := by
    unfold Indices.Engine.indexOrNew Indices.Engine.index?
    rw [hbefore.indices]
    exact hobjects
  have hafter : ∀ doc ∈ docs, ∀ d : Indices.Document, d.source.isObject = true →
      d.id = (Value.ofJson id).key → valueOf doc entity.idField = .ofJson id →
      StoredAs entity (.ofJson id) (d.after ((inMemory entity settings).upsertWrite doc)) := by
    intro doc hdoc d hobject hid heq
    rw [hwrite doc hdoc]
    exact storedAs_after (hordered doc hdoc) heq hv.isNull hobject hid _
  obtain ⟨d, hd, hstored⟩ := exists_of_sent (P := StoredAs entity (.ofJson id))
    (Q := fun d => d.source.isObject = true) hr hid hpresent
    (fun doc hdoc => by rw [hwrite doc hdoc]; rfl) hbeforeObjects (fun _ _ _ => rfl)
    (fun doc hdoc d hd => by rw [hwrite doc hdoc]; exact isObject_after hd _ doc)
    (fun doc hdoc hid given hgiven => by
      have hkey : given = (Value.ofJson id).key := by
        rw [← hown doc hid]
        exact hgiven _ (by rw [hwrite doc hdoc]; rfl)
      exact ⟨⟨hkey, doc, rfl, hown doc hid⟩, fun d hobject hdid _ =>
        hafter doc hdoc d hobject (hdid.trans hkey) (hown doc hid)⟩)
    (fun doc hdoc d hd hgiven _ => by
      have hkey : d.id = (valueOf doc entity.idField).key :=
        hgiven _ (by rw [hwrite doc hdoc]; rfl)
      exact hafter doc hdoc d (isObject_of_storedAs hd) hd.1 (hsame doc hdoc (hkey.symm.trans hd.1)))
  exact ⟨d, hd, finds_of_storedAs hname hv hstored⟩

/-! ## Both stores -/

/-- An identity in a record that a write gives can be used. In a table that is
so after every create, and after an upsert whose items take no identity away
from a row. An index makes identities that it does not put into documents, so
there it is so after a create whose items all have identities, and after an
upsert that writes all items with identities of one kind. -/
theorem a_returned_identity_can_be_used (entity : Entity) (settings : Settings) (b : Batch)
    (hitems : b.OfScalars) (hname : IsName entity.idField) :
    (∀ (s : Relational.State Tables.Engine) (t : Tables.Table),
      s.timed.state.faults = [] → s.timed.state.tables.find entity.storage = .ok t →
      (∀ c ∈ t.shape.columns.keys, IsName c) →
      (∀ c ∈ t.shape.columns.keys, Fields.contains (knownColumns entity t s) c = true) →
      entity.idField ∈ t.shape.columns.keys →
      (knownColumns entity t s).isJson entity.idField = false →
      (∀ records after,
        (b.create (Relational.inMemory entity settings).store).on s = (.ok records, after) →
        (Relational.inMemory entity settings).store.Knows after records) ∧
      (KeepsIdentities b entity t → ∀ records after,
        (b.upsert (Relational.inMemory entity settings).store).on s = (.ok records, after) →
        (Relational.inMemory entity settings).store.Knows after records)) ∧
    (∀ e : Indices.Engine, e.faults = [] → 0 < settings.maxWindow →
      (∀ d ∈ e.documents entity.storage, d.source.isObject = true) →
      ((∀ doc ∈ b.items, ∃ id, Json.present? doc entity.idField = some id) → ∀ records after,
        (b.create (inMemory entity settings).store).on e = (.ok records, after) →
        (inMemory entity settings).store.Knows after records) ∧
      ∀ k, (∀ rows, ((b.found (inMemory entity settings).store).on e).1 = .ok rows →
          b.Identified entity k rows) → ∀ records after,
        (b.upsert (inMemory entity settings).store).on e = (.ok records, after) →
        (inMemory entity settings).store.Knows after records) := by
  constructor
  · intro s t hcalm hfind hnames hcover hcolumn hscalar
    have hs : Holds True entity t (knownColumns entity t s) s.timed.state.tables s :=
      ⟨⟨rfl, fun _ => hcalm⟩, hfind, rfl⟩
    refine ⟨fun records after hon => ?_, fun hkeeps records after hon => ?_⟩
    · exact (leads_create_knows settings b hnames hcolumn (hcover _ hcolumn) hscalar
        hitems.sound).of_ok hs hon
    · exact (leads_upsert_knows settings hkeeps hnames hcover hcolumn hscalar hs).of_ok rfl hon
  · intro e hquiet hwindow hobjects
    refine ⟨fun hpresent records after hon => ?_, fun k hidentified records after hon => ?_⟩
    · exact (leads_create_finds settings hitems hname hwindow hpresent e.indices).of_ok
        ⟨rfl, hquiet⟩ hon
    · exact (leads_upsert_finds settings hitems hname hwindow hquiet hobjects hidentified).of_ok
        rfl hon

/-- A record with a number is given, and the number finds records. -/
theorem exists_found {σ : Type} {st : Store σ} {c : Call σ (List Record)} {s : σ} {n : Nat}
    (hgiven : ((c.on s).1.toOption.any fun records => records.any fun r =>
      (Json.present? r.fields st.entity.idField).bind Json.nat? == some n) = true)
    (hknows : ∀ records after, c.on s = (.ok records, after) → st.Knows after records) :
    ∃ records after found next, c.on s = (.ok records, after) ∧
      (st.findBy st.entity.idField [.ofJson (.int n)]).on after = (.ok found, next) ∧
      found ≠ [] := by
  obtain ⟨records, hrecords, hany⟩ := exists_of_any hgiven
  obtain ⟨r, hr, hnumber⟩ := List.any_eq_true.mp hany
  obtain ⟨j, hj, hn⟩ := Option.bind_eq_some_iff.mp (beq_iff_eq.mp hnumber)
  obtain rfl : j = .int n := by
    unfold Json.nat? at hn
    split at hn
    · cases hn
      rfl
    · cases hn
  have hon : c.on s = (.ok records, (c.on s).2) := Prod.ext hrecords rfl
  obtain ⟨found, next, hfound, hne⟩ := hknows records _ hon r hr _ hj
  exact ⟨records, _, found, next, hon, hfound, hne⟩

/-- A product with a number is written beside another one. -/
theorem the_number_of_a_written_product_finds_it :
    let entity : Entity := { name := "product", storage := "products" }
    let b : Batch := { items := [[("id", .int 1), ("name", .str "Ash")]] }
    let t : Tables.Table := {
      shape := .make "products" "id" [("name", .text)] []
      rows := [[("id", .int 2), ("name", .text "Oak")]]
      nextId := 3 }
    let s : Relational.State Tables.Engine := .initial {} { tables := [("products", t)] }
    let e : Indices.Engine := { indices := [("products", {
      documents := [⟨"2", .obj [("id", .int 2), ("name", .str "Oak")]⟩] })] }
    let table := (Relational.inMemory entity {}).store
    let index := (inMemory entity {}).store
    (∀ write ∈ [b.create table, b.upsert table], ∃ records after found next,
      write.on s = (.ok records, after) ∧
        (table.findBy "id" [.ofJson (.int 1)]).on after = (.ok found, next) ∧ found ≠ []) ∧
      ∀ write ∈ [b.create index, b.upsert index], ∃ records after found next,
        write.on e = (.ok records, after) ∧
          (index.findBy "id" [.ofJson (.int 1)]).on after = (.ok found, next) ∧ found ≠ [] := by
  intro entity b t s e table index
  obtain ⟨htable, hindex⟩ := a_returned_identity_can_be_used entity {} b
    ⟨by decide, by decide, by decide +kernel⟩ (by decide)
  obtain ⟨hcreates, hupserts⟩ := htable s t rfl rfl (by decide) (by decide) (by decide) (by decide)
  obtain ⟨hcreated, hupserted⟩ := hindex e rfl (by decide) (by decide)
  have hnone : ∀ rows, ((b.found index).on e).1 = .ok rows → rows = [] := by
    intro rows hrows
    obtain ⟨rows', hrows', hempty⟩ : ∃ rows', ((b.found index).on e).1 = .ok rows' ∧
        rows'.isEmpty = true := exists_of_any (by decide +kernel)
    cases hrows.symm.trans hrows'
    exact List.isEmpty_iff.mp hempty
  simp only [List.forall_mem_cons, List.not_mem_nil, false_implies, implies_true, and_true]
  refine ⟨⟨exists_found (by decide +kernel) hcreates, exists_found (by decide +kernel)
    (hupserts (.byIdentity (k := .integer) rfl (by decide) (by decide)))⟩,
    exists_found (by decide +kernel) (hcreated fun doc hdoc => ?_),
    exists_found (by decide +kernel) (hupserted .integer fun rows hrows => ?_)⟩
  · cases List.mem_singleton.mp hdoc
    exact ⟨_, rfl⟩
  · cases hnone rows hrows
    unfold Identified
    decide +kernel

end Batch

end EntityStore
