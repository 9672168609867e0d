-- Writes to an index. Documents that are stored under identities of their own
-- stand in the order in which they came. A write under an identity leaves all
-- other documents as they are, and one that creates a document leaves those that
-- are there.
import EntityStore.Indices.Engine

namespace EntityStore.Indices

namespace Index

/-- The identity that a document brings with it. -/
def ownId? (idField : String) (source : Json) : Option String :=
  ((source.get? idField).filter fun v => !v.isNull).map fun v => (Value.ofJson v).key

theorem putIn_of_new {id : String} {source : Json} {ds : List Document}
    (h : ∀ d ∈ ds, d.id ≠ id) : putIn id source ds = ds ++ [⟨id, source⟩] := by
  induction ds with
  | nil => rfl
  | cons d ds ih =>
    rw [List.forall_mem_cons] at h
    rw [putIn, if_neg h.1, ih h.2]
    rfl

theorem seedOne_of_new {idField id : String} {ix : Index} {source : Json}
    (hid : ownId? idField source = some id) (h : ∀ d ∈ ix.documents, d.id ≠ id) :
    (seedOne idField ix source).documents = ix.documents ++ [⟨id, source⟩] := by
  have hseed : seedOne idField ix source = put ix id source := by
    unfold ownId? at hid
    rw [seedOne, hid]
    rfl
  rw [hseed, put, putIn_of_new h]

/-- Documents with identities that are all different, and new to the index,
come behind all others. -/
theorem seed_of_new {idField : String} {id : Json → String} {docs : List Json} {ix : Index}
    (hid : ∀ j ∈ docs, ownId? idField j = some (id j))
    (hnew : ∀ d ∈ ix.documents, ∀ j ∈ docs, d.id ≠ id j)
    (hdistinct : docs.Pairwise fun i j => id i ≠ id j) :
    (seed idField docs ix).documents = ix.documents ++ docs.map fun j => ⟨id j, j⟩ := by
  induction docs generalizing ix with
  | nil => simp [seed]
  | cons j docs ih =>
    obtain ⟨hhead, htail⟩ := List.pairwise_cons.mp hdistinct
    rw [List.forall_mem_cons] at hid
    have hone := seedOne_of_new hid.1 fun d hd => hnew d hd j List.mem_cons_self
    have hrest : (seed idField docs (seedOne idField ix j)).documents =
        (seedOne idField ix j).documents ++ docs.map fun j => ⟨id j, j⟩ := by
      apply ih hid.2 _ htail
      rw [hone]
      intro d hd i hi
      rcases List.mem_append.mp hd with hd | hd
      · exact hnew d hd i (List.mem_cons_of_mem j hi)
      · rw [List.mem_singleton.mp hd]
        exact hhead i hi
    have hcons : seed idField (j :: docs) ix = seed idField docs (seedOne idField ix j) := rfl
    rw [hcons, hrest, hone, List.append_assoc]
    rfl

end Index

/-- An engine without indices, and then the seeded documents. -/
theorem Engine.find_seed (name idField : String) (docs : List Json) :
    (Engine.seed {} name idField docs).find name = .ok (Index.seed idField docs {}) := by
  have hindex : (Engine.seed {} name idField docs).index? name =
      some (Index.seed idField docs {}) := Fields.get?_insert_self _ _ _
  rw [find, hindex]

end EntityStore.Indices

namespace EntityStore.Indices

variable {d : Document}

theorem Index.mem_putIn_of_ne {id : String} {source : Json} {ds : List Document} (hd : d ∈ ds)
    (hne : d.id ≠ id) : d ∈ putIn id source ds := by
  induction ds with
  | nil => cases hd
  | cons e ds ih =>
    rw [putIn]
    rcases List.mem_cons.mp hd with rfl | hd
    · rw [if_neg hne]
      exact List.mem_cons_self
    · split
      · exact List.mem_cons_of_mem _ hd
      · exact List.mem_cons_of_mem e (ih hd)

/-- The write may change or replace the document. -/
def Touches (d : Document) : DocumentWrite → Prop
  | .create _ _ => False
  | .index id _ => id = none ∨ id = some d.id
  | .upsert id _ => id = d.id
  | .update id _ => id = d.id

theorem Index.get?_ne_none {ix : Index} (hd : d ∈ ix.documents) : ix.get? d.id ≠ none := by
  intro hnone
  rw [get?, Option.map_eq_none_iff, List.find?_eq_none] at hnone
  exact hnone d hd (by simp)

theorem Index.mem_writeAs {ix : Index} {id : String} {w : DocumentWrite} (hd : d ∈ ix.documents)
    (h : d.id = id → ∃ own doc, w = .create own doc) : d ∈ (ix.writeAs id w).2.documents := by
  unfold writeAs
  by_cases hid : d.id = id
  · obtain ⟨own, doc, rfl⟩ := h hid
    obtain ⟨old, hold⟩ := Option.ne_none_iff_exists'.mp (get?_ne_none hd)
    rw [← hid, hold]
    exact hd
  · split
    · exact hd
    · exact mem_putIn_of_ne hd hid
    · exact mem_putIn_of_ne hd hid
    · exact hd
    · exact mem_putIn_of_ne hd hid

theorem Index.mem_write {rejected : List String} {ix : Index} {w : DocumentWrite}
    (hd : d ∈ ix.documents) (hw : ¬ Touches d w) : d ∈ (ix.write rejected w).2.documents := by
  have hidentify : (ix.identify w.id?).2.documents = ix.documents := by
    unfold identify
    split <;> rfl
  have hown : d.id = (ix.identify w.id?).1 → ∃ own doc, w = .create own doc := by
    intro hid
    cases w with
    | create own doc => exact ⟨own, doc, rfl⟩
    | index own doc =>
      cases own with
      | none => exact absurd (.inl rfl) hw
      | some id => exact absurd (.inr (congrArg some hid.symm)) hw
    | upsert id doc => exact absurd hid.symm hw
    | update id doc => exact absurd hid.symm hw
  unfold write
  dsimp only
  split
  · rw [hidentify]
    exact hd
  · exact mem_writeAs (hidentify ▸ hd) hown

/-- Writes leave every document as it is that none of them touches. -/
theorem Index.mem_writeAll {rejected : List String} {ix : Index} {ws : List DocumentWrite}
    (hd : d ∈ ix.documents) (hws : ∀ w ∈ ws, ¬ Touches d w) :
    d ∈ (writeAll rejected ws ix).2.documents := by
  induction ws generalizing ix with
  | nil => exact hd
  | cons w ws ih =>
    rw [List.forall_mem_cons] at hws
    exact ih (mem_write hd hws.1) hws.2

theorem Engine.mem_write {e : Engine} {name : String} {ws : List DocumentWrite}
    (hd : d ∈ e.documents name) (hws : ∀ w ∈ ws, ¬ Touches d w) :
    d ∈ (e.write name ws).2.documents name := by
  have hindex : (e.write name ws).2.documents name =
      ((e.indexOrNew name).writeAll e.rejected ws).2.documents := by
    unfold write documents indexOrNew index? store
    simp
  rw [hindex]
  exact Index.mem_writeAll hd hws

/-! ## What becomes of a document -/

/-- What a document is after a write that changes it. -/
def Document.after (d : Document) : DocumentWrite → Document
  | .index _ doc => ⟨d.id, .obj doc⟩
  | w => ⟨d.id, Index.merge d.source w.doc⟩

namespace Index

variable {ix : Index} {rejected : List String} {w : DocumentWrite} {ws : List DocumentWrite}
  {id : String} {source : Json} {ds : List Document} {P : Document → Prop}

theorem mem_putIn_self (id : String) (source : Json) (ds : List Document) :
    ⟨id, source⟩ ∈ putIn id source ds := by
  induction ds with
  | nil => exact List.mem_singleton_self _
  | cons d ds ih =>
    rw [putIn]
    split
    · exact List.mem_cons_self
    · exact List.mem_cons_of_mem d ih

/-- A document stays where another one is put, or it is the first one with the
identity. -/
theorem mem_putIn (hd : d ∈ ds) :
    d ∈ putIn id source ds ∨ ds.find? (fun e => e.id == id) = some d := by
  induction ds with
  | nil => cases hd
  | cons e ds ih =>
    rw [putIn]
    by_cases he : e.id = id
    · rw [if_pos he]
      rcases List.mem_cons.mp hd with rfl | hd
      · exact .inr (List.find?_cons_of_pos (by simpa using he))
      · exact .inl (List.mem_cons_of_mem _ hd)
    · rw [if_neg he, List.find?_cons_of_neg (by simpa using he)]
      rcases List.mem_cons.mp hd with rfl | hd
      · exact .inl List.mem_cons_self
      · exact (ih hd).imp (List.mem_cons_of_mem e) fun h => h

theorem mem_of_mem_putIn (hd : d ∈ putIn id source ds) : d ∈ ds ∨ d = ⟨id, source⟩ := by
  induction ds with
  | nil => exact .inr (List.mem_singleton.mp hd)
  | cons e ds ih =>
    rw [putIn] at hd
    split at hd
    · rcases List.mem_cons.mp hd with rfl | hd
      · exact .inr rfl
      · exact .inl (List.mem_cons_of_mem e hd)
    · rcases List.mem_cons.mp hd with rfl | hd
      · exact .inl List.mem_cons_self
      · exact (ih hd).imp (List.mem_cons_of_mem e) fun h => h

theorem documents_identify (ix : Index) (given : Option String) :
    (ix.identify given).2.documents = ix.documents := by
  unfold identify
  split <;> rfl

theorem find_of_get? {old : Json} (h : ix.get? id = some old) :
    ∃ d ∈ ix.documents, d.id = id ∧ d.source = old ∧
      ix.documents.find? (fun e => e.id == id) = some d := by
  obtain ⟨d, hfind, rfl⟩ := Option.map_eq_some_iff.mp h
  exact ⟨d, List.mem_of_find?_eq_some hfind, by simpa using List.find?_some hfind, rfl, hfind⟩

/-- A write under the identity of a document is refused if it creates one, and
else puts what becomes of the document in its place. -/
theorem documents_writeAs (hget : ix.get? d.id = some d.source) (w : DocumentWrite) :
    (ix.writeAs d.id w).2.documents = ix.documents ∧ (ix.writeAs d.id w).1.isSuccess = false ∨
      (∀ own doc, w ≠ .create own doc) ∧
        (ix.writeAs d.id w).2.documents = putIn d.id (d.after w).source ix.documents := by
  unfold writeAs
  rw [hget]
  cases w with
  | create own doc => exact .inl ⟨rfl, rfl⟩
  | index own doc => exact .inr ⟨nofun, rfl⟩
  | upsert own doc => exact .inr ⟨nofun, rfl⟩
  | update own doc => exact .inr ⟨nofun, rfl⟩

theorem documents_writeAs_of_new (hget : ix.get? id = none) (w : DocumentWrite) :
    (ix.writeAs id w).2.documents = ix.documents ∧ (ix.writeAs id w).1.isSuccess = false ∨
      (ix.writeAs id w).2.documents = putIn id (.obj w.doc) ix.documents := by
  unfold writeAs
  rw [hget]
  cases w with
  | update own doc => exact .inl ⟨rfl, rfl⟩
  | create own doc => exact .inr rfl
  | index own doc => exact .inr rfl
  | upsert own doc => exact .inr rfl

/-- A document stays as it is through a write under an identity, or it is the
one that the write changes. -/
theorem mem_writeAs_or (hd : d ∈ ix.documents) : d ∈ (ix.writeAs id w).2.documents ∨
    d.id = id ∧ (∀ own doc, w ≠ .create own doc) ∧
      d.after w ∈ (ix.writeAs id w).2.documents := by
  cases hget : ix.get? id with
  | none =>
    refine .inl (mem_writeAs hd fun hid => ?_)
    rw [← hid] at hget
    exact absurd hget (get?_ne_none hd)
  | some old =>
    obtain ⟨first, -, rfl, rfl, hfirst⟩ := find_of_get? hget
    rcases documents_writeAs hget w with ⟨hsame, -⟩ | ⟨hnew, hput⟩
    · exact .inl (hsame ▸ hd)
    · rw [hput]
      -- Only the first document with the identity is put aside.
      have hplaced : d ∈ putIn first.id (first.after w).source ix.documents ∨ _ := mem_putIn hd
      rcases hplaced with hmem | hsame
      · exact .inl hmem
      · cases hfirst.symm.trans hsame
        have hafter : d.after w = ⟨d.id, (d.after w).source⟩ := by
          cases w <;> rfl
        exact .inr ⟨rfl, hnew, by rw [hafter]; exact mem_putIn_self ..⟩

/-- A document after a write under an identity was there before, or is what the
write puts there. -/
theorem mem_of_mem_writeAs (hd : d ∈ (ix.writeAs id w).2.documents) :
    d ∈ ix.documents ∨ d = ⟨id, .obj w.doc⟩ ∨
      ∃ first ∈ ix.documents, first.id = id ∧ d = first.after w := by
  cases hget : ix.get? id with
  | none =>
    rcases documents_writeAs_of_new hget w with ⟨hsame, -⟩ | hput
    · exact .inl (hsame ▸ hd)
    · rw [hput] at hd
      exact (mem_of_mem_putIn hd).imp_right .inl
  | some old =>
    obtain ⟨first, hfirst, rfl, rfl, -⟩ := find_of_get? hget
    rcases documents_writeAs hget w with ⟨hsame, -⟩ | ⟨-, hput⟩
    · exact .inl (hsame ▸ hd)
    · rw [hput] at hd
      refine (mem_of_mem_putIn hd).imp_right fun h => .inr ⟨first, hfirst, rfl, h.trans ?_⟩
      cases w <;> rfl

/-- A write under an identity that succeeds leaves its document there, by
itself or as what becomes of one that was there. -/
theorem mem_writeAs_self (h : (ix.writeAs id w).1.isSuccess = true) :
    ⟨id, .obj w.doc⟩ ∈ (ix.writeAs id w).2.documents ∨
      ∃ first ∈ ix.documents, first.id = id ∧ (∀ own doc, w ≠ .create own doc) ∧
        first.after w ∈ (ix.writeAs id w).2.documents := by
  cases hget : ix.get? id with
  | none =>
    rcases documents_writeAs_of_new hget w with ⟨-, hfails⟩ | hput
    · cases h.symm.trans hfails
    · rw [hput]
      exact .inl (mem_putIn_self ..)
  | some old =>
    obtain ⟨first, hfirst, rfl, rfl, -⟩ := find_of_get? hget
    rcases documents_writeAs hget w with ⟨-, hfails⟩ | ⟨hnew, hput⟩
    · cases h.symm.trans hfails
    · have hafter : first.after w = ⟨first.id, (first.after w).source⟩ := by
        cases w <;> rfl
      refine .inr ⟨first, hfirst, rfl, hnew, ?_⟩
      rw [hput, hafter]
      exact mem_putIn_self ..

/-! ## One write and many -/

/-- A write is refused, or it is one under an identity: its own, or one that is
made. -/
theorem write_eq (rejected : List String) (ix : Index) (w : DocumentWrite) :
    ∃ id, (∀ own, w.id? = some own → id = own) ∧
      ((ix.write rejected w).2.documents = ix.documents ∧
          (ix.write rejected w).1.isSuccess = false ∨
        ∃ named : Index, named.documents = ix.documents ∧
          ix.write rejected w = named.writeAs id w) := by
  refine ⟨(ix.identify w.id?).1, fun own hown => by rw [hown]; rfl, ?_⟩
  have hdocuments := documents_identify ix w.id?
  unfold write
  dsimp only
  split
  · exact .inl ⟨hdocuments, rfl⟩
  · exact .inr ⟨_, hdocuments, rfl⟩

theorem mem_write_or (hd : d ∈ ix.documents) : d ∈ (ix.write rejected w).2.documents ∨
    (∀ own, w.id? = some own → d.id = own) ∧ (∀ own doc, w ≠ .create own doc) ∧
      d.after w ∈ (ix.write rejected w).2.documents := by
  obtain ⟨id, hid, ⟨hsame, -⟩ | ⟨named, hnamed, hwrite⟩⟩ := write_eq rejected ix w
  · exact .inl (hsame ▸ hd)
  · rw [hwrite]
    refine (mem_writeAs_or (hnamed ▸ hd)).imp_right ?_
    rintro ⟨rfl, hafter⟩
    exact ⟨hid, hafter⟩

/-- A document of some sort is still there after writes when none makes it
another sort. -/
theorem exists_of_writeAll (hstep : ∀ w ∈ ws, ∀ d, P d → (∀ own, w.id? = some own → d.id = own) →
    (∀ own doc, w ≠ .create own doc) → P (d.after w)) (hd : ∃ d ∈ ix.documents, P d) :
    ∃ d ∈ (writeAll rejected ws ix).2.documents, P d := by
  induction ws generalizing ix with
  | nil => exact hd
  | cons w ws ih =>
    rw [List.forall_mem_cons] at hstep
    obtain ⟨d, hmem, hP⟩ := hd
    have hthere : ∃ d ∈ (ix.write rejected w).2.documents, P d := by
      rcases mem_write_or hmem with hmem | ⟨hid, hnew, hafter⟩
      · exact ⟨d, hmem, hP⟩
      · exact ⟨_, hafter, hstep.1 d hP hid hnew⟩
    exact ih hstep.2 hthere

/-- All documents are of some sort after writes when those that are written
are, and none makes a document another sort. -/
theorem forall_of_writeAll (hnew : ∀ w ∈ ws, ∀ id, P ⟨id, .obj w.doc⟩)
    (hstep : ∀ w ∈ ws, ∀ d, P d → P (d.after w)) (hd : ∀ d ∈ ix.documents, P d) :
    ∀ d ∈ (writeAll rejected ws ix).2.documents, P d := by
  induction ws generalizing ix with
  | nil => exact hd
  | cons w ws ih =>
    rw [List.forall_mem_cons] at hnew hstep
    have hall : ∀ d ∈ (ix.write rejected w).2.documents, P d := by
      intro d hmem
      obtain ⟨id, -, ⟨hsame, -⟩ | ⟨named, hnamed, hwrite⟩⟩ := write_eq rejected ix w
      · exact hd d (hsame ▸ hmem)
      · rw [hwrite] at hmem
        rcases mem_of_mem_writeAs hmem with hmem | rfl | ⟨first, hfirst, -, rfl⟩
        · exact hd d (hnamed ▸ hmem)
        · exact hnew.1 id
        · exact hstep.1 first (hd first (hnamed ▸ hfirst))
    exact ih hnew.2 hstep.2 hall

/-- The status at a place is that of the write there, which comes after those
in front of it and before those behind it. -/
theorem exists_of_status {i : Nat} {status : WriteStatus}
    (h : (writeAll rejected ws ix).1[i]? = some status) :
    ∃ before w later, ws = before ++ w :: later ∧ before.length = i ∧
      status = ((writeAll rejected before ix).2.write rejected w).1 ∧
      (writeAll rejected ws ix).2 =
        (writeAll rejected later ((writeAll rejected before ix).2.write rejected w).2).2 := by
  induction ws generalizing ix i with
  | nil => cases h
  | cons w ws ih =>
    cases i with
    | zero =>
      cases h
      exact ⟨[], w, ws, rfl, rfl, rfl, rfl⟩
    | succ i =>
      have hlater : (writeAll rejected ws (ix.write rejected w).2).1[i]? = some status := h
      obtain ⟨before, v, later, rfl, rfl, hstatus, hall⟩ := ih hlater
      exact ⟨w :: before, v, later, rfl, rfl, hstatus, hall⟩

end Index

end EntityStore.Indices
