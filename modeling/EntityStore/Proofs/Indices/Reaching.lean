-- What an engine can become, whatever is asked of it from its start. No two
-- documents of an index have one identity, those that are made included. Of many
-- writes each gets its report, in its place, and keeps to one document: all others
-- stay what they are and where they are.
import EntityStore.Proofs.Fallible
import EntityStore.Proofs.Indices.Writing
import EntityStore.Proofs.Value.Distinct
import Mathlib.Data.List.Nodup
import Mathlib.Data.List.Perm.Subperm

namespace EntityStore.Indices

variable {ix : Index} {rejected : List String} {w : DocumentWrite} {ws : List DocumentWrite}
  {id idField name : String} {source : Json} {status : WriteStatus} {ds before after : List Document}
  {e : Engine}

namespace Index

/-! ## Identities that are made -/

theorem madeId_inj {m n : Nat} (h : madeId m = madeId n) : m = n :=
  Value.natRepr_inj ((String.append_right_inj _).mp h)

/-- The next number is found: there are more numbers to try than documents. -/
theorem madeId_nextNumber (ix : Index) : madeId ix.nextNumber ∉ ix.ids := by
  let numbers := (List.range (ix.documents.length + 1)).map fun i => ix.made + 1 + i
  have hnodup : (numbers.map madeId).Nodup := by
    refine List.Nodup.map (fun _ _ => madeId_inj) ?_
    exact List.Nodup.map (fun i j hij => by simpa using hij) List.nodup_range
  have hfree : ∃ n ∈ numbers, madeId n ∉ ix.ids := by
    by_contra hnone
    push Not at hnone
    have hsubset : numbers.map madeId ⊆ ix.ids := by
      intro own hown
      obtain ⟨n, hn, rfl⟩ := List.mem_map.mp hown
      exact hnone n hn
    have hlength := (hnodup.subperm hsubset).length_le
    simp only [numbers, ids, List.length_map, List.length_range] at hlength
    omega
  cases hfind : numbers.find? fun n => !ix.ids.contains (madeId n) with
  | none =>
    obtain ⟨n, hn, hnew⟩ := hfree
    exact absurd (List.find?_eq_none.mp hfind n hn) (by simpa using hnew)
  | some n =>
    have hnext : ix.nextNumber = n := congrArg (·.getD (ix.made + 1)) hfind
    simpa [hnext] using List.find?_some hfind

/-! ## Documents in their places -/

/-- All identities keep their places. One that is new may come behind them. -/
def Placed (id : String) (before after : List Document) : Prop :=
  after.map Document.id = before.map Document.id ∨
    (∀ d ∈ before, d.id ≠ id) ∧ after.map Document.id = before.map Document.id ++ [id]

theorem Placed.nodup (h : Placed id before after) (hbefore : (before.map Document.id).Nodup) :
    (after.map Document.id).Nodup := by
  rcases h with hsame | ⟨hnew, hbehind⟩
  · rwa [hsame]
  · rw [hbehind]
    refine hbefore.append (List.nodup_singleton id) (List.disjoint_singleton.mpr ?_)
    simpa using hnew

theorem placed_putIn (id : String) (source : Json) (ds : List Document) :
    Placed id ds (putIn id source ds) := by
  induction ds with
  | nil => exact .inr ⟨nofun, rfl⟩
  | cons d ds ih =>
    rw [putIn]
    by_cases hid : d.id = id
    · rw [if_pos hid]
      exact .inl (by simp [hid])
    · rw [if_neg hid]
      rcases ih with hsame | ⟨hnew, hbehind⟩
      · exact .inl (by rw [List.map_cons, List.map_cons, hsame])
      · refine .inr ⟨List.forall_mem_cons.mpr ⟨hid, hnew⟩, ?_⟩
        rw [List.map_cons, List.map_cons, hbehind, List.cons_append]

theorem others_putIn (id : String) (source : Json) (ds : List Document) :
    (putIn id source ds).filter (fun d => d.id != id) = ds.filter fun d => d.id != id := by
  induction ds with
  | nil => simp [putIn]
  | cons d ds ih =>
    rw [putIn]
    by_cases hid : d.id = id
    · simp [hid]
    · rw [if_neg hid, List.filter_cons, List.filter_cons, ih]

/-! ## What one write may do -/

/-- The identity is that of the write, or one that is made for it and that no
document has. -/
structure Addresses (w : DocumentWrite) (id : String) (ds : List Document) : Prop where
  given : ∀ own, w.id? = some own → id = own
  made : w.id? = none → ∀ d ∈ ds, d.id ≠ id

theorem addresses_identify (ix : Index) (w : DocumentWrite) :
    Addresses w (ix.identify w.id?).1 ix.documents := by
  cases hid : w.id? with
  | some own =>
    exact ⟨fun _ h => Option.some.inj (hid.symm.trans h), fun h => nomatch hid.symm.trans h⟩
  | none =>
    refine ⟨fun _ h => (nomatch hid.symm.trans h), fun _ d hd heq => ?_⟩
    have hmade : d.id = madeId ix.nextNumber := heq
    exact madeId_nextNumber ix (hmade ▸ List.mem_map_of_mem hd)

/-- A write with its report keeps to the document of an identity, by the documents
before and after it. -/
structure KeepsTo (id : String) (w : DocumentWrite) (status : WriteStatus)
    (before after : List Document) : Prop where
  reported : status.id = some id
  addressed : Addresses w id before
  refused : 400 ≤ status.status → after = before
  /-- All other documents stay as they are, one behind the other. -/
  others : after.filter (fun d => d.id != id) = before.filter fun d => d.id != id
  places : Placed id before after
  /-- What creates a document leaves those that are there. -/
  create : ∀ own doc, w = .create own doc → before <+: after
  /-- What updates a document adds none. -/
  update : ∀ own doc, w = .update own doc → after.map Document.id = before.map Document.id

theorem keepsTo_refused (h : Addresses w id ds) (n : Nat) (error : String) :
    KeepsTo id w (refused id n error) ds ds where
  reported := rfl
  addressed := h
  refused _ := rfl
  others := rfl
  places := .inl rfl
  create _ _ _ := List.prefix_rfl
  update _ _ _ := rfl

theorem keepsTo_putIn (h : Addresses w id ds) {n : Nat} (hn : n < 400)
    (hcreate : ∀ own doc, w = .create own doc → ∀ d ∈ ds, d.id ≠ id)
    (hupdate : ∀ own doc, w = .update own doc → ∃ d ∈ ds, d.id = id) :
    KeepsTo id w ⟨some id, n, none⟩ ds (putIn id source ds) where
  reported := rfl
  addressed := h
  refused hrefused := absurd hn (Nat.not_lt.mpr hrefused)
  others := others_putIn id source ds
  places := placed_putIn id source ds
  create own doc hw := by
    rw [putIn_of_new (hcreate own doc hw)]
    exact List.prefix_append ds _
  update own doc hw := by
    obtain ⟨d, hd, hid⟩ := hupdate own doc hw
    rcases placed_putIn id source ds with hsame | ⟨hnew, -⟩
    · exact hsame
    · exact absurd hid (hnew d hd)

theorem keepsTo_writeAs (h : Addresses w id ix.documents) :
    KeepsTo id w (ix.writeAs id w).1 ix.documents (ix.writeAs id w).2.documents := by
  unfold writeAs
  cases hget : ix.get? id with
  | some old =>
    obtain ⟨d, hd, hid, -⟩ := find_of_get? hget
    have hthere : ∃ d ∈ ix.documents, d.id = id := ⟨d, hd, hid⟩
    cases w with
    | create own doc => exact keepsTo_refused h 409 _
    | index own doc => exact keepsTo_putIn h (by decide) nofun nofun
    | upsert own doc => exact keepsTo_putIn h (by decide) nofun nofun
    | update own doc => exact keepsTo_putIn h (by decide) nofun fun _ _ _ => hthere
  | none =>
    have hnew : ∀ d ∈ ix.documents, d.id ≠ id := by
      rintro d hd rfl
      exact get?_ne_none hd hget
    cases w with
    | create own doc => exact keepsTo_putIn h (by decide) (fun _ _ _ => hnew) nofun
    | index own doc => exact keepsTo_putIn h (by decide) nofun nofun
    | upsert own doc => exact keepsTo_putIn h (by decide) nofun nofun
    | update own doc => exact keepsTo_refused h 404 _

/-- One write keeps to the document that it addresses. -/
theorem exists_keepsTo_write (rejected : List String) (ix : Index) (w : DocumentWrite) :
    ∃ id, KeepsTo id w (ix.write rejected w).1 ix.documents (ix.write rejected w).2.documents := by
  have hdocuments := documents_identify ix w.id?
  have haddresses := addresses_identify ix w
  refine ⟨(ix.identify w.id?).1, ?_⟩
  unfold write
  dsimp only
  split
  · rw [hdocuments]
    exact keepsTo_refused haddresses 400 _
  · rw [← hdocuments] at haddresses ⊢
    exact keepsTo_writeAs haddresses

/-! ## Many writes -/

theorem length_writeAll (rejected : List String) (ws : List DocumentWrite) (ix : Index) :
    (writeAll rejected ws ix).1.length = ws.length := by
  induction ws generalizing ix with
  | nil => rfl
  | cons w ws ih => exact congrArg (· + 1) (ih (ix.write rejected w).2)

theorem writeAll_concat (rejected : List String) (ws : List DocumentWrite) (w : DocumentWrite)
    (ix : Index) : (writeAll rejected (ws ++ [w]) ix).2 =
      ((writeAll rejected ws ix).2.write rejected w).2 := by
  induction ws generalizing ix with
  | nil => rfl
  | cons v ws ih => exact ih (ix.write rejected v).2

/-- The write at a place keeps to one document of those that the writes in front of
it have left. -/
theorem exists_keepsTo_writeAll {i : Nat} (hw : ws[i]? = some w) :
    ∃ id status, (writeAll rejected ws ix).1[i]? = some status ∧
      KeepsTo id w status (writeAll rejected (ws.take i) ix).2.documents
        (writeAll rejected (ws.take (i + 1)) ix).2.documents := by
  have hi : i < (writeAll rejected ws ix).1.length := by
    rw [length_writeAll]
    exact (List.getElem?_eq_some_iff.mp hw).1
  have hplace := List.getElem?_eq_getElem hi
  obtain ⟨front, v, behind, rfl, rfl, hreport, -⟩ := exists_of_status hplace
  obtain rfl : v = w := by simpa using hw
  obtain ⟨id, hkeeps⟩ := exists_keepsTo_write rejected (writeAll rejected front ix).2 v
  have htake : (front ++ v :: behind).take (front.length + 1) = front ++ [v] :=
    List.take_length_add_append 1
  refine ⟨id, _, hplace, ?_⟩
  rw [htake, writeAll_concat, List.take_left, hreport]
  exact hkeeps

/-! ## Identities of an index -/

theorem nodup_writeAll (h : ix.ids.Nodup) : (writeAll rejected ws ix).2.ids.Nodup := by
  induction ws generalizing ix with
  | nil => exact h
  | cons w ws ih =>
    obtain ⟨id, hkeeps⟩ := exists_keepsTo_write rejected ix w
    exact ih (hkeeps.places.nodup h)

theorem nodup_seed (h : ix.ids.Nodup) (docs : List Json) : (seed idField docs ix).ids.Nodup := by
  induction docs generalizing ix with
  | nil => exact h
  | cons doc docs ih =>
    refine ih ((placed_putIn _ doc _).nodup ?_)
    have hdocuments : ((ix.identify (ownId? idField doc)).2).documents = ix.documents :=
      documents_identify ix _
    exact hdocuments ▸ h

end Index

/-! ## What is asked of an engine -/

/-- Something that is asked of an engine. -/
inductive Action where
  | seed (name idField : String) (docs : List Json)
  | write (name : String) (ws : List DocumentWrite)
  | deleteBy (name : String) (body : Json)
  | reject (id : String)
  | failNextSearch (fault : IndexFault)
  | search (name : String) (body : Json)

/-- The engine after the action, whether it succeeds or not. -/
def Action.run (e : Engine) : Action → Engine
  | .seed name idField docs => e.seed name idField docs
  | .write name ws => (e.write name ws).2
  | .deleteBy name body => (e.deleteBy name body).2
  | .reject id => e.reject id
  | .failNextSearch fault => e.failNextSearch fault
  | .search name body => (e.search name body).2

/-- What an engine without indices can become. -/
inductive Reachable : Engine → Prop
  | start : Reachable {}
  | step {e : Engine} (h : Reachable e) (action : Action) : Reachable (action.run e)

theorem Reachable.run (h : Reachable e) (actions : List Action) :
    Reachable (actions.foldl Action.run e) := by
  induction actions generalizing e with
  | nil => exact h
  | cons action actions ih => exact ih (h.step action)

namespace Engine

theorem indexOrNew_store (e : Engine) (name : String) (ix : Index) (other : String) :
    (e.store name ix).indexOrNew other = if other = name then ix else e.indexOrNew other := by
  unfold indexOrNew index? store
  rw [Fields.get?_insert]
  split <;> rfl

/-- No two documents of an index have the same identity. -/
def Distinct (e : Engine) : Prop := ∀ name, (e.indexOrNew name).ids.Nodup

theorem Distinct.store (h : e.Distinct) (name : String) (hix : ix.ids.Nodup) :
    (e.store name ix).Distinct := by
  intro other
  rw [indexOrNew_store]
  split
  · exact hix
  · exact h other

theorem Distinct.deleteBy (h : e.Distinct) (name : String) (body : Json) :
    (e.deleteBy name body).2.Distinct := by
  unfold Engine.deleteBy
  split
  · exact h
  · exact h
  · rename_i ix _ hfind
    have hindex : e.indexOrNew name = ix := by
      unfold find at hfind
      unfold indexOrNew
      split at hfind <;> simp_all
    refine h.store name ?_
    exact (hindex ▸ h name : ix.ids.Nodup).sublist (List.filter_sublist.map Document.id)

/-- What one action keeps. -/
theorem Distinct.action (h : e.Distinct) (action : Action) : (action.run e).Distinct := by
  cases action with
  | seed name idField docs => exact h.store name (Index.nodup_seed (h name) docs)
  | write name ws => exact h.store name (Index.nodup_writeAll (h name))
  | deleteBy name body => exact h.deleteBy name body
  | reject id => exact h
  | failNextSearch fault => exact h
  | search name body =>
    show (e.search name body).2.Distinct
    unfold Engine.search
    dsimp only
    split <;> exact h

end Engine

theorem Reachable.distinct (h : Reachable e) : e.Distinct := by
  induction h with
  | start => exact fun _ => List.nodup_nil
  | step _ action ih => exact ih.action action

/-! ## All documents -/

/-- Whatever was asked of an engine, the documents of an index have identities that
are all different. Many writes at once get as many reports, the one at a place that
of the write there. It keeps to one document of the index, in what the writes in
front of it have left, and the documents of other indices stay as they are. -/
theorem documents_stay_apart_and_each_write_keeps_to_its_own (h : Reachable e) :
    (∀ name, ((e.documents name).map Document.id).Nodup) ∧
    ∀ name ws, ∃ statuses, (e.write name ws).1 = .ok statuses ∧ statuses.length = ws.length ∧
      (∀ other, other ≠ name → (e.write name ws).2.documents other = e.documents other) ∧
      ∀ i w, ws[i]? = some w → ∃ id status, statuses[i]? = some status ∧
        Index.KeepsTo id w status ((e.write name (ws.take i)).2.documents name)
          ((e.write name (ws.take (i + 1))).2.documents name) := by
  refine ⟨h.distinct, fun name ws => ⟨_, rfl, Index.length_writeAll .., ?_, ?_⟩⟩
  · intro other hother
    show ((e.store name _).indexOrNew other).documents = _
    rw [Engine.indexOrNew_store, if_neg hother]
    rfl
  · intro i w hw
    have hdocuments : ∀ vs, (e.write name vs).2.documents name =
        (Index.writeAll e.rejected vs (e.indexOrNew name)).2.documents := by
      intro vs
      show ((e.store name _).indexOrNew name).documents = _
      rw [Engine.indexOrNew_store, if_pos rfl]
    rw [hdocuments, hdocuments]
    exact Index.exists_keepsTo_writeAll hw

deriving instance DecidableEq for WriteStatus

/-- A product without an identity gets the next one that is free, behind a product
that came with the first one that would be made. -/
theorem a_made_identity_is_behind_those_that_are_given :
    let actions : List Action := [.reject "9",
      .seed "products" "id" [.obj [("id", .str "auto-1")], .obj [("id", .int 7)]]]
    let e := actions.foldl Action.run {}
    let ws : List DocumentWrite := [.create (some "7") [], .create none [("name", .str "Oak")],
      .update "8" [], .upsert "9" [], .upsert "7" [("name", .str "Ash")]]
    let statuses := [Index.refused "7" 409 "version_conflict_engine_exception",
      ⟨some "auto-2", 201, none⟩, Index.refused "8" 404 "document_missing_exception",
      Index.refused "9" 400 "mapper_parsing_exception", ⟨some "7", 200, none⟩]
    (e.write "products" ws).1 = .ok statuses ∧
    ((e.write "products" ws).2.documents "products").map Document.id = ["auto-1", "7", "auto-2"] ∧
    ((e.documents "products").map Document.id).Nodup ∧
    Index.KeepsTo "auto-2" (.create none [("name", .str "Oak")]) ⟨some "auto-2", 201, none⟩
      ((e.write "products" (ws.take 1)).2.documents "products")
      ((e.write "products" (ws.take 2)).2.documents "products") := by
  intro actions e ws statuses
  have hreachable : Reachable e := Reachable.start.run actions
  obtain ⟨found, hwrite, hsame⟩ : ∃ found, (e.write "products" ws).1 = .ok found ∧ _ :=
    exists_of_any (p := fun found => decide (found = statuses)) (by decide +kernel)
  obtain rfl := of_decide_eq_true hsame
  obtain ⟨hnodup, hwrites⟩ := documents_stay_apart_and_each_write_keeps_to_its_own hreachable
  obtain ⟨found, hfound, -, -, hplaces⟩ := hwrites "products" ws
  obtain rfl : found = statuses := Except.ok.inj (hfound.symm.trans hwrite)
  obtain ⟨id, status, hstatus, hkeeps⟩ := hplaces 1 _ rfl
  obtain rfl := Option.some.inj hstatus
  obtain rfl : "auto-2" = id := Option.some.inj hkeeps.reported
  exact ⟨hwrite, by decide +kernel, hnodup "products", hkeeps⟩

end EntityStore.Indices
