-- Writes that change a table in place. The variables of a write are copies, which
-- become the table when all is done, so wherever a write stops it leaves no trace.
-- What is done step by step is what is done to the table as a whole, as long as
-- counts are numbers of 64 bits.
import EntityStore.Proofs.Tables.Placing
import EntityStore.Tables.Engine

namespace EntityStore.Tables

/-! ## Failures in place -/

open InPlace (steps finish start commit)

variable {s : Shape} {t : Table} {checks : Bool} {columns onDuplicate : List String} {stop : Stop}

/-- Steps that each leave the stored table as it is leave it so, wherever they
stop. -/
theorem InPlace.stored_steps {α : Type} {step : Working → α → Option Stop × Working}
    (hstep : ∀ w x, (step w x).2.stored = w.stored) (xs : List α) (w : Working) :
    (steps step xs w).2.stored = w.stored := by
  induction xs generalizing w with
  | nil => rfl
  | cons x xs ih =>
    have hfirst := hstep w x
    unfold steps
    split
    · rename_i next hnext
      rw [hnext] at hfirst
      exact (ih next).trans hfirst
    · rename_i stop next hnext
      rw [hnext] at hfirst
      exact hfirst

theorem InPlace.stored_place (checks : Bool) (s : Shape) (columns onDuplicate : List String)
    (w : Working) (vs : List Value) :
    (InPlace.place checks s columns onDuplicate w vs).2.stored = w.stored := by
  unfold InPlace.place
  split
  · rfl
  · dsimp only
    split
    · rfl
    · split <;> rfl

theorem InPlace.stored_updateRow (s : Shape) (u : Sql.Update) (w : Working) (i : Nat) :
    (InPlace.updateRow s u w i).2.stored = w.stored := by
  unfold InPlace.updateRow
  dsimp only
  split
  · rfl
  · split
    · rfl
    · split <;> rfl

/-- Such steps end with the stored table when they stop. -/
theorem InPlace.finish_of_stop {α : Type} {step : Working → α → Option Stop × Working}
    (hstep : ∀ w x, (step w x).2.stored = w.stored) {xs : List α} {w : Working}
    (h : (finish (steps step xs w)).1 = .error stop) :
    (finish (steps step xs w)).2 = w.stored := by
  have hstored := InPlace.stored_steps hstep xs w
  cases hsteps : steps step xs w with
  | mk r after =>
    rw [hsteps] at h hstored
    cases r with
    | none => cases h
    | some stop => exact hstored

theorem InPlace.insert_of_stop {i : Sql.Insert}
    (h : (InPlace.insert checks t i).1 = .error stop) : (InPlace.insert checks t i).2 = t := by
  unfold InPlace.insert at h ⊢
  split at h
  · rfl
  · exact InPlace.finish_of_stop (InPlace.stored_place checks _ _ _) h

theorem InPlace.update_of_stop {u : Sql.Update} (h : (InPlace.update t u).1 = .error stop) :
    (InPlace.update t u).2 = t := by
  unfold InPlace.update at h ⊢
  split at h
  · rfl
  · exact InPlace.finish_of_stop (fun w i => InPlace.stored_updateRow _ u w i) h

/-! ## Writes in place and writes as a whole -/

/-- The table with its count as a number of 64 bits. -/
def Table.narrow (t : Table) : Table := { t with nextId := word t.nextId }

@[simp] theorem Table.shape_narrow (t : Table) : t.narrow.shape = t.shape := rfl

/-- The variables of a write to a table, with the count as a number of 64 bits. -/
def Filling.inPlace (f : Filling) (t : Table) : Working :=
  { f with nextId := word f.nextId, stored := t }

/-- A write that is made of a table as a whole, as one in place. -/
def settle (t : Table) : Except TableFault Written → Except Stop Nat × Table
  | .ok (n, next) => (.ok n, next.narrow)
  | .error f => (.error (.fault f), t.narrow)

/-- Steps in place come to the rows that steps as a whole come to, or stop with
their fault. -/
def Mirrors (t : Table) (r : Option Stop × Working) : Except TableFault Filling → Prop
  | .ok g => r = (none, g.inPlace t)
  | .error f => r.1 = some (.fault f)

theorem mirrors_steps {α : Type} {step : Working → α → Option Stop × Working}
    {whole : Filling → α → Except TableFault Filling}
    (hstep : ∀ f x, Mirrors t (step (f.inPlace t) x) (whole f x)) (xs : List α) (f : Filling) :
    Mirrors t (steps step xs (f.inPlace t)) (xs.foldlM whole f) := by
  induction xs generalizing f with
  | nil => rfl
  | cons x xs ih =>
    have hfirst := hstep f x
    rw [List.foldlM_cons]
    cases hwhole : whole f x with
    | ok g =>
      rw [hwhole] at hfirst
      have hnext : step (f.inPlace t) x = (none, g.inPlace t) := hfirst
      rw [steps, hnext]
      exact ih g
    | error fault =>
      rw [hwhole] at hfirst
      have hstop : (step (f.inPlace t) x).1 = some (.fault fault) := hfirst
      rw [steps]
      cases hend : step (f.inPlace t) x with
      | mk r w =>
        rw [hend] at hstop
        obtain rfl : r = some (.fault fault) := hstop
        rfl

/-- What such steps end in. -/
theorem Mirrors.finish {r : Option Stop × Working} {x : Except TableFault Filling}
    (h : Mirrors t.narrow r x) (hstored : r.2.stored = t.narrow) :
    finish r = settle t (x.map fun f =>
      (f.affected, { t with rows := f.rows, nextId := f.nextId })) := by
  obtain ⟨r, w⟩ := r
  cases x with
  | ok g =>
    obtain ⟨rfl, rfl⟩ := Prod.mk.inj h
    rfl
  | error fault =>
    obtain rfl : r = some (.fault fault) := h
    have hstored : w.stored = t.narrow := hstored
    show (Except.error (Stop.fault fault), w.stored) = _
    rw [hstored]
    rfl

theorem InPlace.assignId_eq (s : Shape) (row : Row) (n : Int) :
    InPlace.assignId false s row (word n) =
      some ((Tables.assignId s row n).1, word (Tables.assignId s row n).2) := by
  unfold InPlace.assignId Tables.assignId
  split
  · simp [InPlace.succ?, word_word_add_one]
  · simp [InPlace.succ?, word_word_add_one]
  · simp [InPlace.succ?, word_countPast]
  · rfl

theorem mirrors_place (s : Shape) (columns onDuplicate : List String) (f : Filling)
    (vs : List Value) :
    Mirrors t (InPlace.place false s columns onDuplicate (f.inPlace t) vs)
      (place s columns onDuplicate f vs) := by
  have hid : InPlace.assignId false s (incomingRow s columns vs) (f.inPlace t).nextId = _ :=
    InPlace.assignId_eq s (incomingRow s columns vs) f.nextId
  unfold InPlace.place place
  rw [hid]
  dsimp only [Filling.inPlace]
  cases s.conflict? f.rows (assignId s (incomingRow s columns vs) f.nextId).1 none with
  | none => rfl
  | some conflict => cases onDuplicate <;> rfl

/-- An insert in place is the insert of the table as a whole. -/
theorem InPlace.insert_eq (t : Table) (i : Sql.Insert) :
    InPlace.insert false t.narrow i = settle t (Tables.insert t i) := by
  unfold InPlace.insert Tables.insert
  rw [Table.shape_narrow]
  cases i.columns.forM t.shape.checkColumn with
  | error f => rfl
  | ok _ =>
    have hmirrors := mirrors_steps (t := t.narrow)
      (mirrors_place t.shape i.columns i.onDuplicate) i.rows ⟨t.rows, t.nextId, 0⟩
    have hstored := InPlace.stored_steps
      (InPlace.stored_place false t.shape i.columns i.onDuplicate) i.rows (start t.narrow)
    refine (hmirrors.finish hstored).trans ?_
    cases i.rows.foldlM (Tables.place t.shape i.columns i.onDuplicate) ⟨t.rows, t.nextId, 0⟩ <;>
      rfl

/-- What is done with the row behind those that are done. -/
theorem InPlace.updateRow_eq (u : Sql.Update) (nextId : Int) (done rest : List Row) (row : Row)
    (n : Nat) : InPlace.updateRow s u (Filling.inPlace ⟨done ++ row :: rest, nextId, n⟩ t)
        done.length =
      if !u.predicate.holds row || !(assignAll row u.assignments).2 then
        (none, Filling.inPlace ⟨done ++ row :: rest, nextId, n⟩ t)
      else
        let next := (assignAll row u.assignments).1
        match s.conflict? (done ++ next :: rest) next (some done.length) with
        | some conflict =>
          (some (.fault conflict.fault), Filling.inPlace ⟨done ++ next :: rest, nextId, n⟩ t)
        | none => (none, Filling.inPlace ⟨done ++ next :: rest, nextId, n + 1⟩ t) := by
  unfold InPlace.updateRow Filling.inPlace
  cases hholds : u.predicate.holds row with
  | false => simp [hholds]
  | true =>
    cases hchanged : (assignAll row u.assignments).2 with
    | false => simp [hholds, hchanged]
    | true =>
      cases hconflict : s.conflict? (done ++ (assignAll row u.assignments).1 :: rest)
        (assignAll row u.assignments).1 (some done.length) <;> simp [hholds, hchanged, hconflict]

-- The place of a row is the number of those that are done, so the induction on the
-- rows that are left goes along with the places.
theorem mirrors_updateRows (u : Sql.Update) (nextId : Int) (done rest : List Row) (n : Nat) :
    Mirrors t (steps (InPlace.updateRow s u) (List.range' done.length rest.length)
        (Filling.inPlace ⟨done ++ rest, nextId, n⟩ t))
      ((updateRows s u done rest n).map fun (n, rows) => ⟨rows, nextId, n⟩) := by
  induction rest generalizing done n with
  | nil =>
    rw [List.append_nil]
    rfl
  | cons row rest ih =>
    have hgo : ∀ (next : Row) (n : Nat), Mirrors t
        (steps (InPlace.updateRow s u) (List.range' (done.length + 1) rest.length)
          (Filling.inPlace ⟨done ++ next :: rest, nextId, n⟩ t))
        ((updateRows s u (done ++ [next]) rest n).map fun (n, rows) => ⟨rows, nextId, n⟩) := by
      intro next n
      have hrest := ih (done ++ [next]) n
      rwa [List.length_append, List.length_singleton, List.append_assoc, List.singleton_append]
        at hrest
    rw [List.length_cons, List.range'_succ, steps, InPlace.updateRow_eq, updateRows]
    dsimp only
    cases u.predicate.holds row with
    | false => exact hgo row n
    | true =>
      cases (assignAll row u.assignments).2 with
      | false => exact hgo row n
      | true =>
        simp only [Bool.not_true, Bool.or_self, Bool.false_eq_true, ↓reduceIte]
        cases s.conflict? (done ++ (assignAll row u.assignments).1 :: rest)
            (assignAll row u.assignments).1 (some done.length) with
        | some conflict => rfl
        | none => exact hgo _ (n + 1)

/-- An update in place is the update of the table as a whole. -/
theorem InPlace.update_eq (t : Table) (u : Sql.Update) :
    InPlace.update t.narrow u = settle t (Tables.update t u) := by
  unfold InPlace.update Tables.update
  rw [Table.shape_narrow]
  generalize (u.assignments.forM _ : Except TableFault PUnit) = checked
  cases checked with
  | error f => rfl
  | ok _ =>
    have hmirrors := mirrors_updateRows (t := t.narrow) (s := t.shape) u t.nextId [] t.rows 0
    have hstored := InPlace.stored_steps (fun w i => InPlace.stored_updateRow t.shape u w i)
      (List.range' 0 t.rows.length) (start t.narrow)
    refine (hmirrors.finish hstored).trans ?_
    cases updateRows t.shape u [] t.rows 0 <;> rfl

/-! ## Checked sums -/

/-- What is done where sums are checked is the same, or it stops at a number behind
the largest one. -/
def Checked {α : Type} (r r' : Option Stop × α) : Prop := r = r' ∨ r.1 = some .overflow

theorem checked_steps {α : Type} {step step' : Working → α → Option Stop × Working}
    (hstep : ∀ w x, Checked (step w x) (step' w x)) (xs : List α) (w : Working) :
    Checked (steps step xs w) (steps step' xs w) := by
  induction xs generalizing w with
  | nil => exact .inl rfl
  | cons x xs ih =>
    rw [steps, steps]
    rcases hstep w x with hsame | hstop
    · rw [hsame]
      split
      · exact ih _
      · exact .inl rfl
    · refine .inr ?_
      cases hend : step w x with
      | mk r after =>
        rw [hend] at hstop
        obtain rfl : r = some .overflow := hstop
        rfl

theorem checked_place (s : Shape) (columns onDuplicate : List String) (w : Working)
    (vs : List Value) :
    Checked (InPlace.place true s columns onDuplicate w vs)
      (InPlace.place false s columns onDuplicate w vs) := by
  have hid : InPlace.assignId true s (incomingRow s columns vs) w.nextId =
      InPlace.assignId false s (incomingRow s columns vs) w.nextId ∨
        InPlace.assignId true s (incomingRow s columns vs) w.nextId = none := by
    have hsucc : ∀ n, InPlace.succ? true n = InPlace.succ? false n ∨ InPlace.succ? true n = none := by
      intro n
      unfold InPlace.succ?
      by_cases hn : n = Value.maxInt <;> simp [hn]
    unfold InPlace.assignId
    split
    · rcases hsucc w.nextId with h | h <;> simp [h]
    · rcases hsucc w.nextId with h | h <;> simp [h]
    · rename_i id _
      rcases hsucc id with h | h <;> simp [h]
    · exact .inl rfl
  unfold InPlace.place
  rcases hid with hsame | hnone
  · rw [hsame]
    exact .inl rfl
  · rw [hnone]
    exact .inr rfl

/-- Where sums are checked an insert in place is the same, or it stops at a number
behind the largest one and leaves the table as it was. -/
theorem InPlace.insert_checked (t : Table) (i : Sql.Insert) :
    InPlace.insert true t i = InPlace.insert false t i ∨
      InPlace.insert true t i = (.error .overflow, t) := by
  have hstored := InPlace.stored_steps
    (InPlace.stored_place true t.shape i.columns i.onDuplicate) i.rows (start t)
  unfold InPlace.insert
  split
  · exact .inl rfl
  · rcases checked_steps (checked_place t.shape i.columns i.onDuplicate) i.rows (start t) with
      hsame | hstop
    · rw [hsame]
      exact .inl rfl
    · refine .inr ?_
      cases hend : steps (InPlace.place true t.shape i.columns i.onDuplicate) i.rows (start t) with
      | mk r w =>
        rw [hend] at hstop hstored
        obtain rfl : r = some .overflow := hstop
        exact congrArg _ hstored

/-! ## Tables in place -/

variable {ts : Tables} {name : String} {e : Engine}

theorem get?_of_find (h : ts.find name = .ok t) : Fields.get? ts name = some t := by
  unfold find at h
  split at h
  · cases h
    assumption
  · cases h

theorem Engine.writeInPlace_of_stop {stop : Stop} {f : Table → Except Stop Nat × Table}
    (hf : ∀ t stop, (f t).1 = .error stop → (f t).2 = t) (hts : Fields.Ordered ts)
    (h : (Engine.writeInPlace ts name f).1 = .error stop) :
    (Engine.writeInPlace ts name f).2 = ts := by
  unfold Engine.writeInPlace at h ⊢
  split at h
  · rfl
  · rename_i t ht
    have hkept : (f t).2 = t := by
      cases hr : (f t).1 with
      | ok n =>
        dsimp only at h
        rw [hr] at h
        cases h
      | error stop => exact hf t stop hr
    dsimp only
    rw [hkept]
    exact hts.insert_eq_self (get?_of_find ht)

/-- The tables with their counts as numbers of 64 bits. -/
def narrowed (ts : Tables) : Tables := Fields.mapValues Table.narrow ts

theorem find_narrowed : (narrowed ts).find name = (ts.find name).map Table.narrow := by
  unfold find narrowed
  rw [Fields.get?_mapValues]
  cases Fields.get? ts name <;> rfl

/-- Queries do not look at counts. -/
theorem sourceRows_narrowed (q : Sql.Query) : sourceRows (narrowed ts) q = sourceRows ts q := by
  have hjoin : joinTable (narrowed ts) = joinTable ts := by
    funext left j
    unfold joinTable
    rw [find_narrowed]
    cases ts.find j.table <;> rfl
  unfold sourceRows
  rw [hjoin, find_narrowed]
  cases ts.find q.table <;> rfl

theorem Engine.write_of_find (w : Table → Except TableFault Written)
    (ht : ts.find name = .ok t) : Engine.write ts name w =
      (w t).map fun written => (.affected written.1, Engine.store ts name written.2) := by
  unfold Engine.write
  rw [ht]
  show (w t >>= _) = _
  cases w t <;> rfl

/-- What a statement makes of all tables as a whole, as one in place. -/
def settleAll (ts : Tables) :
    Except TableFault (Output × Tables) → Except Stop Output × Tables
  | .ok (out, after) => (.ok out, narrowed after)
  | .error f => (.error (.fault f), narrowed ts)

theorem Engine.writeInPlace_eq {w : Table → Except TableFault Written}
    {f : Table → Except Stop Nat × Table} (hf : ∀ t, f t.narrow = settle t (w t))
    (hts : Fields.Ordered ts) :
    Engine.writeInPlace (narrowed ts) name f = settleAll ts (Engine.write ts name w) := by
  have hput : ∀ next : Table, Engine.store (narrowed ts) name next.narrow =
      narrowed (Engine.store ts name next) := fun next => (Fields.mapValues_insert ..).symm
  unfold Engine.writeInPlace
  rw [find_narrowed]
  cases ht : ts.find name with
  | error fault =>
    unfold Engine.write
    rw [ht]
    rfl
  | ok t =>
    dsimp only [Except.map]
    rw [hf, Engine.write_of_find w ht]
    cases w t with
    | ok written =>
      dsimp only [settle]
      rw [hput]
      rfl
    | error fault =>
      dsimp only [settle]
      rw [hput, Engine.store, hts.insert_eq_self (get?_of_find ht)]
      rfl

/-- A statement that stops in place leaves all tables as they were, wherever it
stops. -/
theorem Engine.tables_runInPlace_of_stop {checks : Bool} {st : Sql.Statement} {stop : Stop}
    (he : Fields.Ordered e.tables) (h : (e.runInPlace checks st).1 = .error stop) :
    (e.runInPlace checks st).2.tables = e.tables := by
  unfold Engine.runInPlace at h ⊢
  split at h
  · rfl
  · dsimp only at h ⊢
    cases st with
    | select q => rfl
    | count q => rfl
    | insert i => exact Engine.writeInPlace_of_stop (fun _ _ => InPlace.insert_of_stop) he h
    | update u => exact Engine.writeInPlace_of_stop (fun _ _ => InPlace.update_of_stop) he h
    | delete d => exact Engine.writeInPlace_of_stop (fun _ _ hstop => nomatch hstop) he h

/-- Statements that change the tables in place do what statements do, with counts as
numbers of 64 bits. -/
theorem Engine.applyInPlace_eq (hts : Fields.Ordered ts) (st : Sql.Statement) :
    Engine.applyInPlace false (narrowed ts) st = settleAll ts (Engine.apply ts st) := by
  cases st with
  | select q =>
    have hselect : Tables.select (narrowed ts) q = Tables.select ts q := by
      unfold select
      rw [sourceRows_narrowed]
    show (((Tables.select (narrowed ts) q).mapError Stop.fault).map Output.rows, _) = _
    rw [hselect]
    show _ = settleAll ts (Tables.select ts q >>= _)
    cases Tables.select ts q <;> rfl
  | count q =>
    have hcount : Tables.count (narrowed ts) q = Tables.count ts q := by
      unfold count
      rw [sourceRows_narrowed]
    show (((Tables.count (narrowed ts) q).mapError Stop.fault).map Output.counted, _) = _
    rw [hcount]
    show _ = settleAll ts (Tables.count ts q >>= _)
    cases Tables.count ts q <;> rfl
  | insert i => exact Engine.writeInPlace_eq (fun t => InPlace.insert_eq t i) hts
  | update u => exact Engine.writeInPlace_eq (fun t => InPlace.update_eq t u) hts
  | delete d =>
    have hdelete : ∀ t : Table, InPlace.delete t.narrow d = settle t (.ok (Tables.delete t d)) :=
      fun _ => rfl
    exact Engine.writeInPlace_eq (w := fun t => .ok (Tables.delete t d)) (f := (InPlace.delete · d))
      hdelete hts

/-- Where sums are checked a statement does the same in place, or it stops at a number
behind the largest one and leaves the tables as they were. -/
theorem Engine.applyInPlace_checked (hts : Fields.Ordered ts) (st : Sql.Statement) :
    Engine.applyInPlace true ts st = Engine.applyInPlace false ts st ∨
      Engine.applyInPlace true ts st = (.error .overflow, ts) := by
  cases st with
  | insert i =>
    show Engine.writeInPlace ts i.table (InPlace.insert true · i) =
        Engine.writeInPlace ts i.table (InPlace.insert false · i) ∨
      Engine.writeInPlace ts i.table (InPlace.insert true · i) = _
    unfold Engine.writeInPlace
    cases ht : ts.find i.table with
    | error fault => exact .inl rfl
    | ok t =>
      rcases InPlace.insert_checked t i with hsame | hstop
      · dsimp only
        rw [hsame]
        exact .inl rfl
      · dsimp only
        rw [hstop, Engine.store, hts.insert_eq_self (get?_of_find ht)]
        exact .inr rfl
  | _ => exact .inl rfl

end EntityStore.Tables
