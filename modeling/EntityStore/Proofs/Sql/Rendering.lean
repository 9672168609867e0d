-- What a rendered statement says. Its text is read by the rules of the
-- language, with the parameters at their places, and the condition read
-- there is the predicate of the statement.
import EntityStore.Proofs.Fallible
import EntityStore.Proofs.Sql.Grammar
import EntityStore.Proofs.Sql.Plain

namespace EntityStore.Sql

open Piece (said said_cons said_append said_nil separate join params Legible)

/-! ## Reading statements -/

/-- What may follow the condition of a statement. -/
def endsCondition : List (Token Value) → Bool
  | [] => true
  | .word "GROUP" :: _ => true
  | .word "ORDER" :: _ => true
  | .word "LIMIT" :: _ => true
  | .sign ")" :: _ => true
  | _ => false

/-- The condition of a statement, if it has one. A text where anything else
follows its condition is not read. -/
def readWhere (ts : List (Token Value)) : Option (Option Predicate) :=
  match ts.dropWhile fun t => !t.isWhere with
  | [] => some none
  | _ :: ts =>
    match readPredicate ts with
    | some (p, rest) => if endsCondition rest then some (some p) else none
    | none => none

/-- The predicate of a statement, if it has one. -/
def Statement.predicate? : Statement → Option Predicate
  | .select q => q.predicate
  | .count q => q.predicate
  | .insert _ => none
  | .update s => some s.predicate
  | .delete s => some s.predicate

/-- No output of the query is an expression as the caller wrote it. -/
def Query.HasNoRaw (q : Query) : Prop := ∀ item ∈ q.items, ∀ expression, item ≠ .raw expression

def Statement.HasNoRaw : Statement → Prop
  | .select q => q.HasNoRaw
  | .count q => q.HasNoRaw
  | _ => True

/-! ## Parts of statements -/

theorem plain_aggregate (a : Aggregate) : Plain a.pieces := by
  cases a with
  | count => exact .word rfl
  | countDistinct c => exact .afterWord rfl rfl ((plain_column c).beforeWord rfl (.word rfl))
  | sum c => exact .afterWord rfl rfl ((plain_column c).beforeWord rfl (.word rfl))
  | min c => exact .afterWord rfl rfl ((plain_column c).beforeWord rfl (.word rfl))
  | max c => exact .afterWord rfl rfl ((plain_column c).beforeWord rfl (.word rfl))
  | avg c => exact .afterWord rfl rfl ((plain_column c).beforeWord rfl (.word rfl))

theorem plain_item {item : Item} (h : ∀ expression, item ≠ .raw expression) :
    Plain item.pieces := by
  cases item with
  | column c label => exact (plain_column c).append (plain_label _) (starts_label _)
  | raw expression => exact absurd rfl (h expression)
  | aggregate a label => exact (plain_aggregate a).append (plain_label _) (starts_label _)

theorem plain_select {q : Query} (h : q.HasNoRaw) : Plain q.selectPieces := by
  have hitems : Plain (if q.items.isEmpty then
      if q.joins.isEmpty then [Piece.word "*"] else [.ident q.reference, .word ".*"]
    else separate ", " (q.items.map Item.pieces)) := by
    split
    · split
      · exact .word rfl
      · exact (Plain.ident _).beforeWord rfl (.word rfl)
    · refine .separated rfl rfl rfl ?_
      simp only [List.forall_mem_map]
      exact fun item hitem => plain_item (h item hitem)
  unfold Query.selectPieces
  cases q.distinct with
  | true => exact .afterWord rfl rfl (.afterWord rfl rfl hitems)
  | false => exact .afterWord rfl rfl hitems

theorem plain_join {j : Join} {ps : List Piece} (h : j.pieces = .ok ps) :
    Plain ps ∧ Starts ps := by
  have hhead : Plain (.word j.kind.words :: .ident j.table :: labelPieces j.label) ∧
      startsToken j.kind.words = true := by
    have htable := (Plain.ident j.table).append (plain_label j.label) (starts_label j.label)
    cases j.kind with
    | _ => exact ⟨.afterWord rfl rfl htable, rfl⟩
  unfold Join.pieces at h
  split at h
  · cases h
    exact ⟨hhead.1, starts_word hhead.2⟩
  · split at h
    · rename_i left right _ _
      cases h
      have hon : Plain (.word " ON " :: dottedPieces left ++ .word " = " :: dottedPieces right) :=
        .afterWord rfl rfl ((plain_dottedPieces left).beforeWord rfl
          (.afterWord rfl rfl (plain_dottedPieces right)))
      refine ⟨?_, starts_word hhead.2⟩
      rw [List.append_assoc]
      exact hhead.1.append hon (starts_word rfl)
    · cases h

/-- The page of a query begins with its limit. -/
theorem endsCondition_limit {w : String} {words : List String}
    (hw : tokens? w = some (("LIMIT" :: words).map .word)) :
    endsCondition (said [.word w]) = true := by
  rw [said_cons, said_nil, List.append_nil, Piece.tokens, wordTokens?_of_tokens? hw]
  rfl

theorem plain_page (limit : Option Nat) (offset : Nat) :
    Plain (pageWords limit offset) ∧ Starts (pageWords limit offset) ∧
      endsCondition (said (pageWords limit offset)) = true := by
  have hlimit : ∀ n : Nat, Plain [.word (" LIMIT " ++ toString n)] ∧
      Starts [.word (" LIMIT " ++ toString n)] ∧
      endsCondition (said [.word (" LIMIT " ++ toString n)]) = true := by
    intro n
    have htokens := tokens?_limit n
    refine ⟨.word (isQuiet_of_tokens? htokens ?_), starts_word (startsToken_append rfl _),
      endsCondition_limit htokens⟩
    simp only [List.forall_mem_cons]
    exact ⟨rfl, isWhere_toString n, nofun⟩
  have hboth : ∀ n k : Nat, Plain [.word (" LIMIT " ++ toString n ++ " OFFSET " ++ toString k)] ∧
      Starts [.word (" LIMIT " ++ toString n ++ " OFFSET " ++ toString k)] ∧
      endsCondition (said [.word (" LIMIT " ++ toString n ++ " OFFSET " ++ toString k)]) =
        true := by
    intro n k
    have htokens := tokens?_limit_offset n k
    refine ⟨.word (isQuiet_of_tokens? htokens ?_), starts_word ?_, endsCondition_limit htokens⟩
    · simp only [List.forall_mem_cons]
      exact ⟨rfl, isWhere_toString n, rfl, isWhere_toString k, nofun⟩
    · rw [String.append_assoc]
      exact startsToken_append (startsToken_append rfl _) _
  unfold pageWords
  split
  · exact hlimit _
  · exact hboth _ _
  · exact ⟨.nil, .inl rfl, rfl⟩
  · exact hboth _ _

/-! ## Statements around their conditions -/

def wherePieces : Option Predicate → List Piece
  | some p => .word " WHERE " :: p.pieces false
  | none => []

/-- The pieces of a statement: a beginning, the condition, and an end that may
follow a condition. -/
structure Frames (p? : Option Predicate) (before behind ps : List Piece) : Prop where
  eq : ps = before ++ (wherePieces p? ++ behind)
  plain_before : Plain before
  plain_behind : Plain behind
  starts : Starts behind
  ends : endsCondition (said behind) = true

theorem endsCondition_append {ts us : List (Token Value)} (hts : endsCondition ts = true)
    (hus : endsCondition us = true) : endsCondition (ts ++ us) = true := by
  unfold endsCondition at hts
  split at hts
  · exact hus
  · rfl
  · rfl
  · rfl
  · rfl
  · cases hts

namespace Frames

variable {p? : Option Predicate} {before behind ps : List Piece}

theorem starts_where (h : Frames p? before behind ps) : Starts (wherePieces p? ++ behind) := by
  cases p? with
  | none => exact h.starts
  | some p => exact starts_word rfl

theorem legible (h : Frames p? before behind ps) : Legible ps := by
  have hwhere : Legible (wherePieces p? ++ behind) := by
    cases p? with
    | none => exact h.plain_behind.legible
    | some p =>
      exact .afterWord rfl rfl
        (legible_append (plain_predicate false p).legible h.plain_behind.legible h.starts)
  rw [h.eq]
  exact legible_append h.plain_before.legible hwhere h.starts_where

/-- The condition that is read is the predicate. -/
theorem readWhere_said (h : Frames p? before behind ps) :
    readWhere (said ps) = some (p?.map Predicate.canonical) := by
  have hbefore : ∀ t ∈ said before, (!t.isWhere) = true := by
    intro t ht
    rw [h.plain_before.quiet t ht]
    rfl
  rw [h.eq, said_append, readWhere, List.dropWhile_append_of_pos hbefore]
  cases p? with
  | none =>
    have hquiet : ∀ t ∈ said behind, (!t.isWhere) = true := by
      intro t ht
      rw [h.plain_behind.quiet t ht]
      rfl
    have hbehind : (said behind ++ []).dropWhile (fun t : Token Value => !t.isWhere) = [] :=
      List.dropWhile_append_of_pos hquiet
    rw [List.append_nil] at hbehind
    show (match (said behind).dropWhile _ with
      | [] => some none
      | _ :: ts => _) = _
    rw [hbehind]
    rfl
  | some p =>
    have hends := h.ends
    have hread : readPredicate (said (p.pieces false) ++ said behind) =
        some (p.canonical, said behind) := by
      apply readPredicate_said
      · intro more heq
        rw [heq] at hends
        cases hends
      · intro more heq
        rw [heq] at hends
        cases hends
    show (match readPredicate (said (p.pieces false ++ behind)) with
      | some (p, rest) => if endsCondition rest then some (some p) else none
      | none => none) = _
    rw [said_append, hread]
    show (if endsCondition (said behind) = true then _ else _) = _
    rw [if_pos hends]
    rfl

/-- More pieces in front. -/
theorem prepend (h : Frames p? before behind ps) {front : List Piece} (hfront : Plain front)
    (hstarts : Starts before) : Frames p? (front ++ before) behind (front ++ ps) where
  eq := by rw [h.eq, List.append_assoc]
  plain_before := hfront.append h.plain_before hstarts
  plain_behind := h.plain_behind
  starts := h.starts
  ends := h.ends

/-- More pieces at the end. -/
theorem append (h : Frames p? before behind ps) {back : List Piece} (hback : Plain back)
    (hstarts : Starts back) (hends : endsCondition (said back) = true) :
    Frames p? before (behind ++ back) (ps ++ back) where
  eq := by rw [h.eq, List.append_assoc, List.append_assoc]
  plain_before := h.plain_before
  plain_behind := h.plain_behind.append hback hstarts
  starts := h.starts.append hstarts
  ends := by
    rw [said_append]
    exact endsCondition_append h.ends hends

end Frames

/-! ## Kinds of statements -/

/-- The groups of a query, as its text names them. -/
def groupPieces (q : Query) : List Piece :=
  if q.groupBy.isEmpty then []
  else .word " GROUP BY " :: separate ", " (q.groupBy.map Column.pieces)

theorem fromPieces_eq_ok {q : Query} {ps : List Piece} (h : q.fromPieces = .ok ps) :
    ∃ joins, q.joins.mapM Join.pieces = .ok joins ∧
      ps = (.word " FROM " :: .ident q.table :: labelPieces q.label ++ joins.flatten) ++
        (wherePieces q.predicate ++ groupPieces q) := by
  unfold Query.fromPieces at h
  cases htable : q.table.isEmpty with
  | true =>
    rw [htable] at h
    cases h
  | false =>
    simp only [htable, Bool.false_eq_true, if_false] at h
    obtain ⟨joins, hjoins, h⟩ := bind_eq_ok_iff.mp h
    refine ⟨joins, hjoins, ?_⟩
    cases hpredicate : q.predicate with
    | none =>
      rw [hpredicate] at h
      cases h
      simp [wherePieces, groupPieces]
    | some p =>
      rw [hpredicate] at h
      obtain ⟨-, -, h⟩ := bind_eq_ok_iff.mp h
      cases h
      simp [wherePieces, groupPieces]

theorem plain_groups (q : Query) : Plain (groupPieces q) ∧ Starts (groupPieces q) ∧
    endsCondition (said (groupPieces q)) = true := by
  unfold groupPieces
  split
  · exact ⟨.nil, .inl rfl, rfl⟩
  · refine ⟨.afterWord rfl rfl (.separated rfl rfl rfl ?_), starts_word rfl, rfl⟩
    simp only [List.forall_mem_map]
    exact fun c _ => plain_column c

theorem frames_from {q : Query} {ps : List Piece} (h : q.fromPieces = .ok ps) :
    ∃ before behind, Frames q.predicate before behind ps ∧ Starts before := by
  obtain ⟨joins, hjoins, heq⟩ := fromPieces_eq_ok h
  have hplain : ∀ ps ∈ joins, Plain ps ∧ Starts ps := by
    intro ps hps
    obtain ⟨j, -, hj⟩ := exists_of_mem_mapM hjoins hps
    exact plain_join hj
  obtain ⟨hgroups, hstarts, hends⟩ := plain_groups q
  refine ⟨_, groupPieces q, ⟨heq, ?_, hgroups, hstarts, hends⟩, starts_word rfl⟩
  have htable := (Plain.ident q.table).append (plain_label q.label) (starts_label q.label)
  exact Plain.append (.afterWord rfl rfl htable) (.flatten hplain)
    (.flatten fun ps hps => (hplain ps hps).2)

/-- The order of a query, as its text names it. -/
def orderPieces (q : Query) : List Piece :=
  if q.orderBy.isEmpty then []
  else .word " ORDER BY " ::
    separate ", " (q.orderBy.map fun (c, d) => c.pieces ++ [.word d.words])

theorem plain_order (q : Query) : Plain (orderPieces q) ∧ Starts (orderPieces q) ∧
    endsCondition (said (orderPieces q)) = true := by
  unfold orderPieces
  split
  · exact ⟨.nil, .inl rfl, rfl⟩
  · refine ⟨.afterWord rfl rfl (.separated rfl rfl rfl ?_), starts_word rfl, rfl⟩
    simp only [List.forall_mem_map]
    intro (c, d) _
    have hwords : isQuiet d.words = true ∧ startsToken d.words = true := by
      cases d <;> exact ⟨rfl, rfl⟩
    exact (plain_column c).beforeWord hwords.2 (.word hwords.1)

theorem frames_query {q : Query} {ps : List Piece} (hraw : q.HasNoRaw) (h : q.pieces = .ok ps) :
    ∃ before behind, Frames q.predicate before behind ps := by
  obtain ⟨tables, htables, h⟩ := bind_eq_ok_iff.mp h
  cases h
  obtain ⟨before, behind, hframes, hstarts⟩ := frames_from htables
  obtain ⟨horder, hstartsOrder, hendsOrder⟩ := plain_order q
  obtain ⟨hpage, hstartsPage, hendsPage⟩ := plain_page q.limit q.offset
  exact ⟨_, _, ((hframes.prepend (plain_select hraw) hstarts).append horder hstartsOrder
    hendsOrder).append hpage hstartsPage hendsPage⟩

theorem frames_count {q : Query} {ps : List Piece} (hraw : q.HasNoRaw)
    (h : q.countPieces = .ok ps) : ∃ before behind, Frames q.predicate before behind ps := by
  have hhead : Plain [.word "SELECT COUNT(*) AS ", .ident "count"] :=
    .afterWord rfl rfl (.ident "count")
  unfold Query.countPieces at h
  dsimp only at h
  split at h
  · obtain ⟨inner, hinner, h⟩ := bind_eq_ok_iff.mp h
    cases h
    obtain ⟨before, behind, hframes⟩ : ∃ before behind, Frames q.predicate before behind inner :=
      frames_query (q := q.unpaged) hraw hinner
    have hback : Plain [.word ") AS ", .ident "counted"] := .afterWord rfl rfl (.ident "counted")
    have hframes := hframes.append hback (starts_word rfl) rfl
    refine ⟨[.word "SELECT COUNT(*) AS ", .ident "count", .word " FROM ("] ++ before, _, ?_, ?_,
      hframes.plain_behind, hframes.starts, hframes.ends⟩
    · simp only [List.cons_append, List.nil_append, hframes.eq]
    · have hfrom : Plain (.word " FROM (" :: before) := .afterWord rfl rfl hframes.plain_before
      exact hhead.append hfrom (starts_word rfl)
  · obtain ⟨tables, htables, h⟩ := bind_eq_ok_iff.mp h
    cases h
    obtain ⟨before, behind, hframes, hstarts⟩ := frames_from htables
    exact ⟨_, _, hframes.prepend hhead hstarts⟩

theorem frames_update {s : Update} {ps : List Piece} (h : s.pieces = .ok ps) :
    ∃ before behind, Frames (some s.predicate) before behind ps := by
  unfold Update.pieces at h
  cases hassignments : s.assignments.isEmpty with
  | true =>
    rw [hassignments] at h
    cases h
  | false =>
    simp only [hassignments, Bool.false_eq_true, if_false] at h
    cases h
    refine ⟨.word "UPDATE " :: .ident s.table :: .word " SET " ::
      separate ", " (s.assignments.map fun a => [.ident a.1, .word " = ", .param a.2]), [],
      ?_, ?_, .nil, .inl rfl, rfl⟩
    · simp [wherePieces]
    · refine .afterWord rfl rfl ((Plain.ident s.table).beforeWord rfl
        (.afterWord rfl rfl (.separated rfl rfl rfl ?_)))
      simp only [List.forall_mem_map]
      exact fun a _ => (Plain.ident a.1).beforeWord rfl (.afterWord rfl rfl (.afterPlace .nil))

theorem frames_delete {s : Delete} {ps : List Piece} (h : s.pieces = .ok ps) :
    ∃ before behind, Frames (some s.predicate) before behind ps := by
  obtain ⟨-, -, h⟩ := bind_eq_ok_iff.mp h
  cases h
  refine ⟨[.word "DELETE FROM ", .ident s.table], [], ?_, ?_, .nil, .inl rfl, rfl⟩
  · rw [List.append_nil]
    rfl
  · exact .afterWord rfl rfl (.ident s.table)

theorem plain_rows {columns i : Nat} {rows : List (List Value)} {pss : List (List Piece)}
    (h : rowPieces columns i rows = .ok pss) : ∀ ps ∈ pss, Plain ps := by
  induction rows generalizing i pss with
  | nil =>
    cases h
    exact nofun
  | cons row rest ih =>
    rw [rowPieces] at h
    split at h
    · cases h
    · cases hrest : rowPieces columns (i + 1) rest with
      | error e =>
        rw [hrest] at h
        cases h
      | ok qss =>
        rw [hrest] at h
        cases h
        rw [List.forall_mem_cons]
        exact ⟨plain_listPieces row, ih hrest⟩

theorem frames_insert {s : Insert} {ps : List Piece} (h : s.pieces = .ok ps) :
    ∃ before behind, Frames none before behind ps := by
  unfold Insert.pieces at h
  cases hnothing : s.columns.isEmpty || s.rows.isEmpty with
  | true =>
    rw [hnothing] at h
    cases h
  | false =>
    simp only [hnothing, Bool.false_eq_true, if_false] at h
    obtain ⟨rows, hrows, h⟩ := bind_eq_ok_iff.mp h
    cases h
    have hrows' : Plain (separate ", " rows) := .separated rfl rfl rfl (plain_rows hrows)
    have hcolumns : Plain (separate ", " (s.columns.map fun c => [.ident c])) := by
      refine .separated rfl rfl rfl ?_
      simp only [List.forall_mem_map]
      exact fun c _ => .ident c
    have htakeOver : Plain (separate ", " (s.onDuplicate.map fun c =>
        [.ident c, .word " = VALUES(", .ident c, .word ")"])) := by
      refine .separated rfl rfl rfl ?_
      simp only [List.forall_mem_map]
      exact fun c _ => (Plain.ident c).beforeWord rfl
        (.afterWord rfl rfl ((Plain.ident c).beforeWord rfl (.word rfl)))
    have hback : ∀ ps, Plain ps → Starts ps → Plain (.word "INSERT INTO " :: .ident s.table ::
        .word " (" :: separate ", " (s.columns.map fun c => [.ident c]) ++ .word ") VALUES " ::
          separate ", " rows ++ ps) := by
      intro ps hps hstarts
      have htable : Plain (.word "INSERT INTO " :: .ident s.table :: .word " (" ::
          separate ", " (s.columns.map fun c => [.ident c])) :=
        .afterWord rfl rfl ((Plain.ident s.table).beforeWord rfl (.afterWord rfl rfl hcolumns))
      exact (htable.beforeWord rfl (.afterWord rfl rfl hrows')).append hps hstarts
    refine ⟨_, [], (List.append_nil _).symm, ?_, .nil, .inl rfl, rfl⟩
    split
    · exact hback [] .nil (.inl rfl)
    · exact hback _ (.afterWord rfl rfl htakeOver) (starts_word rfl)

/-- The text of a statement is read with as many places as the statement has
parameters. With the parameters in their order every piece is read as it was
written, and the condition that is read is the predicate of the statement. -/
theorem the_text_of_a_statement_says_its_predicate {s : Statement} {r : Rendered}
    (hraw : s.HasNoRaw) (h : s.render = .ok r) :
    ∃ ts filled, tokens? r.text = some ts ∧ fill ts r.params = some filled ∧
      ts.countP Token.isPlace = r.params.length ∧
      filled.filterMap Token.placed? = r.params ∧
      (∃ ps, s.pieces = .ok ps ∧ filled = said ps) ∧
      readWhere filled = some (s.predicate?.map Predicate.canonical) := by
  have hpieces : ∃ ps, s.pieces = .ok ps ∧ r = ⟨join ps, params ps⟩ := by
    rw [Statement.render] at h
    cases hps : s.pieces with
    | error e =>
      rw [hps] at h
      cases h
    | ok ps =>
      rw [hps] at h
      cases h
      exact ⟨ps, rfl, rfl⟩
  obtain ⟨ps, hps, rfl⟩ := hpieces
  have hframes : ∃ before behind, Frames s.predicate? before behind ps := by
    cases s with
    | select q => exact frames_query hraw hps
    | count q => exact frames_count hraw hps
    | insert s => exact frames_insert hps
    | update s => exact frames_update hps
    | delete s => exact frames_delete hps
  obtain ⟨before, behind, hframes⟩ := hframes
  obtain ⟨ts, hts, hfill⟩ := hframes.legible
  obtain ⟨hcount, hplaced⟩ := places_of_fill hfill
  exact ⟨ts, said ps, hts, hfill, hcount, hplaced, ⟨ps, hps, rfl⟩, hframes.readWhere_said⟩

/-- Quotes, points and question marks in names, a path into a document, and
junctions in each other. -/
theorem the_text_of_a_deletion_says_its_predicate :
    let p : Predicate := .all
      [.any [.eq ⟨some "a.`b", "c?", some "d.e"⟩ (.int 1), .all [.isIn (.plain "WHERE") []]],
        .not (.any [.ne (.plain "f") .null])]
    let s : Statement := .delete { table := "t ? `AND", predicate := p }
    ∃ r, s.render = .ok r ∧ r.params.length = 2 ∧
      ∃ ts filled, tokens? r.text = some ts ∧ fill ts r.params = some filled ∧
        ts.countP Token.isPlace = r.params.length ∧
        filled.filterMap Token.placed? = r.params ∧
        (∃ ps, s.pieces = .ok ps ∧ filled = said ps) ∧
        readWhere filled = some (some p.canonical) := by
  intro p s
  have hraw : s.HasNoRaw := trivial
  have hrender : s.render = .ok ⟨_, _⟩ := rfl
  exact ⟨_, hrender, rfl, the_text_of_a_statement_says_its_predicate hraw hrender⟩

end EntityStore.Sql
