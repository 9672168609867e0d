-- Values stay out of the text of a statement. A statement has a shape, in
-- which all values, patterns, candidates and paths of its conditions are left
-- blank. The text is written from the shape alone, and so is every refusal.
-- What was left blank comes back as parameters only.
import EntityStore.Proofs.Fallible
import EntityStore.Sql.Text

namespace EntityStore.Sql

open Piece (separate join params)

/-! ## Shapes -/

/-- Null, or one value for all others. -/
def blankValue (v : Value) : Value := if v.isNull then .null else .bool false

/-- A column of a condition, with an empty path for any path. -/
def Column.shape (c : Column) : Column := { c with path := c.path.map fun _ => "" }

mutual

/-- The predicate without what it compares with. -/
def Predicate.shape : Predicate → Predicate
  | .eq c v => .eq c.shape (blankValue v)
  | .ne c v => .ne c.shape (blankValue v)
  | .lt c v => .lt c.shape (blankValue v)
  | .le c v => .le c.shape (blankValue v)
  | .gt c v => .gt c.shape (blankValue v)
  | .ge c v => .ge c.shape (blankValue v)
  | .isIn c vs => .isIn c.shape (vs.map blankValue)
  | .notIn c vs => .notIn c.shape (vs.map blankValue)
  | .between c low high => .between c.shape (blankValue low) (blankValue high)
  | .isNull c => .isNull c.shape
  | .notNull c => .notNull c.shape
  | .like c _ => .like c.shape ""
  | .notLike c _ => .notLike c.shape ""
  | .regexp c _ => .regexp c.shape ""
  | .notRegexp c _ => .notRegexp c.shape ""
  | .contains c _ => .contains c.shape .null
  | .all ps => .all (shapes ps)
  | .any ps => .any (shapes ps)
  | .not p => .not p.shape

def Predicate.shapes : List Predicate → List Predicate
  | [] => []
  | p :: ps => p.shape :: shapes ps

end

/-- The query with the shape of its condition. Paths of outputs stay, since
outputs are named after them. -/
def Query.shape (q : Query) : Query := { q with predicate := q.predicate.map Predicate.shape }

/-- A statement without its values. -/
def Statement.shape : Statement → Statement
  | .select q => .select q.shape
  | .count q => .count q.shape
  | .insert s => .insert { s with rows := s.rows.map (·.map blankValue) }
  | .update s => .update { s with
      assignments := s.assignments.map fun a => (a.1, blankValue a.2)
      predicate := s.predicate.shape }
  | .delete s => .delete { s with predicate := s.predicate.shape }

/-! ## Pieces without values -/

/-- The piece, without the value at a place. -/
def Piece.blank : Piece → Piece
  | .param _ => .param .null
  | p => p

/-- The pieces, without the values at their places. -/
def blanks (ps : List Piece) : List Piece := ps.map Piece.blank

theorem blanks_append (ps qs : List Piece) : blanks (ps ++ qs) = blanks ps ++ blanks qs :=
  List.map_append

theorem blanks_cons (p : Piece) (ps : List Piece) : blanks (p :: ps) = p.blank :: blanks ps := rfl

theorem blanks_separate (w : String) (pss : List (List Piece)) :
    blanks (separate w pss) = separate w (pss.map blanks) := by
  induction pss with
  | nil => rfl
  | cons ps rest ih =>
    cases rest with
    | nil => rfl
    | cons qs rest =>
      rw [separate, blanks_append, blanks_cons, ih]
      · rfl
      · exact List.cons_ne_nil qs rest

/-- The text does not tell values apart. -/
theorem join_blanks (ps : List Piece) : join (blanks ps) = join ps := by
  have htext : Piece.text ∘ Piece.blank = Piece.text := by
    funext p
    cases p <;> rfl
  rw [join, join, blanks, List.map_map, htext]

theorem length_params_blanks (ps : List Piece) :
    (params (blanks ps)).length = (params ps).length := by
  induction ps with
  | nil => rfl
  | cons p ps ih =>
    cases p with
    | param v => exact congrArg (· + 1) ih
    | _ => exact ih

/-! ## Predicates -/

theorem isNull_blankValue (v : Value) : (blankValue v).isNull = v.isNull := by
  cases v <;> rfl

theorem blanks_column (c : Column) : blanks c.shape.pieces = blanks c.pieces := by
  obtain ⟨qualifier, name, path⟩ := c
  cases qualifier <;> cases path <;> rfl

theorem blanks_listPieces (vs : List Value) :
    blanks (listPieces (vs.map blankValue)) = blanks (listPieces vs) := by
  have hplaces : ∀ ws : List Value,
      (ws.map fun w => [Piece.param w]).map blanks = ws.map fun _ => [Piece.param .null] := by
    intro ws
    rw [List.map_map]
    rfl
  rw [listPieces, listPieces, List.cons_append, List.cons_append, blanks_cons, blanks_cons,
    blanks_append, blanks_append, blanks_separate, blanks_separate, hplaces, hplaces, List.map_map]
  rfl

theorem blanks_comparison (c : Column) (sign : String) (v : Value) :
    blanks (comparisonPieces c.shape sign (blankValue v)) =
      blanks (comparisonPieces c sign v) := by
  unfold comparisonPieces
  rw [isNull_blankValue]
  cases v.isNull with
  | true => simp only [if_true, blanks_append, blanks_column]
  | false =>
    simp only [Bool.false_eq_true, if_false, blanks_append, blanks_column]
    rfl

/-- A junction is written in one way whatever stands at the places of its
parts. -/
theorem blanks_junction (word none? : String) (nested : Bool) (parts : List (List Piece)) :
    blanks (junctionPieces word none? nested parts) =
      junctionPieces word none? nested (parts.map blanks) := by
  match parts with
  | [] => rfl
  | [ps] => rfl
  | ps :: qs :: rest =>
    cases nested with
    | true =>
      show blanks (.word "(" :: (separate word (ps :: qs :: rest) ++ [.word ")"])) = _
      rw [blanks_cons, blanks_append, blanks_separate]
      rfl
    | false =>
      show blanks (separate word (ps :: qs :: rest)) = _
      rw [blanks_separate]
      rfl

/-- A test that is a column and pieces without other columns. -/
theorem blanks_test {c : Column} {ps qs : List Piece} (h : blanks ps = blanks qs) :
    blanks (c.shape.pieces ++ ps) = blanks (c.pieces ++ qs) := by
  rw [blanks_append, blanks_append, blanks_column, h]

theorem blanks_values (c : Column) (vs : List Value) (none? word : String) :
    blanks (if (vs.map blankValue).isEmpty then [.word none?]
      else c.shape.pieces ++ .word word :: listPieces (vs.map blankValue)) =
    blanks (if vs.isEmpty then [.word none?] else c.pieces ++ .word word :: listPieces vs) := by
  rw [List.isEmpty_map]
  split
  · rfl
  · apply blanks_test
    rw [blanks_cons, blanks_cons, blanks_listPieces]

theorem blanks_contains (c : Column) (v w : Value) (nested : Bool) :
    blanks ((Predicate.contains c.shape v).pieces nested) =
      blanks ((Predicate.contains c w).pieces nested) := by
  obtain ⟨qualifier, name, path⟩ := c
  rw [Predicate.pieces, Predicate.pieces]
  cases qualifier <;> cases path <;> rfl

mutual

theorem blanks_predicate (nested : Bool) :
    ∀ p : Predicate, blanks (p.shape.pieces nested) = blanks (p.pieces nested)
  | .eq c v => blanks_comparison c "=" v
  | .ne c v => blanks_comparison c "!=" v
  | .lt c v => blanks_comparison c "<" v
  | .le c v => blanks_comparison c "<=" v
  | .gt c v => blanks_comparison c ">" v
  | .ge c v => blanks_comparison c ">=" v
  | .isIn c vs => blanks_values c vs "1 = 0" " IN "
  | .notIn c vs => blanks_values c vs "1 = 1" " NOT IN "
  | .between _ _ _ => blanks_test rfl
  | .isNull _ => blanks_test rfl
  | .notNull _ => blanks_test rfl
  | .like _ _ => blanks_test rfl
  | .notLike _ _ => blanks_test rfl
  | .regexp _ _ => blanks_test rfl
  | .notRegexp _ _ => blanks_test rfl
  | .contains c v => blanks_contains c .null v nested
  | .all ps => by
    rw [Predicate.shape, Predicate.pieces, Predicate.pieces, blanks_junction, blanks_junction,
      blanks_parts ps]
  | .any ps => by
    rw [Predicate.shape, Predicate.pieces, Predicate.pieces, blanks_junction, blanks_junction,
      blanks_parts ps]
  | .not p => by
    rw [Predicate.shape, Predicate.pieces, Predicate.pieces, List.cons_append, List.cons_append,
      blanks_cons, blanks_cons, blanks_append, blanks_append, blanks_predicate false p]

theorem blanks_parts :
    ∀ ps : List Predicate,
      (partPieces (Predicate.shapes ps)).map blanks = (partPieces ps).map blanks
  | [] => rfl
  | p :: ps => by
    rw [Predicate.shapes, partPieces, partPieces, List.map_cons, List.map_cons,
      blanks_predicate true p, blanks_parts ps]

end

mutual

theorem depth_shape : ∀ p : Predicate, p.shape.depth = p.depth
  | .all ps => congrArg (1 + ·) (depths_shapes ps)
  | .any ps => congrArg (1 + ·) (depths_shapes ps)
  | .not p => congrArg (1 + ·) (depth_shape p)
  | .eq _ _ => rfl
  | .ne _ _ => rfl
  | .lt _ _ => rfl
  | .le _ _ => rfl
  | .gt _ _ => rfl
  | .ge _ _ => rfl
  | .isIn _ _ => rfl
  | .notIn _ _ => rfl
  | .between _ _ _ => rfl
  | .isNull _ => rfl
  | .notNull _ => rfl
  | .like _ _ => rfl
  | .notLike _ _ => rfl
  | .regexp _ _ => rfl
  | .notRegexp _ _ => rfl
  | .contains _ _ => rfl

theorem depths_shapes :
    ∀ ps : List Predicate, Predicate.depths (Predicate.shapes ps) = Predicate.depths ps
  | [] => rfl
  | p :: ps => by
    rw [Predicate.shapes, Predicate.depths, Predicate.depths, depth_shape p, depths_shapes ps]

end

theorem checkDepth_shape (p : Predicate) : p.shape.checkDepth = p.checkDepth := by
  rw [Predicate.checkDepth, Predicate.checkDepth, depth_shape]

/-! ## Queries -/

/-- Two runs go on alike where what they have so far looks alike. -/
theorem map_bind_congr {α β γ δ ε : Type} {f : α → β} {k : γ → δ} {x y : Except ε α}
    {g h : α → Except ε γ} (hxy : x.map f = y.map f)
    (hgh : ∀ a b, f a = f b → (g a).map k = (h b).map k) :
    (x >>= g).map k = (y >>= h).map k := by
  cases x with
  | error e =>
    cases y with
    | error e' =>
      cases hxy
      rfl
    | ok b => cases hxy
  | ok a =>
    cases y with
    | error e' => cases hxy
    | ok b => exact hgh a b (Except.ok.inj hxy)

theorem blanks_fromPieces (q : Query) :
    q.shape.fromPieces.map blanks = q.fromPieces.map blanks := by
  unfold Query.fromPieces Query.shape
  dsimp only
  cases q.table.isEmpty with
  | true => rfl
  | false =>
    refine map_bind_congr (f := id) rfl fun joins joins' hjoins => ?_
    cases hjoins
    cases q.predicate with
    | none => rfl
    | some p =>
      dsimp only [Option.map_some]
      rw [checkDepth_shape]
      refine map_bind_congr (f := id) rfl fun _ _ _ => congrArg Except.ok ?_
      simp only [blanks_append, blanks_cons, blanks_predicate]

theorem blanks_query (q : Query) : q.shape.pieces.map blanks = q.pieces.map blanks := by
  refine map_bind_congr (f := blanks) (blanks_fromPieces q) fun tables tables' htables => ?_
  refine congrArg Except.ok ?_
  simp only [blanks_append, htables]
  rfl

theorem blanks_count (q : Query) : q.shape.countPieces.map blanks = q.countPieces.map blanks := by
  unfold Query.countPieces
  have hgrouped : (q.shape.distinct || !q.shape.groupBy.isEmpty) =
      (q.distinct || !q.groupBy.isEmpty) := rfl
  rw [hgrouped]
  split
  · refine map_bind_congr (f := blanks) (blanks_query q.unpaged) fun inner inner' hinner => ?_
    refine congrArg Except.ok ?_
    simp only [blanks_append, blanks_cons, hinner]
  · refine map_bind_congr (f := blanks) (blanks_fromPieces q.unpaged) fun tables tables' h => ?_
    refine congrArg Except.ok ?_
    rw [blanks_append, blanks_append, h]

/-! ## Writes -/

theorem blanks_rowPieces (columns i : Nat) (rows : List (List Value)) :
    (rowPieces columns i (rows.map (·.map blankValue))).map (List.map blanks) =
      (rowPieces columns i rows).map (List.map blanks) := by
  induction rows generalizing i with
  | nil => rfl
  | cons row rest ih =>
    rw [List.map_cons, rowPieces, rowPieces, List.length_map]
    split
    · rfl
    · refine map_bind_congr (f := List.map blanks) (ih (i + 1)) fun pss qss h =>
        congrArg Except.ok ?_
      rw [List.map_cons, List.map_cons, blanks_listPieces, h]

theorem blanks_insert (s : Insert) :
    (Insert.pieces { s with rows := s.rows.map (·.map blankValue) }).map blanks =
      s.pieces.map blanks := by
  unfold Insert.pieces
  dsimp only
  rw [List.isEmpty_map]
  cases s.columns.isEmpty || s.rows.isEmpty with
  | true => rfl
  | false =>
    refine map_bind_congr (f := List.map blanks) (blanks_rowPieces _ 0 s.rows)
      fun rows rows' hrows => congrArg Except.ok ?_
    simp only [blanks_append, blanks_cons, blanks_separate, hrows]

theorem blanks_update (s : Update) :
    (Update.pieces { s with
      assignments := s.assignments.map fun a => (a.1, blankValue a.2)
      predicate := s.predicate.shape }).map blanks = s.pieces.map blanks := by
  unfold Update.pieces
  dsimp only
  rw [List.isEmpty_map]
  cases s.assignments.isEmpty with
  | true => rfl
  | false =>
    refine congrArg Except.ok ?_
    simp only [blanks_append, blanks_cons, blanks_separate, blanks_predicate, List.map_map]
    rfl

theorem blanks_delete (s : Delete) :
    (Delete.pieces { s with predicate := s.predicate.shape }).map blanks =
      s.pieces.map blanks := by
  unfold Delete.pieces
  dsimp only
  rw [checkDepth_shape]
  refine map_bind_congr (f := id) rfl fun _ _ _ => congrArg Except.ok ?_
  simp only [blanks_cons, blanks_predicate]

/-! ## Statements -/

theorem blanks_statement : ∀ s : Statement, s.shape.pieces.map blanks = s.pieces.map blanks
  | .select q => blanks_query q
  | .count q => blanks_count q
  | .insert s => blanks_insert s
  | .update s => blanks_update s
  | .delete s => blanks_delete s

theorem render_eq (s : Statement) :
    s.render.map (fun r => (r.text, r.params.length)) =
      (s.pieces.map blanks).map fun ps => (join ps, (params ps).length) := by
  rw [Statement.render]
  cases s.pieces with
  | error e => rfl
  | ok ps =>
    refine congrArg Except.ok (Prod.ext ?_ ?_)
    · exact (join_blanks ps).symm
    · exact (length_params_blanks ps).symm

/-- Two statements of one shape are refused alike, or have one text with as
many parameters. -/
theorem statements_of_one_shape_have_one_text {s t : Statement} (h : s.shape = t.shape) :
    (∀ e, s.render = .error e ↔ t.render = .error e) ∧
      ∀ r r', s.render = .ok r → t.render = .ok r' →
        r.text = r'.text ∧ r.params.length = r'.params.length := by
  have hrender : s.render.map (fun r => (r.text, r.params.length)) =
      t.render.map fun r => (r.text, r.params.length) := by
    rw [render_eq, render_eq, ← blanks_statement s, h, blanks_statement t]
  cases hs : s.render with
  | error e =>
    cases ht : t.render with
    | error e' =>
      rw [hs, ht] at hrender
      cases hrender
      exact ⟨fun _ => Iff.rfl, nofun⟩
    | ok r' =>
      rw [hs, ht] at hrender
      cases hrender
  | ok r =>
    cases ht : t.render with
    | error e' =>
      rw [hs, ht] at hrender
      cases hrender
    | ok r' =>
      rw [hs, ht] at hrender
      refine ⟨fun e => ⟨nofun, nofun⟩, ?_⟩
      rintro _ _ ⟨⟩ ⟨⟩
      exact Prod.mk.inj (Except.ok.inj hrender)

/-- A value that reads like the end of a statement, a path that would close
its brackets, and patterns and candidates of any kind leave no trace. -/
theorem a_hostile_update_has_the_text_of_a_plain_one :
    let update (v w : Value) (path pattern : String) (vs : List Value) : Statement := .update {
      table := "t"
      assignments := [("a", v), ("b", .null)]
      predicate := .all [
        .eq ⟨some "t", "doc", some path⟩ w,
        .any [.isIn (.plain "c") vs, .not (.like (.plain "d") pattern)],
        .contains ⟨none, "tags", some path⟩ w] }
    let s := update (.int 1) (.bool true) "x" "a%" [.int 1, .null]
    let t := update (.text "'; DROP TABLE t; --") (.text "?") "')) OR 1 = 1 --" "' OR '?"
      [.text "1) OR (1 = 1", .null]
    s.shape = t.shape ∧ ∃ r r', s.render = .ok r ∧ t.render = .ok r' ∧
      r.text = r'.text ∧ r.params.length = r'.params.length ∧ r.params ≠ r'.params := by
  intro update s t
  have hshape : s.shape = t.shape := rfl
  have hs : s.render = .ok ⟨_, _⟩ := rfl
  have ht : t.render = .ok ⟨_, _⟩ := rfl
  obtain ⟨htext, hlength⟩ := (statements_of_one_shape_have_one_text hshape).2 _ _ hs ht
  refine ⟨hshape, _, _, hs, ht, htext, hlength, ?_⟩
  intro h
  cases (List.cons.inj h).1

end EntityStore.Sql
