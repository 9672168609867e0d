-- Reading the condition of a statement by the rules of the language: NOT
-- binds more than AND, and AND binds more than OR. What is read is the
-- predicate that was written, with its columns, operators, values and
-- nesting.
import EntityStore.Proofs.Sql.Tokens

namespace EntityStore.Sql

open Piece (said said_cons said_append separate)

/-! ## Predicates as they are written -/

/-- One part stands for itself. -/
def collapse (f : List Predicate → Predicate) : List Predicate → Predicate
  | [p] => p
  | ps => f ps

mutual

/-- The predicate that the text of a predicate says. A junction of one part is
that part. An empty list of values is an empty junction, as no parts are. A
comparison with null asks whether there is a value, and a document that is to
be contained is written as its text. -/
def Predicate.canonical : Predicate → Predicate
  | .eq c v => if v.isNull then .isNull c else .eq c v
  | .ne c v => if v.isNull then .notNull c else .ne c v
  | .lt c v => if v.isNull then .notNull c else .lt c v
  | .le c v => if v.isNull then .notNull c else .le c v
  | .gt c v => if v.isNull then .notNull c else .gt c v
  | .ge c v => if v.isNull then .notNull c else .ge c v
  | .isIn c vs => if vs.isEmpty then .any [] else .isIn c vs
  | .notIn c vs => if vs.isEmpty then .all [] else .notIn c vs
  | .between c low high => .between c low high
  | .isNull c => .isNull c
  | .notNull c => .notNull c
  | .like c p => .like c p
  | .notLike c p => .notLike c p
  | .regexp c p => .regexp c p
  | .notRegexp c p => .notRegexp c p
  | .contains c v => .contains c (.text v.toJson.compact)
  | .all ps => collapse .all (canonicals ps)
  | .any ps => collapse .any (canonicals ps)
  | .not p => .not p.canonical

def canonicals : List Predicate → List Predicate
  | [] => []
  | p :: ps => p.canonical :: canonicals ps

end

/-! ## Reading -/

/-- A reader gives what stands at the beginning, and what comes after it. -/
abbrev Parse (α : Type) := List (Token Value) → Option (α × List (Token Value))

/-- The path that a parameter writes. -/
def readPath? : Value → Option String
  | .text s => Text.dropFront? "$." s
  | _ => none

/-- A name, perhaps with a name of a table before it. -/
def readBase : Parse Column
  | .name q :: .sign "." :: .name c :: rest => some (⟨some q, c, none⟩, rest)
  | .name c :: rest => some (⟨none, c, none⟩, rest)
  | _ => none

/-- A column, perhaps with a path into its document. -/
def readColumn : Parse Column
  | .word "JSON_UNQUOTE" :: .sign "(" :: .word "JSON_EXTRACT" :: .sign "(" :: ts =>
    match readBase ts with
    | some (c, .sign "," :: .place v :: .sign ")" :: .sign ")" :: rest) =>
      (readPath? v).map fun path => (⟨c.qualifier, c.name, some path⟩, rest)
    | _ => none
  | ts => readBase ts

/-- Values up to the end of their brackets. -/
def readValues : Parse (List Value)
  | .place v :: .sign ")" :: rest => some ([v], rest)
  | .place v :: .sign "," :: ts => (readValues ts).map fun (vs, rest) => (v :: vs, rest)
  | _ => none

/-- What is asked of a column. -/
def readTest (c : Column) : Parse Predicate
  | .sign "=" :: .place v :: rest => some (.eq c v, rest)
  | .sign "!=" :: .place v :: rest => some (.ne c v, rest)
  | .sign "<" :: .place v :: rest => some (.lt c v, rest)
  | .sign "<=" :: .place v :: rest => some (.le c v, rest)
  | .sign ">" :: .place v :: rest => some (.gt c v, rest)
  | .sign ">=" :: .place v :: rest => some (.ge c v, rest)
  | .word "IN" :: .sign "(" :: ts => (readValues ts).map fun (vs, rest) => (.isIn c vs, rest)
  | .word "NOT" :: .word "IN" :: .sign "(" :: ts =>
    (readValues ts).map fun (vs, rest) => (.notIn c vs, rest)
  | .word "BETWEEN" :: .place low :: .word "AND" :: .place high :: rest =>
    some (.between c low high, rest)
  | .word "IS" :: .word "NULL" :: rest => some (.isNull c, rest)
  | .word "IS" :: .word "NOT" :: .word "NULL" :: rest => some (.notNull c, rest)
  | .word "LIKE" :: .place (.text p) :: rest => some (.like c p, rest)
  | .word "NOT" :: .word "LIKE" :: .place (.text p) :: rest => some (.notLike c p, rest)
  | .word "REGEXP" :: .place (.text p) :: rest => some (.regexp c p, rest)
  | .word "NOT" :: .word "REGEXP" :: .place (.text p) :: rest => some (.notRegexp c p, rest)
  | _ => none

/-- What a document is to contain, and perhaps the path to where. -/
def readContained (c : Column) : Parse Predicate
  | .sign "," :: .place v :: .sign ")" :: rest => some (.contains c v, rest)
  | .sign "," :: .place v :: .sign "," :: .place w :: .sign ")" :: rest =>
    (readPath? w).map fun path => (.contains ⟨c.qualifier, c.name, some path⟩ v, rest)
  | _ => none

/-- A predicate without parts. -/
def readSimple : Parse Predicate
  | .word "1" :: .sign "=" :: .word "1" :: rest => some (.all [], rest)
  | .word "1" :: .sign "=" :: .word "0" :: rest => some (.any [], rest)
  | .word "JSON_CONTAINS" :: .sign "(" :: ts =>
    (readBase ts).bind fun (c, rest) => readContained c rest
  | ts => (readColumn ts).bind fun (c, rest) => readTest c rest

/-- What a reader reads again and again, with a word between. -/
def readSequence (item : Parse Predicate) (word : String) : Nat → Parse (List Predicate)
  | 0, _ => none
  | n + 1, ts =>
    match item ts with
    | some (p, .word w :: rest) =>
      if w = word then (readSequence item word n rest).map fun (ps, rest) => (p :: ps, rest)
      else some ([p], .word w :: rest)
    | some (p, rest) => some ([p], rest)
    | none => none

def readConjunction (item : Parse Predicate) : Parse Predicate := fun ts =>
  (readSequence item "AND" ts.length ts).map fun (ps, rest) => (collapse .all ps, rest)

def readDisjunction (item : Parse Predicate) : Parse Predicate := fun ts =>
  (readSequence (readConjunction item) "OR" ts.length ts).map fun (ps, rest) =>
    (collapse .any ps, rest)

/-- A predicate that stands as a part: one that is negated, one in brackets,
or one without parts. The number bounds how deep brackets are read. -/
def readPart : Nat → Parse Predicate
  | 0, _ => none
  | n + 1, .word "NOT" :: ts => (readPart n ts).map fun (p, rest) => (.not p, rest)
  | n + 1, .sign "(" :: ts =>
    match readDisjunction (readPart n) ts with
    | some (p, .sign ")" :: rest) => some (p, rest)
    | _ => none
  | _ + 1, ts => readSimple ts

/-- The predicate at the beginning. -/
def readPredicate : Parse Predicate := fun ts => readDisjunction (readPart ts.length) ts

/-! ## Columns and values -/

theorem dropFront?_append (front s : String) : Text.dropFront? front (front ++ s) = some s := by
  unfold Text.dropFront?
  rw [String.toList_append, if_pos (by simp), ← String.length_toList, List.drop_left,
    String.ofList_toList]

theorem readPath?_text (path : String) : readPath? (.text ("$." ++ path)) = some path :=
  dropFront?_append "$." path

/-- What follows a name is not read as a part of it. -/
theorem readBase_said (c : Column) (rest : List (Token Value))
    (h : ∀ more, rest ≠ .sign "." :: more) :
    readBase (said c.basePieces ++ rest) = some (c.whole, rest) := by
  unfold Column.basePieces
  cases hq : c.qualifier with
  | some q =>
    show some ((⟨some q, c.name, none⟩ : Column), rest) = _
    rw [Column.whole, hq]
  | none =>
    show readBase (.name c.name :: rest) = _
    unfold readBase
    split
    · rename_i heq
      cases heq
      exact absurd rfl (h _)
    · rename_i heq
      cases heq
      rw [Column.whole, hq]
    · rename_i hother
      exact absurd rfl (hother _ _)

theorem readColumn_name (s : String) (ts : List (Token Value)) :
    readColumn (.name s :: ts) = readBase (.name s :: ts) := rfl

theorem said_basePieces_eq_cons (c : Column) :
    ∃ s ts, said c.basePieces = .name s :: ts := by
  unfold Column.basePieces
  cases c.qualifier with
  | some q => exact ⟨q, _, rfl⟩
  | none => exact ⟨c.name, _, rfl⟩

theorem said_pieces_of_path {c : Column} {path : String} (h : c.path = some path) :
    said c.pieces = .word "JSON_UNQUOTE" :: .sign "(" :: .word "JSON_EXTRACT" :: .sign "(" ::
      (said c.basePieces ++ [.sign ",", .place (.text ("$." ++ path)), .sign ")", .sign ")"]) := by
  unfold Column.pieces
  rw [h]
  simp only [said_cons, said_append]
  rfl

theorem said_pieces_of_no_path {c : Column} (h : c.path = none) :
    said c.pieces = said c.basePieces := by
  unfold Column.pieces
  rw [h]

/-- What follows a column is not read as a part of it. -/
theorem readColumn_said {c : Column} {rest : List (Token Value)}
    (h : ∀ more, rest ≠ .sign "." :: more) :
    readColumn (said c.pieces ++ rest) = some (c, rest) := by
  cases hpath : c.path with
  | none =>
    obtain ⟨s, ts, hbase⟩ := said_basePieces_eq_cons c
    have hread := readBase_said c rest h
    rw [said_pieces_of_no_path hpath, hbase, List.cons_append, readColumn_name,
      ← List.cons_append, ← hbase, hread, Column.whole, ← hpath]
  | some path =>
    have hread := readBase_said c
      (.sign "," :: .place (.text ("$." ++ path)) :: .sign ")" :: .sign ")" :: rest)
      (fun _ => by simp)
    rw [said_pieces_of_path hpath]
    simp only [List.cons_append, List.append_assoc, List.nil_append]
    rw [readColumn, hread]
    simp only [readPath?_text, Option.map_some, Column.whole]
    rw [← hpath]

theorem readValues_said {vs : List Value} (hvs : vs ≠ []) (rest : List (Token Value)) :
    readValues (said (separate ", " (vs.map fun v => [.param v])) ++ .sign ")" :: rest) =
      some (vs, rest) := by
  induction vs with
  | nil => exact absurd rfl hvs
  | cons v vs ih =>
    cases vs with
    | nil => rfl
    | cons w ws =>
      have hrest := ih (List.cons_ne_nil w ws)
      show (readValues (said (separate ", " ((w :: ws).map fun v => [.param v])) ++
        .sign ")" :: rest)).map _ = _
      rw [hrest]
      rfl

/-! ## Predicates without parts -/

theorem readSimple_column {c : Column} {ts : List (Token Value)}
    (h : ∀ more, ts ≠ .sign "." :: more) :
    readSimple (said c.pieces ++ ts) = readTest c ts := by
  -- The text of a column starts with a name, or with the function for paths.
  have hcolumn : readSimple (said c.pieces ++ ts) =
      (readColumn (said c.pieces ++ ts)).bind fun (c, rest) => readTest c rest := by
    cases hpath : c.path with
    | none =>
      obtain ⟨s, us, hbase⟩ := said_basePieces_eq_cons c
      rw [said_pieces_of_no_path hpath, hbase]
      rfl
    | some path =>
      rw [said_pieces_of_path hpath]
      rfl
  rw [hcolumn, readColumn_said h]
  rfl

theorem readSimple_comparison {c : Column} {sign : String} {v : Value} {p : Predicate}
    {rest : List (Token Value)} (hsign : (Piece.word (" " ++ sign ++ " ")).tokens = [.sign sign])
    (hname : sign ≠ ".") (htest : readTest c (.sign sign :: .place v :: rest) = some (p, rest)) :
    readSimple (said (comparisonPieces c sign v) ++ rest) =
      some (if v.isNull then (if sign == "=" then .isNull c else .notNull c) else p, rest) := by
  unfold comparisonPieces
  cases v.isNull with
  | true =>
    simp only [if_true, said_append, List.append_assoc]
    cases sign == "=" with
    | true => exact readSimple_column fun _ => nofun
    | false => exact readSimple_column fun _ => nofun
  | false =>
    simp only [Bool.false_eq_true, if_false, said_append, List.append_assoc]
    rw [said_cons, hsign]
    refine (readSimple_column fun more heq => ?_).trans htest
    injection heq with heq
    injection heq with heq
    exact hname heq

theorem readTest_values {c : Column} {vs : List Value} (hvs : vs.isEmpty = false)
    (rest : List (Token Value)) :
    readTest c (said (.word " IN " :: listPieces vs) ++ rest) = some (.isIn c vs, rest) ∧
      readTest c (said (.word " NOT IN " :: listPieces vs) ++ rest) =
        some (.notIn c vs, rest) := by
  have hread := readValues_said (List.isEmpty_eq_false_iff.mp hvs) rest
  have hlist : ∀ w, said (.word w :: listPieces vs) ++ rest =
      (Piece.word w).tokens ++ .sign "(" ::
        (said (separate ", " (vs.map fun v => [.param v])) ++ .sign ")" :: rest) := by
    intro w
    unfold listPieces
    simp only [said_cons, said_append, List.append_assoc, List.cons_append]
    rfl
  rw [hlist, hlist]
  constructor
  · show (readValues _).map _ = _
    rw [hread]
    rfl
  · show (readValues _).map _ = _
    rw [hread]
    rfl

theorem readSimple_contains (c : Column) (v : Value) (rest : List (Token Value)) :
    readSimple (said ((Predicate.contains c v).pieces true) ++ rest) =
      some (.contains c (.text v.toJson.compact), rest) := by
  rw [Predicate.pieces]
  cases hpath : c.path with
  | none =>
    have hread := readBase_said c
      (.sign "," :: .place (.text v.toJson.compact) :: .sign ")" :: rest)
      (fun _ => by simp)
    simp only [said_cons, said_append, List.append_assoc, List.cons_append]
    show (readBase (said c.basePieces ++
      .sign "," :: .place (.text v.toJson.compact) :: .sign ")" :: rest)).bind _ = _
    rw [hread, Column.whole, ← hpath]
    rfl
  | some path =>
    have hread := readBase_said c
      (.sign "," :: .place (.text v.toJson.compact) :: .sign "," ::
        .place (.text ("$." ++ path)) :: .sign ")" :: rest)
      (fun _ => by simp)
    simp only [said_cons, said_append, List.append_assoc, List.cons_append]
    show (readBase (said c.basePieces ++
      .sign "," :: .place (.text v.toJson.compact) :: .sign "," ::
        .place (.text ("$." ++ path)) :: .sign ")" :: rest)).bind _ = _
    rw [hread]
    show (readPath? (.text ("$." ++ path))).map _ = _
    rw [readPath?_text, Option.map_some, ← hpath]
    rfl

/-! ## Sequences -/

theorem readSequence_one {item : Parse Predicate} {word : String} {ts rest : List (Token Value)}
    {p : Predicate} (hitem : item ts = some (p, rest)) (hrest : ∀ more, rest ≠ .word word :: more)
    {n : Nat} (hn : 0 < n) : readSequence item word n ts = some ([p], rest) := by
  obtain ⟨n, rfl⟩ := Nat.exists_eq_succ_of_ne_zero (Nat.ne_of_gt hn)
  rw [readSequence, hitem]
  split
  · rename_i heq
    cases heq
    rw [if_neg]
    rintro rfl
    exact hrest _ rfl
  · rename_i heq
    cases heq
    rfl
  · rename_i heq
    cases heq

theorem readConjunction_one {item : Parse Predicate} {ts rest : List (Token Value)}
    {p : Predicate} (hitem : item ts = some (p, rest)) (hts : ts ≠ [])
    (hrest : ∀ more, rest ≠ .word "AND" :: more) : readConjunction item ts = some (p, rest) := by
  rw [readConjunction, readSequence_one hitem hrest (List.length_pos_iff.mpr hts)]
  rfl

theorem readDisjunction_one {item : Parse Predicate} {ts rest : List (Token Value)}
    {p : Predicate} (hitem : readConjunction item ts = some (p, rest)) (hts : ts ≠ [])
    (hrest : ∀ more, rest ≠ .word "OR" :: more) : readDisjunction item ts = some (p, rest) := by
  rw [readDisjunction, readSequence_one hitem hrest (List.length_pos_iff.mpr hts)]
  rfl

/-- Where every part is read, the parts are read one after the other. -/
theorem readSequence_said {item : Parse Predicate} (word separator : String)
    (ok : List (Token Value) → Prop)
    (hseparator : (Piece.word separator).tokens = [.word word])
    (hok : ∀ ts, ok (.word word :: ts)) {ps : List Predicate} (hps : ps ≠ [])
    (hitems : ∀ p ∈ ps, ∀ rest, ok rest →
      item (said (p.pieces true) ++ rest) = some (p.canonical, rest))
    {n : Nat} (hn : ps.length ≤ n) {rest : List (Token Value)} (hrest : ok rest)
    (hend : ∀ more, rest ≠ .word word :: more) :
    readSequence item word n (said (separate separator (partPieces ps)) ++ rest) =
      some (canonicals ps, rest) := by
  induction ps generalizing n with
  | nil => exact absurd rfl hps
  | cons p ps ih =>
    have hpos : 0 < n := Nat.lt_of_lt_of_le (Nat.succ_pos _) hn
    have hp := hitems p List.mem_cons_self
    cases ps with
    | nil => exact readSequence_one (hp rest hrest) hend hpos
    | cons q qs =>
      obtain ⟨n, rfl⟩ := Nat.exists_eq_succ_of_ne_zero (Nat.ne_of_gt hpos)
      have hrest := ih (List.cons_ne_nil q qs)
        (fun r hr => hitems r (List.mem_cons_of_mem p hr)) (n := n)
        (by simp only [List.length_cons] at hn ⊢; omega)
      have htokens : said (separate separator (partPieces (p :: q :: qs))) ++ rest =
          said (p.pieces true) ++
            .word word :: (said (separate separator (partPieces (q :: qs))) ++ rest) := by
        show said (p.pieces true ++ .word separator :: separate separator (partPieces (q :: qs)))
          ++ rest = _
        rw [said_append, said_cons, hseparator]
        simp
      rw [htokens, readSequence, hp _ (hok _)]
      dsimp only
      rw [if_pos rfl, hrest]
      rfl

/-! ## Predicates -/

/-- As a part the predicate is read whatever follows. -/
def ReadsPart (p : Predicate) : Prop :=
  said (p.pieces true) ≠ [] ∧ ∀ n rest, (said (p.pieces true)).length ≤ n →
    readPart n (said (p.pieces true) ++ rest) = some (p.canonical, rest)

/-- As a whole the predicate is read where no further part follows. -/
def ReadsWhole (p : Predicate) : Prop :=
  said (p.pieces false) ≠ [] ∧ ∀ n rest, (said (p.pieces false)).length ≤ n →
    (∀ more, rest ≠ .word "AND" :: more) → (∀ more, rest ≠ .word "OR" :: more) →
      readDisjunction (readPart n) (said (p.pieces false) ++ rest) = some (p.canonical, rest)

theorem readsWhole_of_readsPart {p : Predicate} (h : ReadsPart p)
    (hpieces : p.pieces false = p.pieces true) : ReadsWhole p := by
  obtain ⟨hne, hread⟩ := h
  unfold ReadsWhole
  rw [hpieces]
  refine ⟨hne, fun n rest hn hand hor => ?_⟩
  have htokens : said (p.pieces true) ++ rest ≠ [] := List.append_ne_nil_of_left_ne_nil hne rest
  exact readDisjunction_one (readConjunction_one (hread n rest hn) htokens hand) htokens hor

theorem readPart_of_readSimple {ts rest : List (Token Value)} {p : Predicate}
    (h : readSimple ts = some (p, rest)) (n : Nat) : readPart (n + 1) ts = some (p, rest) := by
  unfold readPart
  split
  · rename_i heq
    cases heq
  · cases h
  · cases h
  · exact h

/-- A predicate without parts is read the same everywhere. -/
theorem reads_of_readSimple {p : Predicate} (hpieces : p.pieces false = p.pieces true)
    (h : ∀ rest, readSimple (said (p.pieces true) ++ rest) = some (p.canonical, rest)) :
    ReadsPart p ∧ ReadsWhole p := by
  have hpart : ReadsPart p := by
    have hne : said (p.pieces true) ≠ [] := by
      intro hnil
      have hread := h []
      rw [hnil] at hread
      cases hread
    refine ⟨hne, fun n rest hn => ?_⟩
    obtain ⟨n, rfl⟩ : ∃ m, n = m + 1 := ⟨n - 1, by
      have := List.length_pos_iff.mpr hne
      omega⟩
    exact readPart_of_readSimple (h rest) n
  exact ⟨hpart, readsWhole_of_readsPart hpart hpieces⟩

theorem readPart_brackets {p : Predicate} (h : ReadsWhole p) {n : Nat}
    (hn : (said (p.pieces false)).length ≤ n) (rest : List (Token Value)) :
    readPart (n + 1) (.sign "(" :: (said (p.pieces false) ++ .sign ")" :: rest)) =
      some (p.canonical, rest) := by
  rw [readPart, h.2 n (.sign ")" :: rest) hn (fun _ => nofun) (fun _ => nofun)]
  rfl

theorem readsPart_of_brackets {p : Predicate} (h : ReadsWhole p)
    (hpieces : p.pieces true = .word "(" :: p.pieces false ++ [.word ")"]) : ReadsPart p := by
  have htokens : said (p.pieces true) = .sign "(" :: (said (p.pieces false) ++ [.sign ")"]) := by
    rw [hpieces]
    simp only [said_cons, said_append, List.cons_append]
    rfl
  unfold ReadsPart
  rw [htokens]
  refine ⟨nofun, fun n rest hn => ?_⟩
  simp only [List.length_cons, List.length_append, List.length_nil] at hn
  obtain ⟨n, rfl⟩ : ∃ m, n = m + 1 := ⟨n - 1, by omega⟩
  simpa using readPart_brackets h (n := n) (by omega) rest

theorem readsPart_not {p : Predicate} (h : ReadsWhole p) : ReadsPart (.not p) := by
  have htokens : said ((Predicate.not p).pieces true) =
      .word "NOT" :: .sign "(" :: (said (p.pieces false) ++ [.sign ")"]) := by
    rw [Predicate.pieces]
    simp only [said_cons, said_append, List.cons_append]
    rfl
  unfold ReadsPart
  rw [htokens]
  refine ⟨nofun, fun n rest hn => ?_⟩
  simp only [List.length_cons, List.length_append, List.length_nil] at hn
  obtain ⟨n, rfl⟩ : ∃ m, n = m + 2 := ⟨n - 2, by omega⟩
  have hread := readPart_brackets h (n := n) (by omega) rest
  simp only [List.cons_append, List.append_assoc, List.nil_append]
  rw [readPart, hread]
  rfl

/-! ## Junctions -/

theorem length_said_le_of_mem {separator : String} {ps : List Predicate} {p : Predicate}
    (hp : p ∈ ps) :
    (said (p.pieces true)).length ≤ (said (separate separator (partPieces ps))).length := by
  induction ps with
  | nil => cases hp
  | cons q qs ih =>
    cases qs with
    | nil =>
      rw [List.mem_singleton.mp hp]
      exact Nat.le_refl _
    | cons r rs =>
      have hlength : (said (separate separator (partPieces (q :: r :: rs)))).length =
          (said (q.pieces true)).length + ((Piece.word separator).tokens.length +
            (said (separate separator (partPieces (r :: rs)))).length) := by
        show (said (q.pieces true ++
          .word separator :: separate separator (partPieces (r :: rs)))).length = _
        rw [said_append, said_cons, List.length_append, List.length_append]
      rcases List.mem_cons.mp hp with rfl | hp
      · omega
      · have := ih hp
        omega

theorem length_le_length_said (separator : String) {ps : List Predicate}
    (h : ∀ p ∈ ps, said (p.pieces true) ≠ []) :
    ps.length ≤ (said (separate separator (partPieces ps))).length := by
  induction ps with
  | nil => exact Nat.zero_le _
  | cons q qs ih =>
    have hq := List.length_pos_iff.mpr (h q List.mem_cons_self)
    cases qs with
    | nil => exact hq
    | cons r rs =>
      have hrest := ih fun p hp => h p (List.mem_cons_of_mem q hp)
      show _ ≤ (said (q.pieces true ++
        .word separator :: separate separator (partPieces (r :: rs)))).length
      rw [said_append, said_cons, List.length_append, List.length_append, List.length_cons]
      omega

theorem readsWhole_all {ps : List Predicate} (hlength : 2 ≤ ps.length)
    (h : ∀ p ∈ ps, ReadsPart p)
    (hpieces : (Predicate.all ps).pieces false = separate " AND " (partPieces ps)) :
    ReadsWhole (.all ps) := by
  have hps : ps ≠ [] := by
    rintro rfl
    simp at hlength
  have hcount := length_le_length_said " AND " fun p hp => (h p hp).1
  unfold ReadsWhole
  rw [hpieces, Predicate.canonical]
  refine ⟨List.ne_nil_of_length_pos (by omega), fun n rest hn hand hor => ?_⟩
  have hitems : ∀ p ∈ ps, ∀ rest, True →
      readPart n (said (p.pieces true) ++ rest) = some (p.canonical, rest) :=
    fun p hp rest _ => (h p hp).2 n rest (Nat.le_trans (length_said_le_of_mem hp) hn)
  have hfuel : ps.length ≤ (said (separate " AND " (partPieces ps)) ++ rest).length := by
    rw [List.length_append]
    omega
  have hsequence : readSequence (readPart n) "AND" _ _ = _ :=
    readSequence_said "AND" " AND " (fun _ => True) rfl (fun _ => trivial) hps hitems hfuel trivial
      hand
  refine readDisjunction_one ?_ ?_ hor
  · rw [readConjunction, hsequence]
    rfl
  · exact List.append_ne_nil_of_left_ne_nil (List.ne_nil_of_length_pos (by omega)) rest

theorem readsWhole_any {ps : List Predicate} (hlength : 2 ≤ ps.length)
    (h : ∀ p ∈ ps, ReadsPart p)
    (hpieces : (Predicate.any ps).pieces false = separate " OR " (partPieces ps)) :
    ReadsWhole (.any ps) := by
  have hps : ps ≠ [] := by
    rintro rfl
    simp at hlength
  have hcount := length_le_length_said " OR " fun p hp => (h p hp).1
  unfold ReadsWhole
  rw [hpieces, Predicate.canonical]
  refine ⟨List.ne_nil_of_length_pos (by omega), fun n rest hn hand hor => ?_⟩
  -- Each part is a conjunction of one.
  have hitems : ∀ p ∈ ps, ∀ rest, (∀ more, rest ≠ .word "AND" :: more) →
      readConjunction (readPart n) (said (p.pieces true) ++ rest) = some (p.canonical, rest) := by
    intro p hp rest hrest
    obtain ⟨hne, hread⟩ := h p hp
    exact readConjunction_one (hread n rest (Nat.le_trans (length_said_le_of_mem hp) hn))
      (List.append_ne_nil_of_left_ne_nil hne rest) hrest
  have hfuel : ps.length ≤ (said (separate " OR " (partPieces ps)) ++ rest).length := by
    rw [List.length_append]
    omega
  have hsequence : readSequence (readConjunction (readPart n)) "OR" _ _ = _ :=
    readSequence_said "OR" " OR " _ rfl (fun _ _ => by simp) hps hitems hfuel hand hor
  rw [readDisjunction, hsequence]
  rfl

/-- A junction of one part is written and read as that part. -/
theorem reads_single {f : List Predicate → Predicate} {p : Predicate} (h : ReadsPart p)
    (hpieces : ∀ nested, (f [p]).pieces nested = p.pieces true)
    (hcanonical : (f [p]).canonical = p.canonical) : ReadsPart (f [p]) ∧ ReadsWhole (f [p]) := by
  have hpart : ReadsPart (f [p]) := by
    unfold ReadsPart
    rw [hpieces, hcanonical]
    exact h
  exact ⟨hpart, readsWhole_of_readsPart hpart (by rw [hpieces, hpieces])⟩

theorem reads_all {ps : List Predicate} (h : ∀ p ∈ ps, ReadsPart p) :
    ReadsPart (.all ps) ∧ ReadsWhole (.all ps) := by
  match ps with
  | [] => exact reads_of_readSimple rfl fun _ => rfl
  | [p] => exact reads_single (h p List.mem_cons_self) (fun _ => rfl) rfl
  | p :: q :: rest =>
    have hwhole := readsWhole_all (by simp) h rfl
    exact ⟨readsPart_of_brackets hwhole rfl, hwhole⟩

theorem reads_any {ps : List Predicate} (h : ∀ p ∈ ps, ReadsPart p) :
    ReadsPart (.any ps) ∧ ReadsWhole (.any ps) := by
  match ps with
  | [] => exact reads_of_readSimple rfl fun _ => rfl
  | [p] => exact reads_single (h p List.mem_cons_self) (fun _ => rfl) rfl
  | p :: q :: rest =>
    have hwhole := readsWhole_any (by simp) h rfl
    exact ⟨readsPart_of_brackets hwhole rfl, hwhole⟩

/-! ## All predicates -/

theorem reads_values {c : Column} {vs : List Value} :
    (ReadsPart (.isIn c vs) ∧ ReadsWhole (.isIn c vs)) ∧
      ReadsPart (.notIn c vs) ∧ ReadsWhole (.notIn c vs) := by
  constructor
  · refine reads_of_readSimple (by rw [Predicate.pieces, Predicate.pieces]) fun rest => ?_
    rw [Predicate.pieces, Predicate.canonical]
    cases hvs : vs.isEmpty with
    | true => rfl
    | false =>
      have hname : ∀ more, said (.word " IN " :: listPieces vs) ++ rest ≠ .sign "." :: more := by
        intro more
        rw [said_cons, List.append_assoc]
        exact nofun
      rw [if_neg nofun, if_neg nofun, said_append, List.append_assoc, readSimple_column hname,
        (readTest_values hvs rest).1]
  · refine reads_of_readSimple (by rw [Predicate.pieces, Predicate.pieces]) fun rest => ?_
    rw [Predicate.pieces, Predicate.canonical]
    cases hvs : vs.isEmpty with
    | true => rfl
    | false =>
      have hname : ∀ more,
          said (.word " NOT IN " :: listPieces vs) ++ rest ≠ .sign "." :: more := by
        intro more
        rw [said_cons, List.append_assoc]
        exact nofun
      rw [if_neg nofun, if_neg nofun, said_append, List.append_assoc, readSimple_column hname,
        (readTest_values hvs rest).2]

/-- A predicate that is written as a column and a test of it. -/
theorem reads_of_readTest {p : Predicate} {c : Column} {ps : List Piece}
    (hpieces : ∀ nested, p.pieces nested = c.pieces ++ ps)
    (hname : ∀ rest more, said ps ++ rest ≠ .sign "." :: more)
    (htest : ∀ rest, readTest c (said ps ++ rest) = some (p.canonical, rest)) :
    ReadsPart p ∧ ReadsWhole p := by
  refine reads_of_readSimple (by rw [hpieces, hpieces]) fun rest => ?_
  rw [hpieces, said_append, List.append_assoc, readSimple_column (hname rest), htest]

mutual

theorem reads : ∀ p : Predicate, ReadsPart p ∧ ReadsWhole p
  | .eq _ _ => reads_of_readSimple rfl fun _ => readSimple_comparison rfl (by decide) rfl
  | .ne _ _ => reads_of_readSimple rfl fun _ => readSimple_comparison rfl (by decide) rfl
  | .lt _ _ => reads_of_readSimple rfl fun _ => readSimple_comparison rfl (by decide) rfl
  | .le _ _ => reads_of_readSimple rfl fun _ => readSimple_comparison rfl (by decide) rfl
  | .gt _ _ => reads_of_readSimple rfl fun _ => readSimple_comparison rfl (by decide) rfl
  | .ge _ _ => reads_of_readSimple rfl fun _ => readSimple_comparison rfl (by decide) rfl
  | .isIn _ _ => reads_values.1
  | .notIn _ _ => reads_values.2
  | .between _ _ _ => reads_of_readTest (fun _ => rfl) (fun _ _ => nofun) fun _ => rfl
  | .isNull _ => reads_of_readTest (fun _ => rfl) (fun _ _ => nofun) fun _ => rfl
  | .notNull _ => reads_of_readTest (fun _ => rfl) (fun _ _ => nofun) fun _ => rfl
  | .like _ _ => reads_of_readTest (fun _ => rfl) (fun _ _ => nofun) fun _ => rfl
  | .notLike _ _ => reads_of_readTest (fun _ => rfl) (fun _ _ => nofun) fun _ => rfl
  | .regexp _ _ => reads_of_readTest (fun _ => rfl) (fun _ _ => nofun) fun _ => rfl
  | .notRegexp _ _ => reads_of_readTest (fun _ => rfl) (fun _ _ => nofun) fun _ => rfl
  | .contains c v => reads_of_readSimple rfl (readSimple_contains c v)
  | .all ps => reads_all (reads_parts ps)
  | .any ps => reads_any (reads_parts ps)
  | .not p => by
    have hpart := readsPart_not (reads p).2
    exact ⟨hpart, readsWhole_of_readsPart hpart rfl⟩

theorem reads_parts : ∀ ps : List Predicate, ∀ p ∈ ps, ReadsPart p
  | [], _, hp => nomatch hp
  | q :: qs, p, hp => by
    rcases List.mem_cons.mp hp with heq | hp
    · rw [heq]
      exact (reads q).1
    · exact reads_parts qs p hp

end

/-- Where no further part follows, the text of a predicate is read as the
predicate. -/
theorem readPredicate_said (p : Predicate) {rest : List (Token Value)}
    (hand : ∀ more, rest ≠ .word "AND" :: more) (hor : ∀ more, rest ≠ .word "OR" :: more) :
    readPredicate (said (p.pieces false) ++ rest) = some (p.canonical, rest) := by
  refine (reads p).2.2 _ rest ?_ hand hor
  rw [List.length_append]
  exact Nat.le_add_right _ _

end EntityStore.Sql
