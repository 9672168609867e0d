-- Pieces of statements that are read as they were written, and in which no
-- condition begins: names, columns, values, predicates and numbers.
import EntityStore.Proofs.Sql.Tokens

namespace EntityStore.Sql

open Piece (said said_cons said_append said_nil separate Legible)

/-! ## Pieces without a condition -/

/-- The token begins the condition of a statement. -/
def Token.isWhere {α : Type} : Token α → Bool
  | .word "WHERE" => true
  | _ => false

/-- Legible pieces in which no condition begins. -/
structure Plain (ps : List Piece) : Prop where
  legible : Legible ps
  quiet : ∀ t ∈ said ps, t.isWhere = false

/-- The pieces may follow any others. -/
def Starts (ps : List Piece) : Prop :=
  ps = [] ∨ ∃ w rest, ps = .word w :: rest ∧ startsToken w = true

/-- The words are read, and with no condition among them. -/
def isQuiet (w : String) : Bool := ((wordTokens? w).map (·.all fun t => !t.isWhere)).getD false

theorem isReadable_of_isQuiet {w : String} (h : isQuiet w = true) : isReadable w = true := by
  unfold isQuiet at h
  unfold isReadable
  cases hw : wordTokens? w with
  | none =>
    rw [hw] at h
    cases h
  | some ts => rfl

theorem Starts.append {ps qs : List Piece} (hps : Starts ps) (hqs : Starts qs) :
    Starts (ps ++ qs) := by
  rcases hps with rfl | ⟨w, rest, rfl, hw⟩
  · exact hqs
  · exact .inr ⟨w, rest ++ qs, rfl, hw⟩

theorem Starts.flatten {pss : List (List Piece)} (h : ∀ ps ∈ pss, Starts ps) :
    Starts pss.flatten := by
  induction pss with
  | nil => exact .inl rfl
  | cons ps rest ih =>
    rw [List.flatten_cons]
    exact (h ps List.mem_cons_self).append (ih fun qs hqs => h qs (List.mem_cons_of_mem ps hqs))

theorem starts_word {w : String} {ps : List Piece} (h : startsToken w = true) :
    Starts (.word w :: ps) := .inr ⟨w, ps, rfl, h⟩

theorem legible_append {ps qs : List Piece} (hps : Legible ps) (hqs : Legible qs)
    (hstarts : Starts qs) : Legible (ps ++ qs) := by
  rcases hstarts with rfl | ⟨w, rest, rfl, hw⟩
  · rw [List.append_nil]
    exact hps
  · exact hps.beforeWord hw hqs

namespace Plain

theorem nil : Plain [] := ⟨Piece.legible_nil, nofun⟩

theorem word {w : String} (h : isQuiet w = true) : Plain [.word w] := by
  refine ⟨Piece.legible_word (isReadable_of_isQuiet h), fun t ht => ?_⟩
  rw [said_cons, said_nil, List.append_nil, Piece.tokens] at ht
  unfold isQuiet at h
  cases hw : wordTokens? w with
  | none =>
    rw [hw] at h
    cases h
  | some ts =>
    rw [hw] at h ht
    simpa using List.all_eq_true.mp h t ht

theorem ident (name : String) : Plain [.ident name] := by
  refine ⟨Piece.legible_ident name, fun t ht => ?_⟩
  rw [List.mem_singleton.mp ht]
  rfl

variable {ps qs : List Piece}

theorem append (hps : Plain ps) (hqs : Plain qs) (hstarts : Starts qs) : Plain (ps ++ qs) := by
  refine ⟨legible_append hps.legible hqs.legible hstarts, fun t ht => ?_⟩
  rw [said_append] at ht
  rcases List.mem_append.mp ht with ht | ht
  · exact hps.quiet t ht
  · exact hqs.quiet t ht

theorem afterWord {w : String} (hw : isQuiet w = true) (hends : endsToken w = true)
    (hps : Plain ps) : Plain (.word w :: ps) := by
  refine ⟨.afterWord (isReadable_of_isQuiet hw) hends hps.legible, fun t ht => ?_⟩
  rw [said_cons] at ht
  rcases List.mem_append.mp ht with ht | ht
  · exact (word hw).quiet t (by rw [said_cons, said_nil, List.append_nil]; exact ht)
  · exact hps.quiet t ht

theorem afterPlace {v : Value} (hps : Plain ps) : Plain (.param v :: ps) := by
  refine ⟨.afterPlace hps.legible, fun t ht => ?_⟩
  rcases List.mem_cons.mp ht with rfl | ht
  · rfl
  · exact hps.quiet t ht

theorem beforeWord {w : String} (hps : Plain ps) (hstarts : startsToken w = true)
    (hqs : Plain (.word w :: qs)) : Plain (ps ++ .word w :: qs) :=
  hps.append hqs (starts_word hstarts)

theorem separated {w : String} {pss : List (List Piece)} (hw : isQuiet w = true)
    (hstarts : startsToken w = true) (hends : endsToken w = true) (hpss : ∀ ps ∈ pss, Plain ps) :
    Plain (separate w pss) := by
  induction pss with
  | nil => exact nil
  | cons ps rest ih =>
    have hps := hpss ps List.mem_cons_self
    have hrest := ih fun qs hqs => hpss qs (List.mem_cons_of_mem ps hqs)
    cases rest with
    | nil => exact hps
    | cons qs rest => exact hps.beforeWord hstarts (hrest.afterWord hw hends)

theorem flatten {pss : List (List Piece)} (hpss : ∀ ps ∈ pss, Plain ps ∧ Starts ps) :
    Plain pss.flatten := by
  induction pss with
  | nil => exact nil
  | cons ps rest ih =>
    rw [List.flatten_cons]
    have hrest : ∀ qs ∈ rest, Plain qs ∧ Starts qs :=
      fun qs hqs => hpss qs (List.mem_cons_of_mem ps hqs)
    exact (hpss ps List.mem_cons_self).1.append (ih hrest) (.flatten fun qs hqs => (hrest qs hqs).2)

end Plain

/-! ## Columns, values and predicates -/

theorem plain_basePieces (c : Column) : Plain c.basePieces := by
  unfold Column.basePieces
  split
  · exact (Plain.ident _).beforeWord rfl ((Plain.ident _).afterWord rfl rfl)
  · exact .ident _

theorem plain_column (c : Column) : Plain c.pieces := by
  unfold Column.pieces
  split
  · exact plain_basePieces c
  · refine Plain.afterWord rfl rfl ((plain_basePieces c).beforeWord rfl ?_)
    exact Plain.afterWord rfl rfl (Plain.afterPlace (.word rfl))

theorem plain_listPieces (vs : List Value) : Plain (listPieces vs) := by
  unfold listPieces
  refine Plain.afterWord rfl rfl (Plain.beforeWord (.separated rfl rfl rfl ?_) rfl (.word rfl))
  simp only [List.forall_mem_map]
  exact fun v _ => Plain.nil.afterPlace

theorem plain_dottedPieces (reference : String) : Plain (dottedPieces reference) := by
  refine .separated rfl rfl rfl ?_
  simp only [List.forall_mem_map]
  exact fun part _ => .ident part

theorem plain_label (label : Option String) : Plain (labelPieces label) := by
  cases label with
  | none => exact .nil
  | some name => exact Plain.afterWord rfl rfl (.ident name)

theorem starts_label (label : Option String) : Starts (labelPieces label) := by
  cases label with
  | none => exact .inl rfl
  | some name => exact starts_word rfl

theorem plain_comparison {sign : String} (c : Column) (v : Value)
    (hquiet : isQuiet (" " ++ sign ++ " ") = true)
    (hstarts : startsToken (" " ++ sign ++ " ") = true)
    (hends : endsToken (" " ++ sign ++ " ") = true) : Plain (comparisonPieces c sign v) := by
  unfold comparisonPieces
  split
  · split
    · exact (plain_column c).beforeWord rfl (.word rfl)
    · exact (plain_column c).beforeWord rfl (.word rfl)
  · exact (plain_column c).beforeWord hstarts (.afterWord hquiet hends (.afterPlace .nil))

theorem plain_junction {word none? : String} {nested : Bool} {parts : List (List Piece)}
    (hword : isQuiet word = true) (hstarts : startsToken word = true)
    (hends : endsToken word = true) (hnone : isQuiet none? = true)
    (hparts : ∀ ps ∈ parts, Plain ps) : Plain (junctionPieces word none? nested parts) := by
  have hseparated : Plain (separate word parts) := .separated hword hstarts hends hparts
  unfold junctionPieces
  split
  · exact .word hnone
  · exact hparts _ List.mem_cons_self
  · split
    · exact .afterWord rfl rfl (hseparated.beforeWord rfl (.word rfl))
    · exact hseparated

theorem plain_contains (c : Column) (v : Value) (nested : Bool) :
    Plain ((Predicate.contains c v).pieces nested) := by
  rw [Predicate.pieces]
  simp only [List.cons_append, List.append_assoc, List.nil_append]
  refine .afterWord rfl rfl ((plain_basePieces c).beforeWord rfl
    (.afterWord rfl rfl (.afterPlace ?_)))
  cases c.path with
  | none => exact .word rfl
  | some path => exact .afterWord rfl rfl (.afterPlace (.word rfl))

mutual

theorem plain_predicate (nested : Bool) : ∀ p : Predicate, Plain (p.pieces nested)
  | .eq c v => plain_comparison c v rfl rfl rfl
  | .ne c v => plain_comparison c v rfl rfl rfl
  | .lt c v => plain_comparison c v rfl rfl rfl
  | .le c v => plain_comparison c v rfl rfl rfl
  | .gt c v => plain_comparison c v rfl rfl rfl
  | .ge c v => plain_comparison c v rfl rfl rfl
  | .isIn c vs => by
    rw [Predicate.pieces]
    split
    · exact .word rfl
    · exact (plain_column c).beforeWord rfl (.afterWord rfl rfl (plain_listPieces vs))
  | .notIn c vs => by
    rw [Predicate.pieces]
    split
    · exact .word rfl
    · exact (plain_column c).beforeWord rfl (.afterWord rfl rfl (plain_listPieces vs))
  | .between c _ _ => (plain_column c).beforeWord rfl
      (.afterWord rfl rfl (.afterPlace (.afterWord rfl rfl (.afterPlace .nil))))
  | .isNull c => (plain_column c).beforeWord rfl (.word rfl)
  | .notNull c => (plain_column c).beforeWord rfl (.word rfl)
  | .like c _ => (plain_column c).beforeWord rfl (.afterWord rfl rfl (.afterPlace .nil))
  | .notLike c _ => (plain_column c).beforeWord rfl (.afterWord rfl rfl (.afterPlace .nil))
  | .regexp c _ => (plain_column c).beforeWord rfl (.afterWord rfl rfl (.afterPlace .nil))
  | .notRegexp c _ => (plain_column c).beforeWord rfl (.afterWord rfl rfl (.afterPlace .nil))
  | .contains c v => plain_contains c v nested
  | .all ps => plain_junction rfl rfl rfl rfl (plain_parts ps)
  | .any ps => plain_junction rfl rfl rfl rfl (plain_parts ps)
  | .not p => .afterWord rfl rfl ((plain_predicate false p).beforeWord rfl (.word rfl))

theorem plain_parts : ∀ ps : List Predicate, ∀ part ∈ partPieces ps, Plain part
  | [], _, h => nomatch h
  | p :: ps, part, h => by
    rcases List.mem_cons.mp h with heq | h
    · rw [heq]
      exact plain_predicate true p
    · exact plain_parts ps part h

end

/-! ## Numbers -/

theorem isWordChar_of_isDigit {c : Char} (h : c.isDigit = true) : isWordChar c = true := by
  simp [isWordChar, Char.isAlphanum, h]

theorem scan_word {cs : List Char} (hcs : ∀ c ∈ cs, isWordChar c = true) (ds : List Char) :
    scan (.word ds) cs = some [.word (String.ofList (ds ++ cs))] := by
  induction cs generalizing ds with
  | nil => simp [scan, Scan.finish]
  | cons c cs ih =>
    rw [scan, Scan.next, if_pos (hcs c List.mem_cons_self)]
    dsimp only
    rw [ih fun d hd => hcs d (List.mem_cons_of_mem c hd)]
    simp

theorem begin_digit {c : Char} (h : c.isDigit = true) : begin c = ([], .word [c]) := by
  have hother : ∀ d : Char, d.isDigit = false → c ≠ d := by
    rintro d hd rfl
    rw [hd] at h
    cases h
  have hblank : c.isWhitespace = false := by
    simp [Char.isWhitespace, hother ' ' rfl, hother '\t' rfl, hother '\r' rfl, hother '\n' rfl]
  rw [begin, hblank, if_neg Bool.false_ne_true, if_neg (hother identQuote rfl),
    if_neg (hother '?' rfl), if_pos (isWordChar_of_isDigit h)]

theorem isDigit_of_mem_toString {n : Nat} {c : Char} (h : c ∈ (toString n).toList) :
    c.isDigit = true := by
  rw [Nat.toString_eq_repr, Nat.toList_repr] at h
  exact Nat.isDigit_of_mem_toDigits (by decide) (by decide) h

/-- A number is read as one word. -/
theorem tokens?_toString (n : Nat) : tokens? (toString n) = some [.word (toString n)] := by
  have hne : (toString n).toList ≠ [] := by
    rw [Nat.toString_eq_repr, Nat.toList_repr]
    exact Nat.toDigits_ne_nil
  have hlist : toString n = String.ofList (toString n).toList := String.ofList_toList.symm
  rw [tokens?]
  cases hchars : (toString n).toList with
  | nil => exact absurd hchars hne
  | cons c cs =>
    have hdigit : ∀ d ∈ c :: cs, d.isDigit = true := by
      intro d hd
      rw [← hchars] at hd
      exact isDigit_of_mem_toString hd
    rw [scan, Scan.next, begin_digit (hdigit c List.mem_cons_self), scan_word fun d hd =>
      isWordChar_of_isDigit (hdigit d (List.mem_cons_of_mem c hd))]
    rw [hlist, hchars]
    rfl

theorem isWhere_toString {α : Type} (n : Nat) :
    (Token.word (toString n) : Token α).isWhere = false := by
  unfold Token.isWhere
  split
  · rename_i heq
    injection heq with heq
    have hletter : 'W' ∈ (toString n).toList := by
      rw [heq]
      decide
    exact absurd (isDigit_of_mem_toString hletter) (by decide)
  · rfl

theorem wordTokens?_of_tokens? {w : String} {words : List String}
    (hw : tokens? w = some (words.map .word)) : wordTokens? w = some (words.map .word) := by
  have hfill : ∀ words : List String,
      fill (words.map .word) [] = some (words.map (Token.word : String → Token Value)) := by
    intro words
    induction words with
    | nil => rfl
    | cons s rest ih =>
      rw [List.map_cons, fill, ih]
      rfl
  rw [wordTokens?, hw]
  exact hfill words

/-- Words that are read, with no place and no condition among them, are
quiet. -/
theorem isQuiet_of_tokens? {w : String} {words : List String}
    (hw : tokens? w = some (words.map .word))
    (hquiet : ∀ s ∈ words, (Token.word s : Token Value).isWhere = false) : isQuiet w = true := by
  rw [isQuiet, wordTokens?_of_tokens? hw, Option.map_some, Option.getD_some, List.all_map,
    List.all_eq_true]
  intro s hs
  rw [Function.comp, hquiet s hs]
  rfl

theorem tokens?_limit (n : Nat) :
    tokens? (" LIMIT " ++ toString n) = some (["LIMIT", toString n].map .word) := by
  rw [tokens?_append_of_endsToken [.word "LIMIT"] rfl rfl, tokens?_toString]
  rfl

theorem tokens?_limit_offset (n k : Nat) :
    tokens? (" LIMIT " ++ toString n ++ " OFFSET " ++ toString k) =
      some (["LIMIT", toString n, "OFFSET", toString k].map .word) := by
  rw [String.append_assoc, tokens?_append_of_startsToken (startsToken_append rfl _)
    (tokens?_limit n), tokens?_append_of_endsToken [.word "OFFSET"] rfl rfl,
    tokens?_toString]
  rfl

end EntityStore.Sql
