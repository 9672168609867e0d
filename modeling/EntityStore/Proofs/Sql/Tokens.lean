-- Reading the text of a statement back. Names stand in quotes, and a quote
-- written twice stands for one. Pieces that do not run together are read as
-- they were written: the words and signs of the language, the names, and a
-- place for every parameter.
import EntityStore.Sql.Text

namespace EntityStore.Sql

/-! ## Tokens -/

/-- A part of a text. At a place for a parameter stands something of `α`. -/
inductive Token (α : Type) where
  | word (s : String)
  | sign (s : String)
  | name (s : String)
  | place (a : α)
  deriving DecidableEq, Repr

def Token.isPlace {α : Type} : Token α → Bool
  | .place _ => true
  | _ => false

/-- What stands at a place. -/
def Token.placed? {α : Type} : Token α → Option α
  | .place a => some a
  | _ => none

/-- What has been read of a token. -/
inductive Scan where
  /-- Nothing: the last token is over. -/
  | between
  | word (cs : List Char)
  | sign (cs : List Char)
  /-- A name whose quotes are open. -/
  | name (cs : List Char)
  /-- A name, and a quote that may be its end. -/
  | quote (cs : List Char)

/-- Letters, digits and underscores make words. -/
def isWordChar (c : Char) : Bool := c.isAlphanum || c == '_'

/-- Some signs are made of several characters. -/
def isSignChar (c : Char) : Bool := ['=', '<', '>', '!'].contains c

/-- What a character begins after a token is over. -/
def begin (c : Char) : List (Token Unit) × Scan :=
  if c.isWhitespace then ([], .between)
  else if c = identQuote then ([], .name [])
  else if c = '?' then ([.place ()], .between)
  else if isWordChar c then ([], .word [c])
  else if isSignChar c then ([], .sign [c])
  else ([.sign (String.singleton c)], .between)

namespace Scan

/-- The tokens that the end of the text completes. An open name has none. -/
def finish : Scan → Option (List (Token Unit))
  | .between => some []
  | .word cs => some [.word (String.ofList cs)]
  | .sign cs => some [.sign (String.ofList cs)]
  | .name _ => none
  | .quote cs => some [.name (String.ofList cs)]

/-- The tokens that one more character completes, and what is read then. -/
def next (m : Scan) (c : Char) : List (Token Unit) × Scan :=
  match m with
  | .between => begin c
  | .word cs =>
    if isWordChar c then ([], .word (cs ++ [c]))
    else (.word (String.ofList cs) :: (begin c).1, (begin c).2)
  | .sign cs =>
    if isSignChar c then ([], .sign (cs ++ [c]))
    else (.sign (String.ofList cs) :: (begin c).1, (begin c).2)
  | .name cs => if c = identQuote then ([], .quote cs) else ([], .name (cs ++ [c]))
  | .quote cs =>
    if c = identQuote then ([], .name (cs ++ [c]))
    else (.name (String.ofList cs) :: (begin c).1, (begin c).2)

/-- What is read after some characters. -/
def after (m : Scan) (cs : List Char) : Scan := cs.foldl (fun m c => (m.next c).2) m

end Scan

/-- The tokens of a text of which some may have been read. -/
def scan (m : Scan) : List Char → Option (List (Token Unit))
  | [] => m.finish
  | c :: rest => (scan (m.next c).2 rest).map ((m.next c).1 ++ ·)

/-- The tokens of a text. A text whose quotes do not close has none. -/
def tokens? (text : String) : Option (List (Token Unit)) := scan .between text.toList

/-- The tokens with the parameters at their places, the first one at the first
place, when there are as many of both. -/
def fill {α : Type} : List (Token Unit) → List α → Option (List (Token α))
  | [], [] => some []
  | [], _ :: _ => none
  | .place _ :: _, [] => none
  | .place _ :: ts, v :: vs => (fill ts vs).map (.place v :: ·)
  | .word s :: ts, vs => (fill ts vs).map (.word s :: ·)
  | .sign s :: ts, vs => (fill ts vs).map (.sign s :: ·)
  | .name s :: ts, vs => (fill ts vs).map (.name s :: ·)

section

variable {α : Type}

theorem fill_append {ts us : List (Token Unit)} {vs ws : List α} {filled filled' : List (Token α)}
    (h : fill ts vs = some filled) (h' : fill us ws = some filled') :
    fill (ts ++ us) (vs ++ ws) = some (filled ++ filled') := by
  induction ts generalizing vs filled with
  | nil =>
    cases vs with
    | nil =>
      cases h
      exact h'
    | cons v vs => cases h
  | cons t ts ih =>
    cases t with
    | place a =>
      cases vs with
      | nil => cases h
      | cons v vs =>
        rw [fill, Option.map_eq_some_iff] at h
        obtain ⟨rest, hrest, rfl⟩ := h
        simp [fill, ih hrest]
    | _ =>
      simp only [fill, Option.map_eq_some_iff] at h
      obtain ⟨rest, hrest, rfl⟩ := h
      simp [fill, ih hrest]

/-- Filling succeeds only with as many parameters as places, and puts them
there in their order. -/
theorem places_of_fill {ts : List (Token Unit)} {vs : List α} {filled : List (Token α)}
    (h : fill ts vs = some filled) :
    ts.countP Token.isPlace = vs.length ∧ filled.filterMap Token.placed? = vs := by
  induction ts generalizing vs filled with
  | nil =>
    cases vs with
    | nil =>
      cases h
      exact ⟨rfl, rfl⟩
    | cons v vs => cases h
  | cons t ts ih =>
    cases t with
    | place a =>
      cases vs with
      | nil => cases h
      | cons v vs =>
        rw [fill, Option.map_eq_some_iff] at h
        obtain ⟨rest, hrest, rfl⟩ := h
        obtain ⟨hcount, hplaced⟩ := ih hrest
        refine ⟨?_, ?_⟩
        · rw [List.countP_cons_of_pos rfl, hcount, List.length_cons]
        · show v :: rest.filterMap Token.placed? = v :: vs
          rw [hplaced]
    | _ =>
      simp only [fill, Option.map_eq_some_iff] at h
      obtain ⟨rest, hrest, rfl⟩ := h
      obtain ⟨hcount, hplaced⟩ := ih hrest
      exact ⟨(List.countP_cons_of_neg Bool.false_ne_true).trans hcount,
        (List.filterMap_cons_none rfl).trans hplaced⟩

end

/-! ## Where texts may be cut -/

/-- The character belongs to no token before it. -/
def breaks (c : Char) : Bool := !isWordChar c && !isSignChar c && c != identQuote

theorem next_of_breaks {m : Scan} {c : Char} {ts : List (Token Unit)} (hc : breaks c = true)
    (h : m.finish = some ts) : m.next c = (ts ++ (begin c).1, (begin c).2) := by
  simp only [breaks, Bool.and_eq_true, Bool.not_eq_true', bne_iff_ne] at hc
  obtain ⟨⟨hword, hsign⟩, hquote⟩ := hc
  cases m with
  | between =>
    cases h
    rfl
  | word cs =>
    cases h
    simp [Scan.next, hword]
  | sign cs =>
    cases h
    simp [Scan.next, hsign]
  | name cs => cases h
  | quote cs =>
    cases h
    simp [Scan.next, hquote]

/-- A text may be cut before a character that belongs to no token before it. -/
theorem scan_append_cons {m : Scan} {cs ds : List Char} {c : Char} {ts : List (Token Unit)}
    (hc : breaks c = true) (h : scan m cs = some ts) :
    scan m (cs ++ c :: ds) = (scan .between (c :: ds)).map (ts ++ ·) := by
  induction cs generalizing m ts with
  | nil =>
    rw [List.nil_append, scan, next_of_breaks hc h, scan, Scan.next, Option.map_map]
    congr 1
    funext us
    simp
  | cons d cs ih =>
    rw [scan, Option.map_eq_some_iff] at h
    obtain ⟨us, hus, rfl⟩ := h
    rw [List.cons_append, scan, ih hus, Option.map_map]
    congr 1
    funext us
    simp

/-- A text may be cut where a token is over. -/
theorem scan_append {m : Scan} {cs ds : List Char} {ts : List (Token Unit)}
    (hafter : m.after cs = .between) (h : scan m cs = some ts) :
    scan m (cs ++ ds) = (scan .between ds).map (ts ++ ·) := by
  induction cs generalizing m ts with
  | nil =>
    cases hafter
    cases h
    simp
  | cons d cs ih =>
    rw [scan, Option.map_eq_some_iff] at h
    obtain ⟨us, hus, rfl⟩ := h
    rw [List.cons_append, scan, ih hafter hus, Option.map_map]
    congr 1
    funext us
    simp

/-! ## Names -/

theorem scan_name (cs ds : List Char) :
    scan (.name ds)
        (cs.flatMap (fun c => if c = identQuote then [c, c] else [c]) ++ [identQuote]) =
      some [.name (String.ofList (ds ++ cs))] := by
  induction cs generalizing ds with
  | nil => simp [scan, Scan.next, Scan.finish]
  | cons c cs ih =>
    rw [List.flatMap_cons]
    split
    · rename_i hquote
      simp only [List.cons_append, List.nil_append, scan, Scan.next, hquote, if_true, ih]
      simp
    · rename_i hquote
      simp only [List.cons_append, List.nil_append, scan, Scan.next, hquote, if_false, ih]
      simp

/-- A name in quotes is read as that name, whatever characters it has. -/
theorem a_quoted_name_is_read_back (name : String) :
    tokens? (quoteIdent name) = some [.name name] := by
  rw [tokens?, quoteIdent, String.toList_ofList, List.cons_append, scan]
  show (scan (.name []) _).map ([] ++ ·) = _
  rw [scan_name]
  simp

/-! ## Pieces -/

/-- The tokens of words of the language, which have no places. -/
def wordTokens? (w : String) : Option (List (Token Value)) := (tokens? w).bind (fill · [])

/-- The words are read, and without places. -/
def isReadable (w : String) : Bool := (wordTokens? w).isSome

/-- After these words a token is over. -/
def endsToken (w : String) : Bool :=
  match Scan.between.after w.toList with
  | .between => true
  | _ => false

/-- Before these words a token is over. -/
def startsToken (w : String) : Bool := w.toList.head?.any breaks

theorem startsToken_append {w : String} (h : startsToken w = true) (s : String) :
    startsToken (w ++ s) = true := by
  unfold startsToken at h ⊢
  cases hw : w.toList with
  | nil =>
    rw [hw] at h
    cases h
  | cons c rest =>
    rw [hw] at h
    rw [String.toList_append, hw]
    exact h

theorem tokens?_append_of_endsToken {w s : String} (ts : List (Token Unit))
    (hends : endsToken w = true) (hw : tokens? w = some ts) :
    tokens? (w ++ s) = (tokens? s).map (ts ++ ·) := by
  have hafter : Scan.between.after w.toList = .between := by
    unfold endsToken at hends
    split at hends
    · assumption
    · cases hends
  rw [tokens?, String.toList_append]
  exact scan_append hafter hw

theorem tokens?_append_of_startsToken {w s : String} {ts : List (Token Unit)}
    (hstarts : startsToken s = true) (hw : tokens? w = some ts) :
    tokens? (w ++ s) = (tokens? s).map (ts ++ ·) := by
  have hhead : ∃ c rest, s.toList = c :: rest ∧ breaks c = true := by
    unfold startsToken at hstarts
    cases hs : s.toList with
    | nil =>
      rw [hs] at hstarts
      cases hstarts
    | cons c rest =>
      rw [hs] at hstarts
      exact ⟨c, rest, rfl, hstarts⟩
  obtain ⟨c, rest, hs, hc⟩ := hhead
  rw [tokens?, tokens?, String.toList_append, hs]
  exact scan_append_cons hc hw

namespace Piece

/-- What a piece says. -/
def tokens : Piece → List (Token Value)
  | .word w => (wordTokens? w).getD []
  | .ident name => [.name name]
  | .raw w => (wordTokens? w).getD []
  | .param v => [.place v]

/-- What some pieces say. -/
def said (ps : List Piece) : List (Token Value) := ps.flatMap tokens

theorem said_nil : said [] = [] := rfl

theorem said_cons (p : Piece) (ps : List Piece) : said (p :: ps) = p.tokens ++ said ps := rfl

theorem said_append (ps qs : List Piece) : said (ps ++ qs) = said ps ++ said qs :=
  List.flatMap_append

/-- The tokens of the text of some pieces are what the pieces say. -/
def Legible (ps : List Piece) : Prop :=
  ∃ ts, tokens? (join ps) = some ts ∧ fill ts (params ps) = some (said ps)

theorem join_append (ps qs : List Piece) : join (ps ++ qs) = join ps ++ join qs := by
  simp [join]

theorem join_cons (p : Piece) (ps : List Piece) : join (p :: ps) = p.text ++ join ps := by
  simp [join]

theorem params_append (ps qs : List Piece) : params (ps ++ qs) = params ps ++ params qs :=
  List.filterMap_append

theorem legible_nil : Legible [] := ⟨[], rfl, rfl⟩

theorem wordTokens?_eq_some {w : String} (h : isReadable w = true) :
    ∃ ts, tokens? w = some ts ∧ fill ts [] = some (tokens (.word w)) := by
  obtain ⟨filled, hfilled⟩ := Option.isSome_iff_exists.mp h
  obtain ⟨ts, hts, hfill⟩ := Option.bind_eq_some_iff.mp hfilled
  refine ⟨ts, hts, ?_⟩
  rw [hfill, tokens, hfilled]
  rfl

theorem legible_word {w : String} (h : isReadable w = true) : Legible [.word w] := by
  obtain ⟨ts, hts, hfill⟩ := wordTokens?_eq_some h
  have hjoin : join [.word w] = w := by simp [join, text]
  refine ⟨ts, by rw [hjoin, hts], ?_⟩
  rw [said_cons, said_nil, List.append_nil]
  exact hfill

theorem legible_ident (name : String) : Legible [.ident name] :=
  ⟨[.name name], by simpa [join, text] using a_quoted_name_is_read_back name, rfl⟩

/-- Where the text of the first pieces may be cut off, the pieces are legible
each for themselves. -/
theorem Legible.append {ps qs : List Piece} (hps : Legible ps) (hqs : Legible qs)
    (hcut : ∀ ts, tokens? (join ps) = some ts →
      tokens? (join ps ++ join qs) = (tokens? (join qs)).map (ts ++ ·)) : Legible (ps ++ qs) := by
  obtain ⟨ts, hts, hfill⟩ := hps
  obtain ⟨us, hus, hfill'⟩ := hqs
  refine ⟨ts ++ us, ?_, ?_⟩
  · rw [join_append, hcut ts hts, hus]
    rfl
  · rw [params_append, said_append]
    exact fill_append hfill hfill'

/-- After words that end in no token anything may follow. -/
theorem Legible.afterWord {w : String} {ps : List Piece} (hw : isReadable w = true)
    (hends : endsToken w = true) (hps : Legible ps) : Legible (.word w :: ps) := by
  refine Legible.append (legible_word hw) hps ?_
  intro ts hts
  have hjoin : join [.word w] = w := by simp [join, text]
  rw [hjoin] at hts ⊢
  exact tokens?_append_of_endsToken ts hends hts

/-- After a place anything may follow. -/
theorem Legible.afterPlace {v : Value} {ps : List Piece} (hps : Legible ps) :
    Legible (.param v :: ps) := by
  have hjoin : join [.param v] = "?" := by simp [join, text]
  have hplace : Legible [.param v] := ⟨[.place ()], by rw [hjoin]; rfl, rfl⟩
  refine Legible.append hplace hps ?_
  intro ts hts
  rw [hjoin] at hts ⊢
  exact tokens?_append_of_endsToken ts rfl hts

/-- Before words that start with no token anything may come. -/
theorem Legible.beforeWord {w : String} {ps qs : List Piece} (hps : Legible ps)
    (hstarts : startsToken w = true) (hqs : Legible (.word w :: qs)) :
    Legible (ps ++ .word w :: qs) := by
  refine Legible.append hps hqs ?_
  intro ts hts
  rw [join_cons]
  exact tokens?_append_of_startsToken (startsToken_append hstarts _) hts

end Piece

end EntityStore.Sql
