-- What the wildcard pattern of a filter becomes. Escaping and unescaping undo each other, so the
-- regular expression has a piece for each character of the filter's pattern. It is read to
-- an expression that has a part for each of them, and that matches the whole text or nothing.
import EntityStore.Indices.Matching
import EntityStore.Proofs.Pattern.Like
import EntityStore.Proofs.Pattern.Spans

namespace EntityStore

namespace Wildcard

open Like (Token)

/-! ## Tokens -/

/-- The tokens of a wildcard pattern. A backslash at the end stands for
nothing. -/
def tokens : List Char → List Token
  | [] => []
  | '*' :: rest => .any :: tokens rest
  | '?' :: rest => .one :: tokens rest
  | ['\\'] => []
  | '\\' :: c :: rest => .char c :: tokens rest
  | c :: rest => .char c :: tokens rest

/-- The token of a character of a filter's pattern. -/
def starToken (c : Char) : Token := if c = Like.star then .any else .char c

theorem ofStarred_eq (raw : List Char) : ofStarred raw = (Like.starred raw).flatMap escape := by
  unfold ofStarred Like.starred
  split
  · rfl
  · rw [List.flatMap_append]
    rfl

/-- What is escaped is read as one token, whatever comes behind it. -/
theorem tokens_escape (c : Char) (rest : List Char) :
    tokens (escape c ++ rest) = starToken c :: tokens rest := by
  unfold escape starToken
  by_cases hescaped : c = '\\' ∨ c = '?'
  · rcases hescaped with rfl | rfl <;> rfl
  · obtain ⟨hback, hone⟩ := not_or.mp hescaped
    rw [if_neg hescaped, List.singleton_append]
    by_cases hstar : c = Like.star
    · subst hstar
      rfl
    · rw [if_neg hstar, tokens]
      · exact hstar
      · exact hone
      · exact fun heq _ => hback heq
      · exact fun _ _ heq _ => hback heq

theorem tokens_ofStarred (raw : List Char) :
    tokens (ofStarred raw) = (Like.starred raw).map starToken := by
  rw [ofStarred_eq]
  induction Like.starred raw with
  | nil => rfl
  | cons c cs ih => rw [List.flatMap_cons, tokens_escape, ih, List.map_cons]

/-! ## The regular expression -/

/-- A token as a regular expression, with a function that writes a character so
that it stands for itself. -/
def written (write : Char → List Char) : Token → List Char
  | .any => ['.', '*']
  | .one => ['.']
  | .char c => write c

/-- The regular expression of a wildcard pattern, for any way to write a
character. -/
def regexBy (write : Char → List Char) (pattern : String) : String :=
  String.ofList ((tokens pattern.toList).flatMap (written write))

/-- Each token of a wildcard pattern is written by itself. -/
theorem regexChars_eq (cs : List Char) : regexChars cs = (tokens cs).flatMap (written literal) := by
  fun_induction regexChars cs with
  | case1 => rfl
  | case4 => rfl
  | case2 rest ih => simp [tokens, written, ih]
  | case3 rest ih => simp [tokens, written, ih]
  | case5 c rest ih => simp [tokens, written, ih]
  | case6 c rest => simp [tokens, written, *]

theorem written_starToken (write : Char → List Char) (c : Char) :
    written write (starToken c) = if c = Like.star then ['.', '*'] else write c := by
  unfold starToken
  split <;> rfl

theorem flatMap_written_ofStarred (write : Char → List Char) (raw : List Char) :
    (tokens (ofStarred raw)).flatMap (written write) =
      (Like.starred raw).flatMap fun c => if c = Like.star then ['.', '*'] else write c := by
  simp only [tokens_ofStarred, List.flatMap_map, written_starToken]

/-- The regular expression for a character of a filter's pattern. -/
def piece (c : Char) : List Char := if c = Like.star then ['.', '*'] else literal c

/-- The regular expression of a filter's pattern has a piece for each character
of it, and for the stars around one that has none. -/
theorem regexChars_ofStarred (raw : List Char) :
    regexChars (ofStarred raw) = (Like.starred raw).flatMap piece := by
  rw [regexChars_eq, flatMap_written_ofStarred]
  rfl

/-- The regular expression of a filter's pattern has any text for each star, and each other
character as it is written to stand for itself, however that is done. Where there is no star any
text stands around it. -/
theorem escaping_is_undone (write : Char → List Char) (raw : String) :
    let pieces := raw.toList.flatMap fun c => if c = '*' then ['.', '*'] else write c
    regexBy write (pattern raw) = String.ofList
        (if '*' ∈ raw.toList then pieces else ['.', '*'] ++ pieces ++ ['.', '*']) ∧
      regex = regexBy literal := by
  intro pieces
  constructor
  · rw [regexBy, pattern, String.toList_ofList, flatMap_written_ofStarred, Like.starred]
    have hstars : raw.toList.contains Like.star = true ↔ '*' ∈ raw.toList := List.contains_iff_mem
    by_cases hstar : '*' ∈ raw.toList
    · rw [if_pos (hstars.mpr hstar), if_pos hstar]
      rfl
    · rw [if_neg fun h => hstar (hstars.mp h), if_neg hstar, List.flatMap_append, List.flatMap_cons]
      rfl
  · funext cs
    rw [regex, regexBy, regexChars_eq]

example : regex (pattern "a?\\*") = "a\\?\\\\.*" := by decide

/-! ## Signs of regular expressions -/

theorem isPlainEscape_of_isMeta {c : Char} (h : isMeta c = true) :
    Regex.isPlainEscape c = true := by
  have hall : "\\.+*?()|[]\x7b\x7d^$#&-~".toList.all Regex.isPlainEscape = true := by decide
  exact List.all_eq_true.mp hall c (List.contains_iff_mem.mp h)

/-- A piece does not start with a question mark, so what is before it is not
taken to ask for few turns. -/
theorem head?_piece_append (c : Char) (rest : List Char) :
    (piece c ++ rest).head? ≠ some '?' := by
  unfold piece literal
  split
  · exact fun h => by cases h
  · split
    · exact fun h => by cases h
    · rename_i hplain
      rw [List.singleton_append, List.head?_cons]
      rintro ⟨⟩
      exact hplain (by decide)

theorem head?_flatMap_piece (chars : List Char) {rest : List Char}
    (hrest : rest.head? ≠ some '?') : (chars.flatMap piece ++ rest).head? ≠ some '?' := by
  cases chars with
  | nil => exact hrest
  | cons c chars =>
    rw [List.flatMap_cons, List.append_assoc]
    exact head?_piece_append c _

end Wildcard

namespace Regex

/-! ## Reading -/

/-- What is left of a pattern is read to the expression. -/
def Reads (p : Progress) (cs : List Char) (n : Nested) : Prop :=
  ∀ fuel, cs.length < fuel → readFrom? p cs fuel = some n

variable {p q : Progress} {c : Char} {rest left : List Char} {n : Nested}

theorem Reads.step (hspaced : p.flags.spaced = false) (hstep : step? p c rest = some (q, left))
    (hleft : left.length ≤ rest.length) (h : Reads q left n) : Reads p (c :: rest) n := by
  intro fuel hfuel
  cases fuel with
  | zero => exact absurd hfuel (Nat.not_lt_zero _)
  | succ fuel =>
    have hskip : p.flags.skip (c :: rest) = c :: rest := by rw [Flags.skip, hspaced]; rfl
    rw [List.length_cons] at hfuel
    rw [readFrom?, hskip]
    dsimp only
    rw [hstep]
    exact h fuel (by omega)

theorem Reads.finish (hspaced : p.flags.spaced = false) (houter : p.outer = []) :
    Reads p [] p.level.close := by
  intro fuel hfuel
  cases fuel with
  | zero => exact absurd hfuel (Nat.not_lt_zero _)
  | succ fuel =>
    have hskip : p.flags.skip [] = [] := by rw [Flags.skip, hspaced]; rfl
    rw [readFrom?, hskip]
    dsimp only
    rw [houter]
    rfl

/-- The characters that a point stands for: all but the line feed. -/
def point : CodeSet := (CodeSet.singleChar '\n').compl

/-- The part that the piece of a character is read to. -/
def partOf (c : Char) : Part :=
  if c = Like.star then ⟨.times (.set point) 0 none, 1, true⟩ else ⟨.set (.variants c), 0, true⟩

theorem step?_plain {c : Char} (hplain : Wildcard.isMeta c = false)
    (hflags : p.flags = .initial) :
    step? p c rest = some (p.add (.set (.variants c)) 0, rest) := by
  have hset : p.flags.charSet c = .variants c := by rw [hflags]; rfl
  have hne (d : Char) (hd : Wildcard.isMeta d = true) : c ≠ d := by
    rintro rfl
    cases hd.symm.trans hplain
  rw [step?, hset]
  all_goals exact hne _ (by decide)

theorem step?_escaped {c : Char} (hmeta : Wildcard.isMeta c = true)
    (hflags : p.flags = .initial) :
    step? p '\\' (c :: rest) = some (p.add (.set (.variants c)) 0, rest) := by
  have hset : p.flags.charSet c = .variants c := by rw [hflags]; rfl
  have hescape : readEscape? p.flags (c :: rest) = some (.char c, rest) :=
    if_pos (Wildcard.isPlainEscape_of_isMeta hmeta)
  change (readEscape? p.flags (c :: rest)).bind _ = _
  rw [hescape, ← hset]
  rfl

/-- The progress behind the pieces of some characters. -/
def Progress.addParts (p : Progress) (chars : List Char) : Progress :=
  { p with level := { p.level with parts := (chars.map partOf).reverse ++ p.level.parts } }

theorem Progress.addParts_cons (p : Progress) (c : Char) (chars : List Char) :
    p.addParts (c :: chars) = { p with level := p.level.add (partOf c) }.addParts chars := by
  simp [addParts, Level.add]

theorem repeatLast?_add (r : Regex) (hrest : rest.head? ≠ some '?') :
    (p.add r 0).repeatLast? 0 none rest =
      some ({ p with level := p.level.add ⟨.times r 0 none, 1, true⟩ }, rest) := by
  have hlevel : (p.add r 0).level.repeatLast? 0 none =
      some (p.level.add ⟨.times r 0 none, 1, true⟩) := rfl
  unfold Progress.repeatLast?
  rw [hlevel, Option.map_some]
  split
  · exact absurd rfl hrest
  · rfl

theorem reads_piece (hflags : p.flags = .initial) (hrest : rest.head? ≠ some '?')
    (h : Reads { p with level := p.level.add (partOf c) } rest n) :
    Reads p (Wildcard.piece c ++ rest) n := by
  have hspaced : p.flags.spaced = false := by rw [hflags]; rfl
  have hpoint : step? p '.' ('*' :: rest) = some (p.add (.set point) 0, '*' :: rest) := by
    have hstep : step? p '.' ('*' :: rest) =
        p.flags.point?.bind fun s => some (p.add (.set s) 0, '*' :: rest) := rfl
    rw [hstep, hflags]
    rfl
  unfold Wildcard.piece
  by_cases hstar : c = Like.star
  · rw [if_pos hstar]
    rw [partOf, if_pos hstar] at h
    exact .step hspaced hpoint (Nat.le_refl _)
      (.step hspaced (repeatLast?_add (.set point) hrest) (Nat.le_refl _) h)
  · rw [if_neg hstar]
    rw [partOf, if_neg hstar] at h
    unfold Wildcard.literal
    cases hmeta : Wildcard.isMeta c with
    | true => exact .step hspaced (step?_escaped hmeta hflags) (Nat.le_succ _) h
    | false => exact .step hspaced (step?_plain hmeta hflags) (Nat.le_refl _) h

theorem reads_pieces {chars : List Char} (hflags : p.flags = .initial)
    (hrest : rest.head? ≠ some '?') (h : Reads (p.addParts chars) rest n) :
    Reads p (chars.flatMap Wildcard.piece ++ rest) n := by
  induction chars generalizing p with
  | nil => exact h
  | cons c chars ih =>
    rw [List.flatMap_cons, List.append_assoc]
    rw [Progress.addParts_cons] at h
    exact reads_piece hflags (Wildcard.head?_flatMap_piece chars hrest) (ih hflags h)

/-! ## The whole pattern -/

/-- The expressions of the parts of some characters, one behind the other. -/
def sequence (chars : List Char) : Regex :=
  chars.foldr (fun c r => .cat (partOf c).regex r) .empty

/-- The expression for a text from its start to its end. -/
def anchoredSequence (chars : List Char) : Regex :=
  .cat (.assert .textStart) (.cat (.group false (sequence chars)) (.cat (.assert .textEnd) .empty))

theorem depth_partOf_le (c : Char) : (partOf c).depth ≤ 1 := by
  unfold partOf
  split
  · exact Nat.le_refl 1
  · exact Nat.zero_le 1

theorem foldl_max_le {ds : List Nat} {d bound : Nat} (hd : d ≤ bound) (hds : ∀ e ∈ ds, e ≤ bound) :
    ds.foldl max d ≤ bound := by
  induction ds generalizing d with
  | nil => exact hd
  | cons e ds ih =>
    rw [List.forall_mem_cons] at hds
    exact ih (max_le hd hds.1) hds.2

theorem ofParts_partOf (chars : List Char) :
    ∃ depth ≤ 2, ofParts (chars.map partOf).reverse = ⟨sequence chars, depth⟩ := by
  have hregex : (chars.map partOf).reverse.foldl (fun r p => .cat p.regex r) .empty =
      sequence chars := by
    rw [List.foldl_reverse, List.foldr_map]
    rfl
  have hdepth : (((chars.map partOf).reverse.map (·.depth)).foldl max 0) ≤ 1 := by
    refine foldl_max_le (Nat.zero_le 1) fun e he => ?_
    obtain ⟨part, hpart, rfl⟩ := List.mem_map.mp he
    obtain ⟨c, -, rfl⟩ := List.mem_map.mp (List.mem_reverse.mp hpart)
    exact depth_partOf_le c
  refine ⟨_, ?_, by rw [ofParts, hregex]⟩
  split <;> omega

/-- The whole text is read, and the expression nests a few levels deep, however
long the pattern is. -/
theorem reads_anchored (chars : List Char) :
    ∃ depth ≤ 4, Reads .start ('^' :: '(' :: '?' :: ':' ::
      (chars.flatMap Wildcard.piece ++ [')', '$'])) ⟨anchoredSequence chars, depth⟩ := by
  obtain ⟨depth, hdepth, hparts⟩ := ofParts_partOf chars
  let begun := Progress.start.add (.assert .textStart) 0
  let inside := (begun.openGroup .initial false).addParts chars
  let behind := begun.add (.group false (sequence chars)) (depth + 1)
  let done := behind.add (.assert .textEnd) 0
  have hinside : inside.level.close = ⟨sequence chars, depth⟩ :=
    (congrArg ofParts (List.append_nil _)).trans hparts
  have hclosed : inside.closeGroup? = some behind := by
    have hclose : inside.closeGroup? = some (begun.add
      (.group false inside.level.close.regex) (inside.level.close.depth + 1)) := rfl
    rw [hclose, hinside]
  have hdone : done.level.close = ⟨anchoredSequence chars, max (max (max 0 0) (depth + 1)) 0 + 1⟩ :=
    rfl
  have hend : step? inside ')' ['$'] = some (behind, ['$']) := by
    have hstep : step? inside ')' ['$'] = inside.closeGroup?.map (·, ['$']) := rfl
    rw [hstep, hclosed]
    rfl
  have hrest : Reads inside [')', '$'] done.level.close :=
    .step rfl hend (Nat.le_refl _) (.step rfl rfl (Nat.le_refl _) (.finish rfl rfl))
  refine ⟨max (max (max 0 0) (depth + 1)) 0 + 1, by omega, ?_⟩
  rw [← hdone]
  exact .step rfl rfl (Nat.le_refl _) (.step rfl rfl (by simp)
    (reads_pieces rfl (fun h => by cases h) hrest))

/-- The regular expression of a filter's wildcard pattern is read to the sequence of
the parts of its characters, unless that takes too much memory. -/
theorem read?_anchored (raw : String) :
    read? (Indices.anchored (Wildcard.regex (Wildcard.pattern raw)) true).toList =
      if (anchoredSequence (Like.starred raw.toList)).fits
      then some (anchoredSequence (Like.starred raw.toList)) else none := by
  obtain ⟨depth, hdepth, hreads⟩ := reads_anchored (Like.starred raw.toList)
  have hchars : (Indices.anchored (Wildcard.regex (Wildcard.pattern raw)) true).toList =
      '^' :: '(' :: '?' :: ':' ::
        ((Like.starred raw.toList).flatMap Wildcard.piece ++ [')', '$']) := by
    rw [← Wildcard.regexChars_ofStarred]
    simp [Indices.anchored, Wildcard.regex, Wildcard.pattern]
  have hdeep : decide (depth ≤ maxDepth) = true :=
    decide_eq_true (hdepth.trans (by decide))
  rw [hchars, read?, hreads _ (Nat.lt_succ_self _)]
  dsimp only
  rw [hdeep, Bool.true_and]

end Regex

end EntityStore
