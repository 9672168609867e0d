-- What LIKE patterns match: the texts that can be parted among the tokens of the pattern. The
-- matcher goes back to the last token for any text only. That loses no match, as what stands
-- before that token has taken as little of the text as it can. A pattern of a filter without a
-- star is found wherever its lower case stands in the lower case of the text, percent signs,
-- underscores and backslashes included. The dotted capital I makes the one difference: of its
-- two characters in lower case only the first one is looked for, so what has the second one
-- too may be missed.
import EntityStore.Pattern.Wildcard
import Mathlib.Data.List.Forall2
import Mathlib.Data.List.Infix

namespace EntityStore

/-! ## Texts in parts -/

section

variable {α : Type} {takes : α → List Char → Prop} {a : α} {as : List α} {cs : List Char}

/-- The text can be parted among the members of a list, in order, so that each
member takes its part. -/
def PartsAmong (takes : α → List Char → Prop) (as : List α) (cs : List Char) : Prop :=
  ∃ parts, List.Forall₂ takes as parts ∧ parts.flatten = cs

theorem partsAmong_nil_iff : PartsAmong takes [] cs ↔ cs = [] := by
  constructor
  · rintro ⟨parts, hparts, rfl⟩
    rw [List.forall₂_nil_left_iff.mp hparts]
    rfl
  · rintro rfl
    exact ⟨[], .nil, rfl⟩

theorem partsAmong_cons_iff : PartsAmong takes (a :: as) cs ↔
    ∃ part rest, takes a part ∧ PartsAmong takes as rest ∧ part ++ rest = cs := by
  constructor
  · rintro ⟨parts, hparts, rfl⟩
    obtain ⟨part, others, hpart, hothers, rfl⟩ := List.forall₂_cons_left_iff.mp hparts
    exact ⟨part, others.flatten, hpart, ⟨others, hothers, rfl⟩, rfl⟩
  · rintro ⟨part, _, hpart, ⟨others, hothers, rfl⟩, rfl⟩
    exact ⟨part :: others, .cons hpart hothers, rfl⟩

/-- A member that takes single characters only takes the first one. -/
theorem partsAmong_single_iff {c : Char} {P : Char → Prop}
    (ha : ∀ part, takes a part ↔ ∃ d, part = [d] ∧ P d) :
    PartsAmong takes (a :: as) (c :: cs) ↔ P c ∧ PartsAmong takes as cs := by
  rw [partsAmong_cons_iff]
  constructor
  · rintro ⟨part, rest, hpart, hrest, heq⟩
    obtain ⟨d, rfl, hd⟩ := (ha part).mp hpart
    obtain ⟨rfl, rfl⟩ := List.cons.inj heq
    exact ⟨hd, hrest⟩
  · rintro ⟨hc, hrest⟩
    exact ⟨[c], cs, (ha [c]).mpr ⟨c, rfl, hc⟩, hrest, rfl⟩

end

namespace Like

/-! ## Tokens -/

/-- What a token takes of a text. -/
def Token.Takes : Token → List Char → Prop
  | .any, _ => True
  | .one, part => ∃ c, part = [c]
  | .char c, part => part = [c]

variable {t : Token} {ts ts' : List Token} {c d : Char} {cs cs' rest : List Char}

theorem partsAmong_any_iff : PartsAmong Token.Takes (.any :: ts) cs ↔
    ∃ rest, rest <:+ cs ∧ PartsAmong Token.Takes ts rest := by
  rw [partsAmong_cons_iff]
  constructor
  · rintro ⟨part, rest, -, hrest, rfl⟩
    exact ⟨rest, List.suffix_append part rest, hrest⟩
  · rintro ⟨rest, ⟨part, rfl⟩, hrest⟩
    exact ⟨part, rest, trivial, hrest, rfl⟩

theorem partsAmong_one_iff :
    PartsAmong Token.Takes (.one :: ts) (c :: cs) ↔ PartsAmong Token.Takes ts cs :=
  (partsAmong_single_iff (P := fun _ => True) fun _ => by simp [Token.Takes]).trans
    (and_iff_right trivial)

theorem partsAmong_char_iff : PartsAmong Token.Takes (.char d :: ts) (c :: cs) ↔
    d = c ∧ PartsAmong Token.Takes ts cs :=
  partsAmong_single_iff fun _ => by simp [Token.Takes]

/-- A token other than one for any text asks for a character. -/
theorem partsAmong_nil_text_iff :
    PartsAmong Token.Takes ts [] ↔ ∀ t ∈ ts, t = .any := by
  induction ts with
  | nil => simp [partsAmong_nil_iff]
  | cons t ts ih =>
    rw [partsAmong_cons_iff, List.forall_mem_cons, ← ih]
    constructor
    · rintro ⟨part, rest, hpart, hrest, heq⟩
      obtain ⟨rfl, rfl⟩ := List.append_eq_nil_iff.mp heq
      refine ⟨?_, hrest⟩
      cases t with
      | any => rfl
      | one => simp [Token.Takes] at hpart
      | char c => simp [Token.Takes] at hpart
    · rintro ⟨rfl, hrest⟩
      exact ⟨[], [], trivial, hrest, rfl⟩

/-- A later start leaves less of the text, whatever a single token takes. -/
theorem partsAmong_cons_of_suffix (hrest : rest <:+ c :: cs)
    (h : PartsAmong Token.Takes (t :: ts) rest) (ht : t ≠ .any) :
    ∃ d ds, rest = d :: ds ∧ ds <:+ cs ∧ PartsAmong Token.Takes ts ds := by
  obtain ⟨part, ds, hpart, hds, rfl⟩ := partsAmong_cons_iff.mp h
  obtain ⟨d, rfl⟩ : ∃ d, part = [d] := by
    cases t with
    | any => exact absurd rfl ht
    | one => exact hpart
    | char c => exact ⟨c, hpart⟩
  refine ⟨d, ds, rfl, ?_, hds⟩
  rcases List.suffix_cons_iff.mp hrest with heq | hlater
  · exact (List.cons.inj heq).2 ▸ List.suffix_refl _
  · exact (List.suffix_cons d ds).trans hlater

/-! ## One attempt -/

theorem partsAmong_iff_of_ended {fits : Bool} (h : fit ts cs = .ended fits) :
    PartsAmong Token.Takes ts cs ↔ fits = true := by
  fun_induction fit ts cs with
  | case1 ts =>
    obtain rfl := Fit.ended.inj h
    simp [partsAmong_nil_text_iff]
  | case2 | case3 | case6 => cases h
  | case4 ts c cs ih => exact partsAmong_one_iff.trans (ih h)
  | case5 ts c cs ih =>
    rw [partsAmong_char_iff, ih h]
    exact and_iff_right rfl

/-- Each token that was met has taken one character of a text that has ended,
so a shorter text is too short. -/
theorem eq_of_ended {fits : Bool} (h : fit ts cs = .ended fits) (hrest : rest <:+ cs)
    (hparts : PartsAmong Token.Takes ts rest) : rest = cs := by
  fun_induction fit ts cs generalizing rest with
  | case1 ts => exact List.suffix_nil.mp hrest
  | case2 | case3 | case6 => cases h
  | case4 ts c cs ih | case5 ts c cs ih =>
    obtain ⟨d, ds, rfl, hds, hparts⟩ := partsAmong_cons_of_suffix hrest hparts (by simp)
    obtain rfl := ih h hds hparts
    exact hrest.eq_of_length rfl

theorem partsAmong_of_any (h : fit ts cs = .any ts' cs')
    (hparts : PartsAmong Token.Takes (.any :: ts') cs') : PartsAmong Token.Takes ts cs := by
  fun_induction fit ts cs with
  | case1 | case2 | case6 => cases h
  | case3 ts c cs =>
    obtain ⟨rfl, rfl⟩ := Fit.any.inj h
    exact hparts
  | case4 ts c cs ih => exact partsAmong_one_iff.mpr (ih h)
  | case5 ts c cs ih => exact partsAmong_char_iff.mpr ⟨rfl, ih h⟩

/-- What matches from a later start on leaves no more of the text behind the
next token for any text, so it matches from the first start on too. -/
theorem partsAmong_of_later (h : fit ts cs = .any ts' cs') (hrest : rest <:+ cs)
    (hparts : PartsAmong Token.Takes ts rest) : PartsAmong Token.Takes (.any :: ts') cs' := by
  fun_induction fit ts cs generalizing rest with
  | case1 | case2 | case6 => cases h
  | case3 ts c cs =>
    obtain ⟨rfl, rfl⟩ := Fit.any.inj h
    obtain ⟨last, hlast, hparts⟩ := partsAmong_any_iff.mp hparts
    exact partsAmong_any_iff.mpr ⟨last, hlast.trans hrest, hparts⟩
  | case4 ts c cs ih | case5 ts c cs ih =>
    obtain ⟨_, ds, -, hds, hparts⟩ := partsAmong_cons_of_suffix hrest hparts (by simp)
    exact ih h hds hparts

theorem not_partsAmong_of_stuck (h : fit ts cs = .stuck) : ¬ PartsAmong Token.Takes ts cs := by
  fun_induction fit ts cs with
  | case1 | case3 => cases h
  | case2 c cs =>
    rw [partsAmong_nil_iff]
    exact List.cons_ne_nil c cs
  | case4 ts c cs ih => exact fun hparts => ih h (partsAmong_one_iff.mp hparts)
  | case5 ts c cs ih => exact fun hparts => ih h (partsAmong_char_iff.mp hparts).2
  | case6 ts d c cs hne => exact fun hparts => hne (partsAmong_char_iff.mp hparts).1

/-! ## All attempts -/

/-- The tokens behind one for any text match an end of the text. -/
theorem fitsEnd_iff (ts : List Token) (cs : List Char) :
    fitsEnd ts cs = true ↔ PartsAmong Token.Takes (.any :: ts) cs := by
  fun_induction fitsEnd ts cs with
  | case1 ts cs fits h =>
    rw [partsAmong_any_iff, ← partsAmong_iff_of_ended h]
    constructor
    · exact fun hparts => ⟨cs, List.suffix_refl cs, hparts⟩
    · rintro ⟨rest, hrest, hparts⟩
      rwa [eq_of_ended h hrest hparts] at hparts
  | case2 ts cs ts' cs' h ih =>
    refine ih.trans (Iff.trans ?_ partsAmong_any_iff.symm)
    constructor
    · exact fun hparts => ⟨cs, List.suffix_refl cs, partsAmong_of_any h hparts⟩
    · rintro ⟨rest, hrest, hparts⟩
      exact partsAmong_of_later h hrest hparts
  | case3 ts cs h ih =>
    obtain ⟨c, rest, rfl⟩ := List.exists_cons_of_ne_nil (ne_nil_of_fit_eq_stuck h)
    rw [ih, List.tail_cons, partsAmong_any_iff, partsAmong_any_iff]
    simp only [List.suffix_cons_iff, or_and_right, exists_or, exists_eq_left]
    exact (or_iff_right (not_partsAmong_of_stuck h)).symm

theorem matchTokens_iff (ts : List Token) (cs : List Char) :
    matchTokens ts cs = true ↔ PartsAmong Token.Takes ts cs := by
  unfold matchTokens
  split
  · rename_i fits h
    exact (partsAmong_iff_of_ended h).symm
  · rename_i ts' cs' h
    rw [fitsEnd_iff]
    exact ⟨partsAmong_of_any h, partsAmong_of_later h (List.suffix_refl cs)⟩
  · rename_i h
    exact iff_of_false Bool.false_ne_true (not_partsAmong_of_stuck h)

/-- A pattern matches a text if and only if the text in lower case can be parted
among the tokens of the pattern. -/
theorem a_pattern_matches_what_its_tokens_take (text pattern : String) :
    test text pattern = true ↔
      PartsAmong Token.Takes (tokens pattern.toList) (Text.lowerChars text.toList) :=
  matchTokens_iff _ _

/-- The first `ab` is followed by too much, so the search goes on behind it. -/
example : test "xABabc" "%ab_" = true := by decide +kernel

/-! ## Patterns with stars -/

/-- A pattern with its stars: without any it has one on either side. -/
def starred (raw : List Char) : List Char :=
  if raw.contains star then raw else star :: raw ++ [star]

/-- The token of a character of a filter's pattern. -/
def starToken (c : Char) : Token := if c = star then .any else .char (fold c)

theorem tokens_escape (c : Char) (rest : List Char) :
    tokens (escape c ++ rest) = starToken c :: tokens rest := by
  unfold escape starToken
  split
  · rename_i h
    rcases h with rfl | rfl | rfl <;> rfl
  · rename_i h
    obtain ⟨hback, hany, hone⟩ : c ≠ '\\' ∧ c ≠ '%' ∧ c ≠ '_' := by simpa only [not_or] using h
    split
    · rfl
    · rw [List.singleton_append, tokens]
      · exact hany
      · exact hone
      · exact fun heq _ => hback heq
      · exact fun _ _ heq _ => hback heq

theorem tokens_flatMap_escape (raw rest : List Char) :
    tokens (raw.flatMap escape ++ rest) = raw.map starToken ++ tokens rest := by
  induction raw with
  | nil => rfl
  | cons c raw ih =>
    rw [List.flatMap_cons, List.append_assoc, tokens_escape, ih]
    rfl

/-- No character of a filter's pattern but the star stands for anything else. -/
theorem tokens_ofStarred (raw : List Char) :
    tokens (ofStarred raw) = (starred raw).map starToken := by
  have hstarred : ofStarred raw = (starred raw).flatMap escape := by
    unfold ofStarred starred
    split
    · rfl
    · rw [List.flatMap_append]
      rfl
  rw [hstarred, ← List.append_nil ((starred raw).flatMap escape), tokens_flatMap_escape]
  exact List.append_nil _

/-! ## Patterns without stars -/

theorem partsAmong_chars_iff {chars cs : List Char} {ts : List Token} :
    PartsAmong Token.Takes (chars.map .char ++ ts) cs ↔
      ∃ rest, chars ++ rest = cs ∧ PartsAmong Token.Takes ts rest := by
  induction chars generalizing cs with
  | nil => simp
  | cons c chars ih =>
    rw [List.map_cons, List.cons_append, partsAmong_cons_iff]
    constructor
    · rintro ⟨_, rest, rfl, hrest, rfl⟩
      obtain ⟨last, rfl, hlast⟩ := ih.mp hrest
      exact ⟨last, rfl, hlast⟩
    · rintro ⟨last, rfl, hlast⟩
      exact ⟨[c], chars ++ last, rfl, ih.mpr ⟨last, rfl, hlast⟩, rfl⟩

theorem partsAmong_inside_iff {chars cs : List Char} :
    PartsAmong Token.Takes (.any :: chars.map .char ++ [.any]) cs ↔ chars <:+: cs := by
  rw [List.cons_append, partsAmong_any_iff, List.infix_iff_prefix_suffix]
  refine exists_congr fun rest => ?_
  rw [partsAmong_chars_iff, and_comm]
  refine and_congr_left fun _ => exists_congr fun last => ?_
  exact and_iff_left (partsAmong_any_iff.mpr ⟨[], List.nil_suffix, partsAmong_nil_iff.mpr rfl⟩)

/-- A character other than the dotted capital I has one character in lower case. -/
theorem lowerChar_eq {c : Char} (h : c ≠ '\u0130') : Text.lowerChar c = [fold c] := by
  unfold fold Text.lowerChar
  split
  · rfl
  · rw [if_neg (by simpa using h)]
    rfl

theorem lowerChars_eq {cs : List Char} (h : '\u0130' ∉ cs) : Text.lowerChars cs = cs.map fold := by
  rw [Text.lowerChars, List.map_eq_flatMap]
  exact List.flatMap_congr fun c hc => lowerChar_eq fun heq => h (heq ▸ hc)

/-- A pattern without a star is found wherever the first characters of its lower
case stand in the lower case of the text. Unless the dotted capital I is one of
its characters, that is its whole lower case. -/
theorem a_pattern_without_stars_is_looked_for_inside (value raw : String)
    (hraw : '*' ∉ raw.toList) :
    (test value (pattern raw) = true ↔ raw.toList.map fold <:+: Text.lowerChars value.toList) ∧
      ('\u0130' ∉ raw.toList → (test value (pattern raw) = true ↔
        Text.lowerChars raw.toList <:+: Text.lowerChars value.toList)) := by
  have hstarred : starred raw.toList = star :: raw.toList ++ [star] := by
    rw [starred, if_neg (by simpa [star] using hraw)]
  have hchars : raw.toList.map starToken = (raw.toList.map fold).map .char := by
    rw [List.map_map]
    exact List.map_congr_left fun c hc => if_neg (ne_of_mem_of_not_mem hc hraw)
  have hinside : test value (pattern raw) = true ↔
      raw.toList.map fold <:+: Text.lowerChars value.toList := by
    rw [← partsAmong_inside_iff, ← hchars, test, matchTokens_iff, pattern, String.toList_ofList,
      tokens_ofStarred, hstarred, List.map_append]
    rfl
  exact ⟨hinside, fun hdotted => by rw [lowerChars_eq hdotted, hinside]⟩

/-- Percent signs, underscores and backslashes of a pattern stand for themselves. -/
theorem signs_are_found_as_they_are : '*' ∉ "50%_\\Ä".toList ∧
    test "um 50%_\\ä" (pattern "50%_\\Ä") = true :=
  have hraw : '*' ∉ "50%_\\Ä".toList := by decide +kernel
  ⟨hraw, ((a_pattern_without_stars_is_looked_for_inside _ _ hraw).2 (by decide +kernel)).mpr
    (by decide +kernel)⟩

/-- Behind a dotted capital I the text goes on with a mark that is not looked for. -/
example : test "\u0130x" (pattern "\u0130x") = false := by decide +kernel

end Like

end EntityStore
