-- What a filter's pattern with stars finds in tables and in documents. In both a star stands for
-- any text, and other characters for themselves in either case. But as an expression for
-- documents writes a star with a point, it stops at line feeds there. An expression that takes
-- too much memory finds nothing at all.
import EntityStore.Proofs.Pattern.Sizes

namespace EntityStore

/-! ## Parts of texts -/

section

variable {α β : Type} {takes takes' : α → List Char → Prop} {as : List α} {cs : List Char}

/-- Whether a text can be parted depends on what its own parts are taken by. -/
theorem partsAmong_congr (h : ∀ a ∈ as, ∀ part, (∀ c ∈ part, c ∈ cs) →
    (takes a part ↔ takes' a part)) : PartsAmong takes as cs ↔ PartsAmong takes' as cs := by
  induction as generalizing cs with
  | nil => rw [partsAmong_nil_iff, partsAmong_nil_iff]
  | cons a as ih =>
    rw [List.forall_mem_cons] at h
    rw [partsAmong_cons_iff, partsAmong_cons_iff]
    refine exists_congr fun part => exists_congr fun rest => ?_
    constructor
    · rintro ⟨hpart, hrest, rfl⟩
      refine ⟨(h.1 part fun c hc => List.mem_append_left _ hc).mp hpart, (ih fun a ha part hp =>
        h.2 a ha part fun c hc => List.mem_append_right _ (hp c hc)).mp hrest, rfl⟩
    · rintro ⟨hpart, hrest, rfl⟩
      refine ⟨(h.1 part fun c hc => List.mem_append_left _ hc).mpr hpart, (ih fun a ha part hp =>
        h.2 a ha part fun c hc => List.mem_append_right _ (hp c hc)).mpr hrest, rfl⟩

theorem partsAmong_map_iff {takes : β → List Char → Prop} (f : Char → Char) (g : α → β) :
    PartsAmong takes (as.map g) (cs.map f) ↔
      PartsAmong (fun a part => takes (g a) (part.map f)) as cs := by
  induction as generalizing cs with
  | nil => rw [List.map_nil, partsAmong_nil_iff, partsAmong_nil_iff, List.map_eq_nil_iff]
  | cons a as ih =>
    rw [List.map_cons, partsAmong_cons_iff, partsAmong_cons_iff]
    constructor
    · rintro ⟨_, _, hpart, hrest, heq⟩
      obtain ⟨part, rest, rfl, rfl, rfl⟩ := List.map_eq_append_iff.mp heq.symm
      exact ⟨part, rest, hpart, ih.mp hrest, rfl⟩
    · rintro ⟨part, rest, hpart, hrest, rfl⟩
      exact ⟨part.map f, rest.map f, hpart, ih.mpr hrest, List.map_append.symm⟩

end

namespace Regex

/-! ## Ends of texts -/

theorem holds_textStart_iff {text : List Char} {i : Nat} :
    (Place.all text)[i]?.any Assertion.textStart.holds ↔ i = 0 := by
  rw [Place.all, List.getElem?_zipWith]
  cases i with
  | zero => cases text <;> simp [Assertion.holds]
  | succ i =>
    rw [List.getElem?_cons_succ, List.getElem?_map]
    cases text[i]? <;> cases (text.map some ++ [none])[i + 1]? <;> simp [Assertion.holds]

theorem holds_textEnd_iff {text : List Char} {i : Nat} :
    (Place.all text)[i]?.any Assertion.textEnd.holds ↔ i = text.length := by
  rw [Place.all, List.getElem?_zipWith]
  rcases Nat.lt_trichotomy i text.length with hlt | rfl | hgt
  · have hnext : (text.map some ++ [none])[i]? = some (some text[i]) := by
      rw [List.getElem?_append_left (by simpa using hlt), List.getElem?_map,
        List.getElem?_eq_getElem hlt]
      rfl
    rw [hnext]
    cases (none :: text.map some)[i]? <;> simp [Assertion.holds, hlt.ne]
  · have hnext : (text.map some ++ [none])[text.length]? = some none := by simp
    obtain ⟨before, hbefore⟩ : ∃ before, (none :: text.map some)[text.length]? = some before :=
      ⟨_, List.getElem?_eq_getElem (by simp)⟩
    rw [hnext, hbefore]
    simp [Assertion.holds]
  · have hnext : (text.map some ++ [none])[i]? = none :=
      List.getElem?_eq_none (by simp; omega)
    rw [hnext]
    cases (none :: text.map some)[i]? <;> simp [hgt.ne']

/-! ## Sequences -/

theorem spans_set_iff {text : List Char} {s : CodeSet} {i j : Nat} :
    (Regex.set s).Spans text i j ↔
      ∃ c, s.mem c ∧ j = i + 1 ∧ c :: text.drop j = text.drop i := by
  rw [Spans]
  constructor
  · rintro ⟨rfl, hmem⟩
    obtain ⟨c, hc, hmem⟩ := (Option.any_eq_true _ _).mp hmem
    obtain ⟨hi, rfl⟩ := List.getElem?_eq_some_iff.mp hc
    exact ⟨_, hmem, rfl, List.drop_eq_getElem_cons hi |>.symm⟩
  · rintro ⟨c, hmem, rfl, hdrop⟩
    refine ⟨rfl, (Option.any_eq_true _ _).mpr ⟨c, ?_, hmem⟩⟩
    rw [← List.head?_drop, ← hdrop, List.head?_cons]

theorem turns_set_iff {text : List Char} {s : CodeSet} {n i j : Nat} :
    Turns ((Regex.set s).Spans text) n i j ↔
      ∃ part, part.length = n ∧ (∀ c ∈ part, s.mem c) ∧ j = i + n ∧
        part ++ text.drop j = text.drop i := by
  induction n generalizing i with
  | zero =>
    rw [Turns]
    constructor
    · rintro rfl
      exact ⟨[], rfl, List.forall_mem_nil _, rfl, rfl⟩
    · rintro ⟨_, _, _, rfl, _⟩
      rfl
  | succ n ih =>
    simp only [Turns, spans_set_iff, ih]
    constructor
    · rintro ⟨_, ⟨c, hc, rfl, hdrop⟩, part, hlength, hmem, rfl, hrest⟩
      refine ⟨c :: part, congrArg _ hlength, List.forall_mem_cons.mpr ⟨hc, hmem⟩, by omega, ?_⟩
      rw [List.cons_append, hrest, hdrop]
    · rintro ⟨part, hlength, hmem, rfl, hdrop⟩
      obtain ⟨c, part, rfl⟩ := List.exists_cons_of_length_eq_add_one hlength
      rw [List.forall_mem_cons] at hmem
      have hrest : part ++ text.drop (i + (n + 1)) = text.drop (i + 1) := by
        rw [← List.tail_drop, ← hdrop]
        rfl
      refine ⟨i + 1, ⟨c, hmem.1, rfl, ?_⟩, part, Nat.succ.inj hlength, hmem.2, by omega, hrest⟩
      rw [← hrest, ← hdrop]
      rfl

end Regex

namespace Wildcard

/-- What a character of a filter's pattern takes of a text: a star any characters that a star
may stand for, another one itself in either case. -/
def Takes (inStars : Char → Prop) (c : Char) (part : List Char) : Prop :=
  if c = Like.star then ∀ d ∈ part, inStars d
  else ∃ d, part = [d] ∧ (CodeSet.variants c).mem d

end Wildcard

namespace Regex

theorem mem_point (c : Char) : point.mem c = true ↔ c ≠ '\n' := by
  have hne : c ≠ '\n' ↔ c.toNat ≠ 10 := not_congr Char.toNat_inj.symm
  have hvalid : c.toNat < 0xd800 ∨ 0xdfff < c.toNat ∧ c.toNat < 0x110000 := c.valid
  rw [CodeSet.mem, CodeSet.contains, Text.inRanges_iff, ranges_point, hne]
  simp only [List.exists_mem_cons_iff, List.not_mem_nil, false_and, exists_false, or_false]
  omega

/-- The part of a character spans what the character takes, without line feeds
in stars. -/
theorem spans_partOf_iff {text : List Char} {c : Char} {i j : Nat} :
    (partOf c).regex.Spans text i j ↔
      ∃ part, Wildcard.Takes (· ≠ '\n') c part ∧ j = i + part.length ∧
        part ++ text.drop j = text.drop i := by
  unfold partOf Wildcard.Takes
  by_cases hstar : c = Like.star
  · have hturns : (Regex.times (.set point) 0 none).Spans text i j ↔
        ∃ n, Turns ((Regex.set point).Spans text) n i j :=
      ⟨fun ⟨n, _, _, h⟩ => ⟨n, h⟩, fun ⟨n, h⟩ => ⟨n, Nat.zero_le n, nofun, h⟩⟩
    simp only [if_pos hstar, hturns, turns_set_iff, mem_point]
    constructor
    · rintro ⟨_, part, rfl, hmem, hj, hdrop⟩
      exact ⟨part, hmem, hj, hdrop⟩
    · rintro ⟨part, hmem, hj, hdrop⟩
      exact ⟨part.length, part, rfl, hmem, hj, hdrop⟩
  · simp only [if_neg hstar, spans_set_iff]
    constructor
    · rintro ⟨d, hmem, hj, hdrop⟩
      exact ⟨[d], ⟨d, rfl, hmem⟩, hj, hdrop⟩
    · rintro ⟨_, ⟨d, rfl, hmem⟩, hj, hdrop⟩
      exact ⟨d, hmem, hj, hdrop⟩

theorem spans_sequence_iff {text : List Char} {chars : List Char} {i : Nat}
    (hi : i ≤ text.length) : (sequence chars).Spans text i text.length ↔
      PartsAmong (Wildcard.Takes (· ≠ '\n')) chars (text.drop i) := by
  induction chars generalizing i with
  | nil =>
    rw [partsAmong_nil_iff, List.drop_eq_nil_iff]
    exact ⟨fun heq => heq.ge, fun hle => le_antisymm hi hle⟩
  | cons c chars ih =>
    have hcat : (sequence (c :: chars)).Spans text i text.length ↔
        ∃ k, (partOf c).regex.Spans text i k ∧ (sequence chars).Spans text k text.length := Iff.rfl
    rw [hcat, partsAmong_cons_iff]
    constructor
    · rintro ⟨k, hpart, hrest⟩
      obtain ⟨part, htakes, rfl, hdrop⟩ := spans_partOf_iff.mp hpart
      have hk : i + part.length ≤ text.length := by
        have hlength := congrArg List.length hdrop
        rw [List.length_append, List.length_drop, List.length_drop] at hlength
        omega
      exact ⟨part, text.drop (i + part.length), htakes, (ih hk).mp hrest, hdrop⟩
    · rintro ⟨part, rest, htakes, hrest, hdrop⟩
      have hk : i + part.length ≤ text.length := by
        have hlength := congrArg List.length hdrop
        rw [List.length_append, List.length_drop] at hlength
        omega
      have hbehind : text.drop (i + part.length) = rest := by
        rw [← List.drop_drop, ← hdrop, List.drop_left]
      rw [← hbehind] at hrest hdrop
      exact ⟨_, spans_partOf_iff.mpr ⟨part, htakes, rfl, hdrop⟩, (ih hk).mpr hrest⟩

theorem found_anchoredSequence_iff (chars : List Char) (text : String) :
    (anchoredSequence chars).found text = true ↔
      PartsAmong (Wildcard.Takes (· ≠ '\n')) chars text.toList := by
  have hspans (i j : Nat) : (anchoredSequence chars).Spans text.toList i j ↔
      i = 0 ∧ (sequence chars).Spans text.toList i j ∧ j = text.toList.length := by
    simp only [anchoredSequence, Spans, holds_textStart_iff, holds_textEnd_iff]
    constructor
    · rintro ⟨_, ⟨rfl, hi⟩, _, hseq, _, ⟨rfl, hj⟩, rfl⟩
      exact ⟨hi, hseq, hj⟩
    · rintro ⟨hi, hseq, hj⟩
      exact ⟨i, ⟨rfl, hi⟩, j, hseq, j, ⟨rfl, hj⟩, rfl⟩
  rw [found_iff]
  simp only [hspans]
  constructor
  · rintro ⟨_, _, _, rfl, hseq, rfl⟩
    exact (spans_sequence_iff (Nat.zero_le _)).mp hseq
  · intro hparts
    exact ⟨0, _, Nat.zero_le _, rfl, (spans_sequence_iff (Nat.zero_le _)).mpr hparts, rfl⟩

end Regex

/-! ## Patterns of filters -/

namespace Like

theorem takes_starToken_iff {c : Char} {part : List Char} (hc : c.toNat < 128)
    (hpart : ∀ d ∈ part, d.toNat < 128) :
    Token.Takes (starToken c) (part.map fold) ↔ Wildcard.Takes (fun _ => True) c part := by
  unfold starToken Wildcard.Takes
  by_cases hstar : c = star
  · rw [if_pos hstar, if_pos hstar]
    exact iff_of_true trivial fun _ _ => trivial
  · rw [if_neg hstar, if_neg hstar]
    constructor
    · intro htakes
      obtain ⟨d, rfl, hd⟩ := List.map_eq_singleton_iff.mp htakes
      have hascii := hpart d (List.mem_singleton_self d)
      exact ⟨d, rfl, (CodeSet.mem_variants c d).mpr
        ((Unicode.mem_caseVariants_iff hc hascii).mpr hd.symm)⟩
    · rintro ⟨d, rfl, hd⟩
      have hascii := hpart d (List.mem_singleton_self d)
      exact congrArg (fun e => [e]) ((Unicode.mem_caseVariants_iff hc hascii).mp
        ((CodeSet.mem_variants c d).mp hd)).symm

theorem mem_starred {raw : List Char} {c : Char} (h : c ∈ starred raw) : c = star ∨ c ∈ raw := by
  unfold starred at h
  split at h
  · exact .inr h
  · simpa [or_comm, or_assoc] using h

/-- Of a list the question is decided character by character. -/
theorem ascii_of_all {cs : List Char} (h : cs.all (·.toNat < 128) = true) :
    ∀ c ∈ cs, c.toNat < 128 := by
  simpa using h

theorem ascii_starred {raw : List Char} (h : ∀ c ∈ raw, c.toNat < 128) :
    ∀ c ∈ starred raw, c.toNat < 128 := by
  intro c hc
  rcases mem_starred hc with rfl | hc
  · decide
  · exact h c hc

theorem length_starred_le (raw : List Char) : (starred raw).length ≤ raw.length + 2 := by
  unfold starred
  split
  · exact Nat.le_add_right _ 2
  · simp

/-- In ASCII a pattern of a filter matches what its characters take. -/
theorem test_pattern_iff {value raw : String} (hvalue : ∀ c ∈ value.toList, c.toNat < 128)
    (hraw : ∀ c ∈ raw.toList, c.toNat < 128) :
    test value (pattern raw) = true ↔
      PartsAmong (Wildcard.Takes fun _ => True) (starred raw.toList) value.toList := by
  have hdotted : '\u0130' ∉ value.toList := fun hmem => absurd (hvalue _ hmem) (by decide)
  rw [test, matchTokens_iff, pattern, String.toList_ofList, tokens_ofStarred, lowerChars_eq hdotted,
    partsAmong_map_iff]
  exact partsAmong_congr fun c hc part hpart =>
    takes_starToken_iff (ascii_starred hraw c hc) fun d hd => hvalue d (hpart d hd)

end Like

namespace Wildcard

/-- The expression for a filter's pattern takes no more memory than it may. -/
def Compiles (raw : String) : Prop :=
  (Regex.read? (Indices.anchored (regex (pattern raw)) true).toList).isSome

theorem compiles_iff (raw : String) :
    Compiles raw ↔ (Regex.anchoredSequence (Like.starred raw.toList)).fits = true := by
  rw [Compiles, Regex.read?_anchored]
  split <;> simp [*]

/-- A document with one text at a field is found if the pattern compiles and its
characters take the text, without line feeds in stars. -/
theorem finds_pattern_iff {doc : Json} {field value : String} (raw : String)
    (hvalue : Indices.valuesAt doc field = [.str value]) :
    Indices.finds (.wildcard field (pattern raw) true) doc = true ↔
      Compiles raw ∧ PartsAmong (Takes (· ≠ '\n')) (Like.starred raw.toList) value.toList := by
  have hfinds : Indices.finds (.wildcard field (pattern raw) true) doc =
      Indices.someMatches doc field (Indices.anchored (regex (pattern raw)) true) := by
    rw [Indices.finds]
  have htext : Indices.textOf (.str value) = value := rfl
  rw [hfinds, Indices.someMatches, hvalue, List.any_cons, List.any_nil, Bool.or_false, htext,
    Regex.test?, Regex.read?_anchored, compiles_iff, ← Regex.found_anchoredSequence_iff]
  split <;> simp [*]

/-- In ASCII a filter's pattern finds the same texts in tables and in documents, but for
texts with line feeds, which a star does not stand for in documents, and patterns
of more than 8,000 characters, which may take too much memory there. -/
theorem a_starred_pattern_finds_the_same_texts_in_documents_but_for_line_feeds
    {doc : Json} {field : String} (value raw : String)
    (hdoc : Indices.valuesAt doc field = [.str value])
    (hvalue : ∀ c ∈ value.toList, c.toNat < 128) (hraw : ∀ c ∈ raw.toList, c.toNat < 128) :
    (Like.test value (Like.pattern raw) = true ↔
      PartsAmong (Takes fun _ => True) (Like.starred raw.toList) value.toList) ∧
    (Indices.finds (.wildcard field (pattern raw) true) doc = true ↔
      Compiles raw ∧ PartsAmong (Takes (· ≠ '\n')) (Like.starred raw.toList) value.toList) ∧
    (raw.toList.length ≤ 8000 → Compiles raw) ∧
    ('\n' ∉ value.toList → Compiles raw →
      Indices.finds (.wildcard field (pattern raw) true) doc =
        Like.test value (Like.pattern raw)) := by
  have hlike := Like.test_pattern_iff hvalue hraw
  have hfinds := finds_pattern_iff raw hdoc
  refine ⟨hlike, hfinds, fun hlength => ?_, fun hline hcompiles => ?_⟩
  · have hle := Like.length_starred_le raw.toList
    exact (compiles_iff raw).mpr
      (Regex.fits_anchoredSequence (Like.ascii_starred hraw) (by omega))
  · rw [Bool.eq_iff_iff, hfinds, hlike, and_iff_right hcompiles]
    refine partsAmong_congr fun c _ part hpart => ?_
    unfold Takes
    split
    · exact iff_of_true (fun d hd heq => hline (heq ▸ hpart d hd)) fun _ _ => trivial
    · exact Iff.rfl

theorem a_question_mark_is_found_in_tables_and_documents :
    Indices.valuesAt (.obj [("title", .str "Who? 100% [me]")]) "title" = [.str "Who? 100% [me]"] ∧
    (∀ c ∈ "Who? 100% [me]".toList, c.toNat < 128) ∧ (∀ c ∈ "wHO?*[*]".toList, c.toNat < 128) ∧
    Indices.finds (.wildcard "title" (pattern "wHO?*[*]") true)
      (.obj [("title", .str "Who? 100% [me]")]) = true := by
  have hdoc : Indices.valuesAt (.obj [("title", .str "Who? 100% [me]")]) "title" =
      [.str "Who? 100% [me]"] := by rfl
  have hvalue : ∀ c ∈ "Who? 100% [me]".toList, c.toNat < 128 := Like.ascii_of_all (by decide +kernel)
  have hraw : ∀ c ∈ "wHO?*[*]".toList, c.toNat < 128 := Like.ascii_of_all (by decide +kernel)
  have hsame := a_starred_pattern_finds_the_same_texts_in_documents_but_for_line_feeds
    "Who? 100% [me]" "wHO?*[*]" hdoc hvalue hraw
  have hlike : Like.test "Who? 100% [me]" (Like.pattern "wHO?*[*]") = true := by decide +kernel
  exact ⟨hdoc, hvalue, hraw,
    (hsame.2.2.2 (by decide +kernel) (hsame.2.2.1 (by decide +kernel))).trans hlike⟩

end Wildcard

end EntityStore
