-- What sets of code points hold. A set holds the code points of the ranges that it was made
-- from, but for surrogates, in whichever order they came. A character of ASCII differs in case
-- from characters of ASCII only, but for the letters k and s.
import EntityStore.Proofs.Pattern.Like
import EntityStore.Unicode.Folding
import Mathlib.Data.List.Pairwise

namespace EntityStore

namespace CodeSet

variable {r : Nat × Nat} {rs : List (Nat × Nat)} {n : Nat}

/-! ## Ranges -/

theorem length_joinOnto_le (r : Nat × Nat) (rs : List (Nat × Nat)) :
    (joinOnto r rs).length ≤ rs.length + 1 := by
  fun_induction joinOnto r rs with
  | case1 => exact Nat.le_refl 1
  | case2 r t rest h ih => exact ih.trans (Nat.le_succ _)
  | case3 r t rest h ih => exact Nat.succ_le_succ ih

theorem joinOnto_below {bound : Nat} (hr : r.2 < bound) (hrs : ∀ t ∈ rs, t.2 < bound) :
    ∀ t ∈ joinOnto r rs, t.2 < bound := by
  fun_induction joinOnto r rs with
  | case1 => exact List.forall_mem_singleton.mpr hr
  | case2 r t rest h ih =>
    rw [List.forall_mem_cons] at hrs
    exact ih (max_lt hr hrs.1) hrs.2
  | case3 r t rest h ih =>
    rw [List.forall_mem_cons] at hrs
    exact List.forall_mem_cons.mpr ⟨hr, ih hrs.1 hrs.2⟩

/-- Ranges in ascending order that are joined where they meet hold what they
held. -/
theorem inRanges_joinOnto (hsorted : (r :: rs).Pairwise fun a b => a.1 ≤ b.1) :
    Text.inRanges (joinOnto r rs) n = Text.inRanges (r :: rs) n := by
  fun_induction joinOnto r rs with
  | case1 => rfl
  | case2 r t rest h ih =>
    obtain ⟨hfirst, hrest⟩ := List.pairwise_cons.mp hsorted
    rw [List.forall_mem_cons] at hfirst
    have hjoined : ((r.1, max r.2 t.2) :: rest).Pairwise fun a b => a.1 ≤ b.1 :=
      List.pairwise_cons.mpr ⟨hfirst.2, (List.pairwise_cons.mp hrest).2⟩
    rw [ih hjoined, Bool.eq_iff_iff]
    simp only [Text.inRanges_iff, List.exists_mem_cons_iff, ← or_assoc]
    refine or_congr_left ?_
    omega
  | case3 r t rest h ih =>
    have hjoined := ih (List.pairwise_cons.mp hsorted).2
    simp only [Text.inRanges, List.any_cons] at hjoined ⊢
    rw [hjoined]

theorem inRanges_cutSurrogates (r : Nat × Nat) (n : Nat) :
    Text.inRanges (cutSurrogates r) n = true ↔
      (r.1 ≤ n ∧ n ≤ r.2) ∧ (n < firstSurrogate ∨ lastSurrogate < n) := by
  simp only [Text.inRanges_iff, cutSurrogates, List.mem_filter, decide_eq_true_eq, List.mem_cons,
    List.not_mem_nil, or_false, firstSurrogate, lastSurrogate]
  constructor
  · rintro ⟨_, ⟨rfl | rfl, -⟩, h⟩ <;> dsimp only at h <;> omega
  · rintro ⟨h, hbelow | habove⟩
    · exact ⟨_, ⟨.inl rfl, by dsimp only; omega⟩, by dsimp only; omega⟩
    · exact ⟨_, ⟨.inr rfl, by dsimp only; omega⟩, by dsimp only; omega⟩

/-- The ranges that a set is made from, in ascending order and without
surrogates. -/
def ordered (rs : List (Nat × Nat)) : List (Nat × Nat) :=
  (rs.flatMap cutSurrogates).mergeSort fun a b => a.1 ≤ b.1

theorem mem_ordered {t : Nat × Nat} : t ∈ ordered rs ↔ ∃ r ∈ rs, t ∈ cutSurrogates r := by
  rw [ordered, List.mem_mergeSort, List.mem_flatMap]

theorem pairwise_ordered (rs : List (Nat × Nat)) :
    (ordered rs).Pairwise fun a b => a.1 ≤ b.1 :=
  (List.pairwise_mergeSort (by simp; omega) (by simp; omega) _).imp of_decide_eq_true

theorem ranges_ofRanges_of_nil {rs : List (Nat × Nat)} (h : ordered rs = []) :
    (ofRanges rs).ranges = [] := by
  unfold ordered at h
  rw [ofRanges, h]

theorem ranges_ofRanges_of_cons {rs rest : List (Nat × Nat)} {r : Nat × Nat}
    (h : ordered rs = r :: rest) : (ofRanges rs).ranges = joinOnto r rest := by
  unfold ordered at h
  rw [ofRanges, h]

/-- The set holds the code points of its ranges that are no surrogates. -/
theorem contains_ofRanges (rs : List (Nat × Nat)) (n : Nat) :
    (ofRanges rs).contains n = true ↔
      (∃ r ∈ rs, r.1 ≤ n ∧ n ≤ r.2) ∧ (n < firstSurrogate ∨ lastSurrogate < n) := by
  have hranges : (ofRanges rs).contains n = Text.inRanges (ordered rs) n := by
    rw [contains]
    cases hordered : ordered rs with
    | nil => rw [ranges_ofRanges_of_nil hordered]
    | cons r rest =>
      rw [ranges_ofRanges_of_cons hordered]
      exact inRanges_joinOnto (hordered ▸ pairwise_ordered rs)
  have hcut (r : Nat × Nat) := (Text.inRanges_iff.symm.trans (inRanges_cutSurrogates r n))
  rw [hranges, Text.inRanges_iff]
  constructor
  · rintro ⟨t, ht, hn⟩
    obtain ⟨r, hr, ht⟩ := mem_ordered.mp ht
    obtain ⟨hn, hcode⟩ := (hcut r).mp ⟨t, ht, hn⟩
    exact ⟨⟨r, hr, hn⟩, hcode⟩
  · rintro ⟨⟨r, hr, hn⟩, hcode⟩
    obtain ⟨t, ht, hn⟩ := (hcut r).mpr ⟨hn, hcode⟩
    exact ⟨t, mem_ordered.mpr ⟨r, hr, ht⟩, hn⟩

theorem joinOnto_of_apart {r : Nat × Nat} {ts : List (Nat × Nat)}
    (h : (r :: ts).Pairwise fun a b => a.2 + 1 < b.1) : joinOnto r ts = r :: ts := by
  induction ts generalizing r with
  | nil => rfl
  | cons t ts ih =>
    obtain ⟨hapart, hts⟩ := List.pairwise_cons.mp h
    rw [joinOnto, if_neg (Nat.not_le.mpr (hapart t List.mem_cons_self)), ih hts]

/-- Ranges that lie apart can be put in one order only, and are not joined. -/
theorem ranges_ofRanges_of_apart {rs ts : List (Nat × Nat)}
    (hperm : (rs.flatMap cutSurrogates).Perm ts)
    (hapart : ts.Pairwise fun a b => a.1 < b.1 ∧ a.2 + 1 < b.1) : (ofRanges rs).ranges = ts := by
  have hsame : (ordered rs).Perm ts := (List.mergeSort_perm _ _).trans hperm
  have hstarts : ts.Pairwise fun a b => a.1 ≠ b.1 := hapart.imp fun h => Nat.ne_of_lt h.1
  have hsymm : Std.Symm fun a b : Nat × Nat => a.1 ≠ b.1 := ⟨fun _ _ h => h.symm⟩
  have hordered : ordered rs = ts := by
    refine hsame.eq_of_pairwise (fun a b ha hb hab hba => ?_) (pairwise_ordered rs)
      (hapart.imp fun h => Nat.le_of_lt h.1)
    by_contra hne
    exact hstarts.forall (hsame.mem_iff.mp ha) hb hne (Nat.le_antisymm hab hba)
  cases ts with
  | nil => exact ranges_ofRanges_of_nil hordered
  | cons r ts => rw [ranges_ofRanges_of_cons hordered, joinOnto_of_apart (hapart.imp And.right)]

theorem ranges_ofRanges_of_below {bound : Nat} (hrs : ∀ r ∈ rs, r.2 < bound) :
    (∀ t ∈ (ofRanges rs).ranges, t.2 < bound) ∧ (ofRanges rs).ranges.length ≤ 2 * rs.length := by
  have hcut (r : Nat × Nat) : ∀ t ∈ cutSurrogates r, t.2 ≤ r.2 := by
    intro t ht
    rcases List.mem_cons.mp (List.mem_filter.mp ht).1 with rfl | ht
    · exact Nat.min_le_left _ _
    · rw [List.mem_singleton.mp ht]
  have hbelow : ∀ t ∈ ordered rs, t.2 < bound := by
    intro t ht
    obtain ⟨r, hr, ht⟩ := mem_ordered.mp ht
    exact (hcut r t ht).trans_lt (hrs r hr)
  have hlength : (ordered rs).length ≤ 2 * rs.length := by
    rw [ordered, List.length_mergeSort]
    clear hrs hbelow
    induction rs with
    | nil => exact Nat.zero_le _
    | cons r rs ih =>
      have hone : (cutSurrogates r).length ≤ 2 := List.length_filter_le _ _
      rw [List.flatMap_cons, List.length_append, List.length_cons]
      omega
  cases hordered : ordered rs with
  | nil =>
    rw [ranges_ofRanges_of_nil hordered]
    exact ⟨List.forall_mem_nil _, Nat.zero_le _⟩
  | cons r rest =>
    rw [ranges_ofRanges_of_cons hordered]
    rw [hordered] at hbelow hlength
    rw [List.forall_mem_cons] at hbelow
    exact ⟨joinOnto_below hbelow.1 hbelow.2, (length_joinOnto_le r rest).trans hlength⟩

/-! ## Characters -/

theorem not_surrogate (c : Char) : c.toNat < firstSurrogate ∨ lastSurrogate < c.toNat := by
  rcases c.valid with h | h
  · exact .inl h
  · exact .inr h.1

theorem mem_variants (c d : Char) :
    (variants c).mem d = true ↔ d.toNat ∈ Unicode.caseVariants c.toNat := by
  rw [mem, variants, contains_ofRanges, and_iff_left (not_surrogate d)]
  constructor
  · rintro ⟨r, hr, hle, hge⟩
    obtain ⟨n, hn, rfl⟩ := List.mem_map.mp hr
    exact le_antisymm hle hge ▸ hn
  · exact fun hd => ⟨_, List.mem_map_of_mem hd, Nat.le_refl _, Nat.le_refl _⟩

end CodeSet

/-! ## Case in ASCII -/

namespace Unicode

/-- The run starts in ASCII or leads there. -/
def meetsAscii (r : Text.Run) : Bool := r.first < 128 || r.first + r.shift < 128

/-- The foldings that start in ASCII or lead there. -/
def asciiFoldings : List Text.Run :=
  [⟨0x41, 0x5a, 1, 32⟩, ⟨0x17f, 0x17f, 1, -268⟩, ⟨0x212a, 0x212a, 1, -8383⟩]

theorem filter_foldings : foldings.filter meetsAscii = asciiFoldings := by rfl

theorem image_foldings {n : Nat} (hn : n < 128) :
    Text.Run.image foldings n = Text.Run.image asciiFoldings n := by
  have hmoves (r : Text.Run) : decide (meetsAscii r = true ∧ r.moves n = true) = r.moves n := by
    cases hr : r.moves n with
    | false => simp
    | true =>
      simp only [Text.Run.moves, Bool.and_eq_true, decide_eq_true_eq] at hr
      simp only [meetsAscii, Bool.or_eq_true, decide_eq_true_eq, and_true]
      omega
  rw [← filter_foldings, Text.Run.image, Text.Run.image, List.find?_filter, funext hmoves]

theorem sources_foldings {n : Nat} (hn : n < 128) :
    Text.Run.sources foldings n = Text.Run.sources asciiFoldings n := by
  rw [← filter_foldings, Text.Run.sources, Text.Run.sources, List.filterMap_filter]
  refine List.filterMap_congr fun r _ => ?_
  dsimp only
  split
  · rename_i hr
    have hmeets : meetsAscii r = true := by
      simp only [Text.Run.moves, Bool.and_eq_true, decide_eq_true_eq] at hr
      simp only [meetsAscii, Bool.or_eq_true, decide_eq_true_eq]
      omega
    rw [if_pos hmeets]
  · rw [ite_self]

theorem image_lt {n : Nat} (hn : n < 128) : Text.Run.image asciiFoldings n < 128 := by
  have hall : ∀ m < 128, Text.Run.image asciiFoldings m < 128 := by decide +kernel
  exact hall n hn

/-- The case variants of a code point of ASCII. -/
def asciiVariants (n : Nat) : List Nat :=
  Text.Run.image asciiFoldings n ::
    Text.Run.sources asciiFoldings (Text.Run.image asciiFoldings n)

theorem caseVariants_of_ascii {n : Nat} (hn : n < 128) : caseVariants n = asciiVariants n := by
  rw [caseVariants, image_foldings hn, sources_foldings (image_lt hn), asciiVariants]

/-- Characters of ASCII are the same but for case when they have the same lower
case. -/
theorem mem_caseVariants_iff {c d : Char} (hc : c.toNat < 128) (hd : d.toNat < 128) :
    d.toNat ∈ caseVariants c.toNat ↔ Like.fold c = Like.fold d := by
  have himage : ∀ n < 128, Text.Run.image asciiFoldings n = (Like.fold (Char.ofNat n)).toNat := by
    decide +kernel
  have hself : ∀ n < 128, n ∈ asciiVariants n := by decide +kernel
  have hothers : ∀ n < 128, ∀ m ∈ asciiVariants n, m < 128 →
      Text.Run.image asciiFoldings m = Text.Run.image asciiFoldings n := by
    decide +kernel
  have hcimage := himage c.toNat hc
  have hdimage := himage d.toNat hd
  rw [Char.ofNat_toNat] at hcimage hdimage
  rw [caseVariants_of_ascii hc]
  constructor
  · intro hmem
    have hsame := hothers c.toNat hc d.toNat hmem hd
    rw [hcimage, hdimage] at hsame
    exact (Char.toNat_inj.mp hsame).symm
  · intro hfold
    have hsame : asciiVariants c.toNat = asciiVariants d.toNat := by
      rw [asciiVariants, asciiVariants, hcimage, hdimage, hfold]
    rw [hsame]
    exact hself d.toNat hd

/-- Only the letters k and s have a variant outside ASCII. -/
theorem caseVariants_cases {n : Nat} (hn : n < 128) :
    (∀ m ∈ caseVariants n, m < 128) ∧ (caseVariants n).length ≤ 2 ∨
      caseVariants n = [0x6b, 0x4b, 0x212a] ∨ caseVariants n = [0x73, 0x53, 0x17f] := by
  have hall : ∀ m < 128, (∀ k ∈ asciiVariants m, k < 128) ∧ (asciiVariants m).length ≤ 2 ∨
      asciiVariants m = [0x6b, 0x4b, 0x212a] ∨ asciiVariants m = [0x73, 0x53, 0x17f] := by
    decide +kernel
  rw [caseVariants_of_ascii hn]
  exact hall n hn

end Unicode

end EntityStore
