-- How much memory the automata of expressions take. A range of bytes that a draft reads costs
-- the same wherever it ends up, in a finished state or in one that waits for more ranges. So
-- each part of an expression has a price, and a filter's pattern of usual length never
-- takes more memory than it may.
import EntityStore.Proofs.Pattern.CodeSets
import EntityStore.Proofs.Pattern.Reading

namespace EntityStore.Regex

namespace Draft

/-! ## Sets, first byte first -/

/-- What a state that is not finished will take at most. -/
def Pending.price (p : Pending) : Nat := 40 + 8 * p.arrows.length

def pricesOf (path : List Pending) : Nat := (path.map Pending.price).sum

theorem pricesOf_cons (p : Pending) (path : List Pending) :
    pricesOf (p :: path) = p.price + pricesOf path := rfl

/-- States that wait for their first range. -/
theorem pricesOf_waiting (rs : List (Nat × Nat)) :
    pricesOf (rs.map (⟨[], some ·⟩)) = 40 * rs.length := by
  induction rs with
  | nil => rfl
  | cons r rs ih =>
    rw [List.map_cons, pricesOf_cons, ih, List.length_cons, Pending.price, List.length_nil]
    omega

theorem length_closed_le (p : Pending) (next : Nat) :
    (p.closed next).length ≤ p.arrows.length + 1 := by
  unfold Pending.closed
  split
  · exact Nat.le_succ _
  · exact Nat.le_refl _

theorem size_state_le (m : Sharing (List Arrow)) (arrows : List Arrow) :
    (m.state arrows).2.draft.size ≤ m.draft.size + 32 + 8 * arrows.length := by
  have hnew : (m.draft.addChoice arrows.length).size = m.draft.size + 32 + 8 * arrows.length := rfl
  unfold Sharing.state
  dsimp only
  split
  · split
    · dsimp only
      omega
    · exact hnew.le
  · exact hnew.le

theorem size_finish_le (target : Nat) (path : List Pending) (m : Sharing (List Arrow)) :
    (finish target path m).2.draft.size ≤ m.draft.size + pricesOf path := by
  induction path with
  | nil => exact Nat.le_refl _
  | cons p deeper ih =>
    have hstate := size_state_le (finish target deeper m).2
      (p.closed (finish target deeper m).1)
    have hclosed := length_closed_le p (finish target deeper m).1
    rw [pricesOf_cons, Pending.price]
    exact hstate.trans (by omega)

/-- Each range of bytes adds its price to what is taken and what will be. -/
theorem addSequence_le (target : Nat) (rs : List (Nat × Nat)) (path : List Pending)
    (m : Sharing (List Arrow)) :
    (addSequence target rs path m).2.draft.size + pricesOf (addSequence target rs path m).1 ≤
      m.draft.size + pricesOf path + 40 * rs.length := by
  fun_induction addSequence target rs path m with
  | case1 => exact Nat.le_refl _
  | case2 r rs m =>
    rw [pricesOf_cons, pricesOf_waiting, List.length_cons, Pending.price]
    dsimp only [List.length_nil, pricesOf, List.map_nil, List.sum_nil]
    omega
  | case3 r rs p deeper m h deeper' m' hm' ih =>
    rw [hm'] at ih
    dsimp only at ih ⊢
    rw [pricesOf_cons, pricesOf_cons, List.length_cons]
    omega
  | case4 r rs p deeper m h next m' hm' =>
    have hfinish := size_finish_le target deeper m
    have hclosed := length_closed_le p next
    rw [hm'] at hfinish
    dsimp only at hfinish ⊢
    rw [pricesOf_cons, pricesOf_cons, pricesOf_waiting, List.length_cons, Pending.price,
      Pending.price]
    dsimp only
    omega

/-- What the states for a set take, besides those that it starts with. -/
def priceOf (seqs : List (List (Nat × Nat))) : Nat := (seqs.map fun rs => 40 * rs.length + 4).sum

theorem priceOf_cons (rs : List (Nat × Nat)) (seqs : List (List (Nat × Nat))) :
    priceOf (rs :: seqs) = 40 * rs.length + 4 + priceOf seqs := rfl

theorem size_addSetForward_le (d : Draft) (s : CodeSet) :
    (d.addSetForward s).size ≤ d.size + 72 + priceOf (sequences s) := by
  have hfold : ∀ seqs (x : List Pending × Sharing (List Arrow)),
      let y := seqs.foldl (fun x rs => addSequence d.states rs x.1 x.2) x
      y.2.draft.size + pricesOf y.1 ≤ x.2.draft.size + pricesOf x.1 + priceOf seqs := by
    intro seqs
    induction seqs with
    | nil => exact fun x => Nat.le_refl _
    | cons rs seqs ih =>
      intro x
      have hone := addSequence_le d.states rs x.1 x.2
      have hrest := ih (addSequence d.states rs x.1 x.2)
      dsimp only at hrest ⊢
      rw [List.foldl_cons, priceOf_cons]
      omega
  have hseqs := hfold (sequences s) ([⟨[], none⟩], ⟨d.addState 0, ∅⟩)
  have hfinish := size_finish_le d.states
    ((sequences s).foldl (fun x rs => addSequence d.states rs x.1 x.2)
      ([⟨[], none⟩], ⟨d.addState 0, ∅⟩)).1
    ((sequences s).foldl (fun x rs => addSequence d.states rs x.1 x.2)
      ([⟨[], none⟩], ⟨d.addState 0, ∅⟩)).2
  exact hfinish.trans hseqs

/-! ## Sets, last byte first -/

theorem size_readBackward_le (next : Nat) (rs : List (Nat × Nat))
    (m : Sharing (Nat × Nat × Nat)) :
    (readBackward next rs m).draft.size ≤ m.draft.size + 32 * rs.length := by
  induction rs generalizing next m with
  | nil => exact Nat.le_refl _
  | cons r rs ih =>
    rw [List.length_cons]
    unfold readBackward
    dsimp only
    have hnew : ∀ known, (readBackward m.draft.states rs ⟨m.draft.addState 0, known⟩).draft.size ≤
        m.draft.size + 32 * (rs.length + 1) := fun known =>
      (ih m.draft.states ⟨m.draft.addState 0, known⟩).trans (by dsimp only [addState]; omega)
    split
    · split
      · exact (ih _ m).trans (by omega)
      · exact hnew _
    · exact hnew _

theorem size_addSetBackward_le (d : Draft) (s : CodeSet) :
    (d.addSetBackward s).size ≤ d.size + 72 + priceOf (sequences s) := by
  have hfold : ∀ last seqs (m : Sharing (Nat × Nat × Nat)),
      (seqs.foldl (fun m rs => { readBackward last rs m with
        draft := (readBackward last rs m).draft.addBranch }) m).draft.size ≤
        m.draft.size + priceOf seqs := by
    intro last seqs
    induction seqs with
    | nil => exact fun m => Nat.le_refl _
    | cons rs seqs ih =>
      intro m
      have hone := size_readBackward_le last rs m
      rw [List.foldl_cons, priceOf_cons]
      refine (ih _).trans ?_
      dsimp only [addBranch]
      omega
  exact (hfold _ (sequences s) _).trans (by dsimp only [addState]; omega)

/-- What the states for a set take at most. -/
def setPrice (s : CodeSet) : Nat :=
  if s.isAscii then 64 + 8 * s.ranges.length else 72 + priceOf (sequences s)

theorem size_addSet_le (d : Draft) (backward : Bool) (s : CodeSet) :
    (d.addSet backward s).size ≤ d.size + setPrice s := by
  unfold addSet setPrice
  split
  · dsimp only [addChoice, addState]
    omega
  · rw [← Nat.add_assoc]
    cases backward with
    | true => exact size_addSetBackward_le d s
    | false => exact size_addSetForward_le d s

theorem size_link_le (d : Draft) (isFork : Bool) : (d.link isFork).size ≤ d.size + 4 := by
  cases isFork with
  | true => exact Nat.le_refl _
  | false => exact Nat.le_add_right _ _

/-! ## Parts of expressions -/

/-- Whichever way it reads, the part takes at most so many bytes. -/
def Costs (n : Normal) (k : Nat) : Prop :=
  ∀ backward d, (compile backward n d).draft.size ≤ d.size + k

theorem costs_text (codes : List Nat) :
    Costs (.text codes) (32 * (codes.flatMap Utf8.bytes).length) :=
  fun _ _ => Nat.le_refl _

theorem le_of_costs_text {codes : List Nat} {k : Nat} (h : Costs (.text codes) k) :
    32 * (codes.flatMap Utf8.bytes).length ≤ k := by
  have hempty : empty.size + 32 * (codes.flatMap Utf8.bytes).length ≤ empty.size + k :=
    h false empty
  exact Nat.le_of_add_le_add_left hempty

theorem costs_assert (a : Assertion) : Costs (.assert a) 32 := fun _ _ => Nat.le_refl _

theorem costs_set (s : CodeSet) : Costs (.set s) (setPrice s) :=
  fun backward d => size_addSet_le d backward s

theorem costs_star {n : Normal} {k : Nat} (h : Costs n k) (hn : n.isNeverEmpty = true) :
    Costs (.times n 0 none) (k + 40) := by
  intro backward d
  have hpart := h backward (d.addState 0)
  have hlink := size_link_le (compile backward n (d.addState 0)).draft.addBranch
    (compile backward n (d.addState 0)).isFork
  have hstar : compile backward (.times n 0 none) =
      if n.isNeverEmpty then (compile backward n).star else (compile backward n).starOfEmpty := rfl
  rw [hstar, if_pos hn]
  dsimp only [Fragment.star, addBranch, addState] at hpart hlink ⊢
  omega

/-- The parts of a sequence take at most so many bytes together, links included. -/
def CostsAll : List Normal → Nat → Prop
  | [], _ => True
  | n :: ns, k => n.parts = [n] ∧ ∃ i j, Costs n i ∧ CostsAll ns j ∧ i + 4 + j ≤ k

variable {n : Normal} {ns ms : List Normal} {i j k : Nat}

theorem CostsAll.le (h : CostsAll ns j) (hjk : j ≤ k) : CostsAll ns k := by
  cases ns with
  | nil => trivial
  | cons n ns =>
    obtain ⟨hparts, a, b, ha, hb, hsum⟩ := h
    exact ⟨hparts, a, b, ha, hb, hsum.trans hjk⟩

theorem CostsAll.parts_ofParts (h : CostsAll ns k) : (Normal.ofParts ns).parts = ns := by
  match ns, h with
  | [], _ => rfl
  | [n], h => exact h.1
  | _ :: _ :: _, _ => rfl

theorem CostsAll.compileForward (h : CostsAll ns k) (x : Open) :
    (compileForward ns x).draft.size ≤ x.draft.size + k := by
  induction ns generalizing x k with
  | nil => exact Nat.le_add_right _ _
  | cons n ns ih =>
    obtain ⟨-, i, j, hn, hns, hsum⟩ := h
    have hpart := hn false x.draft
    have hlink := size_link_le (compile false n x.draft).draft x.isFork
    exact (ih hns ⟨(compile false n x.draft).draft.link x.isFork,
      (compile false n x.draft).isFork⟩).trans (by dsimp only; omega)

theorem CostsAll.compileBackward (h : CostsAll ns k) (d : Draft) :
    (compileBackward ns d).draft.size ≤ d.size + k := by
  induction ns generalizing k with
  | nil => exact Nat.le_add_right _ _
  | cons n ns ih =>
    obtain ⟨-, i, j, hn, hns, hsum⟩ := h
    have hrest := ih hns
    have hpart := hn true (Draft.compileBackward ns d).draft
    have hlink := size_link_le (compile true n (Draft.compileBackward ns d).draft).draft
      (Draft.compileBackward ns d).isFork
    exact hlink.trans (by omega)

/-- An expression takes little more than its parts. -/
theorem CostsAll.costs (h : CostsAll n.parts k) : Costs n (k + 32) := by
  intro backward d
  cases n with
  | empty => exact Nat.add_le_add_left (Nat.le_add_left 32 k) d.size
  | seq ns =>
    cases backward with
    | true => exact (h.compileBackward d).trans (by omega)
    | false => exact (h.compileForward ⟨d, false⟩).trans (by dsimp only; omega)
  | text | set | assert | times | group | choice =>
    obtain ⟨-, i, j, hn, -, hsum⟩ := h
    exact (hn backward d).trans (by omega)

/-- Texts that become one take what both took. -/
theorem CostsAll.consPart (hparts : n.parts = [n]) (hn : Costs n i) (h : CostsAll ns j) :
    CostsAll (Normal.consPart n ns) (i + 4 + j) := by
  have hcons : CostsAll (n :: ns) (i + 4 + j) := ⟨hparts, i, j, hn, h, Nat.le_refl _⟩
  match n, ns, h with
  | .text codes, .text more :: ns, ⟨_, a, b, hmore, hns, hsum⟩ =>
    refine ⟨rfl, _, b, costs_text (codes ++ more), hns, ?_⟩
    have hcodes := le_of_costs_text hn
    have hothers := le_of_costs_text hmore
    rw [List.flatMap_append, List.length_append]
    omega
  | .text _, [], _ => exact hcons
  | .text _, .empty :: _, _ | .text _, .set _ :: _, _ | .text _, .assert _ :: _, _
  | .text _, .times _ _ _ :: _, _ | .text _, .group _ :: _, _ | .text _, .seq _ :: _, _
  | .text _, .choice _ :: _, _ => exact hcons
  | .empty, _, _ | .set _, _, _ | .assert _, _, _ | .times _ _ _, _, _ | .group _, _, _
  | .seq _, _, _ | .choice _, _, _ => exact hcons

theorem CostsAll.append (hns : CostsAll ns j) (hms : CostsAll ms k) :
    CostsAll (ns.foldr Normal.consPart ms) (j + k) := by
  induction ns generalizing j with
  | nil => exact hms.le (Nat.le_add_left _ _)
  | cons n ns ih =>
    obtain ⟨hparts, a, b, hn, hrest, hsum⟩ := hns
    exact ((ih hrest).consPart hparts hn).le (by omega)

end Draft

/-! ## Expressions -/

open Draft (Costs CostsAll)

/-- The parts of the expression take at most so many bytes. -/
def CostsAtMost (r : Regex) (k : Nat) : Prop := CostsAll (Normal.ofRegex r).parts k

variable {r s : Regex} {j k : Nat}

theorem CostsAtMost.cat (hr : r.CostsAtMost j) (hs : s.CostsAtMost k) :
    (Regex.cat r s).CostsAtMost (j + k) := by
  have happend := CostsAll.append hr hs
  have hparts : (Normal.ofRegex (.cat r s)).parts =
      (Normal.ofRegex r).parts.foldr Normal.consPart (Normal.ofRegex s).parts :=
    happend.parts_ofParts
  rw [CostsAtMost, hparts]
  exact happend

theorem costsAtMost_empty : Regex.empty.CostsAtMost 0 := trivial

theorem costsAtMost_assert (a : Assertion) : (Regex.assert a).CostsAtMost 36 :=
  ⟨rfl, 32, 0, Draft.costs_assert a, trivial, Nat.le_refl _⟩

/-- A set with one code point is a text of one character. -/
theorem costsAtMost_set (c : CodeSet) :
    (Regex.set c).CostsAtMost (max 128 (Draft.setPrice c) + 4) := by
  have hnormal : Normal.ofRegex (.set c) = Normal.ofSet c := rfl
  rw [CostsAtMost, hnormal, Normal.ofSet]
  cases hsingle : c.single? with
  | none => exact ⟨rfl, _, 0, Draft.costs_set c, trivial, by omega⟩
  | some n =>
    have hbytes : (Utf8.bytes n).length ≤ 4 := by
      unfold Utf8.bytes
      dsimp only
      split_ifs <;> simp
    refine ⟨rfl, _, 0, Draft.costs_text [n], trivial, ?_⟩
    rw [List.flatMap_singleton]
    omega

theorem CostsAtMost.star {c : CodeSet} (hc : c.single? = none) (hne : c.isEmpty = false) :
    (Regex.times (.set c) 0 none).CostsAtMost (Draft.setPrice c + 44) := by
  have hnever : (Normal.set c).isNeverEmpty = true := by
    rw [Normal.isNeverEmpty, Normal.least?, hne]
    rfl
  have hnormal : Normal.ofRegex (.times (.set c) 0 none) = .times (.set c) 0 none := by
    have hset : Normal.ofRegex (.times (.set c) 0 none) =
        Normal.repeated (Normal.ofSet c) 0 none := rfl
    rw [hset, Normal.ofSet, hc]
    rfl
  rw [CostsAtMost, hnormal]
  exact ⟨rfl, _, 0, Draft.costs_star (Draft.costs_set c) hnever, trivial, by omega⟩

theorem CostsAtMost.le (h : r.CostsAtMost j) (hjk : j ≤ k) : r.CostsAtMost k := CostsAll.le h hjk

/-- An automaton takes little more than its parts. -/
theorem CostsAtMost.size_ofNormal_le (h : r.CostsAtMost k) (backward : Bool) :
    (Draft.ofNormal backward (Normal.ofRegex r)).size ≤ k + 248 := by
  have hcosts := CostsAll.costs h
  have hstart (anchored : Bool) : (if anchored then Draft.empty.addState 0
      else ((Draft.empty.addState 4).addState 0).addChoice 1).size ≤ 108 := by
    cases anchored <;> decide
  have hpart (d : Draft) : (Draft.compile backward
      (if backward then Normal.ofRegex r else .group (Normal.ofRegex r)) d).draft.size ≤
      d.size + k + 100 := by
    cases backward with
    | true => exact (hcosts true d).trans (by omega)
    | false =>
      have hinside := hcosts false (d.addState 0)
      refine (Draft.size_link_le ((Draft.compile false (Normal.ofRegex r)
        (d.addState 0)).draft.addState 0) _).trans ?_
      dsimp only [Draft.addState] at hinside ⊢
      omega
  have hend (x : Draft.Open) (anchored : Bool) :
      (((x.draft.addState 0).link x.isFork).link anchored).size ≤ x.draft.size + 40 :=
    (Draft.size_link_le _ _).trans (Nat.add_le_add_right (Draft.size_link_le _ _) 4)
  unfold Draft.ofNormal
  refine (hend _ _).trans ((Nat.add_le_add_right (hpart _) 40).trans ?_)
  have hbegun := hstart
    (if backward then (Normal.ofRegex r).endsAt .textEnd else (Normal.ofRegex r).startsAt .textStart)
  omega

/-- An expression whose parts cost little enough fits. -/
theorem CostsAtMost.fits (h : r.CostsAtMost k) (hk : k + 248 ≤ Draft.limit) : r.fits = true := by
  have hfull (backward : Bool) :
      (Draft.ofNormal backward (Normal.ofRegex r)).isFull = false :=
    decide_eq_false (Nat.not_lt.mpr ((h.size_ofNormal_le backward).trans hk))
  rw [Regex.fits, hfull, hfull]
  rfl

/-! ## Patterns of filters -/

theorem ranges_point : point.ranges = [(0, 9), (0xb, 0xd7ff), (0xe000, 0x10ffff)] := by
  have hline : (CodeSet.singleChar '\n').ranges = [(0xa, 0xa)] :=
    CodeSet.ranges_ofRanges_of_apart (by decide) (by decide)
  rw [point, CodeSet.compl, hline]
  exact CodeSet.ranges_ofRanges_of_apart (by decide) (by decide)

theorem setPrice_point : Draft.setPrice point = 1232 := by
  have hascii : point.isAscii = false := by rw [CodeSet.isAscii, ranges_point]; rfl
  have hprice : Draft.priceOf (Draft.sequences point) = 1160 := by
    rw [Draft.sequences, ranges_point]
    decide +kernel
  rw [Draft.setPrice, hascii, hprice]
  rfl

/-- All variants of a character of ASCII together cost less than the point. -/
theorem setPrice_variants_le {c : Char} (hc : c.toNat < 128) :
    Draft.setPrice (.variants c) ≤ 1232 := by
  have hk : Draft.setPrice (.ofRanges [(0x6b, 0x6b), (0x4b, 0x4b), (0x212a, 0x212a)]) ≤ 1232 := by
    have hranges : (CodeSet.ofRanges [(0x6b, 0x6b), (0x4b, 0x4b), (0x212a, 0x212a)]).ranges =
        [(0x4b, 0x4b), (0x6b, 0x6b), (0x212a, 0x212a)] :=
      CodeSet.ranges_ofRanges_of_apart (by decide) (by decide)
    rw [Draft.setPrice, CodeSet.isAscii, Draft.sequences, hranges]
    decide +kernel
  have hs : Draft.setPrice (.ofRanges [(0x73, 0x73), (0x53, 0x53), (0x17f, 0x17f)]) ≤ 1232 := by
    have hranges : (CodeSet.ofRanges [(0x73, 0x73), (0x53, 0x53), (0x17f, 0x17f)]).ranges =
        [(0x53, 0x53), (0x73, 0x73), (0x17f, 0x17f)] :=
      CodeSet.ranges_ofRanges_of_apart (by decide) (by decide)
    rw [Draft.setPrice, CodeSet.isAscii, Draft.sequences, hranges]
    decide +kernel
  rw [CodeSet.variants]
  rcases Unicode.caseVariants_cases hc with ⟨hascii, hlength⟩ | hvariants | hvariants
  · have hlast : ∀ r ∈ (Unicode.caseVariants c.toNat).map fun n => (n, n), r.2 < 128 :=
      List.forall_mem_map.mpr hascii
    obtain ⟨hbelow, hranges⟩ := CodeSet.ranges_ofRanges_of_below hlast
    rw [List.length_map] at hranges
    have hall : (CodeSet.ofRanges ((Unicode.caseVariants c.toNat).map fun n => (n, n))).isAscii =
        true := List.all_eq_true.mpr fun r hr => decide_eq_true (hbelow r hr)
    rw [Draft.setPrice, hall, if_pos rfl]
    omega
  · rw [hvariants]
    exact hk
  · rw [hvariants]
    exact hs

theorem costsAtMost_partOf {c : Char} (hc : c.toNat < 128) :
    (partOf c).regex.CostsAtMost 1276 := by
  unfold partOf
  split
  · have hsingle : point.single? = none := by rw [CodeSet.single?, ranges_point]
    have hne : point.isEmpty = false := by rw [CodeSet.isEmpty, ranges_point]; rfl
    exact (CostsAtMost.star hsingle hne).le (by rw [setPrice_point])
  · exact (costsAtMost_set _).le (by have := setPrice_variants_le hc; omega)

theorem costsAtMost_sequence {chars : List Char} (hascii : ∀ c ∈ chars, c.toNat < 128) :
    (sequence chars).CostsAtMost (1276 * chars.length) := by
  induction chars with
  | nil => exact costsAtMost_empty
  | cons c chars ih =>
    rw [List.forall_mem_cons] at hascii
    exact ((costsAtMost_partOf hascii.1).cat (ih hascii.2)).le (by rw [List.length_cons]; omega)

/-- The expression of a filter's pattern in ASCII fits, unless the pattern is
thousands of characters long. -/
theorem fits_anchoredSequence {chars : List Char} (hascii : ∀ c ∈ chars, c.toNat < 128)
    (hlength : chars.length ≤ 8200) : (anchoredSequence chars).fits = true := by
  have hseq := costsAtMost_sequence hascii
  have hgroup : (Regex.group false (sequence chars)).CostsAtMost (1276 * chars.length) := hseq
  have hwhole := (costsAtMost_assert .textStart).cat
    (hgroup.cat ((costsAtMost_assert .textEnd).cat costsAtMost_empty))
  exact hwhole.fits (by rw [Draft.limit]; omega)

end EntityStore.Regex
