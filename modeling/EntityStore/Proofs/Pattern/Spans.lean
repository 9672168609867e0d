-- What regular expressions match. An expression spans from one place of a text to another. The
-- matcher moves whole sets of places and stops a repetition once it meets no new place, and so
-- it finds all places that an expression spans to, and no others.
import EntityStore.Pattern.Regex.Matching
import Mathlib.Data.Finset.Card
import Mathlib.Data.Finset.Range
import Mathlib.Data.Nat.Bitwise

namespace EntityStore

/-! ## Sets of places -/

namespace Place

theorem testBit_bits (bs : List Bool) (i : Nat) : (bits bs).testBit i = bs.getD i false := by
  induction bs generalizing i with
  | nil => simp [bits]
  | cons b bs ih =>
    have hbits : bits (b :: bs) = 2 * bits bs + b.toNat := rfl
    cases i with
    | zero => cases b <;> simp [hbits, Nat.testBit_zero, Nat.add_mod]
    | succ i =>
      have hhalf : (2 * bits bs + b.toNat) / 2 = bits bs := by
        have hbit := Bool.toNat_le b
        omega
      rw [hbits, Nat.testBit_succ, hhalf, ih]
      rfl

theorem testBit_firsts (n i : Nat) : (firsts n).testBit i = decide (i < n) := by
  rw [firsts, Nat.one_shiftLeft, Nat.testBit_two_pow_sub_one]

/-- All places of the set are places of a text of the length. -/
def Inside (length places : Nat) : Prop := ∀ i, places.testBit i → i ≤ length

/-- How many places of a text are in the set. -/
def count (length places : Nat) : Nat :=
  ((Finset.range (length + 1)).filter fun i => places.testBit i).card

theorem count_le (length places : Nat) : count length places ≤ length + 1 :=
  (Finset.card_filter_le _ _).trans (Finset.card_range _).le

theorem count_lt {length seen all : Nat} (hall : Inside length all)
    (hseen : ∀ i, seen.testBit i → all.testBit i) (hne : all ≠ seen) :
    count length seen < count length all := by
  obtain ⟨i, hi⟩ : ∃ i, all.testBit i ≠ seen.testBit i := by
    by_contra hsame
    exact hne (Nat.eq_of_testBit_eq fun i => not_not.mp fun h => hsame ⟨i, h⟩)
  have hnew : all.testBit i = true ∧ seen.testBit i = false := by
    cases hs : seen.testBit i with
    | false => exact ⟨by simpa [hs] using hi, rfl⟩
    | true => exact absurd ((hseen i hs).trans hs.symm) hi
  apply Finset.card_lt_card
  refine (Finset.ssubset_iff_of_subset ?_).mpr ⟨i, ?_, ?_⟩
  · exact Finset.monotone_filter_right _ fun j _ hj => hseen j hj
  · simp [hnew.1, Nat.lt_succ_of_le (hall i hnew.1)]
  · simp [hnew.2]

end Place

namespace Regex

open Place (Inside)

/-! ## What an expression spans -/

/-- A step between places, so many times. -/
def Turns (R : Nat → Nat → Prop) : Nat → Nat → Nat → Prop
  | 0, i, j => i = j
  | n + 1, i, j => ∃ k, R i k ∧ Turns R n k j

/-- The expression matches the characters between two places of a text. -/
def Spans (text : List Char) : Regex → Nat → Nat → Prop
  | .empty => fun i j => i = j
  | .set s => fun i j => j = i + 1 ∧ text[i]?.any s.mem
  | .assert a => fun i j => i = j ∧ (Place.all text)[i]?.any a.holds
  | .cat r s => fun i j => ∃ k, r.Spans text i k ∧ s.Spans text k j
  | .alt r s => fun i j => r.Spans text i j ∨ s.Spans text i j
  | .times r least most => fun i j =>
    ∃ n, least ≤ n ∧ (∀ m ∈ most, n ≤ max least m) ∧ Turns (r.Spans text) n i j
  | .group _ r => r.Spans text

/-! ## Moves -/

variable {length : Nat} {R S : Nat → Nat → Prop} {move after : Nat → Nat}

/-- From a set of places the move leads to all places that the steps from them
lead to, which are places of the text. -/
structure Moves (length : Nat) (R : Nat → Nat → Prop) (move : Nat → Nat) : Prop where
  stays : ∀ i j, i ≤ length → R i j → j ≤ length
  testBit_iff : ∀ starts, Inside length starts →
    ∀ j, (move starts).testBit j ↔ ∃ i, starts.testBit i ∧ R i j

namespace Moves

theorem inside (h : Moves length R move) {starts : Nat} (hstarts : Inside length starts) :
    Inside length (move starts) := by
  intro j hj
  obtain ⟨i, hi, hij⟩ := (h.testBit_iff starts hstarts j).mp hj
  exact h.stays i j (hstarts i hi) hij

theorem stay : Moves length (fun i j => i = j) fun starts => starts where
  stays := fun _ _ hi heq => heq ▸ hi
  testBit_iff := fun _ _ _ => by rw [exists_eq_right]

theorem past {places : Nat} (hplaces : ∀ i, places.testBit i → i < length) :
    Moves length (fun i j => j = i + 1 ∧ places.testBit i)
      fun starts => if starts = 0 then 0 else (starts &&& places) <<< 1 where
  stays := by
    rintro i _ - ⟨rfl, hi⟩
    exact hplaces i hi
  testBit_iff := by
    intro starts _ j
    have hmove : (if starts = 0 then 0 else (starts &&& places) <<< 1) =
        (starts &&& places) <<< 1 := by
      split
      · rename_i hzero
        simp [hzero]
      · rfl
    rw [hmove, Nat.testBit_shiftLeft, Nat.testBit_and]
    cases j with
    | zero => simp
    | succ j => simp

theorem within (places : Nat) : Moves length (fun i j => i = j ∧ places.testBit i)
    fun starts => if starts = 0 then 0 else starts &&& places where
  stays := fun _ _ hi h => h.1 ▸ hi
  testBit_iff := by
    intro starts _ j
    have hmove : (if starts = 0 then 0 else starts &&& places) = starts &&& places := by
      split
      · rename_i hzero
        simp [hzero]
      · rfl
    rw [hmove, Nat.testBit_and]
    simp

theorem both (h : Moves length R move) (g : Moves length S after) :
    Moves length (fun i j => ∃ k, R i k ∧ S k j) fun starts => after (move starts) where
  stays := by
    rintro i j hi ⟨k, hik, hkj⟩
    exact g.stays k j (h.stays i k hi hik) hkj
  testBit_iff := by
    intro starts hstarts j
    rw [g.testBit_iff _ (h.inside hstarts)]
    simp only [h.testBit_iff starts hstarts]
    constructor
    · rintro ⟨k, ⟨i, hi, hik⟩, hkj⟩
      exact ⟨i, hi, k, hik, hkj⟩
    · rintro ⟨i, hi, k, hik, hkj⟩
      exact ⟨k, ⟨i, hi, hik⟩, hkj⟩

theorem either (h : Moves length R move) (g : Moves length S after) :
    Moves length (fun i j => R i j ∨ S i j) fun starts => move starts ||| after starts where
  stays := fun i j hi hij => hij.elim (h.stays i j hi) (g.stays i j hi)
  testBit_iff := by
    intro starts hstarts j
    rw [Nat.testBit_or, Bool.or_eq_true, h.testBit_iff starts hstarts, g.testBit_iff starts hstarts]
    simp only [and_or_left, exists_or]

theorem congr (h : Moves length R move) (hRS : ∀ i j, R i j ↔ S i j) : Moves length S move where
  stays := fun i j hi hij => h.stays i j hi ((hRS i j).mpr hij)
  testBit_iff := fun starts hstarts j => by simp only [h.testBit_iff starts hstarts, hRS]

/-! ## Repetitions -/

theorem repeated_of_fixed {starts : Nat} (h : move starts = starts) (n : Nat) :
    Plan.repeated move n starts = starts := by
  cases n with
  | zero => rfl
  | succ n => exact if_pos h

/-- A move that leads nowhere else need not be made again. -/
theorem repeated_succ (n starts : Nat) :
    Plan.repeated move (n + 1) starts = Plan.repeated move n (move starts) := by
  by_cases h : move starts = starts
  · rw [repeated_of_fixed h, h, repeated_of_fixed h]
  · exact if_neg h

theorem repeated (h : Moves length R move) (n : Nat) :
    Moves length (Turns R n) (Plan.repeated move n) := by
  induction n with
  | zero => exact stay
  | succ n ih =>
    rw [funext (repeated_succ n)]
    exact h.both ih

end Moves

/-- All places seen but the newest ones lead to places seen. -/
structure Frontier (length : Nat) (R : Nat → Nat → Prop) (seen newest : Nat) : Prop where
  inside : Inside length seen
  newest_seen : ∀ i, newest.testBit i → seen.testBit i
  older : ∀ i j, seen.testBit i → newest.testBit i = false → R i j → seen.testBit j

namespace Frontier

variable {seen newest : Nat}

theorem start (h : Inside length seen) : Frontier length R seen seen where
  inside := h
  newest_seen := fun _ hi => hi
  older := fun i _ hi hnot => by rw [hi] at hnot; cases hnot

theorem inside_newest (f : Frontier length R seen newest) : Inside length newest :=
  fun i hi => f.inside i (f.newest_seen i hi)

/-- The newest places lead to all that the places seen lead to and that is
not seen. -/
theorem testBit_all (f : Frontier length R seen newest) (h : Moves length R move) (j : Nat) :
    (seen ||| move newest).testBit j ↔
      seen.testBit j ∨ ∃ i, seen.testBit i ∧ R i j := by
  rw [Nat.testBit_or, Bool.or_eq_true, h.testBit_iff newest f.inside_newest]
  constructor
  · rintro (hj | ⟨i, hi, hij⟩)
    · exact .inl hj
    · exact .inr ⟨i, f.newest_seen i hi, hij⟩
  · rintro (hj | ⟨i, hi, hij⟩)
    · exact .inl hj
    · cases hnew : newest.testBit i with
      | true => exact .inr ⟨i, hnew, hij⟩
      | false => exact .inl (f.older i j hi hnew hij)

theorem closed (f : Frontier length R seen newest) (h : Moves length R move)
    (hall : seen ||| move newest = seen) {i j : Nat} (hi : seen.testBit i) (hij : R i j) :
    seen.testBit j :=
  hall ▸ (f.testBit_all h j).mpr (.inr ⟨i, hi, hij⟩)

theorem testBit_new (f : Frontier length R seen newest) (h : Moves length R move) (i : Nat) :
    ((seen ||| move newest) ^^^ seen).testBit i = false ↔
      ((seen ||| move newest).testBit i → seen.testBit i) := by
  have hsub : seen.testBit i → (seen ||| move newest).testBit i :=
    fun hi => (f.testBit_all h i).mpr (.inl hi)
  rw [Nat.testBit_xor]
  cases hall : (seen ||| move newest).testBit i <;> cases hseen : seen.testBit i <;> simp_all

theorem next (f : Frontier length R seen newest) (h : Moves length R move) :
    Frontier length R (seen ||| move newest) ((seen ||| move newest) ^^^ seen) where
  inside := by
    intro j hj
    rcases (f.testBit_all h j).mp hj with hj | ⟨i, hi, hij⟩
    · exact f.inside j hj
    · exact h.stays i j (f.inside i hi) hij
  newest_seen := by
    intro i hi
    by_contra hnot
    rw [(f.testBit_new h i).mpr fun hall => absurd hall hnot] at hi
    cases hi
  older := fun i j hi hnot hij =>
    (f.testBit_all h j).mpr (.inr ⟨i, (f.testBit_new h i).mp hnot hi, hij⟩)

end Frontier

section

variable {n seen newest : Nat}

theorem Turns.snoc {i j k : Nat} (h : Turns R n i j) (hjk : R j k) : Turns R (n + 1) i k := by
  induction n generalizing i with
  | zero => exact ⟨k, h ▸ hjk, rfl⟩
  | succ n ih =>
    obtain ⟨l, hil, hlj⟩ := h
    exact ⟨l, hil, ih hlj⟩

theorem Turns.last {i j : Nat} (h : Turns R (n + 1) i j) : ∃ k, Turns R n i k ∧ R k j := by
  induction n generalizing i with
  | zero =>
    obtain ⟨_, hij, rfl⟩ := h
    exact ⟨i, rfl, hij⟩
  | succ n ih =>
    obtain ⟨l, hil, hlj⟩ := h
    obtain ⟨k, hlk, hkj⟩ := ih hlj
    exact ⟨k, ⟨l, hil, hlk⟩, hkj⟩

theorem turns_add {m i j : Nat} :
    Turns R (m + n) i j ↔ ∃ k, Turns R m i k ∧ Turns R n k j := by
  induction m generalizing i with
  | zero => simp [Turns]
  | succ m ih =>
    rw [Nat.add_right_comm]
    simp only [Turns, ih]
    constructor
    · rintro ⟨l, hil, k, hlk, hkj⟩
      exact ⟨k, ⟨l, hil, hlk⟩, hkj⟩
    · rintro ⟨k, ⟨l, hil, hlk⟩, hkj⟩
      exact ⟨l, hil, k, hlk, hkj⟩

/-- Steps that lead nowhere else lead nowhere else however often they are
made. -/
theorem Turns.closed (hclosed : ∀ i j, seen.testBit i → R i j → seen.testBit j) {i j : Nat}
    (hi : seen.testBit i) (h : Turns R n i j) : seen.testBit j := by
  induction n generalizing i with
  | zero => exact h ▸ hi
  | succ n ih =>
    obtain ⟨k, hik, hkj⟩ := h
    exact ih (hclosed i k hi hik) hkj

theorem testBit_reach (h : Moves length R move) (f : Frontier length R seen newest) (j : Nat) :
    (Plan.reach move n seen newest).testBit j ↔ ∃ m ≤ n, ∃ i, seen.testBit i ∧ Turns R m i j := by
  induction n generalizing seen newest with
  | zero => simp [Plan.reach, Turns]
  | succ n ih =>
    rw [Plan.reach]
    split
    · rename_i hall
      constructor
      · exact fun hj => ⟨0, Nat.zero_le _, j, hj, rfl⟩
      · rintro ⟨m, -, i, hi, hij⟩
        exact hij.closed (fun _ _ => f.closed h hall) hi
    · rw [ih (f.next h)]
      simp only [f.testBit_all h]
      constructor
      · rintro ⟨m, hm, k, hk | ⟨i, hi, hik⟩, hkj⟩
        · exact ⟨m, Nat.le_succ_of_le hm, k, hk, hkj⟩
        · exact ⟨m + 1, Nat.succ_le_succ hm, i, hi, k, hik, hkj⟩
      · rintro ⟨m, hm, i, hi, hij⟩
        cases m with
        | zero => exact ⟨0, Nat.zero_le _, i, .inl hi, hij⟩
        | succ m =>
          obtain ⟨k, hik, hkj⟩ := hij
          exact ⟨m, Nat.le_of_succ_le_succ hm, k, .inr ⟨i, hi, hik⟩, hkj⟩

/-- Each round but the last one sees a new place, so the rounds suffice. -/
theorem testBit_endsOfMany (h : Moves length R move) (f : Frontier length R seen newest)
    {ends : Nat} (hends : ∀ j, ends.testBit j ↔
      ∃ i, seen.testBit i ∧ newest.testBit i = false ∧ R i j)
    (hrounds : length + 1 < n + Place.count length seen) (j : Nat) :
    (Plan.endsOfMany move n seen newest ends).testBit j ↔
      ∃ m i, seen.testBit i ∧ Turns R (m + 1) i j := by
  induction n generalizing seen newest ends with
  | zero =>
    have hcount := Place.count_le length seen
    omega
  | succ n ih =>
    have hmore (j : Nat) : (ends ||| move newest).testBit j ↔ ∃ i, seen.testBit i ∧ R i j := by
      rw [Nat.testBit_or, Bool.or_eq_true, hends, h.testBit_iff newest f.inside_newest]
      constructor
      · rintro (⟨i, hi, -, hij⟩ | ⟨i, hi, hij⟩)
        · exact ⟨i, hi, hij⟩
        · exact ⟨i, f.newest_seen i hi, hij⟩
      · rintro ⟨i, hi, hij⟩
        cases hnew : newest.testBit i with
        | true => exact .inr ⟨i, hnew, hij⟩
        | false => exact .inl ⟨i, hi, hnew, hij⟩
    rw [Plan.endsOfMany]
    split
    · rename_i hall
      rw [hmore]
      constructor
      · rintro ⟨i, hi, hij⟩
        exact ⟨0, i, hi, j, hij, rfl⟩
      · rintro ⟨m, i, hi, hij⟩
        obtain ⟨k, hik, hkj⟩ := hij.last
        exact ⟨k, hik.closed (fun _ _ => f.closed h hall) hi, hkj⟩
    · rename_i hall
      have hgrows := Place.count_lt (f.next h).inside
        (fun i hi => (f.testBit_all h i).mpr (.inl hi)) hall
      have hends' (j : Nat) : (ends ||| move newest).testBit j ↔
          ∃ i, (seen ||| move newest).testBit i ∧
            ((seen ||| move newest) ^^^ seen).testBit i = false ∧ R i j := by
        rw [hmore]
        constructor
        · rintro ⟨i, hi, hij⟩
          exact ⟨i, (f.testBit_all h i).mpr (.inl hi), (f.testBit_new h i).mpr fun _ => hi, hij⟩
        · rintro ⟨i, hi, hnot, hij⟩
          exact ⟨i, (f.testBit_new h i).mp hnot hi, hij⟩
      rw [ih (f.next h) hends' (by omega)]
      simp only [f.testBit_all h]
      constructor
      · rintro ⟨m, k, hk | ⟨i, hi, hik⟩, hkj⟩
        · exact ⟨m, k, hk, hkj⟩
        · exact ⟨m + 1, i, hi, k, hik, hkj⟩
      · rintro ⟨m, i, hi, hij⟩
        exact ⟨m, i, .inl hi, hij⟩

end

namespace Moves

theorem many (h : Moves length R move) :
    Moves length (fun i j => ∃ m, Turns R (m + 1) i j) (Plan.many move length) where
  stays := by
    rintro i j hi ⟨m, hij⟩
    exact (h.repeated (m + 1)).stays i j hi hij
  testBit_iff := by
    intro starts hstarts j
    have hends (j : Nat) : (0 : Nat).testBit j ↔
        ∃ i, starts.testBit i ∧ starts.testBit i = false ∧ R i j := by
      rw [Nat.zero_testBit]
      exact iff_of_false Bool.false_ne_true fun ⟨_, hi, hnot, _⟩ => by rw [hi] at hnot; cases hnot
    rw [Plan.many, testBit_endsOfMany h (.start hstarts) hends (by omega)]
    constructor
    · rintro ⟨m, i, hi, hij⟩
      exact ⟨i, hi, m, hij⟩
    · rintro ⟨i, hi, m, hij⟩
      exact ⟨m, i, hi, hij⟩

theorem reach (h : Moves length R move) (n : Nat) :
    Moves length (fun i j => ∃ m ≤ n, Turns R m i j)
      fun starts => Plan.reach move n starts starts where
  stays := by
    rintro i j hi ⟨m, -, hij⟩
    exact (h.repeated m).stays i j hi hij
  testBit_iff := by
    intro starts hstarts j
    rw [testBit_reach h (.start hstarts)]
    constructor
    · rintro ⟨m, hm, i, hi, hij⟩
      exact ⟨i, hi, m, hm, hij⟩
    · rintro ⟨i, hi, m, hm, hij⟩
      exact ⟨m, hm, i, hi, hij⟩

theorem atLeast (h : Moves length R move) (least : Nat) :
    Moves length (fun i j => ∃ n, least ≤ n ∧ Turns R n i j) fun starts =>
      match least with
      | 0 => starts ||| Plan.many move length starts
      | n + 1 => Plan.many move length (Plan.repeated move n starts) := by
  cases least with
  | zero =>
    refine (stay.either h.many).congr fun i j => ?_
    constructor
    · rintro (heq | ⟨m, hij⟩)
      · exact ⟨0, Nat.le_refl 0, heq⟩
      · exact ⟨m + 1, Nat.zero_le _, hij⟩
    · rintro ⟨n, -, hij⟩
      cases n with
      | zero => exact .inl hij
      | succ n => exact .inr ⟨n, hij⟩
  | succ least =>
    refine ((h.repeated least).both h.many).congr fun i j => ?_
    constructor
    · rintro ⟨k, hik, m, hkj⟩
      exact ⟨least + (m + 1), by omega, turns_add.mpr ⟨k, hik, hkj⟩⟩
    · rintro ⟨n, hn, hij⟩
      obtain ⟨m, rfl⟩ := Nat.exists_eq_add_of_le hn
      rw [Nat.add_assoc, Nat.add_comm 1] at hij
      obtain ⟨k, hik, hkj⟩ := turns_add.mp hij
      exact ⟨k, hik, m, hkj⟩

theorem between (h : Moves length R move) (least most : Nat) :
    Moves length (fun i j => ∃ n, least ≤ n ∧ n ≤ max least most ∧ Turns R n i j) fun starts =>
      Plan.reach move (most - least) (Plan.repeated move least starts)
        (Plan.repeated move least starts) := by
  refine ((h.repeated least).both (h.reach (most - least))).congr fun i j => ?_
  constructor
  · rintro ⟨k, hik, m, hm, hkj⟩
    exact ⟨least + m, by omega, by omega, turns_add.mpr ⟨k, hik, hkj⟩⟩
  · rintro ⟨n, hleast, hmost, hij⟩
    obtain ⟨m, rfl⟩ := Nat.exists_eq_add_of_le hleast
    obtain ⟨k, hik, hkj⟩ := turns_add.mp hij
    exact ⟨k, hik, m, by omega, hkj⟩

end Moves

/-! ## The matcher -/

/-- The plan of an expression leads to the places that the expression spans
to. -/
theorem moves_plan (text : List Char) (r : Regex) :
    Moves text.length (r.Spans text) ((r.plan text).ends text.length) := by
  induction r with
  | empty => exact Moves.stay
  | set s =>
    have hplaces (i : Nat) : (Place.bits (text.map s.mem)).testBit i ↔ text[i]?.any s.mem := by
      rw [Place.testBit_bits, List.getD_eq_getElem?_getD, List.getElem?_map]
      cases text[i]? <;> simp
    have hinside (i : Nat) (hi : (Place.bits (text.map s.mem)).testBit i) : i < text.length := by
      obtain ⟨c, hc, -⟩ := (Option.any_eq_true _ _).mp ((hplaces i).mp hi)
      exact (List.getElem?_eq_some_iff.mp hc).1
    exact (Moves.past hinside).congr fun i j => and_congr_right fun _ => hplaces i
  | assert a =>
    have hplaces (i : Nat) : (Place.bits ((Place.all text).map a.holds)).testBit i ↔
        (Place.all text)[i]?.any a.holds := by
      rw [Place.testBit_bits, List.getD_eq_getElem?_getD, List.getElem?_map]
      cases (Place.all text)[i]? <;> simp
    exact (Moves.within _).congr fun i j => and_congr_right fun _ => hplaces i
  | cat r s ihr ihs => exact ihr.both ihs
  | alt r s ihr ihs => exact ihr.either ihs
  | times r least most ih =>
    cases most with
    | none =>
      refine (ih.atLeast least).congr fun i j => ?_
      simp [Spans]
    | some most =>
      refine (ih.between least most).congr fun i j => ?_
      simp [Spans]
  | group _ r ih => exact ih

/-- The matcher finds an expression in a text if and only if the expression
spans some part of it. -/
theorem found_iff (r : Regex) (text : String) :
    r.found text = true ↔
      ∃ i j, i ≤ text.toList.length ∧ r.Spans text.toList i j := by
  have hstarts : Inside text.toList.length (Place.firsts (text.toList.length + 1)) := by
    intro i hi
    rw [Place.testBit_firsts] at hi
    exact Nat.le_of_lt_succ (of_decide_eq_true hi)
  have hends := (moves_plan text.toList r).testBit_iff _ hstarts
  have hfound : r.found text = true ↔
      ∃ j, ((r.plan text.toList).ends text.toList.length
        (Place.firsts (text.toList.length + 1))).testBit j := by
    rw [found, bne_iff_ne]
    constructor
    · intro hne
      by_contra hnone
      exact hne (Nat.zero_of_testBit_eq_false fun j => by simpa using not_exists.mp hnone j)
    · rintro ⟨j, hj⟩ hzero
      rw [hzero, Nat.zero_testBit] at hj
      cases hj
  rw [hfound]
  simp only [hends, Place.testBit_firsts, decide_eq_true_eq, Nat.lt_succ_iff]
  exact exists_comm

end Regex

end EntityStore
