-- Whole numbers as doubles. A double has room for 53 binary digits, so a whole
-- number with no more of them becomes a double and comes back as it was. Of more
-- digits the first 53 stay, rounded by those that are cut off, so a larger number
-- never becomes a smaller double, and two become the same one only where digits are
-- cut off.
import EntityStore.Proofs.Value.Stored
import Mathlib

namespace EntityStore.Doubles

open Float.Model Float.Model.UnpackedFloat

/-! ## Digits -/

theorem log2_mul_pow {m : Nat} (hm : 0 < m) (k : Nat) : (m * 2 ^ k).log2 = m.log2 + k := by
  have hpow := Nat.two_pow_pos k
  obtain ⟨hle, hlt⟩ := (Nat.log2_eq_iff (Nat.ne_of_gt hm)).mp rfl
  rw [Nat.log2_eq_iff (Nat.ne_of_gt (Nat.mul_pos hm hpow)), Nat.pow_add, Nat.add_right_comm,
    Nat.pow_add]
  exact ⟨Nat.mul_le_mul_right _ hle, Nat.mul_lt_mul_of_pos_right hlt hpow⟩

theorem shiftRight_succ (em : ExtendedMantissa) (k : Nat) :
    em >>> (k + 1) = (em >>> k).shiftRightOne := rfl

/-- Zeros at the end are shifted out without a trace. -/
theorem shiftRight_zeros (m k : Nat) :
    (⟨m * 2 ^ k, false, false⟩ : ExtendedMantissa) >>> k = ⟨m, false, false⟩ := by
  induction k generalizing m with
  | zero => simp [HShiftRight.hShiftRight, Nat.repeat]
  | succ k ih =>
    have hm : m * 2 ^ (k + 1) = m * 2 * 2 ^ k := by rw [Nat.pow_succ', Nat.mul_assoc]
    rw [shiftRight_succ, hm, ih, ExtendedMantissa.shiftRightOne]
    simp

/-! ## Numbers of 53 digits -/

section

variable {m : Nat} {e : Int}

theorem shiftToTarget_zeros (hdigits : m.log2 = 52) (hpos : 0 < m) (hlow : -1074 ≤ e) (k : Nat) :
    shiftToTargetExponent .binary64 (m * 2 ^ k) (e - k) .exact = (⟨m, false, false⟩, e) := by
  have htarget : Format.targetExponent .binary64 (totalExponent (m * 2 ^ k) (e - k)) = e := by
    rw [totalExponent, log2_mul_pow hpos, hdigits]
    simp only [Format.targetExponent, Format.mantissaBits, Format.minExponent]
    omega
  have hshift : (e - (e - (k : Int))).toNat = k := by omega
  rw [shiftToTargetExponent, htarget, shiftToExponent]
  simp only [hshift]
  exact Prod.ext (shiftRight_zeros m k) (Int.sub_add_cancel e k)

theorem shiftToTarget_self (hdigits : m.log2 = 52) (hpos : 0 < m) (hlow : -1074 ≤ e) :
    shiftToTargetExponent .binary64 m e .exact = (⟨m, false, false⟩, e) := by
  have hshift := shiftToTarget_zeros hdigits hpos hlow 0
  rwa [Nat.pow_zero, Nat.mul_one, Int.natCast_zero, Int.sub_zero] at hshift

/-- A number that has 53 digits and zeros behind them is rounded to itself. -/
theorem round_zeros (hdigits : m.log2 = 52) (hpos : 0 < m) (hlow : -1074 ≤ e) (s : Sign) (k : Nat) :
    roundWithAccuracy .binary64 s (m * 2 ^ k) (e - k) .exact = .finite s m e hpos := by
  have hfirst := shiftToTarget_zeros hdigits hpos hlow k
  have hsecond := shiftToTarget_self hdigits hpos hlow
  have hrounded : (⟨m, false, false⟩ : ExtendedMantissa).roundedMantissa = m := rfl
  rw [roundWithAccuracy, hfirst]
  simp only [hrounded, hsecond]
  rw [dif_neg (Nat.ne_of_gt hpos)]

theorem toNat_append_one (m : BitVec 52) : (1#1 ++ m).toNat = 2 ^ 52 + m.toNat := by
  rw [BitVec.toNat_append, ← Nat.shiftLeft_add_eq_or_of_lt m.isLt]
  rfl

/-- The bits of a number of 53 digits: its sign, its exponent and its digits
without the first one. -/
theorem pack_finite (hdigits : m.log2 = 52) (hpos : 0 < m) (hlow : -1074 ≤ e) (hhigh : e < 972)
    (s : Sign) :
    UnpackedFloat.pack .binary64 (.finite s m e hpos) =
      packComponents .binary64 s (BitVec.ofNat 11 (e + 1075).toNat) (BitVec.ofNat 52 m) := by
  have hbias : Format.binary64.exponentBias = 1023 := rfl
  have hbiased : (e + (Format.binary64.exponentBias : Int) + (52 : Nat)).toNat =
      (e + 1075).toNat := by omega
  rw [UnpackedFloat.pack]
  simp only [hbiased]
  rw [if_neg (by omega), if_pos (by rw [hdigits]; rfl)]

/-- A number of 53 digits is the same in the bits of a double, as long as its
exponent has room in them. -/
theorem unpack_pack (hdigits : m.log2 = 52) (hpos : 0 < m) (hlow : -1074 ≤ e) (hhigh : e < 972) :
    (Float.Model.pack (.finite .positive m e hpos)).unpack = .finite .positive m e hpos := by
  obtain ⟨hle, hlt⟩ := (Nat.log2_eq_iff (Nat.ne_of_gt hpos)).mp hdigits
  have hbias : Format.binary64.exponentBias = 1023 := rfl
  have hexponent : (BitVec.ofNat 11 (e + 1075).toNat).toNat = (e + 1075).toNat := by
    rw [BitVec.toNat_ofNat, Nat.mod_eq_of_lt (by omega)]
  have hne : ∀ c : BitVec 11, c.toNat ≠ (e + 1075).toNat →
      BitVec.ofNat 11 (e + 1075).toNat ≠ c := by
    rintro c hc rfl
    exact hc hexponent
  have hmantissa : (1#1 ++ BitVec.ofNat 52 m).toNat = m := by
    rw [toNat_append_one, BitVec.toNat_ofNat]
    omega
  show UnpackedFloat.unpack .binary64 (UnpackedFloat.pack .binary64 _) = _
  rw [pack_finite hdigits hpos hlow hhigh, UnpackedFloat.unpack]
  simp only [unpackMantissa_packComponents, unpackExponent_packComponents,
    unpackSign_packComponents]
  -- The exponent is neither that of infinity nor that of zero.
  rw [if_neg (hne _ (by show 2047 ≠ (e + 1075).toNat; omega)),
    if_neg (hne _ (by show 0 ≠ (e + 1075).toNat; omega))]
  simp only [hexponent, hmantissa]
  congr 1
  omega

end

/-! ## Whole numbers -/

section

variable {n : Nat}

theorem digits_pos (hpos : 0 < n) : 0 < n * 2 ^ (52 - n.log2) :=
  Nat.mul_pos hpos (Nat.two_pow_pos _)

/-- A whole number with 53 digits. -/
def whole (n : Nat) (hpos : 0 < n) : UnpackedFloat :=
  .finite .positive (n * 2 ^ (52 - n.log2)) (n.log2 - 52) (digits_pos hpos)

theorem log2_lt (hpos : 0 < n) (hn : n < 2 ^ 53) : n.log2 < 53 :=
  (Nat.log2_lt (Nat.ne_of_gt hpos)).mpr hn

theorem log2_digits (hpos : 0 < n) (hn : n < 2 ^ 53) : (n * 2 ^ (52 - n.log2)).log2 = 52 := by
  have := log2_lt hpos hn
  rw [log2_mul_pow hpos]
  omega

theorem unpack_pack_whole (hpos : 0 < n) (hn : n < 2 ^ 53) :
    (Float.Model.pack (whole n hpos)).unpack = whole n hpos := by
  have := log2_lt hpos hn
  exact unpack_pack (log2_digits hpos hn) (digits_pos hpos) (by omega) (by omega)

theorem ofNat_eq_whole (hpos : 0 < n) (hn : n < 2 ^ 53) :
    UnpackedFloat.ofNat .binary64 n = whole n hpos := by
  have hlog := log2_lt hpos hn
  have hgt : compare (n : Int) 0 = .gt := Int.compare_eq_gt.mpr (Int.natCast_pos.mpr hpos)
  have htarget : Format.targetExponent .binary64 (totalExponent n 0) = n.log2 - 52 := by
    simp only [Format.targetExponent, Format.mantissaBits, Format.minExponent, totalExponent]
    omega
  have hshift : (0 - ((n.log2 : Int) - 52)).toNat = 52 - n.log2 := by omega
  have hexponent : (0 : Int) - (52 - n.log2 : Nat) = n.log2 - 52 := by omega
  have hround := round_zeros (log2_digits hpos hn) (digits_pos hpos)
    (show -1074 ≤ (n.log2 : Int) - 52 by omega) .positive 0
  rw [Nat.pow_zero, Nat.mul_one, Int.natCast_zero, Int.sub_zero] at hround
  rw [UnpackedFloat.ofNat, UnpackedFloat.ofInt, UnpackedFloat.normalize, hgt]
  simp only [UnpackedFloat.round, Int.toNat_natCast, htarget, decreaseExponent, hshift, hexponent,
    Nat.shiftLeft_eq]
  exact hround

theorem mul_one_whole (hpos : 0 < n) (hn : n < 2 ^ 53) :
    UnpackedFloat.mul .binary64 (whole n hpos) (whole 1 Nat.one_pos) = whole n hpos := by
  have := log2_lt hpos hn
  exact round_zeros (log2_digits hpos hn) (digits_pos hpos)
    (show -1074 ≤ (n.log2 : Int) - 52 by omega) .positive 52

theorem toUInt64_whole (hpos : 0 < n) (hn : n < 2 ^ 53) : (whole n hpos).toUInt64.toNat = n := by
  have hlog := log2_lt hpos hn
  have hup : ((n.log2 : Int) - 52 - 0).toNat = 0 := by omega
  have hdown : (0 - ((n.log2 : Int) - 52 - (0 : Nat))).toNat = 52 - n.log2 := by omega
  have hint : (whole n hpos).toInt 0 (UInt64.size - 1) = n := by
    rw [whole, UnpackedFloat.toInt, roundToInt]
    simp only [decreaseExponent, hup, shiftToExponent, hdown, Nat.shiftLeft_zero]
    exact congrArg (fun em => (em.mantissa : Int)) (shiftRight_zeros n (52 - n.log2))
  have hsize : n < UInt64.size := Nat.lt_trans hn (by decide)
  rw [UnpackedFloat.toUInt64, hint, Int.toNat_natCast, UInt64.ofNatClamp_eq_ofNat n hsize]
  exact UInt64.toNat_ofNat_of_lt hsize

/-- A double is read off a whole number by way of one times it. -/
theorem ofInt_eq_whole (hpos : 0 < n) (hn : n < 2 ^ 53) :
    Float.ofInt n = ⟨Float.Model.pack (whole n hpos)⟩ := by
  have hone : (Float.ofBits 0x3FF0000000000000).toModel =
      Float.Model.pack (whole 1 Nat.one_pos) := by decide
  have hword : n.toUInt64.toNat = n := UInt64.toNat_ofNat_of_lt (Nat.lt_trans hn (by decide))
  have hfloat : n.toUInt64.toFloat = ⟨Float.Model.pack (whole n hpos)⟩ := by
    rw [UInt64.toFloat, Float.Model.ofUInt64, UnpackedFloat.ofUInt64, hword, ofNat_eq_whole hpos hn]
  have hscientific : Float.ofInt n = Float.ofScientific n false 0 := rfl
  rw [hscientific, Float.ofScientific, dif_pos ⟨hn, by decide⟩]
  show n.toUInt64.toFloat * Float.ofBits 0x3FF0000000000000 = _
  rw [hfloat]
  show Float.ofModel (Float.Model.pack (UnpackedFloat.mul .binary64
    (Float.Model.pack (whole n hpos)).unpack (Float.ofBits 0x3FF0000000000000).toModel.unpack)) = _
  rw [hone, unpack_pack_whole hpos hn, unpack_pack_whole Nat.one_pos (by decide),
    mul_one_whole hpos hn]

theorem ofInt_pos (hpos : 0 < n) (hn : n < 2 ^ 53) : Float.ofInt n > 0.0 := by
  have hzero : (0.0 : Float).toModel = Float.Model.pack (.zero .positive) := by decide
  have hunpack : (Float.Model.pack (.zero .positive)).unpack = .zero .positive := rfl
  rw [ofInt_eq_whole hpos hn]
  show decide ((0.0 : Float).toModel.unpack.lt
    (Float.Model.pack (whole n hpos)).unpack = true) = true
  rw [hzero, hunpack, unpack_pack_whole hpos hn]
  rfl

theorem toUInt64_ofInt (hpos : 0 < n) (hn : n < 2 ^ 53) : (Float.ofInt n).toUInt64.toNat = n := by
  rw [ofInt_eq_whole hpos hn]
  show (Float.Model.pack (whole n hpos)).unpack.toUInt64.toNat = n
  rw [unpack_pack_whole hpos hn, toUInt64_whole hpos hn]

end

/-! ## Cutting off digits -/

/-- The weight of digits with others cut off behind them, in quarters. The first
digit that is cut off counts as a half, and any further one as a quarter. -/
def weight (em : ExtendedMantissa) : Nat :=
  4 * em.mantissa + 2 * em.roundBit.toNat + em.stickyBit.toNat

variable {em em' : ExtendedMantissa}

theorem weight_shiftRightOne (em : ExtendedMantissa) :
    weight em.shiftRightOne = 2 * em.mantissa + (em.roundBit || em.stickyBit).toNat := by
  have hround : (em.mantissa % 2 != 0).toNat = em.mantissa % 2 := by
    rcases Nat.mod_two_eq_zero_or_one em.mantissa with h | h <;> rw [h] <;> rfl
  rw [weight, ExtendedMantissa.shiftRightOne]
  simp only [hround]
  omega

theorem weight_shiftRightOne_le (h : weight em ≤ weight em') :
    weight em.shiftRightOne ≤ weight em'.shiftRightOne := by
  obtain ⟨m, r, s⟩ := em
  obtain ⟨m', r', s'⟩ := em'
  rw [weight_shiftRightOne, weight_shiftRightOne]
  cases r <;> cases s <;> cases r' <;> cases s' <;> simp_all [weight] <;> omega

/-- Digits that weigh less do so after as many of them are cut off. -/
theorem weight_shiftRight_le (h : weight em ≤ weight em') (k : Nat) :
    weight (em >>> k) ≤ weight (em' >>> k) := by
  induction k with
  | zero => exact h
  | succ k ih => exact weight_shiftRightOne_le ih

theorem mantissa_shiftRight (em : ExtendedMantissa) (k : Nat) :
    (em >>> k).mantissa = em.mantissa / 2 ^ k := by
  induction k with
  | zero => exact (Nat.div_one _).symm
  | succ k ih =>
    rw [shiftRight_succ, ExtendedMantissa.shiftRightOne, ih, Nat.div_div_eq_div_mul, Nat.pow_succ]

/-- Rounding follows the weight. -/
theorem roundedMantissa_le (h : weight em ≤ weight em') :
    em.roundedMantissa ≤ em'.roundedMantissa := by
  obtain ⟨m, r, s⟩ := em
  obtain ⟨m', r', s'⟩ := em'
  cases r <;> cases s <;> cases r' <;> cases s' <;>
    simp_all [weight, ExtendedMantissa.roundedMantissa, ExtendedMantissa.accuracy,
      Accuracy.roundToNearestEven] <;> omega

/-- Rounding gives the digits that stay, or the number behind them. -/
theorem roundedMantissa_bounds (em : ExtendedMantissa) :
    em.mantissa ≤ em.roundedMantissa ∧ em.roundedMantissa ≤ em.mantissa + 1 := by
  obtain ⟨m, r, s⟩ := em
  cases r <;> cases s <;>
    simp [ExtendedMantissa.roundedMantissa, ExtendedMantissa.accuracy,
      Accuracy.roundToNearestEven]
  omega

/-! ## The digits of a whole number -/

variable {n n' : Nat}

/-- The first 53 digits of a whole number, with what is cut off behind them. -/
def leading (n : Nat) : ExtendedMantissa :=
  (⟨n * 2 ^ 53, false, false⟩ : ExtendedMantissa) >>> (n.log2 + 1)

/-- The place of a whole number among the doubles from zero on. The exponent and
the digits make one number, so digits that are rounded up to a power of two make
the exponent one larger. -/
def place (n : Nat) : Nat :=
  if n = 0 then 0 else (n.log2 + 1022) * 2 ^ 52 + (leading n).roundedMantissa

theorem mantissa_leading_bounds (hpos : 0 < n) :
    2 ^ 52 ≤ (leading n).mantissa ∧ (leading n).mantissa < 2 ^ 53 := by
  obtain ⟨hle, hlt⟩ := (Nat.log2_eq_iff (Nat.ne_of_gt hpos)).mp rfl
  have hmantissa : (leading n).mantissa = n * 2 ^ 53 / 2 ^ (n.log2 + 1) := mantissa_shiftRight _ _
  rw [hmantissa, Nat.le_div_iff_mul_le (Nat.two_pow_pos _),
    Nat.div_lt_iff_lt_mul (Nat.two_pow_pos _)]
  rw [Nat.pow_succ] at hlt ⊢
  omega

theorem rounded_bounds (hpos : 0 < n) :
    2 ^ 52 ≤ (leading n).roundedMantissa ∧ (leading n).roundedMantissa ≤ 2 ^ 53 := by
  have := mantissa_leading_bounds hpos
  have := roundedMantissa_bounds (leading n)
  omega

theorem place_of_pos (hpos : 0 < n) :
    place n = (n.log2 + 1022) * 2 ^ 52 + (leading n).roundedMantissa :=
  if_neg (Nat.ne_of_gt hpos)

theorem log2_le (hpos : 0 < n) (h : n ≤ n') : n.log2 ≤ n'.log2 :=
  (Nat.le_log2 (Nat.ne_of_gt (Nat.lt_of_lt_of_le hpos h))).mpr
    (Nat.le_trans (Nat.log2_self_le (Nat.ne_of_gt hpos)) h)

/-- A larger number never has an earlier place. -/
theorem place_le (h : n ≤ n') : place n ≤ place n' := by
  rcases Nat.eq_zero_or_pos n with rfl | hpos
  · exact Nat.zero_le _
  have hpos' := Nat.lt_of_lt_of_le hpos h
  have hn := rounded_bounds hpos
  have hn' := rounded_bounds hpos'
  rw [place_of_pos hpos, place_of_pos hpos']
  rcases Nat.eq_or_lt_of_le (log2_le hpos h) with heq | hlt
  · -- As many digits are cut off from both.
    have hweight : weight (leading n) ≤ weight (leading n') := by
      rw [leading, leading, heq]
      refine weight_shiftRight_le ?_ _
      simp only [weight]
      omega
    have := roundedMantissa_le hweight
    omega
  · omega

theorem digits_zeros (hlog : n.log2 < 53) :
    n * 2 ^ (52 - n.log2) * 2 ^ (n.log2 + 1) = n * 2 ^ 53 := by
  rw [Nat.mul_assoc, ← Nat.pow_add]
  congr 2
  omega

/-- A number of at most 53 digits loses none of them. -/
theorem rounded_of_lt (hpos : 0 < n) (hn : n < 2 ^ 53) :
    (leading n).roundedMantissa = n * 2 ^ (52 - n.log2) := by
  rw [leading, ← digits_zeros (log2_lt hpos hn), shiftRight_zeros]
  rfl

/-- As long as no digit is cut off, a larger number has a later place. -/
theorem place_lt (h : n < n') (hn' : n' ≤ 2 ^ 53) : place n < place n' := by
  have hpos' : 0 < n' := by omega
  have hbounds' := rounded_bounds hpos'
  rcases Nat.eq_zero_or_pos n with rfl | hpos
  · rw [place_of_pos hpos', place, if_pos rfl]
    omega
  have hn : n < 2 ^ 53 := by omega
  have hlog := log2_lt hpos hn
  have hrounded := rounded_of_lt hpos hn
  rw [place_of_pos hpos, place_of_pos hpos']
  rcases Nat.eq_or_lt_of_le (log2_le hpos (Nat.le_of_lt h)) with heq | hlt
  · have hless : n' < 2 ^ 53 := (Nat.log2_lt (Nat.ne_of_gt hpos')).mp (heq ▸ hlog)
    have hmul := Nat.mul_lt_mul_of_pos_right h (Nat.two_pow_pos (52 - n'.log2))
    rw [hrounded, rounded_of_lt hpos' hless, heq]
    omega
  · have hless : (leading n).roundedMantissa < 2 ^ 53 := by
      have hdigits := log2_digits hpos hn
      rw [hrounded]
      exact (Nat.log2_lt (Nat.ne_of_gt (digits_pos hpos))).mp (by omega)
    omega

/-! ## Rounding -/

theorem shiftToTarget_leading (hpos : 0 < n) :
    shiftToTargetExponent .binary64 (n * 2 ^ 53) (-53) .exact =
      (leading n, (n.log2 : Int) - 52) := by
  have htarget : Format.targetExponent .binary64 (totalExponent (n * 2 ^ 53) (-53)) =
      n.log2 - 52 := by
    rw [totalExponent, log2_mul_pow hpos]
    simp only [Format.targetExponent, Format.mantissaBits, Format.minExponent]
    omega
  have hshift : ((n.log2 : Int) - 52 - -53).toNat = n.log2 + 1 := by omega
  rw [shiftToTargetExponent, htarget, shiftToExponent]
  simp only [hshift]
  refine Prod.ext rfl ?_
  show (-53 : Int) + (n.log2 + 1 : Nat) = n.log2 - 52
  omega

/-- A whole number is rounded to 53 digits that tell its place. -/
theorem round_leading (hpos : 0 < n) (hn : n < 2 ^ 64) :
    ∃ (m : Nat) (e : Int) (hm : 0 < m), m.log2 = 52 ∧ -1074 ≤ e ∧ e < 972 ∧
      (e + 1074).toNat * 2 ^ 52 + m = place n ∧
      roundWithAccuracy .binary64 .positive (n * 2 ^ 53) (-53) .exact =
        .finite .positive m e hm := by
  have hlog : n.log2 < 64 := (Nat.log2_lt (Nat.ne_of_gt hpos)).mpr hn
  obtain ⟨hle, hge⟩ := rounded_bounds hpos
  have hround : ∀ (m : Nat) (e : Int) (hm : 0 < m),
      shiftToTargetExponent .binary64 (leading n).roundedMantissa (n.log2 - 52) .exact =
        (⟨m, false, false⟩, e) →
      roundWithAccuracy .binary64 .positive (n * 2 ^ 53) (-53) .exact =
        .finite .positive m e hm := by
    intro m e hm hshift
    rw [roundWithAccuracy, shiftToTarget_leading hpos]
    simp only [hshift]
    rw [dif_neg (Nat.ne_of_gt hm)]
  rcases Nat.eq_or_lt_of_le hge with htop | hlt
  · -- The digits are a power of two, and one more of them is cut off.
    refine ⟨2 ^ 52, n.log2 - 51, Nat.two_pow_pos 52, Nat.log2_two_pow, by omega, by omega, ?_,
      hround _ _ _ ?_⟩
    · rw [place_of_pos hpos, htop]
      omega
    · have hshift := shiftToTarget_zeros (m := 2 ^ 52) (e := n.log2 - 51) Nat.log2_two_pow
        (Nat.two_pow_pos 52) (by omega) 1
      rw [htop]
      rw [show (n.log2 : Int) - 51 - (1 : Nat) = n.log2 - 52 by omega] at hshift
      exact hshift
  · have hpositive : 0 < (leading n).roundedMantissa := by omega
    have hdigits : (leading n).roundedMantissa.log2 = 52 :=
      (Nat.log2_eq_iff (Nat.ne_of_gt hpositive)).mpr ⟨hle, hlt⟩
    refine ⟨_, n.log2 - 52, hpositive, hdigits, by omega, by omega, ?_, hround _ _ _ ?_⟩
    · rw [place_of_pos hpos]
      omega
    · exact shiftToTarget_self hdigits hpositive (by omega)

/-- A whole number becomes a double by one rounding, however many digits it has. -/
theorem ofInt_eq_round (hpos : 0 < n) :
    Float.ofInt n = ⟨Float.Model.pack
      (roundWithAccuracy .binary64 .positive (n * 2 ^ 53) (-53) .exact)⟩ := by
  by_cases hn : n < 2 ^ 53
  · have hlog := log2_lt hpos hn
    have hround := round_zeros (log2_digits hpos hn) (digits_pos hpos)
      (show -1074 ≤ (n.log2 : Int) - 52 by omega) .positive (n.log2 + 1)
    rw [digits_zeros hlog, show (n.log2 : Int) - 52 - (n.log2 + 1 : Nat) = -53 by omega] at hround
    rw [hround, ofInt_eq_whole hpos hn]
    rfl
  · have hscientific : Float.ofInt n = Float.ofScientific n false 0 := rfl
    have hmul : UnpackedFloat.ofScientific .binary64 n 0 =
        roundWithAccuracy .binary64 .positive (n * 2 ^ 53) (-53) .exact := by
      have hexponents : (2 : Int) ^ Format.binary64.exponentBits = 2048 := rfl
      rw [UnpackedFloat.ofScientific, dif_neg (Nat.ne_of_gt hpos), hexponents, if_neg (by omega),
        if_neg (by omega), if_pos (Int.le_refl 0)]
      have hmantissa : n <<< Format.binary64.mantissaBits * 10 ^ (0 : Int).toNat = n * 2 ^ 53 := by
        rw [Nat.shiftLeft_eq]
        exact Nat.mul_one _
      rw [UnpackedFloat.mul, hmantissa]
      rfl
    rw [hscientific, Float.ofScientific, dif_neg (fun h => hn h.1)]
    show Float.ofModel (Float.Model.pack (UnpackedFloat.ofScientific .binary64 n 0)) = _
    rw [hmul]

/-! ## Places in the order of doubles -/

theorem toNat_pack_finite {m : Nat} {e : Int} (hdigits : m.log2 = 52) (hpos : 0 < m)
    (hlow : -1074 ≤ e) (hhigh : e < 972) (s : Sign) :
    (UnpackedFloat.pack .binary64 (.finite s m e hpos)).toNat =
      s.toBitVec.toNat * 2 ^ 63 + ((e + 1074).toNat * 2 ^ 52 + m) := by
  obtain ⟨hle, hlt⟩ := (Nat.log2_eq_iff (Nat.ne_of_gt hpos)).mp hdigits
  rw [pack_finite hdigits hpos hlow hhigh, packComponents, BitVec.toNat_append,
    BitVec.toNat_append, ← Nat.shiftLeft_add_eq_or_of_lt (BitVec.isLt _),
    ← Nat.shiftLeft_add_eq_or_of_lt (BitVec.isLt _), BitVec.toNat_ofNat, BitVec.toNat_ofNat,
    Nat.shiftLeft_eq, Nat.shiftLeft_eq, Nat.mod_eq_of_lt (by omega)]
  show (s.toBitVec.toNat * 2 ^ 11 + (e + 1075).toNat) * 2 ^ 52 + m % 2 ^ 52 = _
  omega

theorem rank_eq (x : Float) : Decimal.rank x =
    if 2 ^ 63 ≤ x.toBits.toNat then 2 ^ 63 - (x.toBits.toNat : Int) - 1
    else (x.toBits.toNat : Int) := by
  have hlt := x.toBits.toNat_lt
  unfold Decimal.rank Decimal.magnitudeBits Decimal.isNegative
  rw [shiftRight_beq_one]
  simp only [decide_eq_true_eq]
  split <;> split <;> omega

/-- The bits of a whole number and of its negative are its place, with a sign. -/
theorem toBits_ofInt (hpos : 0 < n) (hn : n < 2 ^ 64) :
    (Float.ofInt n).toBits.toNat = place n ∧
      (Float.ofInt n).neg.toBits.toNat = 2 ^ 63 + place n := by
  obtain ⟨m, e, hm, hdigits, hlow, hhigh, hplace, hround⟩ := round_leading hpos hn
  have hpack : Float.ofInt n = ⟨Float.Model.pack (.finite .positive m e hm)⟩ := by
    rw [ofInt_eq_round hpos, hround]
  have hneg : (Float.ofInt n).neg = ⟨Float.Model.pack (.finite .negative m e hm)⟩ := by
    rw [hpack]
    show Float.ofModel (Float.Model.pack
      (Float.Model.pack (.finite .positive m e hm)).unpack.neg) = _
    rw [unpack_pack hdigits hm hlow hhigh]
    rfl
  rw [hneg, hpack, ← hplace]
  have hbits := toNat_pack_finite hdigits hm hlow hhigh
  exact ⟨(hbits .positive).trans (Nat.zero_add _), hbits .negative⟩

theorem place_bound (hn : n < 2 ^ 64) : place n < 2 ^ 63 := by
  rcases Nat.eq_zero_or_pos n with rfl | hpos
  · decide
  have := rounded_bounds hpos
  have : n.log2 < 64 := (Nat.log2_lt (Nat.ne_of_gt hpos)).mpr hn
  rw [place_of_pos hpos]
  omega

variable {a b : Int}

/-- In the order of doubles a whole number stands at its place, and below zero the
places run the other way. -/
theorem rank_ofInt (hlow : -2 ^ 64 < a) (hhigh : a < 2 ^ 64) :
    Decimal.rank (Float.ofInt a) =
      if a < 0 then -(place a.natAbs : Int) - 1 else place a.natAbs := by
  cases a with
  | ofNat n =>
    rw [Int.ofNat_eq_natCast] at hhigh ⊢
    rw [if_neg (by omega), Int.natAbs_natCast]
    rcases Nat.eq_zero_or_pos n with rfl | hpos
    · decide
    have hn : n < 2 ^ 64 := by omega
    have := place_bound hn
    obtain ⟨hbits, -⟩ := toBits_ofInt hpos hn
    rw [rank_eq, hbits, if_neg (by omega)]
  | negSucc n =>
    have hn : n + 1 < 2 ^ 64 := by omega
    have := place_bound hn
    have hneg : Float.ofInt (Int.negSucc n) = (Float.ofInt (n + 1 : Nat)).neg := rfl
    obtain ⟨-, hbits⟩ := toBits_ofInt (Nat.add_one_pos n) hn
    rw [rank_eq, hneg, hbits, if_pos (by omega), if_pos (by omega), Int.natAbs_negSucc,
      Nat.succ_eq_add_one]
    omega

/-- A larger whole number never becomes an earlier double. -/
theorem rank_ofInt_le (h : a ≤ b) (ha : -2 ^ 63 ≤ a) (hb : b < 2 ^ 63) :
    Decimal.rank (Float.ofInt a) ≤ Decimal.rank (Float.ofInt b) := by
  rw [rank_ofInt (by omega) (by omega), rank_ofInt (by omega) (by omega)]
  split
  · split
    · have := place_le (show b.natAbs ≤ a.natAbs by omega)
      omega
    · omega
  · have := place_le (show a.natAbs ≤ b.natAbs by omega)
    rw [if_neg (by omega)]
    omega

/-- Up to the first number of 54 digits, a larger whole number becomes a later
double. -/
theorem rank_ofInt_lt (h : a < b) (ha : -2 ^ 53 ≤ a) (hb : b ≤ 2 ^ 53) :
    Decimal.rank (Float.ofInt a) < Decimal.rank (Float.ofInt b) := by
  rw [rank_ofInt (by omega) (by omega), rank_ofInt (by omega) (by omega)]
  split
  · split
    · have := place_lt (show b.natAbs < a.natAbs by omega) (by omega)
      omega
    · omega
  · have := place_lt (show a.natAbs < b.natAbs by omega) (by omega)
    rw [if_neg (by omega)]
    omega

end EntityStore.Doubles
