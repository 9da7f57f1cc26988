import ReportDesk.Decimal.Layout
import ReportDesk.Decimal.Words
import ReportDesk.Proofs.Decimal.Order

/-! # Whole numbers as doubles

    A whole number that fits a word is not too great for a double: it becomes a number near it, and
    not infinity. Of rounding it has to be known for this only how far it can move an exponent.
-/

namespace ReportDesk.Decimal

open Float.Model (UnpackedFloat Format)
open Float.Model.UnpackedFloat (Sign ExtendedMantissa Accuracy)

/-! ### Rounding -/

theorem mantissa_shiftRight_le (em : ExtendedMantissa) (n : Nat) :
    (em >>> n).mantissa ≤ em.mantissa := by
  show (n.repeat ExtendedMantissa.shiftRightOne em).mantissa ≤ em.mantissa
  induction n with
  | zero => exact le_refl _
  | succ n ih => exact (Nat.div_le_self _ 2).trans ih

theorem roundedMantissa_le (em : ExtendedMantissa) : em.roundedMantissa ≤ em.mantissa + 1 := by
  unfold ExtendedMantissa.roundedMantissa
  cases em.accuracy with
  | exact => exact Nat.le_succ _
  | inexact order =>
    cases order with
    | lt => exact Nat.le_succ _
    | eq =>
      show em.mantissa + em.mantissa % 2 ≤ em.mantissa + 1
      omega
    | gt => exact le_refl _

theorem log2_le {m k : Nat} (h : m ≤ 2 ^ k) : m.log2 ≤ k := by
  by_cases hm : m = 0
  · simp [hm]
  · have hlt : m < 2 ^ (k + 1) := h.trans_lt (Nat.pow_lt_pow_right (by omega) (by omega))
    exact Nat.lt_succ_iff.mp ((Nat.log2_lt hm).mpr hlt)

section

variable (format : Format)

/-- A shift to the exponent that a format asks for makes the significand no greater, and raises the
    exponent by no more than the number of binary digits that there are. -/
theorem shiftToTargetExponent_le {m k : Nat} {e : Int} (accuracy : Accuracy) (hm : m ≤ 2 ^ k)
    (he : format.minExponent ≤ e) :
    (UnpackedFloat.shiftToTargetExponent format m e accuracy).1.mantissa ≤ m ∧
      e ≤ (UnpackedFloat.shiftToTargetExponent format m e accuracy).2 ∧
      (UnpackedFloat.shiftToTargetExponent format m e accuracy).2 ≤ e + k := by
  have hlog : m.log2 ≤ k := log2_le hm
  have hbits : 1 ≤ format.mantissaBits := by
    unfold Format.mantissaBits
    omega
  refine ⟨?_, ?_, ?_⟩
  · refine (mantissa_shiftRight_le _ _).trans ?_
    cases accuracy with
    | exact => exact le_refl m
    | inexact order => cases order <;> exact le_refl m
  · simp only [UnpackedFloat.shiftToTargetExponent, UnpackedFloat.shiftToExponent]
    omega
  · simp only [UnpackedFloat.shiftToTargetExponent, UnpackedFloat.shiftToExponent,
      Format.targetExponent, Float.Model.totalExponent]
    omega

/-- Rounding raises an exponent by no more than twice the number of binary digits, and one. -/
theorem roundWithAccuracy_le (sign : Sign) {m k : Nat} {e : Int} (accuracy : Accuracy)
    (hm : m ≤ 2 ^ k) (he : format.minExponent ≤ e) :
    UnpackedFloat.roundWithAccuracy format sign m e accuracy = .zero sign ∨
      ∃ m' e' hm', UnpackedFloat.roundWithAccuracy format sign m e accuracy =
        .finite sign m' e' hm' ∧ e' ≤ e + (2 * k + 1) := by
  obtain ⟨hmantissa, hlow, hhigh⟩ := shiftToTargetExponent_le format accuracy hm he
  unfold UnpackedFloat.roundWithAccuracy
  dsimp only
  generalize UnpackedFloat.shiftToTargetExponent format m e accuracy = shifted at *
  -- the rounded significand may have a digit more, for which there is a second shift
  have hrounded : shifted.1.roundedMantissa ≤ 2 ^ (k + 1) := by
    have hpos : 1 ≤ 2 ^ k := Nat.one_le_two_pow
    have hone := roundedMantissa_le shifted.1
    rw [Nat.pow_succ]
    omega
  obtain ⟨-, -, hsecond⟩ :=
    shiftToTargetExponent_le format .exact hrounded (he.trans hlow)
  split
  · exact .inl rfl
  · next hne =>
    refine .inr ⟨_, _, Nat.pos_of_ne_zero hne, rfl, hsecond.trans ?_⟩
    push_cast
    omega

end

/-! ### Doubles -/

/-- A double is a number when its exponent field is not the greatest one. -/
theorem isFinite_of_unpackExponent {x : Float}
    (h : @UnpackedFloat.unpackExponent .binary64 x.toBits.toBitVec ≠ -1#11) :
    isFinite x = true := by
  have hfield : x.toBits.toNat / Nat.pow 2 52 % 2048 =
      (@UnpackedFloat.unpackExponent .binary64 x.toBits.toBitVec).toNat := by
    rw [UnpackedFloat.unpackExponent_def, BitVec.extractLsb'_toNat, Nat.shiftRight_eq_div_pow]
    rfl
  have hne : x.toBits.toNat / Nat.pow 2 52 % 2048 ≠ 2047 := by
    rw [hfield]
    intro heq
    exact h (BitVec.eq_of_toNat_eq heq)
  unfold isFinite Parts.ofFloat Parts.ofBits
  dsimp only
  rw [if_neg hne]
  split_ifs <;> rfl

/-- A zero, or a number whose exponent is not greater than the greatest there is, is stored as a
    number. -/
theorem isFinite_pack {u : UnpackedFloat} {sign : Sign}
    (h : u = .zero sign ∨ ∃ m e hm, u = .finite sign m e hm ∧ e ≤ 971) :
    isFinite (Float.ofModel (Float.Model.pack u)) = true := by
  apply isFinite_of_unpackExponent
  show UnpackedFloat.unpackExponent (UnpackedFloat.pack .binary64 u) ≠ -1#11
  rcases h with rfl | ⟨m, e, hm, rfl, he⟩
  · rw [UnpackedFloat.pack, UnpackedFloat.packedZero, UnpackedFloat.unpackExponent_packComponents]
    decide
  -- the exponent field is the exponent with a bias; all its bits set would say infinity
  · have hfits : (e + Format.binary64.exponentBias +
        Format.binary64.mantissaBitsWithoutImplicit).toNat + 1 <
          2 ^ Format.binary64.exponentBits := by
      have hbias : Format.binary64.exponentBias = 1023 := by decide
      rw [hbias]
      show (e + 1023 + 52).toNat + 1 < 2048
      omega
    unfold UnpackedFloat.pack
    dsimp only
    rw [if_neg (Nat.not_le.mpr hfits)]
    -- with all digits in the significand the field is stored as it is, and with fewer it is zero
    split_ifs
    · rw [UnpackedFloat.unpackExponent_packComponents]
      exact ofNat_ne_neg_one .binary64 hfits
    · rw [UnpackedFloat.unpackExponent_packComponents]
      decide

/-! ### Words -/

theorem fitsSigned_iff {n : Int} : fitsSigned n = true ↔ -signedLimit ≤ n ∧ n < signedLimit := by
  unfold fitsSigned
  rw [Bool.and_eq_true, decide_eq_true_eq]
  exact and_congr_right fun _ => decide_eq_true_iff

/-- A whole number becomes a double by rounding, once it is too great to be one as it is. -/
theorem ofScientific_eq {n : Nat} (h : n ≠ 0) :
    UnpackedFloat.ofScientific .binary64 n 0 =
      UnpackedFloat.roundWithAccuracy .binary64 .positive (n <<< 53 * 1) (-53) .exact := by
  unfold UnpackedFloat.ofScientific
  split_ifs with hzero hlarge hsmall hexponent
  · exact absurd hzero h
  · exact absurd hlarge (by decide)
  · simp only at hsmall
    omega
  · rfl
  · exact absurd (le_refl 0) hexponent

/-- A whole number that fits 64 bits without a sign, but not with one, is a number as a double. -/
theorem isFinite_ofInt {n : Int} (hlow : signedLimit ≤ n) (hhigh : n < unsignedLimit) :
    isFinite (Float.ofInt n) = true := by
  unfold signedLimit at hlow
  unfold unsignedLimit at hhigh
  obtain ⟨k, rfl⟩ := Int.eq_ofNat_of_zero_le (show 0 ≤ n by omega)
  have hgreat : ¬ (k < 2 ^ 53 ∧ 0 ≤ 22) := by omega
  have hofInt : Float.ofInt k =
      .ofModel (.pack (UnpackedFloat.ofScientific .binary64 k 0)) := by
    show Float.ofScientific k false 0 = _
    rw [Float.ofScientific, dif_neg hgreat]
    rfl
  -- 64 digits and 53 zeros behind them
  have hdigits : k <<< 53 * 1 ≤ 2 ^ 117 := by
    rw [Nat.shiftLeft_eq]
    omega
  have hleast : Format.binary64.minExponent ≤ -53 := by decide
  rw [hofInt, ofScientific_eq (by omega)]
  apply isFinite_pack
  rcases roundWithAccuracy_le .binary64 .positive .exact hdigits hleast with
    hzero | ⟨m, e, hm, hfinite, he⟩
  · exact .inl hzero
  · have hbound : e ≤ 971 := he.trans (by decide)
    exact .inr ⟨m, e, hm, hfinite, hbound⟩

end ReportDesk.Decimal
