import Mathlib

/-! # The order of single precision

    Two numbers of single precision are ordered, one way or the other, unless one of them is none.
    Sums and products of numbers that are not negative are such numbers again, also when they are
    too great to be told from infinity: only an infinite difference, or nothing times infinity, is
    not a number.
-/

namespace ReportDesk.Decimal

open Float.Model (UnpackedFloat Format)
open Float.Model.UnpackedFloat (Sign)

/-! ### Signs -/

/-- The sign of a number, if it is one. -/
def sign? : UnpackedFloat → Option Sign
  | .notANumber => none
  | .infinity sign => some sign
  | .zero sign => some sign
  | .finite sign _ _ _ => some sign

section

variable (format : Format)

/-- The components of a number have its sign. Only those of no number have the greatest exponent
    with something behind it. -/
theorem sign?_unpack_packComponents (sign : Sign) {exponent : BitVec format.exponentBits}
    {mantissa : BitVec format.mantissaBitsWithoutImplicit}
    (h : exponent ≠ -BitVec.ofNat format.exponentBits 1 ∨
      mantissa = BitVec.ofNat format.mantissaBitsWithoutImplicit 0) :
    sign? (UnpackedFloat.unpack format
      (UnpackedFloat.packComponents format sign exponent mantissa)) = some sign := by
  unfold UnpackedFloat.unpack
  simp only [UnpackedFloat.unpackExponent_packComponents,
    UnpackedFloat.unpackMantissa_packComponents, UnpackedFloat.unpackSign_packComponents,
    Sign.ofBitVec_toBitVec]
  split_ifs with hexponent hmantissa
  · rfl
  · exact absurd hexponent (h.resolve_right hmantissa)
  · rfl
  · rfl
  · rfl

/-- An exponent that does not reach the greatest one is not the greatest one. -/
theorem ofNat_ne_neg_one {n : Nat} (h : n + 1 < 2 ^ format.exponentBits) :
    BitVec.ofNat format.exponentBits n ≠ -BitVec.ofNat format.exponentBits 1 := by
  have hone : 1 < 2 ^ format.exponentBits := Nat.one_lt_two_pow format.he.ne'
  rw [ne_eq, ← BitVec.toNat_inj, BitVec.toNat_ofNat, BitVec.toNat_neg, BitVec.toNat_ofNat,
    Nat.mod_eq_of_lt hone, Nat.mod_eq_of_lt (by omega), Nat.mod_eq_of_lt (by omega)]
  omega

/-- A number keeps its sign when it is stored. -/
theorem sign?_unpack_pack (x : UnpackedFloat) :
    sign? (UnpackedFloat.unpack format (UnpackedFloat.pack format x)) = sign? x := by
  cases x with
  | notANumber => simp [UnpackedFloat.pack, UnpackedFloat.unpack_packedNaN]
  | infinity sign => exact sign?_unpack_packComponents format sign (.inr rfl)
  | zero sign => exact sign?_unpack_packComponents format sign (.inr rfl)
  | finite sign m e hm =>
    have hone : 1 < 2 ^ format.exponentBits := Nat.one_lt_two_pow format.he.ne'
    unfold UnpackedFloat.pack
    dsimp only
    split_ifs with hlarge
    · exact sign?_unpack_packComponents format sign (.inr rfl)
    · exact sign?_unpack_packComponents format sign (.inl (ofNat_ne_neg_one format (by omega)))
    · exact sign?_unpack_packComponents format sign (.inl (ofNat_ne_neg_one format (by omega)))

theorem sign?_roundWithAccuracy (sign : Sign) (m : Nat) (e : Int) (a : UnpackedFloat.Accuracy) :
    sign? (UnpackedFloat.roundWithAccuracy format sign m e a) = some sign := by
  unfold UnpackedFloat.roundWithAccuracy
  dsimp only
  split_ifs <;> rfl

theorem sign?_normalize_ne_none (m e : Int) :
    sign? (UnpackedFloat.normalize format m e .positive) ≠ none := by
  unfold UnpackedFloat.normalize
  split
  · simp [UnpackedFloat.round, sign?_roundWithAccuracy]
  · simp [sign?]
  · simp [UnpackedFloat.round, sign?_roundWithAccuracy]

theorem sign?_normalize_of_nonneg {m : Int} (h : 0 ≤ m) (e : Int) :
    sign? (UnpackedFloat.normalize format m e .positive) = some .positive := by
  unfold UnpackedFloat.normalize
  split
  · next hlt => exact absurd (Int.compare_eq_lt.mp hlt) (by omega)
  · rfl
  · simp [UnpackedFloat.round, sign?_roundWithAccuracy]

theorem sign?_add {x y : UnpackedFloat} (hx : sign? x = some .positive)
    (hy : sign? y = some .positive) :
    sign? (UnpackedFloat.add format x y) = some .positive := by
  cases x <;> cases y <;> simp only [sign?, Option.some.injEq, reduceCtorEq] at hx hy
  all_goals subst hx hy
  all_goals try rfl
  -- two numbers that are neither zero nor infinite
  exact sign?_normalize_of_nonneg format
    (Int.add_nonneg (Int.natCast_nonneg _) (Int.natCast_nonneg _)) _

theorem sign?_mul {x : UnpackedFloat} (hx : sign? x = some .positive) {m : Nat} {e : Int}
    (hm : 0 < m) :
    sign? (UnpackedFloat.mul format x (.finite .positive m e hm)) = some .positive := by
  cases x <;> simp only [sign?, Option.some.injEq, reduceCtorEq] at hx <;> subst hx
  · rfl
  · rfl
  · exact sign?_roundWithAccuracy format _ _ _ _

theorem sign?_ofScientific (n : Nat) :
    sign? (UnpackedFloat.ofScientific format n 0) = some .positive := by
  unfold UnpackedFloat.ofScientific
  split_ifs with hzero hlarge hsmall hexponent
  · rfl
  · rfl
  · rfl
  · exact sign?_mul format rfl _
  · exact absurd (le_refl 0) hexponent

theorem sign?_sub_ne_none {y : UnpackedFloat} (hy : sign? y ≠ none) {m : Nat} {e : Int}
    (hm : 0 < m) :
    sign? (UnpackedFloat.sub format (.finite .positive m e hm) y) ≠ none := by
  cases y with
  | notANumber => exact absurd rfl hy
  | infinity sign => simp [UnpackedFloat.sub, sign?]
  | zero sign => simp [UnpackedFloat.sub, sign?]
  | finite sign n f hn => exact sign?_normalize_ne_none format _ _

end

/-! ### Order -/

theorem compare_swap (x y : UnpackedFloat) : y.compare x = (x.compare y).map Ordering.swap := by
  -- kinds and signs decide, but between two numbers of one sign
  cases x with
  | notANumber => cases y <;> rfl
  | infinity sign =>
    cases y with
    | notANumber => cases sign <;> rfl
    | infinity sign' => cases sign <;> cases sign' <;> rfl
    | zero sign' => cases sign <;> rfl
    | finite sign' => cases sign <;> cases sign' <;> rfl
  | zero sign =>
    cases y with
    | notANumber => rfl
    | infinity sign' => cases sign' <;> rfl
    | zero sign' => rfl
    | finite sign' => cases sign' <;> rfl
  | finite sign m e =>
    cases y with
    | notANumber => cases sign <;> rfl
    | infinity sign' => cases sign <;> cases sign' <;> rfl
    | zero sign' => cases sign <;> rfl
    | finite sign' n f =>
      have he : compare f e = (compare e f).swap := Std.OrientedCmp.eq_swap
      have hm : compare n m = (compare m n).swap := Std.OrientedCmp.eq_swap
      cases sign <;> cases sign' <;> simp [UnpackedFloat.compare, Ordering.swap_then, he, hm]

theorem compare_ne_none {x y : UnpackedFloat} (hx : sign? x ≠ none) (hy : sign? y ≠ none) :
    x.compare y ≠ none := by
  cases x with
  | notANumber => exact absurd rfl hx
  | infinity sign =>
    cases y with
    | notANumber => exact absurd rfl hy
    | infinity sign' => simp [UnpackedFloat.compare]
    | zero sign' => cases sign <;> simp [UnpackedFloat.compare]
    | finite sign' => cases sign <;> simp [UnpackedFloat.compare]
  | zero sign =>
    cases y with
    | notANumber => exact absurd rfl hy
    | infinity sign' => cases sign' <;> simp [UnpackedFloat.compare]
    | zero sign' => simp [UnpackedFloat.compare]
    | finite sign' => cases sign' <;> simp [UnpackedFloat.compare]
  | finite sign =>
    cases y with
    | notANumber => exact absurd rfl hy
    | infinity sign' => cases sign' <;> simp [UnpackedFloat.compare]
    | zero sign' => cases sign <;> simp [UnpackedFloat.compare]
    | finite sign' => cases sign <;> cases sign' <;> simp [UnpackedFloat.compare]

/-! ### Single precision -/

/-- Whether a value is a number. -/
def IsNumber (x : Float32) : Prop :=
  sign? x.toModel.unpack ≠ none

/-- Whether a value is a number that is not negative, or infinite. -/
def IsUnsigned (x : Float32) : Prop :=
  sign? x.toModel.unpack = some .positive

/-- Whether a value is a number greater than zero and not infinite. -/
def isMeasure (x : Float32) : Bool :=
  match x.toModel.unpack with
  | .finite .positive _ _ _ => true
  | _ => false

variable {x y : Float32}

theorem exists_unpack_of_isMeasure (h : isMeasure x = true) :
    ∃ m e hm, x.toModel.unpack = .finite .positive m e hm := by
  unfold isMeasure at h
  split at h
  · next m e hm heq => exact ⟨m, e, hm, heq⟩
  · cases h

theorem IsUnsigned.isNumber (h : IsUnsigned x) : IsNumber x := by
  unfold IsNumber
  rw [h]
  simp

theorem isUnsigned_of_isMeasure (h : isMeasure x = true) : IsUnsigned x := by
  obtain ⟨m, e, hm, hunpack⟩ := exists_unpack_of_isMeasure h
  rw [IsUnsigned, hunpack]
  rfl

theorem IsUnsigned.add (hx : IsUnsigned x) (hy : IsUnsigned y) : IsUnsigned (x + y) :=
  (sign?_unpack_pack _ _).trans (sign?_add _ hx hy)

theorem IsUnsigned.mul (hx : IsUnsigned x) (hy : isMeasure y = true) : IsUnsigned (x * y) := by
  obtain ⟨m, e, hm, hunpack⟩ := exists_unpack_of_isMeasure hy
  refine (sign?_unpack_pack .binary32 _).trans ?_
  rw [hunpack]
  exact sign?_mul _ hx hm

theorem isNumber_sub (hx : isMeasure x = true) (hy : IsUnsigned y) : IsNumber (x - y) := by
  obtain ⟨m, e, hm, hunpack⟩ := exists_unpack_of_isMeasure hx
  have hsub : sign? (x - y).toModel.unpack =
      sign? (UnpackedFloat.sub .binary32 x.toModel.unpack y.toModel.unpack) :=
    sign?_unpack_pack .binary32 _
  rw [IsNumber, hsub, hunpack]
  exact sign?_sub_ne_none _ hy.isNumber hm

theorem isUnsigned_ofNat (n : Nat) : IsUnsigned (Float32.ofNat n) := by
  have hofNat : Float32.ofNat n = Float32.ofScientific n false 0 := rfl
  rw [hofNat, Float32.ofScientific]
  split
  · -- a number that is stored as it is
    have hone : isMeasure Float32.exactlyRepresentablePowersOfTen[0] = true := by decide +kernel
    refine IsUnsigned.mul ?_ hone
    exact (sign?_unpack_pack .binary32 _).trans
      (sign?_normalize_of_nonneg .binary32 (Int.natCast_nonneg _) _)
  · exact (sign?_unpack_pack .binary32 _).trans (sign?_ofScientific .binary32 n)

/-- Of two numbers one is at most the other, if it is not greater. -/
theorem le_of_not_lt (hx : IsNumber x) (hy : IsNumber y) (h : ¬ x < y) : y ≤ x := by
  obtain ⟨order, horder⟩ := Option.ne_none_iff_exists'.mp (compare_ne_none hx hy)
  have hlt : order ≠ .lt := by
    rintro rfl
    have hless : x.toModel.unpack.lt y.toModel.unpack = true := by
      rw [UnpackedFloat.lt, horder]
      rfl
    exact h (decide_eq_true hless)
  have hswap : y.toModel.unpack.compare x.toModel.unpack = some order.swap := by
    rw [compare_swap, horder]
    rfl
  have hle : y.toModel.unpack.le x.toModel.unpack = true := by
    rw [UnpackedFloat.le, hswap]
    cases order <;> simp_all
  exact decide_eq_true hle

end ReportDesk.Decimal
