import Mathlib
import ReportDesk.Decimal.Layout

/-! # The sizes of shortest decimals

    Which numbers are written without an exponent depends on the first digit of their shortest
    decimal. That decimal is seldom the number itself, and it can lie on the other side of a power
    of ten. It does so only where the power itself rounds to the number. Neither `10^-5` nor `10^16`
    rounds to a smaller number, so with these two as the bounds the size of the number alone
    decides.
-/

namespace ReportDesk.Decimal

/-! ### Powers of ten -/

theorem ten_zpow_le_iff {j k : Int} : (10 : ℚ) ^ j ≤ 10 ^ k ↔ j ≤ k :=
  zpow_le_zpow_iff_right₀ (by norm_num)

theorem ten_zpow_lt_iff {j k : Int} : (10 : ℚ) ^ j < 10 ^ k ↔ j < k :=
  zpow_lt_zpow_iff_right₀ (by norm_num)

theorem ten_pow_mul_zpow (n : Nat) (e : Int) :
    ((10 ^ n : ℕ) : ℚ) * 10 ^ e = 10 ^ ((n : Int) + e) := by
  rw [zpow_add₀ (by norm_num), zpow_natCast]
  norm_cast

/-- A power with a whole exponent, as a fraction of two with natural ones. -/
theorem zpow_mul_pow {b : Nat} (hb : b ≠ 0) (e : Int) :
    (b : ℚ) ^ e * (Nat.pow b (-e).toNat : ℕ) = (Nat.pow b e.toNat : ℕ) := by
  have hsum : e + ((-e).toNat : Int) = e.toNat := by omega
  have hb' : (b : ℚ) ≠ 0 := by exact_mod_cast hb
  simp only [Nat.pow_eq, Nat.cast_pow]
  rw [← zpow_natCast, ← zpow_add₀ hb', hsum, zpow_natCast]

theorem ten_zpow_mul (e : Int) :
    (10 : ℚ) ^ e * (Nat.pow 10 (-e).toNat : ℕ) = (Nat.pow 10 e.toNat : ℕ) :=
  zpow_mul_pow (b := 10) (by decide) e

/-- The number of digits of a number, by the powers of ten around it. -/
theorem ten_pow_le_of_length {n len : Nat} (hn : 0 < n)
    (hlen : (Nat.toDigits 10 n).length = len + 1) : 10 ^ len ≤ n ∧ n < 10 ^ (len + 1) := by
  refine ⟨?_, (Nat.length_toDigits_le_iff (by decide) len.succ_pos).mp hlen.le⟩
  rcases Nat.eq_zero_or_pos len with rfl | hpos
  · exact hn
  · by_contra hsmall
    have hshort := (Nat.length_toDigits_le_iff (by decide) hpos).mpr (not_le.mp hsmall)
    omega

/-- Ten is more than two three times doubled. -/
theorem four_mul_two_pow_le {j k : Nat} (h : j + 2 ≤ 3 * k) : 4 * 2 ^ j ≤ 10 ^ k := by
  calc 4 * 2 ^ j = 2 ^ (j + 2) := by ring
    _ ≤ 2 ^ (3 * k) := Nat.pow_le_pow_right (by decide) h
    _ = 8 ^ k := pow_mul 2 3 k
    _ ≤ 10 ^ k := Nat.pow_le_pow_left (by decide) k

theorem exists_length_toDigits (n : Nat) : ∃ len, (Nat.toDigits 10 n).length = len + 1 :=
  Nat.exists_eq_add_one.mpr Nat.length_toDigits_pos

/-! ### Sizes of decimals -/

namespace Digits

/-- The number that a decimal is. -/
def size (d : Digits) : ℚ :=
  d.digits * 10 ^ d.exponent

/-- The power of ten of the first digit. -/
def first (d : Digits) : Int :=
  d.exponent + (Nat.toDigits 10 d.digits).length - 1

/-- The first digit has the greatest power of ten that is no greater than the decimal. -/
theorem le_first_iff {d : Digits} (hsize : 0 < d.size) {k : Int} :
    k ≤ d.first ↔ (10 : ℚ) ^ k ≤ d.size := by
  obtain ⟨n, e⟩ := d
  have hten : (0 : ℚ) < 10 ^ e := by positivity
  have hn : 0 < n := by
    rw [size, mul_pos_iff_of_pos_right hten] at hsize
    exact_mod_cast hsize
  obtain ⟨len, hlen⟩ := exists_length_toDigits n
  obtain ⟨hlow, hhigh⟩ := ten_pow_le_of_length hn hlen
  have hfirst : first ⟨n, e⟩ = len + e := by
    rw [first, hlen]
    push_cast
    ring
  rw [hfirst, size]
  constructor
  · intro hk
    calc (10 : ℚ) ^ k ≤ 10 ^ (len + e) := ten_zpow_le_iff.mpr hk
      _ = (10 ^ len : ℕ) * 10 ^ e := (ten_pow_mul_zpow len e).symm
      _ ≤ n * 10 ^ e := by gcongr
  · intro hk
    have hbelow : (10 : ℚ) ^ k < 10 ^ (((len + 1 : ℕ) : Int) + e) := by
      calc (10 : ℚ) ^ k ≤ n * 10 ^ e := hk
        _ < (10 ^ (len + 1) : ℕ) * 10 ^ e := by gcongr
        _ = 10 ^ (((len + 1 : ℕ) : Int) + e) := ten_pow_mul_zpow (len + 1) e
    have hlt := ten_zpow_lt_iff.mp hbelow
    omega

/-- Zeros at the end are moved, not lost. -/
theorem size_trimmed (fuel : Nat) (d : Digits) : (trimmed fuel d).size = d.size := by
  induction fuel generalizing d with
  | zero => rfl
  | succ fuel ih =>
    unfold trimmed
    split
    · next hzero =>
      simp only [Bool.and_eq_true, decide_eq_true_eq] at hzero
      have hdigits : (d.digits : ℚ) = (d.digits / 10 : ℕ) * 10 := by
        exact_mod_cast (Nat.div_mul_cancel (Nat.dvd_of_mod_eq_zero hzero.1)).symm
      rw [ih, size, size, hdigits, zpow_add_one₀ (by norm_num)]
      ring
    · rfl

end Digits

/-! ### Where the search starts -/

/-- The count of leading zeros is the first power of ten that lifts a fraction to one. -/
theorem leadingZeros_spec {fuel n d : Nat} (hfuel : d ≤ n * 10 ^ fuel) :
    d ≤ n * 10 ^ leadingZeros fuel n d ∧ ∀ j < leadingZeros fuel n d, n * 10 ^ j < d := by
  induction fuel generalizing n with
  | zero => simpa [leadingZeros] using hfuel
  | succ fuel ih =>
    unfold leadingZeros
    split
    · next hge => simpa using hge
    · next hlt =>
      obtain ⟨hreached, hbefore⟩ := ih (n := n * 10) (by rw [mul_assoc, ← pow_succ']; exact hfuel)
      refine ⟨by rw [pow_succ', ← mul_assoc]; exact hreached, fun j hj => ?_⟩
      cases j with
      | zero => simpa using hlt
      | succ j =>
        rw [pow_succ', ← mul_assoc]
        exact hbefore j (by omega)

/-- The search starts at the power of ten of the number's first digit. -/
theorem leadingExponent_spec {n d : Nat} (hd : 0 < d) (hfuel : d ≤ n * 10 ^ 400) :
    (10 : ℚ) ^ leadingExponent n d ≤ n / d ∧ (n / d : ℚ) < 10 ^ (leadingExponent n d + 1) := by
  have hd' : (0 : ℚ) < d := by exact_mod_cast hd
  unfold leadingExponent
  rw [le_div_iff₀ hd', div_lt_iff₀ hd']
  split
  · next hge =>
    obtain ⟨len, hlen⟩ := exists_length_toDigits (n / d)
    obtain ⟨hlow, hhigh⟩ := ten_pow_le_of_length (Nat.div_pos hge hd) hlen
    have hexponent : ((Nat.toDigits 10 (n / d)).length : Int) - 1 = len := by omega
    rw [hexponent]
    constructor
    · exact_mod_cast (Nat.le_div_iff_mul_le hd).mp hlow
    · exact_mod_cast (Nat.div_lt_iff_lt_mul hd).mp hhigh
  · next hlt =>
    obtain ⟨hreached, hbefore⟩ := leadingZeros_spec hfuel
    generalize leadingZeros 400 n d = zeros at *
    cases zeros with
    | zero => omega
    | succ zeros =>
      have hpos : (0 : ℚ) < 10 ^ zeros := by positivity
      have hbelow := hbefore zeros (by omega)
      have hexponent : -((zeros + 1 : ℕ) : Int) + 1 = -(zeros : Int) := by omega
      rw [hexponent, zpow_neg, zpow_neg, zpow_natCast, zpow_natCast,
        inv_mul_le_iff₀ (by positivity), lt_inv_mul_iff₀ hpos]
      constructor
      · rw [mul_comm]
        exact_mod_cast hreached
      · rw [mul_comm]
        exact_mod_cast hbelow

/-! ### The search -/

namespace Interval

variable {i : Interval} {e : Int} {n : Nat}

/-- What numerators are multiplied by to be compared with decimals of a grid. -/
def scale (e : Int) : Nat :=
  Nat.pow 10 (-e).toNat

/-- A step of a grid, on its scale. -/
def step (i : Interval) (e : Int) : Nat :=
  i.denominator * Nat.pow 10 e.toNat

/-- The interval on the scale of a grid. -/
def scaled (i : Interval) (e : Int) : Interval :=
  { i with low := i.low * scale e, value := i.value * scale e, high := i.high * scale e }

theorem scale_pos (e : Int) : 0 < scale e :=
  Nat.pow_pos (by decide)

theorem step_pos (hden : 0 < i.denominator) (e : Int) : 0 < i.step e :=
  Nat.mul_pos hden (Nat.pow_pos (by decide))

theorem cast_step (i : Interval) (e : Int) :
    (i.step e : ℚ) = i.denominator * (10 ^ e * scale e) := by
  rw [step, scale, ten_zpow_mul, Nat.cast_mul]

/-- On its scale a grid is the grid of step `10^e`. -/
theorem mul_step_le_iff (hden : 0 < i.denominator) (n bound : Nat) (e : Int) :
    n * i.step e ≤ bound * scale e ↔ (n * 10 ^ e : ℚ) ≤ bound / i.denominator := by
  have hscale : (0 : ℚ) < scale e := by exact_mod_cast scale_pos e
  have hden' : (0 : ℚ) < i.denominator := by exact_mod_cast hden
  have hsteps : ((n * i.step e : ℕ) : ℚ) = n * 10 ^ e * i.denominator * scale e := by
    rw [Nat.cast_mul, cast_step]
    ring
  rw [← Nat.cast_le (α := ℚ), hsteps, Nat.cast_mul, le_div_iff₀ hden',
    mul_le_mul_iff_of_pos_right hscale]

theorem holds_le {j : Interval} {k : Nat} (h : j.holds k = true) : k ≤ j.high := by
  unfold holds at h
  split at h <;> simp only [Bool.and_eq_true, decide_eq_true_eq] at h
  · exact h.2
  · exact h.2.le

/-- What lies inside is in the interval, whether its ends are or not. -/
theorem holds_of_lt {j : Interval} {k : Nat} (hlow : j.low < k) (hhigh : k < j.high) :
    j.holds k = true := by
  unfold holds
  split <;> simp only [Bool.and_eq_true, decide_eq_true_eq]
  · exact ⟨hlow.le, hhigh.le⟩
  · exact ⟨hlow, hhigh⟩

/-- What is found on a grid is in the interval, and is one of the two neighbours of the number. -/
theorem of_onGrid? (h : i.onGrid? e = some n) :
    n * i.step e ≤ i.high * scale e ∧ i.value * scale e / i.step e ≤ n := by
  have hhigh : ∀ {k}, (i.scaled e).holds k = true → k ≤ i.high * scale e := holds_le
  unfold onGrid? at h
  dsimp only at h
  split at h
  · next hboth =>
    rw [Bool.and_eq_true] at hboth
    split at h <;> cases h
    · exact ⟨hhigh hboth.1, le_refl _⟩
    · exact ⟨hhigh hboth.2, Nat.le_succ _⟩
  · split at h
    · next hbelow =>
      cases h
      exact ⟨hhigh hbelow, le_refl _⟩
    · split at h
      · next habove =>
        cases h
        exact ⟨hhigh habove, Nat.le_succ _⟩
      · cases h

/-- What is found is no greater than the upper end. -/
theorem size_le_of_onGrid? (hden : 0 < i.denominator) (h : i.onGrid? e = some n) :
    (⟨n, e⟩ : Digits).size ≤ i.high / i.denominator :=
  (mul_step_le_iff hden n i.high e).mp (of_onGrid? h).1

/-- What is found is not below a power of ten that the number is not below: the power is on the
    grid too. -/
theorem le_size_of_onGrid? (hden : 0 < i.denominator) (h : i.onGrid? e = some n) {k : Int}
    (hk : e ≤ k) (hvalue : (10 : ℚ) ^ k ≤ i.value / i.denominator) :
    (10 : ℚ) ^ k ≤ (⟨n, e⟩ : Digits).size := by
  have hpower : (10 : ℚ) ^ k = (10 ^ (k - e).toNat : ℕ) * 10 ^ e := by
    rw [ten_pow_mul_zpow]
    congr 1
    omega
  rw [hpower] at hvalue
  have hfloor := (Nat.le_div_iff_mul_le (step_pos hden e)).mpr
    ((mul_step_le_iff hden _ _ e).mpr hvalue)
  have hle : 10 ^ (k - e).toNat ≤ n := hfloor.trans (of_onGrid? h).2
  rw [hpower, Digits.size]
  gcongr

/-- A step that is smaller than the upper half of the interval fits into it on the grid's scale. -/
theorem add_step_lt (hden : 0 < i.denominator)
    (hstep : (i.value / i.denominator + 10 ^ e : ℚ) < i.high / i.denominator) :
    i.value * scale e + i.step e < i.high * scale e := by
  have hden' : (0 : ℚ) < i.denominator := by exact_mod_cast hden
  have hscale : (0 : ℚ) < scale e := by exact_mod_cast scale_pos e
  rw [lt_div_iff₀ hden', add_mul, div_mul_cancel₀ _ hden'.ne',
    ← mul_lt_mul_iff_of_pos_right hscale] at hstep
  rw [← Nat.cast_lt (α := ℚ), Nat.cast_add, cast_step, Nat.cast_mul, Nat.cast_mul]
  calc (i.value * scale e + i.denominator * (10 ^ e * scale e) : ℚ)
      = (i.value + 10 ^ e * i.denominator) * scale e := by ring
    _ < i.high * scale e := hstep

/-- Something is found on a grid whose step is smaller than the upper half of the interval. -/
theorem isSome_onGrid? (hden : 0 < i.denominator) (hlow : i.low < i.value)
    (hstep : (i.value / i.denominator + 10 ^ e : ℚ) < i.high / i.denominator) :
    (i.onGrid? e).isSome := by
  -- the upper neighbour of the number is in the interval
  have habove : (i.scaled e).holds ((i.value * scale e / i.step e + 1) * i.step e) = true := by
    apply holds_of_lt
    · show i.low * scale e < _
      have hvalue : i.value * scale e < (i.value * scale e / i.step e + 1) * i.step e :=
        (Nat.div_lt_iff_lt_mul (step_pos hden e)).mp (Nat.lt_succ_self _)
      exact (Nat.mul_lt_mul_of_pos_right hlow (scale_pos e)).trans hvalue
    · show _ < i.high * scale e
      have hbelow := Nat.div_mul_le_self (i.value * scale e) (i.step e)
      have hroom := add_step_lt hden hstep
      rw [Nat.succ_mul]
      omega
  simp only [scaled, scale, step] at habove
  unfold onGrid?
  dsimp only
  rw [habove, Bool.and_true, if_pos rfl]
  split
  · split <;> rfl
  · rfl

/-- The search ends at a grid that has something, if there is one in its range. -/
theorem exists_search_eq (count : Nat) (h : ∃ j < count, (i.onGrid? (e - j)).isSome) :
    ∃ n e', i.search count e = ⟨n, e'⟩ ∧ i.onGrid? e' = some n ∧ e' ≤ e := by
  induction count generalizing e with
  | zero =>
    obtain ⟨j, hj, -⟩ := h
    exact absurd hj (Nat.not_lt_zero j)
  | succ count ih =>
    unfold search
    split
    · next n hn => exact ⟨n, e, rfl, hn, le_refl e⟩
    · next hnone =>
      have hrest : ∃ j < count, (i.onGrid? (e - 1 - j)).isSome := by
        obtain ⟨j, hj, hsome⟩ := h
        cases j with
        | zero => simp [hnone] at hsome
        | succ j =>
          refine ⟨j, by omega, ?_⟩
          rwa [show e - 1 - (j : Int) = e - (j + 1 : ℕ) by omega]
      obtain ⟨n, e', hsearch, hn, he⟩ := ih hrest
      exact ⟨n, e', hsearch, hn, by omega⟩

end Interval

/-! ### Doubles -/

theorem two_zpow_mul (q : Int) :
    (2 : ℚ) ^ q * (Nat.pow 2 (-q).toNat : ℕ) = (Nat.pow 2 q.toNat : ℕ) :=
  zpow_mul_pow (b := 2) (by decide) q

namespace Interval

theorem denominator_around_pos (m : Nat) (q : Int) : 0 < (around m q).denominator :=
  Nat.mul_pos (by decide) (Nat.pow_pos (by decide))

/-- A quarter of a unit is one over the denominator, times the scale. -/
theorem scaled_div_denominator (n m : Nat) (q : Int) :
    ((n * Nat.pow 2 q.toNat : ℕ) / (around m q).denominator : ℚ) = n / 4 * 2 ^ q := by
  have hden : ((around m q).denominator : ℚ) ≠ 0 := by
    exact_mod_cast (denominator_around_pos m q).ne'
  rw [div_eq_iff hden]
  simp only [around, Nat.cast_mul, ← two_zpow_mul q]
  push_cast
  ring

/-- The interval of a double is around it. -/
theorem value_around (m : Nat) (q : Int) :
    ((around m q).value / (around m q).denominator : ℚ) = m * 2 ^ q := by
  calc _ = ((4 * m : ℕ) / 4 * 2 ^ q : ℚ) := scaled_div_denominator (4 * m) m q
    _ = m * 2 ^ q := by
      push_cast
      ring

/-- The interval of a double reaches half a unit up. -/
theorem high_around (m : Nat) (q : Int) :
    ((around m q).high / (around m q).denominator : ℚ) = (m + 1 / 2) * 2 ^ q := by
  calc _ = ((4 * m + 2 : ℕ) / 4 * 2 ^ q : ℚ) := scaled_div_denominator (4 * m + 2) m q
    _ = (m + 1 / 2) * 2 ^ q := by
      push_cast
      ring

theorem low_around_lt {m : Nat} (hm : m ≠ 0) (q : Int) : (around m q).low < (around m q).value := by
  have hscale : 0 < Nat.pow 2 q.toNat := Nat.pow_pos (by decide)
  refine Nat.mul_lt_mul_of_pos_right ?_ hscale
  split <;> omega

end Interval

/-- What the significand and the exponent of a finite double can be. -/
structure IsDouble (m : Nat) (q : Int) : Prop where
  /-- The significand has 53 binary digits at most. -/
  significand_lt : m < 2 ^ 53
  /-- There is a least exponent. -/
  le_exponent : -1074 ≤ q
  /-- With any other exponent all of these digits are used. -/
  normal : q = -1074 ∨ 2 ^ 52 ≤ m

theorem isDouble_of_ofFloat {x : Float} {negative : Bool} {m : Nat} {q : Int}
    (h : Parts.ofFloat x = .finite negative m q) : IsDouble m q := by
  have hfraction : x.toBits.toNat % Nat.pow 2 52 < 2 ^ 52 := Nat.mod_lt _ (by decide)
  unfold Parts.ofFloat Parts.ofBits at h
  dsimp only at h
  split at h
  · split at h <;> cases h
  · split at h <;> cases h
    · exact ⟨hfraction.trans (by decide), le_refl _, .inl rfl⟩
    · refine ⟨?_, by omega, .inr (Nat.le_add_right _ _)⟩
      rw [Nat.pow_eq] at hfraction ⊢
      omega

variable {m : Nat} {q : Int}

/-- Counting leading zeros does not run out. -/
theorem Interval.denominator_around_le (h : IsDouble m q) (hm : m ≠ 0) :
    (around m q).denominator ≤ (around m q).value * 10 ^ 400 := by
  have hexponent : (-q).toNat + 2 ≤ 3 * 400 := by
    have hleast := h.le_exponent
    omega
  have hvalue : 1 ≤ (around m q).value := (low_around_lt hm q).pos
  exact (four_mul_two_pow_le hexponent).trans (Nat.le_mul_of_pos_left _ hvalue)

/-- Seventeen digits behind the first are finer than the interval. -/
theorem Interval.isSome_onGrid?_around (h : IsDouble m q) (hm : m ≠ 0) {first : Int}
    (hfirst : (10 : ℚ) ^ first ≤ m * 2 ^ q) :
    ((around m q).onGrid? (first - (17 : ℕ))).isSome := by
  apply isSome_onGrid? (denominator_around_pos m q) (low_around_lt hm q)
  have htwo : (0 : ℚ) < 2 ^ q := by positivity
  have hstep : (10 : ℚ) ^ (first - (17 : ℕ)) ≤ m * 2 ^ q / 10 ^ 17 := by
    rw [zpow_sub₀ (by norm_num), zpow_natCast]
    gcongr
  have hhalf : (m / 10 ^ 17 : ℚ) < 1 / 2 := by
    have hm' : (m : ℚ) < 2 ^ 53 := by exact_mod_cast h.significand_lt
    rw [div_lt_iff₀ (by norm_num)]
    exact hm'.trans (by norm_num)
  rw [value_around, high_around]
  calc (m * 2 ^ q + 10 ^ (first - (17 : ℕ)) : ℚ) ≤ m * 2 ^ q + m * 2 ^ q / 10 ^ 17 := by gcongr
    _ = m * 2 ^ q + m / 10 ^ 17 * 2 ^ q := by ring
    _ < m * 2 ^ q + 1 / 2 * 2 ^ q := by gcongr
    _ = (m + 1 / 2) * 2 ^ q := by ring

/-- The shortest decimal of a double is no less than any power of ten that the double is no less
    than, and it is no greater than what rounds to the double. -/
theorem shortest_spec (h : IsDouble m q) (hm : m ≠ 0) :
    (∀ k : Int, (10 : ℚ) ^ k ≤ m * 2 ^ q → (10 : ℚ) ^ k ≤ (shortest m q).size) ∧
      (shortest m q).size ≤ (m + 1 / 2) * 2 ^ q := by
  have hden := Interval.denominator_around_pos m q
  obtain ⟨hlow, hhigh⟩ := leadingExponent_spec hden (Interval.denominator_around_le h hm)
  rw [Interval.value_around] at hlow hhigh
  unfold shortest
  dsimp only
  generalize leadingExponent _ _ = first at *
  obtain ⟨n, e, hsearch, hn, he⟩ := Interval.exists_search_eq 18
    ⟨17, by decide, Interval.isSome_onGrid?_around h hm hlow⟩
  rw [hsearch, Digits.size_trimmed]
  constructor
  · intro k hk
    -- of the powers that the double is no less than, that of its first digit is the greatest
    have hfirst : k ≤ first := Int.lt_add_one_iff.mp (ten_zpow_lt_iff.mp (hk.trans_lt hhigh))
    have hsize := Interval.le_size_of_onGrid? hden hn he (by rwa [Interval.value_around])
    exact (ten_zpow_le_iff.mpr hfirst).trans hsize
  · have hsize := Interval.size_le_of_onGrid? hden hn
    rwa [Interval.high_around] at hsize

/-- The shortest decimal has its first digit where the double has its own, unless a power of ten
    above the double rounds to it. -/
theorem le_first_shortest_iff (h : IsDouble m q) (hm : m ≠ 0) {k : Int}
    (hgap : (m * 2 ^ q : ℚ) < 10 ^ k → ((m + 1 / 2) * 2 ^ q : ℚ) < 10 ^ k) :
    k ≤ (shortest m q).first ↔ (10 : ℚ) ^ k ≤ m * 2 ^ q := by
  obtain ⟨hlow, hhigh⟩ := shortest_spec h hm
  have hpos : 0 < (shortest m q).size := by
    have hdouble : (0 : ℚ) < m * 2 ^ q := by positivity
    obtain ⟨first, hfirst, -⟩ := exists_mem_Ico_zpow hdouble (by norm_num : (1 : ℚ) < 10)
    exact (zpow_pos (by norm_num) first).trans_le (hlow first hfirst)
  rw [Digits.le_first_iff hpos]
  constructor
  · intro hk
    -- else the power would lie between the double and its shortest decimal
    by_contra hsmall
    exact absurd (hk.trans hhigh) (not_le.mpr (hgap (not_le.mp hsmall)))
  · exact hlow k

/-- Above the least exponent a double is not small. -/
theorem IsDouble.le_of_exponent (h : IsDouble m q) {k : Int} (hleast : -1074 < k) (hk : k ≤ q) :
    (2 ^ 52 * 2 ^ k : ℚ) ≤ m * 2 ^ q := by
  have hm : (2 ^ 52 : ℚ) ≤ m := by
    rcases h.normal with rfl | hm
    · omega
    · exact_mod_cast hm
  have hunit : (2 : ℚ) ^ k ≤ 2 ^ q := zpow_le_zpow_right₀ (by norm_num) hk
  gcongr

/-- No double below a whole multiple of its unit is so near that the multiple rounds to it. -/
theorem gap_of_multiple {bound : ℚ} {n : Nat} (hbound : bound = n * 2 ^ q)
    (hlt : (m * 2 ^ q : ℚ) < bound) : ((m + 1 / 2) * 2 ^ q : ℚ) < bound := by
  have htwo : (0 : ℚ) < 2 ^ q := by positivity
  rw [hbound, mul_lt_mul_iff_of_pos_right htwo] at hlt ⊢
  have hnext : (m + 1 : ℚ) ≤ n := by exact_mod_cast hlt
  linarith

/-- `10^16` rounds to no smaller double: it is a multiple of the unit of any that is near. -/
theorem gap_sixteen (h : IsDouble m q) (hlt : (m * 2 ^ q : ℚ) < 10 ^ (16 : Int)) :
    ((m + 1 / 2) * 2 ^ q : ℚ) < 10 ^ (16 : Int) := by
  by_cases hq : q ≤ 16
  · refine gap_of_multiple (n := 5 ^ 16 * 2 ^ (16 - q).toNat) ?_ hlt
    have hsum : ((16 - q).toNat : Int) + q = 16 := by omega
    push_cast
    rw [← zpow_natCast 2, mul_assoc, ← zpow_add₀ (by norm_num), hsum]
    norm_num
  · -- a double with a unit as great as this is much greater
    have hgreat := h.le_of_exponent (k := 17) (by omega) (by omega)
    norm_num at hgreat hlt
    linarith

/-- `10^-5` rounds to no smaller double. It is not itself a double, but the nearest one is
    greater. -/
theorem gap_minus_five (h : IsDouble m q) (hlt : (m * 2 ^ q : ℚ) < 10 ^ (-5 : Int)) :
    ((m + 1 / 2) * 2 ^ q : ℚ) < 10 ^ (-5 : Int) := by
  rcases lt_trichotomy q (-69) with hq | rfl | hq
  · -- all doubles with a unit as small as this are much smaller
    have hm : (m + 1 / 2 : ℚ) ≤ 2 ^ 53 := by
      have hnext : (m + 1 : ℚ) ≤ 2 ^ 53 := by exact_mod_cast h.significand_lt
      linarith
    have hunit : (2 : ℚ) ^ q ≤ 2 ^ (-70 : Int) := zpow_le_zpow_right₀ (by norm_num) (by omega)
    calc ((m + 1 / 2) * 2 ^ q : ℚ) ≤ 2 ^ 53 * 2 ^ (-70 : Int) := by gcongr
      _ < 10 ^ (-5 : Int) := by norm_num
  · -- `10^-5` is between two significands, nearer to the upper one
    have hm : m ≤ 5902958103587056 := by
      by_contra hm
      have hnext : (5902958103587057 : ℚ) ≤ m := by exact_mod_cast not_le.mp hm
      have hgreat : (5902958103587057 * 2 ^ (-69 : Int) : ℚ) ≤ m * 2 ^ (-69 : Int) := by gcongr
      norm_num at hgreat hlt
      linarith
    have hm' : (m : ℚ) ≤ 5902958103587056 := by exact_mod_cast hm
    calc ((m + 1 / 2) * 2 ^ (-69 : Int) : ℚ)
        ≤ (5902958103587056 + 1 / 2) * 2 ^ (-69 : Int) := by gcongr
      _ < 10 ^ (-5 : Int) := by norm_num
  · -- and all with a greater unit are much greater
    have hgreat := h.le_of_exponent (k := -68) (by omega) (by omega)
    norm_num at hgreat hlt
    linarith

/-- The first digit of a shortest decimal is one of those from `10^-5` to `10^15` just when the
    double is from `10^-5` up to below `10^16`. -/
theorem first_shortest_mem_iff (h : IsDouble m q) (hm : m ≠ 0) :
    -5 ≤ (shortest m q).first ∧ (shortest m q).first ≤ 15 ↔
      (10 : ℚ) ^ (-5 : Int) ≤ m * 2 ^ q ∧ (m * 2 ^ q : ℚ) < 10 ^ (16 : Int) := by
  have hlow := le_first_shortest_iff h hm (gap_minus_five h)
  have hhigh := le_first_shortest_iff h hm (gap_sixteen h)
  rw [← not_le (b := (m * 2 ^ q : ℚ)), ← hlow, ← hhigh]
  omega

end ReportDesk.Decimal
