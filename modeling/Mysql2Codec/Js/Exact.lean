import Mysql2Codec.Js.Float64

/-! # Exact rounding

Rounding leaves a representable value alone.  When `num / den` is `m * 2 ^ e` for a
significand `m` below `2 ^ 53` that is normal (at least `2 ^ 52`) or sits at the least
exponent `-1074`, `round` returns the double `±m * 2 ^ e`: its exponent search lands on `e` and
the division it rounds is exact.

The codec leans on this wherever a JS number carries an integer: a cursor, a length, the two
words of a 64-bit value and the double `Long` makes of them.
-/

namespace Mysql2Codec.Js.Float64

/-- `num / den = m * 2 ^ e`, in the shifted form of `scale`. -/
def IsScaled (num den m : Nat) (e : Int) : Prop := num <<< (-e).toNat = m * den <<< e.toNat

theorem IsScaled.pos {num den m : Nat} {e : Int} (scaled : IsScaled num den m e) (hden : 0 < den)
    (hm : 0 < m) : 0 < num := by
  rcases Nat.eq_zero_or_pos num with rfl | positive
  · have : m * den <<< e.toNat = 0 := by rw [← scaled, Nat.zero_shiftLeft]
    rw [Nat.shiftLeft_eq, Nat.mul_eq_zero, Nat.mul_eq_zero] at this
    have := Nat.two_pow_pos e.toNat
    omega
  · exact positive

/-- The bit lengths of `num` and `den` fix `e` up to one: `e - 1 ≤ e₀ ≤ e` for the first guess
`e₀` of `roundingExponent`, the upper bound needing only `m < 2 ^ 53`. -/
theorem IsScaled.exponent_le {num den m : Nat} {e : Int} (scaled : IsScaled num den m e)
    (hden : 0 < den) (hm : 0 < m) (upper : m < 2 ^ 53) :
    (bitLength num : Int) - bitLength den - 53 ≤ e := by
  have hnum := scaled.pos hden hm
  have lower := two_pow_bitLength_le hnum
  have top := lt_two_pow_bitLength den
  have grow : 2 ^ (bitLength num - 1 + (-e).toNat) < 2 ^ (53 + bitLength den + e.toNat) :=
    calc 2 ^ (bitLength num - 1 + (-e).toNat)
        = 2 ^ (bitLength num - 1) * 2 ^ (-e).toNat := pow_add _ _ _
      _ ≤ num * 2 ^ (-e).toNat := Nat.mul_le_mul_right _ lower
      _ = m * den * 2 ^ e.toNat := by
        rw [← Nat.shiftLeft_eq, scaled, Nat.shiftLeft_eq, Nat.mul_assoc]
      _ < 2 ^ 53 * 2 ^ bitLength den * 2 ^ e.toNat :=
        Nat.mul_lt_mul_of_pos_right (Nat.mul_lt_mul'' upper top) (Nat.two_pow_pos _)
      _ = 2 ^ (53 + bitLength den + e.toNat) := by rw [pow_add, pow_add]
  have := (Nat.pow_lt_pow_iff_right (by decide : 1 < 2)).1 grow
  omega

theorem IsScaled.exponent_ge {num den m : Nat} {e : Int} (scaled : IsScaled num den m e)
    (hden : 0 < den) (lower : 2 ^ 52 ≤ m) : e - 1 ≤ (bitLength num : Int) - bitLength den - 53 := by
  have hden' := two_pow_bitLength_le hden
  have top := lt_two_pow_bitLength num
  have one : 1 ≤ bitLength den := by
    rcases Nat.eq_zero_or_pos (bitLength den) with zero | _
    · have := lt_two_pow_bitLength den
      rw [zero] at this
      omega
    · omega
  have grow : 2 ^ (52 + (bitLength den - 1) + e.toNat) < 2 ^ (bitLength num + (-e).toNat) :=
    calc 2 ^ (52 + (bitLength den - 1) + e.toNat)
        = 2 ^ 52 * 2 ^ (bitLength den - 1) * 2 ^ e.toNat := by rw [pow_add, pow_add]
      _ ≤ m * den * 2 ^ e.toNat := Nat.mul_le_mul_right _ (Nat.mul_le_mul lower hden')
      _ = num * 2 ^ (-e).toNat := by
        rw [Nat.mul_assoc, ← Nat.shiftLeft_eq, ← scaled, Nat.shiftLeft_eq]
      _ < 2 ^ bitLength num * 2 ^ (-e).toNat := Nat.mul_lt_mul_of_pos_right top (Nat.two_pow_pos _)
      _ = 2 ^ (bitLength num + (-e).toNat) := (pow_add _ _ _).symm
  have := (Nat.pow_lt_pow_iff_right (by decide : 1 < 2)).1 grow
  omega

theorem shiftLeft_pos {n : Nat} (k : Nat) (positive : 0 < n) : 0 < n <<< k := by
  rw [Nat.shiftLeft_eq]
  exact Nat.mul_pos positive (Nat.two_pow_pos k)

/-- At its own exponent the scaled quotient is the significand. -/
theorem IsScaled.quotient {num den m : Nat} {e : Int} (scaled : IsScaled num den m e)
    (hden : 0 < den) : (scale num den e).1 / (scale num den e).2 = m := by
  show num <<< (-e).toNat / den <<< e.toNat = m
  rw [scaled, Nat.mul_div_cancel _ (shiftLeft_pos _ hden)]

/-- One exponent lower, the significand doubles. -/
theorem IsScaled.pred {num den m : Nat} {e : Int} (scaled : IsScaled num den m e) :
    IsScaled num den (2 * m) (e - 1) := by
  unfold IsScaled at *
  rcases le_or_lt 1 e with pos | nonpos
  · rw [show (-(e - 1)).toNat = (-e).toNat by omega, scaled, show e.toNat = (e - 1).toNat + 1 by omega,
      Nat.shiftLeft_add, Nat.shiftLeft_eq _ 1, Nat.shiftLeft_eq, pow_one]
    ac_rfl
  · rw [show (-(e - 1)).toNat = (-e).toNat + 1 by omega, Nat.shiftLeft_add, scaled,
      show (e - 1).toNat = e.toNat by omega, Nat.shiftLeft_eq _ 1, Nat.shiftLeft_eq, pow_one]
    ac_rfl

/-- The exponent search of `round` finds `e`. -/
theorem roundingExponent_of_scaled {num den m : Nat} {e : Int} (scaled : IsScaled num den m e)
    (hden : 0 < den) (hm : 0 < m) (upper : m < 2 ^ 53) (normal : 2 ^ 52 ≤ m ∨ e = -1074)
    (least : -1074 ≤ e) : roundingExponent num den = e := by
  have le := scaled.exponent_le hden hm upper
  simp only [roundingExponent]
  rcases le.eq_or_lt with same | below
  · rw [same, scaled.quotient hden, if_pos upper]
    omega
  · rcases normal with lower | least
    · have ge := scaled.exponent_ge hden lower
      rw [show (bitLength num : Int) - bitLength den - 53 = e - 1 by omega,
        scaled.pred.quotient hden, if_neg (by omega)]
      omega
    · split <;> omega

/-- The rounding of a fraction that is `m * 2 ^ e`: the double of that significand and exponent. -/
theorem roundReduced_of_scaled (negative : Bool) {num den m : Nat} {e : Int}
    (scaled : IsScaled num den m e) (hden : 0 < den) (hm : 0 < m) (upper : m < 2 ^ 53)
    (normal : 2 ^ 52 ≤ m ∨ e = -1074) (least : -1074 ≤ e) :
    roundReduced negative num den = ofSignificand negative m e := by
  have hdiv : (scale num den e).2 ∣ (scale num den e).1 :=
    ⟨m, (scaled : num <<< (-e).toNat = m * den <<< e.toNat).trans (Nat.mul_comm _ _)⟩
  unfold roundReduced
  rw [if_neg (scaled.pos hden hm).ne', roundingExponent_of_scaled scaled hden hm upper normal least,
    roundHalfEven_of_dvd hdiv (shiftLeft_pos _ hden), scaled.quotient hden]

theorem IsScaled.div_gcd {num den m : Nat} {e : Int} (scaled : IsScaled num den m e) {g : Nat}
    (hg : 0 < g) (gnum : g ∣ num) (gden : g ∣ den) : IsScaled (num / g) (den / g) m e := by
  obtain ⟨a, rfl⟩ := gnum
  obtain ⟨b, rfl⟩ := gden
  have scaled : g * a * 2 ^ (-e).toNat = m * (g * b * 2 ^ e.toNat) := by
    simpa only [IsScaled, Nat.shiftLeft_eq] using scaled
  rw [Nat.mul_div_cancel_left _ hg, Nat.mul_div_cancel_left _ hg, IsScaled, Nat.shiftLeft_eq,
    Nat.shiftLeft_eq]
  apply Nat.eq_of_mul_eq_mul_left hg
  rw [← Nat.mul_assoc, scaled]
  ac_rfl

/-- Rounding a fraction that is `m * 2 ^ e` gives the double of that significand and exponent. -/
theorem round_of_scaled (negative : Bool) {num den m : Nat} {e : Int}
    (scaled : IsScaled num den m e) (hden : 0 < den) (hm : 0 < m) (upper : m < 2 ^ 53)
    (normal : 2 ^ 52 ≤ m ∨ e = -1074) (least : -1074 ≤ e) :
    round negative num den = ofSignificand negative m e := by
  have hg := Nat.gcd_pos_of_pos_right num hden
  exact roundReduced_of_scaled negative
    (scaled.div_gcd hg (Nat.gcd_dvd_left num den) (Nat.gcd_dvd_right num den))
    (Nat.div_pos (Nat.le_of_dvd hden (Nat.gcd_dvd_right num den)) hg) hm upper normal least

/-- The double `±m * 2 ^ e` in the finite range: its sign, and its magnitude in units of
`2⁻¹⁰⁷⁴`. -/
theorem ofSignificand_value (negative : Bool) {m : Nat} {e : Int} (upper : m < 2 ^ 53)
    (normal : 2 ^ 52 ≤ m ∨ e = -1074) (least : -1074 ≤ e) (overflow : e < 972) :
    (ofSignificand negative m e).sign = negative ∧ (ofSignificand negative m e).biasedExponent < 2047 ∧
      (ofSignificand negative m e).magnitude = m <<< (e + 1074).toNat := by
  rcases Nat.lt_or_ge m (2 ^ 52) with small | lower
  · have least : e = -1074 := normal.resolve_left (by omega)
    subst least
    have subnormal : ofSignificand negative m (-1074) = ofFields negative 0 m := if_pos small
    simp only [subnormal, ofFields, dif_pos (show 0 < 2047 by decide), magnitude, significand,
      if_pos rfl, Nat.mod_eq_of_lt small]
    exact ⟨trivial, by decide, rfl⟩
  · obtain ⟨sign, exponent, magnitude⟩ := @ofSignificand_normal negative _ _ lower upper
      least overflow
    exact ⟨sign, by omega, magnitude⟩

/-! ## Doubles that hold an integer -/

theorem shiftLeft_eq_mul (n k : Nat) : n <<< k = n * 1 <<< k := by
  rw [Nat.shiftLeft_eq, Nat.shiftLeft_eq, Nat.one_mul]

theorem shiftRight_shiftLeft_of_mod {n k : Nat} (divides : n % 1 <<< k = 0) : n >>> k <<< k = n := by
  rw [shiftLeft_eq_mul, Nat.shiftRight_eq_div_pow, ← Nat.one_mul (2 ^ k), ← Nat.shiftLeft_eq,
    Nat.div_mul_cancel (Nat.dvd_of_mod_eq_zero divides)]

/-- `x` is a finite double whose value is the integer `i`; for `i = 0` either zero. -/
def IsInt (x : Float64) (i : Int) : Prop :=
  x.biasedExponent < 2047 ∧ x.magnitude = i.natAbs <<< 1074 ∧ (i ≠ 0 → x.sign = decide (i < 0))

theorem IsNat.isInt {x : Float64} {n : Nat} (h : IsNat x n) : IsInt x n :=
  ⟨h.2.1, by rw [h.2.2, Int.natAbs_ofNat], fun _ => by rw [h.1, decide_eq_false (by omega)]⟩

namespace IsInt

variable {x y : Float64} {i j : Int}

theorem isNaN (h : IsInt x i) : x.isNaN = false := by simp [Float64.isNaN, h.1.ne]

theorem isInfinite (h : IsInt x i) : x.isInfinite = false := by
  simp [Float64.isInfinite, h.1.ne]

theorem isFinite (h : IsInt x i) : x.isFinite = true := by simp [Float64.isFinite, h.1]

theorem truncate (h : IsInt x i) : x.truncate = i := by
  obtain ⟨-, magnitude, sign⟩ := h
  unfold Float64.truncate
  rw [magnitude, Nat.shiftLeft_shiftRight]
  rcases Int.lt_trichotomy i 0 with negative | rfl | positive
  · rw [sign (by omega), decide_eq_true negative, if_pos rfl]
    omega
  · simp
  · rw [sign (by omega), decide_eq_false (by omega)]
    simp only [Bool.false_eq_true, if_false]
    omega

theorem units (h : IsInt x i) : x.units = i * ((1 <<< 1074 : Nat) : Int) := by
  have truncated := h.truncate
  obtain ⟨-, magnitude, -⟩ := h
  unfold Float64.truncate at truncated
  unfold Float64.units
  rw [magnitude, Nat.shiftLeft_shiftRight] at truncated
  have positive : (0 : Int) < ((1 <<< 1074 : Nat) : Int) := by exact_mod_cast shiftLeft_pos 1074 one_pos
  rw [magnitude, shiftLeft_eq_mul, Nat.cast_mul]
  split at truncated
  · next sign =>
    rw [if_pos sign, ← truncated, Int.natAbs_neg, Int.natAbs_ofNat, Int.neg_mul]
  · next sign =>
    rw [if_neg sign, ← truncated, Int.natAbs_ofNat]

theorem toInt32 (h : IsInt x i) : x.toInt32 = Int.bmod i (2 ^ 32) := by
  simp [Float64.toInt32, h.isFinite, h.truncate]

theorem toUint32 (h : IsInt x i) : x.toUint32 = (i % 2 ^ 32).toNat := by
  simp [Float64.toUint32, h.isFinite, h.truncate]

end IsInt

theorem lt_of_isInt {x y : Float64} {i j : Int} (hx : IsInt x i) (hy : IsInt y j) :
    lt x y = decide (i < j) := by
  simp only [lt, hx.isNaN, hy.isNaN, hx.isInfinite, hy.isInfinite, Bool.or_self,
    Bool.false_eq_true, if_false, hx.units, hy.units]
  have positive : (0 : Int) < ((1 <<< 1074 : Nat) : Int) := by exact_mod_cast shiftLeft_pos 1074 one_pos
  exact decide_eq_decide.2
    ⟨fun h => Int.lt_of_mul_lt_mul_right h positive.le, fun h => Int.mul_lt_mul_of_pos_right h positive⟩

theorem equal_of_isInt {x y : Float64} {i j : Int} (hx : IsInt x i) (hy : IsInt y j) :
    equal x y = decide (i = j) := by
  simp only [equal, hx.isNaN, hy.isNaN, hx.isInfinite, hy.isInfinite, Bool.or_self,
    Bool.false_eq_true, if_false, hx.units, hy.units]
  exact decide_eq_decide.2 ⟨Int.eq_of_mul_eq_mul_right (by exact_mod_cast (shiftLeft_pos 1074 one_pos).ne'),
    fun h => h ▸ rfl⟩

/-- Up to `2 ^ 53` in absolute value every integer is a double. -/
theorem isInt_ofInt {i : Int} (small : i.natAbs ≤ 2 ^ 53) : IsInt (ofInt i) i := by
  rcases Int.lt_or_le i 0 with negative | nonnegative
  · obtain ⟨bounded, divides⟩ := small_exact (Int.natAbs_pos.2 negative.ne) small
    obtain ⟨sign, exponent, magnitude⟩ := round_exact true (Int.natAbs_pos.2 negative.ne) bounded divides
    have rounding : ofInt i = round true i.natAbs 1 := by simp [ofInt, negative]
    exact ⟨rounding ▸ exponent, rounding ▸ magnitude, fun _ => by rw [rounding, sign]; simp [negative]⟩
  · obtain ⟨n, rfl⟩ := Int.eq_ofNat_of_zero_le nonnegative
    rw [ofInt_natCast]
    exact (isNat_ofNat (by simpa using small)).isInt

/-- A double that `toNat?` reads as `v` holds the integer `v` (it may be `-0` for `v = 0`). -/
theorem isInt_of_toNat? {x : Float64} {v : Nat} (h : x.toNat? = some v) : IsInt x v := by
  unfold toNat? at h
  split at h
  · next valid =>
    simp only [Bool.and_eq_true, beq_iff_eq, Bool.or_eq_true, Bool.not_eq_true'] at valid
    obtain ⟨⟨finite, divides⟩, sign⟩ := valid
    obtain rfl := Option.some.inj h
    refine ⟨by simpa [Float64.isFinite] using finite,
      by rw [Int.natAbs_ofNat, shiftRight_shiftLeft_of_mod divides], fun nonzero => ?_⟩
    rcases sign with positive | zero
    · rw [positive, decide_eq_false (by omega)]
    · simp only [Float64.isZero, Bool.and_eq_true, decide_eq_true_eq] at zero
      simp [magnitude, significand, zero.1, zero.2] at nonzero
  · cases h

/-! ## Division and remainder by a power of two -/

/-- `(m * 2 ^ a) / 2 ^ b` is `m * 2 ^ (a - b)`. -/
theorem isScaled_shiftLeft (m a b : Nat) : IsScaled (m <<< a) (1 <<< b) m ((a : Int) - b) := by
  unfold IsScaled
  rw [← Nat.shiftLeft_add, ← Nat.shiftLeft_add, shiftLeft_eq_mul m]
  congr 2
  omega

theorem round_zero (negative : Bool) (den : Nat) : round negative 0 den = zero negative := by
  simp [round, roundReduced]

theorem truncate_zero (negative : Bool) : (zero negative).truncate = 0 := by
  cases negative <;> rfl

theorem magnitude_eq_zero {x : Float64} (zero : x.isZero = true) : x.magnitude = 0 := by
  simp only [isZero, Bool.and_eq_true, decide_eq_true_eq] at zero
  simp [magnitude, significand, zero.1, zero.2]

theorem IsInt.isZero {x : Float64} {i : Int} (h : IsInt x i) (nonzero : i ≠ 0) :
    x.isZero = false := by
  by_contra zero
  have := magnitude_eq_zero (Bool.not_eq_false _ ▸ zero)
  rw [h.2.1, shiftLeft_eq_mul, Nat.mul_eq_zero] at this
  have := shiftLeft_pos 1074 one_pos
  omega

theorem shiftLeft_shiftRight_add (a b k : Nat) : a <<< k >>> (b + k) = a >>> b := by
  rw [Nat.add_comm, Nat.shiftRight_add, Nat.shiftLeft_shiftRight]

/-- A significand below `2 ^ 53` shifted to a value of at least `2 ^ K` is shifted by at least
`K - 52`. -/
theorem shift_bound {s v a K : Nat} (hs : s < 2 ^ 53) (hv : 0 < v) (same : s <<< a = v <<< K) :
    K ≤ a + 52 := by
  have grow : 2 ^ K < 2 ^ (53 + a) :=
    calc 2 ^ K ≤ v * 2 ^ K := Nat.le_mul_of_pos_left _ hv
      _ = s * 2 ^ a := by rw [← Nat.shiftLeft_eq, ← same, Nat.shiftLeft_eq]
      _ < 2 ^ 53 * 2 ^ a := Nat.mul_lt_mul_of_pos_right hs (Nat.two_pow_pos a)
      _ = 2 ^ (53 + a) := (pow_add _ _ _).symm
  have := (Nat.pow_lt_pow_iff_right (by decide : 1 < 2)).1 grow
  omega

theorem significand_lt (x : Float64) : x.significand < 2 ^ 53 := by
  have := x.fraction_lt
  unfold significand
  split <;> omega

/-- A double holding a positive integer is normal, with a biased exponent of at least `1023`. -/
theorem IsInt.normal {x : Float64} {v : Nat} (h : IsInt x v) (positive : 0 < v) :
    1023 ≤ x.biasedExponent ∧ 2 ^ 52 ≤ x.significand := by
  have total : x.significand <<< (x.biasedExponent - 1) = v <<< 1074 := by
    have := h.2.1
    rwa [Int.natAbs_ofNat] at this
  have bound := shift_bound x.significand_lt positive total
  refine ⟨by omega, ?_⟩
  unfold significand
  rw [if_neg (by omega)]
  omega

/-- `x / 2 ^ k` is exact for a double holding a natural number: it is finite and truncates to
`v / 2 ^ k`. -/
theorem div_of_isInt {x : Float64} {v k : Nat} (hx : IsInt x v) (hk : k ≤ 53) :
    (x / ofNat (2 ^ k)).isFinite = true ∧ (x / ofNat (2 ^ k)).truncate = ((v / 2 ^ k : Nat) : Int) := by
  have hy : IsNat (ofNat (2 ^ k)) (2 ^ k) := isNat_ofNat (Nat.pow_le_pow_right (by decide) hk)
  have nonzero := hy.isInt.isZero (by have := Nat.two_pow_pos k; omega)
  show (div x (ofNat (2 ^ k))).isFinite = true ∧
    (div x (ofNat (2 ^ k))).truncate = ((v / 2 ^ k : Nat) : Int)
  simp only [div, hx.isNaN, hy.isNaN, hx.isInfinite, hy.isInfinite, nonzero, Bool.or_self,
    Bool.false_eq_true, if_false]
  rcases Nat.eq_zero_or_pos v with rfl | positive
  · have zero : x.magnitude = 0 := by simpa using hx.2.1
    rw [zero, round_zero, truncate_zero, Nat.zero_div, Nat.cast_zero]
    exact ⟨by cases x.sign != (ofNat (2 ^ k)).sign <;> rfl, rfl⟩
  · obtain ⟨exponent, lower⟩ := hx.normal positive
    have total : x.significand <<< (x.biasedExponent - 1) = v <<< 1074 := by
      have := hx.2.1
      rwa [Int.natAbs_ofNat] at this
    have hymag : (ofNat (2 ^ k)).magnitude = 1 <<< (k + 1074) := by
      rw [hy.2.2, Nat.shiftLeft_add, Nat.shiftLeft_eq 1 k, Nat.one_mul]
    have least : (-1074 : Int) ≤ ((x.biasedExponent - 1 : Nat) : Int) - ((k + 1074 : Nat) : Int) := by
      omega
    rw [show x.magnitude = x.significand <<< (x.biasedExponent - 1) from rfl, hymag,
      round_of_scaled _ (isScaled_shiftLeft x.significand (x.biasedExponent - 1) (k + 1074))
        (shiftLeft_pos _ one_pos) (by omega) x.significand_lt (.inl lower) least]
    obtain ⟨rsign, rexponent, rmag⟩ := ofSignificand_value (x.sign != (ofNat (2 ^ k)).sign)
      x.significand_lt (.inl lower) least (by have := hx.1; omega)
    have sign : x.sign = false := by simpa using hx.2.2 (by omega)
    refine ⟨by simpa [Float64.isFinite] using rexponent, ?_⟩
    unfold Float64.truncate
    rw [rmag, rsign, sign, hy.1, bne_self_eq_false, if_neg Bool.false_ne_true]
    rw [show (((x.biasedExponent - 1 : Nat) : Int) - ((k + 1074 : Nat) : Int) + 1074).toNat =
      x.biasedExponent - 1 - k by omega, ← shiftLeft_shiftRight_add _ 1074 k, ← Nat.shiftLeft_add,
      Nat.sub_add_cancel (by omega), total, Nat.add_comm, shiftLeft_shiftRight_add,
      Nat.shiftRight_eq_div_pow]

theorem toUint32_div_of_isInt {x : Float64} {v k : Nat} (hx : IsInt x v) (hk : k ≤ 53) :
    (x / ofNat (2 ^ k)).toUint32 = v / 2 ^ k % 2 ^ 32 := by
  obtain ⟨finite, truncated⟩ := div_of_isInt hx hk
  simp only [toUint32, finite, truncated, if_true]
  omega

theorem isZero_of_magnitude {x : Float64} (zero : x.magnitude = 0) : x.isZero = true := by
  rw [magnitude, shiftLeft_eq_mul, Nat.mul_eq_zero] at zero
  have := shiftLeft_pos (x.biasedExponent - 1) one_pos
  have significand : x.significand = 0 := by omega
  unfold Float64.significand at significand
  simp only [isZero, Bool.and_eq_true, decide_eq_true_eq]
  split at significand <;> omega

/-- `x % 2 ^ k` of a double holding a natural number holds `v % 2 ^ k`. -/
theorem isInt_rem {x : Float64} {v k : Nat} (hx : IsInt x v) (hk : k ≤ 53) :
    IsInt (rem x (ofNat (2 ^ k))) ((v % 2 ^ k : Nat) : Int) := by
  have hy : IsNat (ofNat (2 ^ k)) (2 ^ k) := isNat_ofNat (Nat.pow_le_pow_right (by decide) hk)
  have nonzero := hy.isInt.isZero (by have := Nat.two_pow_pos k; omega)
  simp only [rem, hx.isNaN, hy.isNaN, hx.isInfinite, hy.isInfinite, nonzero, Bool.or_self,
    Bool.false_eq_true, if_false, Bool.false_or]
  rcases Nat.eq_zero_or_pos v with rfl | positive
  · have zero : x.magnitude = 0 := by simpa using hx.2.1
    rw [if_pos (isZero_of_magnitude zero), Nat.zero_mod]
    exact hx
  · have sign : x.sign = false := by simpa using hx.2.2 (by omega)
    have remainder : x.magnitude % (ofNat (2 ^ k)).magnitude = (v % 2 ^ k) <<< 1074 := by
      rw [hx.2.1, hy.2.2, Int.natAbs_ofNat, Nat.shiftLeft_eq, Nat.shiftLeft_eq, Nat.shiftLeft_eq,
        Nat.mul_mod_mul_right]
    rw [if_neg (by rw [hx.isZero (by omega)]; decide), sign, remainder, round_shiftLeft]
    exact (isNat_ofNat (le_trans (Nat.mod_lt _ (Nat.two_pow_pos k)).le
      (Nat.pow_le_pow_right (by decide) hk))).isInt

/-- A natural below `2 ^ j` has at most `j` bits. -/
theorem bitLength_le_of_lt {n j : Nat} (lt : n < 2 ^ j) : bitLength n ≤ j := by
  rcases Nat.eq_zero_or_pos n with rfl | positive
  · rw [bitLength_zero]; omega
  · have := lt_of_le_of_lt (two_pow_bitLength_le positive) lt
    have := (Nat.pow_lt_pow_iff_right (by decide : 1 < 2)).1 this
    omega

/-- A significand below `2 ^ 53` times `2 ^ k` is a double. -/
theorem isNat_ofNat_mul_two_pow {h : Nat} (k : Nat) (small : h < 2 ^ 53) (range : k ≤ 971) :
    IsNat (ofNat (h * 2 ^ k)) (h * 2 ^ k) := by
  have bits : bitLength (h * 2 ^ k) ≤ 53 + k :=
    bitLength_le_of_lt (by rw [pow_add]; exact Nat.mul_lt_mul_of_pos_right small (Nat.two_pow_pos k))
  exact isNat_ofNat_of_dvd (by omega)
    (Dvd.dvd.mul_left (Nat.pow_dvd_pow 2 (by omega)) h)

/-- `x & m` for a mask `m = 2 ^ k - 1` keeps the `k` low bits. -/
theorem and_of_isInt {x : Float64} {a m k : Nat} (hx : IsInt x a) (small : a < 2 ^ 32)
    (mask : m + 1 = 2 ^ k) (width : k ≤ 31) : x.and (ofNat m) = ofNat (a % (m + 1)) := by
  have top : 2 ^ k ≤ 2 ^ 31 := Nat.pow_le_pow_right (by decide) width
  have word : x.toUint32 = a := by rw [hx.toUint32]; omega
  have maskWord : (ofNat m).toUint32 = 2 ^ k - 1 := by rw [toUint32_ofNat (by omega)]; omega
  have low : a % 2 ^ k < 2 ^ 31 := lt_of_lt_of_le (Nat.mod_lt _ (Nat.two_pow_pos k)) top
  rw [and, word, maskWord, Nat.and_pow_two_sub_one_eq_mod, mask, bmod_of_lt low, ofInt_natCast]

/-- `Int.bmod _ (2 ^ 32)`, the signed reading of a 32-bit word, lies in `[-2 ^ 31, 2 ^ 31)`. -/
theorem bmod_range (x : Int) : -2 ^ 31 ≤ Int.bmod x (2 ^ 32) ∧ Int.bmod x (2 ^ 32) < 2 ^ 31 :=
  ⟨by have := Int.le_bmod (x := x) (m := 2 ^ 32) (by decide); omega,
    by have := Int.bmod_lt (x := x) (m := 2 ^ 32) (by decide); omega⟩

/-- Reading the signed word back as unsigned gives the word. -/
theorem toNat_bmod_emod (n : Nat) : (Int.bmod n (2 ^ 32) % 2 ^ 32).toNat = n % 2 ^ 32 := by
  have same : Int.bmod n (2 ^ 32) % ((2 ^ 32 : Nat) : Int) = n % ((2 ^ 32 : Nat) : Int) :=
    Int.bmod_emod
  simp only [Nat.cast_pow, Nat.cast_ofNat] at same
  omega

theorem bmod_eq_zero_iff {n : Nat} (small : n < 2 ^ 32) : Int.bmod n (2 ^ 32) = 0 ↔ n = 0 := by
  constructor
  · intro zero
    have same : Int.bmod n (2 ^ 32) % ((2 ^ 32 : Nat) : Int) = n % ((2 ^ 32 : Nat) : Int) :=
      Int.bmod_emod
    rw [zero, Int.zero_emod] at same
    omega
  · rintro rfl
    rfl

/-- `x & y` is the double of the signed word of `ToUint32(x) & ToUint32(y)`. -/
theorem isInt_and (x y : Float64) : IsInt (x.and y) (Int.bmod (x.toUint32 &&& y.toUint32 : Nat) (2 ^ 32)) :=
  isInt_ofInt (by have := bmod_range (x.toUint32 &&& y.toUint32 : Nat); omega)

/-- `x >> k` of a natural below `2 ^ 31`. -/
theorem signedShiftRight_of_isInt {x : Float64} {a k : Nat} (hx : IsInt x a) (small : a < 2 ^ 31)
    (shift : k < 32) : x.signedShiftRight (ofNat k) = ofNat (a >>> k) := by
  simp only [signedShiftRight, hx.toInt32, toUint32_ofNat (show k ≤ 2 ^ 53 by omega),
    Nat.mod_eq_of_lt (show k < 2 ^ 32 by omega), Nat.mod_eq_of_lt shift, bmod_of_lt small,
    Int.natCast_shiftRight, ofInt_natCast]

theorem IsInt.neg {x : Float64} {i : Int} (h : IsInt x i) : IsInt (-x) (-i) := by
  obtain ⟨exponent, magnitude, sign⟩ := h
  have notNaN : x.isNaN = false := by simp [Float64.isNaN, exponent.ne]
  show IsInt (Float64.neg x) (-i)
  unfold Float64.neg
  rw [dif_neg (by simp [notNaN])]
  refine ⟨exponent, by rw [Int.natAbs_neg]; exact magnitude, fun nonzero => ?_⟩
  show (!x.sign) = decide (-i < 0)
  rw [sign (by omega)]
  rcases Int.lt_or_gt_of_ne (show i ≠ 0 by omega) with negative | positive
  · rw [decide_eq_true negative, decide_eq_false (by omega)]; rfl
  · rw [decide_eq_false (by omega), decide_eq_true (by omega)]; rfl

/-! ## Negation

The sign of a numeral: `-x` and `x * -1` of an exact natural are the rounding of its negation. -/

/-- Negation flips the sign of every double but NaN. -/
theorem neg_fields {x : Float64} (h : x.isNaN = false) :
    (-x).sign = !x.sign ∧ (-x).biasedExponent = x.biasedExponent ∧ (-x).fraction = x.fraction := by
  show (neg x).sign = _ ∧ (neg x).biasedExponent = _ ∧ (neg x).fraction = _
  unfold neg
  rw [dif_neg (by simp [h])]
  exact ⟨rfl, rfl, rfl⟩

theorem isNaN_ofFields (negative : Bool) (e f : Nat) : (ofFields negative e f).isNaN = false := by
  unfold ofFields
  split
  · simp [isNaN]; omega
  · rfl

theorem neg_ofFields (negative : Bool) (e f : Nat) : -(ofFields negative e f) = ofFields (!negative) e f := by
  obtain ⟨sign, exponent, fraction⟩ := neg_fields (isNaN_ofFields negative e f)
  ext
  · rw [sign]; unfold ofFields; split <;> rfl
  · rw [exponent]; unfold ofFields; split <;> rfl
  · rw [fraction]; unfold ofFields; split <;> rfl

/-- Rounding `-q` is negating the rounding of `q`. -/
theorem neg_round (n d : Nat) : -(round false n d) = round true n d := by
  unfold round roundReduced ofSignificand
  split
  · exact Float64.ext rfl rfl rfl
  · split_ifs <;> exact neg_ofFields _ _ _

theorem mul_neg_one_of_isNat {x : Float64} {a : Nat} (hx : IsNat x a) : x * -1 = round true a 1 := by
  have minusOne : IsInt (-1 : Float64) (-1) := (isNat_ofNat (n := 1) (by decide)).isInt.neg
  have negative : (-1 : Float64).sign = true := minusOne.2.2 (by decide)
  show mul x (-1) = _
  simp only [mul, hx.isNaN, minusOne.isNaN, hx.isInfinite, minusOne.isInfinite, Bool.or_self,
    Bool.false_eq_true, if_false, hx.1, negative, hx.2.2, minusOne.2.1]
  rw [show Int.natAbs (-1) = 1 from rfl, shiftLeft_mul_shiftLeft, Nat.mul_one]
  exact round_shiftLeft true a 2148

/-! ## Rounding a double, and its sign

A finite double's own value rounds back to it (`round_magnitude`); from that, multiplying by the
sign `1` or `-1` of a numeral is exact for every double but NaN, whatever its size. -/

/-- Rounding the value of a finite double gives the double back. -/
theorem round_magnitude {x : Float64} (finite : x.isFinite = true) :
    round x.sign x.magnitude (1 <<< 1074) = x := by
  have exponent : x.biasedExponent < 2047 := by simpa [Float64.isFinite] using finite
  have := x.fraction_lt
  rcases Nat.eq_zero_or_pos x.significand with zero | positive
  · have zeroFields : x.biasedExponent = 0 ∧ x.fraction = 0 := by
      unfold significand at zero
      split at zero <;> omega
    rw [show x.magnitude = 0 by simp [magnitude, zero], round_zero]
    exact Float64.ext rfl zeroFields.1.symm zeroFields.2.symm
  · rw [show x.magnitude = x.significand <<< (x.biasedExponent - 1) from rfl,
      round_of_scaled _ (isScaled_shiftLeft _ _ 1074) (shiftLeft_pos _ one_pos) positive x.significand_lt
        (by unfold significand; split <;> omega) (by omega)]
    unfold ofSignificand significand
    by_cases subnormal : x.biasedExponent = 0
    -- a subnormal keeps its fraction at the least exponent, a normal double its exponent
    · simp only [subnormal, if_true, ofFields, dif_pos (show 0 < 2047 by decide), Nat.mod_eq_of_lt this]
      rw [if_pos this]
      exact Float64.ext rfl subnormal.symm rfl
    · simp only [subnormal, if_false, show ¬ x.fraction + 2 ^ 52 < 2 ^ 52 by omega,
        show x.fraction + 2 ^ 52 < 2 ^ 53 by omega, if_true]
      rw [show (((x.biasedExponent - 1 : Nat) : Int) - ((1074 : Nat) : Int) + 1075).toNat = x.biasedExponent by omega,
        Nat.add_sub_cancel]
      simp only [ofFields, dif_pos exponent, Nat.mod_eq_of_lt this]

theorem isFinite_of_not {x : Float64} (nan : x.isNaN = false) (infinite : x.isInfinite = false) :
    x.isFinite = true := by
  have := x.biasedExponent_lt
  simp only [isNaN, isInfinite, isFinite, Bool.and_eq_false_iff, decide_eq_false_iff_not, decide_eq_true_eq] at *
  omega

/-- Rounding never gives NaN. -/
theorem isNaN_round (negative : Bool) (n d : Nat) : (round negative n d).isNaN = false := by
  unfold round roundReduced ofSignificand
  split
  · rfl
  · split_ifs <;> exact isNaN_ofFields _ _ _

theorem isZero_of_isInfinite {x : Float64} (infinite : x.isInfinite = true) : x.isZero = false := by
  simp only [isInfinite, isZero, Bool.and_eq_true, decide_eq_true_eq] at infinite ⊢
  simp [infinite.1]

/-- Rounding keeps the sign it is given. -/
theorem sign_round (negative : Bool) (n d : Nat) : (round negative n d).sign = negative := by
  unfold round roundReduced ofSignificand ofFields
  split
  · rfl
  · split_ifs <;> rfl

theorem isNat_one : IsNat (1 : Float64) 1 := isNat_ofNat (by decide)

theorem minusOne_isInt : IsInt (-1 : Float64) (-1) := isNat_one.isInt.neg

/-- The fields of `-1` that `mul` reads: negative, with the magnitude of `1`. -/
theorem minusOne_fields : (-1 : Float64).sign = true ∧ (-1 : Float64).isNaN = false ∧
    (-1 : Float64).isInfinite = false ∧ (-1 : Float64).isZero = false ∧
    (-1 : Float64).magnitude = 1 <<< 1074 :=
  ⟨minusOne_isInt.2.2 (by decide), minusOne_isInt.isNaN, minusOne_isInt.isInfinite,
    minusOne_isInt.isZero (by decide), minusOne_isInt.2.1⟩

/-- The product `mul` rounds when one factor has the magnitude of `1`. -/
theorem round_one_mul (negative : Bool) (m : Nat) :
    round negative ((1 <<< 1074) * m) (1 <<< 2148) = round negative m (1 <<< 1074) := by
  have square : (1 <<< 2148 : Nat) = (1 <<< 1074) * (1 <<< 1074) := by
    rw [shiftLeft_mul_shiftLeft]
  rw [square, Nat.mul_comm, round_mul_right _ _ _ _ (shiftLeft_pos _ one_pos)]

/-- `1 * x` is `x`, for every double but NaN. -/
theorem one_mul_eq {x : Float64} (h : x.isNaN = false) : 1 * x = x := by
  show mul 1 x = x
  unfold mul
  rw [isNat_one.isNaN, h, isNat_one.isInfinite, isNat_one.1, isNat_one.2.2]
  by_cases infinite : x.isInfinite = true
  · simp only [infinite, isZero_of_isInfinite infinite, isNat_one.isInt.isZero one_ne_zero, Bool.or_self,
      Bool.or_true, Bool.false_eq_true, if_true, if_false, Bool.false_bne]
    simp only [isInfinite, Bool.and_eq_true, decide_eq_true_eq] at infinite
    exact Float64.ext rfl infinite.1.symm infinite.2.symm
  · simp only [Bool.false_or, infinite, Bool.false_bne, round_one_mul, Bool.false_eq_true, if_false]
    exact round_magnitude (isFinite_of_not h (Bool.eq_false_iff.2 infinite))

theorem magnitude_neg {x : Float64} (h : x.isNaN = false) : (-x).magnitude = x.magnitude := by
  obtain ⟨-, exponent, fraction⟩ := neg_fields h
  simp only [magnitude, significand, exponent, fraction]

/-- `-1 * x` is `-x`, for every double but NaN. -/
theorem neg_one_mul_eq {x : Float64} (h : x.isNaN = false) : -1 * x = -x := by
  obtain ⟨sign, exponent, fraction⟩ := neg_fields h
  obtain ⟨minusSign, minusNaN, minusInfinite, minusZero, minusMagnitude⟩ := minusOne_fields
  show mul (-1) x = -x
  unfold mul
  rw [minusNaN, h, minusInfinite, minusSign, minusMagnitude]
  by_cases infinite : x.isInfinite = true
  · simp only [infinite, isZero_of_isInfinite infinite, minusZero, Bool.or_self, Bool.or_true,
      Bool.false_eq_true, if_true, if_false, Bool.true_bne]
    simp only [isInfinite, Bool.and_eq_true, decide_eq_true_eq] at infinite
    exact Float64.ext sign.symm (exponent.trans infinite.1).symm (fraction.trans infinite.2).symm
  · simp only [Bool.false_or, infinite, Bool.true_bne, round_one_mul, Bool.false_eq_true, if_false]
    rw [← sign, ← magnitude_neg h]
    exact round_magnitude (by rw [isFinite, exponent]; exact isFinite_of_not h (Bool.eq_false_iff.2 infinite))

/-! ## Integers of either sign

`Long.toNumber` of a signed value adds a product of either sign to a natural: the product of an
exact integer and an exact natural is rounded once, and so is the sum of two exact integers. -/

/-- The product of an exact integer and an exact natural, rounded once with the integer's sign. -/
theorem mul_of_isInt {x y : Float64} {i : Int} {b : Nat} (hx : IsInt x i) (hy : IsNat y b) :
    x * y = round x.sign (i.natAbs * b) 1 := by
  show mul x y = _
  simp only [mul, hx.isNaN, hy.isNaN, hx.isInfinite, hy.isInfinite, Bool.or_self, Bool.false_eq_true, if_false,
    hy.1, Bool.bne_false, hx.2.1, hy.2.2, shiftLeft_mul_shiftLeft]
  exact round_shiftLeft _ _ 2148

theorem isInt_round_of_isNat (negative : Bool) {m : Nat} (exact : IsNat (ofNat m) m) :
    IsInt (round negative m 1) (if negative then -(m : Int) else m) := by
  cases negative
  · exact exact.isInt
  · rw [← neg_round]
    exact exact.isInt.neg

/-- The sum of two exact integers is the double nearest to their sum, once the second is not
`-0`. -/
theorem add_of_isInt {x y : Float64} {i j : Int} (hx : IsInt x i) (hy : IsInt y j) (positive : y.sign = false) :
    x + y = ofInt (i + j) := by
  show add x y = _
  have scale : (0 : Int) < ((1 <<< 1074 : Nat) : Int) := by exact_mod_cast shiftLeft_pos 1074 one_pos
  simp only [add, hx.isNaN, hy.isNaN, hx.isInfinite, hy.isInfinite, Bool.or_self, Bool.false_eq_true, if_false,
    hx.units, hy.units, positive, Bool.and_false, ← Int.add_mul]
  split
  · next zero =>
    rw [(Int.mul_eq_zero.1 zero).resolve_right scale.ne']
    exact (round_zero false 1).symm
  · have sign : (i + j) * ((1 <<< 1074 : Nat) : Int) < 0 ↔ i + j < 0 :=
      ⟨fun negative => lt_of_not_le fun nonneg => absurd negative (not_lt.2 (Int.mul_nonneg nonneg scale.le)),
        fun negative => Int.mul_neg_of_neg_of_pos negative scale⟩
    have scaled := round_mul_right (decide (i + j < 0)) (i + j).natAbs 1 _ (shiftLeft_pos 1074 one_pos)
    rw [Nat.one_mul] at scaled
    rw [ofInt, Int.natAbs_mul, Int.natAbs_ofNat, decide_eq_decide.2 sign, scaled]

end Mysql2Codec.Js.Float64
