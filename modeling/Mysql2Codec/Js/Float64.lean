import Mathlib.Algebra.Order.Field.Rat

/-! # JavaScript numbers as IEEE-754 doubles

An ECMA-262 number is a binary64 value.  `Float64` keeps the three fields of the interchange
format (sign, biased exponent, fraction), so that every double is one value of the type and
the byte readers and writers of `Buffer` are field packing and unpacking.  All NaNs are one
value, stored as the quiet NaN `0x7FF8000000000000`.

The exact value of a finite double is an integer multiple of the least subnormal `2⁻¹⁰⁷⁴`;
`Float64.magnitude` is that multiple.  The arithmetic operators of ECMA-262 (`Number::add`,
`Number::multiply`, `Number::divide`, `Number::remainder`) compute the exact result from the
magnitudes and round it once, to nearest with ties to even (`Float64.round`).  The bitwise
operators go through `ToInt32` and `ToUint32`.
-/

namespace Mysql2Codec.Js

/-- The number of binary digits of `n`: the least `k` with `n < 2 ^ k`.  Below `2 ^ 8192` it is
found by a binary search of depth 13, above by halving. -/
def bitLength (n : Nat) : Nat := if n >>> 8192 = 0 then within 13 0 n else go n n
where
  /-- Binary search, the answer known to lie in `[lo, lo + 2 ^ depth]`. -/
  within : Nat → Nat → Nat → Nat
    | 0, lo, n => if n >>> lo = 0 then lo else lo + 1
    | depth + 1, lo, n =>
      if n >>> (lo + 2 ^ depth) = 0 then within depth lo n else within depth (lo + 2 ^ depth) n
  /-- Halving, `fuel` bounding the number of steps. -/
  go : Nat → Nat → Nat
    | 0, _ => 0
    | fuel + 1, n => if n = 0 then 0 else go fuel (n / 2) + 1

/-- What `bitLength` returns: `n < 2 ^ k`, and `2 ^ (k - 1) ≤ n` unless `n = 0`. -/
def IsBitLength (n k : Nat) : Prop := n < 2 ^ k ∧ (0 < n → 2 ^ (k - 1) ≤ n)

theorem shiftRight_eq_zero_iff {n k : Nat} : n >>> k = 0 ↔ n < 2 ^ k := by
  rw [Nat.shiftRight_eq_div_pow, Nat.div_eq_zero_iff (Nat.two_pow_pos k)]

theorem bitLength_within_spec : ∀ depth lo n, n < 2 ^ (lo + 2 ^ depth) →
    (0 < lo → 2 ^ (lo - 1) ≤ n) → IsBitLength n (bitLength.within depth lo n)
  | 0, lo, n, upper, lower => by
    simp only [bitLength.within]
    split
    · next small =>
      refine ⟨shiftRight_eq_zero_iff.1 small, fun positive => lower ?_⟩
      rcases Nat.eq_zero_or_pos lo with rfl | _
      · simp at small; omega
      · assumption
    · next large =>
      exact ⟨by simpa using upper, fun _ => by simpa [shiftRight_eq_zero_iff] using large⟩
  | depth + 1, lo, n, upper, lower => by
    simp only [bitLength.within]
    split
    · next small => exact bitLength_within_spec depth lo n (shiftRight_eq_zero_iff.1 small) lower
    · next large =>
      refine bitLength_within_spec depth _ n (by rwa [Nat.add_assoc, ← Nat.two_mul, ← pow_succ'])
        fun _ => ?_
      rw [shiftRight_eq_zero_iff, not_lt] at large
      exact le_trans (Nat.pow_le_pow_right (by decide) (by omega)) large

theorem bitLength_go_zero : ∀ fuel, bitLength.go fuel 0 = 0
  | 0 => rfl
  | _ + 1 => rfl

theorem bitLength_go_spec : ∀ fuel n, n ≤ fuel → IsBitLength n (bitLength.go fuel n)
  | 0, n, bound => by
    obtain rfl : n = 0 := by omega
    exact ⟨by decide, by omega⟩
  | fuel + 1, n, bound => by
    by_cases zero : n = 0
    · subst zero
      exact ⟨by simp [bitLength.go], by omega⟩
    · obtain ⟨upper, lower⟩ := bitLength_go_spec fuel (n / 2) (by omega)
      simp only [IsBitLength, bitLength.go, zero, if_false, Nat.add_sub_cancel, pow_succ]
      refine ⟨by omega, fun _ => ?_⟩
      by_cases half : n / 2 = 0
      · rw [half, bitLength_go_zero, pow_zero]
        omega
      · have := lower (by omega)
        generalize bitLength.go fuel (n / 2) = k at this upper ⊢
        rcases k with _ | k
        · rw [pow_zero] at upper
          omega
        · rw [Nat.add_sub_cancel] at this
          rw [pow_succ]
          omega

theorem bitLength_spec (n : Nat) : IsBitLength n (bitLength n) := by
  unfold bitLength
  split
  · next small => exact bitLength_within_spec 13 0 n (shiftRight_eq_zero_iff.1 small) (by omega)
  · exact bitLength_go_spec n n le_rfl

theorem lt_two_pow_bitLength (n : Nat) : n < 2 ^ bitLength n := (bitLength_spec n).1

theorem two_pow_bitLength_le {n : Nat} (positive : 0 < n) : 2 ^ (bitLength n - 1) ≤ n :=
  (bitLength_spec n).2 positive

/-- A binary64 value: sign, biased exponent and fraction fields, with NaN canonical. -/
@[ext]
structure Float64 where
  sign : Bool
  biasedExponent : Nat
  fraction : Nat
  biasedExponent_lt : biasedExponent < 2048
  fraction_lt : fraction < 2 ^ 52
  nan_canonical : biasedExponent = 2047 → fraction ≠ 0 → sign = false ∧ fraction = 2 ^ 51

namespace Float64

/-- Two doubles are equal when their three fields are. -/
instance : DecidableEq Float64 := fun x y =>
  decidable_of_iff (x.sign = y.sign ∧ x.biasedExponent = y.biasedExponent ∧ x.fraction = y.fraction)
    Float64.ext_iff.symm

/-! ## Special values and field constructors -/

/-- The one NaN value. -/
def nan : Float64 := ⟨false, 2047, 2 ^ 51, by decide, by decide, fun _ _ => ⟨rfl, rfl⟩⟩

/-- `+Infinity` or `-Infinity`. -/
def infinity (negative : Bool) : Float64 :=
  ⟨negative, 2047, 0, by decide, by decide, fun _ nonzero => absurd rfl nonzero⟩

/-- `+0` or `-0`. -/
def zero (negative : Bool) : Float64 :=
  ⟨negative, 0, 0, by decide, by decide, fun h => absurd h (by decide)⟩

/-- A finite double from its fields, or an infinity once the exponent overflows the format. -/
def ofFields (negative : Bool) (biasedExponent fraction : Nat) : Float64 :=
  if h : biasedExponent < 2047 then
    ⟨negative, biasedExponent, fraction % 2 ^ 52, by omega, Nat.mod_lt _ (Nat.two_pow_pos 52),
      fun overflow => absurd overflow (by omega)⟩
  else infinity negative

/-! ## Classification and exact value -/

def isNaN (x : Float64) : Bool := x.biasedExponent = 2047 && x.fraction ≠ 0

def isInfinite (x : Float64) : Bool := x.biasedExponent = 2047 && x.fraction = 0

def isFinite (x : Float64) : Bool := x.biasedExponent < 2047

def isZero (x : Float64) : Bool := x.biasedExponent = 0 && x.fraction = 0

/-- The significand, with the hidden bit of a normal double made explicit. -/
def significand (x : Float64) : Nat :=
  if x.biasedExponent = 0 then x.fraction else x.fraction + 2 ^ 52

/-- `|x|` of a finite double in units of the least subnormal `2⁻¹⁰⁷⁴`. -/
def magnitude (x : Float64) : Nat := x.significand <<< (x.biasedExponent - 1)

/-- The signed value of a finite double in units of `2⁻¹⁰⁷⁴`. -/
def units (x : Float64) : Int := if x.sign then -(x.magnitude : Int) else x.magnitude

/-- The rational value of a finite double. -/
def toRat (x : Float64) : ℚ := x.units / 2 ^ 1074

/-! ## Rounding -/

/-- `num / (den * 2 ^ e)` as a pair of naturals, shifting whichever side `e` points at. -/
def scale (num den : Nat) (e : Int) : Nat × Nat := (num <<< (-e).toNat, den <<< e.toNat)

/-- `±m * 2 ^ e` for a rounded significand `m ≤ 2 ^ 53` at an exponent `e ≥ -1074`: subnormal
below `2 ^ 52`, and a carry into the exponent at `2 ^ 53`. -/
def ofSignificand (negative : Bool) (m : Nat) (e : Int) : Float64 :=
  if m < 2 ^ 52 then ofFields negative 0 m
  else if m < 2 ^ 53 then ofFields negative (e + 1075).toNat (m - 2 ^ 52)
  else ofFields negative (e + 1076).toNat 0

/-- The exponent at which `num / den` is rounded: the one that puts `num / (den * 2 ^ e)` in
`[2 ^ 52, 2 ^ 53)`, or the subnormal exponent `-1074` when that one is below it. -/
def roundingExponent (num den : Nat) : Int :=
  let e₀ : Int := (bitLength num : Int) - bitLength den - 53
  max (if (scale num den e₀).1 / (scale num den e₀).2 < 2 ^ 53 then e₀ else e₀ + 1) (-1074)

/-- `n / d` rounded to an integer, to nearest with ties to even. -/
def roundHalfEven (n d : Nat) : Nat :=
  if d < 2 * (n % d) ∨ (2 * (n % d) = d ∧ n / d % 2 = 1) then n / d + 1 else n / d

/-- Rounding of a nonzero fraction in lowest terms. -/
def roundReduced (negative : Bool) (num den : Nat) : Float64 :=
  if num = 0 then zero negative
  else ofSignificand negative
    (roundHalfEven (scale num den (roundingExponent num den)).1
      (scale num den (roundingExponent num den)).2) (roundingExponent num den)

/-- The double nearest to `±num / den` (`den > 0`), ties to even: IEEE-754 roundTiesToEven,
the rounding every ECMA-262 number operation uses. -/
def round (negative : Bool) (num den : Nat) : Float64 :=
  roundReduced negative (num / Nat.gcd num den) (den / Nat.gcd num den)

/-- `𝔽(n)` for a natural number. -/
def ofNat (n : Nat) : Float64 := round false n 1

/-- `𝔽(i)` for an integer. -/
def ofInt (i : Int) : Float64 := round (i < 0) i.natAbs 1

instance : OfNat Float64 n := ⟨ofNat n⟩

/-! ## Arithmetic operators -/

/-- `Number::unaryMinus`. -/
def neg (x : Float64) : Float64 :=
  if h : x.isNaN then nan
  else ⟨!x.sign, x.biasedExponent, x.fraction, x.biasedExponent_lt, x.fraction_lt,
    fun exponent nonzero => absurd (by simp [isNaN, exponent, nonzero]) h⟩

/-- `Number::add`: an exact zero sum is `+0` unless both operands are `-0`. -/
def add (x y : Float64) : Float64 :=
  if x.isNaN || y.isNaN then nan
  else if x.isInfinite then (if y.isInfinite && x.sign != y.sign then nan else x)
  else if y.isInfinite then y
  else
    let sum := x.units + y.units
    if sum = 0 then zero (x.sign && y.sign) else round (sum < 0) sum.natAbs (1 <<< 1074)

/-- `Number::subtract`. -/
def sub (x y : Float64) : Float64 := add x (neg y)

/-- `Number::multiply`. -/
def mul (x y : Float64) : Float64 :=
  if x.isNaN || y.isNaN then nan
  else if x.isInfinite || y.isInfinite then
    (if x.isZero || y.isZero then nan else infinity (x.sign != y.sign))
  else round (x.sign != y.sign) (x.magnitude * y.magnitude) (1 <<< 2148)

/-- `Number::divide`. -/
def div (x y : Float64) : Float64 :=
  if x.isNaN || y.isNaN then nan
  else if x.isInfinite then (if y.isInfinite then nan else infinity (x.sign != y.sign))
  else if y.isInfinite then zero (x.sign != y.sign)
  else if y.isZero then (if x.isZero then nan else infinity (x.sign != y.sign))
  else round (x.sign != y.sign) x.magnitude y.magnitude

/-- `Number::remainder`, the truncating remainder, exact and signed like the dividend. -/
def rem (x y : Float64) : Float64 :=
  if x.isNaN || y.isNaN || x.isInfinite || y.isZero then nan
  else if y.isInfinite || x.isZero then x
  else round x.sign (x.magnitude % y.magnitude) (1 <<< 1074)

instance : Add Float64 := ⟨add⟩
instance : Sub Float64 := ⟨sub⟩
instance : Mul Float64 := ⟨mul⟩
instance : Div Float64 := ⟨div⟩
instance : Neg Float64 := ⟨neg⟩

/-! ## Comparison -/

/-- `Number::lessThan`, with the undefined result of a NaN operand read as `false`. -/
def lt (x y : Float64) : Bool :=
  if x.isNaN || y.isNaN then false
  else if x.isInfinite then x.sign && !(y.isInfinite && y.sign)
  else if y.isInfinite then !y.sign
  else x.units < y.units

/-- `Number::equal`, the `===` of two numbers: NaN is unequal to itself and `+0 === -0`. -/
def equal (x y : Float64) : Bool :=
  if x.isNaN || y.isNaN then false
  else if x.isInfinite || y.isInfinite then x.isInfinite && y.isInfinite && x.sign == y.sign
  else x.units == y.units

/-! ## Integer conversions -/

/-- `ToIntegerOrInfinity` of a finite double: its value truncated toward zero. -/
def truncate (x : Float64) : Int :=
  if x.sign then -((x.magnitude >>> 1074 : Nat) : Int) else (x.magnitude >>> 1074 : Nat)

/-- `ToInt32`: truncate, reduce modulo `2 ^ 32`, read as two's complement; NaN and the
infinities give `0`. -/
def toInt32 (x : Float64) : Int := if x.isFinite then Int.bmod x.truncate (2 ^ 32) else 0

/-- `ToUint32`. -/
def toUint32 (x : Float64) : Nat := if x.isFinite then (x.truncate % 2 ^ 32).toNat else 0

/-- `x | 0`. -/
def orZero (x : Float64) : Float64 := ofInt x.toInt32

/-- `x << y`. -/
def shiftLeft (x y : Float64) : Float64 :=
  ofInt (Int.bmod (x.toInt32 * 2 ^ (y.toUint32 % 32)) (2 ^ 32))

/-- `x >>> y`. -/
def unsignedShiftRight (x y : Float64) : Float64 := ofNat (x.toUint32 >>> (y.toUint32 % 32))

/-- `x >> y`. -/
def signedShiftRight (x y : Float64) : Float64 := ofInt (x.toInt32 >>> (y.toUint32 % 32))

/-- `x & y`. -/
def and (x y : Float64) : Float64 := ofInt (Int.bmod (x.toUint32 &&& y.toUint32 : Nat) (2 ^ 32))

/-- The natural number a double denotes, if it is one (`-0` counts as `0`): the integer index
that a typed array reads for it. -/
def toNat? (x : Float64) : Option Nat :=
  if x.isFinite && x.magnitude % (1 <<< 1074) == 0 && (!x.sign || x.isZero) then
    some (x.magnitude >>> 1074)
  else none

/-- `Math.floor(x) === x`: the infinities count, NaN does not. -/
def isIntegral (x : Float64) : Bool :=
  x.isInfinite || (x.isFinite && x.magnitude % (1 <<< 1074) == 0)

/-! ## Interchange format -/

/-- The 64-bit pattern of a double, as a `Float64Array` stores it. -/
def toBits (x : Float64) : Nat :=
  (if x.sign then 1 <<< 63 else 0) + x.biasedExponent <<< 52 + x.fraction

/-- The double of a 64-bit pattern; every NaN pattern is read as the NaN. -/
def ofBits (bits : Nat) : Float64 :=
  if h : (bits >>> 52) % 2048 = 2047 ∧ bits % 2 ^ 52 ≠ 0 then nan
  else ⟨(bits >>> 63) % 2 = 1, (bits >>> 52) % 2048, bits % 2 ^ 52, Nat.mod_lt _ (by decide),
    Nat.mod_lt _ (Nat.two_pow_pos 52), fun exponent fraction => absurd ⟨exponent, fraction⟩ h⟩

/-- The double of a binary32 pattern, widened exactly as `readFloatLE` does. -/
def ofFloat32Bits (bits : Nat) : Float64 :=
  let negative := (bits >>> 31) % 2 = 1
  let exponent := (bits >>> 23) % 256
  let fraction := bits % 2 ^ 23
  if exponent = 255 then (if fraction = 0 then infinity negative else nan)
  else round negative ((if exponent = 0 then fraction else fraction + 2 ^ 23) <<< (exponent - 1))
    (1 <<< 149)

/-! ## Rounding leaves doubles alone -/

theorem bitLength_one : bitLength 1 = 1 := by decide

theorem roundHalfEven_of_dvd {n d : Nat} (divides : d ∣ n) (positive : 0 < d) :
    roundHalfEven n d = n / d := by
  unfold roundHalfEven
  rw [Nat.mod_eq_zero_of_dvd divides, if_neg (by omega)]

/-- A significand in `[2 ^ 52, 2 ^ 53)` at an exponent of the normal range gives the normal double
with those fields. -/
theorem ofSignificand_normal {negative : Bool} {m : Nat} {e : Int} (lower : 2 ^ 52 ≤ m)
    (upper : m < 2 ^ 53) (least : -1074 ≤ e) (overflow : e < 972) :
    (ofSignificand negative m e).sign = negative ∧
      (ofSignificand negative m e).biasedExponent = (e + 1075).toNat ∧
      (ofSignificand negative m e).magnitude = m <<< (e + 1074).toNat := by
  have biased : 0 < (e + 1075).toNat ∧ (e + 1075).toNat < 2047 := by omega
  have shift : (e + 1075).toNat - 1 = (e + 1074).toNat := by omega
  unfold ofSignificand ofFields
  rw [if_neg (not_lt.2 lower), if_pos upper, dif_pos biased.2]
  refine ⟨rfl, rfl, ?_⟩
  simp only [magnitude, significand, Nat.mod_eq_of_lt (by omega : m - 2 ^ 52 < 2 ^ 52),
    if_neg (Nat.pos_iff_ne_zero.1 biased.1), Nat.sub_add_cancel lower, shift]

/-- The rounding exponent of a natural number is its bit length less 53. -/
theorem roundingExponent_one {n : Nat} (positive : 0 < n) :
    roundingExponent n 1 = (bitLength n : Int) - 53 := by
  obtain ⟨upper, lower⟩ := bitLength_spec n
  have lower := lower positive
  unfold roundingExponent
  simp only [bitLength_one, Nat.cast_one]
  generalize bitLength n = a at upper lower ⊢
  have a_pos : 1 ≤ a := by
    rcases a with _ | a
    · simp at upper; omega
    · omega
  have shifts : (-((a : Int) - 1 - 53)).toNat = 54 - a ∧ ((a : Int) - 1 - 53).toNat = a - 54 := by
    omega
  have target : max ((a : Int) - 1 - 53 + 1) (-1074) = (a : Int) - 53 := by omega
  have balance : 2 ^ 53 * 2 ^ (a - 54) = 2 ^ (a - 1) * 2 ^ (54 - a) := by
    rw [← pow_add, ← pow_add]; congr 1; omega
  have wide : ¬ n * 2 ^ (54 - a) / (1 * 2 ^ (a - 54)) < 2 ^ 53 := by
    rw [Nat.one_mul, not_lt, Nat.le_div_iff_mul_le (Nat.two_pow_pos _), balance]
    exact Nat.mul_le_mul_right _ lower
  simp only [scale, shifts, Nat.shiftLeft_eq, wide, if_false]
  exact target

/-- The exponent arithmetic of `ofNat_exact`, for a bit length `a`. -/
theorem exponent_facts {a : Nat} (a_pos : 1 ≤ a) (bounded : a ≤ 1024) :
    (-((a : Int) - 53)).toNat = 53 - a ∧ ((a : Int) - 53).toNat = a - 53 ∧
      ((a : Int) - 53 + 1075).toNat < 2047 ∧ ((a : Int) - 53 + 1074).toNat = a + 1021 ∧
      -1074 ≤ (a : Int) - 53 ∧ (a : Int) - 53 < 972 := by
  omega

/-- Scaling an `a`-bit number to 53 bits gives a significand in `[2 ^ 52, 2 ^ 53)`. -/
theorem significand_bounds {n a : Nat} (a_pos : 1 ≤ a) (upper : n < 2 ^ a)
    (lower : 2 ^ (a - 1) ≤ n) :
    2 ^ 52 ≤ n <<< (53 - a) / 1 <<< (a - 53) ∧ n <<< (53 - a) / 1 <<< (a - 53) < 2 ^ 53 := by
  have balance52 : 2 ^ 52 * 2 ^ (a - 53) = 2 ^ (a - 1) * 2 ^ (53 - a) := by
    rw [← pow_add, ← pow_add]; congr 1; omega
  have balance53 : 2 ^ 53 * 2 ^ (a - 53) = 2 ^ a * 2 ^ (53 - a) := by
    rw [← pow_add, ← pow_add]; congr 1; omega
  rw [Nat.shiftLeft_eq, Nat.shiftLeft_eq, Nat.one_mul, Nat.le_div_iff_mul_le (Nat.two_pow_pos _),
    Nat.div_lt_iff_lt_mul (Nat.two_pow_pos _), balance52, balance53]
  exact ⟨Nat.mul_le_mul_right _ lower, Nat.mul_lt_mul_of_pos_right upper (Nat.two_pow_pos _)⟩

/-- When the bits dropped by the scaling are zero, shifting the significand back restores the
number, in units of `2⁻¹⁰⁷⁴`. -/
theorem significand_shift {n a : Nat} (divides : 2 ^ (a - 53) ∣ n) :
    (n <<< (53 - a) / 1 <<< (a - 53)) <<< (a + 1021) = n <<< 1074 := by
  rcases le_or_lt a 53 with small | large
  · rw [show a - 53 = 0 by omega, Nat.shiftLeft_zero, Nat.div_one, ← Nat.shiftLeft_add,
      show 53 - a + (a + 1021) = 1074 by omega]
  · obtain ⟨k, rfl⟩ := divides
    rw [show 53 - a = 0 by omega, Nat.shiftLeft_zero, Nat.shiftLeft_eq 1, Nat.one_mul,
      Nat.mul_div_cancel_left _ (Nat.two_pow_pos _), Nat.mul_comm, ← Nat.shiftLeft_eq,
      ← Nat.shiftLeft_add, show a - 53 + 1074 = a + 1021 by omega]

/-- A natural number of at most 1024 bits whose bits below the 53 leading ones are zero is a
double: rounding leaves it as it is, whichever the sign. -/
theorem round_exact (negative : Bool) {n : Nat} (positive : 0 < n) (bounded : bitLength n ≤ 1024)
    (divides : 2 ^ (bitLength n - 53) ∣ n) :
    (round negative n 1).sign = negative ∧ (round negative n 1).biasedExponent < 2047 ∧
      (round negative n 1).magnitude = n <<< 1074 := by
  unfold round
  rw [Nat.gcd_one_right, Nat.div_one, Nat.div_one]
  unfold roundReduced
  rw [if_neg positive.ne', roundingExponent_one positive]
  obtain ⟨upper, lower⟩ := bitLength_spec n
  have lower := lower positive
  generalize bitLength n = a at upper lower divides bounded ⊢
  have a_pos : 1 ≤ a := by
    rcases a with _ | a
    · simp at upper; omega
    · omega
  obtain ⟨m_lower, m_upper⟩ := significand_bounds a_pos upper lower
  obtain ⟨negative_shift, shift, biased, total, least, overflow⟩ := exponent_facts a_pos bounded
  have divides' : 1 <<< (a - 53) ∣ n <<< (53 - a) := by
    rw [Nat.shiftLeft_eq, Nat.shiftLeft_eq, Nat.one_mul]
    exact Dvd.dvd.mul_right divides _
  simp only [scale, negative_shift, shift]
  rw [roundHalfEven_of_dvd divides' (by rw [Nat.shiftLeft_eq, Nat.one_mul]; exact Nat.two_pow_pos _)]
  obtain ⟨sign_eq, exponent_eq, magnitude_eq⟩ :=
    @ofSignificand_normal negative _ ((a : Int) - 53) m_lower m_upper least overflow
  exact ⟨sign_eq, exponent_eq ▸ biased, magnitude_eq.trans (total ▸ significand_shift divides)⟩

theorem ofNat_exact {n : Nat} (positive : 0 < n) (bounded : bitLength n ≤ 1024)
    (divides : 2 ^ (bitLength n - 53) ∣ n) :
    (ofNat n).sign = false ∧ (ofNat n).biasedExponent < 2047 ∧
      (ofNat n).magnitude = n <<< 1074 :=
  round_exact false positive bounded divides

/-- `x` is the double of the natural number `n`. -/
def IsNat (x : Float64) (n : Nat) : Prop :=
  x.sign = false ∧ x.biasedExponent < 2047 ∧ x.magnitude = n <<< 1074

theorem isNat_ofNat_of_dvd {n : Nat} (bounded : bitLength n ≤ 1024)
    (divides : 2 ^ (bitLength n - 53) ∣ n) : IsNat (ofNat n) n := by
  rcases Nat.eq_zero_or_pos n with rfl | positive
  · exact ⟨rfl, by decide, rfl⟩
  · exact ofNat_exact positive bounded divides

theorem bitLength_zero : bitLength 0 = 0 := by decide

/-- Up to `2 ^ 53` a natural number has at most 54 bits, and its bits below the leading 53 are
zero. -/
theorem small_exact {n : Nat} (positive : 0 < n) (small : n ≤ 2 ^ 53) :
    bitLength n ≤ 1024 ∧ 2 ^ (bitLength n - 53) ∣ n := by
  have lower := two_pow_bitLength_le positive
  have top : bitLength n ≤ 54 := by
    by_contra big
    have : 2 ^ 54 ≤ 2 ^ (bitLength n - 1) := Nat.pow_le_pow_right (by decide) (by omega)
    omega
  refine ⟨by omega, ?_⟩
  rcases Nat.lt_or_ge (bitLength n) 54 with short | long
  · rw [show bitLength n - 53 = 0 by omega, pow_zero]
    exact Nat.one_dvd n
  · rw [show bitLength n - 1 = 53 by omega] at lower
    rw [show bitLength n - 53 = 1 by omega, show n = 2 ^ 53 by omega]
    exact dvd_pow_self 2 (by decide)

/-- Up to `2 ^ 53` every natural number is a double. -/
theorem isNat_ofNat {n : Nat} (small : n ≤ 2 ^ 53) : IsNat (ofNat n) n := by
  rcases Nat.eq_zero_or_pos n with rfl | positive
  · exact isNat_ofNat_of_dvd (by rw [bitLength_zero]; decide) (by rw [bitLength_zero]; decide)
  · exact isNat_ofNat_of_dvd (small_exact positive small).1 (small_exact positive small).2

namespace IsNat

variable {x y : Float64} {a b : Nat}

theorem isNaN (h : IsNat x a) : x.isNaN = false := by simp [Float64.isNaN, h.2.1.ne]

theorem isInfinite (h : IsNat x a) : x.isInfinite = false := by
  simp [Float64.isInfinite, h.2.1.ne]

theorem isFinite (h : IsNat x a) : x.isFinite = true := by simp [Float64.isFinite, h.2.1]

theorem units (h : IsNat x a) : x.units = ((a <<< 1074 : Nat) : Int) := by
  simp [Float64.units, h.1, h.2.2]

theorem truncate (h : IsNat x a) : x.truncate = a := by
  simp [Float64.truncate, h.1, h.2.2]

theorem toInt32 (h : IsNat x a) : x.toInt32 = Int.bmod a (2 ^ 32) := by
  simp [Float64.toInt32, h.isFinite, h.truncate]

theorem toUint32 (h : IsNat x a) : x.toUint32 = a % 2 ^ 32 := by
  simp only [Float64.toUint32, h.isFinite, h.truncate, if_true]
  omega

end IsNat

theorem add_shiftLeft (a b k : Nat) : (a + b) <<< k = a <<< k + b <<< k := by
  simp only [Nat.shiftLeft_eq, Nat.add_mul]

theorem shiftLeft_mul_shiftLeft (a b k : Nat) : (a <<< k) * (b <<< k) = (a * b) <<< (k + k) := by
  simp only [Nat.shiftLeft_eq, pow_add]
  exact Nat.mul_mul_mul_comm a (2 ^ k) b (2 ^ k)

theorem shiftLeft_lt_shiftLeft_iff {a b k : Nat} : a <<< k < b <<< k ↔ a < b := by
  simp only [Nat.shiftLeft_eq]
  exact Nat.mul_lt_mul_right (Nat.two_pow_pos k)

theorem shiftLeft_inj {a b k : Nat} : a <<< k = b <<< k ↔ a = b := by
  simp only [Nat.shiftLeft_eq]
  exact Nat.mul_left_inj (Nat.two_pow_pos k).ne'

theorem round_mul_right (negative : Bool) (num den c : Nat) (positive : 0 < c) :
    round negative (num * c) (den * c) = round negative num den := by
  unfold round
  rw [Nat.gcd_mul_right, Nat.mul_div_mul_right _ _ positive, Nat.mul_div_mul_right _ _ positive]

theorem shiftLeft_eq_zero_iff {n k : Nat} : n <<< k = 0 ↔ n = 0 := by
  simp [Nat.shiftLeft_eq]

theorem round_shiftLeft (negative : Bool) (n k : Nat) :
    round negative (n <<< k) (1 <<< k) = round negative n 1 := by
  rw [Nat.shiftLeft_eq, Nat.shiftLeft_eq, round_mul_right _ _ _ _ (Nat.two_pow_pos k)]

theorem ofInt_natCast (n : Nat) : ofInt n = ofNat n := by
  simp only [ofInt, ofNat, Int.natAbs_ofNat, show ¬ ((n : Int) < 0) by omega, decide_False]

theorem bmod_of_lt {n : Nat} (small : n < 2 ^ 31) : Int.bmod n (2 ^ 32) = n := by
  rw [Int.bmod_def, Int.emod_eq_of_lt (by omega) (by omega), if_pos (by omega)]

/-- Exact addition: the sum of two naturals given as doubles is the double of their sum. -/
theorem add_of_isNat {x y : Float64} {a b : Nat} (hx : IsNat x a) (hy : IsNat y b) :
    add x y = ofNat (a + b) := by
  simp only [add, hx.isNaN, hy.isNaN, hx.isInfinite, hy.isInfinite, Bool.or_self,
    Bool.false_eq_true, if_false, hx.units, hy.units, hx.1, hy.1, Bool.and_self]
  rw [← Nat.cast_add, ← add_shiftLeft]
  split
  · next zero =>
    rw [Nat.cast_eq_zero, shiftLeft_eq_zero_iff] at zero
    rw [zero]
    rfl
  · simp only [Int.natAbs_ofNat, Nat.cast_nonneg, not_lt.2, decide_False]
    exact round_shiftLeft false (a + b) 1074

/-- Exact multiplication, rounded once: the product of two naturals given as doubles is the
double nearest to their product. -/
theorem mul_of_isNat {x y : Float64} {a b : Nat} (hx : IsNat x a) (hy : IsNat y b) :
    mul x y = ofNat (a * b) := by
  simp only [mul, hx.isNaN, hy.isNaN, hx.isInfinite, hy.isInfinite, Bool.or_self,
    Bool.false_eq_true, if_false, hx.1, hy.1, hx.2.2, hy.2.2, shiftLeft_mul_shiftLeft]
  exact round_shiftLeft false (a * b) 2148

theorem lt_of_isNat {x y : Float64} {a b : Nat} (hx : IsNat x a) (hy : IsNat y b) :
    lt x y = decide (a < b) := by
  simp only [lt, hx.isNaN, hy.isNaN, hx.isInfinite, hy.isInfinite, Bool.or_self,
    Bool.false_eq_true, if_false, hx.units, hy.units, Int.ofNat_lt, shiftLeft_lt_shiftLeft_iff]

theorem equal_of_isNat {x y : Float64} {a b : Nat} (hx : IsNat x a) (hy : IsNat y b) :
    equal x y = decide (a = b) := by
  simp only [equal, hx.isNaN, hy.isNaN, hx.isInfinite, hy.isInfinite, Bool.or_self,
    Bool.false_eq_true, if_false, hx.units, hy.units]
  rw [Bool.eq_iff_iff, beq_iff_eq, decide_eq_true_iff, Int.ofNat_inj, shiftLeft_inj]

theorem sub_of_isNat {x y : Float64} {a b : Nat} (hx : IsNat x a) (hy : IsNat y b)
    (le : b ≤ a) : sub x y = ofNat (a - b) := by
  have hy' : (neg y).isNaN = false ∧ (neg y).isInfinite = false ∧ (neg y).sign = true ∧
      (neg y).units = -((b <<< 1074 : Nat) : Int) := by
    simp [neg, hy.isNaN, Float64.isNaN, Float64.isInfinite, hy.2.1.ne, Float64.units, hy.1,
      magnitude, significand, hy.2.2.symm]
  simp only [sub, add, hx.isNaN, hy'.1, hx.isInfinite, hy'.2.1, Bool.or_self, Bool.false_eq_true,
    if_false, hx.units, hy'.2.2.2, hx.1, Bool.false_and]
  have difference : ((a <<< 1074 : Nat) : Int) + -((b <<< 1074 : Nat) : Int) =
      (((a - b) <<< 1074 : Nat) : Int) := by
    have split : a <<< 1074 = (a - b) <<< 1074 + b <<< 1074 := by
      rw [← add_shiftLeft, Nat.sub_add_cancel le]
    rw [split, Nat.cast_add, Int.add_neg_cancel_right]
  rw [difference]
  split
  · next zero =>
    rw [Nat.cast_eq_zero, shiftLeft_eq_zero_iff] at zero
    rw [zero]
    rfl
  · simp only [Int.natAbs_ofNat, Nat.cast_nonneg, not_lt.2, decide_False]
    exact round_shiftLeft false (a - b) 1074

theorem shiftLeft_mod_one_shiftLeft (a k : Nat) : a <<< k % 1 <<< k = 0 := by
  rw [Nat.shiftLeft_eq a, Nat.shiftLeft_eq 1, Nat.one_mul, Nat.mul_mod_left]

theorem toNat?_of_isNat {x : Float64} {a : Nat} (hx : IsNat x a) : x.toNat? = some a := by
  simp only [toNat?, hx.isFinite, hx.1, hx.2.2, shiftLeft_mod_one_shiftLeft, Nat.shiftLeft_shiftRight,
    beq_self_eq_true,
    Bool.not_false, Bool.true_or, Bool.and_self, if_true]

theorem ofBits_toBits (x : Float64) : ofBits x.toBits = x := by
  obtain ⟨sign, exponent, fraction, exponent_lt, fraction_lt, canonical⟩ := x
  have shifted : (((if sign then 1 <<< 63 else 0) + exponent <<< 52 + fraction) >>> 52) % 2048 =
      exponent ∧ ((if sign then 1 <<< 63 else 0) + exponent <<< 52 + fraction) % 2 ^ 52 =
      fraction ∧ ((((if sign then 1 <<< 63 else 0) + exponent <<< 52 + fraction) >>> 63) % 2 = 1 ↔
      sign = true) := by
    simp only [Nat.shiftLeft_eq, Nat.shiftRight_eq_div_pow]
    cases sign <;> simp <;> omega
  simp only [toBits, ofBits, shifted.1, shifted.2.1, shifted.2.2, decide_eq_true_eq]
  split
  · next nan_pattern =>
    obtain ⟨rfl, rfl⟩ := canonical nan_pattern.1 nan_pattern.2
    obtain ⟨rfl, -⟩ := nan_pattern
    rfl
  · cases sign <;> rfl

theorem toBits_lt (x : Float64) : x.toBits < 2 ^ 64 := by
  have := x.biasedExponent_lt
  have := x.fraction_lt
  unfold toBits
  simp only [Nat.shiftLeft_eq, Nat.one_mul]
  split <;> omega

/-! ## Naturals below `2 ^ 53`

The cursor arithmetic of the packet readers and writers: on naturals up to `2 ^ 53` the
double operators are the natural ones. -/

@[simp] theorem ofNat_literal (n : Nat) : (OfNat.ofNat n : Float64) = ofNat n := rfl

theorem ofNat_add_ofNat {a b : Nat} (small : a + b ≤ 2 ^ 53) : ofNat a + ofNat b = ofNat (a + b) :=
  add_of_isNat (isNat_ofNat (by omega)) (isNat_ofNat (by omega))

theorem ofNat_sub_ofNat {a b : Nat} (le : b ≤ a) (small : a ≤ 2 ^ 53) :
    ofNat a - ofNat b = ofNat (a - b) :=
  sub_of_isNat (isNat_ofNat small) (isNat_ofNat (by omega)) le

theorem ofNat_mul_ofNat {a b : Nat} (ha : a ≤ 2 ^ 53) (hb : b ≤ 2 ^ 53) :
    ofNat a * ofNat b = ofNat (a * b) :=
  mul_of_isNat (isNat_ofNat ha) (isNat_ofNat hb)

theorem lt_ofNat {a b : Nat} (ha : a ≤ 2 ^ 53) (hb : b ≤ 2 ^ 53) :
    (ofNat a).lt (ofNat b) = decide (a < b) :=
  lt_of_isNat (isNat_ofNat ha) (isNat_ofNat hb)

theorem equal_ofNat {a b : Nat} (ha : a ≤ 2 ^ 53) (hb : b ≤ 2 ^ 53) :
    (ofNat a).equal (ofNat b) = decide (a = b) :=
  equal_of_isNat (isNat_ofNat ha) (isNat_ofNat hb)

theorem toNat?_ofNat {a : Nat} (small : a ≤ 2 ^ 53) : (ofNat a).toNat? = some a :=
  toNat?_of_isNat (isNat_ofNat small)

theorem toUint32_ofNat {a : Nat} (small : a ≤ 2 ^ 53) : (ofNat a).toUint32 = a % 2 ^ 32 :=
  (isNat_ofNat small).toUint32

theorem isNaN_ofNat {a : Nat} (small : a ≤ 2 ^ 53) : (ofNat a).isNaN = false :=
  (isNat_ofNat small).isNaN

theorem isFinite_ofNat {a : Nat} (small : a ≤ 2 ^ 53) : (ofNat a).isFinite = true :=
  (isNat_ofNat small).isFinite

theorem truncate_ofNat {a : Nat} (small : a ≤ 2 ^ 53) : (ofNat a).truncate = a :=
  (isNat_ofNat small).truncate

/-- `a << k` when the result stays below `2 ^ 31`. -/
theorem shiftLeft_ofNat {a k : Nat} (small : a * 2 ^ k < 2 ^ 31) (shift : k < 32) :
    (ofNat a).shiftLeft (ofNat k) = ofNat (a * 2 ^ k) := by
  have low : a < 2 ^ 31 := lt_of_le_of_lt (Nat.le_mul_of_pos_right a (Nat.two_pow_pos k)) small
  simp only [shiftLeft, (isNat_ofNat (show a ≤ 2 ^ 53 by omega)).toInt32,
    toUint32_ofNat (show k ≤ 2 ^ 53 by omega), Nat.mod_eq_of_lt (show k < 2 ^ 32 by omega),
    Nat.mod_eq_of_lt shift, bmod_of_lt low]
  rw [show (a : Int) * 2 ^ k = ((a * 2 ^ k : Nat) : Int) by simp, bmod_of_lt small, ofInt_natCast]

end Float64

end Mysql2Codec.Js
