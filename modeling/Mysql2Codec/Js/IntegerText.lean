import Mysql2Codec.Parser.AsciiNumbers

/-! # `Number::toString` of an integer

A positive integer `N` up to `2 ^ 53` prints as its decimal numeral (`toString_ofNat`).  The
shortest-digits search of `Number::toString` tries `k = 1, 2, ...` digits at the exponent of `N`'s
numeral; since every integer up to `2 ^ 53`, and every even one up to `2 ^ 54`, is a double, a
candidate rounds to `N` only when it is `N`, so the search stops at the first `k` whose
remaining digits of `N` are zeros (`shortestDigits_ofNat`), and the digits with their zeros
written back are the numeral of `N` (`decimal_mul_pow_ten`).
-/

namespace Mysql2Codec.Js

/-- `Nat.toDigitsCore` puts the digits in front of what it is given. -/
theorem toDigitsCore_append : ∀ (fuel n : Nat) (ds : List Char),
    Nat.toDigitsCore 10 fuel n ds = Nat.toDigitsCore 10 fuel n [] ++ ds
  | 0, _, _ => rfl
  | fuel + 1, n, ds => by
    simp only [Nat.toDigitsCore]
    split
    · rfl
    · rw [toDigitsCore_append fuel _ (_ :: ds), toDigitsCore_append fuel _ [_]]
      simp

/-- Enough fuel is enough: more changes nothing. -/
theorem toDigitsCore_fuel : ∀ (fuel fuel' n : Nat) (ds : List Char), n < fuel → n < fuel' →
    Nat.toDigitsCore 10 fuel n ds = Nat.toDigitsCore 10 fuel' n ds
  | 0, _, _, _, inside, _ => absurd inside (Nat.not_lt_zero _)
  | _, 0, _, _, _, inside => absurd inside (Nat.not_lt_zero _)
  | fuel + 1, fuel' + 1, n, ds, inside, inside' => by
    simp only [Nat.toDigitsCore]
    split
    · rfl
    · exact toDigitsCore_fuel fuel fuel' _ _ (by omega) (by omega)

/-- A `0` digit more at the end of the numeral of a positive number. -/
theorem toDigits_mul_ten {n : Nat} (positive : 0 < n) :
    Nat.toDigits 10 (n * 10) = Nat.toDigits 10 n ++ ['0'] := by
  unfold Nat.toDigits
  rw [show n * 10 + 1 = (n * 10) + 1 from rfl, Nat.toDigitsCore]
  simp only [Nat.mul_mod_left, Nat.mul_div_cancel _ (by norm_num : 0 < 10), show n ≠ 0 by omega, if_false]
  rw [toDigitsCore_append, toDigitsCore_fuel (n * 10) (n + 1) n [] (by omega) (by omega)]
  rfl

theorem data_decimal (n : Nat) : (decimal n).data = Nat.toDigits 10 n := rfl

/-- Trailing zeros of a positive number are trailing `0`s of its numeral. -/
theorem decimal_mul_pow_ten {s : Nat} (positive : 0 < s) (m : Nat) :
    decimal (s * 10 ^ m) = decimal s ++ zeros m := by
  induction m with
  | zero => simp [zeros]
  | succ m ih =>
    apply String.ext
    have step := congrArg String.data ih
    simp only [String.data_append, data_decimal] at step
    rw [pow_succ, ← Nat.mul_assoc, data_decimal, toDigits_mul_ten (by positivity), step, String.data_append,
      data_decimal]
    simp [zeros, List.replicate_succ']

namespace Float64

/-- Two doubles that hold naturals are the same double exactly when the naturals are equal. -/
theorem sameAs_ofNat {a b : Nat} (ha : IsNat (ofNat a) a) (hb : IsNat (ofNat b) b) :
    (ofNat a).sameAs (ofNat b) = decide (a = b) := by
  by_cases same : a = b
  · subst same
    simp [sameAs]
  · rw [decide_eq_false same]
    by_contra fields
    simp only [sameAs, Bool.and_eq_true, beq_iff_eq, Bool.not_eq_false] at fields
    have magnitudes := congrArg magnitude (Float64.ext fields.1.1 fields.1.2 fields.2)
    rw [ha.2.2, hb.2.2] at magnitudes
    exact same (shiftLeft_inj.1 magnitudes)

/-- An even natural below `2 ^ 54` is a double. -/
theorem isNat_ofNat_even {c : Nat} (even : 2 ∣ c) (small : c < 2 ^ 54) : IsNat (ofNat c) c := by
  by_cases low : c ≤ 2 ^ 53
  · exact isNat_ofNat low
  · have upper := lt_two_pow_bitLength c
    have lower := two_pow_bitLength_le (show 0 < c by omega)
    have bits : bitLength c = 54 := by
      by_contra other
      rcases Nat.lt_or_gt_of_ne other with fewer | more
      · have := Nat.pow_le_pow_right (show 0 < 2 by norm_num) (show bitLength c ≤ 53 by omega)
        omega
      · have := Nat.pow_le_pow_right (show 0 < 2 by norm_num) (show 54 ≤ bitLength c - 1 by omega)
        omega
    exact isNat_ofNat_of_dvd (by omega) (by rw [bits]; simpa using even)

/-- The search from `k` digits on, for a positive integer `N` within `2 ^ 53` with `L` digits:
it finds digits `s` whose `k'` digits, with `L - k'` zeros after them, make `N`. -/
theorem shortestDigits_ofNat {N L : Nat} (hx : IsNat (ofNat N) N) (small : N ≤ 2 ^ 53) (digits : N < 10 ^ L)
    (short : L ≤ 16) : ∀ fuel k, 1 ≤ k → k ≤ L → L + 1 ≤ fuel + k →
      ∃ s k', shortestDigits (ofNat N) L fuel k = some (s, k') ∧ s * 10 ^ (L - k') = N ∧ k' ≤ L
  | 0, k, _, inside, enough => by omega
  | fuel + 1, k, first, inside, enough => by
    have exponent : ((L : Int) - (k : Int)) = ((L - k : Nat) : Int) := by omega
    have whole : (ofNat N).magnitude >>> 1074 = N := by rw [hx.2.2, Nat.shiftLeft_shiftRight]
    have one : ∀ c, round false c 1 = ofNat c := fun _ => rfl
    simp only [shortestDigits, exponent, Nat.cast_nonneg, if_true, Int.toNat_natCast, whole, roundDecimal, one]
    clear whole
    have power : 0 < 10 ^ (L - k) := by positivity
    have upper := Nat.lt_mul_div_succ N power
    by_cases divides : 10 ^ (L - k) ∣ N
    case pos =>
      have exact : N / 10 ^ (L - k) * 10 ^ (L - k) = N := Nat.div_mul_cancel divides
      have fits : (ofNat (N / 10 ^ (L - k) * 10 ^ (L - k))).sameAs (ofNat N) = true := by
        rw [exact, sameAs_ofNat hx hx, decide_eq_true rfl]
      rw [fits]
      cases (ofNat ((N / 10 ^ (L - k) + 1) * 10 ^ (L - k))).sameAs (ofNat N)
      case false => exact ⟨_, _, rfl, exact, inside⟩
      case true =>
        have closer : (ofNat N).candidateDistance (N / 10 ^ (L - k)) ↑(L - k) <
            (ofNat N).candidateDistance (N / 10 ^ (L - k) + 1) ↑(L - k) := by
          simp only [candidateDistance, Nat.cast_nonneg, if_true, Int.toNat_natCast, hx.2.2, exact, sub_self,
            Int.natAbs_zero, Nat.add_mul, Nat.one_mul]
          have grows : N <<< 1074 < (N + 10 ^ (L - k)) <<< 1074 := shiftLeft_lt_shiftLeft_iff.2 (by omega)
          omega
        exact ⟨_, _, by rw [if_pos closer], exact, inside⟩
    case neg =>
      have far : 1 ≤ L - k := by
        by_contra near
        rw [show L - k = 0 by omega, Nat.pow_zero] at divides
        exact divides (one_dvd N)
      have lower : N / 10 ^ (L - k) * 10 ^ (L - k) < N :=
        lt_of_le_of_ne (Nat.div_mul_le_self N _) fun same => divides ⟨_, by rw [Nat.mul_comm] at same; exact same.symm⟩
      have even : 2 ∣ 10 ^ (L - k) := dvd_pow (by norm_num) (by omega)
      have step : 10 ^ (L - k) ≤ 10 ^ 15 := Nat.pow_le_pow_right (by norm_num) (by omega)
      have missBelow := sameAs_ofNat (isNat_ofNat_even (Dvd.dvd.mul_left even (N / 10 ^ (L - k))) (by omega)) hx
      have missAbove := sameAs_ofNat (isNat_ofNat_even (Dvd.dvd.mul_left even (N / 10 ^ (L - k) + 1))
        (by rw [Nat.add_mul, Nat.one_mul]; omega)) hx
      rw [missBelow, missAbove, decide_eq_false (by omega), decide_eq_false (by rw [Nat.mul_comm]; omega)]
      exact shortestDigits_ofNat hx small digits short fuel (k + 1) (by omega) (by omega) (by omega)

/-- `Number::toString` of a positive integer up to `2 ^ 53`: its decimal numeral. -/
theorem toString_ofNat {N : Nat} (positive : 0 < N) (small : N ≤ 2 ^ 53) : (ofNat N).toString = decimal N := by
  have hx := isNat_ofNat small
  obtain ⟨nonempty, allDigits, value⟩ := Parser.toDigits_digits N
  have length : (decimal N).length = (Nat.toDigits 10 N).length := rfl
  have digits : N < 10 ^ (decimal N).length := by
    have bound := digitsValue_lt allDigits
    rwa [value, ← length] at bound
  have short : (decimal N).length ≤ 16 := Nat.repr_length N 16 (by norm_num) (by omega)
  have first : 1 ≤ (decimal N).length := by
    rw [length]; exact List.length_pos.2 nonempty
  have exponent : decimalExponent (ofNat N) = (decimal N).length := by
    rw [decimalExponent, if_pos (by
      rw [hx.2.2]; exact Nat.le_of_not_lt fun less => by have := shiftLeft_lt_shiftLeft_iff.1 less; omega), hx.2.2,
      Nat.shiftLeft_shiftRight]
  obtain ⟨s, k, found, scaled, le⟩ :=
    shortestDigits_ofNat hx small digits short 17 1 le_rfl first (by omega)
  have nonzero : 0 < s := Nat.pos_of_ne_zero fun zero => by rw [zero, Nat.zero_mul] at scaled; omega
  have fewer : s < 10 ^ k := by
    by_contra more
    have := Nat.mul_le_mul_right (10 ^ ((decimal N).length - k)) (Nat.le_of_not_lt more)
    rw [← Nat.pow_add, Nat.add_sub_cancel' le, scaled] at this
    omega
  simp only [toString, positiveToString, hx.isNaN, (hx.isInt.isZero (by omega)), hx.1, hx.isInfinite,
    Bool.false_eq_true, if_false, exponent, found, if_neg fewer.ne, formatDecimal, Int.toNat_natCast]
  rw [if_pos ⟨by omega, by omega⟩, ← decimal_mul_pow_ten nonzero, scaled]

end Float64

end Mysql2Codec.Js
