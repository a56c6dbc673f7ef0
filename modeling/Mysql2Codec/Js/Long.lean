import Mysql2Codec.Js.Value
import Mysql2Codec.Js.Exact
import Mathlib.Data.Nat.ModEq
import Mathlib.Data.Nat.Digits

/-! # The `long` library

`Long` of the npm package `long` (4.x), the 64-bit integers the codec builds from two 32-bit
words and from decimal strings.  A `Long` is its 64 bits and its signedness flag; the
properties `low` and `high` are the two words read as signed 32-bit numbers, as the library
stores them.

* `Long.new` is the constructor `new Long(low, high, unsigned)`, which keeps `low | 0` and
  `high | 0`;
* `toNumber` is the library's `high * 2 ^ 32 + (low >>> 0)` in doubles;
* `toString` is the decimal numeral of the value, which the library's base-`10 ^ 6` digit loop
  produces;
* `fromNumber` and `fromString` follow the library's code: the range checks of `fromNumber`,
  and the eight-character chunks of `fromString`, each read by `parseInt`;
* `mul` and `add` are the library's 16-bit-limb arithmetic, the product and the sum modulo
  `2 ^ 64`.  Their result takes the receiver's signedness; the library's shortcuts for a zero
  or `MIN_VALUE` operand return signed constants instead, which only `fromString` meets, and it
  sets the flag afterwards.

The last section reads a decimal numeral with `Number(s)`, the other way the packet writer turns
a string into a number.
-/

namespace Mysql2Codec.Js

/-- A `Long`: 64 bits and whether they are read as unsigned. -/
structure Long where
  bits : Nat
  unsigned : Bool
  bits_lt : bits < 2 ^ 64
  deriving DecidableEq

namespace Long

/-- `Long.fromBits(low, high, unsigned)` for words given as their 32-bit patterns. -/
def ofWords (low high : Nat) (unsigned : Bool) : Long :=
  ⟨low % 2 ^ 32 + high % 2 ^ 32 * 2 ^ 32, unsigned, by omega⟩

/-- `new Long(low, high, unsigned)`. -/
def new (low high : Float64) (unsigned : Bool) : Long := ofWords low.toUint32 high.toUint32 unsigned

/-- The same bits under another flag, as `result.unsigned = unsigned` sets it. -/
def withUnsigned (l : Long) (unsigned : Bool) : Long := ⟨l.bits, unsigned, l.bits_lt⟩

/-- `ZERO` and `UZERO`. -/
def zero (unsigned : Bool) : Long := ⟨0, unsigned, by decide⟩

def maxUnsignedValue : Long := ⟨2 ^ 64 - 1, true, by decide⟩

def minValue : Long := ⟨2 ^ 63, false, by decide⟩

def maxValue : Long := ⟨2 ^ 63 - 1, false, by decide⟩

/-- The `low` property: the low word as a signed 32-bit number. -/
def low (l : Long) : Int := Int.bmod (l.bits % 2 ^ 32 : Nat) (2 ^ 32)

/-- The `high` property: the high word as a signed 32-bit number. -/
def high (l : Long) : Int := Int.bmod (l.bits / 2 ^ 32 : Nat) (2 ^ 32)

/-- The integer a `Long` stands for. -/
def value (l : Long) : Int := if l.unsigned then l.bits else Int.bmod l.bits (2 ^ 64)

/-- `long.neg()`: two's complement negation, the flag kept. -/
def neg (l : Long) : Long := ⟨(2 ^ 64 - l.bits) % 2 ^ 64, l.unsigned, Nat.mod_lt _ (by decide)⟩

def mul (a b : Long) : Long := ⟨a.bits * b.bits % 2 ^ 64, a.unsigned, Nat.mod_lt _ (by decide)⟩

def add (a b : Long) : Long := ⟨(a.bits + b.bits) % 2 ^ 64, a.unsigned, Nat.mod_lt _ (by decide)⟩

/-- `long.toNumber()`. -/
def toNumber (l : Long) : Float64 :=
  if l.unsigned then
    Float64.ofNat (l.bits / 2 ^ 32) * Float64.ofNat (2 ^ 32) + Float64.ofNat (l.bits % 2 ^ 32)
  else Float64.ofInt l.high * Float64.ofNat (2 ^ 32) + Float64.ofNat (l.bits % 2 ^ 32)

/-- `long.toString()`: the decimal numeral of the value. -/
def toString (l : Long) : String :=
  if l.value < 0 then "-" ++ decimal l.value.natAbs else decimal l.value.natAbs

/-- The range checks at the head of `Long.fromNumber`: NaN, and the values beyond the range of
the flag, map to the library's constants. -/
def fromNumberLimit (value : Float64) (unsigned : Bool) : Option Long :=
  if value.isNaN then some (zero unsigned)
  else if unsigned then
    if value.lt 0 then some (zero true)
    else if !value.lt (Float64.ofNat (2 ^ 64)) then some maxUnsignedValue
    else none
  else if !(-Float64.ofNat (2 ^ 63)).lt value then some minValue
  else if !(value + 1).lt (Float64.ofNat (2 ^ 63)) then some maxValue
  else none

/-- The last line of `Long.fromNumber`:
`fromBits((value % TWO_PWR_32_DBL) | 0, (value / TWO_PWR_32_DBL) | 0, unsigned)`. -/
def fromNumberBits (value : Float64) (unsigned : Bool) : Long :=
  ofWords (Float64.rem value (.ofNat (2 ^ 32))).toUint32 (value / .ofNat (2 ^ 32)).toUint32 unsigned

/-- `Long.fromNumber(value, unsigned)`; a negative value is converted through `-value`. -/
def fromNumber (value : Float64) (unsigned : Bool) : Long :=
  (fromNumberLimit value unsigned).getD <|
    if value.lt 0 then
      ((fromNumberLimit (-value) unsigned).getD (fromNumberBits (-value) unsigned)).neg
    else fromNumberBits value unsigned

/-- The digit loop of `Long.fromString`: eight characters at a time, read by `parseInt` and added
to `result * 10 ^ size`; `fuel` bounds the number of chunks. -/
def fromStringChunks : Nat → List Char → Long → Long
  | 0, _, result => result
  | fuel + 1, chars, result =>
    if chars.isEmpty then result
    else
      let chunk := chars.take 8
      fromStringChunks fuel (chars.drop 8)
        ((result.mul (fromNumber (.ofNat (10 ^ chunk.length)) false)).add
          (fromNumber (parseInt (String.mk chunk)) false))

/-- `Long.fromString(str, unsigned, 10)`: the names of NaN and the infinities are zero, a
leading `-` negates the rest, any other `-` is an error. -/
def fromString (unsigned : Bool) : List Char → Except JSError Long
  | [] => .error (.error "empty string")
  | chars@(c :: rest) =>
    if chars = "NaN".toList ∨ chars = "Infinity".toList ∨ chars = "+Infinity".toList ∨
        chars = "-Infinity".toList then .ok (zero false)
    else if c = '-' then (fromString unsigned rest).map neg
    else if '-' ∈ rest then .error (.error "interior hyphen")
    else .ok ((fromStringChunks chars.length chars (zero false)).withUnsigned unsigned)

/-! ## Values

The conversions between `Long`s and doubles are exact where the codec uses them: a natural
number held by a double becomes the `Long` of its bits, and an unsigned `Long` becomes the
double nearest to its value.  `fromString` of a decimal numeral is its value modulo `2 ^ 64`. -/

open Float64

@[simp] theorem bits_ofWords (low high : Nat) (unsigned : Bool) :
    (ofWords low high unsigned).bits = low % 2 ^ 32 + high % 2 ^ 32 * 2 ^ 32 := rfl

@[simp] theorem bits_withUnsigned (l : Long) (unsigned : Bool) : (l.withUnsigned unsigned).bits = l.bits :=
  rfl

@[simp] theorem unsigned_withUnsigned (l : Long) (unsigned : Bool) :
    (l.withUnsigned unsigned).unsigned = unsigned := rfl

@[simp] theorem bits_mul (a b : Long) : (a.mul b).bits = a.bits * b.bits % 2 ^ 64 := rfl

@[simp] theorem bits_add (a b : Long) : (a.add b).bits = (a.bits + b.bits) % 2 ^ 64 := rfl

theorem value_of_unsigned {l : Long} (unsigned : l.unsigned = true) : l.value = l.bits := by
  simp [value, unsigned]

theorem toString_of_unsigned {l : Long} (unsigned : l.unsigned = true) :
    l.toString = decimal l.bits := by
  rw [toString, value_of_unsigned unsigned, if_neg (by omega), Int.natAbs_ofNat]

/-- An unsigned `Long` converts to the double nearest to its value: the high word times
`2 ^ 32` is exact, and the one addition rounds. -/
theorem toNumber_of_unsigned {l : Long} (unsigned : l.unsigned = true) :
    l.toNumber = Float64.ofNat l.bits := by
  have high : l.bits / 2 ^ 32 < 2 ^ 32 := by have := l.bits_lt; omega
  simp only [toNumber, unsigned, if_true]
  rw [ofNat_mul_ofNat (by omega) (by decide)]
  exact (add_of_isNat (isNat_ofNat_mul_two_pow 32 (by omega) (by decide))
    (isNat_ofNat (by omega))).trans (congrArg _ (Nat.div_add_mod' _ _))

/-- A signed `Long` converts to the double nearest to its value: the high word times `2 ^ 32`
is exact whatever its sign, and the one addition of the low word rounds. -/
theorem toNumber_of_signed {l : Long} (signed : l.unsigned = false) : l.toNumber = Float64.ofInt l.value := by
  have bits := l.bits_lt
  have highWord : l.high.natAbs ≤ 2 ^ 31 := by
    unfold high
    have upper := @Int.bmod_le ((l.bits / 2 ^ 32 : Nat) : Int) (2 ^ 32) (by norm_num)
    have lower := @Int.le_bmod ((l.bits / 2 ^ 32 : Nat) : Int) (2 ^ 32) (by norm_num)
    omega
  have product : IsInt (Float64.ofInt l.high * Float64.ofNat (2 ^ 32)) (l.high * 2 ^ 32) := by
    rw [mul_of_isInt (isInt_ofInt (by omega)) (isNat_ofNat (by norm_num)),
      show (Float64.ofInt l.high).sign = decide (l.high < 0) from sign_round _ _ _]
    have exact := isInt_round_of_isNat (decide (l.high < 0))
      (@isNat_ofNat_mul_two_pow l.high.natAbs 32 (by omega) (by norm_num))
    have signed : (if decide (l.high < 0) = true then -((l.high.natAbs * 2 ^ 32 : Nat) : Int)
        else ((l.high.natAbs * 2 ^ 32 : Nat) : Int)) = l.high * 2 ^ 32 := by
      split_ifs with negative <;> simp only [decide_eq_true_eq] at negative <;> omega
    rwa [signed] at exact
  have low := isNat_ofNat (show l.bits % 2 ^ 32 ≤ 2 ^ 53 by omega)
  have sum : l.high * 2 ^ 32 + ((l.bits % 2 ^ 32 : Nat) : Int) = l.value := by
    simp only [value, high, signed, Bool.false_eq_true, if_false, Int.bmod_def]
    omega
  simp only [toNumber, signed, Bool.false_eq_true, if_false]
  rw [add_of_isInt product low.isInt low.1, sum]

theorem fromNumberBits_of_isInt {x : Float64} {v : Nat} (hx : IsInt x v) (unsigned : Bool) :
    (fromNumberBits x unsigned).bits = v % 2 ^ 64 := by
  simp only [fromNumberBits, bits_ofWords, (isInt_rem (k := 32) hx (by decide)).toUint32,
    toUint32_div_of_isInt (k := 32) hx (by decide)]
  omega

theorem isNat_ofNat_two_pow {k : Nat} (range : k ≤ 971) : IsNat (Float64.ofNat (2 ^ k)) (2 ^ k) := by
  simpa only [Nat.one_mul] using isNat_ofNat_mul_two_pow (h := 1) k (by decide) range

/-- `Long.fromNumber(value, true)` of a double holding a natural below `2 ^ 64`. -/
theorem fromNumber_of_isInt {x : Float64} {v : Nat} (hx : IsInt x v) (small : v < 2 ^ 64) :
    (fromNumber x true).bits = v := by
  have zero : IsInt (0 : Float64) 0 := (isNat_ofNat (by decide)).isInt
  have limit := (isNat_ofNat_two_pow (k := 64) (by decide)).isInt
  have positive : x.lt 0 = false := by
    rw [lt_of_isInt hx zero]
    exact decide_eq_false (by omega)
  have below : x.lt (Float64.ofNat (2 ^ 64)) = true := by
    rw [lt_of_isInt hx limit]
    exact decide_eq_true (by exact_mod_cast small)
  simp only [fromNumber, fromNumberLimit, hx.isNaN, positive, below, Bool.false_eq_true, if_false,
    if_true, Bool.not_true, Option.getD_none]
  rw [fromNumberBits_of_isInt hx, Nat.mod_eq_of_lt small]

/-- `Long.fromNumber(c)` of a small natural. -/
theorem fromNumber_signed {c : Nat} (small : c + 1 ≤ 2 ^ 53) :
    (fromNumber (Float64.ofNat c) false).bits = c := by
  have hc := isNat_ofNat (show c ≤ 2 ^ 53 by omega)
  have low := (isNat_ofNat_two_pow (k := 63) (by decide)).isInt.neg
  have limit := isNat_ofNat_two_pow (k := 63) (by decide)
  have zero : IsInt (0 : Float64) 0 := (isNat_ofNat (by decide)).isInt
  have above : (-Float64.ofNat (2 ^ 63)).lt (Float64.ofNat c) = true := by
    rw [lt_of_isInt low hc.isInt]
    exact decide_eq_true (by omega)
  have below : (Float64.ofNat c + 1).lt (Float64.ofNat (2 ^ 63)) = true := by
    rw [ofNat_literal, ofNat_add_ofNat small, lt_of_isNat (isNat_ofNat small) limit]
    exact decide_eq_true (by omega)
  have positive : (Float64.ofNat c).lt 0 = false := by
    rw [lt_of_isInt hc.isInt zero]
    exact decide_eq_false (by omega)
  simp only [fromNumber, fromNumberLimit, hc.isNaN, above, below, positive, Bool.not_true,
    Bool.false_eq_true, if_false, Option.getD_none]
  rw [fromNumberBits_of_isInt hc.isInt, Nat.mod_eq_of_lt (by omega)]

/-- Reducing modulo `2 ^ 64` between two chunks changes nothing modulo `2 ^ 64`. -/
theorem chunk_mod (r a b c d N : Nat) :
    ((r * a % N + b) % N * c + d) % N = (r * (a * c) + (b * c + d)) % N := by
  have step : (r * a % N + b) % N ≡ r * a + b [MOD N] :=
    (Nat.mod_modEq _ _).trans ((Nat.mod_modEq _ _).add_right b)
  rw [(step.mul_right c).add_right d, Nat.add_mul, Nat.mul_assoc, Nat.add_assoc]

/-- The chunk loop keeps the value of the digits read so far, modulo `2 ^ 64`. -/
theorem fromStringChunks_bits : ∀ (fuel : Nat) (chars : List Char) (result : Long),
    chars.all isDecimalDigit = true → chars.length ≤ 8 * fuel →
    (fromStringChunks fuel chars result).bits = (result.bits * 10 ^ chars.length + digitsValue chars) % 2 ^ 64
  | 0, chars, result, _, short => by
    obtain rfl : chars = [] := List.eq_nil_of_length_eq_zero (by omega)
    simpa [fromStringChunks, digitsValue] using (Nat.mod_eq_of_lt result.bits_lt).symm
  | fuel + 1, [], result, _, _ => by
    simpa [fromStringChunks, digitsValue] using (Nat.mod_eq_of_lt result.bits_lt).symm
  | fuel + 1, c :: rest, result, digits, short => by
    have whole := List.take_append_drop 8 (c :: rest)
    have chunkDigits : ((c :: rest).take 8).all isDecimalDigit = true :=
      List.all_eq_true.2 fun x hx => List.all_eq_true.1 digits x (List.mem_of_mem_take hx)
    have restDigits : ((c :: rest).drop 8).all isDecimalDigit = true :=
      List.all_eq_true.2 fun x hx => List.all_eq_true.1 digits x (List.mem_of_mem_drop hx)
    have width : 10 ^ ((c :: rest).take 8).length ≤ 10 ^ 8 :=
      Nat.pow_le_pow_right (by decide) (by simp [List.length_take])
    have power : (fromNumber (Float64.ofNat (10 ^ ((c :: rest).take 8).length)) false).bits =
        10 ^ ((c :: rest).take 8).length := fromNumber_signed (by omega)
    have chunk : (fromNumber (parseInt (String.mk ((c :: rest).take 8))) false).bits =
        digitsValue ((c :: rest).take 8) := by
      rw [parseInt_digits (by simp) chunkDigits]
      exact fromNumber_signed (by have := digitsValue_lt chunkDigits; omega)
    simp only [fromStringChunks, List.isEmpty_cons, Bool.false_eq_true, if_false]
    rw [fromStringChunks_bits fuel _ _ restDigits (by simp only [List.length_drop] at short ⊢; omega),
      bits_add, bits_mul, power, chunk]
    conv_rhs => rw [← whole, digitsValue_append, List.length_append, pow_add]
    exact chunk_mod _ _ _ _ _ _

/-- `Long.fromString` of a decimal numeral: its value modulo `2 ^ 64`, under the flag asked for. -/
theorem fromString_digits {chars : List Char} (nonempty : chars ≠ [])
    (digits : chars.all isDecimalDigit = true) (unsigned : Bool) :
    ∃ l, fromString unsigned chars = .ok l ∧ l.bits = digitsValue chars % 2 ^ 64 ∧
      l.unsigned = unsigned := by
  obtain ⟨c, rest, rfl⟩ := List.exists_cons_of_ne_nil nonempty
  have digit : ∀ x ∈ c :: rest, isDecimalDigit x = true := List.all_eq_true.1 digits
  have named : ¬(c :: rest = "NaN".toList ∨ c :: rest = "Infinity".toList ∨
      c :: rest = "+Infinity".toList ∨ c :: rest = "-Infinity".toList) := by
    rintro (h | h | h | h) <;> rw [h] at digits <;> exact absurd digits (by decide)
  have sign : c ≠ '-' := fun h => absurd (digit c (by simp)) (by rw [h]; decide)
  have hyphen : '-' ∉ rest := fun h => absurd (digit '-' (by simp [h])) (by decide)
  simp only [fromString, named, sign, hyphen, if_false]
  refine ⟨_, rfl, ?_, rfl⟩
  rw [bits_withUnsigned, fromStringChunks_bits _ _ _ digits (by omega)]
  simp [zero]

end Long

/-! ## `Number` of a digit string -/

theorem dropWhile_whiteSpace_digits : ∀ {xs : List Char}, xs.all isDecimalDigit = true →
    xs.dropWhile isWhiteSpace = xs
  | [], _ => rfl
  | c :: ys, digits => by
    simp only [List.all_cons, Bool.and_eq_true] at digits
    rw [List.dropWhile_cons, not_whiteSpace_of_digit digits.1]
    rfl

theorem dropWhile_digits {xs : List Char} (digits : xs.all isDecimalDigit = true) :
    xs.dropWhile isDecimalDigit = [] :=
  List.dropWhile_eq_nil_iff.2 fun c h => List.all_eq_true.1 digits c h

/-- The decimal branch of `StringToNumber` on digits alone: their value, rounded once. -/
theorem unsignedDecimalValue_digits (negative : Bool) {chars : List Char} (nonempty : chars ≠ [])
    (digits : chars.all isDecimalDigit = true) (size : (decimal (digitsValue chars)).length ≤ 400) :
    unsignedDecimalValue negative chars = some (Float64.round negative (digitsValue chars) 1) := by
  have named : chars ≠ "Infinity".toList := by
    rintro rfl
    exact absurd digits (by decide)
  simp only [unsignedDecimalValue, named, if_false, takeWhile_digits digits, dropWhile_digits digits,
    List.append_nil, List.isEmpty_eq_true, List.isEmpty_nil, Bool.and_true, Option.map_some',
    roundScientific, if_neg nonempty, List.length_nil, Nat.cast_zero, sub_zero, add_zero, le_refl,
    if_true, Int.toNat_zero, pow_zero, Nat.mul_one]
  split_ifs with zero big tiny
  · rw [zero, Float64.round_zero]
  · omega
  · omega
  · rfl

/-- A numeral that ends in a digit and starts with no space is its own trimmed text. -/
theorem trim_numeral {c : Char} {chars : List Char} (first : isWhiteSpace c = false)
    (nonempty : chars ≠ []) (digits : chars.all isDecimalDigit = true) :
    (((c :: chars).dropWhile isWhiteSpace).reverse.dropWhile isWhiteSpace).reverse = c :: chars := by
  have reversed : chars.reverse.all isDecimalDigit = true := by simpa using digits
  obtain ⟨x, xs, split⟩ := List.exists_cons_of_ne_nil (List.reverse_ne_nil_iff.2 nonempty)
  have digit : isDecimalDigit x = true := by
    rw [split, List.all_cons, Bool.and_eq_true] at reversed
    exact reversed.1
  rw [List.dropWhile_cons_of_neg (by simp [first]), List.reverse_cons, split, List.cons_append,
    List.dropWhile_cons_of_neg (by simp [not_whiteSpace_of_digit digit]), ← List.cons_append, ← split,
    List.reverse_append, List.reverse_reverse]
  rfl

/-- `Number(s)` of a string of decimal digits is their value rounded, leading zeros or not. -/
theorem stringToNumber_unsigned_digits {chars : List Char} (nonempty : chars ≠ [])
    (digits : chars.all isDecimalDigit = true) (size : (decimal (digitsValue chars)).length ≤ 400) :
    stringToNumber (String.mk chars) = Float64.round false (digitsValue chars) 1 := by
  have reversed : chars.reverse.all isDecimalDigit = true := by simpa using digits
  have trim : ((chars.dropWhile isWhiteSpace).reverse.dropWhile isWhiteSpace).reverse = chars := by
    rw [dropWhile_whiteSpace_digits digits, dropWhile_whiteSpace_digits reversed, List.reverse_reverse]
  simp only [stringToNumber, String.toList, trim]
  split
  -- every branch but the last starts with a sign, a radix prefix or nothing
  all_goals first
    | exact absurd rfl nonempty
    | (simp only [List.all_cons, Bool.and_eq_true] at digits; exact absurd digits.2.1 (by decide))
    | (simp only [List.all_cons, Bool.and_eq_true] at digits; exact absurd digits.1 (by decide))
    | skip
  rw [unsignedDecimalValue_digits false nonempty digits size]
  rfl

/-- `Number(s)` of a string of at most 400 decimal digits is the double nearest to their value. -/
theorem stringToNumber_digits {chars : List Char} (nonempty : chars ≠ [])
    (digits : chars.all isDecimalDigit = true) (short : chars.length ≤ 400) :
    stringToNumber (String.mk chars) = Float64.ofNat (digitsValue chars) :=
  stringToNumber_unsigned_digits nonempty digits
    ((Nat.repr_length _ _ (List.length_pos.2 nonempty) (digitsValue_lt digits)).trans short)

end Mysql2Codec.Js
