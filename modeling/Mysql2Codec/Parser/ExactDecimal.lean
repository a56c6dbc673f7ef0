import Mysql2Codec.Parser.AsciiNumbers

/-! # `floatAscii` read exactly

`PacketParser.floatAscii` accumulates the digits of a decimal numeral in one double and the
power of ten to divide by in another, and hands an exponent to `Number` and `Math.pow`.  On
doubles the result is rounded at every step; this module reads the same code with every number
exact, to say what the loop computes before any rounding:

* `stringToRat` and `powTen` are `Number(s)` and `Math.pow(10, e)` read exactly, and
  `floatAsciiExact` is `floatAscii` running the same loop, `floatAsciiLoop`, on `exactReading`:
  exact positions, rationals for its accumulators and `none` for NaN;
* `DecimalNumeral` is the form the loop is written for, with its text and its rational value;
* the loop is run piece by piece over the text a buffer holds, from its one-step lemmas: the
  digits (`floatAsciiLoop_exact_digits`, by induction on them), the point and the fraction
  (`floatAsciiLoop_exact_fraction`), and the exponent (`floatAsciiLoop_exact_exponentChars`);
* `floatAsciiExact_reads_decimal_numerals`: over every such numeral, at every offset, the exact
  reading is the numeral's value.
-/

namespace Mysql2Codec.Parser

open Js Float64 Packet PacketParser

/-! ## `Number(s)` and `Math.pow` read exactly -/

/-- The decimal branch of `StringToNumber` read exactly: the value of the digits with their
fraction and exponent, and `none` for `Infinity`, which is no rational. -/
def unsignedDecimalRat (chars : List Char) : Option ℚ :=
  if chars = "Infinity".toList then none else
  let whole := chars.takeWhile isDecimalDigit
  let afterWhole := chars.dropWhile isDecimalDigit
  let (fraction, afterFraction) := match afterWhole with
    | '.' :: rest => (rest.takeWhile isDecimalDigit, rest.dropWhile isDecimalDigit)
    | rest => ([], rest)
  let exponent := match afterFraction with
    | [] => some 0
    | c :: rest => if c = 'e' ∨ c = 'E' then exponentValue rest else none
  if whole.isEmpty && fraction.isEmpty then none
  else exponent.map fun (e : Int) => (digitsValue (whole ++ fraction) : ℚ) * 10 ^ (e - fraction.length)

/-- `StringToNumber` read exactly: the value of the trimmed literal, `0` when it is empty, and
`none` for NaN and the infinities. -/
def stringToRat (s : String) : Option ℚ :=
  let trimmed := ((s.toList.dropWhile isWhiteSpace).reverse.dropWhile isWhiteSpace).reverse
  let nonDecimal (radix : Nat) (digits : List Char) : Option ℚ :=
    if digits.isEmpty then none else (radixValue radix digits).map fun v => (v : ℚ)
  match trimmed with
  | [] => some 0
  | '0' :: 'x' :: digits | '0' :: 'X' :: digits => nonDecimal 16 digits
  | '0' :: 'o' :: digits | '0' :: 'O' :: digits => nonDecimal 8 digits
  | '0' :: 'b' :: digits | '0' :: 'B' :: digits => nonDecimal 2 digits
  | '-' :: rest => (unsignedDecimalRat rest).map fun v => -v
  | '+' :: rest => unsignedDecimalRat rest
  | rest => unsignedDecimalRat rest

/-- `Math.pow(10, e)` read exactly: a power of ten for an integer `e`; for any other `e` the
power is irrational, and the exact reading has no value for it. -/
def powTen (e : ℚ) : Option ℚ := if e.den = 1 then some (10 ^ e.num) else none

/-! ## `floatAscii` read exactly -/

/-- `buffer[i] === code` at an exact position. -/
def byteAt (buffer : Buffer) (i : Nat) (code : UInt8) : Bool := buffer.bytes[i]? = some code

/-- `buffer[i] - 0x30` read exactly: `none`, NaN, past the buffer's end. -/
def digitRat (buffer : Buffer) (i : Nat) : Option ℚ :=
  buffer.bytes[i]?.map fun byte => (byte.toNat : ℚ) - 0x30

/-- The arithmetic of `floatAscii`'s loop with every operation exact: the positions are naturals,
the accumulator a rational or `none` for NaN, the divisor a rational. -/
def exactReading (buffer : Buffer) (stop : Nat) : FloatAsciiReading Nat (Option ℚ) ℚ where
  before offset := decide (offset < stop)
  next offset := offset + 1
  isByte := byteAt buffer
  addDigit result offset := do
    let result ← result
    let digit ← digitRat buffer offset
    pure (result * 10 + digit)
  scale factor := factor * 10
  divide result factor := result.map (· / factor)
  exponent result factor offset := do
    let power ← (stringToRat (buffer.asciiSlice (.ofNat (offset + 1)) (.ofNat stop))).bind powTen
    let result ← result
    pure (result / factor * power)

section ExactReading

variable (buffer : Buffer) (stop : Nat)

@[simp] theorem exactReading_next (offset : Nat) : (exactReading buffer stop).next offset = offset + 1 := rfl

@[simp] theorem exactReading_addDigit (result : ℚ) (offset : Nat) :
    (exactReading buffer stop).addDigit (some result) offset = (digitRat buffer offset).map (result * 10 + ·) := by
  simp only [exactReading, Option.bind_eq_bind, Option.some_bind, Option.pure_def]
  cases digitRat buffer offset <;> rfl

@[simp] theorem exactReading_scale (factor : ℚ) : (exactReading buffer stop).scale factor = factor * 10 := rfl

@[simp] theorem exactReading_divide (result : Option ℚ) (factor : ℚ) :
    (exactReading buffer stop).divide result factor = result.map (· / factor) := rfl

end ExactReading

/-- `floatAscii(buffer, offset, length)` with every operation exact, for a given offset and
length. -/
def floatAsciiExact (buffer : Buffer) (offset length : Nat) : Option ℚ :=
  let stop := offset + length
  if length = 0 then none
  else
    let (offset, factor) := if byteAt buffer offset 0x2D then (offset + 1, (-1 : ℚ)) else (offset, 1)
    let offset := if byteAt buffer offset 0x2B then offset + 1 else offset
    floatAsciiLoop (exactReading buffer stop) (stop - offset + 1) offset (some 0) factor false

/-! ## Decimal numerals -/

/-- A numeral of the form `floatAscii` reads: an optional sign, digits, an optional `.` followed
by more digits, at least one digit in all, and an optional exponent: `e` or `E`, then an integer
numeral. -/
structure DecimalNumeral where
  sign : Sign
  whole : List Char
  fraction : Option (List Char)
  exponent : Option (Bool × IntNumeral)
  whole_digits : whole.all isDecimalDigit = true
  fraction_digits : (fraction.getD []).all isDecimalDigit = true
  mantissa_digit : whole ++ fraction.getD [] ≠ []

/-- The characters of the optional fraction: a point, then its digits. -/
def fractionChars : Option (List Char) → List Char
  | none => []
  | some digits => '.' :: digits

/-- The characters of the optional exponent: `e` or `E`, then its numeral. -/
def exponentChars : Option (Bool × IntNumeral) → List Char
  | none => []
  | some (capital, e) => (if capital then 'E' else 'e') :: (e.sign.text ++ e.digits)

/-- The power of ten the optional exponent stands for. -/
def exponentPower : Option (Bool × IntNumeral) → Int
  | none => 0
  | some (_, e) => e.value

namespace DecimalNumeral

def text (n : DecimalNumeral) : String :=
  String.mk (n.sign.text ++ n.whole ++ fractionChars n.fraction ++ exponentChars n.exponent)

/-- The rational value of the numeral. -/
def value (n : DecimalNumeral) : ℚ :=
  (n.sign.apply (digitsValue (n.whole ++ n.fraction.getD [])) : ℚ) / 10 ^ (n.fraction.getD []).length *
    10 ^ exponentPower n.exponent

end DecimalNumeral

/-! ## Reading the exponent -/

theorem unsignedDecimalRat_digits {chars : List Char} (nonempty : chars ≠ [])
    (digits : chars.all isDecimalDigit = true) :
    unsignedDecimalRat chars = some (digitsValue chars : ℚ) := by
  have named : chars ≠ "Infinity".toList := by
    rintro rfl
    exact absurd digits (by decide)
  rw [unsignedDecimalRat, if_neg named]
  simp [takeWhile_digits digits, dropWhile_digits digits, nonempty]

/-- `Number(s)` read exactly of an integer numeral is its value. -/
theorem stringToRat_text (n : IntNumeral) : stringToRat n.text = some (n.value : ℚ) := by
  obtain ⟨sign, digits, nonempty, all⟩ := n
  cases sign
  · have reversed : digits.reverse.all isDecimalDigit = true := by simpa using all
    have trim : ((digits.dropWhile isWhiteSpace).reverse.dropWhile isWhiteSpace).reverse = digits := by
      rw [dropWhile_whiteSpace_digits all, dropWhile_whiteSpace_digits reversed, List.reverse_reverse]
    simp only [stringToRat, IntNumeral.text, Sign.text, List.nil_append, String.toList, trim]
    split
    -- every branch but the last starts with a sign, a radix prefix or nothing
    all_goals first
      | exact absurd rfl nonempty
      | (simp only [List.all_cons, Bool.and_eq_true] at all; exact absurd all.2.1 (by decide))
      | (simp only [List.all_cons, Bool.and_eq_true] at all; exact absurd all.1 (by decide))
      | skip
    rw [unsignedDecimalRat_digits nonempty all]
    simp [IntNumeral.value, Sign.apply, Sign.negative]
  -- after a sign the literal is read by its decimal branch, which the match reaches by reduction
  · unfold stringToRat
    rw [show (IntNumeral.text ⟨.minus, digits, nonempty, all⟩).toList = '-' :: digits from rfl,
      trim_numeral (c := '-') (by decide) nonempty all]
    exact (congrArg (Option.map fun v => -v) (unsignedDecimalRat_digits nonempty all)).trans
      (by simp [IntNumeral.value, Sign.apply, Sign.negative])
  · unfold stringToRat
    rw [show (IntNumeral.text ⟨.plus, digits, nonempty, all⟩).toList = '+' :: digits from rfl,
      trim_numeral (c := '+') (by decide) nonempty all]
    exact (unsignedDecimalRat_digits nonempty all).trans (by simp [IntNumeral.value, Sign.apply, Sign.negative])

theorem powTen_intCast (e : Int) : powTen e = some (10 ^ e) := by
  simp [powTen]

/-- An ASCII character survives the round trip through its byte. -/
theorem asciiChar_byte {c : Char} (ascii : c.toNat < 128) :
    Buffer.asciiChar (UInt8.ofNat c.toNat) = c := by
  rw [Buffer.asciiChar, UInt8.toNat_ofNat_of_lt (by show c.toNat < 256; omega), Nat.mod_eq_of_lt ascii,
    Char.ofNat_toNat]

/-- `buf.toString('ascii', i, i + n)` at exact positions of an ASCII text of length `n` held at `i`
is that text. -/
theorem asciiSlice_of_holds {b : Buffer} {i : Nat} {cs : List Char}
    (holds : b.Holds i (asciiBytes (String.mk cs))) (ascii : ∀ c ∈ cs, c.toNat < 128) :
    b.asciiSlice (ofNat i) (ofNat (i + cs.length)) = String.mk cs := by
  have fits := holds.fits
  have window := holds.window
  simp only [asciiBytes_mk, List.length_map] at fits window
  have stop := Buffer.small_of_le fits
  have start : Buffer.textStart (ofNat i) = i := by
    simp [Buffer.textStart, isNaN_ofNat (show i ≤ 2 ^ 53 by omega), isFinite_ofNat (show i ≤ 2 ^ 53 by omega),
      truncate_ofNat (show i ≤ 2 ^ 53 by omega)]
  have last : Buffer.textEnd b.length (ofNat (i + cs.length)) = i + cs.length := by
    simp only [Buffer.textEnd, isNaN_ofNat stop, (isNat_ofNat stop).isInfinite, truncate_ofNat stop,
      Bool.false_eq_true, if_false]
    rw [show ((i + cs.length : Nat) : Int).toNat = i + cs.length from rfl]
    exact min_eq_left fits
  rw [Buffer.asciiSlice, start, last, List.drop_take, Nat.add_sub_cancel_left, window, List.map_map]
  congr 1
  exact (List.map_congr_left fun c mem => asciiChar_byte (ascii c mem)).trans (List.map_id cs)

/-- The characters of an integer numeral are ASCII. -/
theorem IntNumeral.ascii (n : IntNumeral) : ∀ c ∈ n.sign.text ++ n.digits, c.toNat < 128 := by
  obtain ⟨sign, digits, -, all⟩ := n
  intro c mem
  rcases List.mem_append.1 mem with signed | digit
  · cases sign <;> simp only [Sign.text, List.mem_singleton, List.not_mem_nil] at signed <;>
      (subst signed; decide)
  · have := List.all_eq_true.1 all c digit
    simp only [isDecimalDigit, Bool.and_eq_true, decide_eq_true_eq] at this
    have upper : c.toNat ≤ '9'.toNat := this.2
    have nine : '9'.toNat = 57 := rfl
    omega

/-! ## The loop over a numeral -/

theorem byteAt_of_holds {b : Buffer} {i : Nat} {x : UInt8} {rest : List UInt8}
    (holds : b.Holds i (x :: rest)) (code : UInt8) : byteAt b i code = decide (x = code) := by
  simp [byteAt, holds.getElem?]

/-- A digit's byte is none of the marks the loop looks for. -/
theorem digitByte_ne_marks {c : Char} (digit : isDecimalDigit c = true) :
    UInt8.ofNat c.toNat ≠ 0x2E ∧ UInt8.ofNat c.toNat ≠ 0x65 ∧ UInt8.ofNat c.toNat ≠ 0x45 := by
  have byte := toNat_digitByte digit
  have := digitValue_lt digit
  refine ⟨fun same => ?_, fun same => ?_, fun same => ?_⟩ <;> rw [same] at byte
  · change 46 = 48 + digitValue c at byte
    omega
  · change 101 = 48 + digitValue c at byte
    omega
  · change 69 = 48 + digitValue c at byte
    omega

theorem digitRat_of_holds {b : Buffer} {i : Nat} {c : Char} {rest : List UInt8}
    (holds : b.Holds i (UInt8.ofNat c.toNat :: rest)) (digit : isDecimalDigit c = true) :
    digitRat b i = some (digitValue c : ℚ) := by
  simp [digitRat, holds.getElem?, toNat_digitByte digit]

/-- The loop over digits held at `i`, all before the end: each goes into the accumulator, and
after the point into the divisor too. -/
theorem floatAsciiLoop_exact_digits {b : Buffer} {stop : Nat} :
    ∀ {ds : List Char} {i fuel : Nat} {r factor : ℚ} {pastDot : Bool},
    b.Holds i (asciiBytes (String.mk ds)) → ds.all isDecimalDigit = true → i + ds.length ≤ stop →
    floatAsciiLoop (exactReading b stop) (fuel + ds.length) i (some r) factor pastDot =
      floatAsciiLoop (exactReading b stop) fuel (i + ds.length) (some (r * 10 ^ ds.length + digitsValue ds))
        (if pastDot then factor * 10 ^ ds.length else factor) pastDot
  | [], i, fuel, r, factor, pastDot, _, _, _ => by simp [digitsValue]
  | c :: ds, i, fuel, r, factor, pastDot, holds, digits, inside => by
    simp only [List.all_cons, Bool.and_eq_true] at digits
    have rest := (holds_cons_digits holds).2
    have head := (holds_cons_digits holds).1
    have marks := digitByte_ne_marks digits.1
    simp only [List.length_cons] at inside ⊢
    have noMark : (byteAt b i 0x65 || byteAt b i 0x45) = false := by
      rw [byteAt_of_holds head, byteAt_of_holds head, decide_eq_false marks.2.1, decide_eq_false marks.2.2]
      rfl
    rw [show fuel + (ds.length + 1) = fuel + ds.length + 1 by omega,
      floatAsciiLoop_digit _ (decide_eq_true (by omega)) ((byteAt_of_holds head _).trans (decide_eq_false marks.1))
        noMark,
      exactReading_next, exactReading_addDigit, digitRat_of_holds head digits.1, Option.map_some',
      floatAsciiLoop_exact_digits rest digits.2 (by omega), show i + 1 + ds.length = i + (ds.length + 1) by omega,
      digitsValue_cons]
    have value : (r * 10 + digitValue c) * 10 ^ ds.length + digitsValue ds =
        r * 10 ^ (ds.length + 1) + ((digitValue c * 10 ^ ds.length + digitsValue ds : Nat) : ℚ) := by
      push_cast
      ring
    cases pastDot
    · simp only [Bool.false_eq_true, if_false, value]
    · simp only [if_true, value, exactReading_scale, show factor * 10 * 10 ^ ds.length = factor * 10 ^ (ds.length + 1) by ring]

/-- At an `e` or `E` the loop reads the rest of the numeral with `Number` and returns the value so
far scaled by that power of ten. -/
theorem floatAsciiLoop_exact_exponent {b : Buffer} {i fuel : Nat} {r factor : ℚ}
    {pastDot capital : Bool} (e : IntNumeral)
    (holds : b.Holds i (asciiBytes (String.mk (exponentChars (some (capital, e)))))) :
    floatAsciiLoop (exactReading b (i + 1 + (e.sign.text ++ e.digits).length)) (fuel + 1) i (some r) factor pastDot =
      some (r / factor * 10 ^ e.value) := by
  have parts := holds_cons_digits holds
  have marks : byteAt b i 0x2E = false ∧ (byteAt b i 0x65 || byteAt b i 0x45) = true := by
    rw [byteAt_of_holds parts.1, byteAt_of_holds parts.1, byteAt_of_holds parts.1]
    cases capital <;> decide
  rw [floatAsciiLoop_exponent _ (decide_eq_true (by omega)) marks.1 marks.2]
  simp only [exactReading, asciiSlice_of_holds parts.2 e.ascii]
  rw [show String.mk (e.sign.text ++ e.digits) = e.text from rfl, stringToRat_text, Option.some_bind,
    powTen_intCast]
  rfl

/-- The loop over the optional fraction, from before its point: the digits go into the
accumulator and into the divisor. -/
theorem floatAsciiLoop_exact_fraction {b : Buffer} {stop i fuel : Nat} {r factor : ℚ}
    (fraction : Option (List Char)) (holds : b.Holds i (asciiBytes (String.mk (fractionChars fraction))))
    (digits : (fraction.getD []).all isDecimalDigit = true)
    (inside : i + (fractionChars fraction).length ≤ stop) :
    floatAsciiLoop (exactReading b stop) (fuel + (fractionChars fraction).length) i (some r) factor false =
      floatAsciiLoop (exactReading b stop) fuel (i + (fractionChars fraction).length)
        (some (r * 10 ^ (fraction.getD []).length + digitsValue (fraction.getD [])))
        (factor * 10 ^ (fraction.getD []).length) fraction.isSome := by
  cases fraction with
  | none => simp [fractionChars, digitsValue]
  | some ds =>
    simp only [fractionChars, Option.getD_some, List.length_cons, Option.isSome_some] at holds digits inside ⊢
    have parts := holds_cons_digits holds
    rw [show fuel + (ds.length + 1) = fuel + ds.length + 1 by omega,
      floatAsciiLoop_dot _ (decide_eq_true (by omega)) ((byteAt_of_holds parts.1 _).trans (decide_eq_true rfl)),
      exactReading_next, floatAsciiLoop_exact_digits parts.2 digits (by omega), if_pos rfl,
      show i + 1 + ds.length = i + (ds.length + 1) by omega]

/-- The loop over the optional exponent, up to the end: the value so far, scaled by the power of
ten the exponent stands for. -/
theorem floatAsciiLoop_exact_exponentChars {b : Buffer} {i fuel : Nat} {r factor : ℚ} {pastDot : Bool}
    (exponent : Option (Bool × IntNumeral)) (holds : b.Holds i (asciiBytes (String.mk (exponentChars exponent)))) :
    floatAsciiLoop (exactReading b (i + (exponentChars exponent).length)) (fuel + 1) i (some r) factor pastDot =
      some (r / factor * 10 ^ exponentPower exponent) := by
  cases exponent with
  | none =>
    rw [floatAsciiLoop_stop _ (decide_eq_false (by simp [exponentChars]))]
    simp [exponentPower]
  | some part =>
    obtain ⟨capital, e⟩ := part
    simp only [exponentPower, exponentChars, List.length_cons]
    rw [← Nat.add_assoc, Nat.add_right_comm]
    exact floatAsciiLoop_exact_exponent e holds

/-! ## The numeral -/

theorem byteIs_eq_byteAt (b : Buffer) {i : Nat} (small : i ≤ 2 ^ 53) (code : UInt8) :
    byteIs b (ofNat i) code = byteAt b i code := by
  simp [byteIs, byteAt, Buffer.index_ofNat b small]

/-- `floatAscii` read exactly, past its sign tests: the loop starts after the sign with the divisor
`-1` under a minus. -/
theorem floatAsciiExact_start {b : Buffer} {o L : Nat} {sign : Sign} {c : Char} {ds : List Char}
    (holds : b.Holds o (asciiBytes (String.mk (sign.text ++ c :: ds))))
    (unsigned : UInt8.ofNat c.toNat ≠ 0x2D ∧ UInt8.ofNat c.toNat ≠ 0x2B) (positive : 0 < L) :
    floatAsciiExact b o L = floatAsciiLoop (exactReading b (o + L)) (o + L - (o + sign.text.length) + 1)
      (o + sign.text.length) (some 0) (if sign.negative then -1 else 1) false := by
  have fits := holds.fits
  simp only [asciiBytes_mk, List.length_map, List.length_append, List.length_cons] at fits
  have small := Buffer.small_of_le fits
  have tests := byteIs_sign holds unsigned
  simp only [byteIs_eq_byteAt b (show o ≤ 2 ^ 53 by omega),
    byteIs_eq_byteAt b (show o + sign.text.length ≤ 2 ^ 53 by omega)] at tests
  rw [floatAsciiExact, if_neg (by omega)]
  cases sign <;> simp only [Sign.text, Sign.negative, List.length_nil, List.length_singleton,
    Nat.add_zero, decide_True, decide_False, reduceCtorEq] at tests ⊢ <;>
    simp only [tests, if_true, if_false, Bool.false_eq_true]

/-- The first character of a numeral's mantissa is a digit or the point, not a sign. -/
theorem mantissa_head {whole : List Char} {fraction : Option (List Char)} (rest : List Char)
    (digits : whole.all isDecimalDigit = true) (mantissa : whole ++ fraction.getD [] ≠ []) :
    ∃ c ds, whole ++ fractionChars fraction ++ rest = c :: ds ∧
      UInt8.ofNat c.toNat ≠ 0x2D ∧ UInt8.ofNat c.toNat ≠ 0x2B := by
  cases whole with
  | cons c ws => exact ⟨c, _, rfl, digitByte_ne_sign (by simp_all)⟩
  | nil =>
    cases fraction with
    | none => exact absurd rfl mantissa
    | some fd => exact ⟨'.', _, rfl, by decide, by decide⟩

/-- Read with every operation exact, `floatAscii(b, o, L)` over a decimal numeral held at `o`,
`L` its length, is the numeral's rational value, whatever `o`. -/
theorem floatAsciiExact_reads_decimal_numerals {b : Buffer} {o : Nat} (n : DecimalNumeral)
    (holds : b.Holds o (asciiBytes n.text)) :
    floatAsciiExact b o n.text.length = some n.value := by
  obtain ⟨sign, whole, fraction, exponent, wholeDigits, fractionDigits, mantissa⟩ := n
  obtain ⟨c, ds, head, unsigned⟩ := mantissa_head (exponentChars exponent) wholeDigits mantissa
  simp only [DecimalNumeral.text, DecimalNumeral.value, String.length] at holds ⊢
  have first : b.Holds o (asciiBytes (String.mk (sign.text ++ c :: ds))) := by
    rw [← head]
    simpa only [List.append_assoc] using holds
  have parts := holds_chars_append holds
  have front := holds_chars_append parts.1
  have signed := holds_chars_append front.1
  have positive := congrArg List.length head
  simp only [List.length_append, List.length_cons] at positive
  simp only [List.length_append, ← Nat.add_assoc] at parts front signed ⊢
  rw [floatAsciiExact_start first unsigned (by omega)]
  simp only [← Nat.add_assoc]
  rw [show o + sign.text.length + whole.length + (fractionChars fraction).length + (exponentChars exponent).length -
        (o + sign.text.length) + 1 =
      (exponentChars exponent).length + 1 + (fractionChars fraction).length + whole.length by omega,
    floatAsciiLoop_exact_digits signed.2 wholeDigits (by omega),
    floatAsciiLoop_exact_fraction fraction front.2 fractionDigits (by omega),
    floatAsciiLoop_exact_exponentChars exponent parts.2]
  simp only [Bool.false_eq_true, if_false, zero_mul, zero_add, digitsValue_append, Sign.apply]
  congr 1
  cases sign.negative
  · simp only [Bool.false_eq_true, if_false, one_mul]
    push_cast
    ring
  · simp only [if_true]
    push_cast
    ring

/-- `"-12.50e-1"` at index `1` of `"x-12.50e-1"`, read exactly: its value. -/
theorem floatAsciiExact_reads_minus_one_and_a_quarter :
    let n : DecimalNumeral := ⟨.minus, ['1', '2'], some ['5', '0'],
      some (false, ⟨.minus, ['1'], by decide, by decide⟩), by decide, by decide, by decide⟩
    let b : Buffer := ⟨asciiBytes "x-12.50e-1", by decide⟩
    b.Holds 1 (asciiBytes n.text) ∧ floatAsciiExact b 1 n.text.length = some n.value :=
  have holds : Buffer.Holds ⟨asciiBytes "x-12.50e-1", by decide⟩ 1
      (asciiBytes (DecimalNumeral.text ⟨.minus, ['1', '2'], some ['5', '0'],
        some (false, ⟨.minus, ['1'], by decide, by decide⟩), by decide, by decide, by decide⟩)) :=
    ⟨by decide, [], by decide⟩
  ⟨holds, floatAsciiExact_reads_decimal_numerals _ holds⟩

example : DecimalNumeral.value ⟨.minus, ['1', '2'], some ['5', '0'],
    some (false, ⟨.minus, ['1'], by decide, by decide⟩), by decide, by decide, by decide⟩ = -5 / 4 := by
  have digits : Sign.minus.apply (digitsValue (['1', '2'] ++ ['5', '0'])) = -1250 := by decide
  have exponent : IntNumeral.value ⟨.minus, ['1'], by decide, by decide⟩ = -1 := by decide
  simp only [DecimalNumeral.value, Option.getD_some, exponentPower, digits, exponent]
  norm_num

end Mysql2Codec.Parser
