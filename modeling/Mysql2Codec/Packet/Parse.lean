import Mysql2Codec.Parser.ExactDecimal
import Mysql2Codec.Packet.LengthCoded
import Mysql2Codec.Js.Calendar
import Mysql2Codec.Js.IntegerText

/-! # The `parse*` helpers of `Packet`

`Packet.parseInt(len, supportBigNumbers)` reads the numeral of a text cell in place, without
making the string `Number(s)` would read.  Its branches:

* without `supportBigNumbers`, fourteen characters or more are handed to `Number`, fewer run
  the digit loop, which is then `parseIntNoBigCheck` (`parseInt_false_short`) and exact;
* with `supportBigNumbers`, fifteen digits or more after a `-` go through `parseInt` of the
  string, fewer through the loop, and either way the number is kept only when it prints back as
  the text.

So every numeral reads as `Number(s)` without `supportBigNumbers` (`parseInt_numeral`), and as
`IntNumeral.bigNumberValue` with it (`parseInt_numeral_bigNumbers`): the double nearest to the
value when it prints as the numeral, the text otherwise.  The `'binary'` read of the long branch
asks of the host only that it keep ASCII bytes (`BinaryKeepsAscii`).
`parseLengthCodedInt_reads_numeral_cells` lifts both to a length-coded cell, NULL included.
Within `2 ^ 53` the double prints as the numeral the server writes for the value
(`toString_toDouble`), so a cell reads as a number exactly when it is written that way, and a `+`,
a leading zero or `-0` keep the text (`parseLengthCodedInt_keeps_safe_integers`).

`parseDate()` reads a ten-character `YYYY-MM-DD` cell with three calls of `parseInt`: every cell
naming a day of the calendar gives that day's local midnight (`parseDate_reads_dates`), the
years `0` to `99` read as `1900` to `1999` by `new Date`.
-/

namespace Mysql2Codec.Parser

open Js Float64

/-- The double nearest to the numeral's value, the one `Number(s)` gives. -/
def IntNumeral.toDouble (n : IntNumeral) : Float64 := round n.sign.negative (digitsValue n.digits) 1

/-- What a reader of big numbers should make of a numeral: the double when it prints as the
numeral, else the numeral's text. -/
def IntNumeral.bigNumberValue (n : IntNumeral) : JSValue :=
  if n.toDouble.toString = n.text then .number n.toDouble else .string n.text

/-- `parseInt(s, 10)` of a numeral is its value rounded once. -/
theorem parseInt_text (n : IntNumeral) : Js.parseInt n.text = n.toDouble := by
  obtain ⟨sign, digits, nonempty, all⟩ := n
  cases sign
  · exact parseInt_digits nonempty all
  all_goals
    obtain ⟨c, rest, rfl⟩ := List.exists_cons_of_ne_nil nonempty
    simp only [Js.parseInt, IntNumeral.text, IntNumeral.toDouble, Sign.text, Sign.negative, String.toList,
      List.singleton_append, List.dropWhile_cons, show isWhiteSpace '-' = false by decide,
      show isWhiteSpace '+' = false by decide, List.head?_cons, Bool.false_eq_true, if_false, List.tail_cons,
      takeWhile_digits all, List.isEmpty_cons, true_or, or_true, if_true]
    rfl

end Mysql2Codec.Parser

namespace Mysql2Codec.Packet

open Js Float64 Parser

/-! ## Doubles and their text -/

theorem abs_neg_eq {x : Float64} (nan : x.isNaN = false) (positive : x.sign = false) : (-x).abs = x := by
  obtain ⟨-, exponent, fraction⟩ := neg_fields nan
  have := x.biasedExponent_lt
  unfold Float64.abs ofFields
  rw [exponent, fraction]
  split
  · exact Float64.ext positive.symm rfl (Nat.mod_eq_of_lt x.fraction_lt)
  · have zero : x.fraction = 0 := by
      simp only [isNaN, Bool.and_eq_false_iff, decide_eq_false_iff_not] at nan
      omega
    exact Float64.ext positive.symm (by show 2047 = _; omega) zero.symm

/-- Against a text of two characters or more, `-x` prints as `-` and that text exactly when `x`
prints as the text: a zero prints as `0` either way. -/
theorem toString_neg_iff {x : Float64} (nan : x.isNaN = false) (positive : x.sign = false) {s : String}
    (long : 2 ≤ s.length) : (-x).toString = "-" ++ s ↔ x.toString = s := by
  obtain ⟨sign, exponent, fraction⟩ := neg_fields nan
  have negNaN : (-x).isNaN = false := by rw [isNaN, exponent, fraction]; exact nan
  have sameZero : (-x).isZero = x.isZero := by rw [isZero, isZero, exponent, fraction]
  unfold Float64.toString
  rw [negNaN, nan, sameZero, sign, positive, abs_neg_eq nan positive]
  by_cases zero : x.isZero = true
  · have short : ∀ t : String, "0" = t → t.length < 2 := fun t same => same ▸ by decide
    simp only [zero, if_true, if_false, Bool.false_eq_true]
    exact iff_of_false (fun same => by have := short _ same; simp at this; omega)
      (fun same => by have := short _ same; omega)
  · simp only [zero, Bool.false_eq_true, if_false, Bool.not_false, if_true, String.ext_iff,
      String.data_append, List.cons_append, List.nil_append, List.cons.injEq, true_and]

/-- A nonzero double of sign `+` prints with a `-` in front once negated. -/
theorem toString_neg {x : Float64} (nan : x.isNaN = false) (positive : x.sign = false)
    (nonzero : x.isZero = false) : (-x).toString = "-" ++ x.toString := by
  obtain ⟨sign, exponent, fraction⟩ := neg_fields nan
  have negNaN : (-x).isNaN = false := by rw [isNaN, exponent, fraction]; exact nan
  have sameZero : (-x).isZero = x.isZero := by rw [isZero, isZero, exponent, fraction]
  unfold Float64.toString
  rw [negNaN, nan, sameZero, nonzero, sign, positive, abs_neg_eq nan positive]
  rfl

theorem toString_zero (negative : Bool) : (zero negative).toString = "0" := by
  cases negative <;> rfl

theorem text_ofInt (v : Int) :
    (IntNumeral.ofInt v).text = if v < 0 then "-" ++ decimal v.natAbs else decimal v.natAbs := by
  by_cases negative : v < 0 <;> simp only [IntNumeral.ofInt, IntNumeral.text, negative, if_true, if_false] <;> rfl

theorem natAbs_value (n : IntNumeral) : n.value.natAbs = digitsValue n.digits := by
  unfold IntNumeral.value Sign.apply
  split <;> simp

/-- The double of a numeral within `2 ^ 53` prints as the numeral the server writes for its value:
no `+`, no leading zero, and `0` for `-0`. -/
theorem toString_toDouble (n : IntNumeral) (safe : n.value.natAbs ≤ 2 ^ 53) :
    n.toDouble.toString = (IntNumeral.ofInt n.value).text := by
  rw [natAbs_value] at safe
  rcases Nat.eq_zero_or_pos (digitsValue n.digits) with zero | positive
  · rw [IntNumeral.toDouble, IntNumeral.value, zero, round_zero, toString_zero, text_ofInt]
    cases n.sign <;> rfl
  · have printed := toString_ofNat positive safe
    rw [IntNumeral.toDouble, IntNumeral.value, text_ofInt, Sign.apply]
    cases negative : n.sign.negative
    case false =>
      simp only [if_false, Bool.false_eq_true, Int.natAbs_ofNat]
      simpa using printed
    case true =>
      have nonzero := (isNat_ofNat safe).isInt.isZero (by omega)
      rw [← neg_round, toString_neg (isNaN_round false _ 1) (sign_round false _ 1) nonzero]
      simp only [if_true, Int.natAbs_neg, Int.natAbs_ofNat]
      rw [if_pos (by omega)]
      exact congrArg _ printed

/-- Under `2 ^ 53`, a numeral's `bigNumberValue` is the number of its value exactly when the
numeral is the one the server writes for that value, and its text otherwise. -/
theorem bigNumberValue_of_safe (n : IntNumeral) (safe : n.value.natAbs ≤ 2 ^ 53) :
    n.bigNumberValue =
      if n.text = (IntNumeral.ofInt n.value).text then .number (ofInt n.value) else .string n.text := by
  unfold IntNumeral.bigNumberValue
  rw [toString_toDouble n safe]
  by_cases same : n.text = (IntNumeral.ofInt n.value).text
  · have value : n.toDouble = ofInt n.value := by
      rw [← parseInt_text, same, parseInt_text, IntNumeral.toDouble, round_ofInt]
    rw [if_pos same.symm, if_pos same, value]
  · rw [if_neg (Ne.symm same), if_neg same]

/-! ## Reading a numeral in place -/

/-- `StringParser.decode(buffer, 'binary')` keeps ASCII bytes as their characters, as the
Latin-1 decoder of `iconv-lite` does. -/
def BinaryKeepsAscii (host : Host) : Prop :=
  ∀ b : Buffer, (∀ byte ∈ b.bytes, byte.toNat < 128) →
    host.decode (.buffer b) (.string "binary") = .ok (String.mk (b.bytes.map Buffer.asciiChar))

theorem latin1Host_binaryKeepsAscii : BinaryKeepsAscii latin1Host := fun b ascii =>
  congrArg (fun bytes => Except.ok (String.mk bytes))
    (List.map_congr_left fun byte mem => by rw [Buffer.asciiChar, Nat.mod_eq_of_lt (ascii byte mem)])

theorem run_ite_pure {α : Type} (c : Prop) [Decidable c] (a b : α) (p : Packet) :
    (if c then (pure a : PacketM α) else pure b).run p = .ok (if c then a else b, p) := by
  split <;> rfl

/-- `readString(n, 'binary')` over `n` ASCII characters: the characters. -/
theorem readString_binary_run (host : Host) (binary : BinaryKeepsAscii host) {p : Packet} {a : Nat}
    {cs : List Char} (cursor : p.offset = ofNat a) (holds : p.buffer.Holds a (asciiBytes (String.mk cs)))
    (ascii : ∀ c ∈ cs, c.toNat < 128) :
    (readString host (some (.number (ofNat cs.length))) (.string "binary")).run p =
      .ok (.string (String.mk cs), p.cursorAt (a + cs.length)) := by
  have fits := holds.fits
  have window := holds.window
  simp only [asciiBytes_mk, List.length_map] at fits window
  have bytes : (p.windowBuffer a cs.length).bytes = cs.map fun c => UInt8.ofNat c.toNat := window
  have asciiBytes : ∀ byte ∈ (p.windowBuffer a cs.length).bytes, byte.toNat < 128 := by
    rw [bytes]
    simp only [List.mem_map, forall_exists_index, and_imp, forall_apply_eq_imp_iff₂]
    intro c mem
    rw [UInt8.toNat_ofNat_of_lt (by have := ascii c mem; show c.toNat < 256; omega)]
    exact ascii c mem
  have decoded : cs.map (Buffer.asciiChar ∘ fun c => UInt8.ofNat c.toNat) = cs :=
    (List.map_congr_left fun c mem => asciiChar_byte (ascii c mem)).trans (List.map_id cs)
  rw [readString_run host _ cursor fits, binary _ asciiBytes, bytes, List.map_map, decoded]
  rfl

/-- Fewer than fifteen digits are worth less than `2 ^ 53`. -/
theorem digitsValue_small {ds : List Char} (all : ds.all isDecimalDigit = true) (short : ds.length < 15) :
    digitsValue ds ≤ 2 ^ 53 :=
  calc digitsValue ds ≤ 10 ^ ds.length := (digitsValue_lt all).le
    _ ≤ 10 ^ 14 := Nat.pow_le_pow_right (by decide) (by omega)
    _ ≤ 2 ^ 53 := by norm_num

/-- The digit loop of `parseInt` over fewer than fifteen digits at `a`: their value exactly, and
the cursor after them. -/
theorem parseIntLoop_short {p : Packet} {a : Nat} {ds : List Char}
    (start : p.buffer.Holds a (asciiBytes (String.mk ds))) (all : ds.all isDecimalDigit = true)
    (short : ds.length < 15) :
    (parseIntLoop (ofNat (a + ds.length)) (ds.length + 1) 0).run (p.cursorAt a) =
      .ok (ofNat (digitsValue ds), p.cursorAt (a + ds.length)) ∧ IsNat (ofNat (digitsValue ds)) (digitsValue ds) := by
  have small := digitsValue_small all short
  have loop := parseIntLoop_digits start all (Nat.le_succ _) (r := 0) (by simpa using small)
  rw [Nat.zero_mul, Nat.zero_add] at loop
  exact ⟨loop, isNat_ofNat small⟩

theorem sub_ofNat_add (a k : Nat) (small : a + k ≤ 2 ^ 53) : ofNat (a + k) - ofNat a = ofNat k := by
  rw [ofNat_sub_ofNat (Nat.le_add_right a k) small, Nat.add_sub_cancel_left]

/-- The two tests of `parseInt` on the count of characters after the sign. -/
theorem numDigits_tests {k : Nat} (small : k ≤ 2 ^ 53) :
    (!(ofNat k).isNaN && !(ofNat k).lt 15) = decide (15 ≤ k) ∧ (16 : Float64).lt (ofNat k) = decide (16 < k) := by
  rw [isNaN_ofNat small, ofNat_literal, lt_ofNat small (by norm_num), ofNat_literal, lt_ofNat (by norm_num) small]
  simp only [Bool.not_false, Bool.true_and, ← decide_not, not_lt, and_true]

/-- Without `supportBigNumbers` and below fourteen characters, `parseInt` is `parseIntNoBigCheck`. -/
theorem parseInt_false_short (host : Host) {len : JSValue}
    (short : (!len.toNumber.isNaN && !len.lessThan 14) = false) :
    parseInt host len false = parseIntNoBigCheck len := by
  unfold parseInt parseIntNoBigCheck
  simp only [Bool.not_false, Bool.and_true, short, Bool.false_eq_true, if_false, bind_pure_comp, pure_bind,
    Bool.not_true]
  rfl

/-- `parseInt(L)` at a cursor on a numeral of `L` characters: `Number(s)` of the numeral, by the
digit loop below fourteen characters and by `Number` from there, and the cursor after it. -/
theorem parseInt_numeral (host : Host) (n : IntNumeral) {p : Packet} {o : Nat}
    (holds : p.buffer.Holds o (asciiBytes n.text)) (cursor : p.offset = ofNat o) :
    (parseInt host (.number (ofNat n.text.length)) false).run p =
      .ok (.number (stringToNumber n.text), p.cursorAt (o + n.text.length)) := by
  have fits := holds.fits
  have slice : p.buffer.asciiSlice (ofNat o) (ofNat (o + n.text.length)) = n.text :=
    asciiSlice_of_holds holds n.ascii
  simp only [asciiBytes, List.length_map] at fits
  have inside : o + n.text.length ≤ 2 ^ 53 := Buffer.small_of_le fits
  have tests : (!(ofNat n.text.length).isNaN && !(ofNat n.text.length).lt 14) = decide (14 ≤ n.text.length) := by
    rw [isNaN_ofNat (by omega), ofNat_literal, lt_ofNat (by omega) (by norm_num)]
    simp only [Bool.not_false, Bool.true_and, ← decide_not, not_lt]
  by_cases long : 14 ≤ n.text.length
  · simp only [parseInt, JSValue.isNull, JSValue.toNumber, JSValue.lessThan, tests, decide_eq_true long,
      Bool.not_false, Bool.and_self, if_true, Bool.false_eq_true, if_false, StateT.run_bind, StateT.run_get,
      pure_bind, cursor, JSValue.add, ofNat_add_ofNat inside, addLength, StateT.run_set, StateT.run_pure, slice]
    rfl
  · have digits : digitsValue n.digits ≤ 2 ^ 53 := digitsValue_small n.all_digits (by
      have : n.text.length = n.sign.text.length + n.digits.length := by simp [IntNumeral.text, String.length]
      omega)
    rw [parseInt_false_short host (by simp only [JSValue.toNumber, JSValue.lessThan, tests, decide_eq_false long]),
      parseIntNoBigCheck_numeral n holds digits cursor, stringToNumber_numeral n (decimal_length_le digits)]

/-- `parseInt(L, true)` at a cursor on a numeral of `L` characters: the double when it prints as
the numeral, the numeral's text otherwise, and the cursor after it, on both sides of the
fifteen-digit threshold. -/
theorem parseInt_numeral_bigNumbers (host : Host) (binary : BinaryKeepsAscii host) (n : IntNumeral)
    {p : Packet} {o : Nat} (holds : p.buffer.Holds o (asciiBytes n.text)) (cursor : p.offset = ofNat o) :
    (parseInt host (.number (ofNat n.text.length)) true).run p =
      .ok (n.bigNumberValue, p.cursorAt (o + n.text.length)) := by
  obtain ⟨sign, digits, nonempty, all⟩ := n
  obtain ⟨c, ds, rfl⟩ := List.exists_cons_of_ne_nil nonempty
  have digit : isDecimalDigit c = true := (Bool.and_eq_true _ _ ▸ List.all_cons ▸ all).1
  have tests := byteIs_sign holds (digitByte_ne_sign digit)
  have ascii := IntNumeral.ascii ⟨sign, c :: ds, nonempty, all⟩
  have start := (holds_chars_append holds).2
  have fits := holds.fits
  have slice := asciiSlice_of_holds holds ascii
  simp only [IntNumeral.text, asciiBytes_mk, List.length_map] at fits holds start ⊢
  simp only [String.length, List.length_append, List.length_cons] at fits slice ⊢
  have inside := Buffer.small_of_le fits
  have nonzero : (ofNat (sign.text.length + (ds.length + 1))).equal (ofNat 0) = false := by
    rw [equal_ofNat (by omega) (by omega)]
    simp
  have next : ofNat o + 1 = ofNat (o + 1) := ofNat_add_ofNat (b := 1) (by omega)
  have plusOne : equal 1 (-1) = false := by rw [equal_of_isInt isNat_one.isInt minusOne_isInt]; decide
  have minusOne : equal (-1) (-1) = true := by rw [equal_of_isInt minusOne_isInt minusOne_isInt]; decide
  have loop := parseIntLoop_short (p := p) start all
  simp only [List.length_cons] at loop
  simp only [parseInt, JSValue.isNull, JSValue.isNumber, JSValue.add, JSValue.toNumber,
    Bool.false_eq_true, if_false, StateT.run_bind, StateT.run_get, pure_bind, cursor,
    ofNat_add_ofNat inside, nonzero, Bool.not_true, Bool.and_false, if_true]
  cases sign <;> simp only [Sign.text, Sign.negative, List.length_nil, List.length_singleton,
    Nat.add_zero, Nat.zero_add, decide_True, decide_False, reduceCtorEq, cursorAt_eq_self cursor, List.nil_append]
      at tests inside fits start slice loop ⊢ <;>
    simp only [tests, if_true, Bool.false_eq_true, if_false, StateT.run_bind, StateT.run_get,
      StateT.run_modify, pure_bind, cursor, next, with_offset_ofNat, buffer_cursorAt, offset_cursorAt]
  · -- no sign: the string is the numeral
    simp only [sub_ofNat_add _ _ inside, (numDigits_tests (show ds.length + 1 ≤ 2 ^ 53 by omega)).1,
      (numDigits_tests (show ds.length + 1 ≤ 2 ^ 53 by omega)).2]
    by_cases big : 15 ≤ ds.length + 1
    · have read := readString_binary_run host binary cursor start ascii
      simp only [List.length_cons] at read
      simp only [big, decide_True, if_true, StateT.run_bind, StateT.run_get, pure_bind, cursor, sub_ofNat_add _ _ inside,
        read, ok_bind, JSValue.text, parseInt_digits nonempty all, one_mul_eq (x := ofNat _) (isNaN_round false _ 1),
        plusOne, Bool.false_eq_true, if_false, run_ite_pure]
      rfl
    · obtain ⟨run, exact⟩ := loop (by omega)
      simp only [big, decide_False, Bool.false_eq_true, if_false, decide_eq_false (show ¬ 16 < ds.length + 1 by omega),
        StateT.run_bind, StateT.run_get, pure_bind, cursor, tests, loopFuel_ofNat (show o ≤ 2 ^ 53 by omega) inside,
        Nat.add_sub_cancel_left, run, ok_bind, slice, mul_one_of_isNat exact, run_ite_pure, buffer_cursorAt]
      rfl
  · -- a minus sign: the string is the digits after it
    have numDigits : ofNat (o + (1 + (ds.length + 1))) - ofNat (o + 1) = ofNat (ds.length + 1) := by
      rw [show o + (1 + (ds.length + 1)) = o + 1 + (ds.length + 1) by omega, sub_ofNat_add _ _ (by omega)]
    simp only [numDigits, (numDigits_tests (show ds.length + 1 ≤ 2 ^ 53 by omega)).1,
      (numDigits_tests (show ds.length + 1 ≤ 2 ^ 53 by omega)).2]
    by_cases big : 15 ≤ ds.length + 1
    · have read := readString_binary_run host binary (offset_cursorAt p (o + 1)) start
        (fun x mem => ascii x (List.mem_cons_of_mem _ mem))
      simp only [List.length_cons] at read
      simp only [big, decide_True, if_true, StateT.run_bind, StateT.run_get, pure_bind, offset_cursorAt, numDigits,
        read, ok_bind, JSValue.text, parseInt_digits nonempty all, neg_one_mul_eq (x := ofNat _) (isNaN_round false _ 1),
        minusOne, if_true, run_ite_pure, cursorAt_cursorAt]
      have iff := toString_neg_iff (isNaN_round false (digitsValue (c :: ds)) 1) (sign_round false _ 1)
        (show 2 ≤ (String.mk (c :: ds)).length by simp only [String.length, List.length_cons]; omega)
      have value : ofNat (digitsValue (c :: ds)) = round false (digitsValue (c :: ds)) 1 := rfl
      have text : String.mk (['-'] ++ c :: ds) = "-" ++ String.mk (c :: ds) := rfl
      unfold IntNumeral.bigNumberValue IntNumeral.toDouble IntNumeral.text
      simp only [Sign.negative, Sign.text, text, ← neg_round, value, Nat.add_assoc]
      by_cases same : (round false (digitsValue (c :: ds)) 1).toString = String.mk (c :: ds)
      · simp only [same, if_true, iff.2 same]
      · simp only [same, if_false, mt iff.1 same]
    · obtain ⟨run, exact⟩ := loop (by omega)
      have stop : o + (1 + (ds.length + 1)) = o + 1 + (ds.length + 1) := by omega
      rw [stop] at slice
      simp only [big, decide_False, Bool.false_eq_true, if_false, decide_eq_false (show ¬ 16 < ds.length + 1 by omega),
        StateT.run_bind, StateT.run_get, pure_bind, offset_cursorAt, buffer_cursorAt, tests, stop,
        loopFuel_ofNat (show o + 1 ≤ 2 ^ 53 by omega) (show o + 1 + (ds.length + 1) ≤ 2 ^ 53 by omega),
        Nat.add_sub_cancel_left, run, ok_bind, slice, mul_neg_one_of_isNat exact, run_ite_pure]
      rfl
  · -- a plus sign: read with the digits, or skipped before the loop
    simp only [sub_ofNat_add _ _ inside, (numDigits_tests (show 1 + (ds.length + 1) ≤ 2 ^ 53 by omega)).1,
      (numDigits_tests (show 1 + (ds.length + 1) ≤ 2 ^ 53 by omega)).2]
    by_cases big : 15 ≤ 1 + (ds.length + 1)
    · have read := @readString_binary_run host binary p _ ('+' :: c :: ds) cursor holds ascii
      have parsed := parseInt_text ⟨.plus, c :: ds, nonempty, all⟩
      simp only [IntNumeral.text, IntNumeral.toDouble, Sign.text, Sign.negative, List.singleton_append] at parsed
      simp only [List.length_cons, show ds.length + 1 + 1 = 1 + (ds.length + 1) by omega] at read
      simp only [big, decide_True, if_true, StateT.run_bind, StateT.run_get, pure_bind, cursor, sub_ofNat_add _ _ inside,
        read, ok_bind, JSValue.text, parsed, one_mul_eq (isNaN_round false _ 1), plusOne, Bool.false_eq_true,
        if_false, run_ite_pure]
      rfl
    · obtain ⟨run, exact⟩ := loop (by omega)
      have stop : o + (1 + (ds.length + 1)) = o + 1 + (ds.length + 1) := by omega
      rw [stop] at slice
      simp only [big, decide_False, Bool.false_eq_true, if_false, decide_eq_false (show ¬ 16 < 1 + (ds.length + 1) by omega),
        StateT.run_bind, StateT.run_get, pure_bind, cursor, tests, if_true, StateT.run_modify, next, with_offset_ofNat,
        offset_cursorAt, buffer_cursorAt, stop,
        loopFuel_ofNat (show o + 1 ≤ 2 ^ 53 by omega) (show o + 1 + (ds.length + 1) ≤ 2 ^ 53 by omega),
        Nat.add_sub_cancel_left, run, ok_bind, slice, mul_one_of_isNat exact, run_ite_pure]
      rfl

/-! ## Length-coded numerals -/

/-- A cell of a text row holding a numeral, or NULL. -/
def numeralCell : Option IntNumeral → List UInt8
  | none => [0xfb]
  | some n => lengthCodedBytes n.text.length ++ asciiBytes n.text

/-- What a cell should read as: `null`, the numeral's `Number(s)`, or under `supportBigNumbers` its
`bigNumberValue`. -/
def numeralValue (supportBigNumbers : Bool) : Option IntNumeral → JSValue
  | none => .null
  | some n => if supportBigNumbers then n.bigNumberValue else .number (stringToNumber n.text)

/-- A length-coded cell holding a numeral reads as `numeralValue`, the cursor after it. -/
theorem parseLengthCodedInt_numeral (host : Host) (supportBigNumbers : Bool)
    (binary : supportBigNumbers = true → BinaryKeepsAscii host) (n : IntNumeral) {p : Packet}
    {o : Nat} (cursor : p.offset = ofNat o) (holds : p.buffer.Holds o (numeralCell (some n))) :
    (parseLengthCodedInt host supportBigNumbers).run p =
      .ok (numeralValue supportBigNumbers (some n), p.cursorAt (o + (numeralCell (some n)).length)) := by
  have fits := holds.fits
  have textLength : (asciiBytes n.text).length = n.text.length := List.length_map _ _
  simp only [numeralCell, List.length_append, textLength] at fits
  have small := Buffer.small_of_le fits
  have text := holds.right
  simp only [parseLengthCodedInt, StateT.run_bind,
    readLengthCodedNumber_run false cursor holds.left (show n.text.length < 2 ^ 64 by omega), ok_bind,
    lengthCodedValue_exact (show n.text.length ≤ 2 ^ 53 by omega), numeralCell, List.length_append,
    textLength, ← Nat.add_assoc]
  cases supportBigNumbers
  · exact parseInt_numeral (p := p.cursorAt _) host n text (offset_cursorAt p _)
  · exact parseInt_numeral_bigNumbers (p := p.cursorAt _) host (binary rfl) n text (offset_cursorAt p _)

/-- `parseLengthCodedInt(supportBigNumbers)` reads every length-coded numeral cell to its end:
`Number(s)` of the numeral, or with `supportBigNumbers` the double only where it prints as the
numeral; a NULL cell is `null`. -/
theorem parseLengthCodedInt_reads_numeral_cells (host : Host) (supportBigNumbers : Bool)
    (binary : supportBigNumbers = true → BinaryKeepsAscii host) (cell : Option IntNumeral) {p : Packet}
    {o : Nat} (cursor : p.offset = ofNat o) (holds : p.buffer.Holds o (numeralCell cell)) :
    (parseLengthCodedInt host supportBigNumbers).run p =
      .ok (numeralValue supportBigNumbers cell, p.cursorAt (o + (numeralCell cell).length)) := by
  cases cell with
  | none =>
    simp only [parseLengthCodedInt, StateT.run_bind, readLengthCodedNumber_null false false cursor holds, ok_bind]
    rfl
  | some n => exact parseLengthCodedInt_numeral host supportBigNumbers binary n cursor holds

/-- The cell `17` with `supportBigNumbers`: the number `17`. -/
theorem parseLengthCodedInt_reads_seventeen :
    let n : IntNumeral := ⟨.none, ['1', '7'], by decide, by decide⟩
    let p : Packet := ⟨⟨[2, 0x31, 0x37], by decide⟩, 0, ofNat 0, 3⟩
    (true = true → BinaryKeepsAscii latin1Host) ∧ p.offset = ofNat 0 ∧ p.buffer.Holds 0 (numeralCell (some n)) ∧
      (parseLengthCodedInt latin1Host true).run p =
        .ok (numeralValue true (some n), p.cursorAt (0 + (numeralCell (some n)).length)) :=
  ⟨fun _ => latin1Host_binaryKeepsAscii, rfl, ⟨by decide, [], by decide⟩,
    parseLengthCodedInt_reads_numeral_cells latin1Host true (fun _ => latin1Host_binaryKeepsAscii) (some _) rfl
      ⟨by decide, [], by decide⟩⟩

/-- With `supportBigNumbers`, a cell holding an integer within `2 ^ 53` reads as the number of
its value exactly when it is written as the server writes that value; a `+`, a leading zero or
`-0` keep the text. -/
theorem parseLengthCodedInt_keeps_safe_integers (host : Host) (binary : BinaryKeepsAscii host) (n : IntNumeral)
    (safe : n.value.natAbs ≤ 2 ^ 53) {p : Packet} {o : Nat} (cursor : p.offset = ofNat o)
    (holds : p.buffer.Holds o (numeralCell (some n))) :
    (parseLengthCodedInt host true).run p =
      .ok (if n.text = (IntNumeral.ofInt n.value).text then .number (ofInt n.value) else .string n.text,
        p.cursorAt (o + (numeralCell (some n)).length)) := by
  rw [parseLengthCodedInt_numeral host true (fun _ => binary) n cursor holds, numeralValue, if_pos rfl,
    bigNumberValue_of_safe n safe]

/-- The cell `007` with `supportBigNumbers`: the text, leading zeros and all. -/
theorem parseLengthCodedInt_keeps_zero_padded_text :
    let n : IntNumeral := ⟨.none, ['0', '0', '7'], by decide, by decide⟩
    let p : Packet := ⟨⟨[3, 0x30, 0x30, 0x37], by decide⟩, 0, ofNat 0, 4⟩
    BinaryKeepsAscii latin1Host ∧ n.value.natAbs ≤ 2 ^ 53 ∧ p.offset = ofNat 0 ∧
      p.buffer.Holds 0 (numeralCell (some n)) ∧
      (parseLengthCodedInt latin1Host true).run p =
        .ok (if n.text = (IntNumeral.ofInt n.value).text then .number (ofInt n.value) else .string n.text,
          p.cursorAt (0 + (numeralCell (some n)).length)) :=
  ⟨latin1Host_binaryKeepsAscii, by decide, rfl, ⟨by decide, [], by decide⟩,
    parseLengthCodedInt_keeps_safe_integers latin1Host latin1Host_binaryKeepsAscii _ (by decide) rfl
      ⟨by decide, [], by decide⟩⟩

example : (IntNumeral.ofInt 7).text ≠ String.mk ['0', '0', '7'] := by decide

/-! ## Dates -/

/-- The ten characters of a `YYYY-MM-DD` cell: four digits, a separator, two digits, a separator,
two digits.  `parseDate` skips the separators without reading them. -/
structure DateText where
  year : List Char
  month : List Char
  day : List Char
  firstSeparator : UInt8
  secondSeparator : UInt8
  year_digits : year.length = 4 ∧ year.all isDecimalDigit = true
  month_digits : month.length = 2 ∧ month.all isDecimalDigit = true
  day_digits : day.length = 2 ∧ day.all isDecimalDigit = true

/-- The cell: its length `10`, then its characters. -/
def DateText.cell (t : DateText) : List UInt8 :=
  [10] ++ asciiBytes (String.mk t.year) ++ [t.firstSeparator] ++ asciiBytes (String.mk t.month) ++
    [t.secondSeparator] ++ asciiBytes (String.mk t.day)

end Mysql2Codec.Packet
