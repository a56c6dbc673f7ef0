import Mysql2Codec.Packet.Spec

/-! # Numerals in ASCII

`PacketParser.intAsciiSmall` and `Packet.parseIntNoBigCheck` read a numeral from a buffer with the
same loop, `result = result * 10 + (buffer[i] - 0x30)`, after skipping a `-` and then a `+`.

* `Sign` and `IntNumeral` describe what the loop is meant for: an optional sign and at least one
  decimal digit, with its text and its value.
* `digitLoop_digits` and `parseIntLoop_digits` run the two copies of the loop over the digits a
  buffer holds, by induction on the digits: while the value stays within `2 ^ 53` every step is
  exact, and the copy on the packet leaves the cursor after the last digit.
* `byteIs_sign` and `digitStart_sign` settle the two sign tests once for every sign.
* `intAsciiSmall_reads_signed_numerals`: on such a numeral both readers return `Number(s)`, which
  is the numeral's value exactly, and `parseIntNoBigCheck` ends at the numeral's end.
-/

namespace Mysql2Codec.Parser

open Js Float64 Packet

/-- The optional sign in front of a numeral. -/
inductive Sign where
  | none
  | minus
  | plus
  deriving DecidableEq, Repr

namespace Sign

def text : Sign → List Char
  | none => []
  | minus => ['-']
  | plus => ['+']

def negative : Sign → Bool
  | minus => true
  | _ => false

/-- The sign applied to a natural. -/
def apply (sign : Sign) (n : Nat) : Int := if sign.negative then -(n : Int) else n

end Sign

/-- An integer numeral: an optional sign, then one or more decimal digits. -/
structure IntNumeral where
  sign : Sign
  digits : List Char
  nonempty : digits ≠ []
  all_digits : digits.all isDecimalDigit = true

namespace IntNumeral

def text (n : IntNumeral) : String := String.mk (n.sign.text ++ n.digits)

def value (n : IntNumeral) : Int := n.sign.apply (digitsValue n.digits)

end IntNumeral

/-! ## Bytes of digits -/

theorem asciiBytes_mk (cs : List Char) :
    asciiBytes (String.mk cs) = cs.map fun c => UInt8.ofNat c.toNat := rfl

theorem toNat_digitByte {c : Char} (digit : isDecimalDigit c = true) :
    (UInt8.ofNat c.toNat).toNat = 48 + digitValue c := by
  have := digitValue_lt digit
  simp only [isDecimalDigit, Bool.and_eq_true, decide_eq_true_eq] at digit
  have lower : '0'.toNat ≤ c.toNat := digit.1
  have zero : '0'.toNat = 48 := rfl
  simp only [digitValue, zero] at *
  rw [UInt8.toNat_ofNat_of_lt (by show c.toNat < 256; omega)]
  omega

/-- One round of the digit loops, `result * 10 + (buffer[i] - 0x30)` with the literals read as
doubles, on a digit held at `i`: the accumulator takes the digit. -/
theorem digit_step {b : Buffer} {i r : Nat} {c : Char} {rest : List UInt8}
    (holds : b.Holds i (UInt8.ofNat c.toNat :: rest)) (digit : isDecimalDigit c = true)
    (small : r * 10 + digitValue c ≤ 2 ^ 53) :
    ofNat r * ofNat 10 + (byteValue b (ofNat i) - ofNat 48) = ofNat (r * 10 + digitValue c) := by
  have inside := holds.fits
  have := digitValue_lt digit
  simp only [List.length_cons] at inside
  simp only [byteValue, Buffer.index_ofNat b (Buffer.small_of_le (show i ≤ b.length by omega)),
    holds.getElem?, JSValue.ofByte?, JSValue.toNumber, toNat_digitByte digit]
  rw [ofNat_sub_ofNat (by omega) (by omega), Nat.add_sub_cancel_left,
    ofNat_mul_ofNat (by omega) (by omega), ofNat_add_ofNat small]

/-- The digit bytes of a numeral held at `i`: the head byte, and the rest held after it. -/
theorem holds_cons_digits {b : Buffer} {i : Nat} {c : Char} {ds : List Char}
    (holds : b.Holds i (asciiBytes (String.mk (c :: ds)))) :
    b.Holds i (UInt8.ofNat c.toNat :: asciiBytes (String.mk ds)) ∧
      b.Holds (i + 1) (asciiBytes (String.mk ds)) :=
  ⟨holds, Buffer.Holds.right (show b.Holds i ([UInt8.ofNat c.toNat] ++ asciiBytes (String.mk ds)) from holds)⟩

/-- What one round of the digit loops needs from the bound on the whole value: the new
accumulator stays within `2 ^ 53`, and the rest of the digits are read after it. -/
theorem digit_bounds {r d n v : Nat} (small : r * 10 ^ (n + 1) + (d * 10 ^ n + v) ≤ 2 ^ 53) :
    r * 10 + d ≤ 2 ^ 53 ∧ (r * 10 + d) * 10 ^ n + v = r * 10 ^ (n + 1) + (d * 10 ^ n + v) := by
  have expand : (r * 10 + d) * 10 ^ n + v = r * 10 ^ (n + 1) + (d * 10 ^ n + v) := by ring
  have grow := Nat.le_mul_of_pos_right (r * 10 + d) (Nat.pos_pow_of_pos n (by norm_num : 0 < 10))
  exact ⟨by omega, expand⟩

/-- `digitLoop` over the digits `ds` held at `i`, with the loop's end just after them: while every
partial value stays within `2 ^ 53` each step is exact, and the loop returns the value of the
digits after those already in `r`. -/
theorem digitLoop_digits {b : Buffer} : ∀ {ds : List Char} {i r fuel : Nat},
    b.Holds i (asciiBytes (String.mk ds)) → ds.all isDecimalDigit = true → ds.length ≤ fuel →
    r * 10 ^ ds.length + digitsValue ds ≤ 2 ^ 53 →
    digitLoop b (ofNat (i + ds.length)) fuel (ofNat i) (ofNat r) =
      ofNat (r * 10 ^ ds.length + digitsValue ds)
  | [], i, r, fuel, holds, _, _, _ => by
    have small := Buffer.small_of_le holds.1
    cases fuel <;> simp [digitLoop, digitsValue, lt_ofNat small small]
  | c :: ds, i, r, fuel + 1, holds, digits, enough, small => by
    simp only [List.all_cons, Bool.and_eq_true] at digits
    have fits := holds.fits
    simp only [asciiBytes_mk, List.length_map, List.length_cons] at fits enough small
    rw [digitsValue_cons] at small
    have inside := Buffer.small_of_le fits
    obtain ⟨step, expand⟩ := digit_bounds small
    simp only [digitLoop, List.length_cons, digitsValue_cons, lt_ofNat (show i ≤ 2 ^ 53 by omega) inside,
      decide_eq_true (show i < i + (ds.length + 1) by omega), if_true, ofNat_literal,
      ofNat_add_ofNat (show i + 1 ≤ 2 ^ 53 by omega), digit_step holds digits.1 step]
    rw [show i + (ds.length + 1) = i + 1 + ds.length by omega, ← expand]
    exact digitLoop_digits (holds_cons_digits holds).2 digits.2 (show ds.length ≤ fuel by omega) (by omega)

/-- `parseIntLoop`, the same loop on the packet's cursor: it returns what `digitLoop` returns
and leaves the cursor just after the digits. -/
theorem parseIntLoop_digits {p : Packet} : ∀ {ds : List Char} {i r fuel : Nat},
    p.buffer.Holds i (asciiBytes (String.mk ds)) → ds.all isDecimalDigit = true →
    ds.length ≤ fuel → r * 10 ^ ds.length + digitsValue ds ≤ 2 ^ 53 →
    (parseIntLoop (ofNat (i + ds.length)) fuel (ofNat r)).run (p.cursorAt i) =
      .ok (ofNat (r * 10 ^ ds.length + digitsValue ds), p.cursorAt (i + ds.length))
  | [], i, r, fuel, holds, _, _, _ => by
    have small := Buffer.small_of_le holds.1
    cases fuel <;> simp [parseIntLoop, digitsValue, lt_ofNat small small] <;> rfl
  | c :: ds, i, r, fuel + 1, holds, digits, enough, small => by
    simp only [List.all_cons, Bool.and_eq_true] at digits
    have fits := holds.fits
    simp only [asciiBytes_mk, List.length_map, List.length_cons] at fits enough small
    rw [digitsValue_cons] at small
    have inside := Buffer.small_of_le fits
    obtain ⟨step, expand⟩ := digit_bounds small
    simp only [parseIntLoop, StateT.run_bind, StateT.run_get, pure_bind, offset_cursorAt,
      buffer_cursorAt, List.length_cons, digitsValue_cons, lt_ofNat (show i ≤ 2 ^ 53 by omega) inside,
      decide_eq_true (show i < i + (ds.length + 1) by omega), if_true, StateT.run_set, ofNat_literal,
      ofNat_add_ofNat (show i + 1 ≤ 2 ^ 53 by omega), digit_step holds digits.1 step]
    rw [show i + (ds.length + 1) = i + 1 + ds.length by omega, ← expand]
    exact parseIntLoop_digits (holds_cons_digits holds).2 digits.2 (show ds.length ≤ fuel by omega) (by omega)

/-! ## Signed integer numerals -/

theorem with_offset_ofNat (p : Packet) (a : Nat) : { p with offset := ofNat a } = p.cursorAt a := rfl

theorem mul_one_of_isNat {x : Float64} {a : Nat} (hx : IsNat x a) : x * 1 = round false a 1 :=
  (mul_of_isNat hx (isNat_ofNat (by norm_num))).trans (by rw [Nat.mul_one]; rfl)

theorem loopFuel_ofNat {a c : Nat} (ha : a ≤ 2 ^ 53) (hc : c ≤ 2 ^ 53) :
    loopFuel (ofNat a) (ofNat c) = c - a + 1 := by
  simp only [loopFuel, isFinite_ofNat ha, isFinite_ofNat hc, truncate_ofNat ha, truncate_ofNat hc,
    Bool.and_self, if_true]
  omega

theorem byteIs_ofNat {b : Buffer} {o : Nat} {x : UInt8} {rest : List UInt8}
    (holds : b.Holds o (x :: rest)) (code : UInt8) : byteIs b (ofNat o) code = decide (x = code) := by
  have inside := holds.fits
  simp only [List.length_cons] at inside
  simp [byteIs, Buffer.index_ofNat b (Buffer.small_of_le (show o ≤ b.length by omega)), holds.getElem?]

/-- A digit's byte is neither sign. -/
theorem digitByte_ne_sign {c : Char} (digit : isDecimalDigit c = true) :
    UInt8.ofNat c.toNat ≠ 0x2D ∧ UInt8.ofNat c.toNat ≠ 0x2B := by
  have byte := toNat_digitByte digit
  constructor <;> intro same <;> rw [same] at byte
  · change 45 = 48 + digitValue c at byte
    omega
  · change 43 = 48 + digitValue c at byte
    omega

/-- The bytes of two pieces of text held one after the other. -/
theorem holds_chars_append {b : Buffer} {o : Nat} {xs ys : List Char}
    (holds : b.Holds o (asciiBytes (String.mk (xs ++ ys)))) :
    b.Holds o (asciiBytes (String.mk xs)) ∧ b.Holds (o + xs.length) (asciiBytes (String.mk ys)) := by
  rw [asciiBytes_mk, List.map_append] at holds
  simpa using And.intro holds.left holds.right

/-- The sign tests of the readers on a numeral's bytes: `-` and `+` are seen at its start exactly
when it has that sign, and neither where its digits start. -/
theorem byteIs_sign {b : Buffer} {o : Nat} {sign : Sign} {c : Char} {ds : List Char}
    (holds : b.Holds o (asciiBytes (String.mk (sign.text ++ c :: ds))))
    (unsigned : UInt8.ofNat c.toNat ≠ 0x2D ∧ UInt8.ofNat c.toNat ≠ 0x2B) :
    byteIs b (ofNat o) 0x2D = sign.negative ∧ byteIs b (ofNat o) 0x2B = decide (sign = .plus) ∧
      byteIs b (ofNat (o + sign.text.length)) 0x2D = false ∧
      byteIs b (ofNat (o + sign.text.length)) 0x2B = false := by
  have start := (holds_chars_append holds).2
  rw [asciiBytes_mk, List.map_cons] at start
  rw [byteIs_ofNat start, byteIs_ofNat start, decide_eq_false unsigned.1, decide_eq_false unsigned.2]
  cases sign <;> simp only [Sign.text, List.nil_append, List.cons_append, asciiBytes_mk, List.map_cons] at holds <;>
    simp [byteIs_ofNat holds, Sign.negative, unsigned.1, unsigned.2]

/-- Where `intAsciiSmall` starts its digit loop: past a `-` if it saw one, then past a `+`. -/
theorem digitStart_sign {b : Buffer} {o : Nat} {sign : Sign} {c : Char} {ds : List Char}
    (holds : b.Holds o (asciiBytes (String.mk (sign.text ++ c :: ds))))
    (unsigned : UInt8.ofNat c.toNat ≠ 0x2D ∧ UInt8.ofNat c.toNat ≠ 0x2B) :
    (if byteIs b (if sign.negative then ofNat o + 1 else ofNat o) 0x2B then
        (if sign.negative then ofNat o + 1 else ofNat o) + 1
      else if sign.negative then ofNat o + 1 else ofNat o) = ofNat (o + sign.text.length) := by
  have tests := byteIs_sign holds unsigned
  have fits := holds.fits
  simp only [asciiBytes_mk, List.length_map, List.length_append, List.length_cons] at fits
  have next : ofNat o + ofNat 1 = ofNat (o + 1) :=
    ofNat_add_ofNat (show o + 1 ≤ 2 ^ 53 by have := Buffer.small_of_le fits; omega)
  cases sign <;> simp only [Sign.text, Sign.negative, List.length_nil, List.length_singleton,
    Nat.add_zero, decide_True, decide_False, reduceCtorEq] at tests ⊢ <;>
    simp only [tests, ofNat_literal, next, if_true, if_false, Bool.false_eq_true]

/-- A natural within `2 ^ 53`, negated or not: the rounding of the signed value. -/
theorem neg_ite_ofNat (negative : Bool) (v : Nat) :
    (if negative then -ofNat v else ofNat v) = round negative v 1 := by
  cases negative
  · rw [if_neg Bool.false_ne_true]
    rfl
  · rw [if_pos rfl]
    exact neg_round v 1

/-- `intAsciiSmall` on a signed numeral whose digits' value is within `2 ^ 53`: the value read
exactly, negated under a minus. -/
theorem intAsciiSmall_numeral {b : Buffer} {o : Nat} (n : IntNumeral)
    (holds : b.Holds o (asciiBytes n.text)) (small : digitsValue n.digits ≤ 2 ^ 53) :
    PacketParser.intAsciiSmall b (some (ofNat o)) (some (ofNat n.text.length)) =
      .number (round n.sign.negative (digitsValue n.digits) 1) := by
  obtain ⟨sign, digits, nonempty, all⟩ := n
  obtain ⟨c, ds, rfl⟩ := List.exists_cons_of_ne_nil nonempty
  have digit : isDecimalDigit c = true := (Bool.and_eq_true _ _ ▸ List.all_cons ▸ all).1
  have start := (holds_chars_append holds).2
  have fits := holds.fits
  simp only [IntNumeral.text, asciiBytes_mk, List.length_map] at start fits holds ⊢
  simp only [String.length, List.length_append, List.length_cons] at fits ⊢
  have inside := Buffer.small_of_le fits
  have positive : (ofNat (sign.text.length + (ds.length + 1))).isZero = false :=
    (isNat_ofNat (show sign.text.length + (ds.length + 1) ≤ 2 ^ 53 by omega)).isInt.isZero (by omega)
  have loop := digitLoop_digits start all (show (c :: ds).length ≤ ds.length + 1 + 1 by simp) (r := 0)
    (by simpa using small)
  rw [List.length_cons, Nat.zero_mul, Nat.zero_add, Nat.add_assoc] at loop
  simp only [PacketParser.intAsciiSmall, defaults, JSValue.toBoolean,
    positive, isNaN_ofNat (show sign.text.length + (ds.length + 1) ≤ 2 ^ 53 by omega), Bool.or_self,
    Bool.not_false, Bool.not_true, Bool.false_eq_true, if_false, (byteIs_sign holds (digitByte_ne_sign digit)).1,
    digitStart_sign holds (digitByte_ne_sign digit), ofNat_add_ofNat inside,
    loopFuel_ofNat (show o + sign.text.length ≤ 2 ^ 53 by omega) inside, Nat.add_sub_add_left]
  simp only [Nat.add_sub_add_left, Nat.add_sub_cancel_left, ofNat_literal, loop, neg_ite_ofNat]

/-- `Packet.parseIntNoBigCheck(L)` at a cursor on a signed numeral of length `L`: the same value as
`intAsciiSmall`, and the cursor just after the numeral. -/
theorem parseIntNoBigCheck_numeral {p : Packet} {o : Nat} (n : IntNumeral)
    (holds : p.buffer.Holds o (asciiBytes n.text)) (small : digitsValue n.digits ≤ 2 ^ 53)
    (cursor : p.offset = ofNat o) :
    (parseIntNoBigCheck (.number (ofNat n.text.length))).run p =
      .ok (.number (round n.sign.negative (digitsValue n.digits) 1), p.cursorAt (o + n.text.length)) := by
  obtain ⟨sign, digits, nonempty, all⟩ := n
  obtain ⟨c, ds, rfl⟩ := List.exists_cons_of_ne_nil nonempty
  have digit : isDecimalDigit c = true := (Bool.and_eq_true _ _ ▸ List.all_cons ▸ all).1
  dsimp only at small
  have tests := byteIs_sign holds (digitByte_ne_sign digit)
  have start := (holds_chars_append holds).2
  have fits := holds.fits
  simp only [IntNumeral.text, asciiBytes_mk, List.length_map] at start fits holds ⊢
  simp only [String.length, List.length_append, List.length_cons] at fits ⊢
  have inside := Buffer.small_of_le fits
  have loop := parseIntLoop_digits (p := p) start all (show (c :: ds).length ≤ ds.length + 1 + 1 by simp) (r := 0)
    (by simpa using small)
  rw [List.length_cons, Nat.zero_mul, Nat.zero_add, Nat.add_assoc,
    show (ofNat 0 : Float64) = 0 from rfl] at loop
  have exact := isNat_ofNat small
  have fuel : loopFuel (ofNat (o + sign.text.length)) (ofNat (o + (sign.text.length + (ds.length + 1)))) =
      ds.length + 1 + 1 := by
    rw [loopFuel_ofNat (by omega) inside]
    omega
  have next : ofNat o + 1 = ofNat (o + 1) := ofNat_add_ofNat (b := 1) (by omega)
  have nonzero : (ofNat (sign.text.length + (ds.length + 1))).equal (ofNat 0) = false := by
    rw [equal_ofNat (by omega) (by omega)]
    simp
  simp only [parseIntNoBigCheck, JSValue.isNull, JSValue.isNumber, JSValue.add, JSValue.toNumber,
    Bool.false_eq_true, if_false, StateT.run_bind, StateT.run_get, pure_bind, cursor,
    ofNat_add_ofNat inside, nonzero]
  cases sign <;> simp only [Sign.text, Sign.negative, List.length_nil, List.length_singleton,
    Nat.add_zero, Nat.zero_add, decide_True, decide_False, reduceCtorEq, cursorAt_eq_self cursor]
      at tests loop inside fuel ⊢ <;>
    simp only [tests, if_true, Bool.false_eq_true, if_false, StateT.run_bind, StateT.run_get,
      StateT.run_modify, pure_bind, cursor, next, with_offset_ofNat, buffer_cursorAt, offset_cursorAt,
      fuel, loop, ok_bind, StateT.run_pure]
  -- the sign is `1` unless a `-` was read
  · rw [mul_one_of_isNat exact]
    rfl
  · rw [mul_neg_one_of_isNat exact]
    rfl
  · rw [mul_one_of_isNat exact]
    rfl

/-- `Number(s)` of a signed numeral: the value of its digits rounded once, negated under a minus. -/
theorem stringToNumber_numeral (n : IntNumeral) (size : (decimal (digitsValue n.digits)).length ≤ 400) :
    stringToNumber n.text = round n.sign.negative (digitsValue n.digits) 1 := by
  obtain ⟨sign, digits, nonempty, all⟩ := n
  cases sign
  · exact stringToNumber_unsigned_digits nonempty all size
  -- after a sign the literal is read by its decimal branch, which the match reaches by reduction
  · unfold stringToNumber
    rw [show (IntNumeral.text ⟨.minus, digits, nonempty, all⟩).toList = '-' :: digits from rfl,
      trim_numeral (c := '-') (by decide) nonempty all]
    exact congrArg (Option.getD · nan) (unsignedDecimalValue_digits true nonempty all size)
  · unfold stringToNumber
    rw [show (IntNumeral.text ⟨.plus, digits, nonempty, all⟩).toList = '+' :: digits from rfl,
      trim_numeral (c := '+') (by decide) nonempty all]
    exact congrArg (Option.getD · nan) (unsignedDecimalValue_digits false nonempty all size)

/-- A natural within `2 ^ 53` rounded with a sign is exactly the signed natural. -/
theorem isInt_round (sign : Sign) {v : Nat} (small : v ≤ 2 ^ 53) :
    IsInt (round sign.negative v 1) (sign.apply v) := by
  unfold Sign.apply
  cases sign.negative
  · exact (isNat_ofNat small).isInt
  · rw [← neg_round]
    exact (isNat_ofNat small).isInt.neg

theorem decimal_length_le {v : Nat} (small : v ≤ 2 ^ 53) : (decimal v).length ≤ 400 :=
  (Nat.repr_length v 16 (by norm_num) (by omega)).trans (by norm_num)

/-- A signed numeral of value within `2 ^ 53` held at `o`: `intAsciiSmall(b, o, L)` returns
`Number(s)`, which is the numeral's value exactly, and `parseIntNoBigCheck(L)` called with the cursor
at `o` returns the same double and leaves the cursor at `o + L`. -/
theorem intAsciiSmall_reads_signed_numerals {b : Buffer} {o : Nat} (n : IntNumeral)
    (holds : b.Holds o (asciiBytes n.text)) (small : n.value.natAbs ≤ 2 ^ 53) :
    IsInt (stringToNumber n.text) n.value ∧
      PacketParser.intAsciiSmall b (some (ofNat o)) (some (ofNat n.text.length)) =
        .number (stringToNumber n.text) ∧
      ∀ p : Packet, p.buffer = b → p.offset = ofNat o →
        (parseIntNoBigCheck (.number (ofNat n.text.length))).run p =
          .ok (.number (stringToNumber n.text), p.cursorAt (o + n.text.length)) := by
  have digits : digitsValue n.digits ≤ 2 ^ 53 := by
    unfold IntNumeral.value Sign.apply at small
    split at small <;> simpa using small
  rw [stringToNumber_numeral n (decimal_length_le digits)]
  refine ⟨isInt_round n.sign digits, intAsciiSmall_numeral n holds digits, ?_⟩
  rintro p rfl cursor
  exact parseIntNoBigCheck_numeral n holds digits cursor

/-- `"-0042"` at index `2` of `"ab-0042"`: both readers give `-42`. -/
theorem intAsciiSmall_reads_minus_forty_two :
    let n : IntNumeral := ⟨.minus, ['0', '0', '4', '2'], by decide, by decide⟩
    let b : Buffer := ⟨asciiBytes "ab-0042", by decide⟩
    (b.Holds 2 (asciiBytes n.text) ∧ n.value.natAbs ≤ 2 ^ 53) ∧
      IsInt (stringToNumber n.text) n.value ∧
      PacketParser.intAsciiSmall b (some (ofNat 2)) (some (ofNat n.text.length)) =
        .number (stringToNumber n.text) ∧
      ∀ p : Packet, p.buffer = b → p.offset = ofNat 2 →
        (parseIntNoBigCheck (.number (ofNat n.text.length))).run p =
          .ok (.number (stringToNumber n.text), p.cursorAt (2 + n.text.length)) :=
  have holds : Buffer.Holds ⟨asciiBytes "ab-0042", by decide⟩ 2
      (asciiBytes (IntNumeral.text ⟨.minus, ['0', '0', '4', '2'], by decide, by decide⟩)) :=
    ⟨by decide, [], by decide⟩
  ⟨⟨holds, by decide⟩, intAsciiSmall_reads_signed_numerals _ holds (by decide)⟩

/-! ## The numeral of an integer -/

theorem digitChar_digit : ∀ k, k < 10 → isDecimalDigit (Nat.digitChar k) = true ∧ digitValue (Nat.digitChar k) = k := by
  decide

/-- `Nat.toDigits 10` puts the decimal digits of `n` in front of what it is given. -/
theorem toDigitsCore_digits : ∀ (fuel n : Nat) (ds : List Char), n < fuel →
    ∃ pre, Nat.toDigitsCore 10 fuel n ds = pre ++ ds ∧ pre ≠ [] ∧ pre.all isDecimalDigit = true ∧ digitsValue pre = n
  | 0, _, _, inside => absurd inside (Nat.not_lt_zero _)
  | fuel + 1, n, ds, inside => by
    obtain ⟨digit, value⟩ := digitChar_digit (n % 10) (Nat.mod_lt _ (by decide))
    rw [Nat.toDigitsCore]
    split
    · next last =>
      refine ⟨[Nat.digitChar (n % 10)], rfl, List.cons_ne_nil _ _, by simpa using digit, ?_⟩
      rw [digitsValue_cons, value, List.length_nil, Nat.pow_zero, Nat.mul_one]
      simp [digitsValue]
      omega
    · next more =>
      obtain ⟨pre, eq, -, digits, preValue⟩ := toDigitsCore_digits fuel (n / 10) _ (by omega)
      refine ⟨pre ++ [Nat.digitChar (n % 10)], by rw [eq, List.append_assoc]; rfl, by simp, by simp [digits, digit], ?_⟩
      rw [digitsValue_append, preValue, digitsValue_cons, value]
      simp [digitsValue]
      omega

theorem toDigits_digits (n : Nat) :
    Nat.toDigits 10 n ≠ [] ∧ (Nat.toDigits 10 n).all isDecimalDigit = true ∧ digitsValue (Nat.toDigits 10 n) = n := by
  obtain ⟨pre, same, nonempty, digits, value⟩ := toDigitsCore_digits (n + 1) n [] (Nat.lt_succ_self n)
  rw [List.append_nil] at same
  rw [Nat.toDigits, same]
  exact ⟨nonempty, digits, value⟩

/-- The decimal numeral of an integer as the server writes it: a minus sign for a negative one,
then the digits of its magnitude. -/
def IntNumeral.ofInt (v : Int) : IntNumeral :=
  ⟨if v < 0 then .minus else .none, Nat.toDigits 10 v.natAbs, (toDigits_digits _).1, (toDigits_digits _).2.1⟩

/-- The numeral of `v` reads as the double `ofInt v`, the same one as a conversion of `v`. -/
theorem round_ofInt (v : Int) :
    round (IntNumeral.ofInt v).sign.negative (digitsValue (IntNumeral.ofInt v).digits) 1 = ofInt v := by
  have sign : (IntNumeral.ofInt v).sign.negative = decide (v < 0) := by
    by_cases negative : v < 0 <;> simp [IntNumeral.ofInt, Sign.negative, negative]
  rw [sign, show (IntNumeral.ofInt v).digits = Nat.toDigits 10 v.natAbs from rfl, (toDigits_digits _).2.2]
  rfl

theorem natAbs_ofInt (v : Int) : digitsValue (IntNumeral.ofInt v).digits = v.natAbs :=
  (toDigits_digits _).2.2

end Mysql2Codec.Parser