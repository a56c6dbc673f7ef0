import Mysql2Codec.Packet.Spec

/-! # Length-coded numbers

`writeLengthCodedNumber` and `readLengthCodedNumber` encode a length or a count in one byte below
`0xfb`, and otherwise as a tag byte followed by two, three or eight bytes: `0xfc`, `0xfd`, `0xfe`;
`0xfb` alone is NULL.  `lengthCodedNumberLength` predicts the size of the encoding from its own
thresholds.

The wire format is stated once, as `lengthCodedBytes v` for a natural `v < 2 ^ 64`, and the two
methods are proved against it:

* `readLengthCodedNumber_run`: from bytes `lengthCodedBytes v` the reader returns
  `lengthCodedValue v`, the number `v` below `2 ^ 53` and above it the double nearest to `v`
  when that double prints as `v` does, else `v`'s decimal string;
* `writeLengthCodedNumber_run`: each input that stands for `v` (`Denotes`), a number, a string of
  digits or a `{low, high}` object, is written as `lengthCodedBytes v`.  The writer goes through
  a `Long` above `0xffffff`; `writeLengthCodedNumber_eq` names its two ends, `writeNarrow` and
  `writeWide`;
* `writeLengthCodedNumber_then_read` joins the two: what the writer wrote, the reader reads back
  from where the writer began and ends where the writer ended.
-/

namespace Mysql2Codec.Packet

open Js Float64

/-! ## The wire format -/

/-- The bytes of a length-coded `v`: one byte below `0xfb`, else a tag and the low two, three or
eight bytes of `v`. -/
def lengthCodedBytes (v : Nat) : List UInt8 :=
  if v < 251 then leBytes 1 v
  else if v < 2 ^ 16 then 0xfc :: leBytes 2 v
  else if v < 2 ^ 24 then 0xfd :: leBytes 3 v
  else 0xfe :: leBytes 8 v

theorem length_lengthCodedBytes (v : Nat) :
    (lengthCodedBytes v).length =
      if v < 251 then 1 else if v < 2 ^ 16 then 3 else if v < 2 ^ 24 then 4 else 9 := by
  unfold lengthCodedBytes
  split_ifs <;> simp

/-- What `readLengthCodedNumber(bigNumberStrings)` makes of `v`. -/
def lengthCodedValue (bigNumberStrings : Bool) (v : Nat) : JSValue :=
  if v < 2 ^ 53 then .number (.ofNat v)
  else if bigNumberStrings then .string (decimal v)
  else if (Float64.ofNat v).toString = decimal v then .number (.ofNat v)
  else .string (decimal v)

/-! ## Values of bytes -/

theorem isNumber_ofNat {a k : Nat} (ha : a ≤ 2 ^ 53) (hk : k ≤ 2 ^ 53) :
    (JSValue.number (.ofNat a)).isNumber k = decide (a = k) :=
  equal_ofNat ha hk

theorem lessThan_ofNat {v k : Nat} (hv : v ≤ 2 ^ 53) (hk : k ≤ 2 ^ 53) :
    (JSValue.number (.ofNat v)).lessThan (.ofNat k) = decide (v < k) :=
  lt_ofNat hv hk

theorem lessThan_of_isInt {n : JSValue} {v k : Nat} (hv : IsInt n.toNumber v) (hk : k ≤ 2 ^ 53) :
    n.lessThan (.ofNat k) = decide (v < k) := by
  rw [JSValue.lessThan, lt_of_isInt hv (isNat_ofNat hk).isInt]
  exact decide_eq_decide.2 Int.ofNat_lt

/-- `low + (high << k)` of two naturals. -/
theorem add_shiftLeft_ofNat {a b k : Nat} (small : b * 2 ^ k < 2 ^ 31) (sum : a + b * 2 ^ k ≤ 2 ^ 53)
    (shift : k < 32) :
    (JSValue.number (.ofNat a)).add (.number ((Float64.ofNat b).shiftLeft (.ofNat k))) =
      .number (.ofNat (a + b * 2 ^ k)) := by
  show JSValue.number (Float64.ofNat a + (Float64.ofNat b).shiftLeft (.ofNat k)) = _
  rw [shiftLeft_ofNat small shift, ofNat_add_ofNat sum]

theorem littleEndian_window_add (p : Packet) {q a : Nat} (b : Nat) (fits : q + a ≤ p.buffer.length) :
    littleEndian (p.window q (a + b)) =
      littleEndian (p.window q a) + 256 ^ a * littleEndian (p.window (q + a) b) := by
  have width : (p.window q a).length = a := by
    simp only [window, List.length_take, List.length_drop]; unfold Buffer.length at fits; omega
  rw [window_add, littleEndian_append, width]

theorem littleEndian_window_lt (p : Packet) {q a : Nat} (fits : q + a ≤ p.buffer.length) :
    littleEndian (p.window q a) < 256 ^ a := by
  have width : (p.window q a).length = a := by
    simp only [window, List.length_take, List.length_drop]; unfold Buffer.length at fits; omega
  have bound := littleEndian_lt (p.window q a)
  rwa [width] at bound

/-! ## Reading -/

section Reading

variable {p : Packet} {o : Nat}

/-- A tag byte, then the rest. -/
theorem holds_tag {tag : UInt8} {rest : List UInt8} (holds : p.buffer.Holds o (tag :: rest)) :
    littleEndian (p.window o 1) = tag.toNat ∧ p.buffer.Holds (o + 1) rest := by
  have split : p.buffer.Holds o ([tag] ++ rest) := holds
  have first := split.left.window
  rw [List.length_singleton] at first
  exact ⟨by rw [window, first]; simp, split.right⟩

/-- The value of bytes the buffer holds. -/
theorem littleEndian_of_holds' {width v : Nat} (holds : p.buffer.Holds o (leBytes width v)) :
    littleEndian (p.window o width) = v % 256 ^ width := by
  have bytes := holds.window
  rw [length_leBytes] at bytes
  rw [window, bytes, littleEndian_leBytes]

theorem littleEndian_of_holds {width v : Nat} (holds : p.buffer.Holds o (leBytes width v))
    (small : v < 256 ^ width) : littleEndian (p.window o width) = v := by
  rw [littleEndian_of_holds' holds, Nat.mod_eq_of_lt small]

theorem readLengthCodedNumber_byte (bigNumberStrings signed : Bool) {v : Nat}
    (cursor : p.offset = .ofNat o) (holds : p.buffer.Holds o (leBytes 1 v)) (band : v < 251) :
    (readLengthCodedNumber bigNumberStrings signed).run p = .ok (.number (.ofNat v), p.cursorAt (o + 1)) := by
  have fits := holds.fits
  simp only [length_leBytes] at fits
  simp only [readLengthCodedNumber, StateT.run_bind, readInt8_run cursor fits, ok_bind,
    littleEndian_of_holds holds (by omega), ofNat_literal,
    lessThan_ofNat (show v ≤ 2 ^ 53 by omega) (by decide : 251 ≤ 2 ^ 53), decide_eq_true band,
    if_true, StateT.run_pure]
  rfl

/-- The tag `0xfb`: NULL. -/
theorem readLengthCodedNumber_null (bigNumberStrings signed : Bool) (cursor : p.offset = .ofNat o)
    (holds : p.buffer.Holds o [0xfb]) :
    (readLengthCodedNumber bigNumberStrings signed).run p = .ok (.null, p.cursorAt (o + 1)) := by
  have fits := holds.fits
  have tag : littleEndian (p.window o 1) = 251 := (holds_tag holds).1
  have facts : (JSValue.number (.ofNat 251)).lessThan (.ofNat 251) = false ∧
      (JSValue.number (.ofNat 251)).isNumber 251 = true := by
    rw [lessThan_ofNat (by decide) (by decide), isNumber_ofNat (by decide) (by decide)]
    decide
  rw [readLengthCodedNumber, StateT.run_bind, readInt8_run cursor fits, ok_bind, tag]
  simp only [ofNat_literal, facts.1, Bool.false_eq_true, if_false, pure_bind]
  rw [readLengthCodedNumberExt]
  simp only [facts.2, if_true, StateT.run_pure]
  rfl

/-- The tag `0xfc` and two bytes. -/
theorem readLengthCodedNumber_two (bigNumberStrings signed : Bool) {v : Nat}
    (cursor : p.offset = .ofNat o) (holds : p.buffer.Holds o (0xfc :: leBytes 2 v)) (band : v < 2 ^ 16) :
    (readLengthCodedNumber bigNumberStrings signed).run p = .ok (.number (.ofNat v), p.cursorAt (o + 3)) := by
  obtain ⟨tag, body⟩ := holds_tag holds
  have fits := body.fits
  simp only [length_leBytes] at fits
  have value := littleEndian_of_holds body (by omega)
  have split : littleEndian (p.window (o + 1) 2) =
      littleEndian (p.window (o + 1) 1) + 256 ^ 1 * littleEndian (p.window (o + 1 + 1) 1) :=
    littleEndian_window_add p 1 (by omega)
  have low := littleEndian_window_lt p (q := o + 1) (a := 1) (by omega)
  have high := littleEndian_window_lt p (q := o + 1 + 1) (a := 1) (by omega)
  have tag252 : littleEndian (p.window o 1) = 252 := tag
  have below : (JSValue.number (.ofNat 252)).lessThan (.ofNat 251) = false := by
    rw [lessThan_ofNat (by decide) (by decide)]; decide
  have notNull : (JSValue.number (.ofNat 252)).isNumber 251 = false := by
    rw [isNumber_ofNat (by decide) (by decide)]; decide
  have isTwo : (JSValue.number (.ofNat 252)).isNumber 252 = true := by
    rw [isNumber_ofNat (by decide) (by decide)]; decide
  simp only [pow_one] at split low high
  rw [readLengthCodedNumber, StateT.run_bind, readInt8_run cursor (by omega), ok_bind, tag252]
  simp only [ofNat_literal, below, Bool.false_eq_true, if_false, pure_bind]
  rw [readLengthCodedNumberExt]
  simp only [notNull, isTwo, Bool.false_eq_true, if_false, if_true, pure_bind]
  rw [StateT.run_bind, readInt8_run (offset_cursorAt p (o + 1)) (show o + 1 + 1 ≤ p.buffer.length by omega),
    ok_bind, StateT.run_bind, readInt8_run (offset_cursorAt (p.cursorAt (o + 1)) (o + 1 + 1))
      (show o + 1 + 1 + 1 ≤ p.buffer.length by omega), ok_bind, StateT.run_pure]
  simp only [window_cursorAt, cursorAt_cursorAt]
  show Except.ok ((JSValue.number (.ofNat _)).add (.number ((Float64.ofNat _).shiftLeft (.ofNat 8))), _) = _
  rw [add_shiftLeft_ofNat (by omega) (by omega) (by decide),
    show littleEndian (p.window (o + 1) 1) + littleEndian (p.window (o + 1 + 1) 1) * 2 ^ 8 = v by omega]

/-- The tag `0xfd` and three bytes. -/
theorem readLengthCodedNumber_three (bigNumberStrings signed : Bool) {v : Nat}
    (cursor : p.offset = .ofNat o) (holds : p.buffer.Holds o (0xfd :: leBytes 3 v)) (band : v < 2 ^ 24) :
    (readLengthCodedNumber bigNumberStrings signed).run p = .ok (.number (.ofNat v), p.cursorAt (o + 4)) := by
  obtain ⟨tag, body⟩ := holds_tag holds
  have fits := body.fits
  simp only [length_leBytes] at fits
  have value := littleEndian_of_holds' body
  have split : littleEndian (p.window (o + 1) 3) =
      littleEndian (p.window (o + 1) 1) + 256 ^ 1 * littleEndian (p.window (o + 1 + 1) 2) :=
    littleEndian_window_add p 2 (by omega)
  have split' : littleEndian (p.window (o + 1 + 1) 2) =
      littleEndian (p.window (o + 1 + 1) 1) + 256 ^ 1 * littleEndian (p.window (o + 1 + 1 + 1) 1) :=
    littleEndian_window_add p 1 (by omega)
  have low := littleEndian_window_lt p (q := o + 1) (a := 1) (by omega)
  have middle := littleEndian_window_lt p (q := o + 1 + 1) (a := 1) (by omega)
  have high := littleEndian_window_lt p (q := o + 1 + 1 + 1) (a := 1) (by omega)
  have tag253 : littleEndian (p.window o 1) = 253 := tag
  have facts : (JSValue.number (.ofNat 253)).lessThan (.ofNat 251) = false ∧
      (JSValue.number (.ofNat 253)).isNumber 251 = false ∧
      (JSValue.number (.ofNat 253)).isNumber 252 = false ∧
      (JSValue.number (.ofNat 253)).isNumber 253 = true := by
    rw [lessThan_ofNat (by decide) (by decide), isNumber_ofNat (by decide) (by decide),
      isNumber_ofNat (by decide) (by decide), isNumber_ofNat (by decide) (by decide)]
    decide
  simp only [pow_one] at split split' low middle high
  rw [readLengthCodedNumber, StateT.run_bind, readInt8_run cursor (by omega), ok_bind, tag253]
  simp only [ofNat_literal, facts.1, Bool.false_eq_true, if_false, pure_bind]
  rw [readLengthCodedNumberExt]
  simp only [facts.2.1, facts.2.2.1, facts.2.2.2, Bool.false_eq_true, if_false, if_true, pure_bind]
  rw [StateT.run_bind, readInt8_run (offset_cursorAt p (o + 1)) (show o + 1 + 1 ≤ p.buffer.length by omega),
    ok_bind, StateT.run_bind, readInt8_run (offset_cursorAt (p.cursorAt (o + 1)) (o + 1 + 1))
      (show o + 1 + 1 + 1 ≤ p.buffer.length by omega), ok_bind, StateT.run_bind,
    readInt8_run (offset_cursorAt ((p.cursorAt (o + 1)).cursorAt (o + 1 + 1)) (o + 1 + 1 + 1))
      (show o + 1 + 1 + 1 + 1 ≤ p.buffer.length by omega), ok_bind, StateT.run_pure]
  simp only [window_cursorAt, cursorAt_cursorAt]
  show Except.ok (((JSValue.number (.ofNat _)).add (.number ((Float64.ofNat _).shiftLeft (.ofNat 8)))).add
    (.number ((Float64.ofNat _).shiftLeft (.ofNat 16))), _) = _
  rw [add_shiftLeft_ofNat (by omega) (by omega) (by decide), add_shiftLeft_ofNat (by omega) (by omega) (by decide),
    show littleEndian (p.window (o + 1) 1) + littleEndian (p.window (o + 1 + 1) 1) * 2 ^ 8 +
      littleEndian (p.window (o + 1 + 1 + 1) 1) * 2 ^ 16 = v by omega]

/-- The tag `0xfe` and eight bytes: a number below `2 ^ 53`, above it through an unsigned `Long`. -/
theorem readLengthCodedNumber_eight (bigNumberStrings : Bool) {v : Nat}
    (cursor : p.offset = .ofNat o) (holds : p.buffer.Holds o (0xfe :: leBytes 8 v)) (small : v < 2 ^ 64) :
    (readLengthCodedNumber bigNumberStrings false).run p =
      .ok (lengthCodedValue bigNumberStrings v, p.cursorAt (o + 9)) := by
  obtain ⟨tag, body⟩ := holds_tag holds
  have fits := body.fits
  simp only [length_leBytes] at fits
  rw [show 8 = 4 + 4 from rfl, leBytes_add] at body
  have word0 := littleEndian_of_holds' body.left
  have word1 := littleEndian_of_holds' (length_leBytes 4 v ▸ body.right)
  have low : v % 256 ^ 4 = v % 2 ^ 32 := rfl
  have high : v / 256 ^ 4 % 256 ^ 4 = v / 2 ^ 32 := by
    rw [show (256 : Nat) ^ 4 = 2 ^ 32 from rfl]; omega
  rw [low] at word0
  rw [high] at word1
  have tag254 : littleEndian (p.window o 1) = 254 := tag
  have facts : (JSValue.number (.ofNat 254)).lessThan (.ofNat 251) = false ∧
      (JSValue.number (.ofNat 254)).isNumber 251 = false ∧
      (JSValue.number (.ofNat 254)).isNumber 252 = false ∧
      (JSValue.number (.ofNat 254)).isNumber 253 = false ∧
      (JSValue.number (.ofNat 254)).isNumber 254 = true := by
    rw [lessThan_ofNat (by decide) (by decide), isNumber_ofNat (by decide) (by decide),
      isNumber_ofNat (by decide) (by decide), isNumber_ofNat (by decide) (by decide),
      isNumber_ofNat (by decide) (by decide)]
    decide
  rw [readLengthCodedNumber, StateT.run_bind, readInt8_run cursor (by omega), ok_bind, tag254]
  simp only [ofNat_literal, facts.1, Bool.false_eq_true, if_false, pure_bind]
  rw [readLengthCodedNumberExt]
  simp only [facts.2.1, facts.2.2.1, facts.2.2.2.1, facts.2.2.2.2, Bool.false_eq_true, if_false,
    if_true, pure_bind]
  rw [StateT.run_bind, readInt32_run (offset_cursorAt p (o + 1)) (show o + 1 + 4 ≤ p.buffer.length by omega),
    ok_bind, StateT.run_bind, readInt32_run (offset_cursorAt (p.cursorAt (o + 1)) (o + 1 + 4))
      (show o + 1 + 4 + 4 ≤ p.buffer.length by omega), ok_bind]
  simp only [window_cursorAt, cursorAt_cursorAt, word0, word1, JSValue.toNumber, ofNat_literal,
    equal_ofNat (show v / 2 ^ 32 ≤ 2 ^ 53 by omega) (show 0 ≤ 2 ^ 53 by omega),
    lt_ofNat (show v / 2 ^ 32 ≤ 2 ^ 53 by omega) (show 2097152 ≤ 2 ^ 53 by omega), Bool.not_false,
    StateT.run_pure, show o + 1 + 4 + 4 = o + 9 by omega]
  by_cases narrow : v < 2 ^ 32
  · rw [if_pos (decide_eq_true (by omega)), lengthCodedValue, if_pos (by omega),
      Nat.mod_eq_of_lt narrow]
    rfl
  by_cases exact : v < 2 ^ 53
  · rw [if_neg (by simp; omega), if_pos (decide_eq_true (by omega)), lengthCodedValue, if_pos exact,
      ofNat_mul_ofNat (by omega) (by omega), ofNat_add_ofNat (by omega),
      show v / 2 ^ 32 * 4294967296 + v % 2 ^ 32 = v by omega]
    rfl
  have bits : (Long.new (ofNat (v % 2 ^ 32)) (ofNat (v / 2 ^ 32)) true).bits = v := by
    simp only [Long.new, Long.bits_ofWords, toUint32_ofNat (show v % 2 ^ 32 ≤ 2 ^ 53 by omega),
      toUint32_ofNat (show v / 2 ^ 32 ≤ 2 ^ 53 by omega)]
    omega
  have unsigned : (Long.new (ofNat (v % 2 ^ 32)) (ofNat (v / 2 ^ 32)) true).unsigned = true := rfl
  rw [if_neg (by simp; omega), if_neg (by simp; omega), Long.toNumber_of_unsigned unsigned,
    Long.toString_of_unsigned unsigned, bits, lengthCodedValue, if_neg exact]
  rfl

/-- The reader against the wire format. -/
theorem readLengthCodedNumber_run (bigNumberStrings : Bool) {v : Nat} (cursor : p.offset = .ofNat o)
    (holds : p.buffer.Holds o (lengthCodedBytes v)) (small : v < 2 ^ 64) :
    (readLengthCodedNumber bigNumberStrings false).run p =
      .ok (lengthCodedValue bigNumberStrings v, p.cursorAt (o + (lengthCodedBytes v).length)) := by
  have value : v < 2 ^ 53 → lengthCodedValue bigNumberStrings v = .number (.ofNat v) :=
    fun exact => if_pos exact
  unfold lengthCodedBytes at holds ⊢
  split_ifs at holds ⊢ with byte two three
  · rw [readLengthCodedNumber_byte _ _ cursor holds byte, value (by omega)]
    rfl
  · rw [readLengthCodedNumber_two _ _ cursor holds two, value (by omega)]
    rfl
  · rw [readLengthCodedNumber_three _ _ cursor holds three, value (by omega)]
    rfl
  · exact readLengthCodedNumber_eight bigNumberStrings cursor holds small

end Reading

/-! ## Writing

`writeLengthCodedNumber` sends a `Long` (made from a number above `0xffffff` or a string of eight
characters or more) or a `{low, high}` object to one of its two ends by the test
`high === 0 && (low & 0xff000000) == 0`, which is `value < 2 ^ 24` (`narrow_eq`); everything
else goes to the narrow end.
-/

/-- The end of `writeLengthCodedNumber` that writes one, three or four bytes. -/
def writeNarrow (n : JSValue) : PacketM Unit :=
  if n.lessThan 0xfb then writeInt8 n
  else if n.lessThan 0x10000 then do
    writeInt8 (.number 0xfc)
    writeInt16 n
  else if n.lessThan 0x1000000 then do
    writeInt8 (.number 0xfd)
    writeInt24 n
  else throw (.error ((if n.toNumber.isFinite then "Should not reach here" else "Invalid integer") ++
    ": " ++ n.typeOf ++ " n"))

/-- The end of `writeLengthCodedNumber` that writes `0xfe` and two words. -/
def writeWide (longValue : LongValue) : PacketM Unit := do
  writeInt8 (.number 0xfe)
  let p ← get
  let buffer ← p.buffer.writeInt32LE longValue.low.toNumber p.offset
  let buffer ← buffer.writeInt32LE longValue.high.toNumber (p.offset + 4)
  set { p with buffer, offset := p.offset + 8 }

/-- The test that sends a `longValue` to the narrow end. -/
def LongValue.narrow (longValue : LongValue) : Bool :=
  longValue.high.isNumber 0 && (longValue.low.toNumber.and (.ofNat 0xff000000)).equal 0

theorem writeLengthCodedNumber_eq (n : JSValue) : writeLengthCodedNumber n =
    if n.isNull then writeInt8 (.number 0xfb)
    else liftM (longValueOf n) >>= fun longValue? =>
      longValue?.elim (writeNarrow n) fun longValue =>
        if longValue.narrow then writeNarrow longValue.low else writeWide longValue := by
  simp only [writeLengthCodedNumber, writeNarrow, writeWide, LongValue.narrow, bind_pure, pure_bind,
    bind_pure_unit]
  split
  · rfl
  · congr 1
    funext longValue?
    cases longValue? <;> rfl

/-- The 64-bit value of two words read as signed 32-bit numbers. -/
def wordsValue (lo hi : Int) : Nat := (lo % 2 ^ 32).toNat + (hi % 2 ^ 32).toNat * 2 ^ 32

/-- `low` and `high` are the numbers of two signed 32-bit words. -/
structure LongValue.Words (longValue : LongValue) (lo hi : Int) : Prop where
  low : longValue.low = .number (.ofInt lo)
  high : longValue.high = .number (.ofInt hi)
  low_range : -2 ^ 31 ≤ lo ∧ lo < 2 ^ 31
  high_range : -2 ^ 31 ≤ hi ∧ hi < 2 ^ 31

theorem wordsValue_lt (lo hi : Int) : wordsValue lo hi < 2 ^ 64 := by
  unfold wordsValue; omega

/-- The two words of a `Long`. -/
theorem words_long (l : Long) : (LongValue.long l).Words l.low l.high :=
  ⟨rfl, rfl, bmod_range _, bmod_range _⟩

theorem wordsValue_long (l : Long) : wordsValue l.low l.high = l.bits := by
  have := l.bits_lt
  rw [wordsValue, Long.low, Long.high, toNat_bmod_emod, toNat_bmod_emod]
  omega

/-- The mask `0xff000000` clears a 32-bit word exactly when it is below `2 ^ 24`. -/
theorem and_high_byte_eq_zero {w : Nat} (small : w < 2 ^ 32) :
    w &&& 0xff000000 = 0 ↔ w < 2 ^ 24 := by
  have mask : ∀ i < 32, (0xff000000 : Nat).testBit i = decide (24 ≤ i) := by decide
  constructor
  · intro zero
    refine Nat.lt_pow_two_of_testBit w fun i above => ?_
    by_cases inside : i < 32
    · have bit := congrArg (Nat.testBit · i) zero
      simp only [Nat.testBit_and, mask i inside, decide_eq_true above, Bool.and_true,
        Nat.zero_testBit] at bit
      exact bit
    · exact Nat.testBit_lt_two_pow (lt_of_lt_of_le small (Nat.pow_le_pow_right (by decide) (by omega)))
  · intro lower
    refine Nat.eq_of_testBit_eq fun i => ?_
    rw [Nat.testBit_and, Nat.zero_testBit]
    by_cases below : i < 24
    · rw [mask i (by omega), decide_eq_false (by omega), Bool.and_false]
    · rw [Nat.testBit_lt_two_pow (lt_of_lt_of_le lower (Nat.pow_le_pow_right (by decide) (by omega))),
        Bool.false_and]

variable {longValue : LongValue} {lo hi : Int}

/-- The narrow test is `value < 2 ^ 24`. -/
theorem LongValue.Words.narrow_eq (words : longValue.Words lo hi) :
    longValue.narrow = decide (wordsValue lo hi < 2 ^ 24) := by
  have low := isInt_ofInt (i := lo) (by have := words.low_range; omega)
  have high := isInt_ofInt (i := hi) (by have := words.high_range; omega)
  have word : (lo % 2 ^ 32).toNat &&& 0xff000000 < 2 ^ 32 :=
    lt_of_le_of_lt Nat.and_le_left (by have := words.low_range; omega)
  rw [LongValue.narrow, words.low, words.high, JSValue.isNumber, JSValue.toNumber,
    equal_of_isInt high (isNat_ofNat (by decide)).isInt, ofNat_literal,
    equal_of_isInt (isInt_and _ _) (isNat_ofNat (by decide)).isInt, low.toUint32,
    toUint32_ofNat (by decide), Nat.cast_zero,
    Nat.mod_eq_of_lt (show (0xff000000 : Nat) < 2 ^ 32 by decide), ← Bool.decide_and]
  refine decide_eq_decide.2 ?_
  rw [bmod_eq_zero_iff word, and_high_byte_eq_zero (by have := words.low_range; omega)]
  have := words.high_range
  unfold wordsValue
  omega

/-! ## What a value stands for -/

/-- What a value given to `writeLengthCodedNumber` stands for: NULL, or a natural below `2 ^ 64`
given as a number, as a string of decimal digits, or as an object whose `low` and `high` are two
signed 32-bit words. -/
inductive Denotes : JSValue → Option Nat → Prop
  | null : Denotes .null none
  | number {x : Float64} {v : Nat} (exact : x.toNat? = some v) (small : v < 2 ^ 64) :
      Denotes (.number x) (some v)
  | digits {chars : List Char} (nonempty : chars ≠ []) (digits : chars.all isDecimalDigit = true)
      (small : digitsValue chars < 2 ^ 64) :
      Denotes (.string (String.mk chars)) (some (digitsValue chars))
  | words {fields : List (String × JSValue)} {lo hi : Int}
      (words : (LongValue.object (.object fields)).Words lo hi) :
      Denotes (.object fields) (some (wordsValue lo hi))

/-- The bytes of a length-coded NULL or natural. -/
def lengthCodedField : Option Nat → List UInt8
  | none => [0xfb]
  | some v => lengthCodedBytes v

/-- What `readLengthCodedNumber(bigNumberStrings)` makes of a length-coded NULL or natural. -/
def lengthCodedResult (bigNumberStrings : Bool) : Option Nat → JSValue
  | none => .null
  | some v => lengthCodedValue bigNumberStrings v

theorem Denotes.lt {n : JSValue} {v : Nat} (denotes : Denotes n (some v)) : v < 2 ^ 64 := by
  cases denotes with
  | number _ small => exact small
  | digits _ _ small => exact small
  | words => exact wordsValue_lt _ _

section Writing

variable {p : Packet} {o : Nat}

/-- A tag byte, then what follows it. -/
theorem writeTag_run {tag : Nat} {rest : PacketM Unit} (bytes : List UInt8) (small : tag < 2 ^ 8)
    (cursor : p.offset = .ofNat o) (fits : o + 1 + bytes.length ≤ p.buffer.length)
    (after : rest.run (p.wrote o (leBytes 1 tag)) =
      .ok ((), (p.wrote o (leBytes 1 tag)).wrote (o + 1) bytes)) :
    (do writeInt8 (.number (.ofNat tag)); rest).run p = .ok ((), p.wrote o (leBytes 1 tag ++ bytes)) := by
  have value : IsInt (JSValue.number (.ofNat tag)).toNumber tag := (isNat_ofNat (by omega)).isInt
  rw [StateT.run_bind, writeInt8_run value small cursor (by omega), ok_bind,
    after, ← wrote_wrote (by simpa using fits), length_leBytes]

/-- The narrow end writes a natural below `2 ^ 24` as its band asks. -/
theorem writeNarrow_run {n : JSValue} {v : Nat} (hv : IsInt n.toNumber v) (band : v < 2 ^ 24)
    (cursor : p.offset = .ofNat o) (fits : o + (lengthCodedBytes v).length ≤ p.buffer.length) :
    (writeNarrow n).run p = .ok ((), p.wrote o (lengthCodedBytes v)) := by
  rw [length_lengthCodedBytes] at fits
  have moved : ∀ tag, (p.wrote o (leBytes 1 tag)).offset = .ofNat (o + 1) := by simp
  unfold lengthCodedBytes
  simp only [writeNarrow, ofNat_literal, lessThan_of_isInt hv (show 251 ≤ 2 ^ 53 by decide),
    lessThan_of_isInt hv (show 65536 ≤ 2 ^ 53 by decide), lessThan_of_isInt hv (show 16777216 ≤ 2 ^ 53 by decide),
    decide_eq_true_eq, Nat.reducePow] at fits ⊢
  split_ifs at fits ⊢ with byte two three
  · exact writeInt8_run hv (by omega) cursor (by omega)
  · exact writeTag_run _ (by decide) cursor (by simp; omega)
      (writeInt16_run hv two (moved _) (by simp; omega))
  · exact writeTag_run _ (by decide) cursor (by simp; omega)
      (writeInt24_run hv three (moved _) (by simp; omega))
  all_goals omega

/-- The wide end writes `0xfe` and the eight bytes of the two words. -/
theorem writeWide_run {longValue : LongValue} {lo hi : Int} (words : longValue.Words lo hi)
    (cursor : p.offset = .ofNat o) (fits : o + 9 ≤ p.buffer.length) :
    (writeWide longValue).run p = .ok ((), p.wrote o (0xfe :: leBytes 8 (wordsValue lo hi))) := by
  have low := isInt_ofInt (i := lo) (by have := words.low_range; omega)
  have high := isInt_ofInt (i := hi) (by have := words.high_range; omega)
  have lowWord : wordsValue lo hi % 256 ^ 4 = (lo % 2 ^ 32).toNat := by
    unfold wordsValue; rw [show (256 : Nat) ^ 4 = 2 ^ 32 from rfl]; omega
  have highWord : wordsValue lo hi / 256 ^ 4 % 256 ^ 4 = (hi % 2 ^ 32).toNat := by
    unfold wordsValue; rw [show (256 : Nat) ^ 4 = 2 ^ 32 from rfl]; omega
  have bytes : leBytes 8 (wordsValue lo hi) =
      leBytes 4 (lo % 2 ^ 32).toNat ++ leBytes 4 (hi % 2 ^ 32).toNat := by
    rw [show 8 = 4 + 4 from rfl, leBytes_add, ← leBytes_mod 4 (wordsValue lo hi),
      ← leBytes_mod 4 (wordsValue lo hi / 256 ^ 4), lowWord, highWord]
  have small := Buffer.small_of_le fits
  have first : o + 1 + 4 ≤ (p.buffer.set o (leBytes 1 254)).length := by simp; omega
  have second : o + 1 + 4 + 4 ≤
      ((p.buffer.set o (leBytes 1 254)).set (o + 1) (leBytes 4 (lo % 2 ^ 32).toNat)).length := by
    simp; omega
  rw [bytes]
  refine writeTag_run (leBytes 4 (lo % 2 ^ 32).toNat ++ leBytes 4 (hi % 2 ^ 32).toNat)
    (show 254 < 2 ^ 8 by decide)
    cursor (by simp; omega) ?_
  simp only [StateT.run_bind, StateT.run_get, pure_bind, words.low, words.high, JSValue.toNumber,
    offset_wrote, buffer_wrote, length_leBytes, liftM, StateT.run_monadLift, monadLift_self, ofNat_literal]
  rw [Buffer.writeInt32LE_ofNat low words.low_range first, ok_bind, ofNat_add_ofNat (by omega)]
  simp only [pure_bind]
  rw [Buffer.writeInt32LE_ofNat (o := o + 1 + 4) high words.high_range second]
  have joined := Buffer.set_append (b := p.buffer.set o (leBytes 1 254)) (o := o + 1)
    (show o + 1 + (leBytes 4 (lo % 2 ^ 32).toNat).length + (leBytes 4 (hi % 2 ^ 32).toNat).length ≤ _
      by simp; omega)
  simp only [length_leBytes] at joined
  simp only [ok_bind, pure_bind, StateT.run_set, joined, ofNat_literal,
    ofNat_add_ofNat (show o + 1 + 8 ≤ 2 ^ 53 by omega)]
  rfl

/-- Either end, as the narrow test picks it. -/
theorem writeLongValue_run (words : longValue.Words lo hi) (cursor : p.offset = .ofNat o)
    (fits : o + (lengthCodedBytes (wordsValue lo hi)).length ≤ p.buffer.length) :
    (if longValue.narrow then writeNarrow longValue.low else writeWide longValue).run p =
      .ok ((), p.wrote o (lengthCodedBytes (wordsValue lo hi))) := by
  rw [words.narrow_eq]
  by_cases band : wordsValue lo hi < 2 ^ 24
  · have same : lo = wordsValue lo hi := by
      have := words.low_range; unfold wordsValue at band ⊢; omega
    have hv : IsInt longValue.low.toNumber (wordsValue lo hi) := by
      rw [words.low, JSValue.toNumber, ← same]
      exact isInt_ofInt (by have := words.low_range; omega)
    rw [if_pos (decide_eq_true band)]
    exact writeNarrow_run hv band cursor fits
  · have wide : lengthCodedBytes (wordsValue lo hi) = 0xfe :: leBytes 8 (wordsValue lo hi) := by
      unfold lengthCodedBytes; rw [if_neg (by omega), if_neg (by omega), if_neg band]
    rw [if_neg (by simpa using band), wide]
    rw [wide] at fits
    exact writeWide_run words cursor (by simpa using fits)

theorem run_longValueOf {n : JSValue} {result : Option LongValue} (value : longValueOf n = .ok result)
    (f : Option LongValue → PacketM Unit) :
    (do f (← liftM (longValueOf n))).run p = (f result).run p := by
  simp only [StateT.run_bind, liftM, StateT.run_monadLift, monadLift_self, value, ok_bind]
  rfl

/-- The writer against the wire format. -/
theorem writeLengthCodedNumber_run {n : JSValue} {v : Option Nat} (denotes : Denotes n v)
    (cursor : p.offset = .ofNat o) (fits : o + (lengthCodedField v).length ≤ p.buffer.length) :
    (writeLengthCodedNumber n).run p = .ok ((), p.wrote o (lengthCodedField v)) := by
  rw [writeLengthCodedNumber_eq]
  cases denotes with
  | null =>
    have tag : IsInt (JSValue.number 0xfb).toNumber 251 := (isNat_ofNat (by decide)).isInt
    simp only [JSValue.isNull, if_true]
    exact writeInt8_run tag (by decide) cursor fits
  | @number x v exact small =>
    have hv := isInt_of_toNat? exact
    have limit : (Float64.ofNat 0xffffff).lt x = decide (0xffffff < v) := by
      rw [lt_of_isInt (isNat_ofNat (by decide)).isInt hv]
      exact decide_eq_decide.2 Int.ofNat_lt
    rw [if_neg (by rintro ⟨⟩), run_longValueOf (by rw [longValueOf, limit])]
    by_cases band : v ≤ 0xffffff
    · rw [decide_eq_false (by omega), if_neg Bool.false_ne_true, Option.elim_none]
      exact writeNarrow_run hv (by omega) cursor fits
    · rw [decide_eq_true (by omega), if_pos rfl, Option.elim_some]
      have bits := Long.fromNumber_of_isInt hv small
      have value := wordsValue_long (Long.fromNumber x true)
      rw [bits] at value
      rw [← value] at fits ⊢
      exact writeLongValue_run (words_long _) cursor fits
  | @digits chars nonempty digits small =>
    rw [if_neg (by rintro ⟨⟩)]
    by_cases long : 8 ≤ chars.length
    · obtain ⟨l, parsed, bits, -⟩ := Long.fromString_digits nonempty digits true
      have value := wordsValue_long l
      rw [bits, Nat.mod_eq_of_lt small] at value
      have made : longValueOf (.string (String.mk chars)) = .ok (some (.long l)) := by
        rw [longValueOf, if_pos (show 8 ≤ (String.mk chars).length from long), String.toList, parsed]
        rfl
      rw [run_longValueOf made, ← value, Option.elim_some]
      rw [← value] at fits
      exact writeLongValue_run (words_long l) cursor fits
    · have short := digitsValue_lt digits
      have width : 10 ^ chars.length ≤ 10 ^ 7 := Nat.pow_le_pow_right (by decide) (by omega)
      have hv : IsInt (JSValue.string (String.mk chars)).toNumber (digitsValue chars) := by
        rw [JSValue.toNumber, stringToNumber_digits nonempty digits (by omega)]
        exact (isNat_ofNat (by omega)).isInt
      rw [run_longValueOf (by rw [longValueOf, if_neg (show ¬8 ≤ (String.mk chars).length from long)]),
        Option.elim_none]
      exact writeNarrow_run hv (by omega) cursor fits
  | @words fields lo hi words =>
    rw [if_neg (by rintro ⟨⟩), run_longValueOf (n := .object fields) rfl, Option.elim_some]
    exact writeLongValue_run words cursor fits

end Writing

/-! ## The round trip -/

/-- The reader of a length-coded NULL or natural. -/
theorem readLengthCodedField_run (bigNumberStrings : Bool) {p : Packet} {o : Nat} {v : Option Nat}
    (cursor : p.offset = .ofNat o) (holds : p.buffer.Holds o (lengthCodedField v))
    (small : ∀ w, v = some w → w < 2 ^ 64) :
    (readLengthCodedNumber bigNumberStrings false).run p =
      .ok (lengthCodedResult bigNumberStrings v, p.cursorAt (o + (lengthCodedField v).length)) := by
  cases v with
  | none => exact readLengthCodedNumber_null bigNumberStrings false cursor holds
  | some w => exact readLengthCodedNumber_run bigNumberStrings cursor holds (small w rfl)

/-- Up to `2 ^ 53` the reader returns the number `v` itself: below it directly, at it because
`2 ^ 53` prints as its numeral. -/
theorem lengthCodedValue_exact {v : Nat} (small : v ≤ 2 ^ 53) :
    lengthCodedValue false v = .number (.ofNat v) := by
  unfold lengthCodedValue
  by_cases below : v < 2 ^ 53
  · exact if_pos below
  · obtain rfl : v = 2 ^ 53 := by omega
    have printed : (Float64.ofNat (2 ^ 53)).toString = decimal (2 ^ 53) := by decide
    rw [if_neg below, if_neg Bool.false_ne_true, if_pos printed]

/-- Writing then reading a length-coded number. -/
theorem writeLengthCodedNumber_then_read {p : Packet} {o : Nat} {n : JSValue} {v : Option Nat}
    (denotes : Denotes n v) (cursor : p.offset = .ofNat o)
    (fits : o + (lengthCodedField v).length ≤ p.buffer.length) :
    (writeLengthCodedNumber n).run p = .ok ((), p.wrote o (lengthCodedField v)) ∧
      (readLengthCodedNumber false false).run ((p.wrote o (lengthCodedField v)).cursorAt o) =
        .ok (lengthCodedResult false v, p.wrote o (lengthCodedField v)) ∧
      (lengthCodedField v).length =
        v.elim 1 fun v => if v < 251 then 1 else if v < 2 ^ 16 then 3 else if v < 2 ^ 24 then 4 else 9 := by
  refine ⟨writeLengthCodedNumber_run denotes cursor fits, ?_, ?_⟩
  · rw [readLengthCodedField_run false (offset_cursorAt (p.wrote o (lengthCodedField v)) o)
      (Buffer.holds_set fits) fun w same => by subst same; exact denotes.lt]
    rfl
  · cases v with
    | none => rfl
    | some w => exact length_lengthCodedBytes w

theorem writeLengthCodedNumber_then_read_three_hundred :
    (Denotes (.number (.ofNat 300)) (some 300) ∧
      (Packet.new ⟨List.replicate 8 0, by decide⟩ 0 8).offset = .ofNat 4 ∧
      4 + (lengthCodedField (some 300)).length ≤
        (Packet.new ⟨List.replicate 8 0, by decide⟩ 0 8).buffer.length) ∧
    ((writeLengthCodedNumber (.number (.ofNat 300))).run (Packet.new ⟨List.replicate 8 0, by decide⟩ 0 8) =
        .ok ((), (Packet.new ⟨List.replicate 8 0, by decide⟩ 0 8).wrote 4 (lengthCodedField (some 300))) ∧
      (readLengthCodedNumber false false).run
          (((Packet.new ⟨List.replicate 8 0, by decide⟩ 0 8).wrote 4 (lengthCodedField (some 300))).cursorAt 4) =
        .ok (lengthCodedResult false (some 300),
          (Packet.new ⟨List.replicate 8 0, by decide⟩ 0 8).wrote 4 (lengthCodedField (some 300))) ∧
      (lengthCodedField (some 300)).length =
        (some 300).elim 1 fun v => if v < 251 then 1 else if v < 2 ^ 16 then 3 else if v < 2 ^ 24 then 4 else 9) :=
  have denotes : Denotes (.number (.ofNat 300)) (some 300) := .number (toNat?_ofNat (by decide)) (by decide)
  have fits : 4 + (lengthCodedField (some 300)).length ≤
      (Packet.new ⟨List.replicate 8 0, by decide⟩ 0 8).buffer.length := by decide
  ⟨⟨denotes, rfl, fits⟩, writeLengthCodedNumber_then_read denotes rfl fits⟩

/-- The string `"1152921504606847000"` stands for `v = 1152921504606847000`, whose nearest double
`2 ^ 60` prints as `v` does: written and read back, it comes out as that double, not as `v`. -/
theorem digits_read_back_as_two_pow_sixty :
    Denotes (.string "1152921504606847000") (some 1152921504606847000) ∧
      (Float64.ofNat 1152921504606847000).toString = decimal 1152921504606847000 ∧
      ((writeLengthCodedNumber (.string "1152921504606847000")).run
          (Packet.new ⟨List.replicate 13 0, by decide⟩ 0 13) >>= fun written =>
        (readLengthCodedNumber false false).run (written.2.cursorAt 4)).toOption.map (·.1) =
        some (.number (.ofNat (2 ^ 60))) ∧
      (Float64.ofNat (2 ^ 60)).toNat? = some (2 ^ 60) ∧ 2 ^ 60 ≠ 1152921504606847000 := by
  have denotes : Denotes (.string "1152921504606847000") (some 1152921504606847000) :=
    @Denotes.digits "1152921504606847000".toList (by decide) (by decide) (by decide)
  have printed : (Float64.ofNat 1152921504606847000).toString = decimal 1152921504606847000 := by
    decide
  have fits : 4 + (lengthCodedField (some 1152921504606847000)).length ≤
      (Packet.new ⟨List.replicate 13 0, by decide⟩ 0 13).buffer.length := by decide
  have rounded : Float64.ofNat 1152921504606847000 = Float64.ofNat (2 ^ 60) := by decide
  refine ⟨denotes, printed, ?_, toNat?_of_isNat (Long.isNat_ofNat_two_pow (by decide)), by decide⟩
  have cursor := offset_cursorAt ((Packet.new ⟨List.replicate 13 0, by decide⟩ 0 13).wrote 4
    (lengthCodedField (some 1152921504606847000))) 4
  rw [writeLengthCodedNumber_run (o := 4) denotes rfl fits, ok_bind,
    readLengthCodedField_run false cursor (Buffer.holds_set fits)
      fun w same => by cases same; exact denotes.lt]
  simp only [Except.toOption, Option.map_some', lengthCodedResult, lengthCodedValue, printed,
    if_true, rounded]
  rfl

/-- At `65536` the writer uses the tag `0xfd` and three bytes, four bytes in all, while
`lengthCodedNumberLength` predicts five. -/
theorem lengthCodedNumberLength_counts_five_for_four :
    ((writeLengthCodedNumber (.number 65536)).run
        (Packet.new ⟨List.replicate 8 0, by decide⟩ 0 8)).toOption.map (·.2.offset) = some 8 ∧
      lengthCodedNumberLength (.number 65536) = 5 := by
  decide

/-- Three arguments that stand for no natural below `2 ^ 64`, and none throws: `1.5` is written as
the byte `1`, `Infinity` through `Long.fromNumber` as the largest unsigned `Long`, and the string
of `2 ^ 64` through `Long.fromString` as `0`. -/
theorem writeLengthCodedNumber_accepts_non_naturals :
    ((writeLengthCodedNumber (.number (.round false 3 2))).run
        (Packet.new ⟨List.replicate 13 0, by decide⟩ 0 13)).toOption.map
        (fun r => (r.2.buffer.bytes, r.2.offset.toNat?)) =
      some ([0, 0, 0, 0, 1] ++ List.replicate 8 0, some 5) ∧
    ((writeLengthCodedNumber (.number (.infinity false))).run
        (Packet.new ⟨List.replicate 13 0, by decide⟩ 0 13)).toOption.map
        (fun r => (r.2.buffer.bytes, r.2.offset.toNat?)) =
      some ([0, 0, 0, 0, 0xfe] ++ List.replicate 8 0xff, some 13) ∧
    ((writeLengthCodedNumber (.string "18446744073709551616")).run
        (Packet.new ⟨List.replicate 13 0, by decide⟩ 0 13)).toOption.map
        (fun r => (r.2.buffer.bytes, r.2.offset.toNat?)) =
      some (List.replicate 13 0, some 5) := by
  decide

end Mysql2Codec.Packet
