import Mysql2Codec.Packet.Parse

/-! # Signed length-coded numbers

`readLengthCodedNumberSigned(bigNumberStrings)` is `readLengthCodedNumber` with the `Long` of an
eight-byte value made signed.  The tests on the high word come first and read it unsigned, so a
value `s` in `[0, 2 ^ 53)` reads as its number either way, and every other one, negative ones
included, goes through the signed `Long`: its text is the numeral of `s`, and its double is the
one nearest to `s` (`Long.toNumber_of_signed`).  So under `bigNumberStrings` every value outside
`[0, 2 ^ 53)` comes back as text (`readLengthCodedNumberSigned_keeps_text`), and without it every
value within `2 ^ 53` comes back as its number (`readLengthCodedNumberSigned_reads_safe_integers`),
since the double of an integer that size prints as its numeral (`toString_toDouble`).
-/

namespace Mysql2Codec.Packet

open Js Float64 Parser

section Reading

variable {p : Packet} {o : Nat}

/-- The tag `0xfe` and eight bytes, for either signedness: a number below `2 ^ 53`, above it the
`Long` of the two words under the flag `!signed`, as its text or as its double. -/
theorem readLengthCodedNumber_words (bigNumberStrings signed : Bool) {v : Nat}
    (cursor : p.offset = .ofNat o) (holds : p.buffer.Holds o (0xfe :: leBytes 8 v)) (small : v < 2 ^ 64) :
    (readLengthCodedNumber bigNumberStrings signed).run p =
      .ok (if v < 2 ^ 53 then .number (.ofNat v) else
        let res := Long.new (.ofNat (v % 2 ^ 32)) (.ofNat (v / 2 ^ 32)) (!signed)
        if bigNumberStrings then .string res.toString
        else if res.toNumber.toString = res.toString then .number res.toNumber else .string res.toString,
        p.cursorAt (o + 9)) := by
  obtain ⟨tag, body⟩ := holds_tag holds
  have fits := body.fits
  simp only [length_leBytes] at fits
  rw [show 8 = 4 + 4 from rfl, leBytes_add] at body
  have word0 := littleEndian_of_holds' body.left
  have word1 := littleEndian_of_holds' (length_leBytes 4 v ▸ body.right)
  have low : v % 256 ^ 4 = v % 2 ^ 32 := rfl
  have high : v / 256 ^ 4 % 256 ^ 4 = v / 2 ^ 32 := by
    rw [show (256 : Nat) ^ 4 = 2 ^ 32 from rfl]; omega
  rw [low] at word0
  rw [high] at word1
  have tag254 : littleEndian (p.window o 1) = 254 := tag
  have facts : (JSValue.number (.ofNat 254)).lessThan (.ofNat 251) = false ∧
      (JSValue.number (.ofNat 254)).isNumber 251 = false ∧
      (JSValue.number (.ofNat 254)).isNumber 252 = false ∧
      (JSValue.number (.ofNat 254)).isNumber 253 = false ∧
      (JSValue.number (.ofNat 254)).isNumber 254 = true := by
    rw [lessThan_ofNat (by decide) (by decide), isNumber_ofNat (by decide) (by decide),
      isNumber_ofNat (by decide) (by decide), isNumber_ofNat (by decide) (by decide),
      isNumber_ofNat (by decide) (by decide)]
    decide
  rw [readLengthCodedNumber, StateT.run_bind, readInt8_run cursor (by omega), ok_bind, tag254]
  simp only [ofNat_literal, facts.1, Bool.false_eq_true, if_false, pure_bind]
  rw [readLengthCodedNumberExt]
  simp only [facts.2.1, facts.2.2.1, facts.2.2.2.1, facts.2.2.2.2, Bool.false_eq_true, if_false,
    if_true, pure_bind]
  rw [StateT.run_bind, readInt32_run (offset_cursorAt p (o + 1)) (show o + 1 + 4 ≤ p.buffer.length by omega),
    ok_bind, StateT.run_bind, readInt32_run (offset_cursorAt (p.cursorAt (o + 1)) (o + 1 + 4))
      (show o + 1 + 4 + 4 ≤ p.buffer.length by omega), ok_bind]
  simp only [window_cursorAt, cursorAt_cursorAt, word0, word1, JSValue.toNumber, ofNat_literal,
    equal_ofNat (show v / 2 ^ 32 ≤ 2 ^ 53 by omega) (show 0 ≤ 2 ^ 53 by omega),
    lt_ofNat (show v / 2 ^ 32 ≤ 2 ^ 53 by omega) (show 2097152 ≤ 2 ^ 53 by omega), Bool.not_false,
    StateT.run_pure, show o + 1 + 4 + 4 = o + 9 by omega]
  by_cases narrow : v < 2 ^ 32
  · rw [if_pos (decide_eq_true (by omega)), if_pos (by omega), Nat.mod_eq_of_lt narrow]
    rfl
  by_cases exact : v < 2 ^ 53
  · rw [if_neg (by simp; omega), if_pos (decide_eq_true (by omega)), if_pos exact,
      ofNat_mul_ofNat (by omega) (by omega), ofNat_add_ofNat (by omega),
      show v / 2 ^ 32 * 4294967296 + v % 2 ^ 32 = v by omega]
    rfl
  rw [if_neg (by simp; omega), if_neg (by simp; omega), if_neg exact]
  rfl

/-! ## Signed values -/

theorem bits_new_words {v : Nat} (small : v < 2 ^ 64) (unsigned : Bool) :
    (Long.new (.ofNat (v % 2 ^ 32)) (.ofNat (v / 2 ^ 32)) unsigned).bits = v := by
  simp only [Long.new, Long.bits_ofWords, toUint32_ofNat (show v % 2 ^ 32 ≤ 2 ^ 53 by omega),
    toUint32_ofNat (show v / 2 ^ 32 ≤ 2 ^ 53 by omega)]
  omega

theorem value_ofInt (v : Int) : (IntNumeral.ofInt v).value = v := by
  rw [IntNumeral.value, natAbs_ofInt, Sign.apply]
  by_cases negative : v < 0 <;> simp only [IntNumeral.ofInt, Sign.negative, negative, if_true, if_false,
    Bool.false_eq_true] <;> omega

/-- `readLengthCodedNumberSigned` against the eight bytes of a signed value `s`: the number for
`0 ≤ s < 2 ^ 53`; else under `bigNumberStrings` the numeral of `s`, and without it the double
nearest to `s` where that double prints as the numeral, the numeral elsewhere. -/
theorem readLengthCodedNumberSigned_run (bigNumberStrings : Bool) {s : Int} (range : -2 ^ 63 ≤ s ∧ s < 2 ^ 63)
    (cursor : p.offset = .ofNat o) (holds : p.buffer.Holds o (0xfe :: leBytes 8 (s % 2 ^ 64).toNat)) :
    (readLengthCodedNumberSigned bigNumberStrings).run p =
      .ok (if 0 ≤ s ∧ s < 2 ^ 53 then .number (ofInt s)
        else if bigNumberStrings then .string (IntNumeral.ofInt s).text
        else if (ofInt s).toString = (IntNumeral.ofInt s).text then .number (ofInt s)
        else .string (IntNumeral.ofInt s).text, p.cursorAt (o + 9)) := by
  have small : (s % 2 ^ 64).toNat < 2 ^ 64 := by omega
  rw [readLengthCodedNumberSigned, readLengthCodedNumber_words bigNumberStrings true cursor holds small]
  by_cases narrow : 0 ≤ s ∧ s < 2 ^ 53
  · have cast : s = ((s % 2 ^ 64).toNat : Int) := by omega
    rw [if_pos (by omega), if_pos narrow, cast, ofInt_natCast, ← cast]
  · have unsigned : (Long.new (.ofNat ((s % 2 ^ 64).toNat % 2 ^ 32)) (.ofNat ((s % 2 ^ 64).toNat / 2 ^ 32))
        (!true)).unsigned = false := rfl
    have value : (Long.new (.ofNat ((s % 2 ^ 64).toNat % 2 ^ 32)) (.ofNat ((s % 2 ^ 64).toNat / 2 ^ 32))
        (!true)).value = s := by
      simp only [Long.value, unsigned, bits_new_words small, Bool.false_eq_true, if_false, Int.bmod_def]
      omega
    rw [if_neg (by omega), if_neg narrow]
    dsimp only
    rw [Long.toNumber_of_signed unsigned, Long.toString, ← text_ofInt, value]

/-- With `bigNumberStrings`, `readLengthCodedNumberSigned` reads every signed value outside
`[0, 2 ^ 53)` as the text of its numeral, negative ones included. -/
theorem readLengthCodedNumberSigned_keeps_text {s : Int} (range : -2 ^ 63 ≤ s ∧ s < 2 ^ 63)
    (cursor : p.offset = .ofNat o) (holds : p.buffer.Holds o (0xfe :: leBytes 8 (s % 2 ^ 64).toNat)) :
    (readLengthCodedNumberSigned true).run p =
      .ok (if 0 ≤ s ∧ s < 2 ^ 53 then .number (ofInt s) else .string (IntNumeral.ofInt s).text,
        p.cursorAt (o + 9)) := by
  rw [readLengthCodedNumberSigned_run true range cursor holds, if_pos rfl]

/-- `-1` with `bigNumberStrings`: the text `-1`. -/
theorem readLengthCodedNumberSigned_keeps_minus_one :
    let p : Packet := ⟨⟨0xfe :: List.replicate 8 0xff, by decide⟩, 0, ofNat 0, 9⟩
    (-2 ^ 63 ≤ (-1 : Int) ∧ (-1 : Int) < 2 ^ 63) ∧ p.offset = .ofNat 0 ∧
      p.buffer.Holds 0 (0xfe :: leBytes 8 ((-1 : Int) % 2 ^ 64).toNat) ∧
      (readLengthCodedNumberSigned true).run p =
        .ok (if 0 ≤ (-1 : Int) ∧ (-1 : Int) < 2 ^ 53 then .number (ofInt (-1))
          else .string (IntNumeral.ofInt (-1)).text, p.cursorAt (0 + 9)) :=
  ⟨by decide, rfl, ⟨by decide, [], by decide⟩,
    readLengthCodedNumberSigned_keeps_text (by decide) rfl ⟨by decide, [], by decide⟩⟩

/-- Without `bigNumberStrings`, every signed value within `2 ^ 53` reads as its number. -/
theorem readLengthCodedNumberSigned_reads_safe_integers {s : Int} (safe : s.natAbs ≤ 2 ^ 53)
    (cursor : p.offset = .ofNat o) (holds : p.buffer.Holds o (0xfe :: leBytes 8 (s % 2 ^ 64).toNat)) :
    (readLengthCodedNumberSigned false).run p = .ok (.number (ofInt s), p.cursorAt (o + 9)) := by
  have printed := toString_toDouble (IntNumeral.ofInt s) (by rw [value_ofInt]; exact safe)
  rw [IntNumeral.toDouble, round_ofInt, value_ofInt] at printed
  rw [readLengthCodedNumberSigned_run false (by omega) cursor holds, if_neg Bool.false_ne_true, if_pos printed,
    ite_self]

/-- `-2` without `bigNumberStrings`: the number `-2`. -/
theorem readLengthCodedNumberSigned_reads_minus_two :
    let p : Packet := ⟨⟨0xfe :: 0xfe :: List.replicate 7 0xff, by decide⟩, 0, ofNat 0, 9⟩
    (-2 : Int).natAbs ≤ 2 ^ 53 ∧ p.offset = .ofNat 0 ∧
      p.buffer.Holds 0 (0xfe :: leBytes 8 ((-2 : Int) % 2 ^ 64).toNat) ∧
      (readLengthCodedNumberSigned false).run p = .ok (.number (ofInt (-2)), p.cursorAt (0 + 9)) :=
  ⟨by decide, rfl, ⟨by decide, [], by decide⟩,
    readLengthCodedNumberSigned_reads_safe_integers (by decide) rfl ⟨by decide, [], by decide⟩⟩

end Reading

end Mysql2Codec.Packet
