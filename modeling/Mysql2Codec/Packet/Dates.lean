import Mysql2Codec.Packet.Spec
import Mysql2Codec.Js.Calendar

/-! # Dates through the binary protocol

`writeDate(d)` writes the length `11` and the seven local components of `d`, the milliseconds as
microseconds; `readDateTime()` reads the length and hands the components to `dateTime`, which
calls `new Date(y, m - 1, d, H, M, S, ms)`.  The constructor reads a year from `0` to `99` as
`1900` plus it, so a date of the first century comes back nineteen centuries later.

Every other date the two-byte year can hold comes back whole (`writeDate_reads_back`): the
writer's twelve bytes are `dateBytes d` (`writeDate_run`), `dateTime` reads each part from its
place in them (`dateTime_holds`), the microseconds divided by `1000` exactly, and `new Date` of the
parts is `d` (`Date.construct_parts`).
-/

namespace Mysql2Codec.Packet

open Js Float64 Parser

/-- The date `0050-01-01 00:00:00.000` written at offset `4` of a sixteen-byte packet and read
back from there: both methods end at `16`, and the `Date` read is `1950-01-01`, time value
`-631152000000`, not the written date's `-60589296000000`. -/
theorem writeDate_reads_year_fifty_as_1950 :
    ((writeDate ⟨50, 0, 1, 0, 0, 0, 0, by decide, by decide, by decide, by decide, by decide,
        by decide, by decide⟩).run (Packet.new ⟨List.replicate 16 0, by decide⟩ 0 16)).toOption.map
        (fun written => (written.2.offset.toNat?,
          (readDateTime.run (written.2.cursorAt 4)).toOption.map
            (fun read => (read.1, read.2.offset.toNat?)))) =
      some (some 16, some (.date (some (-631152000000)), some 16)) ∧
    Date.Parts.time ⟨50, 0, 1, 0, 0, 0, 0, by decide, by decide, by decide, by decide, by decide,
      by decide, by decide⟩ = -60589296000000 := by
  decide

/-! ## The bytes of `writeDate` -/

/-- The eleven bytes after the length that `writeDate(d)` writes. -/
def dateBody (d : Date.Parts) : List UInt8 :=
  leBytes 2 d.year.toNat ++ leBytes 1 (d.month + 1) ++ leBytes 1 d.day ++ leBytes 1 d.hours ++
    leBytes 1 d.minutes ++ leBytes 1 d.seconds ++ leBytes 4 (d.milliseconds * 1000)

/-- What `writeDate(d)` writes: the length `11`, then the body. -/
def dateBytes (d : Date.Parts) : List UInt8 := leBytes 1 11 ++ dateBody d

/-- A write of a natural in range by the unsigned integer writers. -/
theorem writeUnsigned_ofNat {b : Buffer} {o v w : Nat} {max : Int} (range : v ≤ max) (bound : max < 2 ^ 32)
    (fits : o + w ≤ b.length) : b.writeInteger (ofNat v) (ofNat o) w 0 max = .ok (b.set o (leBytes w v)) := by
  rw [Buffer.writeInteger_ofNat (isNat_ofNat (by omega)).isInt (by omega) range ⟨by decide, by omega⟩ fits]
  congr
  omega

/-- The same write right after bytes already written: one write of both. -/
theorem writeUnsigned_after {b : Buffer} {o q v w : Nat} {x : List UInt8} {max : Int} (stop : o + x.length = q)
    (range : v ≤ max) (bound : max < 2 ^ 32) (fits : q + w ≤ b.length) :
    (b.set o x).writeInteger (ofNat v) (ofNat q) w 0 max = .ok (b.set o (x ++ leBytes w v)) := by
  subst stop
  rw [writeUnsigned_ofNat range bound (by simpa using fits), Buffer.set_append (by simpa [length_leBytes] using fits)]

/-- `writeDate(d)` for a year the two-byte write can hold: the twelve bytes at the cursor, the
cursor after them. -/
theorem writeDate_run (d : Date.Parts) (year : 0 ≤ d.year ∧ d.year < 2 ^ 16) {p : Packet} {o : Nat}
    (cursor : p.offset = .ofNat o) (fits : o + 12 ≤ p.buffer.length) :
    (writeDate d).run p = .ok ((), p.wrote o (dateBytes d)) := by
  have small := Buffer.small_of_le fits
  have yearNat : Float64.ofInt d.year = ofNat d.year.toNat := by
    rw [show d.year = (d.year.toNat : Int) by omega]; rfl
  obtain ⟨month, -, day, hours, minutes, seconds, ms⟩ := And.intro d.month_lt (And.intro d.day_pos
    (And.intro d.day_le (And.intro d.hours_lt (And.intro d.minutes_lt (And.intro d.seconds_lt
      d.milliseconds_lt)))))
  have dayLe := Date.daysInMonth_le d.year d.month
  simp only [writeDate, StateT.run_bind, StateT.run_get, pure_bind, cursor, liftM, StateT.run_monadLift,
    monadLift_self, ofNat_literal, yearNat, ofNat_add_ofNat (show o + 1 ≤ 2 ^ 53 by omega),
    ofNat_add_ofNat (show o + 3 ≤ 2 ^ 53 by omega), ofNat_add_ofNat (show o + 4 ≤ 2 ^ 53 by omega),
    ofNat_add_ofNat (show o + 5 ≤ 2 ^ 53 by omega), ofNat_add_ofNat (show o + 6 ≤ 2 ^ 53 by omega),
    ofNat_add_ofNat (show o + 7 ≤ 2 ^ 53 by omega), ofNat_add_ofNat (show o + 8 ≤ 2 ^ 53 by omega),
    ofNat_add_ofNat (show o + 12 ≤ 2 ^ 53 by omega), ofNat_add_ofNat (show d.month + 1 ≤ 2 ^ 53 by omega),
    ofNat_mul_ofNat (show d.milliseconds ≤ 2 ^ 53 by omega) (show 1000 ≤ 2 ^ 53 by norm_num),
    Buffer.writeUInt8, Buffer.writeUInt16LE, Buffer.writeUInt32LE,
    writeUnsigned_ofNat (show (11 : Nat) ≤ (255 : Int) by norm_num) (by norm_num)
      (show o + 1 ≤ p.buffer.length by omega),
    ok_bind, pure_bind]
  simp (disch := (try simp only [List.length_append, length_leBytes]); all_goals omega) only
    [writeUnsigned_after, ok_bind, pure_bind]
  simp only [StateT.run_set, wrote, dateBytes, dateBody, List.append_assoc, List.length_append, length_leBytes]
  rfl

/-! ## Reading them back -/

theorem offsetOrZero_ofNat {i : Nat} (small : i ≤ 2 ^ 53) : offsetOrZero (ofNat i) = ofNat i := by
  unfold offsetOrZero
  split
  · rfl
  · rename_i falsy
    rcases Nat.eq_zero_or_pos i with rfl | positive
    · rfl
    · simp [JSValue.toBoolean, isNaN_ofNat small, (isNat_ofNat small).isInt.isZero (by omega)] at falsy

/-- `x / k` of a double holding a multiple of `k`: the quotient, exactly. -/
theorem div_ofNat_mul {a k : Nat} (positive : 0 < k) (small : a * k ≤ 2 ^ 53) (divisor : k ≤ 2 ^ 53) :
    ofNat (a * k) / ofNat k = ofNat a := by
  have hx := isNat_ofNat small
  have hk := isNat_ofNat divisor
  show div _ _ = _
  simp only [div, hx.isNaN, hk.isNaN, hx.isInfinite, hk.isInfinite, hk.isInt.isZero (by omega), Bool.or_self,
    Bool.false_eq_true, if_false, hx.1, hk.1, hx.2.2, hk.2.2, bne_self_eq_false]
  have scaled := round_mul_right false a 1 (k <<< 1074) (by rw [Nat.shiftLeft_eq]; positivity)
  rw [Nat.one_mul] at scaled
  rw [show (a * k) <<< 1074 = a * (k <<< 1074) by simp only [Nat.shiftLeft_eq, Nat.mul_assoc], scaled]
  rfl

/-- An unsigned little-endian read of bytes the buffer holds. -/
theorem readFixed_leBytes {b : Buffer} {j w v : Nat} (holds : b.Holds j (leBytes w v)) (small : v < 256 ^ w) :
    b.readFixed (ofNat j) w (fun bytes => .ofNat (littleEndian bytes)) = .ok (ofNat v) := by
  have fits := holds.fits
  have window := holds.window
  rw [length_leBytes] at fits window
  rw [Buffer.readFixed_ofNat fits, window, littleEndian_leBytes_of_lt small]

/-- The decoders' `uint8`, `uint16` and `uint32` on bytes the buffer holds. -/
theorem uint8_holds {b : Buffer} {j v : Nat} (holds : b.Holds j (leBytes 1 v)) (small : v < 256) :
    PacketParser.uint8 b (some (ofNat j)) = .number (ofNat v) := by
  have inside : j ≤ 2 ^ 53 := Buffer.small_of_le (b := b) (by have := holds.fits; rw [length_leBytes] at this; omega)
  have byte : b.Holds j [UInt8.ofNat v] := by simpa [leBytes, Nat.mod_eq_of_lt small] using holds
  rw [PacketParser.uint8, Option.getD_some, offsetOrZero_ofNat inside, Buffer.index_ofNat _ inside, byte.getElem?,
    JSValue.ofByte?, UInt8.toNat_ofNat_of_lt small]

theorem uint16_holds {b : Buffer} {j v : Nat} (holds : b.Holds j (leBytes 2 v)) (small : v < 2 ^ 16) :
    PacketParser.uint16 b (some (ofNat j)) = .ok (.number (ofNat v)) := by
  have inside : j ≤ 2 ^ 53 := Buffer.small_of_le (b := b) (by have := holds.fits; rw [length_leBytes] at this; omega)
  rw [PacketParser.uint16, Option.getD_some, offsetOrZero_ofNat inside, Buffer.readUInt16LE,
    readFixed_leBytes holds small]
  rfl

theorem uint32_holds {b : Buffer} {j v : Nat} (holds : b.Holds j (leBytes 4 v)) (small : v < 2 ^ 32) :
    PacketParser.uint32 b (some (ofNat j)) = .ok (.number (ofNat v)) := by
  have inside : j ≤ 2 ^ 53 := Buffer.small_of_le (b := b) (by have := holds.fits; rw [length_leBytes] at this; omega)
  rw [PacketParser.uint32, Option.getD_some, offsetOrZero_ofNat inside, Buffer.readUInt32LE,
    readFixed_leBytes holds small]
  rfl

/-- `dateTime` over the body of a date of the years `100` to `2 ^ 16 - 1`: that date. -/
theorem dateTime_holds (d : Date.Parts) (century : 100 ≤ d.year) (year : d.year < 2 ^ 16) {b : Buffer} {i : Nat}
    (holds : b.Holds i (dateBody d)) :
    PacketParser.dateTime b (some (ofNat i)) (some (ofNat 11)) = .ok (.date (some d.time)) := by
  have fits := holds.fits
  simp only [dateBody, List.length_append, length_leBytes] at fits holds
  have small : i + 11 ≤ 2 ^ 53 := Buffer.small_of_le fits
  have shift : ∀ k ≤ 11, ofNat k + ofNat i = ofNat (i + k) := fun k _ =>
    (ofNat_add_ofNat (by omega)).trans (by rw [Nat.add_comm])
  obtain ⟨month, -, dayLe, hours, minutes, seconds, ms⟩ := And.intro d.month_lt (And.intro d.day_pos
    (And.intro d.day_le (And.intro d.hours_lt (And.intro d.minutes_lt (And.intro d.seconds_lt
      d.milliseconds_lt)))))
  have days := Date.daysInMonth_le d.year d.month
  have hy := uint16_holds holds.left.left.left.left.left.left (show d.year.toNat < 2 ^ 16 by omega)
  have hm := uint8_holds (j := i + 2) (by simpa only [length_leBytes] using holds.left.left.left.left.left.right)
    (show d.month + 1 < 256 by omega)
  have hd := uint8_holds (j := i + 3)
    (by simpa only [List.length_append, length_leBytes] using holds.left.left.left.left.right)
    (show d.day < 256 by omega)
  have hH := uint8_holds (j := i + 4)
    (by simpa only [List.length_append, length_leBytes] using holds.left.left.left.right)
    (show d.hours < 256 by omega)
  have hM := uint8_holds (j := i + 5)
    (by simpa only [List.length_append, length_leBytes] using holds.left.left.right)
    (show d.minutes < 256 by omega)
  have hS := uint8_holds (j := i + 6)
    (by simpa only [List.length_append, length_leBytes] using holds.left.right)
    (show d.seconds < 256 by omega)
  have hms := uint32_holds (j := i + 7)
    (by simpa only [List.length_append, length_leBytes] using holds.right)
    (show d.milliseconds * 1000 < 2 ^ 32 by omega)
  simp only [PacketParser.dateTime, defaults, ofNat_literal, lt_ofNat (show 3 ≤ 2 ^ 53 by norm_num)
    (show 11 ≤ 2 ^ 53 by norm_num), lt_ofNat (show 6 ≤ 2 ^ 53 by norm_num) (show 11 ≤ 2 ^ 53 by norm_num),
    lt_ofNat (show 10 ≤ 2 ^ 53 by norm_num) (show 11 ≤ 2 ^ 53 by norm_num), shift 2 (by norm_num),
    shift 3 (by norm_num), shift 4 (by norm_num), shift 5 (by norm_num), shift 6 (by norm_num), shift 7 (by norm_num),
    hy, hm, hd, hH, hM, hS,
    hms, decide_eq_true (show 3 < 11 by norm_num), decide_eq_true (show 6 < 11 by norm_num),
    decide_eq_true (show 10 < 11 by norm_num), if_true, ok_bind, pure_bind, JSValue.toNumber,
    div_ofNat_mul (show 0 < 1000 by norm_num) (show d.milliseconds * 1000 ≤ 2 ^ 53 by omega) (by norm_num),
    ofNat_sub_ofNat (show 1 ≤ d.month + 1 by omega) (show d.month + 1 ≤ 2 ^ 53 by omega), Nat.add_sub_cancel]
  have truthy : (JSValue.number (ofNat d.year.toNat)).toBoolean = true := by
    simp [JSValue.toBoolean, isNaN_ofNat (show d.year.toNat ≤ 2 ^ 53 by omega),
      (isNat_ofNat (show d.year.toNat ≤ 2 ^ 53 by omega)).isInt.isZero (by omega)]
  have effective : Date.effectiveYear d.year.toNat = d.year := by
    unfold Date.effectiveYear; rw [if_neg (by omega)]; omega
  simp only [truthy, Bool.true_or, if_true, Date.construct_parts d effective (by omega)]
  rfl

/-- `readDateTime()` on the bytes `writeDate(d)` writes. -/
theorem readDateTime_run (d : Date.Parts) (century : 100 ≤ d.year) (year : d.year < 2 ^ 16) {p : Packet}
    {o : Nat} (cursor : p.offset = .ofNat o) (holds : p.buffer.Holds o (dateBytes d)) :
    readDateTime.run p = .ok (.date (some d.time), p.cursorAt (o + 12)) := by
  have fits := holds.fits
  simp only [dateBytes, dateBody, List.length_append, length_leBytes] at fits
  have small := Buffer.small_of_le fits
  have length : littleEndian (p.window o 1) = 11 := by
    have window := holds.left.window
    rw [length_leBytes] at window
    rw [Packet.window, window, littleEndian_leBytes_of_lt (by norm_num)]
  have body := dateTime_holds d century year (i := o + 1) (by simpa only [length_leBytes] using holds.right)
  simp only [readDateTime, StateT.run_bind, readInt8_run cursor (by omega), ok_bind, length, JSValue.isNumber,
    equal_ofNat (show 11 ≤ 2 ^ 53 by norm_num) (show 0xfb ≤ 2 ^ 53 by norm_num), StateT.run_get, pure_bind,
    offset_cursorAt, addLength, JSValue.toNumber, ofNat_add_ofNat (show o + 1 + 11 ≤ 2 ^ 53 by omega),
    StateT.run_set, lengthArgument,
    ofNat_sub_ofNat (show 11 ≤ o + 1 + 11 by omega) (show o + 1 + 11 ≤ 2 ^ 53 by omega),
    Nat.add_sub_cancel, decide_eq_false (show (11 : Nat) ≠ 251 by norm_num), Bool.false_eq_true, if_false,
    liftM, StateT.run_monadLift, monadLift_self, buffer_cursorAt, body, ok_bind]
  rfl

/-! ## The round trip -/

/-- The date `d`, written by `writeDate` and read back from the same place by `readDateTime`:
every part of `d` comes back when its year is from `100` to `2 ^ 16 - 1`, and the reader ends
where the writer did. -/
theorem writeDate_reads_back (d : Date.Parts) (century : 100 ≤ d.year) (year : d.year < 2 ^ 16) {p : Packet}
    {o : Nat} (cursor : p.offset = .ofNat o) (fits : o + 12 ≤ p.buffer.length) :
    ((writeDate d).run p >>= fun written => readDateTime.run (written.2.cursorAt o)) =
      .ok (.date (some d.time), p.wrote o (dateBytes d)) := by
  have length : (dateBytes d).length = 12 := by simp only [dateBytes, dateBody, List.length_append, length_leBytes]
  rw [writeDate_run d ⟨by omega, year⟩ cursor fits, ok_bind,
    readDateTime_run d century year (p := (p.wrote o (dateBytes d)).cursorAt o) rfl
      (Buffer.holds_set (by rw [length]; exact fits)),
    show o + 12 = o + (dateBytes d).length by rw [length], cursorAt_cursorAt, cursorAt_wrote]


/-- `2024-02-29 13:45:30.250` at offset `4` of a sixteen-byte packet. -/
theorem writeDate_reads_back_leap_day :
    let d : Date.Parts := ⟨2024, 1, 29, 13, 45, 30, 250, by decide, by decide, by decide, by decide, by decide,
      by decide, by decide⟩
    let p := Packet.new ⟨List.replicate 16 0, by decide⟩ 0 16
    100 ≤ d.year ∧ d.year < 2 ^ 16 ∧ p.offset = .ofNat 4 ∧ 4 + 12 ≤ p.buffer.length ∧
      ((writeDate d).run p >>= fun written => readDateTime.run (written.2.cursorAt 4)) =
        .ok (.date (some d.time), p.wrote 4 (dateBytes d)) :=
  ⟨by decide, by decide, rfl, by decide, writeDate_reads_back _ (by decide) (by decide) rfl (by decide)⟩

end Mysql2Codec.Packet
