import Mysql2Codec.Packet.Packet
import Mysql2Codec.Js.Access

/-! # The readers and writers at a natural cursor

`Packet` keeps its cursor as a double.  From a cursor `ofNat o`, with the access inside the
buffer, every reader and writer is a list operation on the buffer and a move of the cursor to
another natural; this module proves one such run lemma per method, so that later proofs cite
the lemma and never unfold the method:

* `cursorAt p o` is `p` with its cursor at `o`, `window p o width` the bytes a fixed-width reader
  reads there, and `wrote p o bytes` the packet after writing `bytes` at `o`;
* the fixed-width readers return a function of their window (`readInt8_run` ...
  `readDouble_run`, `readInt64With_run`), the buffer readers the bytes from the cursor
  (`readBuffer_run`, `readString_run`, `readNullTerminatedString_run`);
* the integer writers write the low bytes of their value, `writeDouble` the eight bytes of its
  double, `writeBuffer` and `copyEncoded` the buffer's bytes.
-/

namespace Mysql2Codec.Packet

open Js Float64

/-- `p` with its cursor at the natural `o`. -/
def cursorAt (p : Packet) (o : Nat) : Packet := { p with offset := .ofNat o }

/-- The `width` bytes from index `o` of the packet's buffer. -/
def window (p : Packet) (o width : Nat) : List UInt8 := (p.buffer.bytes.drop o).take width

/-- `p` after writing `bytes` at `o`: the buffer overwritten, the cursor after them. -/
def wrote (p : Packet) (o : Nat) (bytes : List UInt8) : Packet :=
  { p with buffer := p.buffer.set o bytes, offset := .ofNat (o + bytes.length) }

@[simp] theorem buffer_cursorAt (p : Packet) (o : Nat) : (p.cursorAt o).buffer = p.buffer := rfl

@[simp] theorem offset_cursorAt (p : Packet) (o : Nat) : (p.cursorAt o).offset = .ofNat o := rfl

@[simp] theorem cursorAt_cursorAt (p : Packet) (o o' : Nat) :
    (p.cursorAt o).cursorAt o' = p.cursorAt o' := rfl

theorem cursorAt_eq_self {p : Packet} {o : Nat} (cursor : p.offset = .ofNat o) : p.cursorAt o = p := by
  cases p
  subst cursor
  rfl

@[simp] theorem buffer_wrote (p : Packet) (o : Nat) (bytes : List UInt8) :
    (p.wrote o bytes).buffer = p.buffer.set o bytes := rfl

@[simp] theorem offset_wrote (p : Packet) (o : Nat) (bytes : List UInt8) :
    (p.wrote o bytes).offset = .ofNat (o + bytes.length) := rfl

@[simp] theorem cursorAt_wrote (p : Packet) (o : Nat) (bytes : List UInt8) :
    (p.wrote o bytes).cursorAt (o + bytes.length) = p.wrote o bytes := rfl

@[simp] theorem window_cursorAt (p : Packet) (o o' width : Nat) :
    (p.cursorAt o').window o width = p.window o width := rfl

/-- Two writes side by side are one write of both. -/
theorem wrote_wrote {p : Packet} {o : Nat} {xs ys : List UInt8}
    (fits : o + xs.length + ys.length ≤ p.buffer.length) :
    (p.wrote o xs).wrote (o + xs.length) ys = p.wrote o (xs ++ ys) := by
  simp only [wrote, Buffer.set_append fits, List.length_append, Nat.add_assoc]

@[simp] theorem ok_bind {ε α β : Type} (a : α) (f : α → Except ε β) : (Except.ok a >>= f) = f a :=
  rfl

theorem window_add (p : Packet) (o a b : Nat) :
    p.window o (a + b) = p.window o a ++ p.window (o + a) b := by
  rw [window, window, window, List.take_add, List.drop_drop]

theorem window_one {p : Packet} {o : Nat} (inside : o < p.buffer.length) :
    p.window o 1 = [p.buffer.bytes.get ⟨o, inside⟩] := by
  rw [window, List.drop_eq_getElem_cons inside]
  rfl

/-! ## Fixed-width readers -/

section Readers

variable {p : Packet} {o : Nat}

/-- The shape of `readInt16` ... `readSInt32`: move the cursor, then read behind it. -/
theorem readAfter_run {w : Nat} {read : Buffer → Float64 → Except JSError Float64}
    (cursor : p.offset = .ofNat o) (small : o + w ≤ 2 ^ 53) :
    (readAfter w read).run p = (·, p.cursorAt (o + w)) <$> read p.buffer (.ofNat o) := by
  simp only [readAfter, StateT.run_bind, StateT.run_get, StateT.run_set, StateT.run_monadLift,
    pure_bind, monadLift_self, bind_pure_comp, cursor, ofNat_add_ofNat small,
    ofNat_sub_ofNat (Nat.le_add_left w o) small, Nat.add_sub_cancel]
  rfl

/-- The shape of `readFloat` and `readDouble`: read at the cursor, then move it. -/
theorem readBefore_run {w : Nat} {read : Buffer → Float64 → Except JSError Float64}
    (cursor : p.offset = .ofNat o) (small : o + w ≤ 2 ^ 53) :
    (readBefore w read).run p = (fun x => (.number x, p.cursorAt (o + w))) <$> read p.buffer (.ofNat o) := by
  simp only [readBefore, StateT.run_bind, StateT.run_get, StateT.run_set, StateT.run_monadLift,
    StateT.run_map, pure_bind, map_pure, monadLift_self, bind_map_left, bind_pure_comp, cursor,
    ofNat_add_ofNat small, Functor.map_map]
  rfl

theorem readInt8_run (cursor : p.offset = .ofNat o) (fits : o + 1 ≤ p.buffer.length) :
    readInt8.run p = .ok (.number (.ofNat (littleEndian (p.window o 1))), p.cursorAt (o + 1)) := by
  have inside : o < p.buffer.length := by omega
  simp only [readInt8, StateT.run_bind, StateT.run_get, StateT.run_set, pure_bind, StateT.run_pure,
    cursor, ofNat_literal, ofNat_add_ofNat (Buffer.small_of_le fits),
    Buffer.index_ofNat _ (Buffer.small_of_le inside.le), window_one inside,
    List.getElem?_eq_getElem inside, littleEndian_cons, littleEndian_nil, Nat.mul_zero,
    Nat.add_zero]
  rfl

theorem readSInt8_run (cursor : p.offset = .ofNat o) (fits : o + 1 ≤ p.buffer.length) :
    readSInt8.run p =
      .ok (.number (.ofInt (toSigned 8 (littleEndian (p.window o 1)))), p.cursorAt (o + 1)) := by
  simp only [readSInt8, StateT.run_bind, StateT.run_get, StateT.run_set, pure_bind, cursor,
    ofNat_literal, ofNat_add_ofNat (Buffer.small_of_le fits), Buffer.readInt8,
    Buffer.readFixed_ofNat fits, liftM, StateT.run_monadLift, monadLift_self, StateT.run_map,
    StateT.run_pure, map_pure]
  rfl

/-- A reader of `width` bytes whose value is a function of them. -/
theorem readAfterFixed_run {w : Nat} {decode : List UInt8 → Float64}
    (cursor : p.offset = .ofNat o) (fits : o + w ≤ p.buffer.length) :
    (JSValue.number <$> readAfter w (fun b x => b.readFixed x w decode)).run p =
      .ok (.number (decode (p.window o w)), p.cursorAt (o + w)) := by
  rw [StateT.run_map, readAfter_run cursor (Buffer.small_of_le fits), Buffer.readFixed_ofNat fits]
  rfl

theorem readInt16_run (cursor : p.offset = .ofNat o) (fits : o + 2 ≤ p.buffer.length) :
    readInt16.run p = .ok (.number (.ofNat (littleEndian (p.window o 2))), p.cursorAt (o + 2)) :=
  readAfterFixed_run cursor fits

theorem readInt32_run (cursor : p.offset = .ofNat o) (fits : o + 4 ≤ p.buffer.length) :
    readInt32.run p = .ok (.number (.ofNat (littleEndian (p.window o 4))), p.cursorAt (o + 4)) :=
  readAfterFixed_run cursor fits

theorem readSInt16_run (cursor : p.offset = .ofNat o) (fits : o + 2 ≤ p.buffer.length) :
    readSInt16.run p =
      .ok (.number (.ofInt (toSigned 16 (littleEndian (p.window o 2)))), p.cursorAt (o + 2)) :=
  readAfterFixed_run cursor fits

theorem readSInt32_run (cursor : p.offset = .ofNat o) (fits : o + 4 ≤ p.buffer.length) :
    readSInt32.run p =
      .ok (.number (.ofInt (toSigned 32 (littleEndian (p.window o 4)))), p.cursorAt (o + 4)) :=
  readAfterFixed_run cursor fits

theorem readFloat_run (cursor : p.offset = .ofNat o) (fits : o + 4 ≤ p.buffer.length) :
    readFloat.run p = .ok (.number (ofFloat32Bits (littleEndian (p.window o 4))), p.cursorAt (o + 4)) := by
  rw [readFloat, readBefore_run cursor (Buffer.small_of_le fits), Buffer.readFloatLE,
    Buffer.readFixed_ofNat fits]
  rfl

theorem readDouble_run (cursor : p.offset = .ofNat o) (fits : o + 8 ≤ p.buffer.length) :
    readDouble.run p = .ok (.number (ofBits (littleEndian (p.window o 8))), p.cursorAt (o + 8)) := by
  rw [readDouble, readBefore_run cursor (Buffer.small_of_le fits), Buffer.readDoubleLE,
    Buffer.readFixed_ofNat fits]
  rfl

/-- `readInt24` is the little-endian value of its three bytes. -/
theorem readInt24_run (cursor : p.offset = .ofNat o) (fits : o + 3 ≤ p.buffer.length) :
    readInt24.run p = .ok (.number (.ofNat (littleEndian (p.window o 3))), p.cursorAt (o + 3)) := by
  have lengths : (p.window o 2).length = 2 ∧ (p.window (o + 2) 1).length = 1 := by
    simp only [window, List.length_take, List.length_drop]; unfold Buffer.length at fits; omega
  have low := lengths.1 ▸ littleEndian_lt (p.window o 2)
  have high := lengths.2 ▸ littleEndian_lt (p.window (o + 2) 1)
  have bytes : littleEndian (p.window o 3) =
      littleEndian (p.window o 2) + littleEndian (p.window (o + 2) 1) * 2 ^ 16 := by
    rw [window_add p o 2 1, littleEndian_append, lengths.1]
    omega
  rw [readInt24, StateT.run_bind, readInt16_run cursor (by omega), ok_bind, StateT.run_bind,
    readInt8_run (offset_cursorAt p (o + 2)) fits, ok_bind, StateT.run_pure, window_cursorAt,
    cursorAt_cursorAt]
  show Except.ok (JSValue.number (ofNat _ + (ofNat _).shiftLeft (ofNat 16)), _) = _
  rw [shiftLeft_ofNat (by omega) (by decide), ofNat_add_ofNat (by omega), ← bytes]

/-- The 64-bit readers hand the decoder the cursor before the move. -/
theorem readInt64With_run {decode : Buffer → Option Float64 → Except JSError JSValue}
    (cursor : p.offset = .ofNat o) (small : o + 8 ≤ 2 ^ 53) :
    (readInt64With decode).run p = (·, p.cursorAt (o + 8)) <$> decode p.buffer (some (.ofNat o)) := by
  simp only [readInt64With, StateT.run_bind, StateT.run_get, StateT.run_set, StateT.run_monadLift,
    pure_bind, monadLift_self, cursor, ofNat_add_ofNat small,
    ofNat_sub_ofNat (Nat.le_add_left 8 o) small, Nat.add_sub_cancel, ofNat_literal]
  rfl

end Readers

/-! ## Buffer readers -/

theorem length_window_lt (p : Packet) (o width : Nat) : (p.window o width).length < 2 ^ 53 := by
  have := p.buffer.length_lt
  simp only [window, List.length_take, List.length_drop]
  omega

/-- The window as a buffer, what `slice` returns between two natural offsets. -/
def windowBuffer (p : Packet) (o width : Nat) : Buffer := ⟨p.window o width, length_window_lt p o width⟩

@[simp] theorem bytes_windowBuffer (p : Packet) (o width : Nat) :
    (p.windowBuffer o width).bytes = p.window o width := rfl

theorem slice_ofNat {p : Packet} {o n : Nat} (fits : o + n ≤ p.buffer.length) :
    p.buffer.slice (.ofNat o) (some (.ofNat (o + n))) = p.windowBuffer o n :=
  Buffer.eq_of_bytes (by rw [Buffer.bytes_slice_ofNat (by omega) fits, Nat.add_sub_cancel_left]; rfl)

section BufferReaders

variable {p : Packet} {o : Nat}

/-- `readBuffer(n)`: the `n` bytes from the cursor. -/
theorem readBuffer_run {n : Nat} (cursor : p.offset = .ofNat o) (fits : o + n ≤ p.buffer.length) :
    (readBuffer (some (.number (.ofNat n)))).run p =
      .ok (.buffer (p.windowBuffer o n), p.cursorAt (o + n)) := by
  have small := Buffer.small_of_le fits
  simp only [readBuffer, StateT.run_bind, StateT.run_get, StateT.run_set, pure_bind, Option.getD_some,
    addLength, cursor, JSValue.toNumber, ofNat_add_ofNat small, StateT.run_pure,
    ofNat_sub_ofNat (Nat.le_add_left n o) small, Nat.add_sub_cancel, slice_ofNat fits]
  rfl

/-- `readBuffer()`: the bytes from the cursor to the packet's end. -/
theorem readBuffer_none_run (cursor : p.offset = .ofNat o) (within : o ≤ p.end)
    (fits : p.end ≤ p.buffer.length) :
    (readBuffer none).run p = .ok (.buffer (p.windowBuffer o (p.end - o)), p.cursorAt p.end) := by
  have small := Buffer.small_of_le fits
  have whole : o + (p.end - o) = p.end := Nat.add_sub_cancel' within
  have small' : o + (p.end - o) ≤ 2 ^ 53 := by omega
  have fits' : o + (p.end - o) ≤ p.buffer.length := by omega
  simp only [readBuffer, StateT.run_bind, StateT.run_get, StateT.run_set, pure_bind,
    Option.getD_none, addLength, cursor, JSValue.toNumber, ofNat_sub_ofNat within small,
    ofNat_add_ofNat small', StateT.run_pure, ofNat_sub_ofNat (Nat.le_add_left (p.end - o) o) small',
    Nat.add_sub_cancel, slice_ofNat fits']
  simp only [whole]
  rfl

/-- `readString(n, encoding)`: the decoded text of the `n` bytes from the cursor. -/
theorem readString_run (host : Host) (encoding : JSValue) {n : Nat} (cursor : p.offset = .ofNat o)
    (fits : o + n ≤ p.buffer.length) :
    (readString host (some (.number (.ofNat n))) encoding).run p =
      (fun text => (.string text, p.cursorAt (o + n))) <$>
        host.decode (.buffer (p.windowBuffer o n)) encoding := by
  have small := Buffer.small_of_le fits
  simp only [readString, StateT.run_bind, StateT.run_get, StateT.run_set, pure_bind,
    Option.getD_some, addLength, cursor, JSValue.toNumber, ofNat_add_ofNat small,
    ofNat_sub_ofNat (Nat.le_add_left n o) small, Nat.add_sub_cancel, slice_ofNat fits, liftM,
    StateT.run_monadLift, monadLift_self, bind_pure_comp, StateT.run_map, map_pure,
    Functor.map_map]
  rfl

/-- A byte read as a value is truthy exactly when it is not zero. -/
theorem toBoolean_ofByte (byte : UInt8) : (JSValue.ofByte? (some byte)).toBoolean = (byte != 0) := by
  have small : byte.toNat ≤ 2 ^ 53 := by
    have := byte.toNat_lt_size
    have : UInt8.size = 256 := rfl
    omega
  have h := isNat_ofNat small
  by_cases zero : byte = 0
  · subst zero
    rfl
  · have nonzero : byte.toNat ≠ 0 := fun h => zero (UInt8.eq_of_val_eq (Fin.ext h))
    simp [JSValue.ofByte?, JSValue.toBoolean, h.isNaN, h.isInt.isZero (by exact_mod_cast nonzero),
      zero]

/-- The scan of `readNullTerminatedString` stops at the first zero byte. -/
theorem nullTerminatorFrom_ofNat (b : Buffer) :
    ∀ (text : List UInt8) (o fuel : Nat), b.Holds o (text ++ [0]) → 0 ∉ text → text.length < fuel →
      nullTerminatorFrom b fuel (.ofNat o) = .ofNat (o + text.length)
  | [], o, fuel + 1, holds, _, _ => by
    simp [nullTerminatorFrom, Buffer.index_ofNat b (Buffer.small_of_le holds.1), holds.getElem?,
      toBoolean_ofByte]
  | byte :: text, o, fuel + 1, holds, nonzero, short => by
    have inside := holds.fits
    simp only [List.cons_append, List.length_cons, List.length_append, List.length_singleton] at inside
    have byte_ne : byte ≠ 0 := fun h => nonzero (h ▸ List.mem_cons_self _ _)
    have split : b.Holds o ([byte] ++ (text ++ [0])) := holds
    have rest : b.Holds (o + 1) (text ++ [0]) := split.right
    rw [nullTerminatorFrom, Buffer.index_ofNat b (Buffer.small_of_le holds.1), holds.getElem?]
    simp only [toBoolean_ofByte, bne_iff_ne, ne_eq, byte_ne, not_false_eq_true, if_true,
      ofNat_literal, ofNat_add_ofNat (Buffer.small_of_le (show o + 1 ≤ b.length by omega))]
    rw [nullTerminatorFrom_ofNat b text (o + 1) fuel rest
      (fun h => nonzero (List.mem_cons_of_mem _ h)) (by simp at short; omega), List.length_cons,
      Nat.add_assoc, Nat.add_comm 1]

/-- `readNullTerminatedString(encoding)`: the decoded text up to the zero byte, the cursor past it. -/
theorem readNullTerminatedString_run (host : Host) (encoding : JSValue) {text : List UInt8}
    (cursor : p.offset = .ofNat o) (holds : p.buffer.Holds o (text ++ [0])) (noZero : 0 ∉ text) :
    (readNullTerminatedString host encoding).run p =
      (fun decoded => (.string decoded, p.cursorAt (o + text.length + 1))) <$>
        host.decode (.buffer (p.windowBuffer o text.length)) encoding := by
  have inside := holds.fits
  simp only [List.length_append, List.length_singleton] at inside
  have scan := nullTerminatorFrom_ofNat p.buffer text o (p.buffer.length + 1) holds noZero
    (by omega)
  simp only [readNullTerminatedString, StateT.run_bind, StateT.run_get, StateT.run_set, pure_bind,
    cursor, scan, slice_ofNat (show o + text.length ≤ p.buffer.length by omega), ofNat_literal,
    ofNat_add_ofNat (Buffer.small_of_le (show o + text.length + 1 ≤ p.buffer.length by omega)),
    liftM, StateT.run_monadLift, monadLift_self, bind_pure_comp, StateT.run_map, map_pure,
    Functor.map_map]
  rfl

end BufferReaders

/-! ## Writers -/

section Writers

variable {p : Packet} {o : Nat}

/-- The shape of the Node writers: write at the cursor, then move it past the bytes. -/
theorem writeWith_run {w : Nat} {write : Buffer → Float64 → Except JSError Buffer}
    (cursor : p.offset = .ofNat o) (small : o + w ≤ 2 ^ 53) :
    (writeWith w write).run p =
      (fun buffer => ((), { p with buffer, offset := .ofNat (o + w) })) <$> write p.buffer (.ofNat o) := by
  simp only [writeWith, StateT.run_bind, StateT.run_get, pure_bind, cursor, liftM,
    StateT.run_monadLift, monadLift_self, bind_pure_comp, StateT.run_set, ofNat_add_ofNat small,
    bind_map_left, Functor.map_map]

/-- The unsigned integer writers store the low bytes of a natural in range. -/
theorem writeUnsigned_run {w : Nat} {max : Int} {n : JSValue} {v : Nat} (hv : IsInt n.toNumber v)
    (range : v ≤ max) (bound : max < 2 ^ 32) (fits : o + w ≤ p.buffer.length)
    (cursor : p.offset = .ofNat o) :
    (writeWith w fun buffer offset => buffer.writeInteger n.toNumber offset w 0 max).run p =
      .ok ((), p.wrote o (leBytes w v)) := by
  rw [writeWith_run cursor (Buffer.small_of_le fits),
    Buffer.writeInteger_ofNat hv (by omega) range ⟨by decide, by omega⟩ fits]
  simp only [Except.map_ok, wrote, length_leBytes]
  congr
  omega

theorem writeInt8_run {n : JSValue} {v : Nat} (hv : IsInt n.toNumber v) (range : v < 2 ^ 8)
    (cursor : p.offset = .ofNat o) (fits : o + 1 ≤ p.buffer.length) :
    (writeInt8 n).run p = .ok ((), p.wrote o (leBytes 1 v)) :=
  writeUnsigned_run hv (by omega) (by decide) fits cursor

theorem writeInt16_run {n : JSValue} {v : Nat} (hv : IsInt n.toNumber v) (range : v < 2 ^ 16)
    (cursor : p.offset = .ofNat o) (fits : o + 2 ≤ p.buffer.length) :
    (writeInt16 n).run p = .ok ((), p.wrote o (leBytes 2 v)) :=
  writeUnsigned_run hv (by omega) (by decide) fits cursor

theorem writeInt32_run {n : JSValue} {v : Nat} (hv : IsInt n.toNumber v) (range : v < 2 ^ 32)
    (cursor : p.offset = .ofNat o) (fits : o + 4 ≤ p.buffer.length) :
    (writeInt32 n).run p = .ok ((), p.wrote o (leBytes 4 v)) :=
  writeUnsigned_run hv (by omega) (by decide) fits cursor

/-- `writeInt24`: the low byte, then the two above it. -/
theorem writeInt24_run {n : JSValue} {v : Nat} (hv : IsInt n.toNumber v) (range : v < 2 ^ 24)
    (cursor : p.offset = .ofNat o) (fits : o + 3 ≤ p.buffer.length) :
    (writeInt24 n).run p = .ok ((), p.wrote o (leBytes 3 v)) := by
  have low : IsInt (JSValue.number (n.toNumber.and 0xff)).toNumber (v % 256 : Nat) := by
    rw [JSValue.toNumber, ofNat_literal, and_of_isInt (k := 8) hv (by omega) rfl (by decide)]
    exact (isNat_ofNat (by omega)).isInt
  have shifted : v >>> 8 = v / 256 := Nat.shiftRight_eq_div_pow v 8
  have high : IsInt (JSValue.number (n.toNumber.signedShiftRight 8)).toNumber (v / 256 : Nat) := by
    rw [JSValue.toNumber, ofNat_literal, signedShiftRight_of_isInt hv (by omega) (by decide), shifted]
    exact (isNat_ofNat (by omega)).isInt
  rw [writeInt24, StateT.run_bind, writeInt8_run low (by omega) cursor (by omega), ok_bind,
    writeInt16_run high (by omega) (offset_wrote p o _) (by simp; omega),
    wrote_wrote (by simp; omega)]
  simp only [leBytes, Nat.mod_mod]
  rfl

theorem writeDouble_run (x : Float64) (cursor : p.offset = .ofNat o) (fits : o + 8 ≤ p.buffer.length) :
    (writeDouble (.number x)).run p = .ok ((), p.wrote o (leBytes 8 x.toBits)) := by
  rw [writeDouble, writeWith_run cursor (Buffer.small_of_le fits), JSValue.toNumber,
    Buffer.writeDoubleLE_ofNat x fits]
  rfl

theorem writeBuffer_run (b : Buffer) (cursor : p.offset = .ofNat o)
    (fits : o + b.length ≤ p.buffer.length) :
    (writeBuffer b).run p = .ok ((), p.wrote o b.bytes) := by
  have small : o < 2 ^ 53 := by have := p.buffer.length_lt; unfold Buffer.length at fits; omega
  simp only [writeBuffer, StateT.run_bind, StateT.run_get, pure_bind, cursor, liftM,
    StateT.run_monadLift, monadLift_self, Buffer.copy_ofNat b small, ok_bind, StateT.run_set,
    ofNat_add_ofNat (Buffer.small_of_le fits)]
  rfl

theorem copyEncoded_run (buf : Buffer) (cursor : p.offset = .ofNat o)
    (fits : o + buf.length ≤ p.buffer.length) :
    (copyEncoded buf).run p = .ok ((), p.wrote o buf.bytes) := by
  by_cases empty : p.buffer.length = 0
  · have none : buf.bytes = [] := List.eq_nil_of_length_eq_zero (by unfold Buffer.length at fits empty; omega)
    have zero : buf.length = 0 := by unfold Buffer.length; rw [none]; rfl
    simp only [copyEncoded, StateT.run_bind, StateT.run_get, pure_bind, empty, if_true, cursor,
      StateT.run_set, zero, wrote, none, Buffer.set_nil, List.length_nil,
      ofNat_add_ofNat (show o + 0 ≤ 2 ^ 53 by omega)]
    rfl
  · have small : o < 2 ^ 53 := by have := p.buffer.length_lt; unfold Buffer.length at fits; omega
    simp only [copyEncoded, StateT.run_bind, StateT.run_get, pure_bind, empty, if_false, cursor,
      liftM, StateT.run_monadLift, monadLift_self, Buffer.copy_ofNat buf small, ok_bind,
      StateT.run_set, ofNat_add_ofNat (Buffer.small_of_le fits)]
    rfl

end Writers

end Mysql2Codec.Packet
