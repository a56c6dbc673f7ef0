import Mysql2Codec.Packet.LengthCoded

/-! # Writing a packet, then reading it back

The writers of `Packet` and its readers keep their cursor arithmetic apart.  This module runs any
sequence of writes, then the matching reads from where the first write began, and proves that
each read returns what was written and leaves the cursor where the matching write left it.

* `Write` is one call of a writer with its argument, `Write.read` the matching reader and
  `Write.value` what the reader is to return; `Wire host w bytes` says that `w` succeeds and puts
  `bytes` on the wire.
* The two ingredients are the step lemmas `Wire.write_run` and `Wire.read_run`, one case per
  writer, each citing the run lemmas of `Packet.Spec` and `Packet.LengthCoded`.
* `writeAll_run` and `readAll_run` follow by induction on the list of writes, and
  `writes_read_back_in_order` joins them.
-/

namespace Mysql2Codec.Packet

open Js Float64

/-! ## Writes and their reads -/

/-- One call of a packet writer with its argument; an integer is in its writer's range. -/
inductive Write where
  | int8 (v : Fin (2 ^ 8))
  | int16 (v : Fin (2 ^ 16))
  | int24 (v : Fin (2 ^ 24))
  | int32 (v : Fin (2 ^ 32))
  | double (x : Float64)
  | buffer (b : Buffer)
  | lengthCodedBuffer (b : Buffer)
  | lengthCodedString (s : String) (encoding : JSValue)
  | nullTerminatedString (s : String) (encoding : JSValue)

namespace Write

variable (host : Host)

/-- The writer called. -/
def write : Write → PacketM Unit
  | int8 v => writeInt8 (.number (.ofNat v))
  | int16 v => writeInt16 (.number (.ofNat v))
  | int24 v => writeInt24 (.number (.ofNat v))
  | int32 v => writeInt32 (.number (.ofNat v))
  | double x => writeDouble (.number x)
  | buffer b => writeBuffer b
  | lengthCodedBuffer b => writeLengthCodedBuffer b
  | lengthCodedString s encoding => writeLengthCodedString host s encoding
  | nullTerminatedString s encoding => writeNullTerminatedString host s encoding

/-- The matching reader: `readBuffer` is given the length of the buffer written. -/
def read : Write → PacketM JSValue
  | int8 _ => readInt8
  | int16 _ => readInt16
  | int24 _ => readInt24
  | int32 _ => readInt32
  | double _ => readDouble
  | buffer b => readBuffer (some (.number (.ofNat b.length)))
  | lengthCodedBuffer _ => readLengthCodedBuffer
  | lengthCodedString _ encoding => readLengthCodedString host encoding
  | nullTerminatedString _ encoding => readNullTerminatedString host encoding

/-- What the reader is to give back: the number or the bytes written, and for a string
`decode(encode(s, e), e)`. -/
def value : Write → Except JSError JSValue
  | int8 v => .ok (.number (.ofNat v))
  | int16 v => .ok (.number (.ofNat v))
  | int24 v => .ok (.number (.ofNat v))
  | int32 v => .ok (.number (.ofNat v))
  | double x => .ok (.number x)
  | buffer b => .ok (.buffer b)
  | lengthCodedBuffer b => .ok (.buffer b)
  | lengthCodedString s encoding => do .string <$> host.decode (.buffer (← host.encode s encoding)) encoding
  | nullTerminatedString s encoding => do .string <$> host.decode (.buffer (← host.encode s encoding)) encoding

end Write

/-- `Wire host w bytes`: the write `w` succeeds and puts `bytes` on the wire.  A string is written
when its encoding succeeds, and a null-terminated one is read back only when that encoding has no
zero byte. -/
inductive Wire (host : Host) : Write → List UInt8 → Prop
  | int8 (v : Fin (2 ^ 8)) : Wire host (.int8 v) (leBytes 1 v)
  | int16 (v : Fin (2 ^ 16)) : Wire host (.int16 v) (leBytes 2 v)
  | int24 (v : Fin (2 ^ 24)) : Wire host (.int24 v) (leBytes 3 v)
  | int32 (v : Fin (2 ^ 32)) : Wire host (.int32 v) (leBytes 4 v)
  | double (x : Float64) : Wire host (.double x) (leBytes 8 x.toBits)
  | buffer (b : Buffer) : Wire host (.buffer b) b.bytes
  | lengthCodedBuffer (b : Buffer) :
      Wire host (.lengthCodedBuffer b) (lengthCodedBytes b.length ++ b.bytes)
  | lengthCodedString {s : String} {encoding : JSValue} {buf : Buffer}
      (encoded : host.encode s encoding = .ok buf) :
      Wire host (.lengthCodedString s encoding) (lengthCodedBytes buf.length ++ buf.bytes)
  | nullTerminatedString {s : String} {encoding : JSValue} {buf : Buffer}
      (encoded : host.encode s encoding = .ok buf) (noZero : 0 ∉ buf.bytes) :
      Wire host (.nullTerminatedString s encoding) (buf.bytes ++ [0])

/-- The writes one after the other, with the cursor after each. -/
def writeAll (host : Host) : List Write → PacketM (List Float64)
  | [] => pure []
  | w :: ws => do
    w.write host
    let p ← get
    return p.offset :: (← writeAll host ws)

/-- The matching reads in the same order, with each value and the cursor after it. -/
def readAll (host : Host) : List Write → PacketM (List (JSValue × Float64))
  | [] => pure []
  | w :: ws => do
    let v ← w.read host
    let p ← get
    return (v, p.offset) :: (← readAll host ws)

/-- The cursors after each of `chunks` laid one after the other from `o`. -/
def ends : Nat → List (List UInt8) → List Float64
  | _, [] => []
  | o, c :: cs => .ofNat (o + c.length) :: ends (o + c.length) cs

section Steps

variable {host : Host} {p : Packet} {o : Nat}

/-- A step of the host lifted into a packet method: its error, or the rest on its value. -/
theorem run_liftM {α β : Type} (x : Except JSError α) (f : α → PacketM β) :
    (liftM x >>= f).run p = x >>= fun a => (f a).run p := by
  cases x <;> rfl

/-- A step of the host that succeeds, lifted into a packet method. -/
theorem run_liftM_ok {α β : Type} {x : Except JSError α} {a : α} (ok : x = .ok a) (f : α → PacketM β) :
    (liftM x >>= f).run p = (f a).run p := by
  rw [run_liftM, ok, ok_bind]

/-- A step of the host lifted into a packet method leaves the packet as it is. -/
theorem liftM_run {α : Type} (x : Except JSError α) : (liftM x : PacketM α).run p = (·, p) <$> x := by
  cases x <;> rfl

/-- Two writes in a row put their bytes side by side. -/
theorem seq_run {first second : PacketM Unit} {xs ys : List UInt8}
    (fits : o + xs.length + ys.length ≤ p.buffer.length)
    (ran : first.run p = .ok ((), p.wrote o xs))
    (next : second.run (p.wrote o xs) = .ok ((), (p.wrote o xs).wrote (o + xs.length) ys)) :
    (do first; second).run p = .ok ((), p.wrote o (xs ++ ys)) := by
  rw [StateT.run_bind, ran, ok_bind, next, wrote_wrote fits]

theorem Wire.write_run {w : Write} {bytes : List UInt8} (wire : Wire host w bytes)
    (cursor : p.offset = .ofNat o) (fits : o + bytes.length ≤ p.buffer.length) :
    (w.write host).run p = .ok ((), p.wrote o bytes) := by
  cases wire with
  | int8 v => exact writeInt8_run (isNat_ofNat (by omega)).isInt v.isLt cursor (by simpa using fits)
  | int16 v => exact writeInt16_run (isNat_ofNat (by omega)).isInt v.isLt cursor (by simpa using fits)
  | int24 v => exact writeInt24_run (isNat_ofNat (by omega)).isInt v.isLt cursor (by simpa using fits)
  | int32 v => exact writeInt32_run (isNat_ofNat (by omega)).isInt v.isLt cursor (by simpa using fits)
  | double x => exact writeDouble_run x cursor (by simpa using fits)
  | buffer b => exact writeBuffer_run b cursor fits
  | lengthCodedBuffer b =>
    have small : b.length < 2 ^ 53 := b.length_lt
    have same : b.length = b.bytes.length := rfl
    rw [List.length_append] at fits
    exact seq_run (by omega)
      (writeLengthCodedNumber_run (.number (toNat?_ofNat small.le) (by omega)) cursor (by
        show o + (lengthCodedBytes b.length).length ≤ _; omega))
      (writeBuffer_run b (offset_wrote p o _) (by simp; omega))
  | lengthCodedString encoded =>
    rename_i buf
    have small : buf.length < 2 ^ 53 := buf.length_lt
    have same : buf.length = buf.bytes.length := rfl
    rw [List.length_append] at fits
    rw [Write.write, writeLengthCodedString, run_liftM_ok encoded]
    exact seq_run (by omega)
      (writeLengthCodedNumber_run (.number (toNat?_ofNat small.le) (by omega)) cursor (by
        show o + (lengthCodedBytes buf.length).length ≤ _; omega))
      (copyEncoded_run buf (offset_wrote p o _) (by simp; omega))
  | nullTerminatedString encoded noZero =>
    rename_i buf
    have same : buf.length = buf.bytes.length := rfl
    rw [List.length_append, List.length_singleton] at fits
    rw [Write.write, writeNullTerminatedString, run_liftM_ok encoded]
    exact seq_run (by rw [List.length_singleton]; omega) (copyEncoded_run buf cursor (by omega))
      (writeInt8_run (v := 0) (isNat_ofNat (by decide)).isInt (by decide) (offset_wrote p o _) (by simp; omega))

theorem windowBuffer_of_holds {b : Buffer} (holds : p.buffer.Holds o b.bytes) : p.windowBuffer o b.length = b :=
  Buffer.eq_of_bytes holds.window

theorem windowBuffer_cursorAt (p : Packet) (o o' width : Nat) :
    (p.cursorAt o').windowBuffer o width = p.windowBuffer o width := rfl

/-- The length prefix of a length-coded buffer or string. -/
theorem readLength_run {n : Nat} {rest : List UInt8} (small : n < 2 ^ 53) (cursor : p.offset = .ofNat o)
    (holds : p.buffer.Holds o (lengthCodedBytes n ++ rest)) :
    (readLengthCodedNumber false false).run p =
      .ok (.number (.ofNat n), p.cursorAt (o + (lengthCodedBytes n).length)) := by
  rw [readLengthCodedField_run false cursor (v := some n) holds.left fun _ same => by cases same; omega,
    lengthCodedResult, lengthCodedValue_exact small.le]
  rfl

/-- `readLengthCodedBuffer()` on a length-coded buffer: the buffer, the cursor past it. -/
theorem readLengthCodedBuffer_run {b : Buffer} (cursor : p.offset = .ofNat o)
    (holds : p.buffer.Holds o (lengthCodedBytes b.length ++ b.bytes)) :
    readLengthCodedBuffer.run p = .ok (.buffer b, p.cursorAt (o + (lengthCodedBytes b.length ++ b.bytes).length)) := by
  have rest := holds.right
  rw [readLengthCodedBuffer, StateT.run_bind, readLength_run (show b.length < 2 ^ 53 from b.length_lt) cursor holds,
    ok_bind]
  simp only [JSValue.isNull, Bool.false_eq_true, if_false, pure_bind]
  rw [readBuffer_run (n := b.length) (offset_cursorAt p _) rest.fits, cursorAt_cursorAt, windowBuffer_cursorAt,
    windowBuffer_of_holds rest, List.length_append, Nat.add_assoc]
  rfl

theorem readLengthCodedString_eq (host : Host) (encoding : JSValue) :
    readLengthCodedString host encoding = (do
      let len ← readLengthCodedNumber false false
      if len.isNull then return .null
      readString host (some len) encoding) :=
  rfl

theorem Wire.read_run {w : Write} {bytes : List UInt8} (wire : Wire host w bytes)
    (cursor : p.offset = .ofNat o) (holds : p.buffer.Holds o bytes) :
    (w.read host).run p = (fun v => (v, p.cursorAt (o + bytes.length))) <$> w.value host := by
  have fits := holds.fits
  cases wire with
  | int8 v =>
    rw [length_leBytes] at fits ⊢
    rw [Write.read, readInt8_run cursor fits, littleEndian_of_holds holds v.isLt]
    rfl
  | int16 v =>
    rw [length_leBytes] at fits ⊢
    rw [Write.read, readInt16_run cursor fits, littleEndian_of_holds holds v.isLt]
    rfl
  | int24 v =>
    rw [length_leBytes] at fits ⊢
    rw [Write.read, readInt24_run cursor fits, littleEndian_of_holds holds v.isLt]
    rfl
  | int32 v =>
    rw [length_leBytes] at fits ⊢
    rw [Write.read, readInt32_run cursor fits, littleEndian_of_holds holds v.isLt]
    rfl
  | double x =>
    rw [length_leBytes] at fits ⊢
    rw [Write.read, readDouble_run cursor fits, littleEndian_of_holds holds x.toBits_lt,
      ofBits_toBits]
    rfl
  | buffer b =>
    rw [Write.read, readBuffer_run (n := b.length) cursor fits, windowBuffer_of_holds holds]
    rfl
  | lengthCodedBuffer b =>
    rw [Write.read, readLengthCodedBuffer_run cursor holds]
    rfl
  | lengthCodedString encoded =>
    rename_i s encoding buf
    have rest := holds.right
    rw [Write.read, readLengthCodedString_eq, StateT.run_bind, readLength_run (show buf.length < 2 ^ 53 from buf.length_lt) cursor holds, ok_bind]
    simp only [JSValue.isNull, Bool.false_eq_true, if_false, pure_bind]
    rw [readString_run host encoding (n := buf.length) (offset_cursorAt p _) rest.fits, cursorAt_cursorAt]
    show (fun text => (JSValue.string text, _)) <$> host.decode (.buffer (p.windowBuffer _ buf.length)) encoding = _
    rw [windowBuffer_of_holds rest, List.length_append, Nat.add_assoc, Write.value, encoded, ok_bind]
    cases host.decode (.buffer buf) encoding <;> rfl
  | nullTerminatedString encoded noZero =>
    rename_i s encoding buf
    rw [Write.read, readNullTerminatedString_run host encoding cursor holds noZero]
    show (fun text => (JSValue.string text, _)) <$> host.decode (.buffer (p.windowBuffer _ buf.length)) encoding = _
    rw [windowBuffer_of_holds holds.left, List.length_append, List.length_singleton, Nat.add_assoc, Write.value,
      encoded, ok_bind]
    cases host.decode (.buffer buf) encoding <;> rfl

end Steps

/-! ## The whole sequence -/

section Sequence

variable {host : Host}

theorem wrote_nil {p : Packet} {o : Nat} (cursor : p.offset = .ofNat o) : p.wrote o [] = p := by
  rw [← cursorAt_eq_self cursor]
  simp only [wrote, Buffer.set_nil, List.length_nil, Nat.add_zero]
  rfl

/-- The writes put their chunks one after the other, and the cursor after each is where its
chunk ends. -/
theorem writeAll_run : ∀ {ws : List Write} {chunks : List (List UInt8)} {p : Packet} {o : Nat},
    List.Forall₂ (Wire host) ws chunks → p.offset = .ofNat o →
    o + chunks.flatten.length ≤ p.buffer.length →
    (writeAll host ws).run p = .ok (ends o chunks, p.wrote o chunks.flatten)
  | [], [], p, o, .nil, cursor, _ => by
    rw [writeAll, StateT.run_pure, List.flatten_nil, wrote_nil cursor]
    rfl
  | w :: ws, c :: cs, p, o, .cons wire rest, cursor, fits => by
    rw [List.flatten_cons, List.length_append, ← Nat.add_assoc] at fits
    simp only [writeAll, StateT.run_bind, wire.write_run cursor (by omega), ok_bind, StateT.run_get,
      pure_bind, writeAll_run rest (offset_wrote p o c) (by simpa using fits), StateT.run_pure,
      wrote_wrote fits, List.flatten_cons]
    rfl

/-- The reads, from a cursor on the chunks, give each value with the cursor where its chunk ends. -/
theorem readAll_run : ∀ {ws : List Write} {chunks : List (List UInt8)} {p : Packet} {o : Nat},
    List.Forall₂ (Wire host) ws chunks → p.offset = .ofNat o → p.buffer.Holds o chunks.flatten →
    (readAll host ws).run p =
      (fun values => (values.zip (ends o chunks), p.cursorAt (o + chunks.flatten.length))) <$>
        ws.mapM (Write.value host)
  | [], [], p, o, .nil, cursor, _ => by
    rw [readAll, StateT.run_pure, List.mapM_nil, List.flatten_nil, List.length_nil, Nat.add_zero,
      cursorAt_eq_self cursor]
    rfl
  | w :: ws, c :: cs, p, o, .cons wire rest, cursor, holds => by
    rw [List.flatten_cons] at holds
    have next := readAll_run rest (offset_cursorAt p (o + c.length)) holds.right
    rw [readAll, StateT.run_bind, wire.read_run cursor holds.left, List.mapM_cons]
    cases w.value host with
    | error e => rfl
    | ok v =>
      simp only [Except.map_ok, ok_bind, StateT.run_bind, StateT.run_get, pure_bind, next]
      cases ws.mapM (Write.value host) with
      | error e => rfl
      | ok values => simp [ends, List.length_append, Nat.add_assoc]

end Sequence

/-- Writes of any kinds, in any number, from a cursor with room for them all, read back in the
same order from where the first began: each read gives the written value, and the cursor after
each read is the writer's cursor after the matching write. -/
theorem writes_read_back_in_order (host : Host) {p : Packet} {o : Nat} {ws : List Write}
    {chunks : List (List UInt8)} (wire : List.Forall₂ (Wire host) ws chunks) (cursor : p.offset = .ofNat o)
    (fits : o + chunks.flatten.length ≤ p.buffer.length) :
    (writeAll host ws).run p = .ok (ends o chunks, p.wrote o chunks.flatten) ∧
      (readAll host ws).run ((p.wrote o chunks.flatten).cursorAt o) =
        (fun values => (values.zip (ends o chunks), p.wrote o chunks.flatten)) <$> ws.mapM (Write.value host) := by
  refine ⟨writeAll_run wire cursor fits, ?_⟩
  rw [readAll_run wire (offset_cursorAt (p.wrote o chunks.flatten) o) (Buffer.holds_set fits), cursorAt_cursorAt,
    cursorAt_wrote]

/-- A 16-bit word, a length-coded buffer of three bytes and the null-terminated string `hi` in
`'utf8'`, written from the cursor of a new packet. -/
theorem writes_read_back_word_buffer_string :
    let ws : List Write :=
      [.int16 ⟨300, by decide⟩, .lengthCodedBuffer ⟨[1, 2, 3], by decide⟩, .nullTerminatedString "hi" (.string "utf8")]
    let chunks : List (List UInt8) := [leBytes 2 300, lengthCodedBytes 3 ++ [1, 2, 3], [0x68, 0x69, 0]]
    let p : Packet := Packet.new ⟨List.replicate 16 0, by decide⟩ 0 16
    (List.Forall₂ (Wire latin1Host) ws chunks ∧ p.offset = .ofNat 4 ∧ 4 + chunks.flatten.length ≤ p.buffer.length) ∧
      (writeAll latin1Host ws).run p = .ok (ends 4 chunks, p.wrote 4 chunks.flatten) ∧
      (readAll latin1Host ws).run ((p.wrote 4 chunks.flatten).cursorAt 4) =
        (fun values => (values.zip (ends 4 chunks), p.wrote 4 chunks.flatten)) <$> ws.mapM (Write.value latin1Host) :=
  have wire : List.Forall₂ (Wire latin1Host)
      [.int16 ⟨300, by decide⟩, .lengthCodedBuffer ⟨[1, 2, 3], by decide⟩, .nullTerminatedString "hi" (.string "utf8")]
      [leBytes 2 300, lengthCodedBytes 3 ++ [1, 2, 3], [0x68, 0x69, 0]] :=
    .cons (.int16 _) (.cons (.lengthCodedBuffer _)
      (.cons (@Wire.nullTerminatedString _ _ _ ⟨[0x68, 0x69], by decide⟩ rfl (by decide)) .nil))
  ⟨⟨wire, rfl, by decide⟩, writes_read_back_in_order _ wire rfl (by decide)⟩

end Mysql2Codec.Packet
