import Mysql2Codec.Packet.Spec

/-! # `PrepareStatement` and the packet header

`PrepareStatement.toPacket()` builds a COM_STMT_PREPARE packet in a buffer from
`Buffer.allocUnsafe`, five bytes longer than the encoded query: the command code `0x16` at
index `4`, the query after it.  The first four bytes keep what the allocation held until the
connection calls `writeHeader(sequenceId)`, which writes over them the length of the rest of the
buffer, in three bytes, and the sequence id.

A frame of the client/server protocol is such a header followed by its payload (`frame`).
`writeHeader_frames_payload` says that `writeHeader` frames the payload of every buffer of four
bytes or more and leaves the cursor where it was, as long as the payload is below `2 ^ 24`
bytes; from there up to `2 ^ 31`, where `>>` starts to wrap, it throws the `RangeError` of
`writeUInt16LE`.  `toPacket_frames_prepare` puts the two together: whatever the allocation held,
the packet of a query is the frame of `0x16` and the query's bytes.
-/

namespace Mysql2Codec.Js.Buffer

/-- `Buffer.allocUnsafe(size)`: `size` bytes left as the memory held them, byte `i` being
`memory i`; a size past the largest buffer is a `RangeError`. -/
def allocUnsafe (memory : Nat → UInt8) (size : Nat) : Except JSError Buffer :=
  if small : size < 2 ^ 53 then .ok ⟨List.ofFn fun i : Fin size => memory i, by simpa using small⟩
  else .error outOfRange

/-- The allocation gives `size` bytes whenever a buffer can hold them. -/
theorem allocUnsafe_length (memory : Nat → UInt8) {size : Nat} (small : size < 2 ^ 53) :
    ∃ b : Buffer, allocUnsafe memory size = .ok b ∧ b.length = size :=
  ⟨_, dif_pos small, List.length_ofFn fun i : Fin size => memory i⟩

end Mysql2Codec.Js.Buffer

namespace Mysql2Codec.Packet

open Js Float64

/-! ## The command -/

/-- Modelled from the spec: `CommandCodes.STMT_PREPARE`, the byte `0x16` that begins the body of a
COM_STMT_PREPARE frame.  The table of command codes is not among the sources. -/
def stmtPrepare : JSValue := .number 0x16

/-- A `PrepareStatement` command: its query, and `CharsetToEncoding[charsetNumber]`, the encoding
of the connection's charset. -/
structure PrepareStatement where
  query : String
  encoding : JSValue

/-- `toPacket()`: a buffer five bytes longer than the encoded query, the cursor at `4`, the
command code and the query written there.  The four header bytes keep what the allocation held. -/
def PrepareStatement.toPacket (host : Host) (memory : Nat → UInt8) (s : PrepareStatement) :
    Except JSError Packet := do
  let buf ← host.encode s.query s.encoding
  let length := 5 + buf.length
  let buffer ← Buffer.allocUnsafe memory length
  let packet := { Packet.new buffer 0 length with offset := 4 }
  let ((), packet) ← (do writeInt8 stmtPrepare; writeBuffer buf).run packet
  pure packet

/-- `toPacket()` on a query that encodes: the command code and the query from index `4` to the
end, the cursor at the end. -/
theorem toPacket_run (host : Host) (memory : Nat → UInt8) (s : PrepareStatement) {buf : Buffer}
    (encoded : host.encode s.query s.encoding = .ok buf) (small : 5 + buf.length < 2 ^ 53) :
    ∃ packet : Packet, s.toPacket host memory = .ok packet ∧ packet.buffer.length = 5 + buf.length ∧
      packet.buffer.bytes.drop 4 = 0x16 :: buf.bytes ∧ packet.start = 0 ∧
      packet.offset = .ofNat (5 + buf.length) ∧ packet.end = 5 + buf.length := by
  obtain ⟨allocated, alloc, length⟩ := Buffer.allocUnsafe_length memory small
  have bytesLength : allocated.bytes.length = 5 + buf.bytes.length := length
  let packet : Packet := { Packet.new allocated 0 (5 + buf.length) with offset := 4 }
  have twentyTwo : IsInt stmtPrepare.toNumber (0x16 : Nat) := (isNat_ofNat (by norm_num)).isInt
  have code := writeInt8_run twentyTwo (by norm_num) (p := packet) (o := 4) rfl
    (by simp only [packet, Packet.new, length]; omega)
  have query := writeBuffer_run buf (offset_wrote packet 4 (leBytes 1 0x16))
    (by simp only [buffer_wrote, Buffer.length_set, packet, Packet.new, length, length_leBytes]; omega)
  refine ⟨(packet.wrote 4 (leBytes 1 0x16)).wrote (4 + (leBytes 1 0x16).length) buf.bytes, ?_, ?_, ?_, rfl,
    ?_, rfl⟩
  · unfold PrepareStatement.toPacket
    dsimp only
    rw [encoded, ok_bind, alloc, ok_bind, StateT.run_bind, code, ok_bind, query]
    rfl
  · simp only [buffer_wrote, Buffer.length_set, packet, Packet.new, length]
  · rw [wrote_wrote (by simp only [packet, Packet.new, length, length_leBytes]; exact Nat.le_refl _)]
    have fits : 4 + (leBytes 1 0x16 ++ buf.bytes).length ≤ allocated.bytes.length := by
      simp only [List.length_append, length_leBytes, bytesLength]; omega
    have front : (allocated.bytes.take 4).length = 4 := by simp only [List.length_take, bytesLength]; omega
    have rest : allocated.bytes.length ≤ 4 + (leBytes 1 0x16 ++ buf.bytes).length := by
      simp only [List.length_append, length_leBytes, bytesLength]; omega
    simp only [buffer_wrote, Buffer.bytes_set, packet, Packet.new, overwrite_of_le fits]
    rw [List.drop_eq_nil_of_le rest, List.append_nil, List.drop_left' front]
    rfl
  · simp only [offset_wrote, length_leBytes, Buffer.length]

/-! ## Frames -/

/-- A frame of the client/server protocol: the payload's length in three bytes, the sequence id,
the payload. -/
def frame (sequenceId : Nat) (payload : List UInt8) : List UInt8 :=
  leBytes 3 payload.length ++ leBytes 1 sequenceId ++ payload

/-- The header written over the first four bytes frames the rest of the buffer. -/
theorem bytes_set_header (b : Buffer) (sequenceId : Nat) (header : 4 ≤ b.length) :
    (b.set 0 (leBytes 3 (b.length - 4) ++ leBytes 1 sequenceId)).bytes = frame sequenceId (b.bytes.drop 4) := by
  unfold Buffer.length at header ⊢
  rw [Buffer.bytes_set, overwrite_of_le (by simp only [List.length_append, length_leBytes]; omega)]
  simp only [frame, List.take_zero, List.nil_append, List.length_append, length_leBytes, List.length_drop]

/-- The frame of `SELECT 1` prepared at sequence id `0`: the length `9`, the id, the body. -/
example : frame 0 [0x16, 0x53, 0x45, 0x4C, 0x45, 0x43, 0x54, 0x20, 0x31] =
    [9, 0, 0, 0, 0x16, 0x53, 0x45, 0x4C, 0x45, 0x43, 0x54, 0x20, 0x31] := by
  decide

/-- `this.buffer.length - 4`, exact. -/
theorem payloadLength_eq (p : Packet) (header : 4 ≤ p.buffer.length) :
    ofNat p.buffer.length - ofNat 4 = ofNat (p.buffer.length - 4) :=
  ofNat_sub_ofNat header (Buffer.small_of_le (le_refl _))

/-- `writeHeader` on a payload below `2 ^ 24` bytes: the header at `0`, the cursor put back. -/
theorem writeHeader_run (p : Packet) {sequenceId : Nat} (id : sequenceId < 2 ^ 8)
    (header : 4 ≤ p.buffer.length) (payload : p.buffer.length - 4 < 2 ^ 24) :
    (writeHeader (.number (.ofNat sequenceId))).run p =
      .ok ((), { p with buffer := p.buffer.set 0 (leBytes 3 (p.buffer.length - 4) ++ leBytes 1 sequenceId) }) := by
  have length : IsInt (JSValue.number (.ofNat p.buffer.length - 4)).toNumber (p.buffer.length - 4 : Nat) := by
    rw [JSValue.toNumber, ofNat_literal, payloadLength_eq p header]
    exact (isNat_ofNat (by omega)).isInt
  have seq : IsInt (JSValue.number (.ofNat sequenceId)).toNumber sequenceId := (isNat_ofNat (by omega)).isInt
  have first := writeInt24_run length payload (p := { p with offset := 0 }) (o := 0) rfl (by simp; omega)
  have second := writeInt8_run seq id (offset_wrote { p with offset := 0 } 0 (leBytes 3 (p.buffer.length - 4)))
    (by simp [length_leBytes]; omega)
  simp only [writeHeader, StateT.run_bind, StateT.run_get, pure_bind, StateT.run_modify, first, ok_bind, second,
    wrote_wrote (show 0 + (leBytes 3 (p.buffer.length - 4)).length + (leBytes 1 sequenceId).length ≤
      ({ p with offset := 0 } : Packet).buffer.length by simp [length_leBytes]; omega)]
  rfl

/-- `writeHeader` on a payload from `2 ^ 24` to `2 ^ 31` bytes: `writeInt16` gets the length
shifted right by `8`, past `0xffff`. -/
theorem writeHeader_long (p : Packet) (sequenceId : JSValue) (header : 4 ≤ p.buffer.length)
    (long : 2 ^ 24 ≤ p.buffer.length - 4) (word : p.buffer.length - 4 < 2 ^ 31) :
    (writeHeader sequenceId).run p = .error outOfRange := by
  have length := (isNat_ofNat (show p.buffer.length - 4 ≤ 2 ^ 53 by omega)).isInt
  have low : IsInt (JSValue.number ((ofNat (p.buffer.length - 4)).and (ofNat 255))).toNumber
      ((p.buffer.length - 4) % 256 : Nat) := by
    rw [JSValue.toNumber, and_of_isInt (k := 8) length (by omega) rfl (by decide)]
    exact (isNat_ofNat (by omega)).isInt
  have high : (ofNat (p.buffer.length - 4)).signedShiftRight (ofNat 8) = ofNat ((p.buffer.length - 4) / 256) := by
    rw [signedShiftRight_of_isInt length word (by decide), Nat.shiftRight_eq_div_pow]
  have above : (ofInt 0xffff).lt (ofNat ((p.buffer.length - 4) / 256)) = true := by
    rw [lt_of_isInt (isInt_ofInt (by decide)) (isNat_ofNat (by omega)).isInt]
    exact decide_eq_true (by omega)
  have first := writeInt8_run low (by omega) (p := { p with offset := ofNat 0 }) (o := 0) rfl (by simp; omega)
  simp only [writeHeader, StateT.run_bind, StateT.run_get, pure_bind, StateT.run_modify, writeInt24,
    JSValue.toNumber, ofNat_literal, payloadLength_eq p header, first, ok_bind, writeInt16, high,
    Buffer.writeUInt16LE, Buffer.writeInteger, above, Bool.true_or, if_true]
  rfl

/-- `writeHeader(sequenceId)` on every packet of four bytes or more whose payload is below
`2 ^ 31` bytes: below `2 ^ 24` it frames the payload, the bytes after the first four, and keeps
the start, the cursor and the end; from `2 ^ 24` it throws. -/
theorem writeHeader_frames_payload (p : Packet) {sequenceId : Nat} (id : sequenceId < 2 ^ 8)
    (header : 4 ≤ p.buffer.length) (word : p.buffer.length - 4 < 2 ^ 31) :
    ((writeHeader (.number (.ofNat sequenceId))).run p).map
        (fun (_, q) => (q.buffer.bytes, q.start, q.offset, q.end)) =
      if p.buffer.length - 4 < 2 ^ 24 then .ok (frame sequenceId (p.buffer.bytes.drop 4), p.start, p.offset, p.end)
      else .error outOfRange := by
  split
  case isTrue short =>
    rw [writeHeader_run p id header short]
    simp only [Except.map, bytes_set_header _ _ header]
  case isFalse long =>
    rw [writeHeader_long p _ header (by omega) word]
    rfl

/-- A packet of two payload bytes, its cursor at the end, gets the header `2, 0, 0, 3`. -/
theorem writeHeader_frames_two_bytes :
    let p : Packet := ⟨⟨[9, 9, 9, 9, 0x16, 0x61], by decide⟩, 0, ofNat 6, 6⟩
    3 < 2 ^ 8 ∧ 4 ≤ p.buffer.length ∧ p.buffer.length - 4 < 2 ^ 31 ∧
      ((writeHeader (.number (.ofNat 3))).run p).map (fun (_, q) => (q.buffer.bytes, q.start, q.offset, q.end)) =
        if p.buffer.length - 4 < 2 ^ 24 then .ok (frame 3 (p.buffer.bytes.drop 4), p.start, p.offset, p.end)
        else .error outOfRange :=
  ⟨by decide, by decide, by decide, writeHeader_frames_payload _ (by decide) (by decide) (by decide)⟩

/-- Every query whose encoding leaves the payload below `2 ^ 24` bytes is sent, once its header
is written, as the frame of `0x16` and the encoded query, whatever the allocation held; the
cursor stays at the end. -/
theorem toPacket_frames_prepare (host : Host) (memory : Nat → UInt8) (s : PrepareStatement) {buf : Buffer}
    (encoded : host.encode s.query s.encoding = .ok buf) (short : buf.length + 1 < 2 ^ 24) {sequenceId : Nat}
    (id : sequenceId < 2 ^ 8) :
    (s.toPacket host memory >>= (writeHeader (.number (.ofNat sequenceId))).run).map
        (fun (_, q) => (q.buffer.bytes, q.start, q.offset, q.end)) =
      .ok (frame sequenceId (0x16 :: buf.bytes), 0, .ofNat (5 + buf.length), 5 + buf.length) := by
  obtain ⟨packet, built, length, payload, start, cursor, stop⟩ := toPacket_run host memory s encoded (by omega)
  rw [built, ok_bind, writeHeader_run packet id (by omega) (by omega)]
  simp only [Except.map, bytes_set_header _ _ (show 4 ≤ packet.buffer.length by omega), payload, start, cursor,
    stop]

/-- The query `SELECT 1` at charset `utf8`, in a buffer allocated over memory that holds `0xAA`,
with sequence id `0`. -/
theorem toPacket_frames_select_one :
    let buf : Buffer := ⟨[0x53, 0x45, 0x4C, 0x45, 0x43, 0x54, 0x20, 0x31], by decide⟩
    latin1Host.encode "SELECT 1" (.string "utf8") = .ok buf ∧ buf.length + 1 < 2 ^ 24 ∧ 0 < 2 ^ 8 ∧
      ((PrepareStatement.mk "SELECT 1" (.string "utf8")).toPacket latin1Host (fun _ => 0xAA) >>=
          (writeHeader (.number (.ofNat 0))).run).map (fun (_, q) => (q.buffer.bytes, q.start, q.offset, q.end)) =
        .ok (frame 0 (0x16 :: buf.bytes), 0, .ofNat (5 + buf.length), 5 + buf.length) :=
  ⟨rfl, by decide, by decide,
    toPacket_frames_prepare latin1Host (fun _ => 0xAA) ⟨"SELECT 1", .string "utf8"⟩ rfl (by decide) (by decide)⟩

end Mysql2Codec.Packet
