import Mysql2Codec.Row.BinaryParser

/-! # The 64-bit and ASCII integer decoders

`uint64NumberIfPossible` and `int64NumberIfPossible` call `toString()` on the `Long` and then
`toNumber()` on the string they got, which has no such method: whatever the eight bytes, the
call throws, and so do `Packet.readInt64`, `readSInt64` and the binary row parser's LONGLONG
cells under `supportBigNumbers` without `bigNumberStrings`.

`int64Number` skips the `Long` when the high word's sign bit is clear and adds the low word as
`readInt32LE` returns it, signed: a low word of `2 ^ 31` or more counts `2 ^ 32` short.

`intAscii` reads a long numeral with `buffer.toString('ascii', offset, length)`, which takes
`length` as the end index; away from offset `0` it returns the wrong part of the buffer.
-/

namespace Mysql2Codec.Parser

open Js Row

/-! ## The `IfPossible` decoders throw -/

/-- A decoder that reads its words and then calls a method the string lacks. -/
theorem ifPossible_ne_ok {α : Type} (words : Except JSError α) (text : α → String) (v : JSValue) :
    (do
      let long := text (← words)
      let resNumber ← PacketParser.toNumberOfString "long"
      let resString := long
      return if resNumber.toString = resString then JSValue.number resNumber
        else .string resString : Except JSError JSValue) ≠ .ok v := by
  cases words <;> simp [bind, Except.bind, PacketParser.toNumberOfString]

theorem uint64NumberIfPossible_ne_ok (buffer : Buffer) (offset : Option Float64) (v : JSValue) :
    PacketParser.uint64NumberIfPossible buffer offset ≠ .ok v :=
  ifPossible_ne_ok _ Long.toString v

theorem int64NumberIfPossible_ne_ok (buffer : Buffer) (offset : Option Float64) (v : JSValue) :
    PacketParser.int64NumberIfPossible buffer offset ≠ .ok v :=
  ifPossible_ne_ok _ Long.toString v

/-- A 64-bit packet reader whose decoder never returns never returns either. -/
theorem readInt64With_ne_ok {decode : Buffer → Option Float64 → Except JSError JSValue}
    (throws : ∀ buffer offset v, decode buffer offset ≠ .ok v) (p p' : Packet) (v : JSValue) :
    (Packet.readInt64With decode).run p ≠ .ok (v, p') := by
  simp only [Packet.readInt64With, StateT.run, bind, StateT.bind, get, getThe, MonadStateOf.get,
    StateT.get, set, StateT.set, pure, Except.pure, Except.bind, liftM, monadLift, MonadLift.monadLift,
    StateT.lift]
  cases h : decode p.buffer (some (p.offset + 8 - 8)) with
  | error e => simp [h, Except.map]
  | ok w => exact absurd h (throws _ _ w)

/-- The binary row parser's code for a non-NULL LONGLONG cell under `supportBigNumbers` without
`bigNumberStrings` and without a cast. -/
theorem longlong_cell_ne_ok (host : Host) (fields : List ColumnDefinition)
    (field : ColumnDefinition) (i : Nat) (options : Options) (config : Config)
    (longlong : field.columnType = .longlong)
    (bigNumbers : (options.supportBigNumbers || config.supportBigNumbers) = true)
    (noStrings : (options.bigNumberStrings || config.bigNumberStrings) = false)
    (p p' : Packet) (v : JSValue) :
    ((BinaryParser.rvalueOf none field (BinaryParser.readCodeFor field i options config)).eval
      host fields false).run p ≠ .ok (v, p') := by
  have code : ∃ d, BinaryParser.rvalueOf none field (BinaryParser.readCodeFor field i options config) =
      .decoded d (.readBuffer 8) ∧ (d = .uint64NumberIfPossible ∨ d = .int64NumberIfPossible) := by
    simp only [BinaryParser.readCodeFor, longlong, bigNumbers, noStrings, Bool.not_true,
      Bool.false_eq_true, if_false, BinaryParser.rvalueOf]
    cases field.unsigned <;> simp
  obtain ⟨d, equation, which⟩ := code
  rw [equation]
  simp only [BinaryParser.RValue.eval, Bool.false_eq_true, if_false, StateT.run, bind,
    StateT.bind]
  cases (BufferCode.read (.readBuffer 8)) p with
  | error e => simp [Except.bind]
  | ok result =>
    obtain ⟨cell, q⟩ := result
    have throws : ∀ w, d.call host (bufferOf? cell) none none ≠ .ok w := by
      intro w
      rcases which with rfl | rfl <;> cases bufferOf? cell <;>
        simp [Decoder.call, propertyOfNothing, uint64NumberIfPossible_ne_ok,
          int64NumberIfPossible_ne_ok]
    cases call : d.call host (bufferOf? cell) none none with
    | error e => simp [Except.bind, call, liftM, monadLift, MonadLift.monadLift, StateT.lift]
    | ok w => exact absurd call (throws w)

/-- Whatever the bytes, none of the default big-number paths returns: the two decoders, the packet
readers built on them, and the binary row parser's code for a LONGLONG cell under
`supportBigNumbers` without `bigNumberStrings`, as `compile` emits it when no cast is set. -/
theorem ifPossible_readers_throw (host : Host) (fields : List ColumnDefinition)
    (field : ColumnDefinition) (i : Nat) (options : Options) (config : Config)
    (longlong : field.columnType = .longlong)
    (bigNumbers : (options.supportBigNumbers || config.supportBigNumbers) = true)
    (noStrings : (options.bigNumberStrings || config.bigNumberStrings) = false)
    (buffer : Buffer) (offset : Option Float64) (p p' : Packet) (v : JSValue) :
    PacketParser.uint64NumberIfPossible buffer offset ≠ .ok v ∧
      PacketParser.int64NumberIfPossible buffer offset ≠ .ok v ∧
      Packet.readInt64.run p ≠ .ok (v, p') ∧ Packet.readSInt64.run p ≠ .ok (v, p') ∧
      ((BinaryParser.rvalueOf none field (BinaryParser.readCodeFor field i options config)).eval
        host fields false).run p ≠ .ok (v, p') :=
  ⟨uint64NumberIfPossible_ne_ok buffer offset v, int64NumberIfPossible_ne_ok buffer offset v,
    readInt64With_ne_ok uint64NumberIfPossible_ne_ok p p' v,
    readInt64With_ne_ok int64NumberIfPossible_ne_ok p p' v,
    longlong_cell_ne_ok host fields field i options config longlong bigNumbers noStrings p p' v⟩

theorem ifPossible_readers_throw_on_zero_word :
    let host : Host :=
      ⟨fun _ _ => .ok "", fun _ _ => .ok .empty, fun _ => .ok .null, fun _ => "", fun x _ => x⟩
    let field : ColumnDefinition := ⟨"id", "t", .longlong, true, 0, .undefined⟩
    let options : Options := { supportBigNumbers := true }
    let zeros : Buffer := ⟨List.replicate 8 0, by decide⟩
    let p := Packet.new ⟨List.replicate 12 0, by decide⟩ 0 12
    (field.columnType = .longlong ∧ (options.supportBigNumbers || ({} : Config).supportBigNumbers) = true ∧
      (options.bigNumberStrings || ({} : Config).bigNumberStrings) = false) ∧
    (PacketParser.uint64NumberIfPossible zeros (some 0) ≠ .ok (.number 0) ∧
      PacketParser.int64NumberIfPossible zeros (some 0) ≠ .ok (.number 0) ∧
      Packet.readInt64.run p ≠ .ok (.number 0, { p with offset := 12 }) ∧
      Packet.readSInt64.run p ≠ .ok (.number 0, { p with offset := 12 }) ∧
      ((BinaryParser.rvalueOf none field (BinaryParser.readCodeFor field 0 options {})).eval
        host [field] false).run p ≠ .ok (.number 0, { p with offset := 12 })) :=
  by
  intro host field options zeros p
  exact ⟨⟨rfl, rfl, rfl⟩, ifPossible_readers_throw host [field] field 0 options {} rfl rfl rfl
    zeros (some 0) p _ _⟩

/-! ## `int64Number` with a large low word -/

/-- The bytes `ff ff ff ff 00 00 00 00` are `2 ^ 32 - 1`.  The high word is `0`, so `int64Number`
returns `word0 + 0x100000000 * word1` with `word0 = -1`; the `Long` path it skips returns
`4294967295`.  `readSInt64JSNumber`, which calls `int64Number`, returns the same `-1`. -/
theorem int64Number_adds_signed_low_word :
    (PacketParser.int64Number ⟨[0xff, 0xff, 0xff, 0xff, 0, 0, 0, 0], by decide⟩ (some 0)).toOption =
        some (.number (.ofInt (-1))) ∧
      ((PacketParser.int64Long ⟨[0xff, 0xff, 0xff, 0xff, 0, 0, 0, 0], by decide⟩ (some 0)).map
        Long.toNumber).toOption = some (.ofNat 4294967295) ∧
      ((Packet.readSInt64JSNumber.run
        (Packet.new ⟨[0, 0, 0, 0, 0xff, 0xff, 0xff, 0xff, 0, 0, 0, 0], by decide⟩ 0 12)).map
          (·.1)).toOption = some (.number (.ofInt (-1))) := by
  decide

/-! ## `intAscii` away from offset `0` -/

/-- Seventeen digits at offset `1` of a buffer: `intAscii` returns the text between indices `1`
and `17`, which is sixteen digits, where the cell holds seventeen. -/
theorem intAscii_seventeen_digits_at_one :
    PacketParser.intAscii ⟨0x20 :: asciiBytes "12345678901234567", by decide⟩ (some 1) (some 17) =
      .string "1234567890123456" := by
  rfl

end Mysql2Codec.Parser
