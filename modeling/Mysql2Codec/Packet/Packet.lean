import Mysql2Codec.Parser.PacketParser

/-! # `Packet`

The `Packet` class of `lib/packets/packet.js`: a window `[start, end)` of a buffer and a cursor
`offset`, with the readers and writers of the MySQL wire format.  The methods are state
functions in `PacketM`, a packet threaded through a computation that may throw.

The cursor is a JS number, as in the source.  A length that `readLengthCodedNumber` returns as
a string (a value of `2 ^ 53` or more whose double prints otherwise) is appended to the offset's
text by `+=`; every later use reads that text back as a number, and `addLength` keeps that
number.

`asError` takes the error-name table of `constants/errors.js` as a parameter, and `writeDate`
a `Date` as the values of its local getters.

The `parse*` helpers read a cell's text in place: `parseInt` reads a numeral with the digit
loop, or as a string where a double could not hold it, and `parseDate` reads a `YYYY-MM-DD` date
with three calls of it.

Left out: `sequenceId` and `numPackets`, which no modelled method reads; `dump` (logging);
`clone`; `MockBuffer`; and `parseDateTime`, whose `new Date(str)` parses a string in a way the
language leaves to the engine.
-/

namespace Mysql2Codec

open Js Parser

/-- A packet: its buffer, the window `[start, end)` and the cursor. -/
structure Packet where
  buffer : Buffer
  start : Nat
  offset : Float64
  «end» : Nat

/-- A computation on a packet that may throw. -/
abbrev PacketM := StateT Packet (Except JSError)

namespace Packet

/-- `new Packet(id, buffer, start, end)`: the cursor after the four header bytes. -/
def new (buffer : Buffer) (start «end» : Nat) : Packet := ⟨buffer, start, .ofNat (start + 4), «end»⟩

/-- `offset + len` in `this.offset += len` for a length value. -/
def addLength (offset : Float64) : JSValue → Float64
  | .string s => stringToNumber (offset.toString ++ s)
  | len => offset + len.toNumber

/-- `tag.toString(16)` of a byte. -/
def hexText (x : Float64) : String := String.mk (Nat.toDigits 16 (x.toNat?.getD 0))

/-! ## Cursor -/

def reset : PacketM Unit := modify fun p => { p with offset := .ofNat (p.start + 4) }

def length (p : Packet) : Nat := p.«end» - p.start

def haveMoreData (p : Packet) : Bool := p.offset.lt (.ofNat p.«end»)

def skip (num : Float64) : PacketM Unit := modify fun p => { p with offset := p.offset + num }

def peekByte (p : Packet) : JSValue := .ofByte? (p.buffer.index p.offset)

/-! ## Fixed-width readers -/

/-- `this.buffer[this.offset++]`. -/
def readInt8 : PacketM JSValue := do
  let p ← get
  set { p with offset := p.offset + 1 }
  return .ofByte? (p.buffer.index p.offset)

/-- `this.offset += width; return read(this.buffer, this.offset - width)`. -/
def readAfter (width : Nat) (read : Buffer → Float64 → Except JSError Float64) :
    PacketM Float64 := do
  let p ← get
  set { p with offset := p.offset + Float64.ofNat width }
  read p.buffer (p.offset + Float64.ofNat width - Float64.ofNat width)

def readInt16 : PacketM JSValue := .number <$> readAfter 2 Buffer.readUInt16LE

/-- `this.readInt16() + (this.readInt8() << 16)`. -/
def readInt24 : PacketM JSValue := do
  let low ← readInt16
  let high ← readInt8
  return low.add (.number (high.toNumber.shiftLeft 16))

def readInt32 : PacketM JSValue := .number <$> readAfter 4 Buffer.readUInt32LE

/-- `this.buffer.readInt8(this.offset++)`. -/
def readSInt8 : PacketM JSValue := do
  let p ← get
  set { p with offset := p.offset + 1 }
  return .number (← p.buffer.readInt8 p.offset)

def readSInt16 : PacketM JSValue := .number <$> readAfter 2 Buffer.readInt16LE

def readSInt32 : PacketM JSValue := .number <$> readAfter 4 Buffer.readInt32LE

/-- The 64-bit readers: `this.offset += 8` and a `PacketParser` decoder at the old offset. -/
def readInt64With (decode : Buffer → Option Float64 → Except JSError JSValue) :
    PacketM JSValue := do
  let p ← get
  set { p with offset := p.offset + 8 }
  decode p.buffer (some (p.offset + 8 - 8))

def readInt64JSNumber : PacketM JSValue := readInt64With PacketParser.uint64Number

def readSInt64JSNumber : PacketM JSValue := readInt64With PacketParser.int64Number

def readInt64String : PacketM JSValue := readInt64With PacketParser.uint64String

def readSInt64String : PacketM JSValue := readInt64With PacketParser.int64String

def readInt64 : PacketM JSValue := readInt64With PacketParser.uint64NumberIfPossible

def readSInt64 : PacketM JSValue := readInt64With PacketParser.int64NumberIfPossible

/-- `readFloat` and `readDouble` read first and move the cursor after. -/
def readBefore (width : Nat) (read : Buffer → Float64 → Except JSError Float64) :
    PacketM JSValue := do
  let p ← get
  let res ← read p.buffer p.offset
  set { p with offset := p.offset + Float64.ofNat width }
  return .number res

def readFloat : PacketM JSValue := readBefore 4 Buffer.readFloatLE

def readDouble : PacketM JSValue := readBefore 8 Buffer.readDoubleLE

/-! ## Length-coded numbers -/

/-- `readLengthCodedNumberExt(tag, bigNumberStrings, signed)`: `0xfb` is NULL, `0xfc` and `0xfd`
two and three bytes, `0xfe` two 32-bit words; a value of `2 ^ 53` or more goes through a
`Long` and stays a number only if its double prints as the `Long` does. -/
def readLengthCodedNumberExt (tag : JSValue) (bigNumberStrings signed : Bool) :
    PacketM JSValue := do
  if tag.isNumber 0xfb then return .null
  if tag.isNumber 0xfc then
    let low ← readInt8
    let high ← readInt8
    return low.add (.number (high.toNumber.shiftLeft 8))
  if tag.isNumber 0xfd then
    let low ← readInt8
    let middle ← readInt8
    let high ← readInt8
    return (low.add (.number (middle.toNumber.shiftLeft 8))).add
      (.number (high.toNumber.shiftLeft 16))
  if tag.isNumber 0xfe then
    let word0 := (← readInt32).toNumber
    let word1 := (← readInt32).toNumber
    if word1.equal 0 then return .number word0
    if word1.lt 2097152 then return .number (word1 * .ofNat 0x100000000 + word0)
    let res := Long.new word0 word1 (!signed)
    let resNumber := res.toNumber
    let resString := res.toString
    let res := if resNumber.toString = resString then JSValue.number resNumber
      else .string resString
    return if bigNumberStrings then .string resString else res
  throw (.error ("Should not reach here: " ++ tag.typeOf ++ " " ++
    match tag with
    | .number x => hexText x
    | tag => tag.text))

/-- `readLengthCodedNumber(bigNumberStrings, signed)`: one byte below 251 is the value. -/
def readLengthCodedNumber (bigNumberStrings signed : Bool) : PacketM JSValue := do
  let byte1 ← readInt8
  if byte1.lessThan 251 then return byte1
  readLengthCodedNumberExt byte1 bigNumberStrings signed

/-- `readLengthCodedNumberSigned(bigNumberStrings)`. -/
def readLengthCodedNumberSigned (bigNumberStrings : Bool) : PacketM JSValue :=
  readLengthCodedNumber bigNumberStrings true

/-! ## Buffers, strings, dates -/

/-- `readBuffer(len)`: `len` bytes, or up to `end` when `len` is not given. -/
def readBuffer (len : Option JSValue) : PacketM JSValue := do
  let p ← get
  let len := len.getD (.number (.ofNat p.«end» - p.offset))
  let offset := addLength p.offset len
  set { p with offset }
  return .buffer (p.buffer.slice (offset - len.toNumber) (some offset))

/-- `readLengthCodedBuffer()`. -/
def readLengthCodedBuffer : PacketM JSValue := do
  let len ← readLengthCodedNumber false false
  if len.isNull then return .null
  readBuffer (some len)

/-- A length byte `3` one byte before `end`: `readLengthCodedBuffer` returns three bytes, two of
them past `end`, and leaves the cursor at `8`, past `end = 6`.  No reader compares the cursor
with `end`, so a length-coded read goes wherever the length it reads leads. -/
theorem readLengthCodedBuffer_leaves_window :
    (readLengthCodedBuffer.run
        (Packet.new ⟨[0, 0, 0, 0, 3, 0x41, 0x42, 0x43, 0x44], by decide⟩ 0 6)).toOption.map (fun r => (r.1, r.2.offset)) =
      some (.buffer ⟨[0x41, 0x42, 0x43], by decide⟩, 8) := by
  decide

/-- `readLengthCodedString(encoding)`. -/
def readLengthCodedString (host : Host) (encoding : JSValue) : PacketM JSValue := do
  let len ← readLengthCodedNumber false false
  if len.isNull then return .null
  let p ← get
  let offset := addLength p.offset len
  set { p with offset }
  return .string (← host.decode (.buffer (p.buffer.slice (offset - len.toNumber) (some offset))) encoding)

/-- `readString(len, encoding)`. -/
def readString (host : Host) (len : Option JSValue) (encoding : JSValue) : PacketM JSValue := do
  let p ← get
  let len := len.getD (.number (.ofNat p.«end» - p.offset))
  let offset := addLength p.offset len
  set { p with offset }
  return .string (← host.decode (.buffer (p.buffer.slice (offset - len.toNumber) (some offset))) encoding)

/-- `while (this.buffer[end]) end = end + 1;`, `fuel` bounding the rounds. -/
def nullTerminatorFrom (buffer : Buffer) : Nat → Float64 → Float64
  | 0, position => position
  | fuel + 1, position =>
    if (JSValue.ofByte? (buffer.index position)).toBoolean then
      nullTerminatorFrom buffer fuel (position + 1)
    else position

/-- `readNullTerminatedString(encoding)`: up to the first zero byte, or the buffer's end. -/
def readNullTerminatedString (host : Host) (encoding : JSValue) : PacketM JSValue := do
  let p ← get
  let start := p.offset
  let «end» := nullTerminatorFrom p.buffer (p.buffer.length + 1) p.offset
  set { p with offset := «end» + 1 }
  return .string (← host.decode (.buffer (p.buffer.slice start (some «end»))) encoding)

/-- The length byte of the date readers as the decoders' `length` argument. -/
def lengthArgument : JSValue → Option Float64
  | .undefined => none
  | length => some length.toNumber

/-- `readDateTime()`: a length byte, `0xfb` for NULL, then `dateTime` over that many bytes. -/
def readDateTime : PacketM JSValue := do
  let length ← readInt8
  if length.isNumber 0xfb then return .null
  let p ← get
  let offset := addLength p.offset length
  set { p with offset }
  PacketParser.dateTime p.buffer (some (offset - length.toNumber)) (lengthArgument length)

/-- `readDateTimeString(decimals)`. -/
def readDateTimeString (decimals : JSValue) : PacketM JSValue := do
  let length ← readInt8
  let p ← get
  let offset := addLength p.offset length
  set { p with offset }
  PacketParser.dateTimeString p.buffer (some (offset - length.toNumber)) (lengthArgument length)
    decimals

/-- `readTimeString(convertTtoMs)`: `_time` as milliseconds or as text. -/
def readTimeString (convertTtoMs : Bool) : PacketM JSValue := do
  let length ← readInt8
  let p ← get
  let offset := addLength p.offset length
  set { p with offset }
  PacketParser.time (if convertTtoMs then .number else .string) p.buffer
    (some (offset - length.toNumber)) (lengthArgument length)

/-- `while (this.offset < end) { result *= 10; result += this.buffer[this.offset] - 48;
this.offset++; }`, `fuel` bounding the rounds. -/
def parseIntLoop (stop : Float64) : Nat → Float64 → PacketM Float64
  | 0, result => pure result
  | fuel + 1, result => do
    let p ← get
    if p.offset.lt stop then
      set { p with offset := p.offset + 1 }
      parseIntLoop stop fuel (result * 10 + (byteValue p.buffer p.offset - 48))
    else pure result

/-- `parseIntNoBigCheck(len)`: `null` for `null`, `0` for `0`, else an optional sign and the
digits up to `this.offset + len`, accumulated in a double. -/
def parseIntNoBigCheck (len : JSValue) : PacketM JSValue := do
  if len.isNull then return .null
  let stop := ((JSValue.number (← get).offset).add len).toNumber
  if len.isNumber 0 then return .number 0
  let mut sign : Float64 := 1
  if byteIs (← get).buffer (← get).offset 0x2D then
    modify fun p => { p with offset := p.offset + 1 }
    sign := -1
  if byteIs (← get).buffer (← get).offset 0x2B then
    modify fun p => { p with offset := p.offset + 1 }
  let result ← parseIntLoop stop (loopFuel (← get).offset stop) 0
  return .number (result * sign)

/-! ## The `parse*` helpers -/

/-- `parseInt(len, supportBigNumbers)`: `null` for `null`; without `supportBigNumbers` a length
of `14` or more is `Number` of the text; `0` for `0`.  Then an optional `-`; with
`supportBigNumbers`, fifteen characters or more after it are read as a `'binary'` string and
kept as a number only when `parseInt` of it prints back as it.  Otherwise an optional `+` and the
digit loop, the number kept under `supportBigNumbers` only when it prints as the whole text. -/
def parseInt (host : Host) (len : JSValue) (supportBigNumbers : Bool) : PacketM JSValue := do
  if len.isNull then return .null
  if !len.toNumber.isNaN && !len.lessThan 14 && !supportBigNumbers then
    let p ← get
    let s := p.buffer.asciiSlice p.offset ((JSValue.number p.offset).add len).toNumber
    set { p with offset := addLength p.offset len }
    return .number (stringToNumber s)
  let start := (← get).offset
  let stop := ((JSValue.number start).add len).toNumber
  let mut sign : Float64 := 1
  if len.isNumber 0 then return .number 0
  if byteIs (← get).buffer (← get).offset 0x2D then
    modify fun p => { p with offset := p.offset + 1 }
    sign := -1
  let numDigits := stop - (← get).offset
  if supportBigNumbers then
    if !numDigits.isNaN && !numDigits.lt 15 then
      let str := (← readString host (some (.number (stop - (← get).offset))) (.string "binary")).text
      let result := Js.parseInt str
      if result.toString = str then return .number (sign * result)
      return .string (if sign.equal (-1) then "-" ++ str else str)
    if (16 : Float64).lt numDigits then
      let str := (← readString host (some (.number (stop - (← get).offset))) .undefined).text
      return .string (if sign.equal (-1) then "-" ++ str else str)
  if byteIs (← get).buffer (← get).offset 0x2B then
    modify fun p => { p with offset := p.offset + 1 }
  let result ← parseIntLoop stop (loopFuel (← get).offset stop) 0
  let num := result * sign
  if !supportBigNumbers then return .number num
  let str := (← get).buffer.asciiSlice start stop
  if num.toString = str then return .number num
  return .string str

def parseLengthCodedIntNoBigCheck : PacketM JSValue := do
  parseIntNoBigCheck (← readLengthCodedNumber false false)

def parseLengthCodedInt (host : Host) (supportBigNumbers : Bool) : PacketM JSValue := do
  parseInt host (← readLengthCodedNumber false false) supportBigNumbers

def parseLengthCodedIntString (host : Host) : PacketM JSValue :=
  readLengthCodedString host (.string "binary")

/-- `parseLengthCodedFloat()`: `floatAscii` over the cell, the cursor moved past it first. -/
def parseLengthCodedFloat (host : Host) : PacketM JSValue := do
  let len ← readLengthCodedNumber false false
  if len.isNull then return .null
  let p ← get
  let offset := addLength p.offset len
  set { p with offset }
  return PacketParser.floatAscii host p.buffer (some (offset - len.toNumber)) (some len.toNumber)

/-- `parseGeometryValue()`: `geometry` of the cell; a NULL cell fails on `null.length`. -/
def parseGeometryValue : PacketM JSValue := do
  match ← readLengthCodedBuffer with
  | .buffer b => PacketParser.geometry b none none
  | _ => throw (propertyOfNothing "null" "length")

/-- `isAlt()`: `0xfe`, the first byte of an `AuthSwitchRequest`, at the cursor. -/
def isAlt (p : Packet) : Bool := p.peekByte.isNumber 0xfe

def isError (p : Packet) : Bool := p.peekByte.isNumber 0xff

/-- `isEOF()`: `0xfe` at the cursor of a packet shorter than `13` bytes. -/
def isEOF (p : Packet) : Bool := byteIs p.buffer p.offset 0xfe && decide (p.length < 13)

def eofStatusFlags (p : Packet) : Except JSError Float64 := p.buffer.readInt16LE (p.offset + 3)

def eofWarningCount (p : Packet) : Except JSError Float64 := p.buffer.readInt16LE (p.offset + 1)

/-- `type()`: `'EOF'`, `'Error'`, `'maybeOK'` for a zero byte at the cursor, or `''`. -/
def type (p : Packet) : String :=
  if p.isEOF then "EOF"
  else if p.isError then "Error"
  else if byteIs p.buffer p.offset 0 then "maybeOK"
  else ""

/-! ## Errors -/

/-- The `Error` that `asError` returns: `new Error(message)` and the four properties it sets. -/
structure ServerError where
  message : String
  code : JSValue
  errno : JSValue
  sqlState : String
  sqlMessage : String

/-- `asError(encoding)`: from the start of the payload, the field count, the error code, an
optional `#` with five bytes of SQL state, and the rest up to `end` as the message.
`errorCodeToName` is the table `ErrorCodeToName`. -/
def asError (host : Host) (errorCodeToName : JSValue → JSValue) (encoding : JSValue) :
    PacketM ServerError := do
  reset
  let _ ← readInt8
  let errorCode ← readInt16
  let mut sqlState := ""
  if byteIs (← get).buffer (← get).offset 0x23 then
    skip 1
    sqlState ← match ← readBuffer (some (.number 5)) with
      | .buffer b => pure (host.utf8Text b)
      | value => pure value.text
  let message ← match ← readString host none encoding with
    | .string s => pure s
    | value => pure value.text
  return ⟨message, errorCodeToName errorCode, errorCode, sqlState, message⟩

/-- An error packet `ff 28 04` (error `1064`, no SQL state, an empty message) whose buffer goes
on with `#HY000`.  After the error code the cursor stands at `end`, the message being empty;
`asError` looks for the marker `#` there without comparing the cursor with `end`, so the error's
`sqlState` is `HY000`, read from the next packet. -/
theorem asError_reads_state_past_end (errorCodeToName : JSValue → JSValue) (encoding : JSValue) :
    ((asError latin1Host errorCodeToName encoding).run
        (Packet.new ⟨[0, 0, 0, 0, 0xff, 0x28, 0x04] ++ asciiBytes "#HY000", by decide⟩ 0 7)).toOption.map
        (fun r => (r.1.errno, r.1.sqlState, r.1.message)) =
      some (.number 1064, "HY000", "") := by
  rfl

/-! ## Writers -/

/-- A Node writer at the cursor, then `this.offset += width`. -/
def writeWith (width : Nat) (write : Buffer → Float64 → Except JSError Buffer) : PacketM Unit := do
  let p ← get
  let buffer ← write p.buffer p.offset
  set { p with buffer, offset := p.offset + Float64.ofNat width }

def writeInt32 (n : JSValue) : PacketM Unit :=
  writeWith 4 fun buffer offset => buffer.writeUInt32LE n.toNumber offset

def writeInt16 (n : JSValue) : PacketM Unit :=
  writeWith 2 fun buffer offset => buffer.writeUInt16LE n.toNumber offset

def writeInt8 (n : JSValue) : PacketM Unit :=
  writeWith 1 fun buffer offset => buffer.writeUInt8 n.toNumber offset

/-- `writeInt8(n & 0xff); writeInt16(n >> 8)`. -/
def writeInt24 (n : JSValue) : PacketM Unit := do
  writeInt8 (.number (n.toNumber.and 0xff))
  writeInt16 (.number (n.toNumber.signedShiftRight 8))

def writeDouble (n : JSValue) : PacketM Unit :=
  writeWith 8 fun buffer offset => buffer.writeDoubleLE n.toNumber offset

/-- `b.copy(this.buffer, this.offset); this.offset += b.length`. -/
def writeBuffer (b : Buffer) : PacketM Unit := do
  let p ← get
  let buffer ← b.copy p.buffer p.offset
  set { p with buffer, offset := p.offset + Float64.ofNat b.length }

/-- `this.buffer[this.offset] = 0xfb; this.offset++`: a store outside the buffer is dropped. -/
def writeNull : PacketM Unit := modify fun p =>
  { p with
    buffer := match p.offset.toNat? with
      | some n => if n < p.buffer.length then p.buffer.set n [0xfb] else p.buffer
      | none => p.buffer
    offset := p.offset + 1 }

/-- `this.buffer.length && buf.copy(this.buffer, this.offset); this.offset += buf.length`. -/
def copyEncoded (buf : Buffer) : PacketM Unit := do
  let p ← get
  let buffer ← if p.buffer.length = 0 then pure p.buffer else buf.copy p.buffer p.offset
  set { p with buffer, offset := p.offset + Float64.ofNat buf.length }

def writeNullTerminatedString (host : Host) (s : String) (encoding : JSValue) : PacketM Unit := do
  copyEncoded (← host.encode s encoding)
  writeInt8 (.number 0)

/-- `writeString(s, encoding)`: `null` is `0xfb`, the empty string writes nothing. -/
def writeString (host : Host) (s : Option String) (encoding : JSValue) : PacketM Unit :=
  match s with
  | none => writeInt8 (.number 0xfb)
  | some s => if s.isEmpty then pure () else do copyEncoded (← host.encode s encoding)

/-- What `writeLengthCodedNumber` reads `low` and `high` from: a `Long` it made, or the object it
was given. -/
inductive LongValue where
  | long (l : Long)
  | object (value : JSValue)

def LongValue.low : LongValue → JSValue
  | .long l => .number (.ofInt l.low)
  | .object value => value.get "low"

def LongValue.high : LongValue → JSValue
  | .long l => .number (.ofInt l.high)
  | .object value => value.get "high"

/-- The `longValue` of `writeLengthCodedNumber`: a number above `0xffffff` through
`Long.fromNumber`, a string of eight characters or more through `Long.fromString`, an object as
itself. -/
def longValueOf : JSValue → Except JSError (Option LongValue)
  | .number x => .ok (if (Float64.ofNat 0xffffff).lt x then some (.long (.fromNumber x true)) else none)
  | .string s => if 8 ≤ s.length then (some ∘ .long) <$> Long.fromString true s.toList else .ok none
  | .undefined | .null | .bool _ => .ok none
  | n => .ok (some (.object n))

/-- `writeLengthCodedNumber(n)`: NULL as `0xfb`; a `Long` whose value fits 24 bits goes on as
its `low` word, a larger one is `0xfe` and its two words; below `0xfb` one byte, below `2 ^ 16`
`0xfc` and two bytes, below `2 ^ 24` `0xfd` and three bytes. -/
def writeLengthCodedNumber (n : JSValue) : PacketM Unit := do
  if n.isNull then return ← writeInt8 (.number 0xfb)
  let mut n := n
  match ← longValueOf n with
  | some longValue =>
    if longValue.high.isNumber 0 && (longValue.low.toNumber.and (.ofNat 0xff000000)).equal 0 then
      n := longValue.low
    else
      writeInt8 (.number 0xfe)
      let p ← get
      let buffer ← p.buffer.writeInt32LE longValue.low.toNumber p.offset
      let buffer ← buffer.writeInt32LE longValue.high.toNumber (p.offset + 4)
      set { p with buffer, offset := p.offset + 8 }
      return
  | none => pure ()
  if n.lessThan 0xfb then return ← writeInt8 n
  if n.lessThan 0x10000 then
    writeInt8 (.number 0xfc)
    return ← writeInt16 n
  if n.lessThan 0x1000000 then
    writeInt8 (.number 0xfd)
    return ← writeInt24 n
  throw (.error ((if n.toNumber.isFinite then "Should not reach here" else "Invalid integer") ++
    ": " ++ n.typeOf ++ " n"))

/-- `writeDate(d)`: the length `11`, then the year, month, day, hours, minutes, seconds and
microseconds of `d`'s local getters at fixed places after the cursor, then `this.offset += 12`. -/
def writeDate (d : Date.Parts) : PacketM Unit := do
  let p ← get
  let buffer ← p.buffer.writeUInt8 11 p.offset
  let buffer ← buffer.writeUInt16LE (.ofInt d.year) (p.offset + 1)
  let buffer ← buffer.writeUInt8 (.ofNat d.month + 1) (p.offset + 3)
  let buffer ← buffer.writeUInt8 (.ofNat d.day) (p.offset + 4)
  let buffer ← buffer.writeUInt8 (.ofNat d.hours) (p.offset + 5)
  let buffer ← buffer.writeUInt8 (.ofNat d.minutes) (p.offset + 6)
  let buffer ← buffer.writeUInt8 (.ofNat d.seconds) (p.offset + 7)
  let buffer ← buffer.writeUInt32LE (.ofNat d.milliseconds * 1000) (p.offset + 8)
  set { p with buffer, offset := p.offset + 12 }

/-- `writeHeader(sequenceId)`: the payload length `buffer.length - 4` in the first three bytes
and the sequence id in the fourth, the cursor put back where it was. -/
def writeHeader (sequenceId : JSValue) : PacketM Unit := do
  let offset := (← get).offset
  modify fun p => { p with offset := 0 }
  writeInt24 (.number (.ofNat (← get).buffer.length - 4))
  writeInt8 sequenceId
  modify fun p => { p with offset }

def writeLengthCodedString (host : Host) (s : String) (encoding : JSValue) : PacketM Unit := do
  let buf ← host.encode s encoding
  writeLengthCodedNumber (.number (.ofNat buf.length))
  copyEncoded buf

def writeLengthCodedBuffer (b : Buffer) : PacketM Unit := do
  writeLengthCodedNumber (.number (.ofNat b.length))
  writeBuffer b

/-- `Packet.lengthCodedNumberLength(n)`: the bytes a length-coded `n` is predicted to take. -/
def lengthCodedNumberLength (n : JSValue) : Nat :=
  if n.lessThan 0xfb then 1
  else if n.lessThan 0x10000 then 3
  else if n.lessThan 0x1000000 then 5
  else 9

/-- `Packet.lengthCodedStringLength(str, encoding)`. -/
def lengthCodedStringLength (host : Host) (str : String) (encoding : JSValue) :
    Except JSError Nat := do
  let buf ← host.encode str encoding
  let slen := buf.length
  return lengthCodedNumberLength (.number (.ofNat slen)) + slen

end Packet

end Mysql2Codec
