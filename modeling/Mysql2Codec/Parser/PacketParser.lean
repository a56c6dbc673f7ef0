import Mysql2Codec.Js.Long

/-! # `PacketParser`

The decoders of `lib/parsers/packet_parser.js`.  Each one takes a buffer and, optionally, an
offset and a length (`decoder(buffer)` from the binary row parser and from `CastField`,
`decoder(buffer, offset, length)` from the text row parser's fast path), and returns a value
or throws.  Offsets and lengths are JS numbers, as in the source; the default
`offset = 0, length = buffer.length` of a missing argument is `defaults`.

The `while` loops over byte positions run at most `loopFuel` rounds: the number of positions
between the start and the end, which is exact while positions stay below `2 ^ 53`; beyond it a
JS position no longer grows by one and the source's loop never ends.
-/

namespace Mysql2Codec.Parser

open Mysql2Codec.Js

/-- The `TypeError` of reading a property of `undefined` or `null`. -/
def propertyOfNothing (nothing property : String) : JSError :=
  .typeError ("Cannot read properties of " ++ nothing ++ " (reading '" ++ property ++ "')")

/-- `value.toString()` of a number or a string. -/
def valueToString : JSValue → Except JSError String
  | .undefined => .error (propertyOfNothing "undefined" "toString")
  | .null => .error (propertyOfNothing "null" "toString")
  | value => .ok value.text

/-- `leftPad(num, value)`: the text of `value`, filled to `num` characters from the twelve zeros
of `pad`. -/
def leftPad (num : Nat) (value : JSValue) : Except JSError String := do
  let s ← valueToString value
  if num ≤ s.length then return s
  return (String.mk (List.replicate 12 '0') ++ s).takeRight num

/-- `offset || 0`. -/
def offsetOrZero (x : Float64) : Float64 := if (JSValue.number x).toBoolean then x else 0

/-- The arguments after the defaults at the head of the decoders: a missing offset makes the
offset `0` and the length the buffer's; a missing length is the rest of the buffer. -/
def defaults (buffer : Buffer) : Option Float64 → Option Float64 → Float64 × Float64
  | none, _ => (0, .ofNat buffer.length)
  | some offset, none => (offset, .ofNat buffer.length - offset)
  | some offset, some length => (offset, length)

/-- The number of rounds of a loop from `position` up to `stop`. -/
def loopFuel (position stop : Float64) : Nat :=
  if position.isFinite && stop.isFinite then (stop.truncate - position.truncate).toNat + 1 else 0

/-- `buffer[position]` in arithmetic: the byte, or NaN for `undefined`. -/
def byteValue (buffer : Buffer) (position : Float64) : Float64 :=
  (JSValue.ofByte? (buffer.index position)).toNumber

/-- `buffer[position] === code`. -/
def byteIs (buffer : Buffer) (position : Float64) (code : UInt8) : Bool :=
  buffer.index position = some code

/-- The digit loop of `intAscii` and `intAsciiSmall`:
`while (position < end) { result *= 10; result += buffer[position] - 0x30; position++; }`. -/
def digitLoop (buffer : Buffer) (stop : Float64) : Nat → Float64 → Float64 → Float64
  | 0, _, result => result
  | fuel + 1, position, result =>
    if position.lt stop then
      digitLoop buffer stop fuel (position + 1) (result * 10 + (byteValue buffer position - 0x30))
    else result

namespace PacketParser

/-! ## Fixed-width integers and floats -/

def int8 (buffer : Buffer) (offset : Option Float64) : Except JSError JSValue :=
  .number <$> buffer.readInt8 (offsetOrZero (offset.getD 0))

def uint8 (buffer : Buffer) (offset : Option Float64) : JSValue :=
  .ofByte? (buffer.index (offsetOrZero (offset.getD 0)))

def int16 (buffer : Buffer) (offset : Option Float64) : Except JSError JSValue :=
  .number <$> buffer.readInt16LE (offsetOrZero (offset.getD 0))

def uint16 (buffer : Buffer) (offset : Option Float64) : Except JSError JSValue :=
  .number <$> buffer.readUInt16LE (offsetOrZero (offset.getD 0))

def int32 (buffer : Buffer) (offset : Option Float64) : Except JSError JSValue :=
  .number <$> buffer.readInt32LE (offsetOrZero (offset.getD 0))

def uint32 (buffer : Buffer) (offset : Option Float64) : Except JSError JSValue :=
  .number <$> buffer.readUInt32LE (offsetOrZero (offset.getD 0))

def float32 (buffer : Buffer) (offset : Option Float64) : Except JSError JSValue :=
  .number <$> buffer.readFloatLE (offsetOrZero (offset.getD 0))

def float64 (buffer : Buffer) (offset : Option Float64) : Except JSError JSValue :=
  .number <$> buffer.readDoubleLE (offsetOrZero (offset.getD 0))

/-! ## 64-bit integers -/

/-- The two signed words of `uint64Long` and `int64Long`, at `offset` and `4 + offset`. -/
def words (buffer : Buffer) (offset : Option Float64) : Except JSError (Float64 × Float64) := do
  let offset := offset.getD 0
  let word0 ← buffer.readInt32LE offset
  let word1 ← buffer.readInt32LE (4 + offset)
  return (word0, word1)

def uint64Long (buffer : Buffer) (offset : Option Float64) : Except JSError Long := do
  let (word0, word1) ← words buffer offset
  return Long.new word0 word1 true

def int64Long (buffer : Buffer) (offset : Option Float64) : Except JSError Long := do
  let (word0, word1) ← words buffer offset
  return Long.new word0 word1 false

def uint64Number (buffer : Buffer) (offset : Option Float64) : Except JSError JSValue := do
  return .number (← uint64Long buffer offset).toNumber

/-- `int64Number`: a clear sign bit in the high word skips the `Long`. -/
def int64Number (buffer : Buffer) (offset : Option Float64) : Except JSError JSValue := do
  let (word0, word1) ← words buffer offset
  if !(JSValue.number (word1.and (.ofNat 0x80000000))).toBoolean then
    return .number (word0 + Float64.ofNat 0x100000000 * word1)
  return .number (Long.new word0 word1 false).toNumber

def uint64String (buffer : Buffer) (offset : Option Float64) : Except JSError JSValue := do
  return .string (← uint64Long buffer offset).toString

def int64String (buffer : Buffer) (offset : Option Float64) : Except JSError JSValue := do
  return .string (← int64Long buffer offset).toString

/-- `long.toNumber()` where `long` holds a string: `String.prototype` has no `toNumber`. -/
def toNumberOfString (expression : String) : Except JSError Float64 :=
  .error (.typeError (expression ++ ".toNumber is not a function"))

/-- `uint64NumberIfPossible`: `long` is the `Long`'s string, so `long.toNumber()` throws. -/
def uint64NumberIfPossible (buffer : Buffer) (offset : Option Float64) :
    Except JSError JSValue := do
  let long := (← uint64Long buffer offset).toString
  let resNumber ← toNumberOfString "long"
  let resString := long
  return if resNumber.toString = resString then .number resNumber else .string resString

/-- `int64NumberIfPossible`, the signed twin of `uint64NumberIfPossible`. -/
def int64NumberIfPossible (buffer : Buffer) (offset : Option Float64) :
    Except JSError JSValue := do
  let long := (← int64Long buffer offset).toString
  let resNumber ← toNumberOfString "long"
  let resString := long
  return if resNumber.toString = resString then .number resNumber else .string resString

/-! ## Numbers in ASCII -/

/-- What the loop of `floatAscii` computes with, as plain data: positions `P` and the test
`offset < end`, the byte tests, and the arithmetic of the accumulator `R` and of the divisor `F`.
The code runs the loop on doubles (`doubleReading`); it can be read with exact numbers too. -/
structure FloatAsciiReading (P R F : Type) where
  /-- `offset < end`. -/
  before : P → Bool
  /-- `offset + 1`. -/
  next : P → P
  /-- `buf[offset] === code`. -/
  isByte : P → UInt8 → Bool
  /-- `result * 10 + (buf[offset] - 0x30)`. -/
  addDigit : R → P → R
  /-- `factor * 10`. -/
  scale : F → F
  /-- `result / factor`. -/
  divide : R → F → R
  /-- `(result / factor) * Math.pow(10, Number(buf.toString('ascii', offset + 1, end)))`. -/
  exponent : R → F → P → R

/-- The loop of `floatAscii`: digits, a `.` that starts counting the fraction's digits in
`factor`, and an `e`/`E` that hands the rest to `Number` and `Math.pow`. -/
def floatAsciiLoop {P R F : Type} (reading : FloatAsciiReading P R F) : Nat → P → R → F → Bool → R
  | 0, _, result, factor, _ => reading.divide result factor
  | fuel + 1, offset, result, factor, pastDot =>
    if reading.before offset then
      if reading.isByte offset 0x2E then floatAsciiLoop reading fuel (reading.next offset) result factor true
      else if reading.isByte offset 0x65 || reading.isByte offset 0x45 then reading.exponent result factor offset
      else
        floatAsciiLoop reading fuel (reading.next offset) (reading.addDigit result offset)
          (if pastDot then reading.scale factor else factor) pastDot
    else reading.divide result factor

section FloatAsciiLoop

variable {P R F : Type} (reading : FloatAsciiReading P R F) {offset : P}

theorem floatAsciiLoop_stop (outside : reading.before offset = false) (fuel : Nat) (result : R) (factor : F)
    (pastDot : Bool) : floatAsciiLoop reading fuel offset result factor pastDot = reading.divide result factor := by
  cases fuel <;> simp [floatAsciiLoop, outside]

theorem floatAsciiLoop_dot (inside : reading.before offset = true) (dot : reading.isByte offset 0x2E = true)
    (fuel : Nat) (result : R) (factor : F) (pastDot : Bool) :
    floatAsciiLoop reading (fuel + 1) offset result factor pastDot =
      floatAsciiLoop reading fuel (reading.next offset) result factor true := by
  rw [floatAsciiLoop, if_pos inside, if_pos dot]

theorem floatAsciiLoop_exponent (inside : reading.before offset = true) (noDot : reading.isByte offset 0x2E = false)
    (mark : (reading.isByte offset 0x65 || reading.isByte offset 0x45) = true) (fuel : Nat) (result : R) (factor : F)
    (pastDot : Bool) : floatAsciiLoop reading (fuel + 1) offset result factor pastDot = reading.exponent result factor offset := by
  simp only [floatAsciiLoop, inside, noDot, mark, if_true, Bool.false_eq_true, if_false]

theorem floatAsciiLoop_digit (inside : reading.before offset = true) (noDot : reading.isByte offset 0x2E = false)
    (noMark : (reading.isByte offset 0x65 || reading.isByte offset 0x45) = false) (fuel : Nat) (result : R)
    (factor : F) (pastDot : Bool) :
    floatAsciiLoop reading (fuel + 1) offset result factor pastDot =
      floatAsciiLoop reading fuel (reading.next offset) (reading.addDigit result offset)
        (if pastDot then reading.scale factor else factor) pastDot := by
  simp only [floatAsciiLoop, inside, noDot, noMark, if_true, Bool.false_eq_true, if_false]

end FloatAsciiLoop

/-- The loop's positions and numbers as the code has them: doubles. -/
def doubleReading (host : Host) (buffer : Buffer) (stop : Float64) : FloatAsciiReading Float64 Float64 Float64 where
  before offset := offset.lt stop
  next offset := offset + 1
  isByte := byteIs buffer
  addDigit result offset := result * 10 + (byteValue buffer offset - 0x30)
  scale factor := factor * 10
  divide result factor := result / factor
  exponent result factor offset :=
    let exponentValue := stringToNumber (buffer.asciiSlice (offset + 1) stop)
    (result / factor) * host.pow 10 exponentValue

def floatAscii (host : Host) (buffer : Buffer) (offset length : Option Float64) : JSValue :=
  let (offset, length) := defaults buffer offset length
  let stop := offset + length
  if length.equal 0 then .number .nan
  else
    let (offset, factor) := if byteIs buffer offset 0x2D then (offset + 1, (-1 : Float64))
      else (offset, (1 : Float64))
    let offset := if byteIs buffer offset 0x2B then offset + 1 else offset
    .number (floatAsciiLoop (doubleReading host buffer stop) (loopFuel offset stop) offset 0 factor false)

/-- `intAsciiSmall`: an optional sign, then digits accumulated in a double. -/
def intAsciiSmall (buffer : Buffer) (offset length : Option Float64) : JSValue :=
  let (offset, length) := defaults buffer offset length
  let stop := offset + length
  if !(JSValue.number length).toBoolean then .number .nan
  else
    let isNegative := byteIs buffer offset 0x2D
    let offset := if isNegative then offset + 1 else offset
    let offset := if byteIs buffer offset 0x2B then offset + 1 else offset
    let result := digitLoop buffer stop (loopFuel offset stop) offset 0
    .number (if isNegative then -result else result)

/-- `intAscii`: as `intAsciiSmall`, but more than 16 digits, or 16 digits starting with `9`,
give the text `buffer.toString('ascii', offset, length)`, or the number when `parseInt` reads it
back to the same `toFixed()` text. -/
def intAscii (buffer : Buffer) (offset length : Option Float64) : JSValue :=
  let (offset, length) := defaults buffer offset length
  if !(JSValue.number length).toBoolean then .number .nan
  else
    let stop := offset + length
    let isNegative := byteIs buffer offset 0x2D
    let (position, numDigits) := if isNegative then (offset + 1, length - 1) else (offset, length)
    let (position, numDigits) := if byteIs buffer position 0x2B then (position + 1, numDigits - 1)
      else (position, numDigits)
    if (16 : Float64).lt numDigits then .string (buffer.asciiSlice offset length)
    else if numDigits.equal 16 && byteIs buffer position 0x39 then
      let str := buffer.asciiSlice offset length
      let result := parseInt str
      if result.toFixed = str then .number result else .string str
    else
      let result := digitLoop buffer stop (loopFuel position stop) position 0
      .number (if isNegative then -result else result)

/-! ## Dates and times -/

/-- `dateTime`: a binary DATE/DATETIME/TIMESTAMP of 0, 4, 7 or 11 bytes as a `Date`, and the
shared invalid date when every part is zero. -/
def dateTime (buffer : Buffer) (offset length : Option Float64) : Except JSError JSValue := do
  let (offset, length) := defaults buffer offset length
  let mut (y, m, d, H, M, S, ms) : JSValue × JSValue × JSValue × JSValue × JSValue × JSValue × JSValue :=
    (.number 0, .number 0, .number 0, .number 0, .number 0, .number 0, .number 0)
  if (3 : Float64).lt length then
    y ← uint16 buffer (some offset)
    m := uint8 buffer (some (2 + offset))
    d := uint8 buffer (some (3 + offset))
    if (6 : Float64).lt length then
      H := uint8 buffer (some (4 + offset))
      M := uint8 buffer (some (5 + offset))
      S := uint8 buffer (some (6 + offset))
      if (10 : Float64).lt length then
        ms := .number ((← uint32 buffer (some (7 + offset))).toNumber / 1000)
  return if y.toBoolean || m.toBoolean || d.toBoolean || H.toBoolean || M.toBoolean ||
      S.toBoolean || ms.toBoolean then
    Date.construct y.toNumber (m.toNumber - 1) d.toNumber H.toNumber M.toNumber S.toNumber
      ms.toNumber
  else invalidDate

/-- The fraction digits of `dateTimeString`: `microseconds` cut to `decimals` characters when
`decimals` is truthy and shorter. -/
def cutFraction (microseconds : String) (decimals : JSValue) : String :=
  if decimals.toBoolean && decimals.toNumber.lt (.ofNat microseconds.length) then
    microseconds.take decimals.toNumber.truncate.toNat
  else microseconds

/-- `dateTimeString`: the same layout as text.  The day is read from byte 4, not byte 3. -/
def dateTimeString (buffer : Buffer) (offset length : Option Float64) (decimals : JSValue) :
    Except JSError JSValue := do
  let (offset, length) := defaults buffer offset length
  if (3 : Float64).lt length then
    let y ← uint16 buffer (some offset)
    let m := uint8 buffer (some (2 + offset))
    let d := uint8 buffer (some (4 + offset))
    let mut str := (← leftPad 4 y) ++ "-" ++ (← leftPad 2 m) ++ "-" ++ (← leftPad 2 d)
    if (6 : Float64).lt length then
      let H := uint8 buffer (some (4 + offset))
      let M := uint8 buffer (some (5 + offset))
      let S := uint8 buffer (some (6 + offset))
      str := str ++ " " ++ (← leftPad 2 H) ++ ":" ++ (← leftPad 2 M) ++ ":" ++ (← leftPad 2 S)
      if (10 : Float64).lt length then
        let microseconds ← leftPad 6 (← uint32 buffer (some (7 + offset)))
        str := str ++ "." ++ cutFraction microseconds decimals
    return .string str
  return .undefined

/-- The DATETIME `2020-01-02 03:04:05` in binary: the string has the hour `03` as its day. -/
theorem dateTimeString_day_from_hour :
    (dateTimeString ⟨[0xe4, 0x07, 1, 2, 3, 4, 5], by decide⟩ (some 0) (some 7) (.number 0)).toOption =
      some (.string "2020-01-03 03:04:05") := by
  decide

/-- `dateAscii`: a text DATE or DATETIME read field by field with `intAsciiSmall` and given to
the `Date` constructor.  The month is passed as read, not less one. -/
def dateAscii (buffer : Buffer) (offset length : Option Float64) : Except JSError JSValue := do
  let (offset, length) := defaults buffer offset length
  let mut (y, m, d, H, M, S, ms) : Float64 × Float64 × Float64 × Float64 × Float64 × Float64 × Float64 :=
    (0, 0, 0, 0, 0, 0, 0)
  if (9 : Float64).lt length then
    y := (intAsciiSmall buffer (some offset) (some 4)).toNumber
    m := (intAsciiSmall buffer (some (5 + offset)) (some 2)).toNumber
    d := (intAsciiSmall buffer (some (8 + offset)) (some 2)).toNumber
    if (18 : Float64).lt length then
      H := (intAsciiSmall buffer (some (11 + offset)) (some 2)).toNumber
      M := (intAsciiSmall buffer (some (14 + offset)) (some 2)).toNumber
      S := (intAsciiSmall buffer (some (17 + offset)) (some 2)).toNumber
      if (20 : Float64).lt length then
        let microseconds := intAsciiSmall buffer (some (20 + offset)) (some (length - 20))
        ms := stringToNumber (← leftPad 6 microseconds) / 1000
  return Date.construct y m d H M S ms

/-- The DATETIME `2020-01-02 03:04:05.5` as text and as its eleven binary bytes: `dateAscii`
builds `new Date(2020, 1, 2, 3, 4, 5, 0.005)`, the second of February with no milliseconds, since
it passes the month as read and pads the fraction's digits on the left to six; `dateTime` builds
`new Date(2020, 0, 2, 3, 4, 5, 500)`. -/
theorem dateAscii_month_and_fraction :
    (dateAscii ⟨asciiBytes "2020-01-02 03:04:05.5", by decide⟩ (some 0) (some 21)).toOption =
        some (.date (some 1580612645000)) ∧
      (dateTime ⟨[0xe4, 0x07, 1, 2, 3, 4, 5, 0x20, 0xa1, 0x07, 0], by decide⟩ (some 0) (some 11)).toOption =
        some (.date (some 1577934245500)) := by
  decide

/-- The `conversion` argument of `_time`: the global `String` or `Number`. -/
inductive TimeConversion where
  | string
  | number
  deriving DecidableEq, Repr

/-- One element of `[...].join(':')`: `undefined` and `null` are empty. -/
def joinText : JSValue → String
  | .undefined | .null => ""
  | value => value.text

/-- `_time(conversion, buffer, offset, length)`: a binary TIME as `[-]H:MM:SS[.ffffff]` text, the
hours not padded, or as signed milliseconds. -/
def time (conversion : TimeConversion) (buffer : Buffer) (offset length : Option Float64) :
    Except JSError JSValue := do
  let (offset, length) := defaults buffer offset length
  let negative := (JSValue.number length).toBoolean && (uint8 buffer (some offset)).toBoolean
  let sign : Float64 := if negative then -1 else 1
  let mut (d, H, M, S, microseconds) : JSValue × JSValue × JSValue × JSValue × JSValue :=
    (.number 0, .number 0, .number 0, .number 0, .number 0)
  if (7 : Float64).lt length then
    d ← uint32 buffer (some (1 + offset))
    H := uint8 buffer (some (5 + offset))
    M := uint8 buffer (some (6 + offset))
    S := uint8 buffer (some (7 + offset))
    if (11 : Float64).lt length then
      microseconds ← uint32 buffer (some (8 + offset))
  match conversion with
  | .string =>
    let hours := if d.toBoolean then JSValue.number (d.toNumber * 24 + H.toNumber) else H
    let minutes ← leftPad 2 M
    let seconds ← leftPad 2 S
    let fraction ← if microseconds.toBoolean then (("." ++ ·) <$> leftPad 6 microseconds)
      else pure ""
    return .string ((if negative then "-" else "") ++
      ":".intercalate [joinText hours, minutes, seconds] ++ fraction)
  | .number =>
    let hours := H.toNumber + d.toNumber * 24
    let minutes := M.toNumber + hours * 60
    let seconds := S.toNumber + minutes * 60
    let ms := seconds * 1000 + (microseconds.toNumber / 1000).orZero
    return .number (sign * ms)

def timeString (buffer : Buffer) (offset length : Option Float64) : Except JSError JSValue :=
  time .string buffer offset length

/-- The empty TIME payload is `0:00:00`, and five hours, six minutes and seven seconds are
`5:06:07`: the hours are not padded to two digits, as MySQL pads them. -/
theorem timeString_hours_unpadded :
    (timeString ⟨[], by decide⟩ (some 0) (some 0)).toOption = some (.string "0:00:00") ∧
      (timeString ⟨[0, 0, 0, 0, 0, 5, 6, 7], by decide⟩ (some 0) (some 8)).toOption = some (.string "5:06:07") := by
  decide

/-! ## Geometry -/

/-- `for (i = n; i > 0; i--)` around a step that threads a state. -/
def repeatM {σ : Type} (step : σ → Except JSError σ) : Nat → σ → Except JSError σ
  | 0, state => .ok state
  | n + 1, state => step state >>= repeatM step n

/-- A WKB point `{x, y}` at `offset` in the node's byte order. -/
def readPoint (buffer : Buffer) (littleEndian : Bool) (offset : Float64) :
    Except JSError (JSValue × Float64) := do
  let readDouble := if littleEndian then buffer.readDoubleLE else buffer.readDoubleBE
  let x ← readDouble offset
  let y ← readDouble (offset + 8)
  return (.object [("x", .number x), ("y", .number y)], offset + 8 + 8)

/-- A WKB count at `offset` in the node's byte order. -/
def readCount (buffer : Buffer) (littleEndian : Bool) (offset : Float64) :
    Except JSError (Nat × Float64) := do
  let count ← if littleEndian then buffer.readUInt32LE offset else buffer.readUInt32BE offset
  return (count.toNat?.getD 0, offset + 4)

/-- `count` points in a row, each appended to `items`. -/
def readPoints (buffer : Buffer) (littleEndian : Bool) (count : Nat)
    (state : List JSValue × Float64) : Except JSError (List JSValue × Float64) :=
  repeatM (fun (items, offset) => do
      let (point, offset) ← readPoint buffer littleEndian offset
      return (items ++ [point], offset)) count state

/-- `parseGeometry()`: one WKB node from `offset`, its byte order read first; an unknown type is
`null`.  `fuel` bounds the nesting; every node reads five bytes before it recurses. -/
def parseGeometry (buffer : Buffer) : Nat → Float64 → Except JSError (JSValue × Float64)
  | 0, _ => .error (.rangeError "Maximum call stack size exceeded")
  | fuel + 1, offset => do
    let byteOrder ← buffer.readUInt8 offset
    let littleEndian := (JSValue.number byteOrder).toBoolean
    let offset := offset + 1
    let wkbType ← if littleEndian then buffer.readUInt32LE offset else buffer.readUInt32BE offset
    let offset := offset + 4
    if wkbType.equal 1 then readPoint buffer littleEndian offset
    else if wkbType.equal 2 then
      let (numPoints, offset) ← readCount buffer littleEndian offset
      let (line, offset) ← readPoints buffer littleEndian numPoints ([], offset)
      return (.array line, offset)
    else if wkbType.equal 3 then
      let (numRings, offset) ← readCount buffer littleEndian offset
      let (rings, offset) ← repeatM (fun (rings, offset) => do
          let (numPoints, offset) ← readCount buffer littleEndian offset
          let (line, offset) ← readPoints buffer littleEndian numPoints ([], offset)
          return (rings ++ [JSValue.array line], offset)) numRings ([], offset)
      return (.array rings, offset)
    else if wkbType.equal 4 || wkbType.equal 5 || wkbType.equal 6 || wkbType.equal 7 then
      let (num, offset) ← readCount buffer littleEndian offset
      let (items, offset) ← repeatM (fun (items, offset) => do
          let (item, offset) ← parseGeometry buffer fuel offset
          return (items ++ [item], offset)) num ([], offset)
      return (.array items, offset)
    else return (.null, offset)

/-- `geometry(buffer, offset, length)`: `null` below four bytes, else the node after the
four-byte SRID. -/
def geometry (buffer : Buffer) (offset length : Option Float64) : Except JSError JSValue :=
  let (offset, length) := defaults buffer offset length
  if !(JSValue.number length).toBoolean || length.lt 4 then .ok .null
  else (·.1) <$> parseGeometry buffer (buffer.length + 1) (offset + 4)

/-! ## JSON and the rest -/

/-- `JSON.parse(buffer)`: the buffer's UTF-8 text, parsed. -/
def parseBuffer (host : Host) (buffer : Buffer) : Except JSError JSValue :=
  host.jsonParse (host.utf8Text buffer)

/-- `PacketParser.JSON(buffer, offset, length)`: `buffer.slice(offset, length)` when either is
given, then `JSON.parse`. -/
def json (host : Host) (buffer : Buffer) (offset length : Option Float64) :
    Except JSError JSValue :=
  let buffer := if offset.isSome || length.isSome then buffer.slice (offset.getD .nan) length
    else buffer
  parseBuffer host buffer

def alwaysNull : JSValue := .null

end PacketParser

end Mysql2Codec.Parser
