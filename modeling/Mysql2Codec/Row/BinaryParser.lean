import Mysql2Codec.Row.Row

/-! # The binary row parser

`binary_parser.js` of `src/unnamed/part_000`.  A binary row is a status byte, a NULL bitmap of
`⌊(n + 9) / 8⌋` bytes whose first two bits are reserved, and the cells of the non-NULL columns at
their types' widths.  `compile` numbers the columns' bits as the source does, starting at bit
value `4` of byte `0`, doubling, and wrapping from `0x100` to `1` of the next byte.

Each column's assignment is one of four codes: `binaryField(...)` when a cast is set (an
explicit `binaryCast` function, or `binaryCast === true` with a `typeCast` function); else the
decoder on the cell; else the raw cell, when the encoding's code text is `'"binary"'`; else
`PacketParser.decode` of the cell.  The choice between the last two is made on the code text,
at compile time.
-/

namespace Mysql2Codec.Row

open Js Parser

namespace BinaryParser

/-- `readCodeFor` of the binary parser: fixed widths for the numeric types, a length-coded
block for the others, nothing for type NULL. -/
def readCodeFor (field : ColumnDefinition) (fieldNum : Nat) (options : Options) (config : Config) :
    ReadCode :=
  let supportBigNumbers := options.supportBigNumbers || config.supportBigNumbers
  let bigNumberStrings := options.bigNumberStrings || config.bigNumberStrings
  let unsigned := field.unsigned
  let fixed (width : Nat) (d : Decoder) : ReadCode := ⟨.readBuffer width, .literal "binary", .decoder d⟩
  let coded (encoding : String) (defaultCast : CastCode) : ReadCode :=
    ⟨.readLengthCodedBuffer, .literal encoding, defaultCast⟩
  match field.columnType with
  | .tiny => fixed 1 (if unsigned then .uint8 else .int8)
  | .short => fixed 2 (if unsigned then .uint16 else .int16)
  | .long | .int24 => fixed 4 (if unsigned then .uint32 else .int32)
  | .year => fixed 2 .uint16
  | .float => fixed 4 .float32
  | .double => fixed 8 .float64
  | .null => ⟨.null, .literal "binary", .decoder .alwaysNull⟩
  | .date | .datetime | .timestamp | .newdate =>
    coded "binary" (.decoder <|
      if config.dateStrings then
        (if field.decimals = 0 then .dateTimeString else .dateTimeStringOf field.decimals)
      else .dateTime)
  | .time => coded "binary" (.decoder .timeString)
  | .decimal | .newdecimal => coded "ascii" (if config.decimalNumbers then .decoder .floatAscii else .none)
  | .geometry => coded "binary" (.decoder .geometry)
  | .json => coded "utf8" (.decoder .jsonParse)
  | .longlong =>
    fixed 8 <|
      if !supportBigNumbers then (if unsigned then .uint64Number else .int64Number)
      else if bigNumberStrings then (if unsigned then .uint64String else .int64String)
      else if unsigned then .uint64NumberIfPossible else .int64NumberIfPossible
  | .other => ⟨.readLengthCodedBuffer, .fieldEncoding fieldNum, .none⟩

/-- `binaryField(column, encoding, typeCast, defaultCast, fieldBuffer)`. -/
def binaryField (host : Host) (column : ColumnDefinition) (encoding : JSValue)
    (typeCast : TypeCastFunction) (defaultCast : CastCode) (fieldBuffer : JSValue) :
    Except JSError JSValue :=
  (CastField.new host true column encoding defaultCast fieldBuffer).run typeCast

/-- The right-hand side after `isNull ? null :`. -/
inductive RValue where
  /-- `binaryField(fields[i], encoding, cast, defaultCast, isNull ? null : buffer)`. -/
  | binaryField (column : ColumnDefinition) (encoding : EncodingCode) (cast : TypeCastFunction)
      (defaultCast : CastCode) (buffer : BufferCode)
  /-- `defaultCast(buffer)`. -/
  | decoded (d : Decoder) (buffer : BufferCode)
  /-- `buffer`. -/
  | raw (buffer : BufferCode)
  /-- `PacketParser.decode(buffer, encoding)`. -/
  | decode (buffer : BufferCode) (encoding : EncodingCode)

/-- One generated assignment, with the bitmap byte and bit value of its column. -/
structure Assignment where
  slot : Slot
  nullByte : Nat
  nullBit : Nat
  rvalue : RValue

/-- The generated `BinaryRow` function. -/
structure BinaryProgram where
  rowsAsArray : Bool
  columns : Nat
  tables : List String
  nullBitmapLength : Nat
  assignments : List Assignment

/-- The `cast` import: an explicit `binaryCast` function, or with `binaryCast === true` the
`typeCast` function; `options` default to `config` as the source assigns them. -/
def castOf (options : Options) (config : Config) : Option TypeCastFunction :=
  let binaryCast := match options.binaryCast with
    | .absent => config.binaryCast
    | binaryCast => binaryCast
  let typeCast := match options.typeCast, config.typeCast with
    | .function f, _ => some f
    | _, .function f => some f
    | _, _ => none
  match binaryCast, typeCast with
  | .function f, _ => some f
  | .bool true, some f => some f
  | _, _ => none

/-- The right-hand side `compile` writes for a column. -/
def rvalueOf (cast : Option TypeCastFunction) (field : ColumnDefinition) (code : ReadCode) :
    RValue :=
  match cast with
  | some f => .binaryField field code.encoding f code.defaultCast code.buffer
  | none =>
    match code.defaultCast with
    | .decoder d => .decoded d code.buffer
    | .none => if code.encoding = .literal "binary" then .raw code.buffer
      else .decode code.buffer code.encoding

/-- The column loop of `compile`, from column `i` with the running `currentFieldNullBit` and
`nullByteIndex`. -/
def compileColumns (options : Options) (config : Config) (cast : Option TypeCastFunction) :
    Nat → Nat → Nat → List ColumnDefinition → List Assignment
  | _, _, _, [] => []
  | i, currentFieldNullBit, nullByteIndex, field :: rest =>
    let assignment : Assignment :=
      ⟨slotOf options field i, nullByteIndex, currentFieldNullBit,
        rvalueOf cast field (readCodeFor field i options config)⟩
    let doubled := currentFieldNullBit * 2
    if doubled = 0x100 then
      assignment :: compileColumns options config cast (i + 1) 1 (nullByteIndex + 1) rest
    else assignment :: compileColumns options config cast (i + 1) doubled nullByteIndex rest

/-- `compile(fields, options, config)`. -/
def compile (fields : List ColumnDefinition) (options : Options) (config : Config) :
    BinaryProgram :=
  { rowsAsArray := options.rowsAsArray
    columns := fields.length
    tables := if options.nestTables = .tables then resultTables fields else []
    nullBitmapLength := (fields.length + 7 + 2) / 8
    assignments := compileColumns options config (castOf options config) 0 4 0 fields }

/-- `nullBitmaskByte{k} & bit` as a condition. -/
def isNull (bitmap : List JSValue) (nullByte nullBit : Nat) : Bool :=
  (JSValue.number (((bitmap.getD nullByte .undefined).toNumber).and (.ofNat nullBit))).toBoolean

/-- The value of a right-hand side, for a column whose bit says `isNull`. -/
def RValue.eval (host : Host) (fields : List ColumnDefinition) (isNull : Bool) :
    RValue → PacketM JSValue
  | .binaryField column encoding cast defaultCast buffer => do
    let encoding := encoding.eval fields
    let fieldBuffer ← if isNull then pure .null else buffer.read
    BinaryParser.binaryField host column encoding cast defaultCast fieldBuffer
  | .decoded d buffer =>
    if isNull then pure .null else do d.call host (bufferOf? (← buffer.read)) none none
  | .raw buffer => if isNull then pure .null else buffer.read
  | .decode buffer encoding =>
    if isNull then pure .null else do .string <$> host.decode (← buffer.read) (encoding.eval fields)

/-- `count` reads of `packet.readInt8()`. -/
def readBitmap : Nat → PacketM (List JSValue)
  | 0 => pure []
  | count + 1 => do
    let byte ← Packet.readInt8
    return byte :: (← readBitmap count)

/-- The column assignments, one after the other. -/
def runAssignments (host : Host) (fields : List ColumnDefinition) (bitmap : List JSValue) :
    List Assignment → RowState → PacketM RowState
  | [], state => pure state
  | assignment :: rest, state => do
    let value ← assignment.rvalue.eval host fields (isNull bitmap assignment.nullByte assignment.nullBit)
    let state ← state.assign value assignment.slot
    runAssignments host fields bitmap rest state

/-- A call of the generated function: the status byte, the bitmap, the columns. -/
def BinaryProgram.run (host : Host) (program : BinaryProgram) (fields : List ColumnDefinition) :
    PacketM JSValue := do
  let _ ← Packet.readInt8
  let bitmap ← readBitmap program.nullBitmapLength
  let state ← runAssignments host fields bitmap program.assignments
    (.initial program.rowsAsArray program.columns program.tables)
  return state.row program.rowsAsArray

end BinaryParser

end Mysql2Codec.Row
