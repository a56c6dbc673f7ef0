import Mysql2Codec.Row.Row

/-! # The text row parser

`lib/parsers/text_parser.js`.  A text row is one length-coded cell per column.  `compile`
chooses, per column, the code of its assignment:

* `typeCast === false`: the raw cell, `packet.readLengthCodedBuffer()`;
* `typeCast` a function: `castField(...)`, which gives the callback a `CastField` over a copy of
  the cell;
* otherwise `textField(...)`, the fast path: the decoder runs on the packet's buffer at the cell's
  offset, and the text of a column without a decoder is decoded in place.

`TextProgram.run` executes the generated function on a packet.
-/

namespace Mysql2Codec.Row

open Js Parser

namespace TextParser

/-- `readCodeFor` of the text parser: every cell is `packet.readLengthCodedBuffer()`; the
encoding and the decoder follow the column type. -/
def readCodeFor (field : ColumnDefinition) (fieldNum : Nat) (options : Options) (config : Config) :
    ReadCode :=
  let code (encoding : String) (defaultCast : CastCode) : ReadCode :=
    ⟨.readLengthCodedBuffer, .literal encoding, defaultCast⟩
  match field.columnType with
  | .tiny | .short | .long | .int24 | .year => code "ascii" (.decoder .intAsciiSmall)
  | .longlong =>
    if options.supportBigNumbers || config.supportBigNumbers then
      if options.bigNumberStrings || config.bigNumberStrings then code "ascii" .none
      else code "ascii" (.decoder .intAscii)
    else code "ascii" (.decoder .intAsciiSmall)
  | .float | .double => code "ascii" (.decoder .floatAscii)
  | .null => code "binary" (.decoder .alwaysNull)
  | .date | .newdate | .datetime | .timestamp =>
    code "ascii" (if config.dateStrings then .none else .decoder .dateAscii)
  | .time => code "ascii" .none
  | .decimal | .newdecimal => code "ascii" (if config.decimalNumbers then .decoder .floatAscii else .none)
  | .geometry => code "binary" (.decoder .geometry)
  | .json => code "utf8" (.decoder .json)
  | .other => ⟨.readLengthCodedBuffer, .fieldEncoding fieldNum, .none⟩

/-- `castField(column, encoding, typeCast, defaultCast, fieldBuffer)`. -/
def castField (host : Host) (column : ColumnDefinition) (encoding : JSValue)
    (typeCast : TypeCastFunction) (defaultCast : CastCode) (fieldBuffer : JSValue) :
    Except JSError JSValue :=
  (CastField.new host false column encoding defaultCast fieldBuffer).run typeCast

/-- `textField(encoding, defaultCast, packet)`, the "accelerated version of `castField()`": the
decoder gets `(packet.buffer, packet.offset, length)` and the cursor moves past the cell after
it returns; without a decoder the cell is read and, unless its encoding is binary, decoded. -/
def textField (host : Host) (encoding : JSValue) (defaultCast : CastCode) : PacketM JSValue := do
  let length ← Packet.readLengthCodedNumber false false
  if length.isNull then return .null
  match defaultCast with
  | .decoder d =>
    let p ← get
    let value ← d.call host (some p.buffer) (some p.offset) (some length.toNumber)
    set { p with offset := Packet.addLength p.offset length }
    return value
  | .none =>
    let buffer ← Packet.readBuffer (some length)
    if isBinaryEncoding encoding then return buffer
    return .string (← host.decode buffer encoding)

/-- The right-hand side of a generated assignment. -/
inductive RValue where
  /-- `packet.readLengthCodedBuffer()`. -/
  | readLengthCodedBuffer
  /-- `castField(fields[i], encoding, cast, defaultCast, buffer)`. -/
  | castField (column : ColumnDefinition) (encoding : EncodingCode) (cast : TypeCastFunction)
      (defaultCast : CastCode) (buffer : BufferCode)
  /-- `textField(encoding, defaultCast, packet)`. -/
  | textField (encoding : EncodingCode) (defaultCast : CastCode)

/-- The generated `TextRow` function. -/
structure TextProgram where
  rowsAsArray : Bool
  columns : Nat
  /-- The tables `this[table] = {}` creates. -/
  tables : List String
  assignments : List (Slot × RValue)

/-- `options.typeCast`, defaulting to `config.typeCast`. -/
def effectiveTypeCast (options : Options) (config : Config) : TypeCast :=
  match options.typeCast with
  | .absent => config.typeCast
  | typeCast => typeCast

/-- The right-hand side `compile` writes for a column. -/
def rvalueOf (cast : TypeCast) (field : ColumnDefinition) (i : Nat) (options : Options)
    (config : Config) : RValue :=
  let code := readCodeFor field i options config
  match cast with
  | .bool false => .readLengthCodedBuffer
  | .function f => .castField field code.encoding f code.defaultCast code.buffer
  | _ => .textField code.encoding code.defaultCast

/-- `compile(fields, options, config)`. -/
def compile (fields : List ColumnDefinition) (options : Options) (config : Config) : TextProgram :=
  let cast := effectiveTypeCast options config
  { rowsAsArray := options.rowsAsArray
    columns := fields.length
    tables := if options.nestTables = .tables then resultTables fields else []
    assignments := fields.enum.map fun (i, field) =>
      (slotOf options field i, rvalueOf cast field i options config) }

/-- The value of a right-hand side. -/
def RValue.eval (host : Host) (fields : List ColumnDefinition) : RValue → PacketM JSValue
  | .readLengthCodedBuffer => Packet.readLengthCodedBuffer
  | .castField column encoding cast defaultCast buffer => do
    let fieldBuffer ← buffer.read
    TextParser.castField host column (encoding.eval fields) cast defaultCast fieldBuffer
  | .textField encoding defaultCast => TextParser.textField host (encoding.eval fields) defaultCast

/-- The assignments, one after the other. -/
def runAssignments (host : Host) (fields : List ColumnDefinition) :
    List (Slot × RValue) → RowState → PacketM RowState
  | [], state => pure state
  | (slot, rvalue) :: rest, state => do
    let value ← rvalue.eval host fields
    let state ← state.assign value slot
    runAssignments host fields rest state

/-- A call of the generated function on a packet: the row it returns. -/
def TextProgram.run (host : Host) (program : TextProgram) (fields : List ColumnDefinition) :
    PacketM JSValue := do
  let state ← runAssignments host fields program.assignments
    (.initial program.rowsAsArray program.columns program.tables)
  return state.row program.rowsAsArray

end TextParser

end Mysql2Codec.Row
