import Mysql2Codec.Packet.Packet

/-! # Row parsers: the shared parts

The text and binary row parsers (`lib/parsers/text_parser.js` and `binary_parser.js`) generate
JavaScript from the column definitions and the options, then run it on each row packet.  The
model keeps that two-level structure: `compile` builds a `RowProgram`, the code that
`generate-function` would hold, and `RowProgram.run` executes it.  This module holds what both
parsers share:

* the column definition, the options and the config, as far as the parsers read them;
* the code texts `readCodeFor` returns (`BufferCode`, `EncodingCode`, `CastCode`), with the
  decoders they name (`Decoder.call`);
* `CastField`, the adapter of `lib/parsers/cast_field.js` between a cell and a `typeCast`
  callback;
* the left-hand sides of the generated assignments (`Slot`) and the row they build
  (`RowState`): the generated function is called with `new`, so it stores into a fresh object
  `this` that inherits the `__proto__` accessor, and returns `this`, or `result` under
  `rowsAsArray`, whatever `nestTables` says;
* `outcome` and `Agree`, which compare two runs by the row they return and the cursor.

The column's `flags & FieldFlags.UNSIGNED` is kept as the Boolean `unsigned`; the type codes of
`constants/types.js` are the constructors of `ColumnType`, `other` standing for every type the
`switch`es send to `default`.  The parser cache of `parser_cache.js`, the `debug` printing of
the generated code and the comment lines it holds are left out.
-/

namespace Mysql2Codec.Row

open Js Parser

/-- The column types the `switch`es of `readCodeFor` name; `other` is every other type. -/
inductive ColumnType where
  | decimal | tiny | short | long | float | double | null | timestamp | longlong | int24
  | date | time | datetime | year | newdate | json | newdecimal | geometry | other
  deriving DecidableEq, Repr

/-- A `ColumnDefinition`, as the row parsers read it. -/
structure ColumnDefinition where
  name : String
  table : String
  columnType : ColumnType
  /-- `flags & FieldFlags.UNSIGNED`. -/
  unsigned : Bool
  decimals : Nat
  /-- The runtime `encoding` of the column: a charset name, or `undefined`. -/
  encoding : JSValue

/-- `nestTables`: absent (or any value neither `true` nor a string), `true`, or a separator. -/
inductive NestTables where
  | absent
  | tables
  | separator (separator : String)
  deriving DecidableEq, Repr

/-! ## Code texts of `readCodeFor` -/

/-- The `PacketParser` functions (and `JSON.parse`) a `defaultCast` text names. -/
inductive Decoder where
  | int8 | uint8 | int16 | uint16 | int32 | uint32 | float32 | float64 | alwaysNull
  | dateTime | dateTimeString
  /-- `function(_) { return PacketParser.dateTimeString(_, 0, decimals) }`. -/
  | dateTimeStringOf (decimals : Nat)
  | timeString | floatAscii | geometry | jsonParse | json
  | uint64Number | int64Number | uint64String | int64String
  | uint64NumberIfPossible | int64NumberIfPossible
  | intAsciiSmall | intAscii | dateAscii
  deriving DecidableEq, Repr

/-- The `defaultCast` text: `'null'` or a decoder. -/
inductive CastCode where
  | none
  | decoder (d : Decoder)
  deriving DecidableEq, Repr

/-- The `encoding` text: a quoted charset such as `'"binary"'`, or `fields[i].encoding`. -/
inductive EncodingCode where
  | literal (name : String)
  | fieldEncoding (i : Nat)
  deriving DecidableEq, Repr

/-- The `buffer` text: `packet.readBuffer(n)`, `packet.readLengthCodedBuffer()` or `null`. -/
inductive BufferCode where
  | readBuffer (n : Nat)
  | readLengthCodedBuffer
  | null
  deriving DecidableEq, Repr

/-- What `readCodeFor` returns. -/
structure ReadCode where
  buffer : BufferCode
  encoding : EncodingCode
  defaultCast : CastCode
  deriving DecidableEq, Repr

/-- The value of an encoding text in the generated code. -/
def EncodingCode.eval (fields : List ColumnDefinition) : EncodingCode → JSValue
  | .literal name => .string name
  | .fieldEncoding i => ((fields[i]?).map (·.encoding)).getD .undefined

/-- `encoding === 'binary' || encoding === null || encoding === undefined` at run time. -/
def isBinaryEncoding : JSValue → Bool
  | .string s => s = "binary"
  | .null | .undefined => true
  | _ => false

/-- The property a decoder reads first from a `null` buffer, when called as `decoder(null)`. -/
def Decoder.nullProperty : Decoder → String
  | .int8 => "readInt8" | .uint8 => "0" | .int16 => "readInt16LE" | .uint16 => "readUInt16LE"
  | .int32 => "readInt32LE" | .uint32 => "readUInt32LE" | .float32 => "readFloatLE"
  | .float64 => "readDoubleLE"
  | .uint64Number | .int64Number | .uint64String | .int64String | .uint64NumberIfPossible
  | .int64NumberIfPossible => "readInt32LE"
  | _ => "length"

/-- A call of the decoder on a buffer (`none` is `null`) with an optional offset and length. -/
def Decoder.call (host : Host) (d : Decoder) (buffer : Option Buffer)
    (offset length : Option Float64) : Except JSError JSValue :=
  match d, buffer with
  | .alwaysNull, _ => .ok PacketParser.alwaysNull
  | .jsonParse, none => host.jsonParse "null"
  | .dateTimeStringOf decimals, none =>
    if 3 < decimals then .error (propertyOfNothing "null" "readUInt16LE") else .ok .undefined
  | d, none => .error (propertyOfNothing "null" d.nullProperty)
  | .int8, some b => PacketParser.int8 b offset
  | .uint8, some b => .ok (PacketParser.uint8 b offset)
  | .int16, some b => PacketParser.int16 b offset
  | .uint16, some b => PacketParser.uint16 b offset
  | .int32, some b => PacketParser.int32 b offset
  | .uint32, some b => PacketParser.uint32 b offset
  | .float32, some b => PacketParser.float32 b offset
  | .float64, some b => PacketParser.float64 b offset
  | .dateTime, some b => PacketParser.dateTime b offset length
  | .dateTimeString, some b => PacketParser.dateTimeString b offset length .undefined
  | .dateTimeStringOf decimals, some b =>
    PacketParser.dateTimeString b (some 0) (some (.ofNat decimals)) .undefined
  | .timeString, some b => PacketParser.timeString b offset length
  | .floatAscii, some b => .ok (PacketParser.floatAscii host b offset length)
  | .geometry, some b => PacketParser.geometry b offset length
  | .jsonParse, some b => PacketParser.parseBuffer host b
  | .json, some b => PacketParser.json host b offset length
  | .uint64Number, some b => PacketParser.uint64Number b offset
  | .int64Number, some b => PacketParser.int64Number b offset
  | .uint64String, some b => PacketParser.uint64String b offset
  | .int64String, some b => PacketParser.int64String b offset
  | .uint64NumberIfPossible, some b => PacketParser.uint64NumberIfPossible b offset
  | .int64NumberIfPossible, some b => PacketParser.int64NumberIfPossible b offset
  | .intAsciiSmall, some b => .ok (PacketParser.intAsciiSmall b offset length)
  | .intAscii, some b => .ok (PacketParser.intAscii b offset length)
  | .dateAscii, some b => PacketParser.dateAscii b offset length

/-- The value of a buffer text: the bytes it reads from the packet, or `null`. -/
def BufferCode.read : BufferCode → PacketM JSValue
  | .readBuffer n => Packet.readBuffer (some (.number (.ofNat n)))
  | .readLengthCodedBuffer => Packet.readLengthCodedBuffer
  | .null => pure .null

/-- A cell value as the buffer argument of a decoder: a `Buffer`, or `null`. -/
def bufferOf? : JSValue → Option Buffer
  | .buffer b => some b
  | _ => none

/-! ## `CastField` -/

/-- `new CastField(isBinary, column, encoding, defaultCast, fieldBuffer)`: a missing buffer
reads as `null`; otherwise the default read is the decoder on the buffer, the buffer itself for a
binary encoding, or its decoded text. -/
structure CastField where
  isBinary : Bool
  column : ColumnDefinition
  fieldBuffer : Buffer
  forceEncoding : JSValue
  /-- What `this.defaultRead()` returns. -/
  defaultRead : Except JSError JSValue

namespace CastField

def new (host : Host) (isBinary : Bool) (column : ColumnDefinition) (encoding : JSValue)
    (defaultCast : CastCode) (fieldBuffer : JSValue) : CastField :=
  match fieldBuffer, defaultCast with
  | .buffer b, .decoder d => ⟨isBinary, column, b, encoding, d.call host (some b) none none⟩
  | .buffer b, .none =>
    ⟨isBinary, column, b, encoding,
      if isBinaryEncoding encoding then .ok (.buffer b) else .string <$> host.decode (.buffer b) encoding⟩
  | _, _ => ⟨isBinary, column, .empty, .null, .ok PacketParser.alwaysNull⟩

end CastField

/-- A `typeCast` callback `(field, next) => value`; `next()` is the field's default read. -/
def TypeCastFunction := CastField → (Unit → Except JSError JSValue) → Except JSError JSValue

/-- `typeCast` and `binaryCast`: absent, a Boolean, or a function.  Any other value behaves as
`true` does in both parsers. -/
inductive TypeCast where
  | absent
  | bool (b : Bool)
  | function (f : TypeCastFunction)

/-- The query options the parsers read; a missing flag is `false`. -/
structure Options where
  supportBigNumbers : Bool := false
  bigNumberStrings : Bool := false
  rowsAsArray : Bool := false
  nestTables : NestTables := .absent
  typeCast : TypeCast := .absent
  binaryCast : TypeCast := .absent

/-- The connection config the parsers read. -/
structure Config where
  supportBigNumbers : Bool := false
  bigNumberStrings : Bool := false
  dateStrings : Bool := false
  decimalNumbers : Bool := false
  typeCast : TypeCast := .absent
  binaryCast : TypeCast := .absent

/-- `castField.run(typeCast)`: `typeCast(this, this.defaultRead)`. -/
def CastField.run (field : CastField) (typeCast : TypeCastFunction) : Except JSError JSValue :=
  typeCast field fun () => field.defaultRead

/-- The callback `(field, next) => next()`. -/
def passThrough : TypeCastFunction := fun _ next => next ()

/-! ## Slots and rows -/

/-- The left-hand side of a generated assignment. -/
inductive Slot where
  /-- `result[i]`. -/
  | index (i : Nat)
  /-- `this[key]`. -/
  | key (key : String)
  /-- `this[table][name]`. -/
  | nested (table name : String)
  deriving DecidableEq, Repr

/-- The slot of a column, as both `compile`s choose it. -/
def slotOf (options : Options) (field : ColumnDefinition) (i : Nat) : Slot :=
  match options.nestTables with
  | .separator separator => .key (field.table ++ separator ++ field.name)
  | .tables => .nested field.table field.name
  | .absent => if options.rowsAsArray then .index i else .key field.name

/-- The distinct tables of the columns, in order of first appearance: the objects
`this[table] = {}` that `nestTables === true` creates. -/
def resultTables (fields : List ColumnDefinition) : List String :=
  fields.foldl (fun tables field => if field.table ∈ tables then tables else tables ++ [field.table]) []

/-- The row under construction: the own properties of `this` in insertion order, the prototype
of `this`, and `result` when `rowsAsArray`.  `this` is the object `new` makes for the generated
function; its prototype, the function's `prototype` object, holds no property the function
reads and stands here as `{}` until a store to `__proto__` replaces it. -/
structure RowState where
  this : List (String × JSValue)
  proto : JSValue
  result : List JSValue

namespace RowState

/-- `this[key]`: an own property, else the prototype through the `__proto__` accessor `this`
inherits from `Object.prototype` while its prototype is not `null`.  The function reads
`this[table]` only after setting it, so no other inherited property is read. -/
def get (state : RowState) (key : String) : JSValue :=
  match state.this.find? (·.1 == key) with
  | some field => field.2
  | none => if key = "__proto__" ∧ state.proto ≠ .null then state.proto else .undefined

/-- `this[key] = value`: with no own `__proto__` and the accessor inherited, a store to
`__proto__` runs its setter, which takes an object or `null` as the new prototype and ignores any
other value; every other store sets an own data property. -/
def set (state : RowState) (key : String) (value : JSValue) : RowState :=
  if key = "__proto__" ∧ (state.this.find? (·.1 == key)).isNone ∧ state.proto ≠ .null then
    if value.isObject || value.isNull then { state with proto := value } else state
  else { state with this := setOwnProperty state.this key value }

/-- The state at the start of the generated function: `result` is `new Array(columns)` under
`rowsAsArray`, whose `columns` holes read as `undefined`; then `this[table] = {}` for each table. -/
def initial (rowsAsArray : Bool) (columns : Nat) (tables : List String) : RowState :=
  tables.foldl (fun state table => state.set table (.object []))
    ⟨[], .object [], if rowsAsArray then List.replicate columns .undefined else []⟩

/-- `lvalue = value`.  The function sets every table to `{}` before it stores into it; a store
into `undefined` or `null` throws, and one into a primitive is ignored, the generated code not
being strict. -/
def assign (state : RowState) (value : JSValue) : Slot → Except JSError RowState
  | .index i => .ok { state with result := state.result.set i value }
  | .key key => .ok (state.set key value)
  | .nested table name =>
    match state.get table with
    | .object fields => .ok (state.set table (.object (setProperty fields name value)))
    | .undefined | .null =>
      .error (.typeError ("Cannot set properties of " ++ (state.get table).text ++ " (setting '" ++ name ++ "')"))
    | _ => .ok state

/-- What the generated function returns: `result` when `rowsAsArray`, else `this`, given by its
own properties. -/
def row (state : RowState) (rowsAsArray : Bool) : JSValue :=
  if rowsAsArray then .array state.result else .object state.this

end RowState

/-! ## Comparing runs -/

/-- The row a run returns and where it leaves the cursor, `none` when it throws. -/
def outcome (run : Except JSError (JSValue × Packet)) : Option (JSValue × Float64) :=
  run.toOption.map fun (row, p) => (row, p.offset)

/-- Two runs of row parsers on a packet agree: both throw, or both return equal rows and leave
the cursor at the same place. -/
def Agree (run run' : Except JSError (JSValue × Packet)) : Prop := outcome run = outcome run'

instance (run run' : Except JSError (JSValue × Packet)) : Decidable (Agree run run') :=
  inferInstanceAs (Decidable (outcome run = outcome run'))

end Mysql2Codec.Row
