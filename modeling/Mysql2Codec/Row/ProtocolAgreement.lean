import Mysql2Codec.Row.TextRows
import Mysql2Codec.Row.BinaryRows
import Mysql2Codec.Parser.AsciiNumbers

/-! # Text and binary rows of one value

The two protocols carry a value in different encodings, and each parser has its own decoder
per type.  For DATE and the other date types they disagree: `dateAscii` passes the month of the
text to `new Date` as it is, while `dateTime`, the binary decoder, passes `m - 1`, so the text
row's date is one month later.

For the integer types they agree.  A TINY, SHORT, LONG, INT24 or YEAR value travels as its
decimal numeral in a text row, which `intAsciiSmall` reads, and as its bytes at the column's
width in a binary row, which `readInt8` to `readUInt32LE` read; `textValue_integer` and
`binaryValue_integer` show both give `ofInt v`, and `integer_rows_agree` lifts that over every
row of such columns, NULLs included, under every option that sets no cast: both parsers return
the same row, and it holds the values.
-/

namespace Mysql2Codec.Row

open Js Float64 Packet Parser

/-- The DATE `2020-01-02` as a text row and as a binary row: the text parser builds
`new Date(2020, 1, 2)`, the second of February, the binary parser `new Date(2020, 0, 2)`. -/
theorem date_rows_differ_by_a_month :
    let column : ColumnDefinition := ⟨"d", "t", .date, false, 0, .string "ascii"⟩
    let text := Packet.new ⟨[0, 0, 0, 0, 10] ++ asciiBytes "2020-01-02", by decide⟩ 0 15
    let binary := Packet.new ⟨[0, 0, 0, 0, 0, 0, 4, 0xE4, 0x07, 1, 2], by decide⟩ 0 11
    (outcome (((TextParser.compile [column] {} {}).run latin1Host [column]).run text)).map Prod.fst =
        some (.object [("d", .date (some 1580601600000))]) ∧
      (outcome (((BinaryParser.compile [column] {} {}).run latin1Host [column]).run binary)).map
        Prod.fst = some (.object [("d", .date (some 1577923200000))]) := by
  decide

/-! ## Integer columns -/

/-- The width in bytes and the signedness of an integer column's binary cell: TINY, SHORT, LONG
and INT24 by their `UNSIGNED` flag, YEAR always unsigned; `none` for the other types. -/
def integerLayout (field : ColumnDefinition) : Option (Nat × Bool) :=
  match field.columnType with
  | .tiny => some (1, !field.unsigned)
  | .short => some (2, !field.unsigned)
  | .long | .int24 => some (4, !field.unsigned)
  | .year => some (2, false)
  | _ => none

/-- The integers a binary cell of `width` bytes holds, as two's complement or unsigned. -/
def Fits (width : Nat) (signed : Bool) (v : Int) : Prop :=
  if signed then -2 ^ (8 * width - 1) ≤ v ∧ v < 2 ^ (8 * width - 1) else 0 ≤ v ∧ v < 2 ^ (8 * width)

/-- The bytes of `v` at `width`, least significant first. -/
def integerBytes (width : Nat) (v : Int) : List UInt8 := leBytes width (v % 2 ^ (8 * width)).toNat

theorem readFixed_cell {b : Buffer} {w : Nat} {decode : List UInt8 → Float64} (width : b.length = w) :
    b.readFixed (offsetOrZero ((none : Option Float64).getD 0)) w decode = .ok (decode b.bytes) := by
  have zero : offsetOrZero ((none : Option Float64).getD 0) = ofNat 0 := rfl
  rw [zero, Buffer.readFixed_ofNat (by omega), List.drop_zero, List.take_of_length_le (by rw [← width]; rfl)]

theorem littleEndian_integerBytes_signed {w : Nat} (wide : w = 1 ∨ w = 2 ∨ w = 4) {v : Int} (fits : Fits w true v) :
    toSigned (8 * w) (littleEndian (integerBytes w v)) = v := by
  simp only [Fits, if_true] at fits
  have small : (v % 2 ^ (8 * w)).toNat < 256 ^ w := by
    rcases wide with rfl | rfl | rfl <;> norm_num at fits ⊢ <;> omega
  rw [integerBytes, littleEndian_leBytes_of_lt small, toSigned]
  rcases wide with rfl | rfl | rfl <;> norm_num at fits ⊢ <;> split <;> omega

theorem littleEndian_integerBytes_unsigned {w : Nat} {v : Int} (fits : Fits w false v) :
    (littleEndian (integerBytes w v) : Int) = v := by
  simp only [Fits, Bool.false_eq_true, if_false] at fits
  have within : v % 2 ^ (8 * w) = v := Int.emod_eq_of_lt fits.1 fits.2
  have small : (v % 2 ^ (8 * w)).toNat < 256 ^ w := by
    rw [within, show (256 : Nat) ^ w = 2 ^ (8 * w) by rw [Nat.pow_mul]]
    have bound := fits.2
    rw [show (2 : Int) ^ (8 * w) = ((2 ^ (8 * w) : Nat) : Int) by push_cast; rfl] at bound
    omega
  rw [integerBytes, littleEndian_leBytes_of_lt small, within, Int.toNat_of_nonneg fits.1]

theorem ofInt_of_unsigned {w : Nat} {v : Int} (fits : Fits w false v) :
    ofInt v = ofNat (littleEndian (integerBytes w v)) := by
  rw [← ofInt_natCast, littleEndian_integerBytes_unsigned fits]

/-- The binary code of an integer column reads its cell as the integer the cell holds. -/
theorem binaryValue_integer (host : Host) (fields : List ColumnDefinition) (field : ColumnDefinition) (i : Nat)
    (options : Options) (config : Config) {w : Nat} {signed : Bool} (layout : integerLayout field = some (w, signed))
    {v : Int} (fits : Fits w signed v) {b : Buffer} (bytes : b.bytes = integerBytes w v) :
    BinaryParser.binaryValue host fields (BinaryParser.readCodeFor field i options config) (some b) =
      .ok (.number (ofInt v)) := by
  have width : b.length = w := by rw [Buffer.length, bytes, integerBytes, length_leBytes]
  obtain ⟨name, table, columnType, unsigned, decimals, encoding⟩ := field
  cases columnType <;> simp only [integerLayout, reduceCtorEq, Option.some.injEq, Prod.mk.injEq] at layout <;>
    obtain ⟨rfl, rfl⟩ := layout <;> cases unsigned <;>
    simp only [BinaryParser.readCodeFor, BinaryParser.binaryValue, BinaryParser.cellRead, bufferOf?, Decoder.call,
      Bool.not_false, Bool.not_true, if_true, if_false, Bool.false_eq_true, PacketParser.int8, PacketParser.int16,
      PacketParser.int32, PacketParser.uint16, PacketParser.uint32, Buffer.readInt8, Buffer.readInt16LE, Buffer.readInt32LE,
      Buffer.readUInt16LE, Buffer.readUInt32LE, readFixed_cell width, Except.map_ok, bytes]
  all_goals try simp only [Bool.not_false, Bool.not_true] at fits
  all_goals first
    | rw [littleEndian_integerBytes_signed (by decide) fits]
    | rw [ofInt_of_unsigned fits]
  case tiny.intro.true =>
    rw [PacketParser.uint8, show offsetOrZero ((none : Option Float64).getD 0) = ofNat 0 from rfl,
      Buffer.index_ofNat b (by norm_num), bytes]
    simp [integerBytes, leBytes, JSValue.ofByte?]

theorem natAbs_le_of_fits {w : Nat} {signed : Bool} (wide : w ≤ 4) {v : Int} (fits : Fits w signed v) :
    v.natAbs ≤ 2 ^ 53 := by
  have power : (2 : Int) ^ (8 * w) ≤ 2 ^ 32 := pow_le_pow_right₀ (by norm_num) (by omega)
  have half : (2 : Int) ^ (8 * w - 1) ≤ 2 ^ (8 * w) := pow_le_pow_right₀ (by norm_num) (by omega)
  unfold Fits at fits
  split at fits <;> omega

theorem layout_le {field : ColumnDefinition} {w : Nat} {signed : Bool} (layout : integerLayout field = some (w, signed)) :
    w ≤ 4 := by
  unfold integerLayout at layout
  split at layout <;> simp only [reduceCtorEq, Option.some.injEq, Prod.mk.injEq] at layout <;> omega

/-- The text code of an integer column reads its numeral as the integer it denotes. -/
theorem textValue_integer (host : Host) (buffer : Buffer) (fields : List ColumnDefinition) (field : ColumnDefinition)
    (i : Nat) (options : Options) (config : Config) {w : Nat} {signed : Bool}
    (layout : integerLayout field = some (w, signed)) {v : Int} (fits : Fits w signed v) {o : Nat} {t : Buffer}
    (bytes : t.bytes = asciiBytes (IntNumeral.ofInt v).text) (holds : buffer.Holds o (TextParser.textCell (some t))) :
    TextParser.textValue host buffer ((TextParser.readCodeFor field i options config).encoding.eval fields)
      (TextParser.readCodeFor field i options config).defaultCast o (some t) = .ok (.number (ofInt v)) := by
  have code : TextParser.readCodeFor field i options config = ⟨.readLengthCodedBuffer, .literal "ascii", .decoder .intAsciiSmall⟩ := by
    obtain ⟨name, table, columnType, unsigned, decimals, encoding⟩ := field
    cases columnType <;> simp only [integerLayout, reduceCtorEq] at layout <;> rfl
  have cell : buffer.Holds (o + (lengthCodedBytes t.length).length) (asciiBytes (IntNumeral.ofInt v).text) :=
    bytes ▸ Buffer.Holds.right holds
  have length : t.length = (IntNumeral.ofInt v).text.length := by
    rw [Buffer.length, bytes, asciiBytes, List.length_map]
    rfl
  rw [length] at cell
  rw [code]
  simp only [TextParser.textValue, Decoder.call, length]
  rw [intAsciiSmall_numeral _ cell (by rw [natAbs_ofInt]; exact natAbs_le_of_fits (layout_le layout) fits), round_ofInt]

/-- One integer column's cell in the two protocols: its value, `none` for NULL, and the cell each
protocol carries. -/
structure IntegerCell where
  value : Option Int
  text : Option Buffer
  binary : Option Buffer

namespace IntegerCell

/-- The cells carry the value for the column: both NULL for NULL; otherwise the value is within
the column's binary range, the text cell is its decimal numeral and the binary cell its bytes at
the column's width. -/
inductive Encodes (field : ColumnDefinition) : IntegerCell → Prop
  | null : Encodes field ⟨none, none, none⟩
  | value {w : Nat} {signed : Bool} {v : Int} {text binary : Buffer} : integerLayout field = some (w, signed) →
      Fits w signed v → text.bytes = asciiBytes (IntNumeral.ofInt v).text → binary.bytes = integerBytes w v →
      Encodes field ⟨some v, some text, some binary⟩

/-- What a row is to hold for the cell: its value as a number, or `null`. -/
def result (cell : IntegerCell) : JSValue := (cell.value.map fun v => .number (ofInt v)).getD .null

theorem isNone_binary {field : ColumnDefinition} {cell : IntegerCell} (encodes : Encodes field cell) :
    cell.binary.isNone = cell.value.isNone := by
  cases encodes <;> rfl

end IntegerCell

/-- The text codes of integer columns read the numerals laid one after the other as the cells'
values. -/
theorem textValues_integers (host : Host) (buffer : Buffer) (fields : List ColumnDefinition) (options : Options)
    (config : Config) :
    ∀ (i o : Nat) {columns : List ColumnDefinition} {cells : List IntegerCell},
      List.Forall₂ IntegerCell.Encodes columns cells →
      buffer.Holds o ((cells.map IntegerCell.text).map TextParser.textCell).flatten →
      TextParser.textValues host buffer fields o ((columns.enumFrom i).map fun (j, field) =>
          ((TextParser.readCodeFor field j options config).encoding, (TextParser.readCodeFor field j options config).defaultCast))
          (cells.map IntegerCell.text) = (cells.map IntegerCell.result).map .ok
  | _, _, [], [], .nil, _ => rfl
  | i, o, field :: _, _ :: _, .cons encodes rest, holds => by
    rw [List.map_cons, List.map_cons, List.flatten_cons] at holds
    rw [List.enumFrom_cons, List.map_cons, List.map_cons, TextParser.textValues,
      textValues_integers host buffer fields options config (i + 1) _ rest holds.right, List.map_cons, List.map_cons]
    congr 1
    cases encodes with
    | null => rfl
    | value layout fits text _ => exact textValue_integer host buffer fields field i options config layout fits text holds.left

/-- The binary codes of integer columns read the cells' bytes as the cells' values. -/
theorem binaryValues_integers (host : Host) (fields : List ColumnDefinition) (options : Options) (config : Config) :
    ∀ (i : Nat) {columns : List ColumnDefinition} {cells : List IntegerCell}, List.Forall₂ IntegerCell.Encodes columns cells →
      List.zipWith (BinaryParser.binaryValue host fields)
          ((columns.enumFrom i).map fun (j, field) => BinaryParser.readCodeFor field j options config)
          (cells.map IntegerCell.binary) = (cells.map IntegerCell.result).map .ok
  | _, [], [], .nil => rfl
  | i, field :: _, _ :: _, .cons encodes rest => by
    rw [List.enumFrom_cons, List.map_cons, List.map_cons, List.zipWith_cons_cons,
      binaryValues_integers host fields options config (i + 1) rest, List.map_cons, List.map_cons]
    congr 1
    cases encodes with
    | null => rfl
    | value layout fits _ binary => exact binaryValue_integer host fields field i options config layout fits binary

theorem wireBuffer_integer {field : ColumnDefinition} {w : Nat} {signed : Bool}
    (layout : integerLayout field = some (w, signed)) : BinaryParser.wireBuffer field = .readBuffer w := by
  obtain ⟨name, table, columnType, unsigned, decimals, encoding⟩ := field
  cases columnType <;> simp only [integerLayout, reduceCtorEq, Option.some.injEq, Prod.mk.injEq] at layout <;>
    rw [← layout.1] <;> rfl

/-- The binary cells of integer columns are at their columns' widths. -/
theorem fits_of_encodes : ∀ {columns : List ColumnDefinition} {cells : List IntegerCell},
    List.Forall₂ IntegerCell.Encodes columns cells →
    List.Forall₂ (fun field => BinaryParser.CellFits (BinaryParser.wireBuffer field)) columns (cells.map IntegerCell.binary)
  | [], [], .nil => .nil
  | _ :: _, _ :: _, .cons encodes rest => by
    refine .cons ?_ (fits_of_encodes rest)
    cases encodes with
    | null => trivial
    | value layout _ _ binary =>
      simp only [wireBuffer_integer layout, BinaryParser.CellFits, Buffer.length, binary, integerBytes, length_leBytes]

/-- For integer columns (TINY, SHORT, LONG, INT24 and YEAR) the two protocols agree: with no cast
in either parser and distinct column slots, the text row of the values' numerals and the binary
row of their bytes are read to their ends into the same row, which holds the values, `null` for
NULL. -/
theorem integer_rows_agree (host : Host) (options : Options) (config : Config) (fields : List ColumnDefinition)
    (distinct : (columnSlots options fields).Nodup)
    (textCast : TextParser.effectiveTypeCast options config = .absent ∨
      TextParser.effectiveTypeCast options config = .bool true)
    (binaryCast : BinaryParser.castOf options config = none)
    {cells : List IntegerCell} (encodes : List.Forall₂ IntegerCell.Encodes fields cells)
    {p q : Packet} {o o' : Nat} (textCursor : p.offset = .ofNat o)
    (textHolds : p.buffer.Holds o ((cells.map IntegerCell.text).map TextParser.textCell).flatten)
    (status : UInt8) {bits : List UInt8} (bitmapLength : bits.length = (fields.length + 9) / 8)
    (flags : ∀ i (inside : i < cells.length),
      (bits.getD ((i + 2) / 8) 0).toNat.testBit ((i + 2) % 8) = cells[i].value.isNone)
    (binaryCursor : q.offset = .ofNat o')
    (binaryHolds : q.buffer.Holds o' (BinaryParser.binaryRow status bits fields (cells.map IntegerCell.binary))) :
    ∃ row, ((TextParser.compile fields options config).run host fields).run p =
        .ok (row, p.cursorAt (o + ((cells.map IntegerCell.text).map TextParser.textCell).flatten.length)) ∧
      ((BinaryParser.compile fields options config).run host fields).run q =
        .ok (row, q.cursorAt (o' + (BinaryParser.binaryRow status bits fields (cells.map IntegerCell.binary)).length)) ∧
      RowHolds options fields row (cells.map IntegerCell.result) := by
  have lengths : cells.length = fields.length := encodes.length_eq.symm
  have binaryFlags : ∀ i (inside : i < (cells.map IntegerCell.binary).length),
      (bits.getD ((i + 2) / 8) 0).toNat.testBit ((i + 2) % 8) = (cells.map IntegerCell.binary)[i].isNone := fun i inside => by
    have within : i < cells.length := by simpa using inside
    have encoded := (List.forall₂_iff_get.1 encodes).2 i (by omega) within
    simp only [List.get_eq_getElem] at encoded
    rw [List.getElem_map, IntegerCell.isNone_binary encoded, flags i within]
  obtain ⟨-, fills⟩ := fill_columns options fields ((cells.map IntegerCell.result).map .ok) (by simp [lengths]) distinct
  obtain ⟨state, filled, holds⟩ := fills _ (mapM_map_ok _)
  refine ⟨state.row options.rowsAsArray, ?_, ?_, holds⟩
  · rw [TextParser.compile_run textCast _ (by simp [lengths]) textCursor textHolds, TextParser.textCodes, List.enum,
      textValues_integers host p.buffer fields options config 0 o encodes textHolds, filled]
    rfl
  · rw [BinaryParser.compile_run host fields options config binaryCast status bitmapLength binaryFlags
      (fits_of_encodes encodes) binaryCursor binaryHolds, BinaryParser.binaryCodes, List.enum,
      binaryValues_integers host fields options config 0 encodes, filled]
    rfl

/-- A signed TINY `-5` and a NULL YEAR, as the text row `"-5"`, NULL and as the binary row
`0xfb` after a bitmap flagging the second column. -/
theorem integer_rows_agree_on_minus_five :
    let fields : List ColumnDefinition :=
      [⟨"a", "t", .tiny, false, 0, .string "ascii"⟩, ⟨"b", "t", .year, true, 0, .string "ascii"⟩]
    let cells : List IntegerCell := [⟨some (-5), some ⟨[0x2d, 0x35], by decide⟩, some ⟨[0xfb], by decide⟩⟩,
      ⟨none, none, none⟩]
    let text := Packet.new ⟨[0, 0, 0, 0, 2, 0x2d, 0x35, 0xfb], by decide⟩ 0 8
    let binary := Packet.new ⟨[0, 0, 0, 0, 0, 0x08, 0xfb], by decide⟩ 0 7
    ∃ row, ((TextParser.compile fields {} {}).run latin1Host fields).run text = .ok (row, text.cursorAt 8) ∧
      ((BinaryParser.compile fields {} {}).run latin1Host fields).run binary = .ok (row, binary.cursorAt 7) ∧
      RowHolds {} fields row (cells.map IntegerCell.result) :=
  @integer_rows_agree latin1Host {} {}
    [⟨"a", "t", .tiny, false, 0, .string "ascii"⟩, ⟨"b", "t", .year, true, 0, .string "ascii"⟩] (by decide)
    (Or.inl rfl) rfl [⟨some (-5), some ⟨[0x2d, 0x35], by decide⟩, some ⟨[0xfb], by decide⟩⟩, ⟨none, none, none⟩]
    (.cons (.value rfl (by unfold Fits; decide) (by decide) (by decide)) (.cons .null .nil))
    _ _ 4 4 rfl ⟨by decide, [], by decide⟩ 0 [0x08] rfl (by decide) rfl ⟨by decide, [], by decide⟩

end Mysql2Codec.Row
