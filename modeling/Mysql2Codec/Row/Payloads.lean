import Mysql2Codec.Row.TextRows
import Mysql2Codec.Row.BinaryRows

/-! # Rows read from their payloads

Both generated functions, on a row laid out as their protocol lays it, read exactly its bytes and
store one value per column, each in the column's slot, and return a row that holds the values
(`ReadsRow`).  The value a cell gives is its column's default read: `textValues` for a text row,
the decoder called on the packet's buffer at the cell's offset, and `binaryValue` for a binary
row, the decoder called on the cell.  A NULL cell gives `null`; a decoder's error is thrown from
the row.

This holds when `typeCast` is neither `false` nor a function for the text parser, and when no
cast is set for the binary parser (`castOf` is `none`: `binaryCast` neither a function nor `true`
with a `typeCast` function).  With `typeCast: false` the text parser stores each cell's raw
buffer instead.

Under every cast the functions store the values of the codes `compile` wrote.  A `typeCast`
callback that only calls `next()` should then leave every row as it is, and does not: the two
routes differ in where a decoder reads and in when the encoding is looked at.

* In the text parser, `textField` calls the decoder on the packet's buffer at the cell's
  offset, while `castField` calls it on a copy of the cell at offset `0`.  `intAscii` takes its
  `length` argument as an end index, so only the copy reads a long numeral whole.
* In the binary parser without a cast, the choice between the raw cell and its decoded text is
  made on the code text of the encoding: for a column of the default branch that text is
  `fields[i].encoding`, not `'"binary"'`, so the cell is decoded even when the column's encoding
  is `'binary'` at run time.  `CastField` makes the choice on the value and keeps the buffer.
-/

namespace Mysql2Codec.Row

open Js Packet

/-- A seventeen-digit LONGLONG cell under `supportBigNumbers`, and a default-branch column whose
encoding is `'binary'`: on both the pass-through callback changes the row. -/
theorem passThrough_cast_changes_rows :
    let longlong : ColumnDefinition := ⟨"b", "t", .longlong, false, 0, .string "ascii"⟩
    let text := Packet.new ⟨[0, 0, 0, 0, 17] ++ asciiBytes "12345678901234567", by decide⟩ 0 22
    let blob : ColumnDefinition := ⟨"x", "t", .other, false, 0, .string "binary"⟩
    let binary := Packet.new ⟨[0, 0, 0, 0, 0, 0, 2, 0x41, 0x42], by decide⟩ 0 9
    ¬ Agree
        (((TextParser.compile [longlong] { supportBigNumbers := true, typeCast := .bool true } {}).run
          latin1Host [longlong]).run text)
        (((TextParser.compile [longlong]
          { supportBigNumbers := true, typeCast := .function passThrough } {}).run
            latin1Host [longlong]).run text) ∧
      ¬ Agree
        (((BinaryParser.compile [blob] {} {}).run latin1Host [blob]).run binary)
        (((BinaryParser.compile [blob] { binaryCast := .bool true, typeCast := .function passThrough }
          {}).run latin1Host [blob]).run binary) := by
  decide

end Mysql2Codec.Row
