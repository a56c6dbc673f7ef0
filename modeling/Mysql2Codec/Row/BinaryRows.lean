import Mysql2Codec.Row.BinaryParser
import Mysql2Codec.Row.Assembly
import Mysql2Codec.Packet.RoundTrip

/-! # Binary rows on the wire

What the generated `BinaryRow` function does on a row laid out as the protocol lays it: a status
byte, the NULL bitmap, then the cells of the non-NULL columns at their types' widths.  Two facts
carry it.  `compileColumns_eq` turns the bit that `compile` doubles and wraps at `0x100` into
the position `(i + 2) % 8` of byte `(i + 2) / 8`, and `isNull_bitmap` turns the generated test
`nullBitmaskByte & bit` into that bit of the byte read.  The rest is one run lemma per cell
(`RValue.eval_run`) and an induction over the assignments (`runAssignments_cells`), which
`compile_run_any` puts behind the status byte and the bitmap, under every cast.

A right-hand side's value on its cell is `RValue.value`; without a cast it is `binaryValue`,
the default read of `readCodeFor`'s code: the decoder on the cell, or the cell itself, or its
decoded text (`columnValues_uncast`, from which `compile_run`).
-/

namespace Mysql2Codec.Row

open Js Packet

namespace BinaryParser

/-! ## The null bitmap -/

/-- The assignment `compile` writes for column `i`: its slot, the byte and bit of its flag, and its
right-hand side. -/
def assignmentOf (options : Options) (config : Config) (cast : Option TypeCastFunction) (i : Nat)
    (field : ColumnDefinition) : Assignment :=
  ⟨slotOf options field i, (i + 2) / 8, 2 ^ ((i + 2) % 8), rvalueOf cast field (readCodeFor field i options config)⟩

theorem flag_wraps_at_seven (e : Nat) : 2 ^ e * 2 = 0x100 ↔ e = 7 := by
  rw [← Nat.pow_succ, show (0x100 : Nat) = 2 ^ 8 from rfl]
  exact ⟨fun same => by have := Nat.pow_right_injective (le_refl 2) same; omega, fun seven => by rw [seven]⟩

/-- `compile`'s column loop: doubling the bit and wrapping from `0x100` to the next byte keeps
column `i`'s flag at bit `(i + 2) % 8` of byte `(i + 2) / 8`. -/
theorem compileColumns_eq (options : Options) (config : Config) (cast : Option TypeCastFunction) :
    ∀ (fields : List ColumnDefinition) (i : Nat),
      compileColumns options config cast i (2 ^ ((i + 2) % 8)) ((i + 2) / 8) fields =
        (fields.enumFrom i).map fun (j, field) => assignmentOf options config cast j field
  | [], _ => rfl
  | field :: fields, i => by
    rw [compileColumns, List.enumFrom_cons, List.map_cons, ← compileColumns_eq options config cast fields (i + 1)]
    split
    · next wrap =>
      rw [flag_wraps_at_seven] at wrap
      rw [show (i + 1 + 2) % 8 = 0 by omega, show (i + 1 + 2) / 8 = (i + 2) / 8 + 1 by omega]
      rfl
    · next keep =>
      rw [flag_wraps_at_seven] at keep
      rw [← Nat.pow_succ, show (i + 1 + 2) % 8 = (i + 2) % 8 + 1 by omega, show (i + 1 + 2) / 8 = (i + 2) / 8 by omega]
      rfl

theorem and_two_pow_ne_zero (b j : Nat) : (b &&& 2 ^ j != 0) = b.testBit j := by
  by_cases bit : b.testBit j
  · have set : (b &&& 2 ^ j).testBit j = true := by simp [bit, Nat.testBit_two_pow_self]
    have nonzero : b &&& 2 ^ j ≠ 0 := fun zero => by rw [zero, Nat.zero_testBit] at set; cases set
    simp [bit, nonzero]
  · have zero : b &&& 2 ^ j = 0 := Nat.eq_of_testBit_eq fun i => by
      by_cases same : j = i
      · subst same; simp [bit]
      · simp [Nat.testBit_two_pow, same]
    simp [zero, bit]

theorem toBoolean_ofNat {c : Nat} (small : c ≤ 2 ^ 53) : (JSValue.number (.ofNat c)).toBoolean = (c != 0) := by
  by_cases zero : c = 0
  · subst zero; rfl
  · simp [JSValue.toBoolean, Float64.isNaN_ofNat small, (Float64.isNat_ofNat small).isInt.isZero (by exact_mod_cast zero),
      zero]

/-- The bytes the bitmap reads, as `readInt8` gives them. -/
def bitmapValues (bytes : List UInt8) : List JSValue := bytes.map fun byte => .number (.ofNat byte.toNat)

/-- `nullBitmaskByte{k} & 2 ^ j` is bit `j` of byte `k`. -/
theorem isNull_bitmap {bytes : List UInt8} {k j : Nat} (inside : k < bytes.length) (bit : j < 8) :
    isNull (bitmapValues bytes) k (2 ^ j) = (bytes[k]).toNat.testBit j := by
  have byte : bytes[k].toNat < 256 := bytes[k].toNat_lt_size
  have power : 2 ^ j < 256 := Nat.pow_lt_pow_right (by decide) bit |>.trans_le (by decide)
  have masked : bytes[k].toNat &&& 2 ^ j < 2 ^ 31 := (Nat.and_le_right).trans_lt (by omega)
  simp only [isNull, bitmapValues, List.getD_eq_getElem?_getD, List.getElem?_map, List.getElem?_eq_getElem inside,
    Option.map_some', Option.getD_some, JSValue.toNumber, Float64.and, Float64.toUint32_ofNat (show bytes[k].toNat ≤ 2 ^ 53 by omega),
    Float64.toUint32_ofNat (show 2 ^ j ≤ 2 ^ 53 by omega), Nat.mod_eq_of_lt (show bytes[k].toNat < 2 ^ 32 by omega),
    Nat.mod_eq_of_lt (show 2 ^ j < 2 ^ 32 by omega), Float64.bmod_of_lt masked, Float64.ofInt_natCast,
    toBoolean_ofNat (show bytes[k].toNat &&& 2 ^ j ≤ 2 ^ 53 by omega), and_two_pow_ne_zero]

/-! ## Cells -/

/-- A column's cell on the binary wire: 1, 2, 4 or 8 fixed bytes for the numeric types, nothing
for type NULL, a length-coded block for the others. -/
def wireBuffer (field : ColumnDefinition) : BufferCode :=
  match field.columnType with
  | .tiny => .readBuffer 1
  | .short | .year => .readBuffer 2
  | .long | .int24 | .float => .readBuffer 4
  | .double | .longlong => .readBuffer 8
  | .null => .null
  | _ => .readLengthCodedBuffer

/-- `readCodeFor` reads each column's cell at its wire width. -/
theorem buffer_readCodeFor (field : ColumnDefinition) (i : Nat) (options : Options) (config : Config) :
    (readCodeFor field i options config).buffer = wireBuffer field := by
  obtain ⟨_, _, columnType, _, _, _⟩ := field
  cases columnType <;> rfl

/-- The bytes of a binary cell, as its buffer text reads them: nothing for NULL or for type NULL,
the bytes at a fixed width, else a length-coded block. -/
def binaryCell (buffer : BufferCode) : Option Buffer → List UInt8
  | none => []
  | some cell =>
    match buffer with
    | .readBuffer _ => cell.bytes
    | .readLengthCodedBuffer => lengthCodedBytes cell.length ++ cell.bytes
    | .null => []

/-- A non-NULL cell of a fixed-width type has that width. -/
def CellFits (buffer : BufferCode) : Option Buffer → Prop
  | some cell =>
    match buffer with
    | .readBuffer width => cell.length = width
    | _ => True
  | none => True

/-- What the buffer text gives for a non-NULL cell: the cell, or `null` for type NULL. -/
def cellRead : BufferCode → Buffer → JSValue
  | .null, _ => .null
  | _, cell => .buffer cell

/-- The buffer text of a right-hand side. -/
def RValue.buffer : RValue → BufferCode
  | .binaryField _ _ _ _ buffer | .decoded _ buffer | .raw buffer | .decode buffer _ => buffer

/-- What a right-hand side gives for its column's cell, `none` for a NULL column. -/
def RValue.value (host : Host) (fields : List ColumnDefinition) :
    RValue → Option Buffer → Except JSError JSValue
  | .binaryField column encoding cast defaultCast buffer, cell =>
    BinaryParser.binaryField host column (encoding.eval fields) cast defaultCast
      ((cell.map (cellRead buffer)).getD .null)
  | .decoded d buffer, cell => match cell with
    | none => .ok .null
    | some cell => d.call host (bufferOf? (cellRead buffer cell)) none none
  | .raw buffer, cell => .ok ((cell.map (cellRead buffer)).getD .null)
  | .decode buffer encoding, cell => match cell with
    | none => .ok .null
    | some cell => .string <$> host.decode (cellRead buffer cell) (encoding.eval fields)

/-- What the generated code without a cast is to give for a cell: `null` for NULL; else the
decoder on the cell, or without one the cell itself when the encoding text is `'"binary"'`, else
its decoded text. -/
def binaryValue (host : Host) (fields : List ColumnDefinition) (code : ReadCode) :
    Option Buffer → Except JSError JSValue
  | none => .ok .null
  | some cell =>
    match code.defaultCast with
    | .decoder d => d.call host (bufferOf? (cellRead code.buffer cell)) none none
    | .none =>
      if code.encoding = .literal "binary" then .ok (cellRead code.buffer cell)
      else .string <$> host.decode (cellRead code.buffer cell) (code.encoding.eval fields)

theorem value_rvalueOf_none (host : Host) (fields : List ColumnDefinition) (field : ColumnDefinition)
    (code : ReadCode) (cell : Option Buffer) :
    (rvalueOf none field code).value host fields cell = binaryValue host fields code cell := by
  obtain ⟨buffer, encoding, defaultCast⟩ := code
  cases cell <;> cases defaultCast <;> simp only [rvalueOf, binaryValue] <;> try split
  all_goals rfl

theorem buffer_rvalueOf (cast : Option TypeCastFunction) (field : ColumnDefinition) (code : ReadCode) :
    (rvalueOf cast field code).buffer = code.buffer := by
  obtain ⟨buffer, encoding, defaultCast⟩ := code
  cases cast <;> cases defaultCast <;> simp only [rvalueOf] <;> try split
  all_goals rfl

section Runs

variable {host : Host} {p : Packet} {o : Nat}

/-- The bitmap's bytes read one by one. -/
theorem readBitmap_run : ∀ (bytes : List UInt8) {p : Packet} {o : Nat}, p.offset = .ofNat o →
    p.buffer.Holds o bytes → (readBitmap bytes.length).run p = .ok (bitmapValues bytes, p.cursorAt (o + bytes.length))
  | [], p, o, cursor, _ => by
    rw [List.length_nil, readBitmap, StateT.run_pure, Nat.add_zero, cursorAt_eq_self cursor]
    rfl
  | byte :: bytes, p, o, cursor, holds => by
    have fits := holds.fits
    obtain ⟨value, rest⟩ := holds_tag holds
    rw [List.length_cons] at fits ⊢
    rw [readBitmap, StateT.run_bind, readInt8_run cursor (by omega), ok_bind, value, StateT.run_bind,
      readBitmap_run bytes (offset_cursorAt p _) rest, ok_bind, StateT.run_pure, cursorAt_cursorAt, Nat.add_assoc,
      Nat.add_comm 1]
    rfl

theorem bufferRead_run (buffer : BufferCode) (cell : Buffer) (fits : CellFits buffer (some cell))
    (cursor : p.offset = .ofNat o) (holds : p.buffer.Holds o (binaryCell buffer (some cell))) :
    buffer.read.run p = .ok (cellRead buffer cell, p.cursorAt (o + (binaryCell buffer (some cell)).length)) := by
  cases buffer with
  | readBuffer width =>
    have same : cell.length = width := fits
    subst same
    have holds : p.buffer.Holds o cell.bytes := holds
    show (readBuffer _).run p = .ok (.buffer cell, p.cursorAt (o + cell.length))
    rw [readBuffer_run (n := cell.length) cursor holds.fits, windowBuffer_of_holds holds]
  | readLengthCodedBuffer => exact readLengthCodedBuffer_run cursor holds
  | null =>
    rw [BufferCode.read, StateT.run_pure]
    show Except.ok (JSValue.null, p) = .ok (.null, p.cursorAt (o + 0))
    rw [Nat.add_zero, cursorAt_eq_self cursor]

/-- One right-hand side on its cell: the cell's bytes are read and its value given. -/
theorem RValue.eval_run (fields : List ColumnDefinition) (rvalue : RValue) (cell : Option Buffer)
    (fits : CellFits rvalue.buffer cell) (cursor : p.offset = .ofNat o)
    (holds : p.buffer.Holds o (binaryCell rvalue.buffer cell)) :
    (rvalue.eval host fields cell.isNone).run p =
      (·, p.cursorAt (o + (binaryCell rvalue.buffer cell).length)) <$> rvalue.value host fields cell := by
  cases cell with
  | none =>
    rw [binaryCell, List.length_nil, Nat.add_zero, cursorAt_eq_self cursor]
    cases rvalue <;> simp only [RValue.eval, RValue.value, Option.isNone_none, if_true, StateT.run_pure,
      StateT.run_bind, Option.map_none', Option.getD_none, pure_bind, liftM_run] <;> rfl
  | some cell =>
    have read := bufferRead_run rvalue.buffer cell fits cursor holds
    cases rvalue <;> simp only [RValue.buffer] at read ⊢ <;>
      simp only [RValue.eval, RValue.value, Option.isNone_some, Bool.false_eq_true, if_false, StateT.run_bind,
        read, ok_bind, liftM_run, Option.map_some', Option.getD_some, buffer_cursorAt]
    case raw => rfl
    case decode buffer encoding =>
      cases host.decode (cellRead buffer cell) (encoding.eval fields) <;> rfl

/-- The bytes of the cells, each as its buffer text reads it. -/
def cellBytes (buffers : List BufferCode) (cells : List (Option Buffer)) : List UInt8 :=
  (List.zipWith binaryCell buffers cells).flatten

/-- Each assignment's flag says whether its cell is NULL, and its cell fits its buffer text. -/
def Flagged (bitmap : List JSValue) (assignment : Assignment) (cell : Option Buffer) : Prop :=
  isNull bitmap assignment.nullByte assignment.nullBit = cell.isNone ∧ CellFits assignment.rvalue.buffer cell

/-- The column assignments over cells laid one after the other: the stores of the cells' values,
with the cursor past the last cell. -/
theorem runAssignments_cells (fields : List ColumnDefinition) (bitmap : List JSValue) :
    ∀ {assignments : List Assignment} {cells : List (Option Buffer)} (state : RowState) {p : Packet} {o : Nat},
    List.Forall₂ (Flagged bitmap) assignments cells → p.offset = .ofNat o →
    p.buffer.Holds o (cellBytes (assignments.map (·.rvalue.buffer)) cells) →
    (runAssignments host fields bitmap assignments state).run p =
      (·, p.cursorAt (o + (cellBytes (assignments.map (·.rvalue.buffer)) cells).length)) <$>
        state.fill (List.zipWith (fun assignment cell => (assignment.slot, assignment.rvalue.value host fields cell))
          assignments cells)
  | [], [], state, p, o, .nil, cursor, _ => by
    rw [cellBytes, List.map_nil, List.zipWith_nil_left, List.flatten_nil, List.length_nil, Nat.add_zero, cursorAt_eq_self cursor]
    rfl
  | assignment :: _, cell :: _, state, p, o, .cons ⟨flag, fits⟩ rest, cursor, holds => by
    rw [cellBytes, List.map_cons, List.zipWith_cons_cons, List.flatten_cons] at holds ⊢
    rw [runAssignments, StateT.run_bind, flag, RValue.eval_run fields assignment.rvalue cell fits cursor holds.left,
      List.zipWith_cons_cons, RowState.fill]
    cases assignment.rvalue.value host fields cell with
    | error e => rfl
    | ok v =>
      rw [Except.map_ok, ok_bind, run_liftM, ok_bind]
      cases state.assign v assignment.slot with
      | error e => rfl
      | ok next =>
        rw [ok_bind, ok_bind, runAssignments_cells fields bitmap next rest (offset_cursorAt p _) holds.right]
        simp only [cellBytes, cursorAt_cursorAt, List.length_append, Nat.add_assoc]

end Runs

/-- The codes `readCodeFor` gives the columns. -/
def binaryCodes (options : Options) (config : Config) (fields : List ColumnDefinition) : List ReadCode :=
  fields.enum.map fun (i, field) => readCodeFor field i options config

/-- A binary row on its wire: the status byte, the bitmap, then the cells of the columns, each at
its column's width (nothing for a NULL cell). -/
def binaryRow (status : UInt8) (bits : List UInt8) (fields : List ColumnDefinition) (cells : List (Option Buffer)) :
    List UInt8 :=
  status :: bits ++ cellBytes (fields.map wireBuffer) cells

/-! ## Rows under every cast -/

/-- The assignments `compile` writes for the columns under a cast. -/
def assignmentsOf (options : Options) (config : Config) (cast : Option TypeCastFunction)
    (fields : List ColumnDefinition) : List Assignment :=
  fields.enum.map fun (i, field) => assignmentOf options config cast i field

theorem flagged_assignments (options : Options) (config : Config) (cast : Option TypeCastFunction)
    (fields : List ColumnDefinition) {bits : List UInt8} {cells : List (Option Buffer)}
    (bitmapLength : bits.length = (fields.length + 9) / 8)
    (flags : ∀ i (inside : i < cells.length), (bits.getD ((i + 2) / 8) 0).toNat.testBit ((i + 2) % 8) = cells[i].isNone)
    (fits : List.Forall₂ (fun field => CellFits (wireBuffer field)) fields cells) :
    List.Forall₂ (Flagged (bitmapValues bits)) (assignmentsOf options config cast fields) cells := by
  rw [List.forall₂_iff_get] at fits ⊢
  simp only [assignmentsOf, List.length_map, List.enum_length, List.get_eq_getElem, List.getElem_map,
    List.getElem_enum]
  refine ⟨fits.1, fun i inside inside' => ⟨?_, ?_⟩⟩
  · have byte : (i + 2) / 8 < bits.length := by simp only [List.enum_length] at inside; omega
    rw [assignmentOf, isNull_bitmap byte (Nat.mod_lt _ (by decide)), ← flags i inside', List.getD_eq_getElem?_getD,
      List.getElem?_eq_getElem byte, Option.getD_some]
  · rw [assignmentOf, buffer_rvalueOf, buffer_readCodeFor]
    exact fits.2 i _ inside'

theorem buffers_assignments (options : Options) (config : Config) (cast : Option TypeCastFunction)
    (fields : List ColumnDefinition) :
    (assignmentsOf options config cast fields).map (·.rvalue.buffer) = fields.map wireBuffer := by
  apply List.ext_getElem
  · simp [assignmentsOf]
  · intro i _ _
    simp [assignmentsOf, assignmentOf, buffer_rvalueOf, buffer_readCodeFor]

theorem slots_assignments (options : Options) (config : Config) (cast : Option TypeCastFunction)
    (fields : List ColumnDefinition) :
    (assignmentsOf options config cast fields).map (·.slot) = columnSlots options fields := by
  simp only [assignmentsOf, columnSlots, List.map_map]
  rfl

/-- The values the code `compile` writes for the columns gives on their cells. -/
def columnValues (host : Host) (options : Options) (config : Config) (fields : List ColumnDefinition)
    (cells : List (Option Buffer)) : List (Except JSError JSValue) :=
  List.zipWith (fun assignment cell => assignment.rvalue.value host fields cell)
    (assignmentsOf options config (castOf options config) fields) cells

theorem zipWith_stores (host : Host) (fields : List ColumnDefinition) (assignments : List Assignment)
    (cells : List (Option Buffer)) :
    List.zipWith (fun assignment cell => (assignment.slot, assignment.rvalue.value host fields cell)) assignments cells =
      (assignments.map (·.slot)).zip
        (List.zipWith (fun assignment cell => assignment.rvalue.value host fields cell) assignments cells) := by
  apply List.ext_getElem
  · simp
  · intro i _ _
    simp

/-- Under every cast, the generated function reads a binary row to its end and stores the value
of each column's code on its cell in the column's slot, one after the other. -/
theorem compile_run_any (host : Host) (fields : List ColumnDefinition) (options : Options) (config : Config)
    {p : Packet} {o : Nat} (status : UInt8) {bits : List UInt8}
    {cells : List (Option Buffer)} (bitmapLength : bits.length = (fields.length + 9) / 8)
    (flags : ∀ i (inside : i < cells.length), (bits.getD ((i + 2) / 8) 0).toNat.testBit ((i + 2) % 8) = cells[i].isNone)
    (fits : List.Forall₂ (fun field => CellFits (wireBuffer field)) fields cells)
    (cursor : p.offset = .ofNat o) (holds : p.buffer.Holds o (binaryRow status bits fields cells)) :
    ((compile fields options config).run host fields).run p =
      (fun state => (state.row options.rowsAsArray, p.cursorAt (o + (binaryRow status bits fields cells).length))) <$>
        (startState options fields).fill ((columnSlots options fields).zip (columnValues host options config fields cells)) := by
  obtain ⟨-, rest⟩ := holds_tag holds
  have assignments : (compile fields options config).assignments =
      assignmentsOf options config (castOf options config) fields :=
    compileColumns_eq options config _ fields 0
  have bitmap : (compile fields options config).nullBitmapLength = bits.length := by
    rw [bitmapLength]
    rfl
  have ends : o + 1 + bits.length + (cellBytes (fields.map wireBuffer) cells).length =
      o + (binaryRow status bits fields cells).length := by
    simp only [binaryRow, List.cons_append, List.length_cons, List.length_append]
    omega
  rw [columnValues]
  rw [← buffers_assignments options config (castOf options config)] at rest
  have room := rest.fits
  rw [BinaryProgram.run, StateT.run_bind, readInt8_run cursor (by omega), ok_bind, StateT.run_bind, bitmap,
    readBitmap_run bits (offset_cursorAt p _) rest.left, ok_bind, StateT.run_bind, cursorAt_cursorAt, assignments,
    runAssignments_cells fields _ _ (flagged_assignments options config _ fields bitmapLength flags fits)
      (offset_cursorAt _ _) rest.right, zipWith_stores, slots_assignments, cursorAt_cursorAt, buffers_assignments, ends]
  show (fun x => (x, _)) <$> (startState options fields).fill _ >>=
    (fun q => StateT.run (pure (q.1.row options.rowsAsArray)) q.2) = _
  cases (startState options fields).fill ((columnSlots options fields).zip
    (List.zipWith (fun assignment cell => assignment.rvalue.value host fields cell)
      (assignmentsOf options config (castOf options config) fields) cells)) <;> rfl

/-! ## Without a cast -/

/-- Without a cast every column's value is `binaryValue` of its code on its cell. -/
theorem columnValues_uncast (host : Host) (options : Options) (config : Config) (cast : castOf options config = none)
    (fields : List ColumnDefinition) (cells : List (Option Buffer)) :
    columnValues host options config fields cells =
      List.zipWith (binaryValue host fields) (binaryCodes options config fields) cells := by
  apply List.ext_getElem
  · simp [columnValues, assignmentsOf, binaryCodes]
  · intro i _ _
    simp [columnValues, assignmentsOf, binaryCodes, assignmentOf, cast, value_rvalueOf_none]

/-- Without a cast, the generated function reads a binary row to its end and stores the cells'
values in the column slots, one after the other from the start. -/
theorem compile_run (host : Host) (fields : List ColumnDefinition) (options : Options) (config : Config)
    (cast : castOf options config = none) {p : Packet} {o : Nat} (status : UInt8) {bits : List UInt8}
    {cells : List (Option Buffer)} (bitmapLength : bits.length = (fields.length + 9) / 8)
    (flags : ∀ i (inside : i < cells.length), (bits.getD ((i + 2) / 8) 0).toNat.testBit ((i + 2) % 8) = cells[i].isNone)
    (fits : List.Forall₂ (fun field => CellFits (wireBuffer field)) fields cells)
    (cursor : p.offset = .ofNat o) (holds : p.buffer.Holds o (binaryRow status bits fields cells)) :
    ((compile fields options config).run host fields).run p =
      (fun state => (state.row options.rowsAsArray, p.cursorAt (o + (binaryRow status bits fields cells).length))) <$>
        (startState options fields).fill
          ((columnSlots options fields).zip (List.zipWith (binaryValue host fields) (binaryCodes options config fields) cells)) := by
  rw [compile_run_any host fields options config status bitmapLength flags fits cursor holds,
    columnValues_uncast host options config cast]

end BinaryParser

end Mysql2Codec.Row
