import Mysql2Codec.Row.TextParser
import Mysql2Codec.Row.Assembly
import Mysql2Codec.Packet.RoundTrip

/-! # The text parser on well-formed rows

A text row is one cell per column, `0xfb` for NULL and otherwise a length-coded block
(`textCell`).  `RValue.eval_run` is what one right-hand side of the generated code does on its
cell, and `runAssignments_rvalues` runs the stores of a whole row by induction on its cells.
`compile_run_any` joins them under every `typeCast`: the generated function stores the values
of the columns' codes on their cells (`columnValues`) in the columns' slots, and leaves the
cursor past the last cell.  With `typeCast` neither `false` nor a function every column takes
the fast path `textField` (`rvalueOf_fast`), whose values are `textValues` (`compile_run`).
-/

namespace Mysql2Codec.Row

open Js Packet

namespace TextParser

/-- The bytes of a text cell: `0xfb` for NULL, else the length-coded bytes. -/
def textCell : Option Buffer → List UInt8
  | none => [0xfb]
  | some cell => lengthCodedBytes cell.length ++ cell.bytes

/-- What `textField(encoding, defaultCast, packet)` is to give for a cell laid at `o` of
`buffer`: `null` for NULL; else the decoder called on the buffer at the cell's bytes, or without
one the bytes themselves, decoded unless the encoding is binary. -/
def textValue (host : Host) (buffer : Buffer) (encoding : JSValue) (defaultCast : CastCode) (o : Nat) :
    Option Buffer → Except JSError JSValue
  | none => .ok .null
  | some cell =>
    match defaultCast with
    | .decoder d =>
      d.call host (some buffer) (some (.ofNat (o + (lengthCodedBytes cell.length).length))) (some (.ofNat cell.length))
    | .none => if isBinaryEncoding encoding then .ok (.buffer cell) else .string <$> host.decode (.buffer cell) encoding

/-- The values of cells laid one after the other from `o`, one per column code. -/
def textValues (host : Host) (buffer : Buffer) (fields : List ColumnDefinition) :
    Nat → List (EncodingCode × CastCode) → List (Option Buffer) → List (Except JSError JSValue)
  | o, (encoding, defaultCast) :: codes, cell :: cells =>
    textValue host buffer (encoding.eval fields) defaultCast o cell ::
      textValues host buffer fields (o + (textCell cell).length) codes cells
  | _, _, _ => []

section Runs

variable {host : Host} {p : Packet} {o : Nat}

theorem textField_run (encoding : JSValue) (defaultCast : CastCode) (cell : Option Buffer)
    (cursor : p.offset = .ofNat o) (holds : p.buffer.Holds o (textCell cell)) :
    (textField host encoding defaultCast).run p =
      (·, p.cursorAt (o + (textCell cell).length)) <$> textValue host p.buffer encoding defaultCast o cell := by
  cases cell with
  | none =>
    rw [textField, StateT.run_bind, readLengthCodedField_run false cursor (v := none) holds (by simp), ok_bind]
    rfl
  | some cell =>
    have fits := holds.fits
    have same : cell.length = cell.bytes.length := rfl
    simp only [textCell, List.length_append] at holds fits ⊢
    rw [textField, StateT.run_bind, readLength_run (show cell.length < 2 ^ 53 from cell.length_lt) cursor holds, ok_bind]
    simp only [JSValue.isNull, Bool.false_eq_true, if_false]
    have small := Buffer.small_of_le fits
    cases defaultCast with
    | decoder d =>
      simp only [pure_bind, StateT.run_bind, StateT.run_get, buffer_cursorAt, offset_cursorAt, JSValue.toNumber,
        run_liftM, textValue]
      cases d.call host (some p.buffer) (some (.ofNat (o + (lengthCodedBytes cell.length).length)))
        (some (.ofNat cell.length)) with
      | error e => rfl
      | ok v =>
        simp only [ok_bind, StateT.run_bind, StateT.run_set, pure_bind, StateT.run_pure, addLength,
          JSValue.toNumber, Float64.ofNat_add_ofNat (show o + (lengthCodedBytes cell.length).length + cell.length ≤ 2 ^ 53 by omega),
          Nat.add_assoc]
        rfl
    | none =>
      have rest := holds.right
      simp only [pure_bind, StateT.run_bind]
      rw [readBuffer_run (n := cell.length) (offset_cursorAt p _) rest.fits, ok_bind, cursorAt_cursorAt,
        windowBuffer_cursorAt, windowBuffer_of_holds rest, textValue, Nat.add_assoc]
      cases isBinaryEncoding encoding
      · simp only [Bool.false_eq_true, if_false, run_liftM]
        cases host.decode (.buffer cell) encoding <;> rfl
      · rfl

end Runs

/-- The encoding and decoder texts of the columns, as `readCodeFor` returns them. -/
def textCodes (options : Options) (config : Config) (fields : List ColumnDefinition) :
    List (EncodingCode × CastCode) :=
  fields.enum.map fun (i, field) =>
    ((readCodeFor field i options config).encoding, (readCodeFor field i options config).defaultCast)

/-- What a right-hand side gives for its column's cell laid at `o` of `buffer`: the cell itself
(`null` for NULL) for `packet.readLengthCodedBuffer()`; the callback's value on a `CastField` over
the cell for `castField`; `textValue` for `textField`. -/
def RValue.value (host : Host) (fields : List ColumnDefinition) (buffer : Buffer) (o : Nat) :
    RValue → Option Buffer → Except JSError JSValue
  | .readLengthCodedBuffer, cell => .ok ((cell.map .buffer).getD .null)
  | .castField column encoding cast defaultCast _, cell =>
    TextParser.castField host column (encoding.eval fields) cast defaultCast ((cell.map .buffer).getD .null)
  | .textField encoding defaultCast, cell => textValue host buffer (encoding.eval fields) defaultCast o cell

/-- The right-hand side reads its cell as a length-coded block: `castField` is given
`packet.readLengthCodedBuffer()`, as the text `readCodeFor` always has it. -/
def RValue.LengthCoded : RValue → Prop
  | .castField _ _ _ _ buffer => buffer = .readLengthCodedBuffer
  | _ => True

section Runs

variable {host : Host} {p : Packet} {o : Nat}

theorem readLengthCodedBuffer_cell (cell : Option Buffer) (cursor : p.offset = .ofNat o)
    (holds : p.buffer.Holds o (textCell cell)) :
    readLengthCodedBuffer.run p = .ok ((cell.map .buffer).getD .null, p.cursorAt (o + (textCell cell).length)) := by
  cases cell with
  | none =>
    rw [readLengthCodedBuffer, StateT.run_bind, readLengthCodedField_run false cursor (v := none) holds (by simp), ok_bind]
    rfl
  | some cell => exact readLengthCodedBuffer_run cursor holds

/-- One right-hand side on its cell: the cell's bytes are read and its value given. -/
theorem RValue.eval_run (fields : List ColumnDefinition) (rvalue : RValue) (coded : rvalue.LengthCoded)
    (cell : Option Buffer) (cursor : p.offset = .ofNat o) (holds : p.buffer.Holds o (textCell cell)) :
    (rvalue.eval host fields).run p =
      (·, p.cursorAt (o + (textCell cell).length)) <$> rvalue.value host fields p.buffer o cell := by
  have read := readLengthCodedBuffer_cell cell cursor holds
  cases rvalue with
  | readLengthCodedBuffer => exact read
  | castField column encoding cast defaultCast buffer =>
    have coded : buffer = .readLengthCodedBuffer := coded
    subst coded
    rw [RValue.eval, StateT.run_bind, BufferCode.read, read, ok_bind, liftM_run]
    rfl
  | textField encoding defaultCast => exact textField_run (encoding.eval fields) defaultCast cell cursor holds

/-- The values of right-hand sides on cells laid one after the other from `o`. -/
def cellValues (host : Host) (fields : List ColumnDefinition) (buffer : Buffer) :
    Nat → List RValue → List (Option Buffer) → List (Except JSError JSValue)
  | o, rvalue :: rvalues, cell :: cells =>
    rvalue.value host fields buffer o cell :: cellValues host fields buffer (o + (textCell cell).length) rvalues cells
  | _, _, _ => []

/-- The assignments over cells laid one after the other: the stores of the cells' values, with
the cursor past the last cell. -/
theorem runAssignments_rvalues (fields : List ColumnDefinition) :
    ∀ {slots : List Slot} {rvalues : List RValue} {cells : List (Option Buffer)} (state : RowState) {p : Packet} {o : Nat},
    slots.length = cells.length → List.Forall₂ (fun rvalue _ => RValue.LengthCoded rvalue) rvalues cells →
    p.offset = .ofNat o → p.buffer.Holds o (cells.map textCell).flatten →
    (runAssignments host fields (slots.zip rvalues) state).run p =
      (·, p.cursorAt (o + (cells.map textCell).flatten.length)) <$>
        state.fill (slots.zip (cellValues host fields p.buffer o rvalues cells))
  | [], [], [], state, p, o, _, .nil, cursor, _ => by
    rw [List.map_nil, List.flatten_nil, List.length_nil, Nat.add_zero, cursorAt_eq_self cursor]
    rfl
  | slot :: slots, rvalue :: rvalues, cell :: cells, state, p, o, sameSlots, .cons coded rest, cursor, holds => by
    rw [List.map_cons, List.flatten_cons] at holds ⊢
    rw [List.zip_cons_cons, cellValues, List.zip_cons_cons, runAssignments, StateT.run_bind,
      RValue.eval_run fields rvalue coded cell cursor holds.left, RowState.fill]
    cases rvalue.value host fields p.buffer o cell with
    | error e => rfl
    | ok v =>
      rw [Except.map_ok, ok_bind, run_liftM, ok_bind]
      cases state.assign v slot with
      | error e => rfl
      | ok next =>
        rw [ok_bind, ok_bind, runAssignments_rvalues fields next (by simpa using sameSlots) rest (offset_cursorAt p _)
          holds.right]
        simp only [buffer_cursorAt, cursorAt_cursorAt, List.length_append, Nat.add_assoc]
  | [], _, _ :: _, _, _, _, sameSlots, _, _, _ => absurd sameSlots (by simp)
  | _ :: _, _, [], _, _, _, sameSlots, _, _, _ => absurd sameSlots (by simp)

end Runs

/-- The values the code `compile` writes gives on cells laid one after the other from `o`. -/
def columnValues (host : Host) (options : Options) (config : Config) (fields : List ColumnDefinition)
    (buffer : Buffer) (o : Nat) (cells : List (Option Buffer)) : List (Except JSError JSValue) :=
  cellValues host fields buffer o
    (fields.enum.map fun (i, field) => rvalueOf (effectiveTypeCast options config) field i options config) cells

/-- Every cell of a text row is read by `packet.readLengthCodedBuffer()`. -/
theorem buffer_readCodeFor (field : ColumnDefinition) (i : Nat) (options : Options) (config : Config) :
    (readCodeFor field i options config).buffer = .readLengthCodedBuffer := by
  obtain ⟨_, _, columnType, _, _, _⟩ := field
  cases columnType <;> simp [readCodeFor, apply_ite ReadCode.buffer]

theorem lengthCoded_rvalueOf (cast : TypeCast) (field : ColumnDefinition) (i : Nat) (options : Options)
    (config : Config) : (rvalueOf cast field i options config).LengthCoded := by
  unfold rvalueOf
  split
  · trivial
  · exact buffer_readCodeFor field i options config
  · trivial

/-- Under every `typeCast`, the generated function reads a text row to its end and stores the
value of each column's code on its cell in the column's slot, one after the other. -/
theorem compile_run_any {host : Host} {fields : List ColumnDefinition} {options : Options} {config : Config}
    {p : Packet} {o : Nat} (cells : List (Option Buffer)) (lengths : cells.length = fields.length)
    (cursor : p.offset = .ofNat o) (holds : p.buffer.Holds o (cells.map textCell).flatten) :
    ((compile fields options config).run host fields).run p =
      (fun state => (state.row options.rowsAsArray, p.cursorAt (o + (cells.map textCell).flatten.length))) <$>
        (startState options fields).fill
          ((columnSlots options fields).zip (columnValues host options config fields p.buffer o cells)) := by
  have assignments : (compile fields options config).assignments = (columnSlots options fields).zip
      (fields.enum.map fun (i, field) => rvalueOf (effectiveTypeCast options config) field i options config) := by
    simp only [compile, columnSlots, List.zip_map', List.map_map]
  have coded : List.Forall₂ (fun rvalue _ => RValue.LengthCoded rvalue)
      (fields.enum.map fun (i, field) => rvalueOf (effectiveTypeCast options config) field i options config) cells := by
    rw [List.forall₂_iff_get]
    exact ⟨by simp [lengths], fun i _ _ => by simp only [List.get_eq_getElem, List.getElem_map]; exact lengthCoded_rvalueOf _ _ _ _ _⟩
  rw [columnValues, TextProgram.run, StateT.run_bind, assignments,
    runAssignments_rvalues fields _ (by simp [columnSlots, lengths]) coded cursor holds]
  show (fun x => (x, _)) <$> (startState options fields).fill _ >>=
    (fun q => StateT.run (pure (q.1.row options.rowsAsArray)) q.2) = _
  cases (startState options fields).fill ((columnSlots options fields).zip (cellValues host fields p.buffer o
    (fields.enum.map fun (i, field) => rvalueOf (effectiveTypeCast options config) field i options config) cells)) <;>
    rfl

/-! ## The fast path -/

/-- With `typeCast` neither `false` nor a function, every column takes the fast path `textField`. -/
theorem rvalueOf_fast {fields : List ColumnDefinition} {options : Options} {config : Config}
    (cast : effectiveTypeCast options config = .absent ∨ effectiveTypeCast options config = .bool true) :
    (fields.enum.map fun (i, field) => rvalueOf (effectiveTypeCast options config) field i options config) =
      (textCodes options config fields).map fun code => RValue.textField code.1 code.2 := by
  simp only [textCodes, List.map_map, Function.comp_def]
  congr 1
  funext column
  rcases cast with cast | cast <;> simp [rvalueOf, cast]

theorem cellValues_textFields (host : Host) (fields : List ColumnDefinition) (buffer : Buffer) :
    ∀ (o : Nat) (codes : List (EncodingCode × CastCode)) (cells : List (Option Buffer)),
      cellValues host fields buffer o (codes.map fun code => RValue.textField code.1 code.2) cells =
        textValues host buffer fields o codes cells
  | _, [], _ => rfl
  | _, _ :: _, [] => rfl
  | o, (encoding, defaultCast) :: codes, cell :: cells => by
    rw [List.map_cons, cellValues, textValues, cellValues_textFields host fields buffer _ codes cells]
    rfl

/-- The generated text function on a row of cells, on the fast path: the stores of `textValues`,
the values of the cells at their offsets, and the cursor past the last cell. -/
theorem compile_run {host : Host} {fields : List ColumnDefinition} {options : Options} {config : Config}
    (cast : effectiveTypeCast options config = .absent ∨ effectiveTypeCast options config = .bool true)
    {p : Packet} {o : Nat} (cells : List (Option Buffer)) (lengths : cells.length = fields.length)
    (cursor : p.offset = .ofNat o) (holds : p.buffer.Holds o (cells.map textCell).flatten) :
    ((compile fields options config).run host fields).run p =
      (fun state => (state.row options.rowsAsArray, p.cursorAt (o + (cells.map textCell).flatten.length))) <$>
        (startState options fields).fill
          ((columnSlots options fields).zip (textValues host p.buffer fields o (textCodes options config fields) cells)) := by
  rw [compile_run_any cells lengths cursor holds, columnValues, rvalueOf_fast cast, cellValues_textFields]

end TextParser

end Mysql2Codec.Row
