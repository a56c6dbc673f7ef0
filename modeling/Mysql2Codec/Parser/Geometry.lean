import Mysql2Codec.Packet.Spec

/-! # The WKB decoder

`geometry(buffer, offset, length)` skips the four-byte SRID and reads one WKB node with
`parseGeometry`: a byte-order flag and a type, then a point, a line string, a polygon or a
collection whose children are read by the same function.  Every node has its own byte order.

* `Wkb` is a well-formed WKB tree and `Wkb.bytes` its encoding; `Wkb.view` is what `geometry`
  builds from it.
* `repeatM_pieces` is the loop law: a count-controlled loop over pieces laid one after the other
  reads them all.  Points, rings and children are its three instances.
* `parseGeometry_wkb` reads any tree, by induction on the fuel with one case per node kind, and
  `geometry_reads_wkb_trees` puts the SRID in front of it.

`length` is used only to return `null` below four bytes.  The counts of the WKB nodes decide how
far the decoder reads, through the buffer's own bounds checks: a count larger than the cell's
bytes reads the bytes after the cell, which in the text fast path are the next cells of the
packet (`geometry_reads_past_its_cell`).
-/

namespace Mysql2Codec.Parser

open Js Float64 PacketParser Packet

/-! ## Well-formed WKB -/

/-- A point, its two coordinates given by the bits of their doubles. -/
structure WkbPoint where
  x : UInt64
  y : UInt64

/-- A WKB geometry tree: every node has its own byte order; a collection node is a multi-point,
multi-line string, multi-polygon or geometry collection, of type `4 + kind`. -/
inductive Wkb where
  | point (littleEndian : Bool) (p : WkbPoint)
  | lineString (littleEndian : Bool) (points : List WkbPoint)
  | polygon (littleEndian : Bool) (rings : List (List WkbPoint))
  | collection (littleEndian : Bool) (kind : Fin 4) (children : List Wkb)

/-- A 32-bit word, a type or a count, in a node's byte order. -/
def wkbWord (littleEndian : Bool) (n : Nat) : List UInt8 :=
  if littleEndian then leBytes 4 n else beBytes 4 n

/-- A coordinate in a node's byte order. -/
def wkbDouble (littleEndian : Bool) (x : UInt64) : List UInt8 :=
  if littleEndian then leBytes 8 x.toNat else beBytes 8 x.toNat

/-- A point's sixteen bytes, `x` then `y`. -/
def WkbPoint.bytes (littleEndian : Bool) (p : WkbPoint) : List UInt8 :=
  wkbDouble littleEndian p.x ++ wkbDouble littleEndian p.y

/-- A line string's body, or a polygon's ring: the count, then the points. -/
def wkbLine (littleEndian : Bool) (points : List WkbPoint) : List UInt8 :=
  wkbWord littleEndian points.length ++ (points.map (WkbPoint.bytes littleEndian)).flatten

/-- A node's header: the byte order and the type. -/
def wkbHeader (littleEndian : Bool) (type : Nat) : List UInt8 :=
  (if littleEndian then 1 else 0) :: wkbWord littleEndian type

@[simp] theorem length_wkbWord (littleEndian : Bool) (n : Nat) : (wkbWord littleEndian n).length = 4 := by
  cases littleEndian <;> simp [wkbWord]

@[simp] theorem length_wkbHeader (littleEndian : Bool) (type : Nat) :
    (wkbHeader littleEndian type).length = 5 := by
  simp [wkbHeader]

mutual

/-- The WKB encoding of a tree, every node in its own byte order. -/
def Wkb.bytes : Wkb → List UInt8
  | .point littleEndian p => wkbHeader littleEndian 1 ++ p.bytes littleEndian
  | .lineString littleEndian points => wkbHeader littleEndian 2 ++ wkbLine littleEndian points
  | .polygon littleEndian rings =>
    wkbHeader littleEndian 3 ++ wkbWord littleEndian rings.length ++ (rings.map (wkbLine littleEndian)).flatten
  | .collection littleEndian kind children =>
    wkbHeader littleEndian (4 + kind) ++ wkbWord littleEndian children.length ++ Wkb.bytesList children

def Wkb.bytesList : List Wkb → List UInt8
  | [] => []
  | g :: gs => g.bytes ++ Wkb.bytesList gs

end

/-- What `geometry` returns for a point. -/
def WkbPoint.view (p : WkbPoint) : JSValue :=
  .object [("x", .number (ofBits p.x.toNat)), ("y", .number (ofBits p.y.toNat))]

mutual

/-- The value of a tree: `{x, y}` for a point, the list of points of a line string, the list of
rings of a polygon, the list of the children's values for a collection. -/
def Wkb.view : Wkb → JSValue
  | .point _ p => p.view
  | .lineString _ points => .array (points.map WkbPoint.view)
  | .polygon _ rings => .array (rings.map fun ring => .array (ring.map WkbPoint.view))
  | .collection _ _ children => .array (Wkb.viewList children)

def Wkb.viewList : List Wkb → List JSValue
  | [] => []
  | g :: gs => g.view :: Wkb.viewList gs

end

mutual

/-- Every count of the tree fits the 32-bit word that holds it. -/
def Wkb.Valid : Wkb → Prop
  | .point _ _ => True
  | .lineString _ points => points.length < 2 ^ 32
  | .polygon _ rings => rings.length < 2 ^ 32 ∧ ∀ ring ∈ rings, ring.length < 2 ^ 32
  | .collection _ _ children => children.length < 2 ^ 32 ∧ Wkb.ValidList children

def Wkb.ValidList : List Wkb → Prop
  | [] => True
  | g :: gs => g.Valid ∧ Wkb.ValidList gs

end

/-! ## Reading the pieces -/

section Reading

variable {b : Buffer}

/-- A fixed-width read of bytes the buffer holds decodes them. -/
theorem readFixed_holds {i width : Nat} {xs rest : List UInt8} {decode : List UInt8 → Float64}
    (holds : b.Holds i (xs ++ rest)) (length : xs.length = width) :
    b.readFixed (ofNat i) width decode = .ok (decode xs) := by
  subst length
  rw [Buffer.readFixed_ofNat holds.left.fits, holds.left.window]

/-- The 32-bit read that the node's byte order selects returns the word written in that order. -/
theorem readWord_holds {i n : Nat} {rest : List UInt8} (littleEndian : Bool) (small : n < 2 ^ 32)
    (holds : b.Holds i (wkbWord littleEndian n ++ rest)) :
    (if littleEndian then b.readUInt32LE (ofNat i) else b.readUInt32BE (ofNat i)) = .ok (ofNat n) := by
  cases littleEndian
  · rw [if_neg Bool.false_ne_true, Buffer.readUInt32BE, readFixed_holds holds (by simp [wkbWord]),
      wkbWord, if_neg Bool.false_ne_true, bigEndian_beBytes, Nat.mod_eq_of_lt (by omega)]
  · rw [if_pos rfl, Buffer.readUInt32LE, readFixed_holds holds (by simp [wkbWord]),
      wkbWord, if_pos rfl, littleEndian_leBytes_of_lt (by omega)]

/-- The double read that the node's byte order selects returns the written bits. -/
theorem readDouble_holds {i : Nat} {x : UInt64} {rest : List UInt8} (littleEndian : Bool)
    (holds : b.Holds i (wkbDouble littleEndian x ++ rest)) :
    (if littleEndian then b.readDoubleLE else b.readDoubleBE) (ofNat i) = .ok (ofBits x.toNat) := by
  have small : x.toNat < 256 ^ 8 := x.toNat_lt_size
  cases littleEndian
  · rw [if_neg Bool.false_ne_true, Buffer.readDoubleBE, readFixed_holds holds (by simp [wkbDouble]),
      wkbDouble, if_neg Bool.false_ne_true, bigEndian_beBytes, Nat.mod_eq_of_lt small]
  · rw [if_pos rfl, Buffer.readDoubleLE, readFixed_holds holds (by simp [wkbDouble]),
      wkbDouble, if_pos rfl, littleEndian_leBytes_of_lt small]

/-- `readPoint` on a point's bytes: its view, sixteen bytes on. -/
theorem readPoint_holds {i : Nat} {rest : List UInt8} (littleEndian : Bool) (p : WkbPoint)
    (holds : b.Holds i (p.bytes littleEndian ++ rest)) :
    readPoint b littleEndian (ofNat i) = .ok (p.view, ofNat (i + (p.bytes littleEndian).length)) := by
  have fits := holds.fits
  rw [WkbPoint.bytes, List.append_assoc] at holds
  have second := holds.right
  simp only [WkbPoint.bytes, wkbDouble, List.length_append, apply_ite List.length, length_leBytes,
    length_beBytes, ite_self, List.length_append] at fits second ⊢
  have small := Buffer.small_of_le fits
  simp only [readPoint, readDouble_holds littleEndian holds, ofNat_literal,
    ofNat_add_ofNat (show i + 8 ≤ 2 ^ 53 by omega), readDouble_holds littleEndian second, ok_bind,
    ofNat_add_ofNat (show i + 8 + 8 ≤ 2 ^ 53 by omega), Nat.add_assoc]
  rfl

/-- `readCount` on a count's word: the count, four bytes on. -/
theorem readCount_holds {i n : Nat} {rest : List UInt8} (littleEndian : Bool) (small : n < 2 ^ 32)
    (holds : b.Holds i (wkbWord littleEndian n ++ rest)) :
    readCount b littleEndian (ofNat i) = .ok (n, ofNat (i + 4)) := by
  have fits := holds.fits
  have word := readWord_holds littleEndian small holds
  rw [List.length_append, length_wkbWord] at fits
  have next : ofNat i + 4 = ofNat (i + 4) :=
    ofNat_add_ofNat (show i + 4 ≤ 2 ^ 53 by have := Buffer.small_of_le fits; omega)
  cases littleEndian <;> simp only [Bool.false_eq_true, if_false, if_true] at word <;>
    simp only [readCount, Bool.false_eq_true, if_false, if_true, word, ok_bind, next,
      toNat?_ofNat (show n ≤ 2 ^ 53 by omega), Option.getD_some] <;> rfl

/-- The loops of `geometry`, `for (i = n; i > 0; i--)` around a step that reads one piece and
appends its value: over pieces held one after the other, with the count the number of pieces,
the loop reads them all. -/
theorem repeatM_pieces {α : Type} (step : List JSValue × Float64 → Except JSError (List JSValue × Float64))
    (piece : α → List UInt8) (value : α → JSValue) (good : α → Prop)
    (one : ∀ a {i : Nat} (items : List JSValue) {rest : List UInt8}, good a →
      b.Holds i (piece a ++ rest) → step (items, ofNat i) = .ok (items ++ [value a], ofNat (i + (piece a).length))) :
    ∀ (pieces : List α) {i : Nat} (items : List JSValue) {rest : List UInt8}, (∀ a ∈ pieces, good a) →
      b.Holds i ((pieces.map piece).flatten ++ rest) →
      repeatM step pieces.length (items, ofNat i) =
        .ok (items ++ pieces.map value, ofNat (i + ((pieces.map piece).flatten).length))
  | [], i, items, rest, _, _ => by simp [repeatM]
  | a :: as, i, items, rest, goods, holds => by
    rw [List.map_cons, List.flatten_cons, List.append_assoc] at holds
    rw [List.length_cons, repeatM, one a items (goods a (List.mem_cons_self a as)) holds, ok_bind,
      repeatM_pieces step piece value good one as _ (fun a mem => goods a (List.mem_cons_of_mem _ mem))
        holds.right]
    simp only [List.map_cons, List.flatten_cons, List.length_append, List.append_assoc,
      List.singleton_append, Nat.add_assoc]

/-- The loop over `count` points reads them one after the other. -/
theorem readPoints_holds (littleEndian : Bool) (points : List WkbPoint) {i : Nat} {rest : List UInt8}
    (holds : b.Holds i ((points.map (WkbPoint.bytes littleEndian)).flatten ++ rest)) :
    readPoints b littleEndian points.length ([], ofNat i) =
      .ok (points.map WkbPoint.view, ofNat (i + ((points.map (WkbPoint.bytes littleEndian)).flatten).length)) :=
  repeatM_pieces _ (WkbPoint.bytes littleEndian) WkbPoint.view (fun _ => True)
    (fun p _ items _ _ holds => by dsimp only; rw [readPoint_holds littleEndian p holds]; rfl) points []
    (fun _ _ => trivial) holds

/-- `readUInt8` returns the byte the buffer holds. -/
theorem readUInt8_holds {i : Nat} {x : UInt8} {rest : List UInt8} (holds : b.Holds i (x :: rest)) :
    b.readUInt8 (ofNat i) = .ok (ofNat x.toNat) := by
  rw [Buffer.readUInt8, readFixed_holds (show b.Holds i ([x] ++ rest) from holds)
    (show [x].length = 1 from rfl)]
  simp [littleEndian]

/-- The byte-order flag `1` is little-endian and `0` big-endian. -/
theorem toBoolean_order (littleEndian : Bool) :
    (JSValue.number (ofNat (if littleEndian then (1 : UInt8) else 0).toNat)).toBoolean = littleEndian := by
  cases littleEndian <;> rfl

theorem holds_cons_tail {i : Nat} {x : UInt8} {rest : List UInt8} (holds : b.Holds i (x :: rest)) :
    b.Holds (i + 1) rest :=
  Buffer.Holds.right (show b.Holds i ([x] ++ rest) from holds)

/-- What the two reads of a node's header give: the byte order, the type for whatever the
node does next, and the cursor five bytes on. -/
theorem readHeader_holds {i type : Nat} {littleEndian : Bool} {rest : List UInt8}
    (holds : b.Holds i (wkbHeader littleEndian type ++ rest)) (small : type < 2 ^ 32) :
    b.readUInt8 (ofNat i) = .ok (ofNat (if littleEndian then (1 : UInt8) else 0).toNat) ∧
      (∀ {β : Type} (k : Float64 → Except JSError β),
        (if littleEndian then b.readUInt32LE (ofNat (i + 1)) >>= k else b.readUInt32BE (ofNat (i + 1)) >>= k) =
          k (ofNat type)) ∧
      ofNat i + 1 = ofNat (i + 1) ∧ ofNat (i + 1) + 4 = ofNat (i + 5) ∧ b.Holds (i + 5) rest := by
  have fits := holds.fits
  simp only [List.length_append, length_wkbHeader] at fits
  have bound := Buffer.small_of_le fits
  rw [wkbHeader, List.cons_append] at holds
  have word := holds_cons_tail holds
  have read := readWord_holds littleEndian small word
  refine ⟨readUInt8_holds holds, fun k => ?_,
    ofNat_add_ofNat (a := i) (b := 1) (by omega), ofNat_add_ofNat (a := i + 1) (b := 4) (by omega),
    by simpa only [length_wkbWord] using word.right⟩
  cases littleEndian <;> simp only [Bool.false_eq_true, if_false, if_true] at read ⊢ <;> rw [read, ok_bind]

end Reading

/-! ## Trees -/

theorem Wkb.bytesList_eq : ∀ gs : List Wkb, Wkb.bytesList gs = (gs.map Wkb.bytes).flatten
  | [] => rfl
  | g :: gs => by rw [Wkb.bytesList, Wkb.bytesList_eq gs]; rfl

theorem Wkb.viewList_eq : ∀ gs : List Wkb, Wkb.viewList gs = gs.map Wkb.view
  | [] => rfl
  | g :: gs => by rw [Wkb.viewList, Wkb.viewList_eq gs]; rfl

theorem Wkb.validList_iff : ∀ gs : List Wkb, Wkb.ValidList gs ↔ ∀ g ∈ gs, g.Valid
  | [] => by simp [Wkb.ValidList]
  | g :: gs => by simp [Wkb.ValidList, Wkb.validList_iff gs]

section Parsing

variable {b : Buffer}

/-- `parseGeometry` reads any well-formed tree whose encoding is shorter than the fuel: the
tree's view, and the cursor just past its bytes. -/
theorem parseGeometry_wkb : ∀ (fuel : Nat) (g : Wkb) {i : Nat} {rest : List UInt8}, g.Valid →
    b.Holds i (g.bytes ++ rest) → g.bytes.length < fuel →
    parseGeometry b fuel (ofNat i) = .ok (g.view, ofNat (i + g.bytes.length))
  | 0, _, _, _, _, _, enough => absurd enough (Nat.not_lt_zero _)
  | fuel + 1, .point littleEndian p, i, rest, _, holds, _ => by
    rw [Wkb.bytes, List.append_assoc] at holds
    obtain ⟨order, type, first, second, body⟩ := readHeader_holds holds (by norm_num)
    have point := readPoint_holds littleEndian p body
    simp only [parseGeometry, order, ok_bind, first, second, toBoolean_order]
    rw [type]
    simp (disch := omega) only [ofNat_literal, equal_ofNat, decide_True, if_true, point, Wkb.view, Wkb.bytes,
      List.length_append, length_wkbHeader, Nat.add_assoc]
  | fuel + 1, .lineString littleEndian points, i, rest, valid, holds, _ => by
    rw [Wkb.bytes, List.append_assoc] at holds
    obtain ⟨order, type, first, second, body⟩ := readHeader_holds holds (by norm_num)
    rw [wkbLine, List.append_assoc] at body
    have count := readCount_holds (n := points.length) littleEndian valid body
    have line := readPoints_holds littleEndian points body.right
    rw [length_wkbWord] at line
    simp only [parseGeometry, order, ok_bind, first, second, toBoolean_order]
    rw [type]
    simp (disch := omega) only [ofNat_literal, equal_ofNat, decide_eq_false, decide_True, if_true,
      if_false, Bool.false_eq_true, count, ok_bind, line, Wkb.view, Wkb.bytes, wkbLine, List.length_append,
      length_wkbHeader, length_wkbWord, Nat.add_assoc]
    rfl
  | fuel + 1, .polygon littleEndian rings, i, rest, valid, holds, _ => by
    obtain ⟨validCount, validRings⟩ := valid
    rw [Wkb.bytes, List.append_assoc, List.append_assoc] at holds
    obtain ⟨order, type, first, second, body⟩ := readHeader_holds holds (by norm_num)
    have count := readCount_holds littleEndian validCount body
    have lines := body.right
    rw [length_wkbWord] at lines
    simp only [parseGeometry, order, ok_bind, first, second, toBoolean_order]
    rw [type]
    simp (disch := omega) only [ofNat_literal, equal_ofNat, decide_eq_false, decide_True, if_true,
      if_false, Bool.false_eq_true, count, ok_bind]
    rw [repeatM_pieces _ (wkbLine littleEndian) (fun ring => .array (ring.map WkbPoint.view))
      (fun ring => ring.length < 2 ^ 32) ?one rings [] validRings lines]
    · simp only [ok_bind, List.nil_append, Wkb.view, Wkb.bytes, List.length_append, length_wkbHeader,
        length_wkbWord, Nat.add_assoc]
      rfl
    case one =>
      intro ring i items rest small holds
      rw [wkbLine, List.append_assoc] at holds
      have points := holds.right
      rw [length_wkbWord] at points
      dsimp only
      rw [readCount_holds littleEndian small holds, ok_bind]
      dsimp only
      rw [readPoints_holds littleEndian ring points, ok_bind, wkbLine, List.length_append, length_wkbWord,
        Nat.add_assoc]
      rfl
  | fuel + 1, .collection littleEndian kind children, i, rest, valid, holds, enough => by
    obtain ⟨validCount, validChildren⟩ := valid
    rw [Wkb.bytes, List.append_assoc, List.append_assoc, Wkb.bytesList_eq] at holds
    rw [Wkb.bytes, Wkb.bytesList_eq, List.length_append, List.length_append, length_wkbHeader,
      length_wkbWord] at enough
    obtain ⟨order, type, first, second, body⟩ := readHeader_holds holds (by omega)
    have count := readCount_holds littleEndian validCount body
    have items := body.right
    rw [length_wkbWord] at items
    have goods : ∀ g ∈ children, g.Valid ∧ g.bytes.length < fuel := fun g mem =>
      ⟨(Wkb.validList_iff children).1 validChildren g mem, by
        have := (List.sublist_flatten_of_mem (List.mem_map_of_mem Wkb.bytes mem)).length_le
        omega⟩
    simp only [parseGeometry, order, ok_bind, first, second, toBoolean_order]
    rw [type]
    simp (disch := omega) only [ofNat_literal, equal_ofNat, decide_eq_false, decide_True, if_true,
      if_false, Bool.false_eq_true, count, ok_bind]
    have collection : (decide (4 + (kind : Nat) = 4) || decide (4 + (kind : Nat) = 5) ||
        decide (4 + (kind : Nat) = 6) || decide (4 + (kind : Nat) = 7)) = true := by
      simp only [Bool.or_eq_true, decide_eq_true_eq]
      omega
    rw [if_pos collection, repeatM_pieces _ Wkb.bytes Wkb.view (fun g => g.Valid ∧ g.bytes.length < fuel) ?one
      children [] goods items]
    · simp only [ok_bind, List.nil_append, Wkb.view, Wkb.viewList_eq, Wkb.bytes, Wkb.bytesList_eq,
        List.length_append, length_wkbHeader, length_wkbWord, Nat.add_assoc]
      rfl
    case one =>
      intro g i items rest good holds
      dsimp only
      rw [parseGeometry_wkb fuel g good.1 holds good.2, ok_bind]
      rfl

/-- `geometry(buffer, o, length)` on a cell that holds a four-byte SRID and then the WKB of any
tree: the tree's value, and the node's reader ends just past the cell. -/
theorem geometry_reads_wkb_trees {o : Nat} (srid : List UInt8) (g : Wkb) (sridLength : srid.length = 4)
    (valid : g.Valid) (holds : b.Holds o (srid ++ g.bytes)) :
    PacketParser.geometry b (some (ofNat o)) (some (ofNat (srid ++ g.bytes).length)) = .ok g.view ∧
      parseGeometry b (b.length + 1) (ofNat (o + 4)) = .ok (g.view, ofNat (o + (srid ++ g.bytes).length)) := by
  have fits := holds.fits
  have body := holds.right
  rw [sridLength, ← List.append_nil g.bytes] at body
  rw [List.length_append, sridLength] at fits ⊢
  have small := Buffer.small_of_le fits
  have header : 5 ≤ g.bytes.length := by cases g <;> simp [Wkb.bytes]
  have read := parseGeometry_wkb (b.length + 1) g valid body (by omega)
  rw [← Nat.add_assoc]
  have positive : (ofNat (4 + g.bytes.length)).isZero = false :=
    (isNat_ofNat (show 4 + g.bytes.length ≤ 2 ^ 53 by omega)).isInt.isZero (by omega)
  refine ⟨?_, read⟩
  simp (disch := omega) only [PacketParser.geometry, defaults, JSValue.toBoolean, positive,
    isNaN_ofNat, Bool.or_self, Bool.not_false, Bool.false_or, lt_ofNat, ofNat_literal, ofNat_add_ofNat,
    decide_eq_false, Bool.false_eq_true, if_false, read]
  rfl

end Parsing

/-- A geometry collection in big-endian order holding a little-endian point `(1, 2)` and a
big-endian line string of the point `(3, 4)`, in a cell at index 2 after its SRID 4326. -/
theorem geometry_reads_a_mixed_order_collection :
    let g : Wkb := .collection false 3
      [.point true ⟨0x3FF0000000000000, 0x4000000000000000⟩,
        .lineString false [⟨0x4008000000000000, 0x4010000000000000⟩]]
    let srid : List UInt8 := [0xE6, 0x10, 0, 0]
    let b : Buffer := ⟨[0xFB, 0xFB] ++ srid ++ g.bytes, by decide⟩
    (srid.length = 4 ∧ g.Valid ∧ b.Holds 2 (srid ++ g.bytes)) ∧
      PacketParser.geometry b (some (ofNat 2)) (some (ofNat (srid ++ g.bytes).length)) = .ok g.view ∧
      parseGeometry b (b.length + 1) (ofNat (2 + 4)) = .ok (g.view, ofNat (2 + (srid ++ g.bytes).length)) :=
  have valid : Wkb.Valid (.collection false 3 [.point true ⟨0x3FF0000000000000, 0x4000000000000000⟩,
      .lineString false [⟨0x4008000000000000, 0x4010000000000000⟩]]) := by
    simp [Wkb.Valid, Wkb.ValidList]
  have holds : Buffer.Holds ⟨[0xFB, 0xFB] ++ [0xE6, 0x10, 0, 0] ++ Wkb.bytes (.collection false 3
      [.point true ⟨0x3FF0000000000000, 0x4000000000000000⟩,
        .lineString false [⟨0x4008000000000000, 0x4010000000000000⟩]]), by decide⟩ 2
      ([0xE6, 0x10, 0, 0] ++ Wkb.bytes (.collection false 3
        [.point true ⟨0x3FF0000000000000, 0x4000000000000000⟩,
          .lineString false [⟨0x4008000000000000, 0x4010000000000000⟩]])) :=
    ⟨by decide, [], by decide⟩
  ⟨⟨rfl, valid, holds⟩, geometry_reads_wkb_trees _ _ rfl valid holds⟩

/-! ## Reading past the cell -/

/-- A cell of thirteen bytes, an SRID and a line string of one point with no room for it,
followed by sixteen bytes of another cell: `geometry` returns the point `(1, 2)` it reads from
those bytes. -/
theorem geometry_reads_past_its_cell :
    (PacketParser.geometry ⟨[0, 0, 0, 0, 1, 2, 0, 0, 0, 1, 0, 0, 0] ++
        [0, 0, 0, 0, 0, 0, 0xf0, 0x3f, 0, 0, 0, 0, 0, 0, 0, 0x40], by decide⟩ (some 0) (some 13)).toOption =
      some (.array [.object [("x", .number (.ofNat 1)), ("y", .number (.ofNat 2))]]) := by
  decide

end Mysql2Codec.Parser
