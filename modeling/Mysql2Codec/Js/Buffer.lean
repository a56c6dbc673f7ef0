import Mysql2Codec.Js.NumberString

/-! # Node.js buffers

A `Buffer` is its list of bytes; Node never makes one longer than
`buffer.constants.MAX_LENGTH`, which is below `2 ^ 53`, and the structure keeps that bound.
The functions below are the ones of Node's `lib/buffer.js` and `lib/internal/buffer.js` that
the codec calls, with the JS numbers they take as offsets and values:

* indexing `buf[i]`, which gives `undefined` outside the buffer;
* the fixed-width readers (`readUInt8` ... `readDoubleBE`), one definition `readFixed` that
  checks the bounds the way Node's `boundsError` does;
* the integer writers, one definition `writeInteger` that checks the value's range, then the
  bounds, and stores the low bytes of `ToUint32(value)`; `writeDoubleLE`;
* `copy`, `slice` and `toString('ascii', start, end)` with Node's clamping of their arguments.

Errors are told apart by kind and Node's `code`; the texts of Node's own messages are left out.
-/

namespace Mysql2Codec.Js

/-! ## Errors -/

/-- What a call can throw. -/
inductive JSError where
  /-- `new Error(message)`, thrown by the library itself. -/
  | error (message : String)
  /-- A `TypeError`, such as calling a method that a value does not have. -/
  | typeError (message : String)
  /-- A `RangeError` of Node, with its `code`. -/
  | rangeError (code : String)
  /-- A `SyntaxError`. -/
  | syntaxError (message : String)
  deriving DecidableEq, Repr

/-- Node's `ERR_OUT_OF_RANGE`. -/
def outOfRange : JSError := .rangeError "ERR_OUT_OF_RANGE"

/-- Node's `ERR_BUFFER_OUT_OF_BOUNDS`. -/
def bufferOutOfBounds : JSError := .rangeError "ERR_BUFFER_OUT_OF_BOUNDS"

/-! ## Byte order -/

/-- The natural number of little-endian bytes. -/
def littleEndian : List UInt8 → Nat
  | [] => 0
  | byte :: rest => byte.toNat + 256 * littleEndian rest

/-- The natural number of big-endian bytes. -/
def bigEndian (bytes : List UInt8) : Nat := littleEndian bytes.reverse

/-- The `width` low bytes of `n`, least significant first. -/
def leBytes : Nat → Nat → List UInt8
  | 0, _ => []
  | width + 1, n => UInt8.ofNat (n % 256) :: leBytes width (n / 256)

/-- The `width` low bytes of `n`, most significant first. -/
def beBytes (width n : Nat) : List UInt8 := (leBytes width n).reverse

/-- The bytes of an ASCII string. -/
def asciiBytes (s : String) : List UInt8 := s.toList.map fun c => UInt8.ofNat c.toNat

/-- A `bits`-wide two's complement pattern read as a signed integer. -/
def toSigned (bits n : Nat) : Int := if n < 2 ^ (bits - 1) then n else (n : Int) - 2 ^ bits

@[simp] theorem littleEndian_nil : littleEndian [] = 0 := rfl

@[simp] theorem littleEndian_cons (byte : UInt8) (rest : List UInt8) :
    littleEndian (byte :: rest) = byte.toNat + 256 * littleEndian rest := rfl

@[simp] theorem length_leBytes (width n : Nat) : (leBytes width n).length = width := by
  induction width generalizing n with
  | zero => rfl
  | succ width ih => simp [leBytes, ih]

@[simp] theorem length_beBytes (width n : Nat) : (beBytes width n).length = width := by
  simp [beBytes]

theorem littleEndian_leBytes (width n : Nat) : littleEndian (leBytes width n) = n % 256 ^ width := by
  induction width generalizing n with
  | zero => simp [leBytes, Nat.mod_one]
  | succ width ih =>
    have byte : (UInt8.ofNat (n % 256)).toNat = n % 256 :=
      UInt8.toNat_ofNat_of_lt (Nat.mod_lt _ (by decide))
    rw [leBytes, littleEndian_cons, ih, byte, pow_succ', Nat.mod_mul]

theorem littleEndian_leBytes_of_lt {width n : Nat} (small : n < 256 ^ width) :
    littleEndian (leBytes width n) = n := by
  rw [littleEndian_leBytes, Nat.mod_eq_of_lt small]

/-- The low bytes of a number, split in two runs. -/
theorem leBytes_add (m k n : Nat) : leBytes (m + k) n = leBytes m n ++ leBytes k (n / 256 ^ m) := by
  induction m generalizing n with
  | zero => simp [leBytes]
  | succ m ih =>
    rw [Nat.succ_add, leBytes, leBytes, ih, Nat.div_div_eq_div_mul, pow_succ']
    rfl

theorem leBytes_mod (width n : Nat) : leBytes width (n % 256 ^ width) = leBytes width n := by
  induction width generalizing n with
  | zero => rfl
  | succ width ih =>
    rw [leBytes, leBytes, pow_succ', Nat.mod_mul_right_div_self, ih,
      Nat.mod_mod_of_dvd _ (Dvd.intro _ rfl)]

theorem bigEndian_beBytes (width n : Nat) : bigEndian (beBytes width n) = n % 256 ^ width := by
  simp [bigEndian, beBytes, littleEndian_leBytes]

theorem littleEndian_lt (bytes : List UInt8) : littleEndian bytes < 256 ^ bytes.length := by
  induction bytes with
  | nil => simp
  | cons byte rest ih =>
    rw [littleEndian_cons, List.length_cons, pow_succ]
    have : byte.toNat < 256 := byte.toNat_lt_size
    omega

theorem littleEndian_append (front back : List UInt8) :
    littleEndian (front ++ back) = littleEndian front + 256 ^ front.length * littleEndian back := by
  induction front with
  | nil => simp
  | cons byte rest ih =>
    rw [List.cons_append, littleEndian_cons, littleEndian_cons, ih, List.length_cons, pow_succ]
    rw [Nat.mul_add, ← Nat.mul_assoc, Nat.mul_comm 256 (256 ^ rest.length), Nat.add_assoc]

/-! ## Overwriting a stretch of bytes -/

/-- `xs` with `ys` written from index `n` on, as far as `xs` reaches. -/
def overwrite (xs : List UInt8) (n : Nat) (ys : List UInt8) : List UInt8 :=
  xs.take n ++ ys.take (xs.length - n) ++ xs.drop (n + ys.length)

@[simp] theorem length_overwrite (xs ys : List UInt8) (n : Nat) :
    (overwrite xs n ys).length = xs.length := by
  simp only [overwrite, List.length_append, List.length_take, List.length_drop]
  omega

/-- A write that fits: the prefix, the new bytes, the rest. -/
theorem overwrite_of_le {xs ys : List UInt8} {n : Nat} (fits : n + ys.length ≤ xs.length) :
    overwrite xs n ys = xs.take n ++ ys ++ xs.drop (n + ys.length) := by
  rw [overwrite, List.take_of_length_le (show ys.length ≤ xs.length - n by omega)]

/-! ## Buffers -/

/-- A Node `Buffer`: its bytes, fewer than `2 ^ 53` of them. -/
structure Buffer where
  bytes : List UInt8
  length_lt : bytes.length < 2 ^ 53
  deriving DecidableEq

namespace Buffer

/-- `buf.length`. -/
def length (b : Buffer) : Nat := b.bytes.length

/-- `Buffer.alloc(0)`. -/
def empty : Buffer := ⟨[], by decide⟩

/-- A buffer holding the given bytes, for lists known to be short. -/
def ofList (bytes : List UInt8) (short : bytes.length < 2 ^ 53) : Buffer := ⟨bytes, short⟩

/-- `buf` with `bytes` written from index `n` on, as far as the buffer reaches. -/
def set (b : Buffer) (n : Nat) (bytes : List UInt8) : Buffer :=
  ⟨overwrite b.bytes n bytes, by rw [length_overwrite]; exact b.length_lt⟩

/-- `buf[x]`: the byte at an integer index inside the buffer, `undefined` otherwise. -/
def index (b : Buffer) (x : Float64) : Option UInt8 := x.toNat?.bind (b.bytes[·]?)

/-- Node's `boundsError(offset, buf.length - width)`: a non-integer offset is out of range, and
a buffer shorter than the access is out of bounds. -/
def boundsError (b : Buffer) (offset : Float64) (width : Nat) : JSError :=
  if offset.isIntegral && b.length < width then bufferOutOfBounds else outOfRange

/-- The `width` bytes from `offset` that a fixed-width reader reads: Node reads the first and
the last of them and calls `boundsError` when either is `undefined`. -/
def readBytes (b : Buffer) (offset : Float64) (width : Nat) : Except JSError (List UInt8) :=
  match offset.toNat? with
  | some n =>
    if n + width ≤ b.length then .ok ((b.bytes.drop n).take width)
    else .error (b.boundsError offset width)
  | none => .error (b.boundsError offset width)

/-! ## Fixed-width readers -/

/-- The fixed-width readers: the `width` bytes at `offset`, decoded. -/
def readFixed (b : Buffer) (offset : Float64) (width : Nat) (decode : List UInt8 → Float64) :
    Except JSError Float64 :=
  (b.readBytes offset width).map decode

def readUInt8 (b : Buffer) (offset : Float64) : Except JSError Float64 :=
  b.readFixed offset 1 (fun bytes => .ofNat (littleEndian bytes))

def readUInt16LE (b : Buffer) (offset : Float64) : Except JSError Float64 :=
  b.readFixed offset 2 (fun bytes => .ofNat (littleEndian bytes))

def readUInt32LE (b : Buffer) (offset : Float64) : Except JSError Float64 :=
  b.readFixed offset 4 (fun bytes => .ofNat (littleEndian bytes))

def readUInt32BE (b : Buffer) (offset : Float64) : Except JSError Float64 :=
  b.readFixed offset 4 (fun bytes => .ofNat (bigEndian bytes))

def readInt8 (b : Buffer) (offset : Float64) : Except JSError Float64 :=
  b.readFixed offset 1 (fun bytes => .ofInt (toSigned 8 (littleEndian bytes)))

def readInt16LE (b : Buffer) (offset : Float64) : Except JSError Float64 :=
  b.readFixed offset 2 (fun bytes => .ofInt (toSigned 16 (littleEndian bytes)))

def readInt32LE (b : Buffer) (offset : Float64) : Except JSError Float64 :=
  b.readFixed offset 4 (fun bytes => .ofInt (toSigned 32 (littleEndian bytes)))

def readFloatLE (b : Buffer) (offset : Float64) : Except JSError Float64 :=
  b.readFixed offset 4 (fun bytes => .ofFloat32Bits (littleEndian bytes))

def readDoubleLE (b : Buffer) (offset : Float64) : Except JSError Float64 :=
  b.readFixed offset 8 (fun bytes => .ofBits (littleEndian bytes))

def readDoubleBE (b : Buffer) (offset : Float64) : Except JSError Float64 :=
  b.readFixed offset 8 (fun bytes => .ofBits (bigEndian bytes))

/-! ## Writers -/

/-- Node's integer writers (`writeU_Int8`, `writeU_Int16LE`, `writeU_Int32LE`): `value`, already
`+value`, must lie in `[min, max]` (NaN passes), the `width` bytes must lie in the buffer, and
the low bytes of `ToUint32(value)` are stored little-endian. -/
def writeInteger (b : Buffer) (value offset : Float64) (width : Nat) (min max : Int) :
    Except JSError Buffer :=
  if (Float64.ofInt max).lt value || value.lt (Float64.ofInt min) then .error outOfRange
  else match offset.toNat? with
    | some n =>
      if n + width ≤ b.length then .ok (b.set n (leBytes width value.toUint32))
      else .error (b.boundsError offset width)
    | none => .error (b.boundsError offset width)

def writeUInt8 (b : Buffer) (value offset : Float64) : Except JSError Buffer :=
  b.writeInteger value offset 1 0 0xff

def writeUInt16LE (b : Buffer) (value offset : Float64) : Except JSError Buffer :=
  b.writeInteger value offset 2 0 0xffff

def writeUInt32LE (b : Buffer) (value offset : Float64) : Except JSError Buffer :=
  b.writeInteger value offset 4 0 0xffffffff

def writeInt32LE (b : Buffer) (value offset : Float64) : Except JSError Buffer :=
  b.writeInteger value offset 4 (-0x80000000) 0x7fffffff

/-- `buf.writeDoubleLE(value, offset)`: the bounds, then the eight bytes of the double. -/
def writeDoubleLE (b : Buffer) (value offset : Float64) : Except JSError Buffer :=
  match offset.toNat? with
  | some n =>
    if n + 8 ≤ b.length then .ok (b.set n (leBytes 8 value.toBits))
    else .error (b.boundsError offset 8)
  | none => .error (b.boundsError offset 8)

/-- Node's `toInteger(targetStart, 0)` in `copy`: floored inside the safe integers, `0` for NaN,
the infinities and everything beyond. -/
def copyStart (x : Float64) : Int :=
  if x.isFinite && x.magnitude ≤ (2 ^ 53 - 1) <<< 1074 then
    (if x.sign && !x.isIntegral then x.truncate - 1 else x.truncate)
  else 0

/-- `source.copy(target, targetStart)`: as many bytes as fit from `targetStart` on; a negative
start is out of range. -/
def copy (source target : Buffer) (targetStart : Float64) : Except JSError Buffer :=
  let start := copyStart targetStart
  if start < 0 then .error outOfRange else .ok (target.set start.toNat source.bytes)

/-! ## Slices and text -/

/-- Node's `adjustOffset` for `slice`: truncate, count a negative offset from the end, clamp to
the buffer; NaN is `0`. -/
def adjustOffset (x : Float64) (length : Nat) : Nat :=
  if x.isNaN then 0
  else if x.isInfinite then (if x.sign then 0 else length)
  else if x.truncate < 0 then (x.truncate + length).toNat
  else min x.truncate.toNat length

/-- `buf.slice(start, end)`, `end` defaulting to the length. -/
def slice (b : Buffer) (start : Float64) (stop : Option Float64) : Buffer :=
  let first := adjustOffset start b.length
  let last := match stop with
    | some stop => adjustOffset stop b.length
    | none => b.length
  ⟨(b.bytes.take last).drop first, by
    have := b.length_lt
    simp only [List.length_drop, List.length_take]
    unfold Buffer.length at *
    omega⟩

/-- The character of a byte in Node's `ascii` decoding: the high bit is dropped. -/
def asciiChar (byte : UInt8) : Char := Char.ofNat (byte.toNat % 128)

/-- The start of `buf.toString(encoding, start, end)`: `0` at or below zero and for NaN, the
truncation otherwise. -/
def textStart (start : Float64) : Nat :=
  if start.isNaN || !start.isFinite then (if start.isInfinite && !start.sign then 2 ^ 53 else 0)
  else start.truncate.toNat

/-- The end of `buf.toString(encoding, start, end)`: the length beyond it, the truncation
otherwise, NaN and negative ends giving an empty text. -/
def textEnd (length : Nat) (stop : Float64) : Nat :=
  if stop.isNaN then 0
  else if stop.isInfinite then (if stop.sign then 0 else length)
  else min stop.truncate.toNat length

/-- `buf.toString('ascii', start, end)`. -/
def asciiSlice (b : Buffer) (start stop : Float64) : String :=
  String.mk (((b.bytes.take (textEnd b.length stop)).drop (textStart start)).map asciiChar)

@[simp] theorem length_set (b : Buffer) (n : Nat) (bytes : List UInt8) :
    (b.set n bytes).length = b.length := by
  simp [set, length]

theorem length_slice_le (b : Buffer) (start : Float64) (stop : Option Float64) :
    (b.slice start stop).length ≤ b.length := by
  simp only [slice, length, List.length_drop, List.length_take]
  omega

end Buffer

end Mysql2Codec.Js
