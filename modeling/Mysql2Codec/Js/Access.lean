import Mysql2Codec.Js.Exact
import Mysql2Codec.Js.Buffer

/-! # Buffer accesses at natural offsets

The packet's cursor is a double, and every access through it turns the double back into an
index.  At an offset `ofNat o`, with the access inside the buffer, each Node function is the list
operation it stands for:

* `index`, `readBytes` and the fixed-width readers take the bytes `(bytes.drop o).take width`;
* the integer writers, `writeDoubleLE` and `copy` overwrite the bytes from `o` on;
* `slice` between two such offsets is `(bytes.drop a).take (c - a)`.

A buffer *holds* a list of bytes at `o` when they are a prefix of its bytes from `o` on.  Writes
make a buffer hold what they wrote (`holds_set`), two writes side by side are one write of the
two lists (`set_append`), and a read reads what the buffer holds (`Holds.window`).
-/

namespace Mysql2Codec.Js

open Float64

/-! ## Overwriting -/

/-- Two writes side by side are one write of both lists. -/
theorem overwrite_append {xs ys zs : List UInt8} {n : Nat}
    (fits : n + ys.length + zs.length ≤ xs.length) :
    overwrite (overwrite xs n ys) (n + ys.length) zs = overwrite xs n (ys ++ zs) := by
  have front : (xs.take n ++ ys).length = n + ys.length := by simp; omega
  have outer : n + ys.length + zs.length ≤ (overwrite xs n ys).length := by
    rw [length_overwrite]; omega
  have whole : n + (ys ++ zs).length ≤ xs.length := by simp; omega
  have inner : n + ys.length ≤ xs.length := by omega
  rw [overwrite_of_le outer, overwrite_of_le whole, overwrite_of_le inner, List.take_left' front,
    List.drop_append_eq_append_drop, List.drop_eq_nil_of_le (by omega), List.nil_append,
    List.drop_drop, front]
  simp only [List.append_assoc, List.length_append]
  congr 4
  omega

namespace Buffer

theorem eq_of_bytes {b c : Buffer} (same : b.bytes = c.bytes) : b = c := by
  cases b; cases c; cases same; rfl

@[simp] theorem bytes_set (b : Buffer) (n : Nat) (bytes : List UInt8) :
    (b.set n bytes).bytes = overwrite b.bytes n bytes := rfl

theorem set_append {b : Buffer} {o : Nat} {xs ys : List UInt8} (fits : o + xs.length + ys.length ≤ b.length) :
    (b.set o xs).set (o + xs.length) ys = b.set o (xs ++ ys) :=
  eq_of_bytes (overwrite_append fits)

theorem set_nil (b : Buffer) (o : Nat) : b.set o [] = b :=
  eq_of_bytes (by simp [overwrite])

theorem small_of_le {b : Buffer} {n : Nat} (le : n ≤ b.length) : n ≤ 2 ^ 53 := by
  have := b.length_lt
  unfold length at le
  omega

/-! ## Holding bytes -/

/-- `b` holds `bytes` from index `o` on. -/
def Holds (b : Buffer) (o : Nat) (bytes : List UInt8) : Prop :=
  o ≤ b.length ∧ bytes <+: b.bytes.drop o

variable {b : Buffer} {o : Nat} {xs ys : List UInt8}

theorem Holds.window (h : b.Holds o xs) : (b.bytes.drop o).take xs.length = xs :=
  (List.prefix_iff_eq_take.1 h.2).symm

theorem Holds.fits (h : b.Holds o xs) : o + xs.length ≤ b.length := by
  have prefix_le := h.2.length_le
  have start := h.1
  simp only [List.length_drop] at prefix_le
  unfold length at *
  omega

theorem Holds.left (h : b.Holds o (xs ++ ys)) : b.Holds o xs :=
  ⟨h.1, (List.prefix_append xs ys).trans h.2⟩

theorem Holds.right (h : b.Holds o (xs ++ ys)) : b.Holds (o + xs.length) ys := by
  have fits := h.fits
  obtain ⟨-, rest, same⟩ := h
  refine ⟨by simp at fits; omega, ?_⟩
  rw [← List.drop_drop, ← same, List.append_assoc, List.drop_left' rfl]
  exact List.prefix_append ys rest

theorem Holds.getElem? {byte : UInt8} (h : b.Holds o (byte :: xs)) : b.bytes[o]? = some byte := by
  obtain ⟨-, rest, same⟩ := h
  rw [← List.head?_drop, ← same]
  rfl

theorem holds_set (fits : o + xs.length ≤ b.length) : (b.set o xs).Holds o xs := by
  refine ⟨by simp; omega, ?_⟩
  rw [bytes_set, overwrite_of_le fits, List.append_assoc,
    List.drop_left' (by simp; unfold length at fits; omega)]
  exact List.prefix_append xs _

/-! ## Reading -/

theorem index_ofNat (b : Buffer) {o : Nat} (small : o ≤ 2 ^ 53) : b.index (ofNat o) = b.bytes[o]? := by
  simp [index, toNat?_ofNat small]

theorem readBytes_ofNat {w : Nat} (fits : o + w ≤ b.length) :
    b.readBytes (ofNat o) w = .ok ((b.bytes.drop o).take w) := by
  simp [readBytes, toNat?_ofNat (small_of_le (show o ≤ b.length by omega)), fits]

theorem readFixed_ofNat {w : Nat} {decode : List UInt8 → Float64} (fits : o + w ≤ b.length) :
    b.readFixed (ofNat o) w decode = .ok (decode ((b.bytes.drop o).take w)) := by
  simp [readFixed, readBytes_ofNat fits, Except.map]

/-- `adjustOffset` of a natural offset clamps it to the length. -/
theorem adjustOffset_ofNat {a : Nat} (length : Nat) (small : a ≤ 2 ^ 53) :
    adjustOffset (ofNat a) length = min a length := by
  have h := isNat_ofNat small
  simp [adjustOffset, h.isNaN, h.isInfinite, h.truncate, show ¬(a : Int) < 0 by omega]

theorem bytes_slice_ofNat {a c : Nat} (le : a ≤ c) (fits : c ≤ b.length) :
    (b.slice (ofNat a) (some (ofNat c))).bytes = (b.bytes.drop a).take (c - a) := by
  simp only [slice, adjustOffset_ofNat _ (small_of_le (show a ≤ b.length by omega)),
    adjustOffset_ofNat _ (small_of_le fits), Nat.min_eq_left fits,
    Nat.min_eq_left (show a ≤ b.length by omega), List.drop_take]

/-! ## Writing -/

theorem writeInteger_ofNat {value : Float64} {v : Int} {w : Nat} {min max : Int}
    (hv : IsInt value v) (lower : min ≤ v) (upper : v ≤ max)
    (bounds : min.natAbs ≤ 2 ^ 53 ∧ max.natAbs ≤ 2 ^ 53) (fits : o + w ≤ b.length) :
    b.writeInteger value (ofNat o) w min max = .ok (b.set o (leBytes w (v % 2 ^ 32).toNat)) := by
  have above : (ofInt max).lt value = false := by
    rw [lt_of_isInt (isInt_ofInt bounds.2) hv]
    exact decide_eq_false (by omega)
  have below : value.lt (ofInt min) = false := by
    rw [lt_of_isInt hv (isInt_ofInt bounds.1)]
    exact decide_eq_false (by omega)
  simp [writeInteger, above, below, toNat?_ofNat (small_of_le (show o ≤ b.length by omega)), fits,
    hv.toUint32]

theorem writeInt32LE_ofNat {value : Float64} {v : Int} (hv : IsInt value v)
    (range : -2 ^ 31 ≤ v ∧ v < 2 ^ 31) (fits : o + 4 ≤ b.length) :
    b.writeInt32LE value (ofNat o) = .ok (b.set o (leBytes 4 (v % 2 ^ 32).toNat)) :=
  writeInteger_ofNat hv (by omega) (by omega) ⟨by decide, by decide⟩ fits

theorem writeDoubleLE_ofNat (value : Float64) (fits : o + 8 ≤ b.length) :
    b.writeDoubleLE value (ofNat o) = .ok (b.set o (leBytes 8 value.toBits)) := by
  simp [writeDoubleLE, toNat?_ofNat (small_of_le (show o ≤ b.length by omega)), fits]

theorem copyStart_ofNat {a : Nat} (small : a < 2 ^ 53) : copyStart (ofNat a) = a := by
  have h := isNat_ofNat (show a ≤ 2 ^ 53 by omega)
  have bound : a <<< 1074 ≤ (2 ^ 53 - 1) <<< 1074 := by
    rw [shiftLeft_eq_mul a, shiftLeft_eq_mul (2 ^ 53 - 1)]
    exact Nat.mul_le_mul_right _ (by omega)
  rw [copyStart, h.isFinite, h.2.2, decide_eq_true bound]
  simp [h.1, h.truncate]

theorem copy_ofNat (source : Buffer) (small : o < 2 ^ 53) :
    source.copy b (ofNat o) = .ok (b.set o source.bytes) := by
  simp [copy, copyStart_ofNat small, show ¬(o : Int) < 0 by omega]

end Buffer

end Mysql2Codec.Js
