import Mysql2Codec.Js.Float64
import Mathlib.Tactic.Ring

/-! # Numbers and strings

The conversions between doubles and strings that the codec calls: `Number::toString` (every
`String(x)`, `x.toString()` and template literal of a number), `Number.prototype.toFixed()`,
`parseInt(s, 10)` and `StringToNumber` (`Number(s)`, and the coercion of a string operand of
`<`).  They follow ECMA-262; where the standard leaves `Number::toString` a choice of last digit,
the model takes the one V8 takes, the candidate closest to the value and then the even one.
-/

namespace Mysql2Codec.Js

/-- The decimal numeral of a natural number. -/
def decimal (n : Nat) : String := Nat.repr n

/-- `n` zero digits. -/
def zeros (n : Nat) : String := String.mk (List.replicate n '0')

/-- `WhiteSpace` and `LineTerminator` code points, which `TrimString` removes. -/
def isWhiteSpace (c : Char) : Bool :=
  c.val ∈ [0x09, 0x0A, 0x0B, 0x0C, 0x0D, 0x20, 0xA0, 0x1680, 0x2000, 0x2001, 0x2002, 0x2003,
    0x2004, 0x2005, 0x2006, 0x2007, 0x2008, 0x2009, 0x200A, 0x2028, 0x2029, 0x202F, 0x205F, 0x3000,
    0xFEFF]

def isDecimalDigit (c : Char) : Bool := '0' ≤ c && c ≤ '9'

def digitValue (c : Char) : Nat := c.toNat - '0'.toNat

/-- The value of a string of decimal digits. -/
def digitsValue (digits : List Char) : Nat := digits.foldl (fun n c => 10 * n + digitValue c) 0

theorem digitsValue_foldl (ys : List Char) (a : Nat) :
    ys.foldl (fun n c => 10 * n + digitValue c) a = a * 10 ^ ys.length + digitsValue ys := by
  induction ys generalizing a with
  | nil => simp [digitsValue]
  | cons c ys ih =>
    rw [List.foldl_cons, ih, List.length_cons, pow_succ]
    conv_rhs => rw [digitsValue, List.foldl_cons, ih]
    ring

theorem digitsValue_append (xs ys : List Char) :
    digitsValue (xs ++ ys) = digitsValue xs * 10 ^ ys.length + digitsValue ys := by
  rw [digitsValue, List.foldl_append, digitsValue_foldl]
  rfl

theorem digitsValue_cons (c : Char) (ys : List Char) :
    digitsValue (c :: ys) = digitValue c * 10 ^ ys.length + digitsValue ys := by
  rw [digitsValue, List.foldl_cons, digitsValue_foldl, Nat.mul_zero, Nat.zero_add]

theorem digitValue_lt {c : Char} (digit : isDecimalDigit c = true) : digitValue c < 10 := by
  simp only [isDecimalDigit, Bool.and_eq_true, decide_eq_true_eq] at digit
  have lower : '0'.toNat ≤ c.toNat := digit.1
  have upper : c.toNat ≤ '9'.toNat := digit.2
  simp only [digitValue]
  have : '9'.toNat = '0'.toNat + 9 := rfl
  omega

/-- `k` decimal digits are worth less than `10 ^ k`. -/
theorem digitsValue_lt : ∀ {xs : List Char}, xs.all isDecimalDigit = true →
    digitsValue xs < 10 ^ xs.length
  | [], _ => by decide
  | c :: ys, digits => by
    simp only [List.all_cons, Bool.and_eq_true] at digits
    rw [digitsValue_cons, List.length_cons, pow_succ]
    have := digitsValue_lt digits.2
    have := Nat.mul_le_mul_right (10 ^ ys.length) (Nat.le_of_lt_succ (digitValue_lt digits.1))
    omega

namespace Float64

/-! ## `Number::toString` -/

/-- The same double, compared field by field. -/
def sameAs (x y : Float64) : Bool :=
  x.sign == y.sign && x.biasedExponent == y.biasedExponent && x.fraction == y.fraction

/-- The least `j` with `magnitude * 10 ^ j ≥ 2 ^ 1074`, searched from `j` upward. -/
def fractionDigits (magnitude : Nat) : Nat → Nat → Nat
  | 0, j => j
  | fuel + 1, j => if 1 <<< 1074 ≤ magnitude * 10 ^ j then j else fractionDigits magnitude fuel (j + 1)

/-- The decimal exponent `n` of a positive double `x`: `10 ^ (n - 1) ≤ x < 10 ^ n`. -/
def decimalExponent (x : Float64) : Int :=
  if 1 <<< 1074 ≤ x.magnitude then (decimal (x.magnitude >>> 1074)).length
  else 1 - (fractionDigits x.magnitude 400 1 : Int)

/-- `s * 10 ^ j` rounded to a double. -/
def roundDecimal (s : Nat) (j : Int) : Float64 :=
  if 0 ≤ j then round false (s * 10 ^ j.toNat) 1 else round false s (10 ^ (-j).toNat)

/-- `|s * 10 ^ j - x|`, scaled by `2 ^ 1074 * 10 ^ max (-j) 0`: the distance from a candidate to
the value of `x`, in a unit that is the same for every candidate at the same `j`. -/
def candidateDistance (x : Float64) (s : Nat) (j : Int) : Nat :=
  if 0 ≤ j then Int.natAbs ((s * 10 ^ j.toNat) <<< 1074 - x.magnitude : Int)
  else Int.natAbs ((s <<< 1074 : Nat) - x.magnitude * 10 ^ (-j).toNat : Int)

/-- The digits `s` of the shortest decimal that rounds to a positive double `x`, with `k` digits
at decimal exponent `n`: searched over `k = 1, 2, ...`; at each `k` the two candidates around
`x` are tried, and of the ones that round to `x` the closer, then the even one, is taken. -/
def shortestDigits (x : Float64) (n : Int) : Nat → Nat → Option (Nat × Nat)
  | 0, _ => none
  | fuel + 1, k =>
    let j := n - k
    let below := if 0 ≤ j then (x.magnitude >>> 1074) / 10 ^ j.toNat
      else (x.magnitude * 10 ^ (-j).toNat) >>> 1074
    let fits (s : Nat) := (roundDecimal s j).sameAs x
    let closer :=
      if candidateDistance x below j < candidateDistance x (below + 1) j then below
      else if candidateDistance x (below + 1) j < candidateDistance x below j then below + 1
      else if below % 2 = 0 then below else below + 1
    match fits below, fits (below + 1) with
    | true, true => some (closer, k)
    | true, false => some (below, k)
    | false, true => some (below + 1, k)
    | false, false => shortestDigits x n fuel (k + 1)

/-- Steps 6 to 10 of `Number::toString`: the digits `s` of length `k` at decimal exponent `n`
written out plainly or in exponential form. -/
def formatDecimal (s : String) (k : Nat) (n : Int) : String :=
  let exponent := n - 1
  let exponentPart := "e" ++ (if 0 ≤ exponent then "+" else "-") ++ decimal exponent.natAbs
  if k ≤ n ∧ n ≤ 21 then s ++ zeros (n.toNat - k)
  else if 0 < n ∧ n ≤ 21 then s.take n.toNat ++ "." ++ s.drop n.toNat
  else if -6 < n ∧ n ≤ 0 then "0." ++ zeros (-n).toNat ++ s
  else if k = 1 then s ++ exponentPart
  else s.take 1 ++ "." ++ s.drop 1 ++ exponentPart

/-- `|x|`, for a double that is not NaN. -/
def abs (x : Float64) : Float64 := ofFields false x.biasedExponent x.fraction

/-- `Number::toString` of a positive double. -/
def positiveToString (x : Float64) : String :=
  if x.isInfinite then "Infinity"
  else
    let n := decimalExponent x
    match shortestDigits x n 17 1 with
    | some (s, k) => if s = 10 ^ k then formatDecimal "1" 1 (n + 1) else formatDecimal (decimal s) k n
    | none => formatDecimal (decimal (x.magnitude >>> 1074)) 17 n

/-- `Number::toString(x, 10)`. -/
def toString (x : Float64) : String :=
  if x.isNaN then "NaN"
  else if x.isZero then "0"
  else if x.sign then "-" ++ positiveToString x.abs
  else positiveToString x

/-! ## `Number.prototype.toFixed()` -/

/-- `x.toFixed()`, fraction digits `0`: the integer nearest to `x`, the larger one on a tie, and
`ToString(x)` from `10 ^ 21` on. -/
def toFixed (x : Float64) : String :=
  if !x.isFinite then x.toString
  else
    let sign := if x.sign && !x.isZero then "-" else ""
    if 10 ^ 21 <<< 1074 ≤ x.magnitude then sign ++ x.abs.toString
    else sign ++ decimal ((x.magnitude + 1 <<< 1073) >>> 1074)

end Float64

/-! ## `parseInt(string, 10)` -/

/-- `parseInt(s, 10)`: leading white space and one sign are skipped, then the longest run of
decimal digits is read; no digit at all gives NaN. -/
def parseInt (s : String) : Float64 :=
  let trimmed := s.toList.dropWhile isWhiteSpace
  let negative := trimmed.head? = some '-'
  let unsigned := if trimmed.head? = some '-' ∨ trimmed.head? = some '+' then trimmed.tail
    else trimmed
  let digits := unsigned.takeWhile isDecimalDigit
  if digits.isEmpty then Float64.nan
  else Float64.round negative (digitsValue digits) 1

theorem not_whiteSpace_of_digit {c : Char} (digit : isDecimalDigit c = true) :
    isWhiteSpace c = false := by
  have digits : ∀ n < 10, isWhiteSpace (Char.ofNat (48 + n)) = false := by decide
  simp only [isDecimalDigit, Bool.and_eq_true, decide_eq_true_eq] at digit
  have lower : '0'.toNat ≤ c.toNat := digit.1
  have upper : c.toNat ≤ '9'.toNat := digit.2
  have : '0'.toNat = 48 := rfl
  have : '9'.toNat = 57 := rfl
  rw [← Char.ofNat_toNat c, show c.toNat = 48 + (c.toNat - 48) by omega]
  exact digits _ (by omega)

theorem takeWhile_digits : ∀ {xs : List Char}, xs.all isDecimalDigit = true →
    xs.takeWhile isDecimalDigit = xs
  | [], _ => rfl
  | c :: ys, digits => by
    simp only [List.all_cons, Bool.and_eq_true] at digits
    rw [List.takeWhile_cons, if_pos digits.1, takeWhile_digits digits.2]

/-- `parseInt` reads a string of decimal digits as its value. -/
theorem parseInt_digits {chars : List Char} (nonempty : chars ≠ [])
    (digits : chars.all isDecimalDigit = true) :
    parseInt (String.mk chars) = Float64.ofNat (digitsValue chars) := by
  obtain ⟨c, rest, rfl⟩ := List.exists_cons_of_ne_nil nonempty
  have head : isDecimalDigit c = true := by simp_all
  have sign : c ≠ '-' ∧ c ≠ '+' := by
    constructor <;> rintro rfl <;> revert head <;> decide
  simp only [parseInt, String.toList, List.dropWhile_cons, not_whiteSpace_of_digit head,
    List.head?_cons, Option.some.injEq, sign.1, sign.2, or_self, if_false, Bool.false_eq_true,
    takeWhile_digits digits, decide_False, List.isEmpty_cons, if_false]
  rfl

/-! ## `StringToNumber` -/

/-- The value of a digit string in base `radix` (2, 8 or 16), or `none` if a character is not
a digit of that base. -/
def radixValue (radix : Nat) : List Char → Option Nat
  | [] => some 0
  | c :: rest =>
    let d := if isDecimalDigit c then some (digitValue c)
      else if 'a' ≤ c ∧ c ≤ 'f' then some (c.toNat - 'a'.toNat + 10)
      else if 'A' ≤ c ∧ c ≤ 'F' then some (c.toNat - 'A'.toNat + 10)
      else none
    match d with
    | some d => if d < radix then (radixValue radix rest).map (fun v => d * radix ^ rest.length + v)
      else none
    | none => none

/-- An `ExponentPart` after its `e`: an optional sign and at least one decimal digit. -/
def exponentValue (chars : List Char) : Option Int :=
  let (negative, digits) := match chars with
    | '-' :: rest => (true, rest)
    | '+' :: rest => (false, rest)
    | rest => (false, rest)
  if !digits.isEmpty && digits.all isDecimalDigit then
    some (if negative then -(digitsValue digits : Int) else digitsValue digits)
  else none

/-- `±m * 10 ^ e` rounded to a double; beyond `10 ^ 400` it is an infinity and below
`10 ^ -400` a zero, which no double lies between. -/
def roundScientific (negative : Bool) (m : Nat) (e : Int) : Float64 :=
  let size := ((decimal m).length : Int) + e
  if m = 0 then Float64.zero negative
  else if 400 < size then Float64.infinity negative
  else if size < -400 then Float64.zero negative
  else if 0 ≤ e then Float64.round negative (m * 10 ^ e.toNat) 1
  else Float64.round negative m (10 ^ (-e).toNat)

/-- `StrUnsignedDecimalLiteral`: `Infinity`, or digits with an optional fraction and exponent,
with at least one digit before or after the point. -/
def unsignedDecimalValue (negative : Bool) (chars : List Char) : Option Float64 :=
  if chars = "Infinity".toList then some (Float64.infinity negative) else
  let whole := chars.takeWhile isDecimalDigit
  let afterWhole := chars.dropWhile isDecimalDigit
  let (fraction, afterFraction) := match afterWhole with
    | '.' :: rest => (rest.takeWhile isDecimalDigit, rest.dropWhile isDecimalDigit)
    | rest => ([], rest)
  let exponent := match afterFraction with
    | [] => some 0
    | c :: rest => if c = 'e' ∨ c = 'E' then exponentValue rest else none
  if whole.isEmpty && fraction.isEmpty then none
  else exponent.map fun e =>
    roundScientific negative (digitsValue (whole ++ fraction)) (e - fraction.length)

/-- `StringToNumber`: the trimmed string read as a `StrNumericLiteral`, `0` when empty and NaN
when it is not one. -/
def stringToNumber (s : String) : Float64 :=
  let trimmed := ((s.toList.dropWhile isWhiteSpace).reverse.dropWhile isWhiteSpace).reverse
  let nonDecimal (radix : Nat) (digits : List Char) : Option Float64 :=
    if digits.isEmpty then none else (radixValue radix digits).map (Float64.round false · 1)
  let value := match trimmed with
    | [] => some (Float64.zero false)
    | '0' :: 'x' :: digits | '0' :: 'X' :: digits => nonDecimal 16 digits
    | '0' :: 'o' :: digits | '0' :: 'O' :: digits => nonDecimal 8 digits
    | '0' :: 'b' :: digits | '0' :: 'B' :: digits => nonDecimal 2 digits
    | '-' :: rest => unsignedDecimalValue true rest
    | '+' :: rest => unsignedDecimalValue false rest
    | rest => unsignedDecimalValue false rest
  value.getD Float64.nan

end Mysql2Codec.Js
