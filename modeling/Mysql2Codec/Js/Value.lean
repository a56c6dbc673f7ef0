import Mysql2Codec.Js.Buffer

/-! # JavaScript values

The values the codec reads and returns: primitives, `Buffer`s, `Date`s, arrays and plain
objects (rows, `{x, y}` points).  Beside them:

* the coercions the code leans on: `typeof`, `ToNumber`, `ToBoolean` (truthiness), the string
  of a primitive in a template literal, and the `+` and `<` of two values;
* property reads and writes on plain objects: a write makes or replaces an own data property,
  except under the key `__proto__`, whose accessor every plain object inherits
  (`setProperty`);
* `Date`: the constructor `new Date(y, m, d, H, M, S, ms)` through `MakeDay`, `MakeTime` and
  `MakeDate` of ECMA-262.  A `Date` holds its local time value; the host's time zone, which
  turns it into UTC, is not part of the model, so two dates are equal exactly when they were
  built from equal local-time components;
* `Host`: the functions of the environment whose code is not in this repository, taken as
  parameters: `StringParser.decode` and `encode` (iconv-lite), `JSON.parse`, the UTF-8 text of a
  buffer, and `Math.pow`; `latin1Host` is one such host, which encodes `utf8` and `latin1` as
  `iconv-lite` does, for runs on concrete inputs.
-/

namespace Mysql2Codec.Js

/-- A JavaScript value. -/
inductive JSValue where
  | undefined
  | null
  | bool (b : Bool)
  | number (x : Float64)
  | string (s : String)
  | buffer (b : Buffer)
  /-- A `Date` with its local time value in milliseconds, `none` for an invalid date. -/
  | date (time : Option Int)
  | array (items : List JSValue)
  /-- A plain object, its own properties in insertion order. -/
  | object (fields : List (String × JSValue))

namespace JSValue

/-! ## Equality

Structural equality is decided through a Boolean comparison by structural recursion, so that
statements about concrete values close by `decide`. -/

mutual
/-- Structural equality of two values. -/
def beq : JSValue → JSValue → Bool
  | .undefined, .undefined | .null, .null => true
  | .bool a, .bool b => a == b
  | .number a, .number b => decide (a = b)
  | .string a, .string b => a == b
  | .buffer a, .buffer b => decide (a = b)
  | .date a, .date b => a == b
  | .array as, .array bs => beqItems as bs
  | .object as, .object bs => beqFields as bs
  | _, _ => false
def beqItems : List JSValue → List JSValue → Bool
  | [], [] => true
  | a :: as, b :: bs => beq a b && beqItems as bs
  | _, _ => false
def beqFields : List (String × JSValue) → List (String × JSValue) → Bool
  | [], [] => true
  | (k, a) :: as, (l, b) :: bs => k == l && beq a b && beqFields as bs
  | _, _ => false
end

mutual
theorem eq_of_beq : ∀ {a b : JSValue}, beq a b = true → a = b
  | .undefined, b, h | .null, b, h => by cases b <;> first | rfl | cases h
  | .bool _, b, h | .string _, b, h | .date _, b, h => by
    cases b <;> first | cases h | exact congrArg _ (beq_iff_eq.1 h)
  | .number _, b, h | .buffer _, b, h => by
    cases b <;> first | cases h | exact congrArg _ (of_decide_eq_true h)
  | .array _, b, h => by cases b <;> first | cases h | exact congrArg _ (eq_of_beqItems h)
  | .object _, b, h => by cases b <;> first | cases h | exact congrArg _ (eq_of_beqFields h)
theorem eq_of_beqItems : ∀ {as bs : List JSValue}, beqItems as bs = true → as = bs
  | [], [], _ => rfl
  | a :: as, b :: bs, h => by
    obtain ⟨head, tail⟩ := Bool.and_eq_true_iff.1 (show (beq a b && beqItems as bs) = true from h)
    rw [eq_of_beq head, eq_of_beqItems tail]
  | [], _ :: _, h | _ :: _, [], h => by cases h
theorem eq_of_beqFields : ∀ {as bs : List (String × JSValue)}, beqFields as bs = true → as = bs
  | [], [], _ => rfl
  | (k, a) :: as, (l, b) :: bs, h => by
    have h : (k == l && beq a b && beqFields as bs) = true := h
    obtain ⟨⟨key, head⟩, tail⟩ := Bool.and_eq_true_iff.1 h |>.imp_left Bool.and_eq_true_iff.1
    rw [beq_iff_eq.1 key, eq_of_beq head, eq_of_beqFields tail]
  | [], _ :: _, h | _ :: _, [], h => by cases h
end

mutual
theorem beq_self : ∀ a : JSValue, beq a a = true
  | .undefined | .null => rfl
  | .bool _ | .string _ | .date _ => beq_self_eq_true _
  | .number _ | .buffer _ => decide_eq_true rfl
  | .array items => beqItems_self items
  | .object fields => beqFields_self fields
theorem beqItems_self : ∀ as : List JSValue, beqItems as as = true
  | [] => rfl
  | a :: as => show (beq a a && beqItems as as) = true by rw [beq_self, beqItems_self]; rfl
theorem beqFields_self : ∀ as : List (String × JSValue), beqFields as as = true
  | [] => rfl
  | (k, a) :: as => show (k == k && beq a a && beqFields as as) = true by
    rw [beq_self_eq_true, beq_self, beqFields_self]; rfl
end

instance : DecidableEq JSValue := fun a b =>
  decidable_of_iff (beq a b = true) ⟨eq_of_beq, fun h => h ▸ beq_self a⟩

/-- `buf[i]` as a value: the byte's number, or `undefined`. -/
def ofByte? : Option UInt8 → JSValue
  | some byte => .number (.ofNat byte.toNat)
  | none => .undefined

/-- `typeof v`. -/
def typeOf : JSValue → String
  | .undefined => "undefined"
  | .bool _ => "boolean"
  | .number _ => "number"
  | .string _ => "string"
  | _ => "object"

/-- `ToNumber(v)`.  The model's objects, arrays and buffers have no `valueOf` or `toString` of
their own and give NaN, as a plain object does; a date gives its time value. -/
def toNumber : JSValue → Float64
  | .undefined => .nan
  | .null => .zero false
  | .bool b => if b then 1 else 0
  | .number x => x
  | .string s => stringToNumber s
  | .date (some time) => .ofInt time
  | _ => .nan

/-- `ToBoolean(v)`: whether `v` is truthy. -/
def toBoolean : JSValue → Bool
  | .undefined | .null => false
  | .bool b => b
  | .number x => !(x.isNaN || x.isZero)
  | .string s => !s.isEmpty
  | _ => true

/-- The text of a primitive in a template literal or `String(v)`; an object is
`[object Object]`. -/
def text : JSValue → String
  | .undefined => "undefined"
  | .null => "null"
  | .bool b => if b then "true" else "false"
  | .number x => x.toString
  | .string s => s
  | _ => "[object Object]"

/-- `a + b` of two primitives: concatenation if either is a string, numeric addition otherwise. -/
def add : JSValue → JSValue → JSValue
  | .string a, b => .string (a ++ b.text)
  | a, .string b => .string (a.text ++ b)
  | a, b => .number (a.toNumber + b.toNumber)

/-- `v < k` for a number `k`: the value converted by `ToNumber`, and `false` when NaN. -/
def lessThan (v : JSValue) (k : Float64) : Bool := v.toNumber.lt k

/-- `v === k` for a number `k`. -/
def isNumber : JSValue → Nat → Bool
  | .number x, k => x.equal (.ofNat k)
  | _, _ => false

/-- `v === null`. -/
def isNull : JSValue → Bool
  | .null => true
  | _ => false

/-- `obj[key]` of a plain object, `undefined` when absent or not an object. -/
def get : JSValue → String → JSValue
  | .object fields, key => ((fields.find? (·.1 == key)).map (·.2)).getD .undefined
  | _, _ => .undefined

/-- Whether a value is an object (`Type(v)` is Object): a buffer, a date, an array or a plain
object; `null` is not. -/
def isObject : JSValue → Bool
  | .buffer _ | .date _ | .array _ | .object _ => true
  | _ => false

end JSValue

/-- An own data property `key` set to `value`: an existing one keeps its place, a new one comes
last. -/
def setOwnProperty (fields : List (String × JSValue)) (key : String) (value : JSValue) :
    List (String × JSValue) :=
  if fields.any (·.1 == key) then fields.map fun field => if field.1 == key then (key, value) else field
  else fields ++ [(key, value)]

/-- `obj[key] = value` on a plain object, which inherits the `__proto__` accessor of
`Object.prototype`: a store to `__proto__` runs its setter and makes no own property (the setter
replaces the object's prototype with an object or `null` value, which a property list does not
record); any other key sets an own data property. -/
def setProperty (fields : List (String × JSValue)) (key : String) (value : JSValue) :
    List (String × JSValue) :=
  if key = "__proto__" then fields else setOwnProperty fields key value

/-! ## Dates -/

namespace Date

def msPerDay : Int := 86400000

/-- `DayFromYear(y)`: the day number of January 1 of year `y`. -/
def dayFromYear (y : Int) : Int :=
  365 * (y - 1970) + (y - 1969) / 4 - (y - 1901) / 100 + (y - 1601) / 400

def inLeapYear (y : Int) : Bool := (y % 4 == 0 && y % 100 != 0) || y % 400 == 0

/-- The days of year `y` before the first of month `m` (`0` for January). -/
def daysBeforeMonth (y : Int) (m : Nat) : Int :=
  ([0, 31, 59, 90, 120, 151, 181, 212, 243, 273, 304, 334].getD m 0 : Nat) +
    (if inLeapYear y && 2 ≤ m then 1 else 0)

/-- `MakeDay(year, month, date)`, `none` for NaN. -/
def makeDay (year month date : Float64) : Option Int :=
  if year.isFinite && month.isFinite && date.isFinite then
    let ym := year.truncate + month.truncate / 12
    let mn := (month.truncate % 12).toNat
    some (dayFromYear ym + daysBeforeMonth ym mn + date.truncate - 1)
  else none

/-- `MakeTime(hour, min, sec, ms)`, `none` for NaN. -/
def makeTime (hour minute second millisecond : Float64) : Option Int :=
  if hour.isFinite && minute.isFinite && second.isFinite && millisecond.isFinite then
    some (hour.truncate * 3600000 + minute.truncate * 60000 + second.truncate * 1000 +
      millisecond.truncate)
  else none

/-- `TimeClip(MakeDate(day, time))`. -/
def makeDate (day time : Option Int) : Option Int := do
  let t := (← day) * msPerDay + (← time)
  if t.natAbs ≤ 8640000000000000 then some t else none

/-- The year argument of the `Date` constructor: `0` to `99` mean `1900` to `1999`. -/
def fullYear (year : Float64) : Float64 :=
  if year.isFinite && 0 ≤ year.truncate && year.truncate ≤ 99 then .ofInt (1900 + year.truncate)
  else year

/-- The number of days of month `m` (`0` for January) of year `y`. -/
def daysInMonth (y : Int) (m : Nat) : Nat :=
  [31, if inLeapYear y then 29 else 28, 31, 30, 31, 30, 31, 31, 30, 31, 30, 31].getD m 0

/-- A valid `Date` seen through its local getters: `getFullYear()`, `getMonth()`, `getDate()`,
`getHours()`, `getMinutes()`, `getSeconds()` and `getMilliseconds()`. -/
structure Parts where
  year : Int
  month : Nat
  day : Nat
  hours : Nat
  minutes : Nat
  seconds : Nat
  milliseconds : Nat
  month_lt : month < 12
  day_pos : 1 ≤ day
  day_le : day ≤ daysInMonth year month
  hours_lt : hours < 24
  minutes_lt : minutes < 60
  seconds_lt : seconds < 60
  milliseconds_lt : milliseconds < 1000
  deriving DecidableEq

/-- The local time value of the `Date` whose getters return `parts`: `MakeDate(MakeDay(year,
month, day), MakeTime(hours, minutes, seconds, ms))`, the year taken as it is. -/
def Parts.time (parts : Parts) : Int :=
  (dayFromYear parts.year + daysBeforeMonth parts.year parts.month + parts.day - 1) * msPerDay +
    (parts.hours * 3600000 + parts.minutes * 60000 + parts.seconds * 1000 + parts.milliseconds)

/-- `new Date(year, month, day, hours, minutes, seconds, ms)`. -/
def construct (year month day hours minutes seconds ms : Float64) : JSValue :=
  .date (makeDate (makeDay (fullYear year) month day) (makeTime hours minutes seconds ms))

end Date

/-- `new Date(NaN)`, the `INVALID_DATE` of `packet_parser.js`. -/
def invalidDate : JSValue := .date none

/-! ## The host -/

/-- The environment's functions whose code is outside this repository. -/
structure Host where
  /-- `StringParser.decode(buffer, encoding)`, the buffer argument as the value passed. -/
  decode : JSValue → JSValue → Except JSError String
  /-- `StringParser.encode(string, encoding)`. -/
  encode : String → JSValue → Except JSError Buffer
  /-- `JSON.parse(text)`. -/
  jsonParse : String → Except JSError JSValue
  /-- `buffer.toString()`: the UTF-8 text of a buffer. -/
  utf8Text : Buffer → String
  /-- `Math.pow(x, y)`, which ECMA-262 leaves approximate. -/
  pow : Float64 → Float64 → Float64

/-- The bytes `iconv-lite` encodes a string to under the names it knows here: UTF-8 for `utf8`,
one byte per character for `binary` and `latin1`, `?` standing for a character past `U+00FF`. -/
def encodedBytes (s : String) : JSValue → Option (List UInt8)
  | .string "utf8" | .string "utf-8" => some s.toUTF8.data.toList
  | .string "binary" | .string "latin1" =>
    some (s.data.map fun c => if c.toNat < 256 then UInt8.ofNat c.toNat else 0x3f)
  | _ => none

/-- A host whose `decode` gives the bytes of a buffer as Latin-1 characters, as `iconv-lite`
does for `'binary'`, and whose `encode` gives `encodedBytes`, failing as `iconv-lite` does on an
encoding it does not know. -/
def latin1Host : Host where
  decode value _ := match value with
    | .buffer b => .ok (String.mk (b.bytes.map fun byte => Char.ofNat byte.toNat))
    | value => .ok value.text
  encode s encoding := match encodedBytes s encoding with
    | some bytes => if short : bytes.length < 2 ^ 53 then .ok ⟨bytes, short⟩ else .error outOfRange
    | none => .error (.error ("Encoding not recognized: '" ++ encoding.text ++ "'"))
  jsonParse _ := .ok .null
  utf8Text b := String.mk (b.bytes.map fun byte => Char.ofNat byte.toNat)
  pow x _ := x

end Mysql2Codec.Js
