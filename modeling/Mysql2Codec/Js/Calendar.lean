import Mysql2Codec.Js.Exact
import Mysql2Codec.Js.Value

/-! # The `Date` constructor on valid parts

`new Date(y, m, d, H, M, S, ms)` with natural arguments: `fullYear` turns a year below `100` into
`1900` plus it (`effectiveYear`), and on the parts of a valid date the constructor's arithmetic
(`MakeDay`, `MakeTime`, `MakeDate`, `TimeClip`) is exact and gives the time value `Parts.time`
(`construct_parts`), for every year below `2 ^ 16`.
-/

namespace Mysql2Codec.Js.Date

open Float64

/-! ## Months -/

/-- The days before a month's first: at most `335`, the leap year's December. -/
theorem daysBeforeMonth_le (y : Int) (m : Nat) : 0 ≤ daysBeforeMonth y m ∧ daysBeforeMonth y m ≤ 335 := by
  unfold daysBeforeMonth
  have table : ([0, 31, 59, 90, 120, 151, 181, 212, 243, 273, 304, 334].getD m 0 : Nat) ≤ 334 := by
    rcases m with _ | _ | _ | _ | _ | _ | _ | _ | _ | _ | _ | _ | m <;> simp
  split <;> omega

theorem daysInMonth_le (y : Int) (m : Nat) : daysInMonth y m ≤ 31 := by
  unfold daysInMonth
  rcases m with _ | _ | _ | _ | _ | _ | _ | _ | _ | _ | _ | _ | m <;> simp
  split <;> omega

/-! ## `new Date(y, m, d, H, M, S, ms)` -/

/-- The year `new Date` makes of a year argument `y`: `1900 + y` below `100`. -/
def effectiveYear (y : Nat) : Int := if y ≤ 99 then 1900 + y else y

/-- The year argument after `fullYear`. -/
theorem fullYear_ofNat {y : Nat} (small : y ≤ 2 ^ 53) :
    (fullYear (ofNat y)).isFinite = true ∧ (fullYear (ofNat y)).truncate = effectiveYear y := by
  have h := isNat_ofNat small
  unfold fullYear effectiveYear
  simp only [h.isFinite, h.truncate, Bool.true_and, Bool.and_eq_true, decide_eq_true_eq, Nat.cast_nonneg,
    true_and, Nat.cast_le_ofNat]
  by_cases low : y ≤ 99
  · have i := isInt_ofInt (i := 1900 + (y : Int)) (by omega)
    rw [if_pos (by omega), if_pos low]
    exact ⟨i.isFinite, i.truncate⟩
  · rw [if_neg (by omega), if_neg low]
    exact ⟨h.isFinite, h.truncate⟩

/-- `new Date(y, m, d, H, M, S, ms)` on the parts of a valid date whose year is the one `y`
stands for, below `2 ^ 16`: that date, its time value in range. -/
theorem construct_parts (parts : Parts) {y : Nat} (effective : effectiveYear y = parts.year) (year : y < 2 ^ 16) :
    construct (ofNat y) (ofNat parts.month) (ofNat parts.day) (ofNat parts.hours) (ofNat parts.minutes)
      (ofNat parts.seconds) (ofNat parts.milliseconds) = .date (some parts.time) := by
  obtain ⟨finite, truncated⟩ := fullYear_ofNat (show y ≤ 2 ^ 53 by omega)
  have days := daysInMonth_le parts.year parts.month
  have before := daysBeforeMonth_le parts.year parts.month
  have bounds : 0 ≤ parts.year ∧ parts.year < 2 ^ 16 := by
    rw [← effective]; unfold effectiveYear; split <;> omega
  obtain ⟨month, day, dayLe, hours, minutes, seconds, ms⟩ := And.intro parts.month_lt (And.intro parts.day_pos
    (And.intro parts.day_le (And.intro parts.hours_lt (And.intro parts.minutes_lt (And.intro parts.seconds_lt
      parts.milliseconds_lt)))))
  have hm := isNat_ofNat (show parts.month ≤ 2 ^ 53 by omega)
  have hd := isNat_ofNat (show parts.day ≤ 2 ^ 53 by omega)
  have hH := isNat_ofNat (show parts.hours ≤ 2 ^ 53 by omega)
  have hM := isNat_ofNat (show parts.minutes ≤ 2 ^ 53 by omega)
  have hS := isNat_ofNat (show parts.seconds ≤ 2 ^ 53 by omega)
  have hms := isNat_ofNat (show parts.milliseconds ≤ 2 ^ 53 by omega)
  simp only [construct, makeDay, makeTime, makeDate, finite, truncated, effective, hm.isFinite, hm.truncate,
    hd.isFinite, hd.truncate, hH.isFinite, hH.truncate, hM.isFinite, hM.truncate, hS.isFinite, hS.truncate,
    hms.isFinite, hms.truncate, Bool.and_self, if_true, Parts.time,
    show (parts.month : Int) / 12 = 0 by omega, show ((parts.month : Int) % 12).toNat = parts.month by omega,
    add_zero, Option.bind_eq_bind, Option.some_bind, msPerDay]
  rw [if_pos (by unfold dayFromYear; omega)]

end Mysql2Codec.Js.Date
